import Dataflow.Proofs.Changes
import Dataflow.Proofs.Lawful

/-!
# Engines mirror the history

What an engine holds is what the history says that it holds: nodes, cached results, computations in
flight and the roll of subscribers. The flights are the departures of the history, each with what
was registered when it took off.
-/

namespace Dataflow

namespace Event

variable {e : Event}

/-- A plain event says nothing about what an engine holds. -/
lemma mute_of_isPlain (h : e.isPlain = true) (host id : String) (s : Slot) (c : Nat) :
    e.ofNode host id = none ∧ e.ofCache host s = none ∧ e.ofFlight host s = none ∧
      e.ofRoll host s c = none := by
  cases e <;> first | exact ⟨rfl, rfl, rfl, rfl⟩ | cases h

/-- The pipeline whose engine the event is about. -/
def host? : Event → Option String
  | .registered host _ _ | .unregistered host _ | .subscribed host _ _ _ => some host
  | .unsubscribed host _ _ | .invalidating _ host _ _ | .takenOff host _ _ => some host
  | .landed host _ _ _ _ | .delivering host _ _ _ _ => some host
  | _ => none

lemma mute_elsewhere {host i : String} (h : e.host? = some host) (hi : host ≠ i) (id : String)
    (s : Slot) (c : Nat) :
    e.ofNode i id = none ∧ e.ofCache i s = none ∧ e.ofFlight i s = none ∧ e.ofRoll i s c = none := by
  cases e <;> cases h <;> simp [ofNode, ofCache, ofFlight, clears, ofLanding, ofDeparture, ofRoll, hi]

lemma not_landed_of_isPlain (h : e.isPlain = true) (host : String) (s : Slot) (ticket : Nat)
    (r : Result) (kept : Bool) : e ≠ .landed host s ticket r kept := by
  rintro rfl
  cases h

/-- An engine becomes another one as the event tells that is logged with it. -/
structure Tells (x : Event) (host : String) (e e' : Engine) : Prop where
  about : x.host? = some host
  nodes : ∀ id, e'.nodes.get? id = (x.ofNode host id).getD (e.nodes.get? id)
  cached : ∀ s, e'.cached s = (x.ofCache host s).getD (e.cached s)
  flying : ∀ s, e'.flying s = (x.ofFlight host s).getD (e.flying s)
  roll : ∀ s c, c ∈ e'.subscribers s ↔
    (x.ofRoll host s c).getD (decide (c ∈ e.subscribers s)) = true

section

variable (host : String) (e : Engine)

lemma tells_takeOff (s : Slot) (ticket : Nat) :
    (takenOff host s ticket).Tells host e (e.takeOff s ticket) where
  about := rfl
  nodes _ := rfl
  cached _ := rfl
  flying j := by
    rw [Engine.flying_takeOff]
    by_cases hj : s = j <;> simp [ofFlight, clears, ofLanding, ofDeparture, hj]
  roll _ _ := decide_eq_true_iff.symm

lemma tells_land (s : Slot) (ticket : Nat) (r : Result) :
    (landed host s ticket r (e.flying s = some ticket)).Tells host e (e.land s ticket r) := by
  obtain ⟨hnodes, -, hsubs, -⟩ := e.land_frame s ticket r
  refine ⟨rfl, fun id => ?_, fun j => ?_, fun j => ?_, fun j c => ?_⟩
  · rw [hnodes]
    rfl
  · rw [Engine.cached_land]
    by_cases hj : s = j
    · subst hj
      by_cases hf : e.flying s = some ticket <;> simp [ofCache, clears, ofLanding, hf]
    · simp [ofCache, clears, ofLanding, hj]
  · rw [Engine.flying_land]
    by_cases hj : s = j
    · subst hj
      by_cases hf : e.flying s = some ticket <;>
        simp [ofFlight, clears, ofLanding, ofDeparture, hf]
    · simp [ofFlight, clears, ofLanding, ofDeparture, hj]
  · unfold Engine.subscribers
    rw [hsubs]
    simp [ofRoll]

lemma tells_register (n : Node) :
    (registered host n (e.nodes.contains n.id)).Tells host e (e.register n) := by
  obtain ⟨hnodes, -, hsubs, -⟩ := e.register_frame n
  refine ⟨rfl, fun id => ?_, fun j => ?_, fun j => ?_, fun j c => ?_⟩
  · rw [hnodes, Table.get?_insert]
    by_cases hid : n.id = id <;> simp [ofNode, hid]
  · rw [Engine.cached_register]
    by_cases hj : n.id = j.node
    · by_cases hc : e.nodes.contains j.node = true <;> simp [ofCache, clears, ofLanding, hj, hc]
    · simp [ofCache, clears, ofLanding, hj]
  · rw [Engine.flying_register]
    by_cases hj : n.id = j.node
    · by_cases hc : e.nodes.contains j.node = true <;>
        simp [ofFlight, clears, ofLanding, ofDeparture, hj, hc]
    · simp [ofFlight, clears, ofLanding, ofDeparture, hj]
  · unfold Engine.subscribers
    rw [hsubs]
    simp [ofRoll]

lemma tells_unregister {id : String} (hn : e.nodes.contains id = true) :
    (unregistered host id).Tells host e (e.unregister id) := by
  obtain ⟨hnodes, -, hsubs, -⟩ := e.unregister_frame id hn
  refine ⟨rfl, fun i => ?_, fun j => ?_, fun j => ?_, fun j c => ?_⟩
  · rw [hnodes, Table.get?_erase]
    by_cases hid : id = i <;> simp [ofNode, hid]
  · rw [Engine.cached_unregister _ _ _ hn]
    by_cases hj : id = j.node <;> simp [ofCache, clears, ofLanding, hj]
  · rw [Engine.flying_unregister _ _ _ hn]
    by_cases hj : id = j.node <;> simp [ofFlight, clears, ofLanding, ofDeparture, hj]
  · unfold Engine.subscribers
    rw [hsubs]
    simp [ofRoll]

lemma tells_subscribe (s : Slot) (c : Nat) (name : String) :
    (subscribed host s c name).Tells host e (e.subscribe s c) where
  about := rfl
  nodes _ := rfl
  cached _ := rfl
  flying _ := rfl
  roll j d := by
    rw [Engine.subscribers_subscribe]
    by_cases hj : s = j
    · subst hj
      by_cases hd : c = d
      · simp [ofRoll, hd]
      · simp [ofRoll, hd, Ne.symm hd]
    · simp [ofRoll, hj]

lemma tells_unsubscribe (s : Slot) (c : Nat) :
    (unsubscribed host s c).Tells host e (e.unsubscribe s c) := by
  obtain ⟨subscriptions, delivered, he⟩ := e.unsubscribe_frame s c
  refine ⟨rfl, fun id => ?_, fun j => ?_, fun j => ?_, fun j d => ?_⟩
  · rw [he]
    rfl
  · rw [he]
    rfl
  · rw [he]
    rfl
  · rw [Engine.subscribers_unsubscribe]
    by_cases hj : s = j
    · subst hj
      by_cases hd : c = d
      · simp [ofRoll, hd]
      · simp [ofRoll, hd, Ne.symm hd]
    · simp [ofRoll, hj]

lemma tells_clearAll (t : Nat) (node : String) (keys : List String) :
    (invalidating t host node keys).Tells host e (e.clearAll node keys) := by
  obtain ⟨hnodes, -, hsubs, -⟩ := e.clearAll_frame node keys
  refine ⟨rfl, fun id => ?_, fun j => ?_, fun j => ?_, fun j c => ?_⟩
  · rw [hnodes]
    rfl
  · rw [Engine.cached_clearAll]
    by_cases hn : node = j.node <;> by_cases hj : j.output ∈ keys <;>
      simp [ofCache, clears, ofLanding, hn, hj]
  · rw [Engine.flying_clearAll]
    by_cases hn : node = j.node <;> by_cases hj : j.output ∈ keys <;>
      simp [ofFlight, clears, ofLanding, ofDeparture, hn, hj]
  · unfold Engine.subscribers
    rw [hsubs]
    simp [ofRoll]

lemma tells_select (p : Policy) (s : Slot) (pass : Pass) (r : Result) :
    (delivering host s pass r (e.select p s r).1).Tells host e (e.select p s r).2 :=
  ⟨rfl, fun _ => rfl, fun _ => rfl, fun _ => rfl, fun _ _ => decide_eq_true_iff.symm⟩

end

end Event

namespace Ledger

open Journal

variable {b b' : Ledger}

structure Mirrors (b : Ledger) : Prop where
  nodes : ∀ host id, (b.engine host).nodes.get? id = node host id b.journal
  cached : ∀ host s, (b.engine host).cached s = cached host s b.journal
  flying : ∀ host s, (b.engine host).flying s = flying host s b.journal
  roll : ∀ host s c, c ∈ (b.engine host).subscribers s ↔ enrolled host s c b.journal = true

lemma Mirrors.contains (h : Mirrors b) (host id : String) :
    (b.engine host).nodes.contains id = (node host id b.journal).isSome := by
  rw [← h.nodes host id]
  rfl

lemma Mirrors.target (h : Mirrors b) (host : String) (s : Slot) :
    (b.engine host).target s = target host s b.journal := by
  unfold Engine.target Engine.node Journal.target
  rw [h.nodes]
  cases node host s.node b.journal with
  | none => rfl
  | some n => rfl

lemma Mirrors.same (h : Mirrors b) (he : ∀ host, (b.engine host).Regated (b'.engine host))
    {new : List Event} (hj : b'.journal = new ++ b.journal)
    (hnew : ∀ e ∈ new, ∀ host id s c, e.ofNode host id = none ∧ e.ofCache host s = none ∧
      e.ofFlight host s = none ∧ e.ofRoll host s c = none) : Mirrors b' := by
  have hroll : ∀ host s c, enrolled host s c (new ++ b.journal) = enrolled host s c b.journal := by
    intro host s c
    unfold enrolled
    rw [List.findSome?_append, List.findSome?_eq_none_iff.mpr fun e he => (hnew e he host "" s c).2.2.2]
    rfl
  constructor
  case nodes =>
    intro host id
    obtain ⟨gates, passes, -, hg⟩ := he host
    rw [hj, node, latest_append _ _ _ fun e he => (hnew e he host id ⟨"", ""⟩ 0).1, hg]
    exact h.nodes host id
  case cached =>
    intro host s
    obtain ⟨gates, passes, -, hg⟩ := he host
    rw [hj, Journal.cached, latest_append _ _ _ fun e he => (hnew e he host "" s 0).2.1, hg]
    exact h.cached host s
  case flying =>
    intro host s
    obtain ⟨gates, passes, -, hg⟩ := he host
    rw [hj, Journal.flying, latest_append _ _ _ fun e he => (hnew e he host "" s 0).2.2.1, hg]
    exact h.flying host s
  case roll =>
    intro host s c
    obtain ⟨gates, passes, -, hg⟩ := he host
    rw [hj, hroll, hg]
    exact h.roll host s c

lemma Mirrors.plain (h : Mirrors b) (hp : b.Plain b') : Mirrors b' := by
  obtain ⟨new, hj, hn⟩ := hp.journal
  exact h.same hp.engine hj fun e he host id s c => Event.mute_of_isPlain (hn e he) host id s c

/-- One engine changes as the event tells that is logged with it. -/
lemma Mirrors.entry (h : Mirrors b) {host : String} {e : Engine} {x : Event}
    (he : ∀ i, b'.engine i = if host = i then e else b.engine i)
    (hj : b'.journal = x :: b.journal) (ht : x.Tells host (b.engine host) e) : Mirrors b' := by
  constructor
  case nodes =>
    intro i id
    rw [he, hj, node, latest_cons]
    by_cases hi : host = i
    · subst hi
      rw [if_pos rfl, ht.nodes, h.nodes]
      rfl
    · rw [if_neg hi, (Event.mute_elsewhere ht.about hi id ⟨"", ""⟩ 0).1]
      exact h.nodes i id
  case cached =>
    intro i s
    rw [he, hj, Journal.cached, latest_cons]
    by_cases hi : host = i
    · subst hi
      rw [if_pos rfl, ht.cached, h.cached]
      rfl
    · rw [if_neg hi, (Event.mute_elsewhere ht.about hi "" s 0).2.1]
      exact h.cached i s
  case flying =>
    intro i s
    rw [he, hj, Journal.flying, latest_cons]
    by_cases hi : host = i
    · subst hi
      rw [if_pos rfl, ht.flying, h.flying]
      rfl
    · rw [if_neg hi, (Event.mute_elsewhere ht.about hi "" s 0).2.2.1]
      exact h.flying i s
  case roll =>
    intro i s c
    rw [he, hj, enrolled_cons]
    by_cases hi : host = i
    · subst hi
      rw [if_pos rfl, ht.roll]
      cases x.ofRoll host s c with
      | some _ => rfl
      | none => simpa using h.roll host s c
    · rw [if_neg hi, (Event.mute_elsewhere ht.about hi "" s c).2.2.2]
      exact h.roll i s c

lemma Mirrors.change (h : Mirrors b) (hc : b.Change b') : Mirrors b' := by
  cases hc with
  | nothing => exact h
  | takeOff host s _ _ => exact h.entry (fun _ => rfl) rfl (Event.tells_takeOff host _ s _)
  | land ticket d c _ _ => exact h.entry (fun _ => rfl) rfl (Event.tells_land d.host _ d.slot ticket _)
  | enlist host n => exact h.entry (fun _ => rfl) rfl (Event.tells_register host _ n)
  | unregister host id hn => exact h.entry (fun _ => rfl) rfl (Event.tells_unregister host _ hn)
  | enrol host s c name _ => exact h.entry (fun _ => rfl) rfl (Event.tells_subscribe host _ s c name)
  | unsubscribe host s c => exact h.entry (fun _ => rfl) rfl (Event.tells_unsubscribe host _ s c)
  | clearKeys t host node keys =>
    exact h.entry (fun _ => rfl) rfl (Event.tells_clearAll host _ t node keys)
  | offer host s pass r _ _ =>
    exact h.entry (fun _ => rfl) rfl (Event.tells_select host _ (b.policy host) s pass r)

lemma Mirrors.move (h : Mirrors b) (hm : Move b b') : Mirrors b' := by
  obtain ⟨m, hc, hp⟩ := hm.change
  exact (h.change hc).plain hp

structure Logged (b : Ledger) : Prop where
  count : b.flights.length = departures b.journal
  target : ∀ ticket d, b.flights[ticket]? = some d → ∃ later earlier,
    b.journal = later ++ .takenOff d.host d.slot ticket :: earlier ∧
      d.target = Journal.target d.host d.slot earlier
  landed : ∀ ticket d r, b.flights[ticket]? = some d → d.landed = some r →
    ∃ kept, .landed d.host d.slot ticket r kept ∈ b.journal
  landing : ∀ host s ticket r kept, .landed host s ticket r kept ∈ b.journal →
    r.id < b.results ∧ ∃ d, b.flights[ticket]? = some d ∧ d.landed = some r ∧ d.host = host ∧
      d.slot = s
  flying : ∀ host s ticket, (b.engine host).flying s = some ticket →
    ∃ d, b.flights[ticket]? = some d ∧ d.landed = none ∧ d.host = host ∧ d.slot = s

/-- No flight takes off or lands, and none is in the way of others that was not before. -/
lemma Logged.same (h : Logged b) (hf : b'.flights = b.flights) (hr : b.results ≤ b'.results)
    {l : List Event} (hj : b'.journal = l ++ b.journal)
    (hd : ∀ e ∈ l, e.isDeparture = false)
    (hl : ∀ e ∈ l, ∀ host s ticket r kept, e ≠ .landed host s ticket r kept)
    (hfl : ∀ host s ticket, (b'.engine host).flying s = some ticket →
      (b.engine host).flying s = some ticket) : Logged b' := by
  constructor
  case count =>
    have hz : departures l = 0 :=
      List.countP_eq_zero.mpr fun e he => by rw [hd e he]; exact Bool.false_ne_true
    rw [hf, hj, h.count, departures, departures, List.countP_append]
    unfold departures at hz
    omega
  case target =>
    intro ticket d ht
    rw [hf] at ht
    obtain ⟨later, earlier, hs, hg⟩ := h.target ticket d ht
    exact ⟨l ++ later, earlier, by rw [hj, hs, List.append_assoc], hg⟩
  case landed =>
    intro ticket d r ht hrd
    rw [hf] at ht
    obtain ⟨kept, hm⟩ := h.landed ticket d r ht hrd
    exact ⟨kept, by rw [hj]; exact List.mem_append_right _ hm⟩
  case landing =>
    intro host s ticket r kept hm
    rw [hj] at hm
    rcases List.mem_append.mp hm with hm | hm
    · exact absurd rfl (hl _ hm host s ticket r kept)
    · obtain ⟨hlt, d, ht, hrest⟩ := h.landing host s ticket r kept hm
      exact ⟨Nat.lt_of_lt_of_le hlt hr, d, by rw [hf]; exact ht, hrest⟩
  case flying =>
    intro host s ticket ht
    rw [hf]
    exact h.flying host s ticket (hfl host s ticket ht)

lemma Logged.plain (h : Logged b) (hp : b.Plain b') : Logged b' := by
  obtain ⟨new, hj, hn⟩ := hp.journal
  refine h.same hp.flights hp.results hj (fun e he => ?_)
    (fun e he => Event.not_landed_of_isPlain (hn e he)) fun host s ticket ht => ?_
  · have hpe := hn e he
    cases e <;> first | rfl | cases hpe
  · obtain ⟨gates, passes, -, hg⟩ := hp.engine host
    rw [hg] at ht
    exact ht

/-- An engine has changed, but for new computations in flight, and an event was logged with it. -/
lemma Logged.entry (h : Logged b) {host : String} {e : Engine} {x : Event}
    (hd : x.isDeparture = false) (hl : ∀ host s ticket r kept, x ≠ .landed host s ticket r kept)
    (hf : ∀ s ticket, e.flying s = some ticket → (b.engine host).flying s = some ticket) :
    Logged ((b.setEngine host e).log x) := by
  refine h.same rfl (Nat.le_refl _) (l := [x]) rfl ?_ ?_ fun i s ticket ht => ?_
  · simpa using hd
  · simpa using hl
  · have hi : (if host = i then e else b.engine i).flying s = some ticket := ht
    by_cases hh : host = i
    · subst hh
      rw [if_pos rfl] at hi
      exact hf s ticket hi
    · rw [if_neg hh] at hi
      exact hi

lemma Logged.takeOff (h : Logged b) (hm : Mirrors b) (host : String) (s : Slot) :
    Logged (b.takeOff host s) := by
  have hflights : (b.takeOff host s).flights =
      b.flights ++ [⟨host, s, (b.engine host).target s, none⟩] := rfl
  have hjournal : (b.takeOff host s).journal =
      .takenOff host s b.flights.length :: b.journal := rfl
  have hcases : ∀ (ticket : Nat) d, (b.takeOff host s).flights[ticket]? = some d →
      b.flights[ticket]? = some d ∨
        ticket = b.flights.length ∧ d = ⟨host, s, (b.engine host).target s, none⟩ := by
    intro ticket d ht
    rw [hflights, List.getElem?_append] at ht
    by_cases hlt : ticket < b.flights.length
    · rw [if_pos hlt] at ht
      exact .inl ht
    · rw [if_neg hlt, List.getElem?_singleton] at ht
      by_cases hz : ticket - b.flights.length = 0
      · rw [if_pos hz] at ht
        cases ht
        exact .inr ⟨by omega, rfl⟩
      · rw [if_neg hz] at ht
        cases ht
  have hold : ∀ (ticket : Nat) d, b.flights[ticket]? = some d →
      (b.takeOff host s).flights[ticket]? = some d := by
    intro ticket d ht
    rw [hflights, List.getElem?_append_left (List.getElem?_eq_some_iff.mp ht).1, ht]
  constructor
  case count =>
    rw [hflights, hjournal, List.length_append, departures_cons, h.count]
    rfl
  case target =>
    intro ticket d ht
    rcases hcases ticket d ht with ht | ⟨rfl, rfl⟩
    · obtain ⟨later, earlier, hs, hg⟩ := h.target ticket d ht
      exact ⟨.takenOff host s b.flights.length :: later, earlier, by rw [hjournal, hs]; rfl, hg⟩
    · exact ⟨[], b.journal, rfl, hm.target host s⟩
  case landed =>
    intro ticket d r ht hr
    rcases hcases ticket d ht with ht | ⟨rfl, rfl⟩
    · obtain ⟨kept, hk⟩ := h.landed ticket d r ht hr
      exact ⟨kept, List.mem_cons_of_mem _ hk⟩
    · cases hr
  case landing =>
    intro host' s' ticket r kept hk
    rcases List.mem_cons.mp hk with hk | hk
    · cases hk
    · obtain ⟨hlt, d, ht, hrest⟩ := h.landing host' s' ticket r kept hk
      exact ⟨hlt, d, hold ticket d ht, hrest⟩
  case flying =>
    intro i j ticket ht
    have hi : (if host = i then (b.engine host).takeOff s b.flights.length
      else b.engine i).flying j = some ticket := ht
    have hkeep : (b.engine i).flying j = some ticket →
        ∃ d, (b.takeOff host s).flights[ticket]? = some d ∧ d.landed = none ∧ d.host = i ∧
          d.slot = j := by
      intro hj
      obtain ⟨d, hd, hrest⟩ := h.flying i j ticket hj
      exact ⟨d, hold ticket d hd, hrest⟩
    by_cases hh : host = i
    · subst hh
      rw [if_pos rfl, Engine.flying_takeOff] at hi
      by_cases hj : s = j
      · rw [if_pos hj] at hi
        cases hi
        exact ⟨_, by rw [hflights, List.getElem?_concat_length], rfl, rfl, hj⟩
      · rw [if_neg hj] at hi
        exact hkeep hi
    · rw [if_neg hh] at hi
      exact hkeep hi

lemma flights_land {ticket : Nat} {d : Departure} (ht : b.flights[ticket]? = some d) (c : Content)
    (j : Nat) : (b.land ticket d c).flights[j]? =
      if ticket = j then some { d with landed := some ⟨b.results, c⟩ } else b.flights[j]? := by
  have hlt := (List.getElem?_eq_some_iff.mp ht).1
  show (b.flights.set ticket { d with landed := some ⟨b.results, c⟩ })[j]? = _
  rw [List.getElem?_set]
  by_cases hj : ticket = j
  · rw [if_pos hj, if_pos hj, if_pos hlt]
  · rw [if_neg hj, if_neg hj]

/-- Whatever is still on its way was so before, and is not what has landed. -/
lemma flying_land {ticket : Nat} {d : Departure} {c : Content} {i : String} {s : Slot} {k : Nat}
    (hk : ((b.land ticket d c).engine i).flying s = some k) :
    (b.engine i).flying s = some k ∧ ¬(d.host = i ∧ d.slot = s ∧ ticket = k) := by
  have hi : (if d.host = i then (b.engine d.host).land d.slot ticket ⟨b.results, c⟩
    else b.engine i).flying s = some k := hk
  by_cases hh : d.host = i
  · subst hh
    rw [if_pos rfl, Engine.flying_land] at hi
    by_cases hc : (b.engine d.host).flying d.slot = some ticket ∧ d.slot = s
    · rw [if_pos hc] at hi
      cases hi
    · rw [if_neg hc] at hi
      refine ⟨hi, ?_⟩
      rintro ⟨-, rfl, rfl⟩
      exact hc ⟨hi, rfl⟩
  · rw [if_neg hh] at hi
    exact ⟨hi, fun hx => hh hx.1⟩

lemma Logged.land (h : Logged b) {ticket : Nat} {d : Departure}
    (ht : b.flights[ticket]? = some d) (hn : d.landed = none) (c : Content) :
    Logged (b.land ticket d c) := by
  have hget := flights_land ht c
  have hother : ∀ {j : Nat} {d' : Departure}, b.flights[j]? = some d' → ticket ≠ j →
      (b.land ticket d c).flights[j]? = some d' := by
    intro j d' hd' hj
    rw [hget, if_neg hj, hd']
  have hjournal : (b.land ticket d c).journal = .landed d.host d.slot ticket ⟨b.results, c⟩
      ((b.engine d.host).flying d.slot = some ticket) :: b.journal := rfl
  constructor
  case count =>
    show (b.flights.set ticket _).length = _
    rw [hjournal, List.length_set, departures_cons, h.count]
    rfl
  case target =>
    intro j d' hj
    rw [hget] at hj
    have hold : ∃ d₀, b.flights[j]? = some d₀ ∧ d'.host = d₀.host ∧ d'.slot = d₀.slot ∧
        d'.target = d₀.target := by
      by_cases hjt : ticket = j
      · rw [if_pos hjt] at hj
        cases hj
        exact ⟨d, hjt ▸ ht, rfl, rfl, rfl⟩
      · rw [if_neg hjt] at hj
        exact ⟨d', hj, rfl, rfl, rfl⟩
    obtain ⟨d₀, hd₀, hh, hs, hg⟩ := hold
    obtain ⟨later, earlier, hsplit, htarget⟩ := h.target j d₀ hd₀
    rw [hh, hs, hg]
    exact ⟨_ :: later, earlier, by rw [hjournal, hsplit]; rfl, htarget⟩
  case landed =>
    intro j d' r hj hr
    rw [hget] at hj
    by_cases hjt : ticket = j
    · rw [if_pos hjt] at hj
      subst hjt
      cases hj
      cases hr
      exact ⟨_, List.mem_cons_self⟩
    · rw [if_neg hjt] at hj
      obtain ⟨kept, hk⟩ := h.landed j d' r hj hr
      exact ⟨kept, List.mem_cons_of_mem _ hk⟩
  case landing =>
    intro host s j r kept hm
    rcases List.mem_cons.mp hm with hm | hm
    · cases hm
      exact ⟨Nat.lt_succ_self _, { d with landed := some ⟨b.results, c⟩ },
        by rw [hget, if_pos rfl], rfl, rfl, rfl⟩
    · obtain ⟨hid, d', hd', hl, hrest⟩ := h.landing host s j r kept hm
      refine ⟨Nat.lt_succ_of_lt hid, d', hother hd' ?_, hl, hrest⟩
      rintro rfl
      cases ht.symm.trans hd'
      cases hn.symm.trans hl
  case flying =>
    intro i s k hk
    obtain ⟨hk', hne⟩ := flying_land hk
    obtain ⟨d', hd', hland, hh, hs⟩ := h.flying i s k hk'
    refine ⟨d', hother hd' ?_, hland, hh, hs⟩
    rintro rfl
    cases ht.symm.trans hd'
    exact hne ⟨hh, hs, rfl⟩

lemma Logged.move (h : Logged b) (hm : Mirrors b) (hb : Move b b') : Logged b' := by
  obtain ⟨m, hc, hp⟩ := hb.change
  refine Logged.plain ?_ hp
  cases hc with
  | nothing => exact h
  | takeOff host s _ _ => exact h.takeOff hm host s
  | land ticket d c ht hn => exact h.land ht hn c
  | enlist host n =>
    refine h.entry rfl (by simp) fun s ticket hf => ?_
    rw [Engine.flying_register, Option.ite_none_left_eq_some] at hf
    exact hf.2
  | unregister host id hn =>
    refine h.entry rfl (by simp) fun s ticket hf => ?_
    rw [Engine.flying_unregister _ _ _ hn, Option.ite_none_left_eq_some] at hf
    exact hf.2
  | enrol host s c name _ => exact h.entry rfl (by simp) fun j ticket hf => hf
  | unsubscribe host s c =>
    obtain ⟨subscriptions, delivered, he⟩ := (b.engine host).unsubscribe_frame s c
    refine h.entry rfl (by simp) fun j ticket hf => ?_
    rw [he] at hf
    exact hf
  | clearKeys t host node keys =>
    refine h.entry rfl (by simp) fun s ticket hf => ?_
    rw [Engine.flying_clearAll, Option.ite_none_left_eq_some] at hf
    exact hf.2
  | offer host s pass r _ _ => exact h.entry rfl (by simp) fun j ticket hf => hf

end Ledger

end Dataflow
