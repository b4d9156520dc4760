import Dataflow.Proofs.Lawful
import Dataflow.Proofs.Registrations

/-!
# What subscribers are to receive

Whoever is owed a call is still to be called by the one emission that calls subscribers. The record
that an engine keeps of a subscriber is that of its latest call, made or promised.
-/

namespace Dataflow

/-- The event is about the delivery of results. -/
def Event.isDelivery : Event → Bool
  | .delivering _ _ _ _ _ | .called _ _ _ _ _ | .abandoned _ _ _ => true
  | _ => false

lemma Event.idle_of_not {e : Event} (h : e.isDelivery = false) (host : String) (c : Nat) :
    e.Idle host c := by
  cases e <;> first | exact ⟨rfl, rfl, rfl⟩ | cases h

lemma Journal.replays_append {l past : List Event} (h : ∀ e ∈ l, e.isDelivery = false)
    (host : String) (c : Nat) :
    promised host c (l ++ past) = promised host c past ∧ owed host c (l ++ past) = owed host c past := by
  induction l with
  | nil => exact ⟨rfl, rfl⟩
  | cons e l ih =>
    obtain ⟨-, hp, ho⟩ := replays_cons (Event.idle_of_not (h e List.mem_cons_self) host c) (l ++ past)
    obtain ⟨hp', ho'⟩ := ih fun x hx => h x (List.mem_cons_of_mem e hx)
    exact ⟨hp.trans hp', ho.trans ho'⟩

namespace Ledger

open Journal

variable {b b' : Ledger}

structure Receipts (b : Ledger) : Prop where
  sole : ∀ t i x t' i' x', b.errand? t i = some x → x.phase.isOpen = false →
    b.errand? t' i' = some x' → x'.phase.isOpen = false → t = t' ∧ i = i'
  nodup : ∀ t i x pass r rest, b.errand? t i = some x → x.phase = .calling pass r rest →
    rest.Nodup
  owed : ∀ host c s r, owed host c b.journal = some (s, r) ↔
    ∃ t i x pass rest, b.errand? t i = some x ∧ x.Is host s ∧ x.phase = .calling pass r rest ∧
      c ∈ rest
  told : ∀ host c r, (b.engine host).lastOf c = some r → promised host c b.journal = some r

lemma Receipts.owed_none (h : Receipts b) (hs : b.Silent) (host : String) (c : Nat) :
    Journal.owed host c b.journal = none := by
  cases ho : Journal.owed host c b.journal with
  | none => rfl
  | some p =>
    obtain ⟨t, i, x, pass, rest, hx, -, hp, -⟩ := (h.owed host c p.1 p.2).mp ho
    have hopen := hs t i x hx
    rw [hp] at hopen
    cases hopen

/-- The same emission calls subscribers as before, or else none does as before. -/
def Still (b b' : Ledger) : Prop :=
  ∀ t i x, x.phase.isOpen = false → (b'.errand? t i = some x ↔ b.errand? t i = some x)

lemma still_of_duties (h : b'.duties = b.duties) : Still b b' := by
  intro t i x _
  rw [errand?_congr h]

lemma still_of_append {l : List Duty} (hb : b'.duties = b.duties ++ l)
    (hd : ∀ d ∈ l, ∀ i x, d.errands i = some x → x.phase = .fresh) : Still b b' := by
  intro t i x ho
  constructor
  · intro hx
    rcases errand?_of_append hb hx with hx | ⟨d, hm, hx⟩
    · exact hx
    · rw [hd d hm i x hx] at ho
      cases ho
  · exact errand?_append hb

lemma still_of_silent (h : b.Silent) (h' : b'.Silent) : Still b b' := by
  intro t i x ho
  constructor
  · intro hx
    rw [h' t i x hx] at ho
    cases ho
  · intro hx
    rw [h t i x hx] at ho
    cases ho

lemma still_setErrand {t i : Nat} {x : Errand} (hx : b.errand? t i = some x)
    (ho : x.phase.isOpen = true) {y : Option Errand} (hy : ∀ z, y = some z → z.phase.isOpen = true) :
    Still b (b.setErrand t i y) := by
  intro t' i' z hz
  rw [errand?_setErrand hx]
  by_cases ht : t = t' ∧ i = i'
  · obtain ⟨rfl, rfl⟩ := ht
    rw [if_pos ⟨rfl, rfl⟩, hx]
    constructor
    · intro he
      rw [hy z he] at hz
      cases hz
    · intro he
      cases he
      rw [ho] at hz
      cases hz
  · rw [if_neg ht]

/-- A task that takes up an invalidation brings fresh emissions in the place of none. -/
lemma still_invalidate {t : Nat} {d : Duty} {host node : String} {keys : List String}
    (hd : b.duties[t]? = some d) (hn : ∀ i, d.errands i = none) :
    Still b (b.invalidate t d host node keys) := by
  intro t' i' y hy
  rw [errand?_setDuty hd rfl]
  by_cases ht : t = t'
  · subst ht
    rw [if_pos rfl]
    constructor
    · intro he
      obtain ⟨k, -, rfl⟩ := Option.map_eq_some_iff.mp he
      cases hy
    · intro he
      obtain ⟨d', hd', hi⟩ := errand?_eq_some.mp he
      rw [hd] at hd'
      cases hd'
      rw [hn] at hi
      cases hi
  · rw [if_neg ht]

lemma Receipts.same (h : Receipts b) (hs : Still b b')
    (hl : ∀ host c r, (b'.engine host).lastOf c = some r → (b.engine host).lastOf c = some r)
    (hj : ∀ host c, promised host c b'.journal = promised host c b.journal ∧
      Journal.owed host c b'.journal = Journal.owed host c b.journal) : Receipts b' := by
  constructor
  case sole =>
    intro t i x t' i' x' hx ho hx' ho'
    exact h.sole t i x t' i' x' ((hs t i x ho).mp hx) ho ((hs t' i' x' ho').mp hx') ho'
  case nodup =>
    intro t i x pass r rest hx hp
    exact h.nodup t i x pass r rest ((hs t i x (by rw [hp]; rfl)).mp hx) hp
  case owed =>
    intro host c s r
    rw [(hj host c).2, h.owed]
    constructor
    · rintro ⟨t, i, x, pass, rest, hx, hi, hp, hc⟩
      exact ⟨t, i, x, pass, rest, (hs t i x (by rw [hp]; rfl)).mpr hx, hi, hp, hc⟩
    · rintro ⟨t, i, x, pass, rest, hx, hi, hp, hc⟩
      exact ⟨t, i, x, pass, rest, (hs t i x (by rw [hp]; rfl)).mp hx, hi, hp, hc⟩
  case told =>
    intro host c r hr
    rw [(hj host c).1]
    exact h.told host c r (hl host c r hr)

/-- The records of one engine are as they were. -/
lemma lastOf_set {host : String} {e : Engine} (hd : e.delivered = (b.engine host).delivered)
    (i : String) (c : Nat) :
    (if host = i then e else b.engine i).lastOf c = (b.engine i).lastOf c := by
  by_cases hi : host = i
  · subst hi
    rw [if_pos rfl]
    unfold Engine.lastOf
    rw [hd]
  · rw [if_neg hi]

lemma replays_log {e : Event} (h : e.isDelivery = false) (l : List Event) (host : String)
    (c : Nat) : promised host c (e :: l) = promised host c l ∧
      Journal.owed host c (e :: l) = Journal.owed host c l :=
  Journal.replays_append (l := [e]) (by simpa using h) host c

lemma Receipts.enlist (h : Receipts b) (host : String) (n : Node) :
    Receipts (b.enlist host n) := by
  obtain ⟨-, -, -, hd⟩ := (b.engine host).register_frame n
  exact h.same (still_of_duties rfl) (fun i c r hr => by rwa [← lastOf_set hd])
    (replays_log rfl b.journal)

lemma Receipts.spawn (h : Receipts b) {task : Task}
    (hf : ∀ i x, task.job.errands i = some x → x.phase = .fresh) : Receipts (b.spawn task) := by
  refine h.same (still_of_append (l := [task.duty]) rfl fun d hd i x hx => ?_)
    (fun _ _ _ hr => hr) (replays_log rfl b.journal)
  rw [List.mem_singleton] at hd
  subst hd
  exact hf i x hx

lemma Receipts.emitAll (h : Receipts b) (host node : String) (outputs : List String) :
    Receipts (b.emitAll host node outputs) := by
  induction outputs generalizing b with
  | nil => exact h
  | cons o outputs ih => exact ih (h.spawn fun i x hx => fresh_of_emitting hx)

lemma Receipts.enrol (h : Receipts b) (host : String) (s : Slot) (c : Nat) (name : String) :
    Receipts (b.enrol host s c name) := by
  refine h.same (still_of_duties rfl) (fun i d r hr => ?_) (replays_log rfl b.journal)
  have hr' : (if host = i then (b.engine host).subscribe s c else b.engine i).lastOf d = some r := hr
  by_cases hi : host = i
  · subst hi
    rw [if_pos rfl, Engine.lastOf_subscribe] at hr'
    exact hr'
  · rw [if_neg hi] at hr'
    exact hr'

lemma Receipts.unsubscribe (h : Receipts b) (host : String) (s : Slot) (c : Nat) :
    Receipts (b.unsubscribe host s c) := by
  refine h.same (still_of_duties rfl) (fun i d r hr => ?_) (replays_log rfl b.journal)
  have hr' : (if host = i then (b.engine host).unsubscribe s c else b.engine i).lastOf d =
    some r := hr
  by_cases hi : host = i
  · subst hi
    rw [if_pos rfl] at hr'
    rcases (b.engine host).lastOf_unsubscribe s c d with hl | hl
    · exact hl.symm.trans hr'
    · rw [hl] at hr'
      cases hr'
  · rw [if_neg hi] at hr'
    exact hr'

/-- While an emission calls subscribers, no other one does. -/
lemma Receipts.sole_of (h : Receipts b) {t i : Nat} {x : Errand} (hx : b.errand? t i = some x)
    (ho : x.phase.isOpen = false) : b.Sole t i := by
  intro t' i' y hy hy'
  obtain ⟨rfl, rfl⟩ := h.sole t i x t' i' y hx ho hy hy'
  exact ⟨rfl, rfl⟩

/-- What is owed is what is left of its list. -/
lemma Receipts.owed_iff (h : Receipts b) {t i : Nat} {x : Errand} {pass : Pass} {r : Result}
    {rest : List Nat} (hx : b.errand? t i = some x) (hp : x.phase = .calling pass r rest)
    (host : String) (c : Nat) (s : Slot) (r' : Result) :
    Journal.owed host c b.journal = some (s, r') ↔ x.Is host s ∧ r = r' ∧ c ∈ rest := by
  rw [h.owed]
  constructor
  · rintro ⟨t', i', y, pass', rest', hy, hi, hyp, hm⟩
    obtain ⟨rfl, rfl⟩ := h.sole t i x t' i' y hx (by rw [hp]; rfl) hy (by rw [hyp]; rfl)
    rw [hx] at hy
    cases hy
    rw [hp] at hyp
    cases hyp
    exact ⟨hi, rfl, hm⟩
  · rintro ⟨hi, rfl, hm⟩
    exact ⟨t, i, x, pass, rest, hx, hi, hp, hm⟩

/-- Where a single errand may be calling, it is enough to know what that one owes. -/
lemma Receipts.of_single {t i : Nat} {z : Option Errand}
    (hz : ∀ t' i' y, y.phase.isOpen = false →
      (b.errand? t' i' = some y ↔ t = t' ∧ i = i' ∧ z = some y))
    (hn : ∀ y pass r rest, z = some y → y.phase = .calling pass r rest → rest.Nodup)
    (ho : ∀ host c s r, Journal.owed host c b.journal = some (s, r) ↔
      ∃ y pass rest, z = some y ∧ y.Is host s ∧ y.phase = .calling pass r rest ∧ c ∈ rest)
    (ht : ∀ host c r, (b.engine host).lastOf c = some r → promised host c b.journal = some r) :
    Receipts b where
  sole t₁ i₁ y₁ t₂ i₂ y₂ h₁ ho₁ h₂ ho₂ := by
    obtain ⟨rfl, rfl, -⟩ := (hz t₁ i₁ y₁ ho₁).mp h₁
    obtain ⟨rfl, rfl, -⟩ := (hz t₂ i₂ y₂ ho₂).mp h₂
    exact ⟨rfl, rfl⟩
  nodup t' i' y pass r rest hy hp := by
    obtain ⟨-, -, he⟩ := (hz t' i' y (by rw [hp]; rfl)).mp hy
    exact hn y pass r rest he hp
  owed host c s r := by
    rw [ho]
    constructor
    · rintro ⟨y, pass, rest, he, hi, hp, hm⟩
      exact ⟨t, i, y, pass, rest, (hz t i y (by rw [hp]; rfl)).mpr ⟨rfl, rfl, he⟩, hi, hp, hm⟩
    · rintro ⟨t', i', y, pass, rest, hy, hi, hp, hm⟩
      obtain ⟨-, -, he⟩ := (hz t' i' y (by rw [hp]; rfl)).mp hy
      exact ⟨y, pass, rest, he, hi, hp, hm⟩
  told := ht

lemma Receipts.select (h : Receipts b) {t i : Nat} {x : Errand} {pass : Pass} {r : Result}
    (hx : b.errand? t i = some x) (hs : b.Silent) : Receipts (b.select t i x pass r) := by
  have hnone := h.owed_none hs
  have hsole : b.Sole t i := by
    intro t' i' y hy ho
    rw [hs t' i' y hy] at ho
    cases ho
  generalize hpicked : ((b.engine x.host).select (b.policy x.host) x.slot r).1 = picked
  have hjournal : (b.select t i x pass r).journal =
      .delivering x.host x.slot pass r picked :: b.journal := by rw [← hpicked]; rfl
  have hnew : ∀ t' i' y, y.phase.isOpen = false →
      ((b.select t i x pass r).errand? t' i' = some y ↔
        t = t' ∧ i = i' ∧ some { x with phase := .calling pass r picked } = some y) := by
    intro t' i' y hy
    rw [← hpicked]
    exact errand?_setErrand_of_sole (b := b.offer x.host x.slot pass r) hx hsole hy
  refine .of_single hnew ?_ ?_ ?_
  · rintro _ pass' r' rest ⟨⟩ ⟨⟩
    rw [← hpicked]
    exact Engine.nodup_select _ _ _ _
  · intro host c s r'
    rw [hjournal]
    by_cases hc : x.host = host ∧ c ∈ picked
    · obtain ⟨rfl, hc⟩ := hc
      rw [owed_delivering hc]
      constructor
      · intro he
        cases he
        exact ⟨_, pass, picked, rfl, ⟨rfl, rfl⟩, rfl, hc⟩
      · rintro ⟨_, pass', rest, ⟨⟩, ⟨-, rfl⟩, ⟨⟩, -⟩
        rfl
    · have hidle : Event.ofDebt host c (.delivering x.host x.slot pass r picked) = none := by
        simp [Event.ofDebt, Event.ofCall, Event.ofOffer, hc]
      rw [owed_cons, hidle, Option.getD_none, hnone]
      constructor
      · intro he
        cases he
      · rintro ⟨_, pass', rest, ⟨⟩, hi, ⟨⟩, hm⟩
        exact absurd ⟨hi.1, hm⟩ hc
  · intro host c last hl
    have hl' : (if x.host = host then ((b.engine x.host).select (b.policy x.host) x.slot r).2
      else b.engine host).lastOf c = some last := hl
    rw [hjournal]
    have hskip : ¬(x.host = host ∧ c ∈ picked) → (b.engine host).lastOf c = some last →
        promised host c (.delivering x.host x.slot pass r picked :: b.journal) = some last := by
      intro hc hlast
      have hidle : Event.ofPromise host c (.delivering x.host x.slot pass r picked) = none := by
        simp [Event.ofPromise, Event.ofCall, Event.ofOffer, hc]
      rw [promised_cons, hidle, Option.none_or]
      exact h.told host c last hlast
    by_cases hh : x.host = host
    · subst hh
      rw [if_pos rfl] at hl'
      unfold Engine.lastOf at hl'
      rw [Engine.delivered_select, hpicked] at hl'
      by_cases hc : c ∈ picked
      · rw [if_pos hc, Option.bind_eq_some_iff] at hl'
        obtain ⟨entry, he, hlast⟩ := hl'
        obtain ⟨entry', -, rfl⟩ := Option.map_eq_some_iff.mp he
        cases hlast
        exact promised_delivering hc x.slot pass r b.journal
      · rw [if_neg hc] at hl'
        exact hskip (fun hx => hc hx.2) hl'
    · rw [if_neg hh] at hl'
      exact hskip (fun hx => hh hx.1) hl'

lemma Receipts.call (h : Receipts b) {t i : Nat} {x : Errand} {pass : Pass} {r : Result}
    {c : Nat} {rest : List Nat} {callback : String} (hx : b.errand? t i = some x)
    (hp : x.phase = .calling pass r (c :: rest)) :
    Receipts (b.call t i x pass r c rest callback) := by
  have hsole := h.sole_of hx (by rw [hp]; rfl)
  have hnodup := List.nodup_cons.mp (h.nodup t i x pass r (c :: rest) hx hp)
  have howed : Journal.owed x.host c b.journal = some (x.slot, r) :=
    (h.owed_iff hx hp x.host c x.slot r).mpr ⟨⟨rfl, rfl⟩, rfl, List.mem_cons_self⟩
  have hjournal : (b.call t i x pass r c rest callback).journal =
      .called x.host x.slot c callback r :: b.journal := rfl
  -- Whoever else is owed a call is still in what is left of the list.
  have hrest : ∀ host d, ¬(x.host = host ∧ c = d) →
      Journal.owed host d (.called x.host x.slot c callback r :: b.journal) =
        Journal.owed host d b.journal ∧
      promised host d (.called x.host x.slot c callback r :: b.journal) =
        promised host d b.journal := by
    intro host d hd
    have hcall : Event.ofCall host d (.called x.host x.slot c callback r) = none := by
      simp [Event.ofCall, hd]
    have hidle : Event.Idle host d (.called x.host x.slot c callback r) :=
      ⟨hcall, by simp [Event.ofPromise, hcall, Event.ofOffer], by simp [Event.ofDebt, hcall, Event.ofOffer]⟩
    exact ⟨(replays_cons hidle _).2.2, (replays_cons hidle _).2.1⟩
  refine .of_single (z := some { x with phase := .calling pass r rest })
    (fun t' i' y hy => errand?_setErrand_of_sole
      (b := b.log (.called x.host x.slot c callback r)) hx hsole hy) ?_ ?_ ?_
  · rintro _ pass' r' rest' ⟨⟩ ⟨⟩
    exact hnodup.2
  · intro host d s r'
    rw [hjournal]
    by_cases hd : x.host = host ∧ c = d
    · obtain ⟨rfl, rfl⟩ := hd
      rw [owed_called]
      constructor
      · intro he
        cases he
      · rintro ⟨_, pass', rest', ⟨⟩, -, ⟨⟩, hm⟩
        exact absurd hm hnodup.1
    · rw [(hrest host d hd).1, h.owed_iff hx hp]
      constructor
      · rintro ⟨hi, rfl, hm⟩
        refine ⟨_, pass, rest, rfl, hi, rfl, (List.mem_cons.mp hm).resolve_left ?_⟩
        rintro rfl
        exact hd ⟨hi.1, rfl⟩
      · rintro ⟨_, pass', rest', ⟨⟩, hi, ⟨⟩, hm⟩
        exact ⟨hi, rfl, List.mem_cons_of_mem c hm⟩
  · intro host d last hl
    have hlast := h.told host d last hl
    rw [hjournal]
    by_cases hd : x.host = host ∧ c = d
    · obtain ⟨rfl, rfl⟩ := hd
      rw [promised_called, ← promised_of_owed howed]
      exact hlast
    · rw [(hrest host d hd).2]
      exact hlast

/-- An emission that has called everybody is over. -/
lemma Receipts.leave (h : Receipts b) {t i : Nat} {x : Errand} {pass : Pass} {r : Result}
    (hx : b.errand? t i = some x) (hp : x.phase = .calling pass r []) :
    Receipts (b.setErrand t i none) := by
  refine .of_single (z := none) (fun t' i' y hy =>
    errand?_setErrand_of_sole hx (h.sole_of hx (by rw [hp]; rfl)) hy) (by rintro _ _ _ _ ⟨⟩) ?_ h.told
  intro host c s r'
  refine (h.owed_iff hx hp host c s r').trans ⟨?_, by rintro ⟨_, _, _, ⟨⟩, -⟩⟩
  rintro ⟨-, -, hm⟩
  cases hm

lemma Receipts.drop (h : Receipts b) {t i : Nat} {x : Errand} (hx : b.errand? t i = some x)
    (hs : b.Sole t i) : Receipts (b.drop t i x) := by
  unfold Ledger.drop
  cases hp : x.phase.pass? with
  | none =>
    have hopen : x.phase.isOpen = true := by
      cases hph : x.phase <;> rw [hph] at hp <;> first | rfl | cases hp
    exact h.same (still_setErrand hx hopen (by rintro _ ⟨⟩)) (fun _ _ _ hr => hr)
      fun _ _ => ⟨rfl, rfl⟩
  | some pass =>
    refine .of_single (z := none) (fun t' i' y hy => errand?_setErrand_of_sole
      (b := b.log (.abandoned x.host x.slot pass)) hx hs hy) (by rintro _ _ _ _ ⟨⟩) ?_ ?_
    · intro host c s r
      show Journal.owed host c (.abandoned x.host x.slot pass :: b.journal) = some (s, r) ↔ _
      rw [owed_abandoned]
      exact ⟨by rintro ⟨⟩, by rintro ⟨_, _, _, ⟨⟩, -⟩⟩
    · intro host c last hl
      show promised host c (.abandoned x.host x.slot pass :: b.journal) = some last
      rw [promised_abandoned]
      exact h.told host c last hl

/-- While nobody is being called, emissions can be abandoned without owing anything. -/
lemma Receipts.abandon (h : Receipts b) (hs : b.Silent) {new : List Event}
    (hnew : ∀ e ∈ new, ∃ host s pass, e = .abandoned host s pass) (host : String) (c : Nat) :
    promised host c (new ++ b.journal) = promised host c b.journal ∧
      Journal.owed host c (new ++ b.journal) = none := by
  induction new with
  | nil => exact ⟨rfl, h.owed_none hs host c⟩
  | cons e new ih =>
    obtain ⟨i, s, pass, rfl⟩ := hnew e List.mem_cons_self
    obtain ⟨hp, -⟩ := ih fun x hx => hnew x (List.mem_cons_of_mem _ hx)
    rw [List.cons_append, promised_abandoned, owed_abandoned]
    exact ⟨hp, rfl⟩

lemma Receipts.finish (h : Receipts b) {t : Nat} {d : Duty} {how : End}
    {engine : String → Engine} {extra : List Event} (he : b.Ends t d how engine extra) :
    Receipts (b.finish t d how engine extra) := by
  have hsilent : (b.finish t d how engine extra).Silent := by
    intro t' i' y hy
    rw [errand?_setDuty he.duty rfl] at hy
    by_cases ht : t = t'
    · rw [if_pos ht] at hy
      cases hy
    · rw [if_neg ht] at hy
      exact he.silent t' i' y hy
  refine h.same (still_of_silent he.silent hsilent) (fun host c r hr => ?_) fun host c => ?_
  · obtain ⟨gates, passes, -, hg⟩ := he.engine host
    have hr' : (engine host).lastOf c = some r := hr
    rw [hg] at hr'
    exact hr'
  · obtain ⟨hp, ho⟩ := h.abandon he.silent he.extra host c
    obtain ⟨hp', ho'⟩ := replays_log (e := .ended t d.name how) rfl (extra ++ b.journal) host c
    exact ⟨hp'.trans hp, (ho'.trans ho).trans (h.owed_none he.silent host c).symm⟩

lemma Receipts.move (h : Receipts b) (hm : Move b b') : Receipts b' := by
  cases hm with
  | quiet hq =>
    obtain ⟨notes, hj, hn⟩ := hq.journal
    refine h.same (still_of_duties hq.duties) (fun host c r hr => ?_) fun host c => ?_
    · obtain ⟨gates, passes, -, hg⟩ := hq.engine host
      rw [hg] at hr
      exact hr
    · rw [hj]
      refine Journal.replays_append (fun e he => ?_) host c
      have hne := hn e he
      cases e <;> first | rfl | cases hne
  | takeOff host s _ _ =>
    exact h.same (still_of_duties rfl) (fun i c r hr => by
      rwa [← lastOf_set (e := (b.engine host).takeOff s b.flights.length) rfl])
      (replays_log rfl b.journal)
  | begin host s ticket _ =>
    exact h.same (still_of_duties rfl) (fun _ _ _ hr => hr) (replays_log rfl b.journal)
  | land ticket d c _ _ =>
    obtain ⟨-, -, -, hd⟩ := (b.engine d.host).land_frame d.slot ticket ⟨b.results, c⟩
    exact h.same (still_of_duties rfl) (fun i c r hr => by rwa [← lastOf_set hd])
      (replays_log rfl b.journal)
  | register host n =>
    rcases register_cases b host n with ⟨he, -, -⟩ | ⟨he, -⟩
    · rw [he]
      exact (h.enlist host n).emitAll host n.id _
    · rw [he]
      exact h.enlist host n
  | unregister host id hn =>
    obtain ⟨-, -, -, hd⟩ := (b.engine host).unregister_frame id hn
    exact h.same (still_of_duties rfl) (fun i c r hr => by rwa [← lastOf_set hd])
      (replays_log rfl b.journal)
  | subscribe host s c name _ =>
    unfold Ledger.subscribe
    by_cases hr : b.runtime = true
    · rw [if_pos hr]
      exact ((h.enrol host s c name).spawn fun i x hx => fresh_of_emitting hx).same
        (still_of_duties rfl) (fun _ _ _ hr => hr) fun _ _ => ⟨rfl, rfl⟩
    · rw [if_neg hr]
      exact (h.enrol host s c name).same (still_of_duties rfl) (fun _ _ _ hr => hr)
        fun _ _ => ⟨rfl, rfl⟩
  | unsubscribe host s c => exact h.unsubscribe host s c
  | start task _ hf _ => exact h.spawn hf
  | invalidate t d host node keys hd hn _ _ _ =>
    obtain ⟨-, -, -, hdel⟩ := (b.engine host).clearAll_frame node keys
    exact h.same (still_invalidate hd hn) (fun i c r hr => by rwa [← lastOf_set hdel])
      (replays_log rfl b.journal)
  | enter t i x hx hp =>
    have hentered : Receipts (b.takePass x.host x.slot) :=
      h.same (still_of_duties rfl) (fun host c r hr => by
        rwa [← lastOf_set (e := ((b.engine x.host).enter x.slot).2) rfl])
        (replays_log rfl b.journal)
    exact hentered.same (still_setErrand hx (by rw [hp]; rfl) fun z hz => by cases hz; rfl)
      (fun _ _ _ hr => hr) fun _ _ => ⟨rfl, rfl⟩
  | look t i x pass hx hp =>
    have hlog : Receipts (b.log (.looked x.host x.slot pass)) :=
      h.same (still_of_duties rfl) (fun _ _ _ hr => hr) (replays_log rfl b.journal)
    exact hlog.same (still_setErrand hx (by rw [hp]; rfl) fun z hz => by cases hz; rfl)
      (fun _ _ _ hr => hr) fun _ _ => ⟨rfl, rfl⟩
  | advance t i x p hx ha =>
    refine h.same (still_setErrand hx ha.isOpen.1 fun z hz => ?_) (fun _ _ _ hr => hr)
      fun _ _ => ⟨rfl, rfl⟩
    cases hz
    exact ha.isOpen.2
  | select t i x pass clears r hx _ hs _ => exact h.select hx hs
  | call t i x pass r c rest callback hx hp => exact h.call hx hp
  | leave t i x pass r hx hp => exact h.leave hx hp
  | drop t i x hx _ hs => exact h.drop hx hs
  | panic source text _ _ _ =>
    exact h.same (still_of_duties rfl) (fun _ _ _ hr => hr) (replays_log rfl b.journal)
  | finish t d how engine extra he => exact h.finish he

end Ledger

end Dataflow
