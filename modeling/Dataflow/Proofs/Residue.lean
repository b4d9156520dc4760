import Dataflow.Proofs.Awaiting

/-!
# What is left behind

The emissions of a slot hold one gate, and one of them delivers at a time. Where nothing panics and no
task is cancelled, nothing is left behind: a gate is there only while an emission of the slot is under
way, and a computation is in flight only while somebody waits for it. A slot that is cleared gives up its
computation in flight at once, but those who wait for that go on waiting.
-/

namespace Dataflow

namespace Ledger

variable {b b' : Ledger}

/-- No entry of a table of computations in flight hides another one. -/
def FlightsTidy (b : Ledger) : Prop := ∀ host, (b.engine host).inFlight.Tidy

lemma FlightsTidy.change (h : b.FlightsTidy) (hc : b.Change b') : b'.FlightsTidy := by
  have hset : ∀ (i : String) {e : Engine}, e.inFlight.Tidy →
      (∀ k, b'.engine k = if i = k then e else b.engine k) → b'.FlightsTidy := by
    intro i e he hb k
    rw [hb]
    by_cases hi : i = k
    · rw [if_pos hi]
      exact he
    · rw [if_neg hi]
      exact h k
  cases hc with
  | nothing => exact h
  | takeOff i s _ _ => exact hset i ((h i).set _ _ _) fun _ => rfl
  | land ticket d c _ _ =>
    refine hset d.host ?_ fun _ => rfl
    unfold Engine.land
    by_cases hf : (b.engine d.host).flying d.slot = some ticket
    · rw [if_pos hf]
      exact (h d.host).erase _ _
    · rw [if_neg hf]
      exact h d.host
  | enlist i n =>
    refine hset i ?_ fun _ => rfl
    unfold Engine.register
    cases (b.engine i).nodes.contains n.id with
    | true => exact Store.Tidy.eraseAll (s := (b.engine i).inFlight) (h i) n.id
    | false => exact h i
  | unregister i id hn =>
    refine hset i ?_ fun _ => rfl
    unfold Engine.unregister
    rw [if_pos hn]
    exact Store.Tidy.eraseAll (s := (b.engine i).inFlight) (h i) id
  | enrol i s c name _ => exact hset i (e := (b.engine i).subscribe s c) (h i) fun _ => rfl
  | unsubscribe i s c =>
    obtain ⟨subscriptions, delivered, he⟩ := (b.engine i).unsubscribe_frame s c
    exact hset i (by rw [he]; exact h i) fun _ => rfl
  | clearKeys t i node keys =>
    refine hset i ?_ fun _ => rfl
    unfold Engine.clearAll
    have hall : ∀ (keys : List String) (e : Engine), e.inFlight.Tidy →
        (keys.foldl (fun e k => e.clear ⟨node, k⟩) e).inFlight.Tidy := by
      intro keys
      induction keys with
      | nil => exact fun e he => he
      | cons k keys ih => exact fun e he => ih _ (he.erase _ _)
    exact hall keys _ (h i)
  | offer i s pass r _ _ =>
    exact hset i (e := ((b.engine i).select (b.policy i) s r).2) (h i) fun _ => rfl

lemma FlightsTidy.moves (h : b.FlightsTidy) (hm : Moves b b') : b'.FlightsTidy := by
  induction hm with
  | refl b => exact h
  | head hm _ ih =>
    obtain ⟨m, hc, hp⟩ := hm.change
    refine ih fun host => ?_
    obtain ⟨gates, passes, -, heq⟩ := hp.engine host
    rw [heq]
    exact h.change hc host

end Ledger

namespace Scene

theorem flightsTidy_of_reachable {s : Scene} {w : World} (h : World.Reachable s.opening w) :
    w.ledger.FlightsTidy := by
  refine Ledger.FlightsTidy.moves (fun host => ?_) (h.goes s.sane_opening).2
  show (s.opening.engine host).inFlight.Tidy
  rw [s.engine_opening host]
  exact .empty

/-- In an undisturbed run a gate is there only while somebody holds it. -/
theorem full_of_reachable {s : Scene} {w : World} (h : World.Reachable s.opening w)
    (hu : Journal.Undisturbed w.journal) : w.gating.Full := by
  refine keeps_undisturbed (P := fun w => w.gating.Full) h hu ?_ (fun w w' hr hw ht => ?_)
    (fun w hr hw hn => ?_) fun w hw => hw
  · intro host j g hg
    rw [show s.opening.gating.engine host = {} from s.engine_opening host] at hg
    cases hg
  · exact hw.passings (kept_of_reachable hr) ht.toKeepsStakes.gateTurns
  · exact hw.passings (kept_of_reachable hr)
      ((unburdened_of_reachable hr).gateTurns (sane_of_reachable hr) hn)

end Scene

namespace World

open Journal

variable {w : World} {host : String} {s : Slot} {ticket : Nat}

/-- A computation of the slot has taken off since the slot was cleared last, and has yet to land. -/
structure Aloft (w : World) (host : String) (s : Slot) (ticket : Nat) : Prop where
  flight : ∃ f, w.flights[ticket]? = some f ∧ f.work.host = host ∧ f.work.slot = s ∧
    ∀ r, f.status ≠ .landed r
  since : ∃ later earlier, w.journal = later ++ .takenOff host s ticket :: earlier ∧
    ∀ e ∈ later, e.clears host s = false

/-- The computation in flight for a slot is the one that took off since the slot was cleared last. -/
lemma Sane.flying_iff (h : w.Sane) :
    (w.engine host).flying s = some ticket ↔ w.Aloft host s ticket := by
  have hmirrors : (w.engine host).flying s = Journal.flying host s w.journal :=
    h.sound.mirrors.flying host s
  constructor
  · intro hf
    obtain ⟨d, hd, hnone, hhost, hslot⟩ := h.sound.logged.flying host s ticket hf
    obtain ⟨f, hfl, rfl⟩ := departure_of_ledger hd
    refine ⟨⟨f, hfl, hhost, hslot, fun r hl => ?_⟩, ?_⟩
    · rw [show f.departure.landed = some r from Status.landed_iff.mp hl] at hnone
      cases hnone
    · exact flying_eq_some (hmirrors.symm.trans hf)
  · rintro ⟨⟨f, hfl, -, -, hl⟩, later, earlier, hj, hc⟩
    have hlaw : Lawful w.ledger.policy w.journal := h.sound.lawful
    rw [hj] at hlaw
    rw [hmirrors, hj]
    rcases hlaw.flying_or_landed hc with hflying | ⟨r, -, hlanded⟩
    · exact hflying
    · obtain ⟨f', hfl', hl', -⟩ := h.landed
        (show .landed host s ticket r true ∈ w.journal by rw [hj]; exact List.mem_append_left _ hlanded)
      rw [hfl] at hfl'
      cases hfl'
      exact absurd hl' (hl r)

/-- In an undisturbed run somebody waits for every computation in flight. -/
lemma Attended.flying_iff (h : w.Attended) (hs : w.Sane) :
    (w.engine host).flying s = some ticket ↔ w.Aloft host s ticket ∧ w.Awaited ticket := by
  rw [hs.flying_iff]
  refine ⟨fun ha => ⟨ha, ?_⟩, And.left⟩
  obtain ⟨⟨f, hfl, -, -, hl⟩, -⟩ := ha
  have hlt : ticket < departures w.journal := by
    rw [hs.departures]
    exact (List.getElem?_eq_some_iff.mp hfl).1
  rcases h ticket hlt with ha | ⟨f', r, hfl', hl', -⟩
  · exact ha
  · rw [hfl] at hfl'
    cases hfl'
    exact absurd hl' (hl r)

/-- Where every task is over nobody waits. -/
lemma not_awaited (hn : ∀ task ∈ w.tasks, task.ended.isSome = true) : ¬w.Awaited ticket := by
  intro ha
  induction ha with
  | task ht he _ =>
    have hended := hn _ (List.mem_of_getElem? ht)
    rw [he] at hended
    cases hended
  | flight _ _ _ ih => exact ih

/-- A task that is over has no emission under way. -/
lemma Sane.unfinished_of_stake (h : w.Sane) {t i : Nat} {x : Stake} (hx : w.stake? t i = some x) :
    ∃ task, w.tasks[t]? = some task ∧ task.ended = none := by
  obtain ⟨task, ht, hstake⟩ := Option.bind_eq_some_iff.mp hx
  refine ⟨task, ht, ?_⟩
  obtain ⟨e, he, -⟩ := Option.bind_eq_some_iff.mp hstake
  cases hended : task.ended with
  | none => rfl
  | some how =>
    have hduty : w.ledger.duties[t]? = some task.duty := by
      show (w.tasks.map Task.duty)[t]? = _
      rw [List.getElem?_map, ht]
      rfl
    have hnone := (h.sound.accounted.ended t task.duty how hduty hended).2 i
    rw [show task.duty.errands i = (task.job.emission? i).map Emission.errand from rfl, he] at hnone
    cases hnone

/-- Emissions of one slot share its gate, and one of them at most is delivering. In an undisturbed run
gates and flights are there exactly while tasks need them. -/
theorem gates_shared_and_nothing_left {sc : Scene} (h : Reachable sc.opening w) :
    (∀ t i x, w.stake? t i = some x → ∃ g, (w.engine x.host).gate? x.slot = some g ∧
      x.pass.gate = g.id ∧ x.pass.number ∈ g.holders) ∧
    (∀ t i x u k y, w.stake? t i = some x → w.stake? u k = some y → x.host = y.host →
      x.slot = y.slot → x.pass.gate = y.pass.gate ∧ (x.pass.number = y.pass.number → t = u ∧ i = k) ∧
        (x.delivering = true → y.delivering = true → t = u ∧ i = k)) ∧
    (Undisturbed w.journal →
      (∀ host s, (∃ g, (w.engine host).gate? s = some g) ↔ ∃ t task i x, w.tasks[t]? = some task ∧
        task.ended = none ∧ w.stake? t i = some x ∧ x.host = host ∧ x.slot = s) ∧
      (∀ host s ticket, (w.engine host).flying s = some ticket ↔
        w.Aloft host s ticket ∧ w.Awaited ticket) ∧
      ((∀ task ∈ w.tasks, task.ended.isSome = true) → ∀ host,
        (w.engine host).gates.isEmpty = true ∧ (w.engine host).inFlight.isEmpty = true)) := by
  have hs := Scene.sane_of_reachable h
  have hkept := Scene.kept_of_reachable h
  refine ⟨?_, ?_, ?_⟩
  · intro t i x hx
    obtain ⟨g, hg, hid, hm, -⟩ := hkept.held t i x hx
    exact ⟨g, hg, hid.symm, hm⟩
  · intro t i x u k y hx hy hhost hslot
    refine ⟨?_, hkept.sole t i x u k y hx hy hhost, hkept.delivers_alone hx hy hhost hslot⟩
    obtain ⟨g, hg, hid, -⟩ := hkept.held t i x hx
    obtain ⟨g', hg', hid', -⟩ := hkept.held u k y hy
    rw [← hhost, ← hslot, hg] at hg'
    cases hg'
    exact hid.symm.trans hid'
  intro hcalm
  have hgates : ∀ host s, (∃ g, (w.engine host).gate? s = some g) ↔ ∃ t task i x,
      w.tasks[t]? = some task ∧ task.ended = none ∧ w.stake? t i = some x ∧ x.host = host ∧
        x.slot = s := by
    intro host s
    have hiff := (Scene.full_of_reachable h hcalm).gate_iff hkept host s
    constructor
    · intro hg
      obtain ⟨t, i, x, hx, hhost, hslot⟩ := hiff.mp hg
      obtain ⟨task, ht, he⟩ := hs.unfinished_of_stake hx
      exact ⟨t, task, i, x, ht, he, hx, hhost, hslot⟩
    · rintro ⟨t, task, i, x, -, -, hx, hhost, hslot⟩
      exact hiff.mpr ⟨t, i, x, hx, hhost, hslot⟩
  have hflights : ∀ host s ticket, (w.engine host).flying s = some ticket ↔
      w.Aloft host s ticket ∧ w.Awaited ticket := fun host s ticket =>
    (Scene.attended_of_reachable h hcalm).flying_iff hs
  refine ⟨hgates, hflights, ?_⟩
  intro hover host
  refine ⟨?_, ?_⟩
  · refine (hkept.tidy host).isEmpty fun id name => ?_
    cases hg : (w.engine host).gates.get? id name with
    | none => exact hg
    | some g =>
      obtain ⟨t, task, i, x, ht, he, -⟩ := (hgates host ⟨id, name⟩).mp ⟨g, hg⟩
      have hended := hover task (List.mem_of_getElem? ht)
      rw [he] at hended
      cases hended
  · refine (Scene.flightsTidy_of_reachable h host).isEmpty fun id name => ?_
    cases hf : (w.engine host).inFlight.get? id name with
    | none => exact hf
    | some ticket => exact absurd ((hflights host ⟨id, name⟩ ticket).mp hf).2 (not_awaited hover)

end World

/-- Neither a panic nor the end of a task that was cancelled. -/
def Event.disturbsNothing : Event → Bool
  | .panicked _ _ | .ended _ _ .cancelled => false
  | _ => true

lemma Journal.undisturbed_of_all {l : List Event} (h : l.all Event.disturbsNothing = true) :
    Undisturbed l := by
  rw [List.all_eq_true] at h
  refine ⟨fun text => ⟨fun hm => ?_, fun hm => ?_⟩, fun t name hm => ?_⟩
  · cases h _ hm
  · cases h _ hm
  · cases h _ hm

namespace World

open Journal

variable {w : World}

/-- Two emissions of the slot and a request wait for one computation, which comes to its end then. -/
def attending : List (Action × Nat) := [
  (.register "p" (heldNode "n" ["o"]) "n", 0),
  (.subscribe "p" "s" ⟨"n", "o"⟩ "c", 30),
  (.subscribe "p" "r" ⟨"n", "o"⟩ "d", 30),
  (.output "p" "first" ⟨"n", "o"⟩, 30)]

def concluding : List (Action × Nat) := attending ++ [(.resolve .first (some (.value (.text "a"))), 90)]

/-- The first branch of the task holds a gate of that slot. -/
def isEmitting (w : World) (t : Nat) (host : String) (s : Slot) : Bool :=
  (w.stake? t 0).any fun x => x.host == host && x.slot == s

lemma stake_of_isEmitting {t : Nat} {host : String} {s : Slot}
    (h : w.isEmitting t host s = true) :
    ∃ x, w.stake? t 0 = some x ∧ x.host = host ∧ x.slot = s := by
  obtain ⟨x, hx, hall⟩ := (Option.any_eq_true _ _).mp h
  rw [Bool.and_eq_true, beq_iff_eq, beq_iff_eq] at hall
  exact ⟨x, hx, hall⟩

/-- While the two emissions wait they hold one gate, and there is a computation in flight that is
awaited. Afterwards neither table has an entry. -/
theorem gates_shared_and_nothing_left_attending : ∃ w w', Reachable ({} : Scene).opening w ∧
    Reachable ({} : Scene).opening w' ∧ Undisturbed w.journal ∧ Undisturbed w'.journal ∧
    (∃ x y, w.stake? 0 0 = some x ∧ w.stake? 1 0 = some y ∧ x.pass.gate = y.pass.gate) ∧
    (∃ g, (w.engine "p").gate? ⟨"n", "o"⟩ = some g) ∧ w.Aloft "p" ⟨"n", "o"⟩ 0 ∧ w.Awaited 0 ∧
    (∀ task ∈ w'.tasks, task.ended.isSome = true) ∧
    ∀ host, (w'.engine host).gates.isEmpty = true ∧ (w'.engine host).inFlight.isEmpty = true := by
  have hduring : (({} : Scene).opening.rehearse attending).any (fun w =>
      w.journal.all Event.disturbsNothing && w.isEmitting 0 "p" ⟨"n", "o"⟩ && w.isEmitting 1 "p" ⟨"n", "o"⟩ &&
        (w.engine "p").flying ⟨"n", "o"⟩ == some 0) = true := by decide +kernel
  have hafter : (({} : Scene).opening.rehearse concluding).any (fun w =>
      w.journal.all Event.disturbsNothing && w.tasks.all fun task => task.ended.isSome) = true := by
    decide +kernel
  obtain ⟨w, hw, hall⟩ := (Option.any_eq_true _ _).mp hduring
  obtain ⟨w', hw', hall'⟩ := (Option.any_eq_true _ _).mp hafter
  simp only [Bool.and_eq_true, beq_iff_eq] at hall
  rw [Bool.and_eq_true, List.all_eq_true (p := fun task : Task => task.ended.isSome)] at hall'
  obtain ⟨⟨⟨hcalm, hfirst⟩, hsecond⟩, hflying⟩ := hall
  obtain ⟨hcalm', hover⟩ := hall'
  obtain ⟨x, hx, hxh, hxs⟩ := stake_of_isEmitting hfirst
  obtain ⟨y, hy, hyh, hys⟩ := stake_of_isEmitting hsecond
  have hreach := reachable_rehearse .refl hw
  have hreach' := reachable_rehearse .refl hw'
  obtain ⟨hheld, hshared, hleft⟩ := gates_shared_and_nothing_left hreach
  obtain ⟨-, hflights, -⟩ := hleft (undisturbed_of_all hcalm)
  obtain ⟨g, hg, -⟩ := hheld 0 0 x hx
  rw [hxh, hxs] at hg
  obtain ⟨haloft, hawaited⟩ := (hflights "p" ⟨"n", "o"⟩ 0).mp hflying
  obtain ⟨-, -, hnothing⟩ := (gates_shared_and_nothing_left hreach').2.2 (undisturbed_of_all hcalm')
  exact ⟨w, w', hreach, hreach', undisturbed_of_all hcalm, undisturbed_of_all hcalm',
    ⟨x, y, hx, hy, (hshared 0 0 x 1 0 y hx hy (hxh.trans hyh.symm) (hxs.trans hys.symm)).1⟩,
    ⟨g, hg⟩, haloft, hawaited, hover, hnothing hover⟩

/-- A request waits for a computation when its node is registered again. -/
def overtaken : List (Action × Nat) := [
  (.register "p" (heldNode "n" ["o"]) "n", 0),
  (.output "p" "first" ⟨"n", "o"⟩, 30),
  (.register "p" (heldNode "n" ["o"]) "n", 30)]

/-- The request goes on waiting, with nothing in flight for the slot. -/
theorem cleared_flight_still_awaited : ∃ w, Reachable ({} : Scene).opening w ∧ w.focus = .idle ∧
    Undisturbed w.journal ∧ ¬∀ host s, (∃ ticket, (w.engine host).flying s = some ticket) ↔
      ∃ ticket f, w.flights[ticket]? = some f ∧ f.work.host = host ∧ f.work.slot = s ∧
        (∀ r, f.status ≠ .landed r) ∧ w.Awaited ticket := by
  have hfacts : (({} : Scene).opening.rehearse overtaken).any (fun w =>
      w.settled && w.journal.all Event.disturbsNothing &&
        ((w.engine "p").flying ⟨"n", "o"⟩).isNone && w.tasks.any fun task => task.ended.isNone &&
          task.job.shares.any fun own => (w.flights[own.ticket]?).any fun f =>
            f.work.host == "p" && f.work.slot == ⟨"n", "o"⟩ && f.status.result?.isNone) = true := by
    decide +kernel
  obtain ⟨w, hw, hall⟩ := (Option.any_eq_true _ _).mp hfacts
  simp only [Bool.and_eq_true, List.any_eq_true, Option.any_eq_true, beq_iff_eq,
    Option.isNone_iff_eq_none] at hall
  obtain ⟨⟨⟨hsettled, hcalm⟩, hnone⟩, task, hmem, hended, own, ho, f, hf, ⟨hhost, hslot⟩, hlanded⟩ := hall
  obtain ⟨t, ht⟩ := List.mem_iff_getElem?.mp hmem
  refine ⟨w, reachable_rehearse .refl hw, idle_of_settled hsettled, undisturbed_of_all hcalm,
    fun hiff => ?_⟩
  have hunlanded : ∀ r, f.status ≠ .landed r := by
    intro r hl
    rw [Status.landed_iff.mp hl] at hlanded
    cases hlanded
  obtain ⟨ticket, hflying⟩ := (hiff "p" ⟨"n", "o"⟩).mpr
    ⟨own.ticket, f, hf, hhost, hslot, hunlanded, .task ht hended ho⟩
  rw [hnone] at hflying
  cases hflying

end World

end Dataflow
