import Dataflow.Proofs.Origins

/-!
# Stale computations do not write

What is cached for a slot was computed since the slot was cleared last, with the node and the schema
that were registered when the computation started. A computation whose slot was cleared meanwhile
leaves all caches alone, and those who wait for it get its result nevertheless.
-/

namespace Dataflow

namespace World

variable {w : World}

/-- The result was computed by a flight that took off after the slot had been cleared last, with what
was registered at that time, and landed before the slot could be cleared again. -/
def Backs (w : World) (host : String) (slot : Slot) (r : Result) : Prop :=
  ∃ later mid earlier ticket f,
    w.journal = later ++ .landed host slot ticket r true ::
      (mid ++ .takenOff host slot ticket :: earlier) ∧
    (∀ e ∈ later, e.clears host slot = false) ∧ (∀ e ∈ mid, e.clears host slot = false) ∧
    w.flights[ticket]? = some f ∧ f.status = .landed r ∧ f.work.host = host ∧
    f.work.slot = slot ∧ f.work.target = Journal.target host slot earlier ∧
    f.work.Yields r.content

/-- The slot was cleared since the flight took off. -/
def Overtaken (w : World) (ticket : Nat) (f : Flight) : Prop :=
  ∃ later earlier, w.journal = later ++ .takenOff f.work.host f.work.slot ticket :: earlier ∧
    ∃ e ∈ later, e.clears f.work.host f.work.slot = true

lemma Sane.backs (h : w.Sane) {host : String} {slot : Slot} {r : Result}
    (hc : (w.engine host).cached slot = some r) : w.Backs host slot r := by
  have hj : Journal.cached host slot w.journal = some r :=
    (h.sound.mirrors.cached host slot).symm.trans hc
  have hlaw : Lawful w.policy w.journal := h.sound.lawful
  obtain ⟨later, mid, earlier, ticket, hs, hl, hm⟩ := hlaw.cached_since hj
  have hland : .landed host slot ticket r true ∈ w.journal := by
    rw [hs]
    exact List.mem_append_right _ List.mem_cons_self
  have hsplit : w.journal = (later ++ .landed host slot ticket r true :: mid) ++
      .takenOff host slot ticket :: earlier := by
    rw [hs, List.append_assoc]
    rfl
  obtain ⟨f, hd, rfl, rfl⟩ := h.departed hsplit
  obtain ⟨f', hf', hst, hy⟩ := h.landed hland
  rw [hd.flight] at hf'
  cases hf'
  exact ⟨later, mid, earlier, ticket, f, hs, hl, hm, hd.flight, hst, rfl, rfl, hd.target, hy⟩

lemma Sane.not_flying (h : w.Sane) {ticket : Nat} {f : Flight} (ho : w.Overtaken ticket f) :
    (w.engine f.work.host).flying f.work.slot ≠ some ticket := by
  intro hf
  obtain ⟨later, earlier, hs, e, he, hc⟩ := ho
  have hj : Journal.flying f.work.host f.work.slot w.journal = some ticket :=
    (h.sound.mirrors.flying _ _).symm.trans hf
  obtain ⟨later', earlier', hs', hclear⟩ := Journal.flying_eq_some hj
  have hlaw : Lawful w.policy w.journal := h.sound.lawful
  rw [hs] at hlaw
  obtain ⟨rfl, -⟩ := hlaw.eq_of_split (hs.symm.trans hs')
  rw [hclear e he] at hc
  cases hc

/-- A flight that was overtaken lands beside the caches. -/
lemma Sane.land_overtaken (h : w.Sane) {c : Content} {ticket : Nat} {outer : List Nat}
    {f : Flight} (hf : w.focus = .made c) (hd : w.driving = ticket :: outer)
    (ht : w.flights[ticket]? = some f) (ho : w.Overtaken ticket f) (host : String) :
    w.step.engine host = w.engine host := by
  have hstep : w.step = w.finishWork c := by
    unfold World.step
    rw [hf]
  have hledger : w.step.ledger = w.ledger.land ticket f.departure c := by
    rw [hstep, finishWork_cons hd ht, ← ledger_land]
    rfl
  have hengine : w.step.engine host = (w.ledger.land ticket f.departure c).engine host := by
    rw [← hledger]
    rfl
  have hland : (w.engine f.work.host).land f.work.slot ticket ⟨w.nextResult, c⟩ =
      w.engine f.work.host := if_neg (h.not_flying ho)
  rw [hengine]
  show (if f.work.host = host then (w.engine f.work.host).land f.work.slot ticket ⟨w.nextResult, c⟩
    else w.engine host) = w.engine host
  rw [hland]
  by_cases hh : f.work.host = host
  · rw [if_pos hh, hh]
  · rw [if_neg hh]

lemma journal_endTask {t : Nat} {task : Task} (hr : w.running = some t)
    (ht : w.tasks[t]? = some task) (how : End) :
    (w.endTask how).journal = .ended t task.name how :: w.dropJob.journal := by
  have hends := w.endsTask how
  generalize w.endTask how = w' at hends
  cases hends with
  | idle hr' =>
    rw [hr] at hr'
    cases hr'
  | misses hr' ht' =>
    rw [hr] at hr'
    cases hr'
    rw [ht] at ht'
    cases ht'
  | leaves hr' ht' =>
    rw [hr] at hr'
    cases hr'
    rw [ht] at ht'
    cases ht'
    exact w.journal_leaveTask t task how
  | calls hr' ht' =>
    rw [hr] at hr'
    cases hr'
    rw [ht] at ht'
    cases ht'
    exact (fadingUnheld_enqueue _ _).journal.trans (w.journal_leaveTask t task how)

/-- A task that waits for a flight which has landed ends with what it landed with. -/
lemma Sane.answers (h : w.Sane) (hf : w.focus = .idle) {t : Nat} {task : Task} {host : String}
    {slot : Slot} {own : Handle} {f : Flight} {r : Result} (ht : w.tasks[t]? = some task)
    (he : task.ended = none) (hc : task.cancelled = false)
    (hj : task.job = .output host slot (some own)) (hfl : w.flights[own.ticket]? = some f)
    (hs : f.status = .landed r) :
    (w.poll t).step.step.step.step.journal = .ended t task.name (.result r) :: w.journal := by
  have haim := h.poised.aimed
  rw [hf] at haim
  have hd : w.driving = [] := haim.2.1
  obtain ⟨subscriptions, hpoll₁⟩ := poll_going ht he hc
  generalize hw₁ : ({ w with
    running := some t, rewoken := false, deliveries := 0, subscriptions } : World) = w₁
  have hr₁ : w₁.running = some t := by rw [← hw₁]
  have ht₁ : w₁.tasks[t]? = some task := by rw [← hw₁]; exact ht
  have hd₁ : w₁.driving = [] := by rw [← hw₁]; exact hd
  have hfl₁ : w₁.flights[own.ticket]? = some f := by rw [← hw₁]; exact hfl
  have hjournal₁ : w₁.journal = w.journal := by rw [← hw₁]
  have hjob : ∀ g, (w₁.aim g).job = .output host slot (some own) := fun g =>
    (job_of_running (w := w₁.aim g) hr₁ ht₁).trans hj
  have hpoll : w.poll t = w₁.aim .resume := by
    rw [← hw₁]
    exact hpoll₁
  have hresume : (w₁.aim .resume).step = w₁.aim (.poll own) := by
    show (w₁.aim .resume).resumeTask = _
    unfold resumeTask
    rw [hjob]
    rfl
  have hpolled : (w₁.aim (.poll own)).step = w₁.aim (.answer r) := by
    show (w₁.aim (.poll own)).pollFlight own = _
    unfold pollFlight
    have hfl' : (w₁.aim (.poll own)).flights[own.ticket]? = some f := hfl₁
    simp only [hfl', hs]
    rfl
  have hanswer : (w₁.aim (.answer r)).step = w₁.aim (.finish (.result r)) := by
    show (w₁.aim (.answer r)).handAnswer r = _
    unfold handAnswer
    have hp : (w₁.aim (.answer r)).party = .output host slot (some own) := by
      rw [party_eq]
      show partyAt _ _ w₁.driving = _
      rw [hd₁]
      show ((w₁.aim (.answer r)).job).party = _
      rw [hjob]
      rfl
    rw [hp]
    rfl
  rw [hpoll, hresume, hpolled, hanswer]
  show ((w₁.aim (.finish (.result r))).endTask (.result r)).journal = _
  have hdrop : (w₁.aim (.finish (.result r))).dropJob.journal = w.journal := by
    unfold dropJob
    rw [hjob, setJob_of_running (w := w₁.aim (.finish (.result r))) hr₁ ht₁]
    simp only
    rw [(fadingUnheld_release _ _ _).journal]
    exact hjournal₁
  exact (journal_endTask (w := w₁.aim (.finish (.result r))) hr₁ ht₁ _).trans (by rw [hdrop])

/-- Nothing in the world is written by a flight that was overtaken, and nobody waits in vain. -/
structure Guarded (w : World) : Prop where
  target : ∀ host slot, (w.engine host).target slot = Journal.target host slot w.journal
  backed : ∀ host slot r, (w.engine host).cached slot = some r → w.Backs host slot r
  overtaken : ∀ c ticket outer f, w.focus = .made c → w.driving = ticket :: outer →
    w.flights[ticket]? = some f → w.Overtaken ticket f →
    (∀ host, w.step.engine host = w.engine host) ∧ w.step.focus = .answer ⟨w.nextResult, c⟩
  alive : ∀ ticket, w.Holds ticket → Alive w.flights ticket
  answered : ∀ r, w.focus = .answer r → ∃ ticket f, w.party.awaits = some ticket ∧
    w.flights[ticket]? = some f ∧ f.status = .landed r
  ended : ∀ (t : Nat) task host slot own f r, w.focus = .idle → w.tasks[t]? = some task →
    task.ended = none → task.cancelled = false → task.job = .output host slot (some own) →
    w.flights[own.ticket]? = some f → f.status = .landed r →
    (w.poll t).step.step.step.step.journal = .ended t task.name (.result r) :: w.journal

/-- What is cached was computed since the slot was cleared last, and whoever waits for an overtaken
flight still gets its result. -/
theorem stale_write_guard {s : Scene} {w : World} (h : Reachable s.opening w) : w.Guarded := by
  have hs := Scene.sane_of_reachable h
  constructor
  case target => exact fun host slot => hs.sound.mirrors.target host slot
  case backed => exact fun host slot r hc => hs.backs hc
  case alive => exact hs.poised.steady.safe
  case overtaken =>
    intro c ticket outer f hf hd ht ho
    refine ⟨hs.land_overtaken hf hd ht ho, ?_⟩
    unfold step
    rw [hf]
    show (w.finishWork c).focus = _
    rw [finishWork_cons hd ht]
    rfl
  case answered =>
    intro r hf
    have haim := hs.poised.aimed
    rw [hf] at haim
    exact haim.2
  case ended =>
    intro t task host slot own f r hf ht he hc hj hfl hl
    exact hs.answers hf ht he hc hj hfl hl

/-- Two computations of one slot: the second is cached, and the first is about to come to its end. -/
def overtaking : List (Action × Nat) := [
  (.register "p" (heldNode "n" ["o"]) "n", 0),
  (.output "p" "first" ⟨"n", "o"⟩, 30),
  (.invalidate "p" "clear" "n" (some ["o"]), 30),
  (.output "p" "second" ⟨"n", "o"⟩, 30),
  (.resolve .last (some (.value (.text "new"))), 30),
  (.resolve .first (some (.value (.text "old"))), 5)]

lemma overtaken_of_places {ticket i j : Nat} {f : Flight} (hij : i < j)
    (hi : (w.journal[i]?).any (Event.clears f.work.host f.work.slot) = true)
    (hj : (w.journal[j]?).bind (Event.ofDeparture f.work.host f.work.slot) = some ticket) :
    w.Overtaken ticket f := by
  obtain ⟨x, hx, hd⟩ := Option.bind_eq_some_iff.mp hj
  have htake : x = .takenOff f.work.host f.work.slot ticket := by
    cases x with
    | takenOff host slot other =>
      by_cases hc : host = f.work.host ∧ slot = f.work.slot
      · obtain ⟨rfl, rfl⟩ := hc
        simp only [Event.ofDeparture, and_self, if_true, Option.some.injEq] at hd
        rw [hd]
      · simp [Event.ofDeparture, hc] at hd
    | _ => cases hd
  obtain ⟨e, he, hc⟩ := (Option.any_eq_true _ _).mp hi
  refine ⟨w.journal.take j, w.journal.drop (j + 1), ?_, e, ?_, hc⟩
  · rw [← htake]
    exact split_of_place hx
  · have hmem : (w.journal.take j)[i]? = some e := by
      rw [List.getElem?_take, if_pos hij]
      exact he
    exact List.mem_of_getElem? hmem

/-- The newer computation stays cached when the older one lands. -/
theorem stale_write_guard_overtaking : ∃ w, Reachable ({} : Scene).opening w ∧
    (∃ r, (w.engine "p").cached ⟨"n", "o"⟩ = some r ∧ w.Backs "p" ⟨"n", "o"⟩ r) ∧
    ∃ f, w.driving = [0] ∧ w.flights[0]? = some f ∧ w.Overtaken 0 f ∧
      ∀ host, w.step.engine host = w.engine host := by
  have hsome : (({} : Scene).opening.rehearse overtaking).isSome = true := by decide +kernel
  obtain ⟨w, hw⟩ := Option.isSome_iff_exists.mp hsome
  have hlook : (({} : Scene).opening.rehearse overtaking).map (fun w =>
      (((w.engine "p").cached ⟨"n", "o"⟩).isSome, w.driving,
        (w.flights[0]?).map fun f => (f.work.host, f.work.slot))) =
      some (true, [0], some ("p", ⟨"n", "o"⟩)) := by decide +kernel
  have hfocus : (({} : Scene).opening.rehearse overtaking).any (fun w =>
      w.focus.isMade) = true := by decide +kernel
  have hplaces : (({} : Scene).opening.rehearse overtaking).map (fun w =>
      ((w.journal[13]?).any (Event.clears "p" ⟨"n", "o"⟩),
        (w.journal[17]?).bind (Event.ofDeparture "p" ⟨"n", "o"⟩))) = some (true, some 0) := by
    decide +kernel
  rw [hw] at hlook hfocus hplaces
  simp only [Option.map_some, Option.some.injEq, Prod.mk.injEq, Option.any_some] at hlook hfocus hplaces
  have hreach := reachable_rehearse .refl hw
  have hguard := stale_write_guard hreach
  obtain ⟨r, hr⟩ := Option.isSome_iff_exists.mp hlook.1
  obtain ⟨f, hf, hhost⟩ := Option.map_eq_some_iff.mp hlook.2.2
  obtain ⟨hh, hs⟩ := Prod.mk.inj hhost
  have hover : w.Overtaken 0 f := by
    refine overtaken_of_places (i := 13) (j := 17) (by decide) ?_ ?_
    · rw [hh, hs]
      exact hplaces.1
    · rw [hh, hs]
      exact hplaces.2
  cases hmade : w.focus with
  | made c =>
    exact ⟨w, hreach, ⟨r, hr, hguard.backed "p" ⟨"n", "o"⟩ r hr⟩, f, hlook.2.1, hf, hover,
      (hguard.overtaken c 0 [] f hmade hlook.2.1 hf hover).1⟩
  | _ =>
    rw [hmade] at hfocus
    cases hfocus

end World

end Dataflow
