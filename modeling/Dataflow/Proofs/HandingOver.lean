import Dataflow.Proofs.Justification

/-!
# What a work comes to when its node hands over

A node that hands over an outcome is done with the output. What it handed over is judged at once, and
with that the flight of the work lands, or the task ends that did the work alone.
-/

namespace Dataflow

namespace World

/-- The node of the innermost work is about to hand this over. -/
structure HandsOver (w : World) (k : Work) (handed : Except Cause Payload) : Prop where
  focus : w.focus = .make (.finish handed)
  party : w.party = .work k

/-- What the node hands over becomes this result, which the flight of the work lands with, or which the
task ends with that did the work alone. -/
inductive Attains (w : World) (k : Work) (handed : Except Cause Payload) (r : Result) : Prop where
  | shared {ticket : Nat} {kept : Bool} : w.ticket? = some ticket →
      w.step.step.journal = .landed k.host k.slot ticket r kept ::
        .handed k.host k.slot (some ticket) handed :: w.journal → Attains w k handed r
  | alone {t : Nat} {name : Option String} : w.ticket? = none → w.running = some t →
      w.step.step.step.journal = .ended t name (.result r) ::
        .handed k.host k.slot none handed :: w.journal → Attains w k handed r

variable {w : World} {k : Work} {handed : Except Cause Payload} {c : Content} {r r' : Result}

namespace HandsOver

/-- The node is one that the work was begun with. -/
lemma target (h : w.HandsOver k handed) (hs : w.Sane) :
    ∃ n schema, k.target = .ok (n, schema) := by
  have ha := hs.poised.aimed
  rw [h.focus] at ha
  obtain ⟨-, k', hp, n, schema, ht, -⟩ := ha
  rw [h.party] at hp
  cases hp
  exact ⟨n, schema, ht⟩

lemma step_of_ok (h : w.HandsOver k handed) (hj : k.judge handed = .ok c) :
    w.step = (w.log (.handed k.host k.slot w.ticket? handed)).aim (.made c) := by
  unfold World.step makeRecipe
  rw [h.focus]
  dsimp only
  rw [h.party]
  dsimp only
  rw [hj]

end HandsOver

lemma journal_land (w : World) (ticket : Nat) (f : Flight) (r : Result) :
    (w.land ticket f r).journal = .landed f.work.host f.work.slot ticket r
      (decide ((w.engine f.work.host).flying f.work.slot = some ticket)) :: w.journal := by
  unfold land
  exact (fadingUnheld_wake _ _).journal

lemma attains_shared (h : w.HandsOver k handed) (hj : k.judge handed = .ok c) {ticket : Nat}
    {f : Flight} (ht : w.ticket? = some ticket) (hf : w.flights[ticket]? = some f)
    (hk : k = f.work) : w.Attains k handed ⟨w.nextResult, c⟩ := by
  obtain ⟨outer, hd⟩ := List.head?_eq_some_iff.mp ht
  let v : World := (w.log (.handed k.host k.slot (some ticket) handed)).aim (.made c)
  have hstep : w.step.step = v.finishWork c := by
    rw [h.step_of_ok hj, ht]
    rfl
  have hfinish : v.finishWork c = _ := finishWork_cons (w := v) hd hf c
  have hjournal : w.step.step.journal = .landed k.host k.slot ticket ⟨w.nextResult, c⟩
      (decide ((w.engine k.host).flying k.slot = some ticket)) ::
        .handed k.host k.slot (some ticket) handed :: w.journal := by
    rw [hstep, hfinish]
    show ({ v with nextResult := w.nextResult + 1 }.land ticket f ⟨w.nextResult, c⟩).journal = _
    rw [journal_land, ← hk]
    rfl
  exact .shared ht hjournal

lemma attains_alone (h : w.HandsOver k handed) (hj : k.judge handed = .ok c) {t : Nat} {task : Task}
    (hd : w.driving = []) (hr : w.running = some t) (ht : w.tasks[t]? = some task)
    (hjob : task.job = .work k) : w.Attains k handed ⟨w.nextResult, c⟩ := by
  have hticket : w.ticket? = none := by
    rw [ticket?, hd]
    rfl
  let v : World := (w.log (.handed k.host k.slot none handed)).aim (.made c)
  let v' : World := { v with nextResult := w.nextResult + 1 }.aim (.finish (.result ⟨w.nextResult, c⟩))
  have hfinish : v.finishWork c = v' := finishWork_nil (w := v) hd c
  have hstep : w.step.step.step = v'.endTask (.result ⟨w.nextResult, c⟩) := by
    rw [h.step_of_ok hj, hticket]
    show (v.finishWork c).step = _
    rw [hfinish]
    rfl
  obtain ⟨subscriptions, hkin⟩ := (v'.endsTask (.result ⟨w.nextResult, c⟩)).shelves hr ht
  have hclose : (v'.closeTask t (.result ⟨w.nextResult, c⟩)).journal = v'.journal :=
    (journal_closeTask v' t _).trans (v'.dropsJob.journal ((job_of_running (w := v') hr ht).trans hjob))
  have hjournal : w.step.step.step.journal = .ended t task.name (.result ⟨w.nextResult, c⟩) ::
      .handed k.host k.slot none handed :: w.journal := by
    rw [hstep, hkin.journal]
    exact congrArg (List.cons _) hclose
  exact .alone hticket hr hjournal

/-- Unless the schema breaks down, the work comes to what the outcome is judged to be. -/
lemma HandsOver.attains (h : w.HandsOver k handed) (hs : w.Steady) (hj : k.judge handed = .ok c) :
    w.Attains k handed ⟨w.nextResult, c⟩ := by
  rcases hs.party_cases h.party with ⟨ticket, f, ht, hf, hk⟩ | ⟨hd, -, t, task, hr, ht, hjob⟩
  · exact attains_shared h hj ht hf hk
  · exact attains_alone h hj hd hr ht hjob

/-- What it comes to is settled. -/
lemma Attains.unique (h : w.Attains k handed r) (h' : w.Attains k handed r') : r = r' := by
  cases h with
  | shared ht hj =>
    cases h' with
    | shared _ hj' =>
      have heq := hj.symm.trans hj'
      cases heq
      rfl
    | alone ht' _ _ =>
      rw [ht] at ht'
      cases ht'
  | alone ht hr hj =>
    cases h' with
    | shared ht' _ =>
      rw [ht] at ht'
      cases ht'
    | alone _ _ hj' =>
      have heq := hj.symm.trans hj'
      cases heq
      rfl

end World

end Dataflow
