import Dataflow.Proofs.Askers

/-!
# From the result back to what was handed over

A result comes up when a flight lands or a task ends that did the work alone. Just before that the work
has come to its content, and just before that the node has handed over an outcome, unless there was no
such node or output in the first place.
-/

namespace Dataflow

/-- Numbers of results are never given out again. -/
lemma Ledger.Move.results_le {b b' : Ledger} (h : Ledger.Move b b') : b.results ≤ b'.results := by
  obtain ⟨m, hm, hp⟩ := h.change
  refine Nat.le_trans ?_ hp.results
  cases hm with
  | land => exact Nat.le_succ _
  | _ => exact Nat.le_refl _

namespace World

variable {start w w' : World} {t : Nat} {r : Result} {c : Content}

lemma Uneventful.milestone (h : Uneventful w w') {e : Event} (he : e.isMilestone = true)
    (hm : e ∈ w'.journal) : e ∈ w.journal := by
  obtain ⟨new, hj, hn⟩ := h.journal
  rw [hj] at hm
  refine (List.mem_append.mp hm).resolve_left fun hnew => ?_
  rw [hn e hnew] at he
  cases he

lemma Stride.milestone (h : Stride w w') {e : Event} (he : e.isMilestone = true)
    (hm : e ∈ w'.journal) : e ∈ w.journal ∨ (∃ v, Marks w v e) ∨
      ∃ host s ticket, e = .takenOff host s ticket := by
  cases h with
  | uneventful ht => exact .inl (ht.milestone he hm)
  | marks hv hmarks ht =>
    rcases List.mem_cons.mp (ht.milestone he hm) with rfl | hm
    · exact .inr (.inl ⟨_, hmarks⟩)
    · exact .inl (hv.milestone he hm)
  | takesOff hv ht _ =>
    rcases List.mem_cons.mp (ht.milestone he hm) with rfl | hm
    · exact .inr (.inr ⟨_, _, _, rfl⟩)
    · exact .inl (hv.milestone he hm)
  | @computes host slot _ _ _ =>
    refine .inl ?_
    have hj : ((w.setJob (.work { host, slot, target := (w.engine host).target slot })).aim
        .work).journal = w.journal := journal_setJob w _
    rw [hj] at hm
    exact hm

/-- A task ends that is about to end. -/
lemma Stride.ended (h : Stride w w') {name : Option String} {how : End}
    (hm : .ended t name how ∈ w'.journal) :
    .ended t name how ∈ w.journal ∨ w.running = some t ∧ w.focus = .finish how := by
  rcases h.milestone rfl hm with hm | ⟨v, hmarks⟩ | ⟨_, _, _, heq⟩
  · exact .inl hm
  · generalize he : Event.ended t name how = e at hmarks
    cases hmarks with
    | ended hf hr _ _ =>
      cases he
      exact .inr ⟨hr, hf⟩
    | _ => cases he
  · cases heq

/-- A flight lands whose work has come to its content. -/
lemma Stride.landed (h : Stride w w') {host : String} {s : Slot} {ticket : Nat} {kept : Bool}
    (hm : .landed host s ticket r kept ∈ w'.journal) :
    .landed host s ticket r kept ∈ w.journal ∨ ∃ c f, w.focus = .made c ∧ w.ticket? = some ticket ∧
      w.flights[ticket]? = some f ∧ r = ⟨w.nextResult, c⟩ := by
  rcases h.milestone rfl hm with hm | ⟨v, hmarks⟩ | ⟨_, _, _, heq⟩
  · exact .inl hm
  · generalize he : Event.landed host s ticket r kept = e at hmarks
    cases hmarks with
    | @landed c ticket' f _ hf ht hfl _ =>
      cases he
      exact .inr ⟨c, f, hf, ht, hfl, rfl⟩
    | _ => cases he
  · cases heq

/-- Only what is over has ended. -/
lemma Sane.over_of_ended (h : w.Sane) {name : Option String} {how : End}
    (hm : .ended t name how ∈ w.journal) : w.Over t := by
  obtain ⟨d, hd, he⟩ := h.sound.accounted.ending t name how hm
  have hd' : (w.tasks.map Task.duty)[t]? = some d := hd
  rw [List.getElem?_map, Option.map_eq_some_iff] at hd'
  obtain ⟨task, ht, rfl⟩ := hd'
  exact ⟨task, how, ht, he⟩

lemma Sane.landed_of_status (h : w.Sane) {ticket : Nat} {f : Flight}
    (hf : w.flights[ticket]? = some f) (hl : f.status = .landed r) :
    ∃ kept, .landed f.work.host f.work.slot ticket r kept ∈ w.journal := by
  refine h.sound.logged.landed ticket f.departure r (flights_ledger hf) ?_
  unfold Flight.departure
  rw [hl]
  rfl

/-- Nothing tells that a flight has landed which has not. -/
lemma Sane.not_landed (h : w.Sane) {ticket : Nat} {f : Flight} (hf : w.flights[ticket]? = some f)
    (hn : f.status.result? = none) {host : String} {s : Slot} {kept : Bool} :
    .landed host s ticket r kept ∉ w.journal := by
  intro hm
  obtain ⟨-, d, hd, hl, -, -⟩ := h.sound.logged.landing host s ticket r kept hm
  rw [flights_ledger hf] at hd
  cases hd
  rw [show f.departure.landed = f.status.result? from rfl, hn] at hl
  cases hl

/-- The world is not at the beginning of anything, so a step has led to it. -/
lemma Reachable.stepped (h : Reachable start w) (hs : start.Sane)
    (ho : start.focus.isOpening = true) (hf : w.focus.isOpening = false) :
    ∃ v, Reachable start v ∧ v.step = w := by
  cases h with
  | refl =>
    rw [ho] at hf
    cases hf
  | @perform v a _ reply hr hidle ha =>
    have hfocus := (carries_perform (hr.goes hs).1.poised.steady a).focus
    rw [ha, hidle] at hfocus
    rw [hfocus] at hf
    cases hf
  | @poll v t hr hidle =>
    rw [isOpening_turn hidle t] at hf
    cases hf
  | @step v hr => exact ⟨v, hr, rfl⟩

lemma Reachable.nextResult_le (h : Reachable start w) (hs : start.Sane) :
    start.nextResult ≤ w.nextResult :=
  (h.goes hs).2.keep (P := fun b => start.nextResult ≤ b.results)
    (fun _ _ hb hm => Nat.le_trans hb hm.results_le) (Nat.le_refl _)

/-- What has begun or come to its end on the way has done so in one of the steps. -/
lemma Reachable.noted (h : Reachable start w) (hs : start.Sane) {e : Event}
    (he : e.isMilestone = true) (hm : e ∈ w.journal) : e ∈ start.journal ∨
      ∃ v, Reachable start v ∧ Reachable v.step w ∧ e ∉ v.journal ∧ e ∈ v.step.journal := by
  induction h with
  | refl => exact .inl hm
  | @perform w a w' reply hr hf ha ih =>
    have hroutine := routineChange_perform (hr.goes hs).1.poised.steady a
    rw [ha] at hroutine
    rcases ih (hroutine.toUneventful.milestone he hm) with hold | ⟨v, hv, hvw, hno, hyes⟩
    · exact .inl hold
    · exact .inr ⟨v, hv, .perform a w' reply hvw hf ha, hno, hyes⟩
  | @poll w t hr hf ih =>
    have hqueue : RoutineChange w { w with queue := w.queue.erase t } :=
      (RoutineChange.refl w).same rfl rfl rfl rfl
    rcases ih ((hqueue.trans (routineChange_poll _ t)).toUneventful.milestone he hm) with
      hold | ⟨v, hv, hvw, hno, hyes⟩
    · exact .inl hold
    · exact .inr ⟨v, hv, .poll t hvw hf, hno, hyes⟩
  | @step w hr ih =>
    by_cases hnew : e ∈ w.journal
    · rcases ih hnew with hold | ⟨v, hv, hvw, hno, hyes⟩
      · exact .inl hold
      · exact .inr ⟨v, hv, .step hvw, hno, hyes⟩
    · exact .inr ⟨w, hr, .refl, hnew, hm⟩

/-- Nothing but the work has changed. -/
structure KeepsTurn (w w' : World) : Prop where
  driving : w'.driving = w.driving
  running : w'.running = w.running
  nextResult : w'.nextResult = w.nextResult

/-- What the innermost work is about to come to: what its node hands over is judged to be that, or
there is nothing to ask for it. -/
inductive ComesTo (w : World) (k : Work) : Option (Except Cause Payload) → Content → Prop where
  | handed {x : Except Cause Payload} {c : Content} : w.HandsOver k x → k.judge x = .ok c →
      ComesTo w k (some x) c
  | missing {f : Failure} : w.focus = .work → w.party = .work k → k.stage = .fresh →
      k.target = .error f → ComesTo w k none (.error f)

variable {k k' : Work} {x x' : Option (Except Cause Payload)} {c' : Content}

lemma ComesTo.party (h : w.ComesTo k x c) : w.party = .work k := by
  cases h with
  | handed hh _ => exact hh.party
  | missing _ hp _ _ => exact hp

lemma ComesTo.ne_resume (h : w.ComesTo k x c) : w.focus ≠ .resume := by
  intro hf
  cases h with
  | handed hh _ =>
    rw [hh.focus] at hf
    cases hf
  | missing hw _ _ _ =>
    rw [hw] at hf
    cases hf

lemma ComesTo.isFinish (h : w.ComesTo k x c) : w.focus.isFinish = false := by
  cases h with
  | handed hh _ => exact congrArg Focus.isFinish hh.focus
  | missing hw _ _ _ => exact congrArg Focus.isFinish hw

/-- So it does with the next step. -/
lemma ComesTo.step (h : w.ComesTo k x c) : w.step.focus = .made c ∧ KeepsTurn w w.step := by
  cases h with
  | handed hh hj =>
    rw [hh.step_of_ok hj]
    exact ⟨rfl, rfl, rfl, rfl⟩
  | @missing f hf hp hst ht =>
    obtain ⟨tasks, flights, hset⟩ := w.setWork_frame { k with stage := .away }
    have hstep : w.step = (w.setWork { k with stage := .away }).aim (.made (.error f)) := by
      unfold World.step resumeWork
      rw [hf]
      dsimp only
      rw [hp]
      dsimp only
      rw [hst, ht]
    rw [hstep, hset]
    exact ⟨rfl, rfl, rfl, rfl⟩

/-- Works of the same slot that begin with the same node and schema come to the same, if that is asked
for the same output and hands over the same. -/
lemma ComesTo.unique (h : w.ComesTo k x c) (h' : w'.ComesTo k' x' c') (hslot : k.slot = k'.slot)
    (htarget : k.target = k'.target) (hx : x = x') : c = c' := by
  cases h with
  | handed hh hj =>
    cases h' with
    | handed _ hj' =>
      cases hx
      unfold Work.judge at hj hj'
      rw [hslot, htarget] at hj
      exact Except.ok.inj (hj.symm.trans hj')
    | missing _ _ _ _ => cases hx
  | missing _ _ _ ht =>
    cases h' with
    | handed _ _ => cases hx
    | missing _ _ _ ht' =>
      rw [htarget, ht'] at ht
      rw [Except.error.inj ht]

lemma HandsAnswer.ne_made (ha : w.HandsAnswer r w') : w'.focus ≠ .made c := by
  cases ha <;> rintro ⟨⟩

/-- Only a work that is taken up, or goes on, comes to its content. -/
lemma not_made (hs : w.Sane) (hw : w.focus ≠ .work) (hm : ∀ recipe, w.focus ≠ .make recipe) :
    w.step.focus ≠ .made c := by
  have hmade : ∀ v : World, v.focus.isMaking = false → v.focus ≠ .made c := by
    intro v hv heq
    rw [heq] at hv
    cases hv
  have hyields : ∀ v : World, v.focus.isYielding = false → v.focus ≠ .made c := fun v hv =>
    hmade v (isMaking_of_isYielding hv)
  have hsteady := hs.poised.steady
  unfold World.step
  cases hf : w.focus with
  | idle => exact hyields w (by rw [hf]; rfl)
  | resume => exact hmade _ w.resumesTask.isMaking
  | work => exact absurd hf hw
  | make recipe => exact absurd hf (hm recipe)
  | made c' => exact hmade _ (w.finishesWork c').isMaking
  | poll own => exact hyields _ (w.pollsFlight own).isYielding
  | answer r => exact (w.handsAnswer r).ne_made
  | stall => exact hyields _ w.stalls.isYielding
  | emission => exact hyields _ (w.goesOn.isYielding hsteady hf)
  | next finished => exact hyields _ (w.turnsToNext finished).isYielding
  | finish how => exact hyields _ (w.endsTask how).isYielding
  | panic text => exact hyields _ ((w.unwinds text).isYielding hf)

lemma ResumesWork.comesTo (hr : w.ResumesWork w') (hf : w.focus = .work)
    (hm : w'.focus = .made c) : ∃ k x, w.ComesTo k x c ∧ KeepsTurn w w' := by
  cases hr with
  | @misses k f hp hst ht =>
    cases hm
    obtain ⟨tasks, flights, hset⟩ := w.setWork_frame { k with stage := .away }
    rw [hset]
    exact ⟨k, none, .missing hf hp hst ht, rfl, rfl, rfl⟩
  | begins | opened | waits | polls | stalls => cases hm

lemma MakesRecipe.comesTo {recipe : Recipe} (hr : w.MakesRecipe recipe w')
    (hf : w.focus = .make recipe) (hm : w'.focus = .made c) :
    ∃ k x, w.ComesTo k x c ∧ KeepsTurn w w' := by
  cases hr with
  | @finishes k x c' hp hj =>
    cases hm
    exact ⟨k, some x, .handed ⟨hf, hp⟩ hj, rfl, rfl, rfl⟩
  | misfits | crashes | peeks | announces | holds | finds | asks | stalls => cases hm

/-- Whoever has come to its content has just done so. -/
lemma comesTo_of_made (hs : w.Sane) (hm : w.step.focus = .made c) :
    ∃ k x, w.ComesTo k x c ∧ KeepsTurn w w.step := by
  by_cases hw : w.focus = .work
  · have hstep : w.step = w.resumeWork := by
      unfold World.step
      rw [hw]
    rw [hstep] at hm ⊢
    exact w.resumesWork.comesTo hw hm
  by_cases hr : ∃ recipe, w.focus = .make recipe
  · obtain ⟨recipe, hr⟩ := hr
    have hstep : w.step = w.makeRecipe recipe := by
      unfold World.step
      rw [hr]
    rw [hstep] at hm ⊢
    exact (w.makesRecipe recipe).comesTo hr hm
  · exact absurd hm (not_made hs hw fun recipe hf => hr ⟨recipe, hf⟩)

/-- How the running task has come to a result that it is about to end with. -/
inductive AboutToEndWith (w : World) (r : Result) : Prop where
  | made {c : Content} : w.focus = .made c → w.driving = [] → r = ⟨w.nextResult, c⟩ → AboutToEndWith w r
  | answered {host : String} {slot : Slot} {share : Option Handle} : w.focus = .answer r →
      w.party = .output host slot share → AboutToEndWith w r
  | found {host : String} {slot : Slot} : w.focus = .resume → w.job = .output host slot none →
      (w.engine host).cached slot = some r → AboutToEndWith w r

lemma AboutToEndWith.isFinish (h : w.AboutToEndWith r) : w.focus.isFinish = false := by
  cases h with
  | made hf _ _ => exact congrArg Focus.isFinish hf
  | answered hf _ => exact congrArg Focus.isFinish hf
  | found hf _ _ => exact congrArg Focus.isFinish hf

lemma not_result_of_isResult (hf : w.focus.isResult = false) : w.focus ≠ .finish (.result r) := by
  intro heq
  rw [heq] at hf
  cases hf

lemma ResumesTask.aboutToEndWith (hres : w.ResumesTask w') (hf : w.focus = .resume)
    (hr : w'.focus = .finish (.result r)) : w.AboutToEndWith r := by
  have hyields (hv : w'.focus.isYielding = false) : w.AboutToEndWith r :=
    absurd hr (not_result_of_isResult (isResult_of_isYielding hv))
  cases hres with
  | finds hj hc =>
    cases hr
    exact .found hf hj hc
  | invalidates _ hi => exact hyields hi.isYielding
  | turns _ hfan => exact hyields hfan.isYielding
  | follows _ _ hp => exact hyields hp.isYielding
  | joins | polls | computes | works | emits | panics | ends | nothing => cases hr

lemma FinishesWork.aboutToEndWith (hw : w.FinishesWork c w') (hf : w.focus = .made c)
    (hr : w'.focus = .finish (.result r)) : w.AboutToEndWith r := by
  cases hw with
  | ends hd =>
    cases hr
    exact .made hf hd rfl
  | misses | lands => cases hr

lemma HandsAnswer.aboutToEndWith {r' : Result} (ha : w.HandsAnswer r' w') (hf : w.focus = .answer r')
    (hr : w'.focus = .finish (.result r)) : w.AboutToEndWith r := by
  cases ha with
  | ends hp =>
    cases hr
    exact .answered hf hp
  | resumes | readies | stalls => cases hr

lemma aboutToEndWith_of_finish (hs : w.Sane) (hr : w.step.focus = .finish (.result r)) :
    w.AboutToEndWith r := by
  have hno (hv : w.step.focus.isResult = false) : w.AboutToEndWith r :=
    absurd hr (not_result_of_isResult hv)
  have hyields (hv : w.step.focus.isYielding = false) : w.AboutToEndWith r :=
    hno (isResult_of_isYielding hv)
  have hsteady := hs.poised.steady
  unfold World.step at hr hno hyields
  cases hf : w.focus with
  | idle =>
    rw [hf] at hyields
    exact hyields (by simp only [hf]; rfl)
  | resume =>
    rw [hf] at hr
    exact w.resumesTask.aboutToEndWith hf hr
  | work =>
    rw [hf] at hno
    exact hno (isResult_of_isFinish w.resumesWork.isFinish)
  | make recipe =>
    rw [hf] at hno
    exact hno (isResult_of_isFinish (w.makesRecipe recipe).isFinish)
  | made c =>
    rw [hf] at hr
    exact (w.finishesWork c).aboutToEndWith hf hr
  | poll own =>
    rw [hf] at hyields
    exact hyields (w.pollsFlight own).isYielding
  | answer r' =>
    rw [hf] at hr
    exact (w.handsAnswer r').aboutToEndWith hf hr
  | stall =>
    rw [hf] at hyields
    exact hyields w.stalls.isYielding
  | emission =>
    rw [hf] at hyields
    exact hyields (w.goesOn.isYielding hsteady hf)
  | next finished =>
    rw [hf] at hyields
    exact hyields (w.turnsToNext finished).isYielding
  | finish how =>
    rw [hf] at hyields
    exact hyields (w.endsTask how).isYielding
  | panic text =>
    rw [hf] at hyields
    exact hyields ((w.unwinds text).isYielding hf)

end World

end Dataflow
