import Dataflow.Proofs.Courses
import Dataflow.Proofs.DeliveryOrder
import Dataflow.Proofs.SingleFlight

/-!
# How tasks come to results

A task ends with a result in three ways only: it finds the result in the cache, it is handed what the
flight has come to that it waited for, or it has done the work itself. What it ends with therefore
belongs to what it was there for.
-/

namespace Dataflow

/-- The running task is about to end. -/
def Focus.isFinish : Focus → Bool
  | .finish _ => true
  | _ => false

/-- The running task is about to end with a result. -/
def Focus.isResult : Focus → Bool
  | .finish (.result _) => true
  | _ => false

/-- A work goes on, or has come to its content. -/
def Focus.isMaking : Focus → Bool
  | .make _ | .made _ => true
  | _ => false

def Focus.isYielding (f : Focus) : Bool := f.isMaking || f.isResult

/-- The running task is concerned with no flight. -/
def Focus.isGrounded : Focus → Bool
  | .idle | .resume | .emission | .next _ | .finish _ => true
  | _ => false

namespace World

variable {w w' : World}

lemma Pauses.focus (hp : w.Pauses w') : w'.focus = .idle ∨ w'.focus = .finish .cancelled := by
  cases hp with
  | idle | rests => exact .inl rfl
  | ends => exact .inr rfl
  | returns => exact .inl (fadingUnheld_enqueue _ _).toFading.focus

lemma Pauses.isYielding (hp : w.Pauses w') : w'.focus.isYielding = false := by
  rcases hp.focus with hf | hf <;> rw [hf] <;> rfl

lemma TurnsFan.isYielding {f : Fan} (ht : w.TurnsFan f w') : w'.focus.isYielding = false := by
  cases ht with
  | polls | ends => rfl
  | waits _ hp => exact hp.isYielding
  | yields _ hp => exact hp.isYielding

lemma TurnsToNext.isYielding (ht : w.TurnsToNext w') : w'.focus.isYielding = false := by
  cases ht with
  | fan _ hf => exact hf.isYielding
  | pauses _ hp => exact hp.isYielding

lemma Stalls.isYielding (hs : w.Stalls w') : w'.focus.isYielding = false := by
  cases hs with
  | flight | misses | branch => rfl
  | task _ _ hp => exact hp.isYielding

lemma Invalidates.isYielding {host node : String} {keys : Option (List String)}
    (hi : w.Invalidates host node keys w') : w'.focus.isYielding = false := by
  cases hi with
  | misses => rfl
  | starts _ hf => exact hf.isYielding

lemma isYielding_of_emission (hf : w.focus = .emission) : w.focus.isYielding = false := by
  rw [hf]
  rfl

lemma Looks.isYielding {e : Emission} {pass : Pass} (hl : w.Looks e pass w')
    (hf : w.focus = .emission) : w'.focus.isYielding = false := by
  cases hl with
  | finds => exact isYielding_of_emission ((focus_setEmission _ _).trans hf)
  | joins => rfl

lemma HandsOut.isYielding {e : Emission} {pass : Pass} {clears : Nat}
    (hd : w.HandsOut e pass clears w') (hf : w.focus = .emission) :
    w'.focus.isYielding = false := by
  cases hd with
  | selects => exact isYielding_of_emission ((focus_setEmission _ _).trans hf)
  | breaks => rfl
  | retries =>
    exact isYielding_of_emission ((focus_setEmission _ _).trans ((focus_makeWay _ e pass).trans hf))

lemma Approaches.isYielding {e : Emission} {pass : Pass} {clears : Nat}
    (ha : w.Approaches e pass clears w') (hf : w.focus = .emission) :
    w'.focus.isYielding = false := by
  cases ha with
  | queues | yields => rfl
  | delivers _ _ hd => exact hd.isYielding hf

lemma CallsNext.isYielding {e : Emission} {pass : Pass} {r : Result} {rest : List Nat}
    (hc : w.CallsNext e pass r rest w') (hf : w.focus = .emission) :
    w'.focus.isYielding = false := by
  cases hc with
  | ends hfin => cases hfin <;> rfl
  | skips | calls => exact isYielding_of_emission ((focus_setEmission _ _).trans hf)

lemma ActsNext.focus {e : Emission} {pass : Pass} {r : Result} {rest : List Nat}
    {callback : String} {script : List Action} (ha : w.ActsNext e pass r rest callback script w')
    (h : w.Steady) (hf : w.focus = .emission) :
    w'.focus = .emission ∨ ∃ text, w'.focus = .panic text := by
  cases ha with
  | rests => exact .inl ((focus_setEmission w _).trans hf)
  | @acts a script v reply heq =>
    have hp := (carries_perform h a).focus
    rw [heq] at hp
    exact .inl ((focus_setEmission _ _).trans (hp.trans hf))
  | panics => exact .inr ⟨_, rfl⟩

lemma GoesOn.isYielding (hg : w.GoesOn w') (h : w.Steady) (hf : w.focus = .emission) :
    w'.focus.isYielding = false := by
  cases hg with
  | enters => exact isYielding_of_emission ((focus_setEmission _ _).trans hf)
  | looks _ _ hl => exact hl.isYielding hf
  | polls | stalls => rfl
  | approaches _ _ ha => exact ha.isYielding hf
  | calls _ _ hc => exact hc.isYielding hf
  | acts _ _ ha => rcases ha.focus h hf with hf' | ⟨text, hf'⟩ <;> rw [hf'] <;> rfl

lemma Unwinds.focus {text : String} (hu : w.Unwinds text w') (hf : w.focus = .panic text) :
    w'.focus = .panic text ∨ w'.focus = .finish (.panicked text) := by
  cases hu with
  | breaks | misses => exact .inl (w.forgetsParty.focus.trans hf)
  | ends => exact .inr rfl

lemma Unwinds.isYielding {text : String} (hu : w.Unwinds text w') (hf : w.focus = .panic text) :
    w'.focus.isYielding = false := by
  rcases hu.focus hf with hf' | hf' <;> rw [hf'] <;> rfl

lemma EndsTask.focus {how : End} (he : w.EndsTask how w') : w'.focus = .idle := by
  cases he with
  | idle | misses | leaves => rfl
  | calls => exact (fadingUnheld_enqueue _ _).toFading.focus

lemma EndsTask.isYielding {how : End} (he : w.EndsTask how w') : w'.focus.isYielding = false := by
  rw [he.focus]
  rfl

lemma ResumesWork.isFinish (hr : w.ResumesWork w') : w'.focus.isFinish = false := by
  cases hr <;> rfl

lemma MakesRecipe.isFinish {r : Recipe} (hm : w.MakesRecipe r w') : w'.focus.isFinish = false := by
  cases hm <;> rfl

lemma PollsFlight.isYielding {own : Handle} (hp : w.PollsFlight own w') :
    w'.focus.isYielding = false := by
  cases hp <;> rfl

lemma due_of_isResult (hf : w.focus.isResult = false) : w.Due := by
  rintro how hh r rfl
  rw [hh] at hf
  cases hf

lemma isResult_of_isFinish {f : Focus} (h : f.isFinish = false) : f.isResult = false := by
  cases f with
  | finish how => cases h
  | _ => rfl

lemma isResult_of_isYielding {f : Focus} (h : f.isYielding = false) : f.isResult = false :=
  (Bool.or_eq_false_iff.mp h).2

lemma isMaking_of_isYielding {f : Focus} (h : f.isYielding = false) : f.isMaking = false :=
  (Bool.or_eq_false_iff.mp h).1

lemma due_of_isYielding (hf : w.focus.isYielding = false) : w.Due :=
  due_of_isResult (isResult_of_isYielding hf)

lemma due_of_isOpening (hf : w.focus.isOpening = true) : w.Due := by
  rintro how hh r rfl
  rw [hh] at hf
  cases hf

lemma Sane.landed_of_cached (h : w.Sane) {host : String} {slot : Slot} {r : Result}
    (hc : (w.engine host).cached slot = some r) : Journal.Landed host slot r w.journal := by
  have hc' : Journal.cached host slot w.journal = some r :=
    (h.sound.mirrors.cached host slot).symm.trans hc
  obtain ⟨ticket, hm⟩ := Journal.landed_of_cached hc'
  exact ⟨ticket, true, hm⟩

lemma Sane.landed_of_answer (h : w.Sane) {ticket : Nat} {host : String} {slot : Slot} {r : Result}
    (hf : w.focus = .answer r) (ha : w.party.awaits = some ticket)
    (hs : Serves w.flights ticket host slot) : Journal.Landed host slot r w.journal := by
  obtain ⟨f, hfl, hhost, hslot⟩ := hs
  obtain ⟨kept, hm⟩ := h.landed_of_obtains (.answered f hf ha hfl hhost hslot)
  exact ⟨ticket, kept, hm⟩

lemma ResumesTask.due (hr : w.ResumesTask w') (h : w.Sane) : w'.Due := by
  cases hr with
  | @finds host slot r hj hc =>
    rintro how ⟨⟩ r' ⟨⟩
    exact ⟨.request host slot, congrArg Job.purpose hj, h.landed_of_cached hc⟩
  | invalidates _ hi => exact due_of_isYielding hi.isYielding
  | turns _ hf => exact due_of_isYielding hf.isYielding
  | follows _ _ hp => exact due_of_isYielding hp.isYielding
  | joins | polls | computes | works | emits | panics | ends | nothing => exact due_of_isResult rfl

lemma FinishesWork.due {c : Content} (hw : w.FinishesWork c w') (ha : w.Aimed (.made c)) :
    w'.Due := by
  cases hw with
  | ends hd =>
    obtain ⟨-, k, hp, -⟩ := ha
    rw [party_eq, hd] at hp
    rintro how ⟨⟩ r ⟨⟩
    exact ⟨_, congrArg Job.purpose (Job.eq_of_party_work hp), True.intro⟩
  | misses | lands => exact due_of_isResult rfl

lemma HandsAnswer.due {r : Result} (hr : w.HandsAnswer r w') (h : w.Sane) (hf : w.focus = .answer r) :
    w'.Due := by
  have ha := h.poised.aimed
  rw [hf] at ha
  obtain ⟨-, ticket, f, hawaits, -, -⟩ := ha
  have hsits := h.poised.steady.sits
  cases hr with
  | ends hp =>
    rw [hp] at hsits hawaits
    obtain ⟨own, rfl, ht⟩ := Option.map_eq_some_iff.mp hawaits
    rintro how ⟨⟩ r' ⟨⟩
    have hawaits' : w.party.awaits = some own.ticket := by
      rw [hp]
      rfl
    exact ⟨_, congrArg Job.purpose (job_of_party_output hp),
      h.landed_of_answer hf hawaits' (hsits own rfl).2⟩
  | resumes | readies | stalls => exact due_of_isResult rfl

lemma due_step (h : w.Sane) : w.step.Due := by
  have ha := h.poised.aimed
  unfold step
  cases hf : w.focus with
  | idle => exact due_of_isResult (congrArg Focus.isResult hf)
  | resume => exact w.resumesTask.due h
  | work => exact due_of_isResult (isResult_of_isFinish w.resumesWork.isFinish)
  | make r => exact due_of_isResult (isResult_of_isFinish (w.makesRecipe r).isFinish)
  | made c =>
    rw [hf] at ha
    exact (w.finishesWork c).due ha
  | poll own => exact due_of_isYielding (w.pollsFlight own).isYielding
  | answer r => exact (w.handsAnswer r).due h hf
  | stall => exact due_of_isYielding w.stalls.isYielding
  | emission => exact due_of_isYielding (w.goesOn.isYielding h.poised.steady hf)
  | next finished => exact due_of_isYielding (w.turnsToNext finished).isYielding
  | finish how => exact due_of_isYielding (w.endsTask how).isYielding
  | panic text => exact due_of_isYielding ((w.unwinds text).isYielding hf)

/-- While no flight is driven, none comes to be driven but by being polled. -/
lemma grounded_step (h : w.Sane) (hd : w.Due) (hf : w.focus.isGrounded = true) :
    w.step.driving = [] := by
  have ha := h.poised.aimed
  unfold step
  cases hfocus : w.focus with
  | idle =>
    rw [hfocus] at ha
    exact ha.2.1
  | resume =>
    rw [hfocus] at ha
    exact w.resumesTask.keepsDriving.driving.trans ha.2
  | emission =>
    rw [hfocus] at ha
    exact (w.goesOn.keepsDriving h.poised.steady).driving.trans ha.2
  | next finished =>
    rw [hfocus] at ha
    exact (w.turnsToNext finished).keepsDriving.driving.trans ha.2
  | finish how =>
    rw [hfocus] at ha
    exact ((w.endsTask how).keepsDriving (hd how hfocus)).driving.trans ha.2.1
  | _ =>
    rw [hfocus] at hf
    cases hf

section

variable {start : World} {P Q : World → Prop}

lemma Reachable.due (h : Reachable start w) (hs : start.Sane) (hd : start.Due) : w.Due := by
  exact h.through.keeps hs hd (fun w w' _ _ _ _ hf => due_of_isOpening hf) fun w hw _ _ =>
    due_step hw

/-- What is kept between turns, and by every step of a world in which nobody ends with what is not due,
holds throughout. -/
lemma Through.maintains (h : Through Q start w) (hs : start.Sane) (hd : start.Due) (h₀ : P start)
    (hturn : ∀ w w', P w → KeepsDriving w w' → w'.focus.isOpening = true → P w')
    (hstep : ∀ w, w.Sane → w.Due → Q w → P w → P w.step) : P w := by
  have hboth : w.Due ∧ P w := by
    refine h.keeps (P := fun w => w.Due ∧ P w) hs ⟨hd, h₀⟩ (fun w w' _ hp _ hr hf => ?_)
      fun w hw hq hp => ?_
    · exact ⟨due_of_isOpening hf, hturn w w' hp.2 hr hf⟩
    · exact ⟨due_step hw, hstep w hw hp.1 hq hp.2⟩
  exact hboth.2

/-- In the course of a run the history and the tasks grow. -/
lemma Reachable.grows (h : Reachable start w) (hs : start.Sane) (hd : start.Due) :
    Grows start w := by
  refine h.through.maintains hs hd (KeepsDriving.refl start).toGrows (fun w w' hp hr _ => ?_)
    fun w hw hd _ hp => ?_
  · exact hp.trans hr.toGrows
  · exact hp.trans (advances_step hw.poised hd).toGrows

end

end World

namespace Scene

variable {s : Scene} {w : World}

theorem due_of_reachable (h : World.Reachable s.opening w) : w.Due :=
  h.due s.sane_opening (World.due_of_isResult rfl)

theorem grows_of_reachable (h : World.Reachable s.opening w) : World.Grows s.opening w :=
  h.grows s.sane_opening (World.due_of_isResult rfl)

/-- A result that a task ends with is one of the slot that the task was started for. -/
lemma landed_of_ended (h : World.Reachable s.opening w) {t : Nat} {name : Option String}
    {task : Task} {r : Result} {host : String} {slot : Slot}
    (hs : .started t task ∈ w.journal) (hj : task.job = .output host slot none)
    (he : .ended t name (.result r) ∈ w.journal) : Journal.Landed host slot r w.journal := by
  have hgrows := grows_of_reachable h
  rcases hgrows.news _ he with hnil | ⟨task', p, hemp, hp, hmet⟩
  · cases hnil
  · have hs' : .started t task' ∈ w.journal := hemp.resolve_left (by rintro ⟨⟩)
    have hlaw : Lawful w.policy w.journal := (sane_of_reachable h).sound.lawful
    have heq := hlaw.started_once hs hs'
    subst heq
    rw [hj] at hp
    cases hp
    exact hmet

/-- If a node is asked for a slot on behalf of one task alone, then a task was started for that. -/
lemma started_of_begun (h : World.Reachable s.opening w) {host : String} {slot : Slot}
    (hb : .begun host slot none ∈ w.journal) : ∃ t task, .started t task ∈ w.journal ∧
      task.job.purpose = some (.computation host slot) := by
  rcases (grows_of_reachable h).news _ hb with hnil | ⟨t, task, hemp, hp⟩
  · cases hnil
  · exact ⟨t, task, hemp.resolve_left (by rintro ⟨⟩), hp⟩

end Scene

namespace World

variable {w : World} {host : String}

/-- The result is cached for the slot, delivered or handed to somebody who asked for the slot. -/
inductive Gives (w : World) (host : String) (slot : Slot) (r : Result) : Prop where
  | cached : (w.engine host).cached slot = some r → Gives w host slot r
  | delivered (pass : Pass) (picked : List Nat) :
      .delivering host slot pass r picked ∈ w.journal → Gives w host slot r
  | called (subscriber : Nat) (callback : String) :
      .called host slot subscriber callback r ∈ w.journal → Gives w host slot r
  | returned (t : Nat) (task : Task) (name : Option String) : .started t task ∈ w.journal →
      task.job = .output host slot none → .ended t name (.result r) ∈ w.journal →
      Gives w host slot r

lemma Sane.landed_of_delivering (h : w.Sane) {slot : Slot} {pass : Pass} {r : Result}
    {picked : List Nat} (hm : .delivering host slot pass r picked ∈ w.journal) :
    Journal.Landed host slot r w.journal := by
  have hlaw : Lawful w.policy w.journal := h.sound.lawful
  obtain ⟨later, earlier, hj⟩ := List.append_of_mem hm
  rw [hj] at hlaw
  obtain ⟨ticket, hland⟩ := Journal.landed_of_cached hlaw.fits.1
  refine ⟨ticket, true, ?_⟩
  rw [hj]
  exact List.mem_append_right _ (List.mem_cons_of_mem _ hland)

lemma Sane.landed_of_called (h : w.Sane) {slot : Slot} {subscriber : Nat} {callback : String}
    {r : Result} (hm : .called host slot subscriber callback r ∈ w.journal) :
    Journal.Landed host slot r w.journal := by
  have hlaw : Lawful w.policy w.journal := h.sound.lawful
  obtain ⟨later, earlier, hj⟩ := List.append_of_mem hm
  rw [hj] at hlaw
  obtain ⟨gap, pass, picked, before, rfl, -⟩ := hlaw.delivering_of_called
  have hdel : .delivering host slot pass r picked ∈ w.journal := by
    rw [hj]
    simp
  exact h.landed_of_delivering hdel

/-- Whatever is given for a slot has landed for it. -/
lemma landed_of_gives {sc : Scene} (h : Reachable sc.opening w) {slot : Slot} {r : Result}
    (hg : w.Gives host slot r) : Journal.Landed host slot r w.journal := by
  have hs := Scene.sane_of_reachable h
  cases hg with
  | cached hc => exact hs.landed_of_cached hc
  | delivered _ _ hm => exact hs.landed_of_delivering hm
  | called _ _ hm => exact hs.landed_of_called hm
  | returned t task name hstart hjob hend => exact Scene.landed_of_ended h hstart hjob hend

end World

end Dataflow
