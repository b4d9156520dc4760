import Dataflow.Proofs.Hearsay
import Dataflow.Proofs.StakeSteps
import Dataflow.Proofs.TaskCases

/-!
# What a step begins and brings to its end

Most steps only tend what there is. In the others a computation begins or comes to its result, an
emission lets go of its gate, or a task ends; and a task that is there to compute on its own takes up
that work.
-/

namespace Dataflow

namespace Journal

variable {P : List Event → Event → Prop}

/-- Every event of the history goes with what was before it. -/
def Throughout (P : List Event → Event → Prop) : List Event → Prop
  | [] => True
  | e :: past => P past e ∧ Throughout P past

lemma Throughout.fits {later earlier : List Event} {e : Event}
    (h : Throughout P (later ++ e :: earlier)) : P earlier e := by
  induction later with
  | nil => exact h.1
  | cons x later ih => exact ih h.2

lemma Throughout.earlier {later earlier : List Event} (h : Throughout P (later ++ earlier)) :
    Throughout P earlier := by
  induction later with
  | nil => exact h
  | cons x later ih => exact ih h.2

lemma Throughout.append {new l : List Event} (h : Throughout P l)
    (hn : ∀ e ∈ new, e.isMilestone = false)
    (hP : ∀ past e, e.isMilestone = false → P past e) : Throughout P (new ++ l) := by
  induction new with
  | nil => exact h
  | cons e new ih =>
    refine ⟨hP _ e (hn e List.mem_cons_self), ih fun x hx => hn x (List.mem_cons_of_mem e hx)⟩

end Journal

namespace World

variable {w w' : World}

/-- A work that goes on waits for nothing. -/
def Absorbed (w : World) : Prop :=
  w.focus.isMaking = true → ∀ k, w.party = .work k → k.stage = .away

lemma absorbed_of_isMaking (hf : w.focus.isMaking = false) : w.Absorbed := by
  intro hm
  rw [hf] at hm
  cases hm

/-- Whoever goes on after it has waited is away. -/
lemma absorbed_setWork (h : w.Steady) {k : Work} (hp : w.party = .work k)
    (hw : w'.party = (w.setWork { k with stage := .away }).party) : w'.Absorbed := by
  intro _ k' hp'
  rw [hw, (steady_setWork h hp .away True.intro fun own ho => by cases ho).2.1] at hp'
  cases hp'
  rfl

lemma ResumesWork.absorbed (hr : w.ResumesWork w') (h : w.Steady) : w'.Absorbed := by
  cases hr with
  | begins hp => exact absorbed_setWork h hp rfl
  | misses hp => exact absorbed_setWork h hp rfl
  | opened hp => exact absorbed_setWork h hp rfl
  | waits | polls | stalls => exact absorbed_of_isMaking rfl

lemma MakesRecipe.absorbed {r : Recipe} (hm : w.MakesRecipe r w')
    (ha : ∀ k, w.party = .work k → k.stage = .away) : w'.Absorbed := by
  have hstays : ∀ v : World, v.party = w.party → v.Absorbed := fun v hv _ k' hp' =>
    ha k' (hv.symm.trans hp')
  cases hm with
  | finishes | peeks | announces | finds => exact hstays _ rfl
  | misfits | crashes | holds | asks | stalls => exact absorbed_of_isMaking rfl

lemma HandsAnswer.absorbed {r : Result} (hr : w.HandsAnswer r w') (h : w.Steady) : w'.Absorbed := by
  cases hr with
  | resumes hp => exact absorbed_setWork h hp rfl
  | readies | ends | stalls => exact absorbed_of_isMaking rfl

lemma ResumesTask.isMaking (hr : w.ResumesTask w') : w'.focus.isMaking = false := by
  cases hr with
  | invalidates _ hi => exact isMaking_of_isYielding hi.isYielding
  | turns _ hf => exact isMaking_of_isYielding hf.isYielding
  | follows _ _ hp => exact isMaking_of_isYielding hp.isYielding
  | _ => rfl

lemma Absorbed.step (ha : w.Absorbed) (h : w.Sane) : w.step.Absorbed := by
  have hs := h.poised.steady
  have hno : ∀ w' : World, w'.focus.isYielding = false → w'.Absorbed := fun w' hf =>
    absorbed_of_isMaking (isMaking_of_isYielding hf)
  unfold World.step
  cases hf : w.focus with
  | idle => exact hno w (by rw [hf]; rfl)
  | resume => exact absorbed_of_isMaking w.resumesTask.isMaking
  | work => exact w.resumesWork.absorbed hs
  | make r => exact (w.makesRecipe r).absorbed (ha (by rw [hf]; rfl))
  | made c => exact absorbed_of_isMaking (w.finishesWork c).isMaking
  | poll own => exact hno _ (w.pollsFlight own).isYielding
  | answer r => exact (w.handsAnswer r).absorbed hs
  | stall => exact hno _ w.stalls.isYielding
  | emission => exact hno _ (w.goesOn.isYielding hs hf)
  | next finished => exact hno _ (w.turnsToNext finished).isYielding
  | finish how => exact hno _ (w.endsTask how).isYielding
  | panic text => exact hno _ ((w.unwinds text).isYielding hf)

lemma isMaking_of_isOpening (hf : w.focus.isOpening = true) : w.focus.isMaking = false := by
  cases hfocus : w.focus with
  | make r =>
    rw [hfocus] at hf
    cases hf
  | made c =>
    rw [hfocus] at hf
    cases hf
  | _ => rfl

/-- Nor does a work whose flight has landed. -/
structure Unburdened (w : World) : Prop where
  absorbed : w.Absorbed
  landed : ∀ (ticket : Nat) f r, w.flights[ticket]? = some f → f.status = .landed r →
    f.work.share? = none

lemma Stage.NoFurther.unshared {k k' : Work} (h : k.stage.NoFurther k'.stage) (hs : k.share? = none) :
    k'.share? = none := by
  unfold Work.share? at hs ⊢
  rcases h with heq | heq | ⟨own, own', rest, heq, -⟩
  · rw [heq]
    exact hs
  · rw [heq]
  · rw [heq] at hs
    cases hs

lemma Unburdened.course (hu : w.Unburdened) (h : w.Steady) {flights : List Flight} {ticket : Nat}
    {f f' : Flight} {r : Result} (hf : w.flights[ticket]? = some f)
    (hc : Course w flights ticket f f') (hl : f'.status = .landed r) : f'.work.share? = none := by
  rcases hc.lands r hl with hl | ⟨ht, hfocus⟩
  · rcases hc.stage with hs | ⟨ht, -⟩
    · exact Stage.NoFurther.unshared hs (hu.landed ticket f r hf hl)
    · obtain ⟨g, hg, hdriven⟩ := h.driven ticket (List.mem_of_mem_head? ht)
      rw [hf] at hg
      cases hg
      rw [hl] at hdriven
      cases hdriven
  · have haway : f.work.stage = .away := by
      refine hu.absorbed (by rw [hfocus]; rfl) f.work ?_
      obtain ⟨outer, hd⟩ := List.head?_eq_some_iff.mp ht
      rw [party_eq, hd]
      simp only [partyAt, hf]
    rcases hc.stage with hs | ⟨-, r', hmake, -⟩
    · exact Stage.NoFurther.unshared hs (by rw [Work.share?, haway])
    · rw [hfocus] at hmake
      cases hmake

lemma Unburdened.step (hu : w.Unburdened) (h : w.Sane) (hd : w.Due) : w.step.Unburdened where
  absorbed := hu.absorbed.step h
  landed := fun ticket f' r hf' hl => by
    have ha := advances_step h.poised hd
    cases hf : w.flights[ticket]? with
    | none =>
      have hnone := (ha.young ticket f' hf' hf).landed
      rw [Status.landed_iff.mp hl] at hnone
      cases hnone
    | some f =>
      obtain ⟨g, hg, hc⟩ := ha.flights ticket f hf
      rw [hf'] at hg
      cases hg
      exact hu.course h.poised.steady hf hc hl

lemma Unburdened.opens (hu : w.Unburdened) (hr : KeepsDriving w w') (hf : w'.focus.isOpening = true) :
    w'.Unburdened where
  absorbed := absorbed_of_isMaking (isMaking_of_isOpening hf)
  landed := fun ticket f' r hf' hl => by
    rcases hr.toNoFurther.flight hf' with ⟨f, hf, hw⟩ | hy
    · exact Stage.NoFurther.unshared hw.work.stage (hu.landed ticket f r hf (hw.landed_iff.mp hl))
    · have hnone := hy.landed
      rw [Status.landed_iff.mp hl] at hnone
      cases hnone

/-- What is awaited by whoever is handed an answer is done with. -/
lemma Unburdened.done (hu : w.Unburdened) (h : w.Sane) {r : Result} (hf : w.focus = .answer r)
    {own : Handle} (ho : w.party.share? = some own) : w.Done own.ticket := by
  have ha := h.poised.aimed
  rw [hf] at ha
  obtain ⟨-, ticket, f, hawaits, hfl, hl⟩ := ha
  rw [Party.awaits, ho] at hawaits
  cases hawaits
  exact ⟨f, r, hfl, hl, hu.landed _ f r hfl hl⟩

lemma uneventful_makeWay (w : World) (e : Emission) (pass : Pass) : Uneventful w (w.makeWay e pass) := by
  obtain ⟨l, heq⟩ := makeWay_eq w e pass
  rw [heq]
  exact ((Uneventful.refl w).setEngine e.host _).fades (fadingUnheld_wake _ l)

lemma uneventful_enter (w : World) (e : Emission) : Uneventful w (w.enter e) := by
  have hset := (Uneventful.refl w).setEngine e.host ((w.engine e.host).enter e.slot).2
  have hlog := hset.log (e := .entered e.host e.slot ((w.engine e.host).enter e.slot).1) rfl
  exact hlog.trans (uneventful_setEmission _ _)

lemma HandsOut.uneventful {e : Emission} {pass : Pass} {clears : Nat}
    (hd : w.HandsOut e pass clears w') : Uneventful w w' := by
  cases hd with
  | @selects r =>
    have hset := (Uneventful.refl w).setEngine e.host
      ((w.engine e.host).select (w.policy e.host) e.slot r).2
    have hlog := hset.log (e := .delivering e.host e.slot pass r
      ((w.engine e.host).select (w.policy e.host) e.slot r).1) rfl
    exact hlog.trans (uneventful_setEmission _ _)
  | breaks => exact (routineChange_breakDown w _ _).toUneventful
  | retries =>
    have hlog := (Uneventful.refl w).log (e := .retrying e.host e.slot pass) rfl
    exact (hlog.trans (uneventful_makeWay _ e pass)).trans (uneventful_setEmission _ _)

lemma Approaches.uneventful {e : Emission} {pass : Pass} {clears : Nat}
    (ha : w.Approaches e pass clears w') : Uneventful w w' := by
  have hplace : Uneventful w (w.takePlace e pass) := (Uneventful.refl w).setEngine e.host _
  cases ha with
  | queues => exact hplace.aim _
  | yields => exact (hplace.fades (fadingUnheld_wake _ _)).aim _
  | delivers _ _ hd =>
    have hcount : Uneventful w { w.takePlace e pass with deliveries := w.deliveries + 1 } :=
      hplace.same rfl rfl
    exact hcount.trans hd.uneventful

/-- An emission that is over lets go of its gate. -/
lemma FinishesEmission.leaves {e : Emission} {pass : Pass} (hf : w.FinishesEmission e pass w') :
    ∃ v, Uneventful w v ∧ v.journal = w.journal ∧
      Uneventful (v.log (.left e.host e.slot pass)) w' := by
  have hj : (w.makeWay e pass).ledger.journal = w.journal := by
    rw [ledger_makeWay]
    rfl
  refine ⟨_, (uneventful_makeWay w e pass).setEngine e.host
    (((w.makeWay e pass).engine e.host).leave e.slot pass), hj, ?_⟩
  cases hf with
  | branch | whole => exact (uneventful_setJob (by rintro k' ⟨⟩)).aim _

lemma uneventful_abandonGate (w : World) (e : Emission) (pass : Pass) :
    Uneventful w (w.abandonGate e pass) := by
  have hset := (uneventful_makeWay w e pass).setEngine e.host
    (((w.makeWay e pass).engine e.host).abandon e.slot pass)
  exact hset.log rfl

lemma DropsEmission.uneventful {e : Emission} (hd : w.DropsEmission e w') : Uneventful w w' := by
  cases hd with
  | outside => exact .refl w
  | @waiting pass own =>
    exact ((Uneventful.refl w).fades (fadingUnheld_release w [] own)).trans
      (uneventful_abandonGate _ e pass)
  | @inside pass => exact uneventful_abandonGate w e pass

lemma uneventful_setWork {k k' : Work} (hp : w.party = .work k) (hc : k.Continues k') :
    Uneventful w (w.setWork k') := by
  rcases setWork_cases w k' with ⟨ticket, outer, f, -, -, heq⟩ | ⟨ticket, outer, -, -, heq⟩ |
    ⟨hd, heq⟩
  · rw [heq]
    exact (Uneventful.refl w).same rfl rfl
  · rw [heq]
    exact .refl w
  · rw [party_eq, hd] at hp
    rw [heq]
    refine uneventful_setJob fun k₁ hk => ?_
    cases hk
    exact ⟨k, Job.eq_of_party_work hp, hc⟩

lemma ForgetsParty.uneventful (hf : w.ForgetsParty w') : Uneventful w w' := by
  cases hf with
  | work hp => exact uneventful_setWork hp (.away _)
  | @emission e =>
    have hclear : Uneventful w (w.setJob w.job.clear) := uneventful_setJob fun k' hk => by
      cases hj : w.job <;> rw [hj] at hk <;> cases hk
    exact hclear.trans (dropsEmission _ e.recalled).uneventful
  | output => exact uneventful_setJob (by rintro k' ⟨⟩)
  | nobody => exact .refl w

lemma Unwinds.uneventful {text : String} (hu : w.Unwinds text w') : Uneventful w w' := by
  have hforget := w.forgetsParty.uneventful
  cases hu with
  | breaks | misses => exact hforget.same rfl rfl
  | ends => exact hforget.aim _

lemma DropsBranch.uneventful {i : Nat} (hd : w.DropsBranch i w') : Uneventful w w' := by
  cases hd with
  | @branch f e =>
    exact (uneventful_setJob (by rintro k' ⟨⟩)).trans (dropsEmission _ e).uneventful
  | nothing => exact .refl w

lemma uneventful_branches (w : World) (order : List Nat) : Uneventful w (order.foldl dropBranch w) := by
  induction order generalizing w with
  | nil => exact .refl w
  | cons i order ih => exact (w.dropsBranch i).uneventful.trans (ih _)

lemma DropsJob.uneventful (hd : w.DropsJob w') : Uneventful w w' := by
  have hnothing : Uneventful w (w.setJob .nothing) := uneventful_setJob (by rintro k' ⟨⟩)
  cases hd with
  | output | work => exact hnothing.fades (fadingUnheld_release _ _ _)
  | @emission e => exact hnothing.trans (dropsEmission _ e).uneventful
  | @branches f => exact uneventful_branches w f.leaving
  | nothing => exact .refl w

lemma DropsJob.journal {k : Work} (hd : w.DropsJob w') (hj : w.job = .work k) :
    w'.journal = w.journal := by
  cases hd with
  | work => exact (fadingUnheld_release _ _ _).journal.trans (journal_setJob w _)
  | nothing => rfl
  | output hj' | emission hj' | branches hj' => cases hj.symm.trans hj'

/-- Once the task is gone, the queue changes at most. -/
lemma EndsTask.fades {how : End} (he : w.EndsTask how w') {t : Nat} {task : Task}
    (hr : w.running = some t) (ht : w.tasks[t]? = some task) :
    FadingUnheld (w.leaveTask t task how) w' := by
  cases he with
  | idle hr' => cases hr.symm.trans hr'
  | misses hr' ht' =>
    cases hr.symm.trans hr'
    cases ht.symm.trans ht'
  | leaves hr' ht' =>
    cases hr.symm.trans hr'
    cases ht.symm.trans ht'
    exact .refl _
  | calls hr' ht' =>
    cases hr.symm.trans hr'
    cases ht.symm.trans ht'
    exact fadingUnheld_enqueue _ _

lemma EndsTask.shelves {how : End} (he : w.EndsTask how w') {t : Nat} {task : Task}
    (hr : w.running = some t) (ht : w.tasks[t]? = some task) : ∃ subscriptions,
      FadingUnheld { (w.closeTask t how).log (.ended t task.name how) with
        subscriptions, running := none, rewoken := false, focus := .idle } w' := by
  have hkin := he.fades hr ht
  obtain ⟨subscriptions, heq⟩ := w.leaveTask_eq t task how
  rw [heq] at hkin
  exact ⟨subscriptions, hkin⟩

/-- The running task gives up what it holds, and is over. -/
lemma EndsTask.ends {how : End} (he : w.EndsTask how w') {t : Nat} {task : Task}
    (hr : w.running = some t) (ht : w.tasks[t]? = some task) :
    ∃ v, Uneventful w v ∧ (∀ k, w.job = .work k → v.journal = w.journal) ∧
      Uneventful (v.log (.ended t task.name how)) w' := by
  have hclose : Uneventful w.dropJob (w.closeTask t how) ∧
      (w.closeTask t how).journal = w.dropJob.journal := by
    unfold closeTask modifyTask
    cases ht' : w.dropJob.tasks[t]? with
    | some task' => exact ⟨uneventful_setTask ht' (by rintro k' ⟨⟩), rfl⟩
    | none => exact ⟨.refl _, rfl⟩
  obtain ⟨subscriptions, hkin⟩ := he.shelves hr ht
  refine ⟨_, w.dropsJob.uneventful.trans hclose.1,
    fun k hj => hclose.2.trans (w.dropsJob.journal hj), ?_⟩
  have hrest : Uneventful ((w.closeTask t how).log (.ended t task.name how))
      { (w.closeTask t how).log (.ended t task.name how) with
        subscriptions, running := none, rewoken := false, focus := .idle } :=
    uneventful_of_eq rfl rfl
  exact hrest.fades hkin

/-- What a step may come to, from a world that has come to be `v` by then. -/
inductive Marks (w v : World) : Event → Prop where
  | begun {k : Work} {n : Node} {schema : Schema} : w.focus = .work → w.party = .work k →
      k.stage = .fresh → k.target = .ok (n, schema) → v = w.setWork { k with stage := .away } →
      Marks w v (.begun k.host k.slot w.ticket?)
  | landed {c : Content} {ticket : Nat} {f : Flight} {kept : Bool} : w.focus = .made c →
      w.ticket? = some ticket → w.flights[ticket]? = some f → v.journal = w.journal →
      Marks w v (.landed f.work.host f.work.slot ticket ⟨w.nextResult, c⟩ kept)
  | left {e : Emission} {pass : Pass} {r : Result} : w.focus = .emission → w.party = .emission e →
      e.progress = .calling pass r [] → v.journal = w.journal → Marks w v (.left e.host e.slot pass)
  | ended {t : Nat} {task : Task} {how : End} : w.focus = .finish how → w.running = some t →
      w.tasks[t]? = some task → (∀ k, w.job = .work k → v.journal = w.journal) →
      Marks w v (.ended t task.name how)

/-- What one step does, as to what begins and comes to its end. -/
inductive Stride (w : World) : World → Prop where
  | uneventful {w' : World} : Uneventful w w' → Stride w w'
  | marks {v w' : World} {e : Event} : Uneventful w v → Marks w v e → Uneventful (v.log e) w' → Stride w w'
  | takesOff {v w' : World} {host : String} {s : Slot} {own : Handle} : Uneventful w v →
      Uneventful (v.log (.takenOff host s own.ticket)) w' → w'.focus = .poll own → Stride w w'
  | computes {host : String} {slot : Slot} : w.focus = .resume → w.driving = [] →
      w.job = .compute host slot → Stride w
        ((w.setJob (.work { host, slot, target := (w.engine host).target slot })).aim .work)

lemma Uneventful.throughout (h : Uneventful w w') {P : List Event → Event → Prop}
    (hP : ∀ past e, e.isMilestone = false → P past e) (hj : Journal.Throughout P w.journal) :
    Journal.Throughout P w'.journal := by
  obtain ⟨new, hnew, hn⟩ := h.journal
  rw [hnew]
  exact hj.append hn hP

lemma Embarks.stride (h : Embarks w w') : Stride w w' := by
  cases h with
  | routineChange h => exact .uneventful h.toUneventful
  | takesOff h h' hf => exact .takesOff h.toUneventful h'.toUneventful hf

/-- It is enough to look at what begins and comes to its end. -/
lemma Stride.throughout (h : Stride w w') {P : List Event → Event → Prop}
    (hP : ∀ past e, e.isMilestone = false → P past e)
    (ht : ∀ past host s ticket, P past (.takenOff host s ticket))
    (hm : ∀ v e, Uneventful w v → Marks w v e → v.journal <:+ w'.journal → P v.journal e)
    (hj : Journal.Throughout P w.journal) : Journal.Throughout P w'.journal := by
  cases h with
  | uneventful h => exact h.throughout hP hj
  | @marks v w' e hv hmarks h =>
    have hsuffix : v.journal <:+ w'.journal := (List.suffix_cons e v.journal).trans h.suffix
    exact h.throughout hP ⟨hm v e hv hmarks hsuffix, hv.throughout hP hj⟩
  | @takesOff v w' host s own hv h _ =>
    exact h.throughout hP ⟨ht v.journal host s own.ticket, hv.throughout hP hj⟩
  | computes _ _ _ =>
    show Journal.Throughout P (w.setJob _).journal
    rw [journal_setJob]
    exact hj

lemma ResumesTask.stride (hr : w.ResumesTask w') (hf : w.focus = .resume) (hd : w.driving = []) :
    Stride w w' := by
  rcases hr.computes_or with ⟨host, slot, hj, rfl⟩ | hembarks
  · exact .computes hf hd hj
  · exact hembarks.stride

lemma ResumesWork.stride (hr : w.ResumesWork w') (h : w.Steady) (hf : w.focus = .work) :
    Stride w w' := by
  rcases hr.begins_or h with ⟨k, n, schema, hp, hs, ht, hroutine, rfl⟩ | hroutine
  · exact .marks hroutine.toUneventful (.begun hf hp hs ht rfl) ((Uneventful.refl _).aim _)
  · exact .uneventful hroutine.toUneventful

lemma FinishesWork.stride {c : Content} (hw : w.FinishesWork c w') (h : w.Steady)
    (hf : w.focus = .made c) : Stride w w' := by
  cases hw with
  | ends => exact .uneventful (routineChange_nextResult w _).toUneventful
  | @misses ticket outer hd hfl =>
    obtain ⟨f, hf', -⟩ := h.driven ticket (by rw [hd]; exact List.mem_cons_self)
    cases hfl.symm.trans hf'
  | @lands ticket outer f hd hfl =>
    obtain ⟨v, kept, hv, hj, hland⟩ := finishWork_lands h hd hfl c
    rw [finishWork_cons hd hfl] at hland
    exact .marks hv.toUneventful (.landed hf (by rw [ticket?, hd]; rfl) hfl hj) hland.toUneventful

lemma GoesOn.stride (hg : w.GoesOn w') (h : w.Steady) (hf : w.focus = .emission) : Stride w w' := by
  cases hg with
  | enters => exact .uneventful (uneventful_enter w _)
  | looks hp hpr hl => exact (hl.embarks (job_party_of_emission hp).2 hpr).stride
  | polls | stalls => exact .uneventful ((Uneventful.refl w).aim _)
  | approaches _ _ ha => exact .uneventful ha.uneventful
  | @calls e pass r rest v hp hpr hc =>
    cases rest with
    | nil =>
      cases hc with
      | ends hfin =>
        obtain ⟨v, hv, hj, hleft⟩ := hfin.leaves
        exact .marks hv (.left hf hp hpr hj) hleft
    | cons c rest =>
      exact .uneventful (hc.routineChange (job_party_of_emission hp).2 hpr).toUneventful
  | acts hp hpr ha => exact .uneventful (ha.routineChange h hp hpr).toUneventful

lemma EndsTask.stride {how : End} (he : w.EndsTask how w') (h : w.Steady)
    (hf : w.focus = .finish how) : Stride w w' := by
  cases hr : w.running with
  | none =>
    cases he with
    | idle => exact .uneventful ((Uneventful.refl w).aim _)
    | misses hr' | leaves hr' | calls hr' => cases hr.symm.trans hr'
  | some t =>
    obtain ⟨task, ht, -⟩ := h.runs t hr
    obtain ⟨v, hv, hj, hend⟩ := he.ends hr ht
    exact .marks hv (.ended hf hr ht hj) hend

lemma Unburdened.stride (hu : w.Unburdened) (h : w.Sane) : Stride w w.step := by
  have hs := h.poised.steady
  have haim := h.poised.aimed
  unfold World.step
  cases hf : w.focus with
  | idle => exact .uneventful (.refl w)
  | resume =>
    rw [hf] at haim
    exact w.resumesTask.stride hf haim.2
  | work => exact w.resumesWork.stride hs hf
  | make r =>
    refine ((w.makesRecipe r).embarks hs fun k hp => ?_).stride
    rw [Work.share?, hu.absorbed (by rw [hf]; rfl) k hp]
  | made c => exact (w.finishesWork c).stride hs hf
  | poll own =>
    rw [hf] at haim
    exact .uneventful ((w.pollsFlight own).routineChange hs haim.2).toUneventful
  | answer r => exact .uneventful ((w.handsAnswer r).routineChange hs fun own ho => hu.done h hf
      ho).toUneventful
  | stall => exact .uneventful (w.stalls.routineChange hs).toUneventful
  | emission => exact w.goesOn.stride hs hf
  | next finished => exact .uneventful (w.turnsToNext finished).routineChange.toUneventful
  | finish how => exact (w.endsTask how).stride hs hf
  | panic text => exact .uneventful (w.unwinds text).uneventful

end World

namespace Scene

theorem unburdened_of_reachable {s : Scene} {w : World} (h : World.Reachable s.opening w) :
    w.Unburdened := by
  refine h.through.maintains (P := World.Unburdened) s.sane_opening (World.due_of_isResult rfl)
    ⟨World.absorbed_of_isMaking rfl, fun ticket f r hf => ?_⟩
    (fun w w' hu hr hf => hu.opens hr hf) fun w hw hd _ hu => hu.step hw hd
  cases hf

theorem stride_of_reachable {s : Scene} {w : World} (h : World.Reachable s.opening w) :
    World.Stride w w.step :=
  (unburdened_of_reachable h).stride (sane_of_reachable h)

/-- What is kept between turns, and by every step, holds throughout. -/
lemma keeps {s : Scene} {w : World} {P : World → Prop} (h : World.Reachable s.opening w)
    (h₀ : P s.opening)
    (hturn : ∀ w w', World.Reachable s.opening w → P w → w.focus = .idle → World.KeepsDriving w w' →
      World.RoutineChange w w' → w'.focus.isOpening = true → P w')
    (hstep : ∀ w, World.Reachable s.opening w → P w → P w.step) : P w := by
  induction h with
  | refl => exact h₀
  | @perform w a w' reply hr hf ha ih =>
    have hs := (sane_of_reachable hr).poised.steady
    have hrests := World.keepsDriving_perform hs a
    have hroutine := World.routineChange_perform hs a
    have hfocus := (World.carries_perform hs a).focus
    rw [ha] at hrests hroutine hfocus
    exact hturn w w' hr ih hf hrests hroutine (by rw [hfocus, hf]; rfl)
  | @poll w t hr hf ih =>
    have hrests : World.KeepsDriving w { w with queue := w.queue.erase t } :=
      World.keepsDriving_of_eq rfl rfl rfl rfl
    have hroutine : World.RoutineChange w { w with queue := w.queue.erase t } :=
      (World.RoutineChange.refl w).same rfl rfl rfl rfl
    exact hturn w _ hr ih hf (hrests.trans (World.keepsDriving_poll _ t))
      (hroutine.trans (World.routineChange_poll _ t)) (World.isOpening_turn hf t)
  | step hr ih => exact hstep _ hr ih

end Scene

end Dataflow
