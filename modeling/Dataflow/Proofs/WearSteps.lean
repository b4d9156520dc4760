import Dataflow.Proofs.Wear

/-!
# What the functions of a world leave of flights and tasks

One lemma for each function: which of them let everything rest, and what the others do besides.
-/

namespace Dataflow

namespace World

variable {A : Action → Prop} {w w' : World}

lemma warrants_of_isEntry {e : Event} (h : e.isEntry = true) : w.Warrants w' e := by
  cases e with
  | built | registered | postponed | unregistered | subscribed => exact True.intro
  | _ => cases h

lemma keepsDriving_touch (h : Touch A w w') : KeepsDriving w w' := by
  cases h with
  | aside | keeps | forgets | engines | opens => exact keepsDriving_of_eq rfl rfl rfl rfl
  | @awaits name sub s lent =>
    have hover : KeepsDriving w (w.handOver sub s lent) := keepsDriving_of_eq rfl rfl rfl rfl
    exact hover.trans (keepsDriving_spawn _ _)
  | notes he => exact (KeepsDriving.refl w).log _ (warrants_of_isEntry he)
  | enrols =>
    obtain ⟨_, _, heq⟩ := subscriberOf_frame w _
    rw [heq]
    exact keepsDriving_of_eq rfl rfl rfl rfl
  | withdraws => exact ((KeepsDriving.refl w).setEngine _ _).log _ True.intro
  | fades hk => exact keepsDriving_fades hk.toFading
  | cancels ht => exact keepsDriving_setTask ht (.refl _)
  | spawns => exact keepsDriving_spawn w _

lemma keepsDriving_touches (h : Touches A w w') : KeepsDriving w w' := by
  induction h with
  | refl => exact .refl w
  | tail _ ht ih => exact ih.trans (keepsDriving_touch ht)

/-- No flight gets further by an action. -/
lemma keepsDriving_perform (h : w.Steady) (a : Action) : KeepsDriving w (w.perform a).1 :=
  keepsDriving_touches (touches_perform (A := fun _ => True) h True.intro)

lemma keepsDriving_makeWay (w : World) (e : Emission) (pass : Pass) : KeepsDriving w
    (w.makeWay e pass) := by
  obtain ⟨l, heq⟩ := makeWay_eq w e pass
  rw [heq]
  exact ((KeepsDriving.refl w).setEngine _ _).wake l

lemma Looks.keepsDriving {e : Emission} {pass : Pass} (hl : w.Looks e pass w') :
    KeepsDriving w w' := by
  have hlooked := (KeepsDriving.refl w).log (.looked e.host e.slot pass) True.intro
  cases hl with
  | finds => exact hlooked.setEmission _
  | joins => exact ((hlooked.trans (keepsDriving_join _ _ _)).setEmission _).aim _

lemma HandsOut.keepsDriving {e : Emission} {pass : Pass} {clears : Nat}
    (hd : w.HandsOut e pass clears w') : KeepsDriving w w' := by
  cases hd with
  | selects => exact (((KeepsDriving.refl w).setEngine _ _).log _ (by trivial)).setEmission _
  | breaks => exact keepsDriving_breakDown w _ _
  | retries =>
    have hretry := (KeepsDriving.refl w).log (.retrying e.host e.slot pass) True.intro
    exact (hretry.trans (keepsDriving_makeWay _ _ _)).setEmission _

lemma Approaches.keepsDriving {e : Emission} {pass : Pass} {clears : Nat}
    (ha : w.Approaches e pass clears w') : KeepsDriving w w' := by
  have hplace : KeepsDriving w (w.takePlace e pass) := (KeepsDriving.refl w).setEngine _ _
  cases ha with
  | queues => exact hplace.aim _
  | yields => exact (hplace.wake _).aim _
  | delivers _ _ hd =>
    have hcount : KeepsDriving w { w.takePlace e pass with deliveries := w.deliveries + 1 } :=
      hplace.same rfl rfl rfl rfl
    exact hcount.trans hd.keepsDriving

lemma FinishesEmission.keepsDriving {e : Emission} {pass : Pass}
    (hf : w.FinishesEmission e pass w') : KeepsDriving w w' := by
  have hleft : KeepsDriving w (w.leaveGate e pass) :=
    ((keepsDriving_makeWay w e pass).setEngine _ _).log _ (by trivial)
  cases hf with
  | branch | whole => exact (hleft.trans (keepsDriving_setJob _ (.inl rfl))).aim _

lemma CallsNext.keepsDriving {e : Emission} {pass : Pass} {r : Result} {rest : List Nat}
    (hc : w.CallsNext e pass r rest w') : KeepsDriving w w' := by
  cases hc with
  | ends hf => exact hf.keepsDriving
  | skips => exact keepsDriving_setEmission w _
  | @calls c rest s =>
    have hcount : KeepsDriving w
        { w with subscribers := w.subscribers.set c { s with calls := s.calls + 1 } } :=
      keepsDriving_of_eq rfl rfl rfl rfl
    exact (hcount.log _ (by trivial)).setEmission _

lemma ActsNext.keepsDriving {e : Emission} {pass : Pass} {r : Result} {rest : List Nat}
    {callback : String} {script : List Action} (ha : w.ActsNext e pass r rest callback script w')
    (h : w.Steady) : KeepsDriving w w' := by
  cases ha with
  | rests => exact keepsDriving_setEmission w _
  | @acts a script v reply heq =>
    have hp := keepsDriving_perform h a
    rw [heq] at hp
    exact (hp.log _ (by trivial)).setEmission _
  | @panics a script v text heq =>
    have hp := keepsDriving_perform h a
    rw [heq] at hp
    exact KeepsDriving.trans hp (keepsDriving_breakDown v _ _)

lemma GoesOn.keepsDriving (hg : w.GoesOn w') (h : w.Steady) : KeepsDriving w w' := by
  cases hg with
  | enters => exact (((KeepsDriving.refl w).setEngine _ _).log _ (by trivial)).setEmission _
  | looks _ _ hl => exact hl.keepsDriving
  | polls | stalls => exact (KeepsDriving.refl w).aim _
  | approaches _ _ ha => exact ha.keepsDriving
  | calls _ _ hc => exact hc.keepsDriving
  | acts _ _ ha => exact ha.keepsDriving h

lemma DropsEmission.keepsDriving {e : Emission} (hd : w.DropsEmission e w') : KeepsDriving w w' := by
  have hgone (w : World) (pass : Pass) : KeepsDriving w (w.abandonGate e pass) :=
    ((keepsDriving_makeWay w e pass).setEngine _ _).log _ (by trivial)
  cases hd with
  | outside => exact .refl w
  | waiting => exact (keepsDriving_release w _ _).trans (hgone _ _)
  | inside => exact hgone w _

lemma Pauses.keepsDriving (hp : w.Pauses w') : KeepsDriving w w' := by
  have hrest : KeepsDriving w { w with running := none, rewoken := false, focus := .idle } :=
    keepsDriving_of_eq rfl rfl rfl rfl
  cases hp with
  | idle | ends => exact (KeepsDriving.refl w).aim _
  | returns => exact hrest.trans (keepsDriving_enqueue _ _)
  | rests => exact hrest

lemma TurnsFan.keepsDriving {f : Fan} (ht : w.TurnsFan f w') : KeepsDriving w w' := by
  have hset (g : Fan) : KeepsDriving w (w.setJob (.fan g)) := keepsDriving_setJob w (.inl rfl)
  cases ht with
  | polls | ends => exact (hset _).aim _
  | waits _ hp => exact (hset _).trans hp.keepsDriving
  | @yields g _ _ hp =>
    have hrewoken : KeepsDriving (w.setJob (.fan g)) { w.setJob (.fan g) with rewoken := true } :=
      keepsDriving_of_eq rfl rfl rfl rfl
    exact ((hset g).trans hrewoken).trans hp.keepsDriving

lemma TurnsToNext.keepsDriving (ht : w.TurnsToNext w') : KeepsDriving w w' := by
  cases ht with
  | fan _ hf => exact hf.keepsDriving
  | pauses _ hp => exact hp.keepsDriving

lemma keepsDriving_clear (w : World) (host : String) (s : Slot) : KeepsDriving w (w.clear host s) :=
  ((KeepsDriving.refl w).setEngine host _).trans (keepsDriving_fades (fadingUnheld_releaseAll _ _).toFading)

lemma keepsDriving_clearAll (w : World) (host node : String) (keys : List String) :
    KeepsDriving w (keys.foldl (fun w k => w.clear host ⟨node, k⟩) w) := by
  induction keys generalizing w with
  | nil => exact .refl w
  | cons k keys ih => exact (keepsDriving_clear w host ⟨node, k⟩).trans (ih _)

lemma Invalidates.keepsDriving {host node : String} {keys : Option (List String)}
    (hi : w.Invalidates host node keys w') : KeepsDriving w w' := by
  cases hi with
  | misses => exact (KeepsDriving.refl w).aim _
  | starts _ hf =>
    exact (((KeepsDriving.refl w).log _ (by trivial)).trans
      (keepsDriving_clearAll _ host node _)).trans hf.keepsDriving

lemma ResumesTask.keepsDriving (hr : w.ResumesTask w') : KeepsDriving w w' := by
  cases hr with
  | finds | polls | works | emits | ends | nothing => exact (KeepsDriving.refl w).aim _
  | @joins host slot hj =>
    refine ((keepsDriving_join w host slot).trans (keepsDriving_setJob _ (.inr ?_))).aim _
    rw [job_join, hj]
    rfl
  | computes hj =>
    refine (keepsDriving_setJob w (.inr ?_)).aim _
    rw [hj]
    rfl
  | invalidates _ hi => exact hi.keepsDriving
  | turns _ hf => exact hf.keepsDriving
  | panics => exact keepsDriving_breakDown w _ _
  | @follows t v hj he hp =>
    have hmod : KeepsDriving w (w.modifyTask t fun task => { task with follower := w.running }) :=
      keepsDriving_modifyTask w t fun _ => .refl _
    exact hmod.trans hp.keepsDriving

lemma keepsDriving_poll (w : World) (t : Nat) : KeepsDriving w (w.poll t) := by
  rcases w.poll_cases t with heq | ⟨_, _, _, -, -, -, heq⟩ <;> rw [heq]
  · exact .refl w
  · exact keepsDriving_of_eq rfl rfl rfl rfl

lemma DropsBranch.keepsDriving {i : Nat} (hd : w.DropsBranch i w') : KeepsDriving w w' := by
  cases hd with
  | @branch f e => exact (keepsDriving_setJob w (.inl rfl)).trans (dropsEmission _ e).keepsDriving
  | nothing => exact .refl w

lemma keepsDriving_branches (w : World) (order : List Nat) :
    KeepsDriving w (order.foldl dropBranch w) := by
  induction order generalizing w with
  | nil => exact .refl w
  | cons i order ih => exact (w.dropsBranch i).keepsDriving.trans (ih _)

lemma DropsJob.keepsDriving (hd : w.DropsJob w') : KeepsDriving w w' := by
  have hnothing : KeepsDriving w (w.setJob .nothing) := keepsDriving_setJob w (.inl rfl)
  cases hd with
  | output | work => exact hnothing.trans (keepsDriving_release _ _ _)
  | @emission e => exact hnothing.trans (dropsEmission _ e).keepsDriving
  | @branches f => exact keepsDriving_branches w f.leaving
  | nothing => exact .refl w

lemma purpose_clear (j : Job) : j.clear.purpose = none := by
  cases j <;> rfl

lemma ForgetsParty.keepsDriving (hf : w.ForgetsParty w') : KeepsDriving w w' := by
  cases hf with
  | @work k hp => exact keepsDriving_setWork hp k.noFurther_away
  | @emission e =>
    have hclear : KeepsDriving w (w.setJob w.job.clear) :=
      keepsDriving_setJob w (.inl (purpose_clear w.job))
    exact hclear.trans (dropsEmission _ e.recalled).keepsDriving
  | output hp =>
    refine keepsDriving_setJob w (.inr ?_)
    rw [job_of_party_output hp]
    rfl
  | nobody => exact .refl w

lemma keepsDriving_putBack (w : World) (holding : Option (String × Subscription)) (how : End) :
    KeepsDriving w (w.putBack holding how) := by
  rcases putBack_cases w holding how with heq | ⟨_, _, -, heq⟩ <;>
    exact keepsDriving_of_eq (by rw [heq]) (by rw [heq]) (by rw [heq]) (by rw [heq])

/-- If this is a result, then one for which the running task is there. -/
def MayYield (w : World) (how : End) : Prop :=
  ∀ r, how = .result r → ∃ p, w.job.purpose = some p ∧ p.MetBy r w.journal

/-- If the running task is about to end with a result, it is there for that. -/
def Due (w : World) : Prop := ∀ how, w.focus = .finish how → w.MayYield how

lemma warrants_ended {t : Nat} {task : Task} {how : End} (hr : w.running = some t)
    (ht : w.tasks[t]? = some task) (hy : w.MayYield how) (hj : w.journal <:+ w'.journal) :
    w.Warrants w' (.ended t task.name how) := by
  cases how with
  | result r =>
    obtain ⟨p, hp, hm⟩ := hy r rfl
    rw [job_of_running hr ht] at hp
    exact ⟨task, p, .inl ht, hp, hm.mono hj.subset⟩
  | _ => exact True.intro

lemma keepsDriving_leaveTask {how : End} (hy : w.MayYield how) {t : Nat} {task : Task}
    (hr : w.running = some t) (ht : w.tasks[t]? = some task) :
    KeepsDriving w (w.leaveTask t task how) := by
  have hclose : KeepsDriving w (w.closeTask t how) :=
    w.dropsJob.keepsDriving.trans (keepsDriving_modifyTask _ _ fun _ => .inl rfl)
  have hover := (hclose.log (.ended t task.name how)
    (warrants_ended hr ht hy (hclose.journal.trans (List.suffix_cons _ _)))).trans
      (keepsDriving_putBack _ task.holding how)
  exact hover.same rfl rfl rfl rfl

lemma EndsTask.keepsDriving {how : End} (he : w.EndsTask how w') (hy : w.MayYield how) :
    KeepsDriving w w' := by
  cases he with
  | idle => exact (KeepsDriving.refl w).aim _
  | misses => exact keepsDriving_of_eq rfl rfl rfl rfl
  | leaves hr ht => exact keepsDriving_leaveTask hy hr ht
  | calls hr ht => exact (keepsDriving_leaveTask hy hr ht).trans (keepsDriving_enqueue _ _)

lemma warrants_begun {k : Work} (hp : w.party = .work k) :
    w.Warrants w' (.begun k.host k.slot w.ticket?) := by
  rw [party_eq] at hp
  cases hd : w.driving with
  | cons ticket outer =>
    rw [ticket?, hd]
    exact True.intro
  | nil =>
    rw [hd] at hp
    have hj : w.job = .work k := Job.eq_of_party_work hp
    rw [ticket?, hd]
    unfold job at hj
    cases hm : w.running.bind fun t => w.tasks[t]? with
    | some task =>
      rw [hm] at hj
      obtain ⟨t, -, ht⟩ := Option.bind_eq_some_iff.mp hm
      exact ⟨t, task, .inl ht, by rw [show task.job = .work k from hj]; rfl⟩
    | none =>
      rw [hm] at hj
      cases hj

lemma ResumesWork.keepsDriving (hr : w.ResumesWork w') : KeepsDriving w w' := by
  have haway {k : Work} (hp : w.party = .work k) :
      KeepsDriving w (w.setWork { k with stage := .away }) := keepsDriving_setWork hp k.noFurther_away
  cases hr with
  | begins hp => exact ((haway hp).log _ (warrants_begun hp)).aim _
  | misses hp => exact (haway hp).aim _
  | opened hp => exact (haway hp).aim _
  | waits => exact keepsDriving_of_eq rfl rfl rfl rfl
  | polls | stalls => exact (KeepsDriving.refl w).aim _

lemma HandsAnswer.keepsDriving {r : Result} (ha : w.HandsAnswer r w') : KeepsDriving w w' := by
  cases ha with
  | @resumes k own rest hp => exact (keepsDriving_setWork hp k.noFurther_away).aim _
  | readies => exact (keepsDriving_setEmission w _).aim _
  | ends | stalls => exact (KeepsDriving.refl w).aim _

/-- To poll a flight leaves it as it is, but for its seats and for who drives it. -/
lemma PollsFlight.noFurther {own : Handle} (hp : w.PollsFlight own w')
    (ha : w.party.awaits = some own.ticket) : NoFurther w w' := by
  have hkeep (seat : Nat) : KeepsDriving w (w.keep { own with seat := some seat }) :=
    (w.keepsShare _).keepsDriving ha
  have hseat {g : Flight} {seat : Nat} (seats : Seats)
      (hg : (w.keep { own with seat := some seat }).flights[own.ticket]? = some g) :
      KeepsDriving w ((w.keep { own with seat := some seat }).setFlight own.ticket
        { g with seats }) :=
    (hkeep seat).trans (keepsDriving_setFlight hg { g with seats } ⟨.refl _, .rfl, rfl⟩)
  cases hp with
  | misses | answers => exact ((KeepsDriving.refl w).aim _).toNoFurther
  | @drives f g seat seats hf hs hsit hg =>
    obtain ⟨g', hg', hw⟩ := (hkeep seat).flights own.ticket f hf
    cases hg.symm.trans hg'
    refine (hkeep seat).toNoFurther.trans
      ((noFurther_setFlight hg { g with seats, status := .driven } ⟨.refl _, ?_, ?_⟩ _).aim _)
    · have hb := hw.broken
      rw [hs] at hb
      simpa using hb
    · have hl := hw.landed
      rw [hs] at hl
      exact hl.symm
  | @breaks f g seat seats hf hs hsit hg =>
    exact ((hseat seats hg).trans (keepsDriving_breakDown _ _ _)).toNoFurther
  | @waits f g seat seats hf hs hsit hg => exact ((hseat seats hg).aim _).toNoFurther

/-- A flight that has to wait is idle again. -/
lemma Stalls.noFurther (hst : w.Stalls w') (h : w.Steady) : NoFurther w w' := by
  cases hst with
  | @flight ticket outer f hd hf =>
    obtain ⟨g, hg, hs⟩ := h.driven ticket (by rw [hd]; exact List.mem_cons_self)
    cases hf.symm.trans hg
    refine (noFurther_setFlight hf { f with status := .idle } ⟨.refl _, ?_, ?_⟩ outer).aim _
    · simp [hs]
    · simp [hs, Status.result?]
  | @misses ticket outer hd hf =>
    obtain ⟨g, hg, -⟩ := h.driven ticket (by rw [hd]; exact List.mem_cons_self)
    cases hf.symm.trans hg
  | branch => exact ((KeepsDriving.refl w).aim _).toNoFurther
  | task _ _ hp => exact hp.keepsDriving.toNoFurther

end World

end Dataflow
