import Dataflow.Proofs.GateSteps

/-!
# Flights that somebody waits for

As long as nothing panics and no task is cancelled, whoever waits for a flight goes on waiting until it
has landed. So every flight that has yet to land is awaited by an unfinished task, at first hand or
through other flights.
-/

namespace Dataflow

namespace Journal

/-- Nothing has panicked, and no task was cancelled. -/
structure Undisturbed (l : List Event) : Prop where
  unharmed : Unharmed l
  uncancelled : ∀ t name, .ended t name .cancelled ∉ l

lemma Undisturbed.earlier {l l' : List Event} (h : Undisturbed l') (hl : l <:+ l') :
    Undisturbed l where
  unharmed := fun text => ⟨fun hm => (h.unharmed text).1 (hl.subset hm),
    fun hm => (h.unharmed text).2 (hl.subset hm)⟩
  uncancelled := fun t name hm => h.uncancelled t name (hl.subset hm)

end Journal

/-- The running task comes to its end. -/
def Focus.isEnding : Focus → Bool
  | .finish how => how.proper
  | _ => false

namespace World

open Journal

variable {w w' : World}

/-- In an undisturbed run nothing is cut short. -/
lemma Sane.quiet_step (h : w.Sane) (hd : w.Due) (hc : Undisturbed w.step.journal) :
    w.focus.isLoss = false ∨ w.step = w.aim .idle := by
  have haim := h.poised.aimed
  have hquiet : ¬Panicked w.journal :=
    h.sound.lawful.not_panicked (hc.earlier (advances_step h.poised hd).journal).unharmed
  cases hf : w.focus with
  | panic text =>
    rw [hf] at haim
    obtain ⟨-, source, text', past, hj⟩ := haim
    exact absurd ⟨source, text', by rw [hj]; exact List.mem_cons_self⟩ hquiet
  | finish how =>
    rw [hf] at haim
    obtain ⟨-, -, hmay⟩ := haim
    have hstep : w.step = w.endTask how := by
      unfold World.step
      rw [hf]
    cases hr : w.running with
    | none => exact .inr (hstep.trans ((w.endsTask how).eq_of_none hr))
    | some t =>
      obtain ⟨task, ht, -⟩ := h.poised.steady.runs t hr
      obtain ⟨v, -, -, hend⟩ := (w.endsTask how).ends hr ht
      rw [hstep] at hc
      cases how with
      | cancelled =>
        exact absurd (hend.suffix.subset List.mem_cons_self) (hc.uncancelled t task.name)
      | panicked text => exact absurd (hmay.panicked text rfl) hquiet
      | _ => exact .inl rfl
  | _ => exact .inl rfl

/-- A task that comes to its end waits for nothing any more. -/
def FreeAtEnd (w : World) : Prop :=
  w.focus.isEnding = true → ∀ own ∈ w.job.shares, w.Done own.ticket

lemma freeAtEnd_of_isEnding (hf : w.focus.isEnding = false) : w.FreeAtEnd := by
  intro he
  rw [hf] at he
  cases he

lemma freeAtEnd_of_isFinish (hf : w.focus.isFinish = false) : w.FreeAtEnd := by
  refine freeAtEnd_of_isEnding ?_
  cases hfocus : w.focus with
  | finish how =>
    rw [hfocus] at hf
    cases hf
  | _ => rfl

lemma freeAtEnd_of_shares (hs : w.job.shares = []) : w.FreeAtEnd := by
  intro _ own ho
  rw [hs] at ho
  cases ho

lemma job_setJob (w : World) (j : Job) : (w.setJob j).job = j ∨ (w.setJob j).job = .nothing := by
  cases hb : w.running.bind (w.tasks[·]?) with
  | some task =>
    obtain ⟨t, hr, ht⟩ := Option.bind_eq_some_iff.mp hb
    exact .inl (job_setJob_of_running hr ht j)
  | none =>
    right
    rcases setJob_cases w j with ⟨t, task, hr, ht, -⟩ | heq
    · rw [hr, Option.bind_some, ht] at hb
      cases hb
    · rw [heq]
      unfold job
      rw [hb]

lemma shares_setJob {j : Job} (hs : j.shares = []) : (w.setJob j).job.shares = [] := by
  rcases job_setJob w j with heq | heq
  · rw [heq, hs]
  · rw [heq]
    rfl

lemma Pauses.freeAtEnd (hp : w.Pauses w') : w'.FreeAtEnd := by
  refine freeAtEnd_of_isEnding ?_
  rcases hp.focus with hf | hf <;> rw [hf] <;> rfl

variable {f : Fan}

lemma shares_of_unfinished (hf : f.unfinished.isEmpty = true) : (Job.fan f).shares = [] := by
  refine List.eq_nil_iff_forall_not_mem.mpr fun own ho => ?_
  rcases Job.mem_shares.mp ho with ⟨host, s, hj⟩ | ⟨k, hj, -⟩ | ⟨i, e, hi, -⟩
  · cases hj
  · cases hj
  · rw [emission?_of_unfinished hf i] at hi
    cases hi

lemma TurnsFan.freeAtEnd (ht : w.TurnsFan f w') : w'.FreeAtEnd := by
  cases ht with
  | polls => exact freeAtEnd_of_isEnding rfl
  | ends _ hu => exact freeAtEnd_of_shares (shares_setJob (w := w) (shares_of_unfinished hu))
  | waits _ hp => exact hp.freeAtEnd
  | yields _ hp => exact hp.freeAtEnd

lemma TurnsToNext.freeAtEnd (ht : w.TurnsToNext w') : w'.FreeAtEnd := by
  cases ht with
  | fan _ hf => exact hf.freeAtEnd
  | pauses _ hp => exact hp.freeAtEnd

lemma Invalidates.freeAtEnd {host node : String} {keys : Option (List String)}
    (hi : w.Invalidates host node keys w') (hs : w.job.shares = []) : w'.FreeAtEnd := by
  cases hi with
  | misses => exact freeAtEnd_of_shares hs
  | starts _ hf => exact hf.freeAtEnd

lemma ResumesTask.freeAtEnd (hr : w.ResumesTask w') : w'.FreeAtEnd := by
  cases hr with
  | finds hj | ends hj | nothing hj => exact freeAtEnd_of_shares (congrArg Job.shares hj)
  | invalidates hj hi => exact hi.freeAtEnd (congrArg Job.shares hj)
  | turns _ hf => exact hf.freeAtEnd
  | follows _ _ hp => exact hp.freeAtEnd
  | joins | polls | computes | works | emits | panics => exact freeAtEnd_of_isEnding rfl

lemma freeAtEnd_of_emission (hf : w.focus = .emission) : w.FreeAtEnd :=
  freeAtEnd_of_isEnding (by rw [hf]; rfl)

lemma Looks.freeAtEnd {e : Emission} {pass : Pass} (hl : w.Looks e pass w')
    (hf : w.focus = .emission) : w'.FreeAtEnd := by
  cases hl with
  | finds => exact freeAtEnd_of_emission ((focus_setEmission _ _).trans hf)
  | joins => exact freeAtEnd_of_isEnding rfl

lemma HandsOut.freeAtEnd {e : Emission} {pass : Pass} {clears : Nat}
    (hd : w.HandsOut e pass clears w') (hf : w.focus = .emission) : w'.FreeAtEnd := by
  cases hd with
  | selects => exact freeAtEnd_of_emission ((focus_setEmission _ _).trans hf)
  | breaks => exact freeAtEnd_of_isEnding rfl
  | retries => exact freeAtEnd_of_emission ((focus_setEmission _ _).trans
      ((focus_makeWay _ e pass).trans hf))

lemma Approaches.freeAtEnd {e : Emission} {pass : Pass} {clears : Nat}
    (ha : w.Approaches e pass clears w') (hf : w.focus = .emission) : w'.FreeAtEnd := by
  cases ha with
  | queues | yields => exact freeAtEnd_of_isEnding rfl
  | delivers _ _ hd => exact hd.freeAtEnd hf

lemma FinishesEmission.freeAtEnd {e : Emission} {pass : Pass} (hf : w.FinishesEmission e pass w') :
    w'.FreeAtEnd := by
  cases hf with
  | branch => exact freeAtEnd_of_isEnding rfl
  | whole => exact freeAtEnd_of_shares (shares_setJob (j := .nothing) rfl)

lemma CallsNext.freeAtEnd {e : Emission} {pass : Pass} {r : Result} {rest : List Nat}
    (hc : w.CallsNext e pass r rest w') (hf : w.focus = .emission) : w'.FreeAtEnd := by
  cases hc with
  | ends hfin => exact hfin.freeAtEnd
  | skips | calls => exact freeAtEnd_of_emission ((focus_setEmission _ _).trans hf)

lemma GoesOn.freeAtEnd (hg : w.GoesOn w') (h : w.Steady) (hf : w.focus = .emission) :
    w'.FreeAtEnd := by
  cases hg with
  | enters => exact freeAtEnd_of_emission ((focus_setEmission _ _).trans hf)
  | looks _ _ hl => exact hl.freeAtEnd hf
  | polls | stalls => exact freeAtEnd_of_isEnding rfl
  | approaches _ _ ha => exact ha.freeAtEnd hf
  | calls _ _ hc => exact hc.freeAtEnd hf
  | acts _ _ ha =>
    rcases ha.focus h hf with hf' | ⟨text, hf'⟩ <;>
      exact freeAtEnd_of_isEnding (by rw [hf']; rfl)

lemma HandsAnswer.freeAtEnd {r : Result} (ha : w.HandsAnswer r w') (h : w.Sane) (hu : w.Unburdened)
    (hf : w.focus = .answer r) : w'.FreeAtEnd := by
  have hd : ∀ own, w.party.share? = some own → w.Done own.ticket := fun own => hu.done h hf
  cases ha with
  | resumes | readies | stalls => exact freeAtEnd_of_isEnding rfl
  | ends hp =>
    intro _ own ho
    have ho' : own ∈ w.job.shares := ho
    rw [job_of_party_output hp, Job.shares, Option.mem_toList] at ho'
    exact hd own (by rw [hp]; exact ho')

lemma FinishesWork.freeAtEnd {c : Content} (hw : w.FinishesWork c w') (h : w.Sane)
    (hu : w.Unburdened) (hf : w.focus = .made c) : w'.FreeAtEnd := by
  have haim := h.poised.aimed
  rw [hf] at haim
  obtain ⟨-, k, hp, -⟩ := haim
  cases hw with
  | ends hd =>
    have haway : k.stage = .away := hu.absorbed (by rw [hf]; rfl) k hp
    rw [party_eq, hd] at hp
    have hj : w.job = .work k := Job.eq_of_party_work hp
    refine freeAtEnd_of_shares ?_
    show w.job.shares = []
    rw [hj, Job.shares, Work.share?, haway]
    rfl
  | misses | lands => exact freeAtEnd_of_isEnding rfl

lemma PollsFlight.isFinish {own : Handle} (hp : w.PollsFlight own w') :
    w'.focus.isFinish = false := by
  cases hp <;> rfl

lemma Stalls.freeAtEnd (hs : w.Stalls w') : w'.FreeAtEnd := by
  cases hs with
  | flight | misses | branch => exact freeAtEnd_of_isEnding rfl
  | task _ _ hp => exact hp.freeAtEnd

lemma Unburdened.freeAtEnd_step (hu : w.Unburdened) (h : w.Sane) : w.step.FreeAtEnd := by
  unfold World.step
  cases hf : w.focus with
  | idle => exact freeAtEnd_of_isEnding (congrArg Focus.isEnding hf)
  | resume => exact w.resumesTask.freeAtEnd
  | work => exact freeAtEnd_of_isFinish w.resumesWork.isFinish
  | make r => exact freeAtEnd_of_isFinish (w.makesRecipe r).isFinish
  | made c => exact (w.finishesWork c).freeAtEnd h hu hf
  | poll own => exact freeAtEnd_of_isFinish (w.pollsFlight own).isFinish
  | answer r => exact (w.handsAnswer r).freeAtEnd h hu hf
  | stall => exact w.stalls.freeAtEnd
  | emission => exact w.goesOn.freeAtEnd h.poised.steady hf
  | next finished => exact (w.turnsToNext finished).freeAtEnd
  | finish how => exact freeAtEnd_of_isEnding (by rw [(w.endsTask how).focus]; rfl)
  | panic text =>
    rcases (w.unwinds text).focus hf with hu | hu <;> exact freeAtEnd_of_isEnding (by rw [hu]; rfl)

lemma keepsAwaited_setJob {j : Job} (hs : ∀ own ∈ w.job.shares, w.Done own.ticket ∨
    ∃ own' ∈ j.shares, own'.ticket = own.ticket) : KeepsAwaited w (w.setJob j) := by
  rcases setJob_cases w j with ⟨t, task, hr, ht, heq⟩ | heq
  · rw [job_of_running hr ht] at hs
    rw [heq]
    exact keepsAwaited_setTask ht (fun h => h) hs
  · rw [heq]
    exact .refl w

lemma KeepsAwaited.same {w'' : World} (h : KeepsAwaited w w') (ht : w''.tasks = w'.tasks)
    (hf : w''.flights = w'.flights) : KeepsAwaited w w'' :=
  h.trans (keepsAwaited_of_eq ht hf)

lemma keepsAwaited_setEngine (w : World) (host : String) (e : Engine) :
    KeepsAwaited w (w.setEngine host e) := keepsAwaited_of_eq rfl rfl

lemma keepsAwaited_makeWay (w : World) (e : Emission) (pass : Pass) :
    KeepsAwaited w (w.makeWay e pass) := by
  obtain ⟨l, heq⟩ := makeWay_eq w e pass
  rw [heq]
  exact (keepsAwaited_setEngine w _ _).trans (keepsAwaited_fades (fadingUnheld_wake _ _))

/-- An emission that waits for nothing goes on. -/
lemma keepsAwaited_setEmission {e e' : Emission} (hp : w.party = .emission e) (hh : e'.host = e.host)
    (hs : e'.slot = e.slot) (hn : e.share? = none) : KeepsAwaited w (w.setEmission e') := by
  obtain ⟨-, hj⟩ := job_party_of_emission hp
  rw [setEmission_eq]
  refine keepsAwaited_setJob fun own ho => ?_
  rcases Job.shares_setParty (p := .emission e') (by rw [hj]; exact ⟨hh, hs⟩) ho with ho | ho
  · rw [hj] at ho
    rw [show e.share? = some own from ho] at hn
    cases hn
  · exact .inr ⟨own, ho, rfl⟩

lemma keepsAwaited_clear {e : Emission} (hp : w.party = .emission e) (hn : e.share? = none) :
    KeepsAwaited w (w.setJob w.job.clear) := by
  obtain ⟨-, hj⟩ := job_party_of_emission hp
  refine keepsAwaited_setJob fun own ho => .inr ⟨own, ?_, rfl⟩
  rcases Job.mem_shares.mp ho with ⟨host, s, heq⟩ | ⟨k, heq, -⟩ | ⟨i, e', hi, he⟩
  · rw [heq] at hj
    cases hj
  · rw [heq] at hj
    cases hj
  · refine Job.mem_shares.mpr (.inr (.inr ⟨i, e', ?_, he⟩))
    rw [Job.emission?_clear hj]
    by_cases hc : w.job.cursor = i
    · subst hc
      rw [Job.emission?_of_party hj] at hi
      cases hi
      rw [hn] at he
      cases he
    · rw [if_neg hc]
      exact hi

lemma HandsOut.keepsAwaited {e : Emission} {pass : Pass} {clears : Nat}
    (hd : w.HandsOut e pass clears w') (h : w.Steady) (hp : w.party = .emission e)
    (hn : e.share? = none) : KeepsAwaited w w' := by
  cases hd with
  | @selects r =>
    have hset : KeepsAwaited w ((w.setEngine e.host ((w.engine e.host).select
      (w.policy e.host) e.slot r).2).log
        (.delivering e.host e.slot pass r ((w.engine e.host).select (w.policy e.host) e.slot r).1)) :=
      keepsAwaited_of_eq rfl rfl
    exact hset.trans (keepsAwaited_setEmission (e := e) hp rfl rfl hn)
  | breaks => exact (routineChange_breakDown w _ _).keepsAwaited
  | retries =>
    have hlog := keeps_log h (.retrying e.host e.slot pass)
    have hparty := (hlog.trans (carries_makeWay hlog.steady e pass).toKeeps).party
    have hretry : KeepsAwaited w (w.log (.retrying e.host e.slot pass)) := keepsAwaited_of_eq rfl rfl
    have hway := hretry.trans (keepsAwaited_makeWay _ e pass)
    exact hway.trans (keepsAwaited_setEmission (hparty.trans hp) rfl rfl hn)

lemma Approaches.keepsAwaited {e : Emission} {pass : Pass} {clears : Nat}
    (ha : w.Approaches e pass clears w') (h : w.Steady) (hp : w.party = .emission e)
    (hn : e.share? = none) : KeepsAwaited w w' := by
  have hlined : KeepsAwaited w (w.takePlace e pass) := keepsAwaited_setEngine w e.host _
  cases ha with
  | queues => exact hlined.same rfl rfl
  | yields =>
    have hwake := fadingUnheld_wake (w.takePlace e pass) [(w.takePlace e pass).self]
    exact (hlined.trans (keepsAwaited_fades hwake)).same rfl rfl
  | delivers _ _ hd =>
    have hset := carries_regate h (Engine.regated_lineUp (w.engine e.host) e.slot pass w.self)
    have hcounted : KeepsAwaited w { w.takePlace e pass with deliveries := w.deliveries + 1 } :=
      hlined.same rfl rfl
    exact hcounted.trans (hd.keepsAwaited hset.steady.rest (hset.party.trans hp) hn)

lemma FinishesEmission.keepsAwaited {e : Emission} {pass : Pass}
    (hf : w.FinishesEmission e pass w') (h : w.Steady) (hp : w.party = .emission e)
    (hn : e.share? = none) : KeepsAwaited w w' := by
  have hleft : KeepsAwaited w (w.leaveGate e pass) :=
    (keepsAwaited_makeWay w e pass).same rfl rfl
  have hparty : (w.leaveGate e pass).party = .emission e :=
    (carries_makeWay h e pass).party.trans hp
  obtain ⟨focus, rfl⟩ := hf.clears
  exact (hleft.trans (keepsAwaited_clear hparty hn)).same rfl rfl

lemma share?_of_progress {e : Emission} (hw : ∀ pass clears own, e.progress ≠ .waiting pass clears own) :
    e.share? = none := by
  unfold Emission.share?
  cases hpr : e.progress with
  | waiting pass clears own => exact absurd hpr (hw pass clears own)
  | _ => rfl

lemma GoesOn.keepsAwaited (hg : w.GoesOn w') (h : w.Steady) : KeepsAwaited w w' := by
  cases hg with
  | @enters e hp hpr =>
    have hset : KeepsAwaited w ((w.setEngine e.host ((w.engine e.host).enter e.slot).2).log
        (.entered e.host e.slot ((w.engine e.host).enter e.slot).1)) := keepsAwaited_of_eq rfl rfl
    exact hset.trans (keepsAwaited_setEmission (e := e) hp rfl rfl (share?_of_progress (by simp [hpr])))
  | looks hp hpr hl =>
    obtain ⟨-, hj⟩ := job_party_of_emission hp
    exact (hl.embarks hj hpr).keepsStakes.keepsAwaited
  | polls | stalls => exact keepsAwaited_of_eq rfl rfl
  | approaches hp hpr ha => exact ha.keepsAwaited h hp (share?_of_progress (by simp [hpr]))
  | @calls e pass r rest _ hp hpr hc =>
    obtain ⟨-, hj⟩ := job_party_of_emission hp
    cases rest with
    | nil =>
      cases hc with
      | ends hf => exact hf.keepsAwaited h hp (share?_of_progress (by simp [hpr]))
    | cons c rest => exact (hc.routineChange hj hpr).keepsAwaited
  | acts hp hpr ha => exact (ha.routineChange h hp hpr).keepsAwaited

/-- A task that waits for nothing any more gives up what it held. -/
lemma DropsJob.keepsAwaited (hdrop : w.DropsJob w') (hn : ∀ i, w.job.emission? i = none)
    (hd : ∀ own ∈ w.job.shares, w.Done own.ticket) : KeepsAwaited w w' ∧
      ∀ own ∈ w'.job.shares, w'.Done own.ticket := by
  rcases hdrop.holds_at_most hn with rfl | ⟨own, rfl⟩
  · exact ⟨.refl _, hd⟩
  · have hset : KeepsAwaited w (w.setJob .nothing) := keepsAwaited_setJob fun own' ho => .inl (hd own' ho)
    have hrelease := fadingUnheld_release (w.setJob .nothing) [] own
    refine ⟨hset.trans (keepsAwaited_fades hrelease), fun own' ho => ?_⟩
    rw [← Job.shares_bare, job_fades hrelease.toFading, Job.shares_bare,
      shares_setJob (j := .nothing) rfl] at ho
    cases ho

/-- A task goes that waits for nothing any more. -/
lemma keepsAwaited_over {t : Nat} {task task' : Task} (ht : w.tasks[t]? = some task)
    (hd : ∀ own ∈ task.job.shares, w.Done own.ticket) :
    KeepsAwaited w { w with tasks := w.tasks.set t task' } := by
  refine keepsAwaited_of (fun i task₁ own hm he ho => ?_)
    (fun i f own hm ho => .inr (.inl ⟨f, own, hm, ho, rfl⟩)) fun ticket h => h
  by_cases hi : t = i
  · subst hi
    rw [ht] at hm
    cases hm
    exact .inl (hd own ho)
  · exact .inr ⟨task₁, own, (List.getElem?_set_ne hi).trans hm, he, ho, rfl⟩

lemma EndsTask.keepsAwaited {how : End} (he : w.EndsTask how w') (h : w.Steady)
    (ha : w.Aimed (.finish how)) (hp : how.proper = true)
    (hd : ∀ own ∈ w.job.shares, w.Done own.ticket) : KeepsAwaited w w' := by
  obtain ⟨hs, hdr, hmay⟩ := ha
  cases hr : w.running with
  | none =>
    rw [he.eq_of_none hr]
    exact keepsAwaited_of_eq rfl rfl
  | some t =>
    obtain ⟨task, ht, -⟩ := h.runs t hr
    have hrunning := (w.dropsJob.drops h hs hdr hr ht).running
    obtain ⟨hdrop, hdone⟩ := w.dropsJob.keepsAwaited (hmay.finished hp) hd
    have hclose : KeepsAwaited w.dropJob (w.closeTask t how) := by
      unfold closeTask modifyTask
      cases ht' : w.dropJob.tasks[t]? with
      | some task' =>
        rw [job_of_running hrunning ht'] at hdone
        exact keepsAwaited_over ht' hdone
      | none => exact .refl _
    obtain ⟨subscriptions, hkin⟩ := he.shelves hr ht
    have hrest : KeepsAwaited (w.closeTask t how)
        { (w.closeTask t how).log (.ended t task.name how) with
          subscriptions, running := none, rewoken := false, focus := .idle } :=
      keepsAwaited_of_eq rfl rfl
    exact (hdrop.trans (hclose.trans hrest)).trans (keepsAwaited_fades hkin)

lemma Unburdened.keepsAwaited (hu : w.Unburdened) (h : w.Sane) (hq : w.FreeAtEnd)
    (hn : w.focus.isLoss = false) : KeepsAwaited w w.step := by
  have haim := h.poised.aimed
  by_cases hp : w.focus.isPassing = false
  · exact (hu.keepsStakes h hp).keepsAwaited
  · unfold World.step
    cases hf : w.focus with
    | emission => exact w.goesOn.keepsAwaited h.poised.steady
    | finish how =>
      rw [hf] at haim hn
      have hproper : how.proper = true := by simpa [Focus.isLoss] using hn
      exact (w.endsTask how).keepsAwaited h.poised.steady haim hproper
        (hq (by rw [hf]; exact hproper))
    | panic text =>
      rw [hf] at hn
      cases hn
    | _ =>
      rw [hf] at hp
      exact absurd rfl hp

lemma shares_of_party {j : Job} {own : Handle} (ho : j.party.share? = some own) :
    own ∈ j.shares := by
  cases hp : j.party with
  | work k =>
    rw [hp] at ho
    exact Job.mem_shares.mpr (.inr (.inl ⟨k, Job.eq_of_party_work hp, ho⟩))
  | emission e =>
    rw [hp] at ho
    exact Job.mem_shares.mpr (.inr (.inr ⟨_, e, Job.emission?_of_party hp, ho⟩))
  | output host s share =>
    rw [hp] at ho
    have hj := Job.eq_of_party_output hp
    rw [show share = some own from ho] at hj
    exact Job.mem_shares.mpr (.inl ⟨host, s, hj⟩)
  | nobody =>
    rw [hp] at ho
    cases ho

/-- What the innermost party waits for is awaited by the task that runs, through the flights that are
being driven. -/
lemma Steady.awaited_of_linked (h : w.Steady) {driving : List Nat}
    (hl : Linked w.flights w.job driving) {ticket : Nat}
    (ha : (partyAt w.flights w.job driving).awaits = some ticket) : w.Awaited ticket := by
  induction driving generalizing ticket with
  | nil =>
    obtain ⟨own, ho, rfl⟩ := Option.map_eq_some_iff.mp ha
    have hmem := shares_of_party ho
    cases hb : w.running.bind (w.tasks[·]?) with
    | none =>
      rw [show w.job = .nothing by unfold job; rw [hb]] at hmem
      cases hmem
    | some task =>
      obtain ⟨t, hr, ht⟩ := Option.bind_eq_some_iff.mp hb
      obtain ⟨task', ht', he⟩ := h.runs t hr
      rw [ht'] at ht
      cases ht
      rw [job_of_running hr ht'] at hmem
      exact .task ht' he hmem
  | cons d outer ih =>
    obtain ⟨hd, hl⟩ := hl
    unfold partyAt at ha
    dsimp only at ha
    cases hf : w.flights[d]? with
    | some f =>
      rw [hf] at ha
      obtain ⟨own, ho, rfl⟩ := Option.map_eq_some_iff.mp ha
      exact .flight (ih hl hd) hf ho
    | none =>
      rw [hf] at ha
      cases ha

lemma Steady.awaited_of_party (h : w.Steady) {ticket : Nat} (ha : w.party.awaits = some ticket) :
    w.Awaited ticket := by
  rw [party_eq] at ha
  exact h.awaited_of_linked h.linked ha

/-- Whatever has taken off is awaited until it is done with. -/
def Attended (w : World) : Prop :=
  ∀ ticket < departures w.journal, w.Awaited ticket ∨ w.Done ticket

lemma Attended.keepsAwaited (h : w.Attended) (hc : KeepsAwaited w w')
    (hn : ∀ ticket < departures w'.journal, departures w.journal ≤ ticket → w'.Awaited ticket) :
    w'.Attended := by
  intro ticket hlt
  by_cases hold : ticket < departures w.journal
  · rcases h ticket hold with ha | hd
    · exact hc.awaited ticket ha
    · exact .inr (hc.done ticket hd)
  · exact .inl (hn ticket hlt (Nat.le_of_not_lt hold))

lemma Sane.departures (h : w.Sane) : departures w.journal = w.flights.length := by
  have hcount := h.sound.logged.count
  rw [show w.ledger.flights.length = w.flights.length from List.length_map _] at hcount
  exact hcount.symm

lemma Uneventful.departures (h : Uneventful w w') : departures w'.journal = departures w.journal := by
  obtain ⟨new, hj, hn⟩ := h.journal
  have hzero : new.countP Event.isDeparture = 0 := by
    refine List.countP_eq_zero.mpr fun e he hd => ?_
    have hm := hn e he
    cases e with
    | takenOff _ _ _ => cases hm
    | _ => cases hd
  rw [hj]
  unfold Journal.departures
  rw [List.countP_append, hzero, Nat.zero_add]

/-- If a flight takes off in a step, it is polled next. -/
lemma Stride.departures {policy : String → Policy} (h : Stride w w')
    (hl : Lawful policy w'.journal) : departures w'.journal = departures w.journal ∨
      ∃ own, w'.focus = .poll own ∧ own.ticket = departures w.journal ∧
        departures w'.journal = departures w.journal + 1 := by
  cases h with
  | uneventful h => exact .inl h.departures
  | @marks v w' e hv hm h =>
    refine .inl (h.departures.trans ?_)
    rw [← hv.departures]
    show Journal.departures (e :: v.journal) = _
    cases hm <;> rfl
  | @takesOff v w' host s own hv h hf =>
    obtain ⟨new, hnew⟩ := h.suffix
    rw [← hnew] at hl
    obtain ⟨-, -, hticket⟩ := hl.fits
    rw [hv.departures] at hticket
    refine .inr ⟨own, hf, hticket, h.departures.trans ?_⟩
    rw [← hv.departures]
    exact departures_cons _ _
  | computes _ _ _ =>
    left
    show Journal.departures (w.setJob _).journal = _
    rw [journal_setJob]

lemma Attended.step (h : w.Attended) (hu : w.Unburdened) (hs : w.Sane) (hs' : w.step.Sane)
    (hq : w.FreeAtEnd) (hn : w.focus.isLoss = false) : w.step.Attended := by
  refine h.keepsAwaited (hu.keepsAwaited hs hq hn) fun ticket hlt hle => ?_
  rcases (hu.stride hs).departures hs'.sound.lawful with heq | ⟨own, hf, hticket, heq⟩
  · omega
  · obtain rfl : ticket = own.ticket := by omega
    have haim := hs'.poised.aimed
    rw [hf] at haim
    exact hs'.poised.steady.awaited_of_party haim.2

end World

namespace Scene

theorem freeAtEnd_of_reachable {s : Scene} {w : World} (h : World.Reachable s.opening w) : w.FreeAtEnd := by
  refine keeps h (World.freeAtEnd_of_isEnding rfl) (fun _ _ _ _ _ _ _ hf => ?_) fun w hr _ =>
    (unburdened_of_reachable hr).freeAtEnd_step (sane_of_reachable hr)
  refine World.freeAtEnd_of_isEnding ?_
  cases heq : World.focus _ with
  | idle | resume => rfl
  | finish how =>
    rw [heq] at hf
    cases how with
    | cancelled => rfl
    | _ => cases hf
  | _ =>
    rw [heq] at hf
    cases hf

/-- What is kept between turns, and by every step that cuts nothing short, holds throughout undisturbed
runs. -/
lemma keeps_undisturbed {s : Scene} {w : World} {P : World → Prop}
    (h : World.Reachable s.opening w) (hu : Journal.Undisturbed w.journal) (h₀ : P s.opening)
    (hturn : ∀ w w', World.Reachable s.opening w → P w → World.RoutineChange w w' → P w')
    (hstep : ∀ w, World.Reachable s.opening w → P w → w.focus.isLoss = false → P w.step)
    (hidle : ∀ w, P w → P (w.aim .idle)) : P w := by
  refine keeps (P := fun w => Journal.Undisturbed w.journal → P w) h (fun _ => h₀) ?_ ?_ hu
  · intro w w' hr hw _ hrests ht _ hlater
    exact hturn w w' hr (hw (hlater.earlier hrests.journal)) ht
  · intro w hr hw hlater
    have hs := sane_of_reachable hr
    have hd := due_of_reachable hr
    have hw' := hw (hlater.earlier (World.advances_step hs.poised hd).journal)
    rcases hs.quiet_step hd hlater with hn | heq
    · exact hstep w hr hw' hn
    · rw [heq]
      exact hidle w hw'

/-- In an undisturbed run every flight is awaited until it is done with. -/
theorem attended_of_reachable {s : Scene} {w : World} (h : World.Reachable s.opening w)
    (hu : Journal.Undisturbed w.journal) : w.Attended := by
  refine keeps_undisturbed h hu ?_ (fun w w' hr hw ht => ?_) (fun w hr hw hn => ?_) fun w hw => ?_
  · intro ticket hlt
    exact absurd hlt (Nat.not_lt_zero ticket)
  · refine hw.keepsAwaited ht.keepsAwaited fun ticket hlt hle => ?_
    rw [ht.toUneventful.departures] at hlt
    exact absurd hlt (Nat.not_lt_of_le hle)
  · exact hw.step (unburdened_of_reachable hr) (sane_of_reachable hr) (sane_of_reachable hr.step)
      (freeAtEnd_of_reachable hr) hn
  · exact hw.keepsAwaited (World.keepsAwaited_of_eq rfl rfl) fun ticket hlt hle =>
      absurd hlt (Nat.not_lt_of_le hle)

end Scene

end Dataflow
