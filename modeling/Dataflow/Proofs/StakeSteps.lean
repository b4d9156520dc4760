import Dataflow.Proofs.Stakes
import Dataflow.Proofs.TaskCases

/-!
# What the functions of a world leave held

One lemma for each function that has nothing to do with gates. The others are those of emissions that
come to a gate, deliver, or go.
-/

namespace Dataflow

namespace World

variable {A : Action → Prop} {w w' : World}

lemma isMilestone_of_isEntry {e : Event} (h : e.isEntry = true) : e.isMilestone = false := by
  cases e with
  | built | registered | postponed | unregistered | subscribed => rfl
  | _ => cases h

lemma routineChange_unbegun (w : World) {task : Task} (hj : task.job.Unbegun) :
    RoutineChange w (w.spawn task).1 := by
  refine routineChange_spawn w (fun i e he => ?_) hj.work
  rw [hj.emission i e he]
  rfl

lemma routineChange_touch (h : Touch A w w') : RoutineChange w w' := by
  cases h with
  | aside | keeps | forgets | opens => exact (RoutineChange.refl w).same rfl rfl rfl rfl
  | @awaits name sub s lent hs hl hj =>
    have hover : RoutineChange w (w.handOver sub s lent) := (RoutineChange.refl w).same rfl rfl rfl rfl
    exact hover.trans (routineChange_unbegun _ hj)
  | notes he => exact (RoutineChange.refl w).log (isMilestone_of_isEntry he)
  | engines hp => exact routineChange_of_eq hp rfl rfl rfl
  | enrols =>
    obtain ⟨_, _, heq⟩ := subscriberOf_frame w _
    rw [heq]
    exact (RoutineChange.refl w).same rfl rfl rfl rfl
  | withdraws => exact ((RoutineChange.refl w).setEngine (Engine.keepsGates_unsubscribe _ _ _)).log rfl
  | fades hk => exact routineChange_fades hk
  | cancels ht =>
    exact routineChange_setTask ht (fun he => he) rfl (fun own ho => .inr ⟨own, ho, rfl⟩)
      fun k' hk => ⟨k', hk, .refl k'⟩
  | spawns _ hj => exact routineChange_unbegun w hj

lemma routineChange_touches (h : Touches A w w') : RoutineChange w w' := by
  induction h with
  | refl => exact .refl w
  | tail _ ht ih => exact ih.trans (routineChange_touch ht)

/-- Whatever is held is held after an action. -/
lemma routineChange_perform (h : w.Steady) (a : Action) : RoutineChange w (w.perform a).1 :=
  routineChange_touches (touches_perform (A := fun _ => True) h True.intro)

lemma stake?_of_progress {e : Emission} {p : Progress} {pass : Pass} {delivering : Bool}
    (hp : p.pass? = some pass) (ho : p.phase.isOpen = !delivering) :
    Emission.stake? { e with progress := p } = some ⟨e.host, e.slot, pass, delivering⟩ := by
  unfold Emission.stake?
  dsimp only
  rw [hp, ho, Bool.not_not]
  rfl

lemma stake?_eq {e : Emission} {pass : Pass} {delivering : Bool}
    (hp : e.progress.pass? = some pass) (ho : e.progress.phase.isOpen = !delivering) :
    e.stake? = some ⟨e.host, e.slot, pass, delivering⟩ :=
  stake?_of_progress (e := e) hp ho

lemma Looks.embarks {e : Emission} {pass : Pass} (hl : w.Looks e pass w')
    (hp : w.job.party = .emission e) (hpr : e.progress = .looking pass) : Embarks w w' := by
  have hstake : e.stake? = some ⟨e.host, e.slot, pass, false⟩ :=
    stake?_eq (by rw [hpr]; rfl) (by rw [hpr]; rfl)
  have hshare : e.share? = none := by rw [Emission.share?, hpr]
  have hlooked : RoutineChange w (w.log (.looked e.host e.slot pass)) := (RoutineChange.refl w).log rfl
  cases hl with
  | finds =>
    refine .routineChange (hlooked.trans (routineChange_setEmission
      (e := e) hp rfl rfl ?_ fun own ho => ?_))
    · rw [hstake]
      exact stake?_of_progress rfl rfl
    · rw [hshare] at ho
      cases ho
  | joins =>
    have hjob := job_join (w.log (.looked e.host e.slot pass)) e.host e.slot
    refine hlooked.join e.host e.slot (RoutineChange.aim ?_ _) rfl
    refine routineChange_setEmission (e := e) (hjob ▸ hp) rfl rfl ?_ fun own' ho => ?_
    · rw [hstake]
      exact stake?_of_progress rfl rfl
    · rw [hshare] at ho
      cases ho

/-- An emission that calls goes on calling. -/
lemma routineChange_calling {e : Emission} {p : Progress} {pass : Pass} {r r' : Result}
    {rest rest' : List Nat} (hp : w.job.party = .emission e)
    (hpr : e.progress.phase = .calling pass r rest) (hp' : p.phase = .calling pass r' rest') :
    RoutineChange w (w.setEmission { e with progress := p }) := by
  have hpass : ∀ q : Progress, ∀ r rest, q.phase = .calling pass r rest →
      q.pass? = some pass ∧ q.phase.isOpen = !true := by
    intro q r rest hq
    refine ⟨?_, by rw [hq]; rfl⟩
    cases q with
    | calling pass' r₁ rest₁ =>
      cases hq
      rfl
    | acting pass' r₁ rest₁ callback script =>
      cases hq
      rfl
    | _ => cases hq
  refine routineChange_setEmission (e := e) hp rfl rfl ?_ fun own ho => ?_
  · rw [stake?_of_progress (hpass p r' rest' hp').1 (hpass p r' rest' hp').2,
      stake?_eq (hpass e.progress r rest hpr).1 (hpass e.progress r rest hpr).2]
  · unfold Emission.share? at ho
    cases hw : e.progress with
    | waiting pass clears own' =>
      rw [hw] at hpr
      cases hpr
    | _ =>
      rw [hw] at ho
      cases ho

lemma CallsNext.routineChange {e : Emission} {pass : Pass} {r : Result} {c : Nat} {rest : List Nat}
    (hc : w.CallsNext e pass r (c :: rest) w') (hp : w.job.party = .emission e)
    (hpr : e.progress = .calling pass r (c :: rest)) : RoutineChange w w' := by
  have hphase : e.progress.phase = .calling pass r (c :: rest) := congrArg Progress.phase hpr
  cases hc with
  | skips => exact routineChange_calling hp hphase rfl
  | @calls _ _ s =>
    have hcounted : RoutineChange w { w with
        subscribers := w.subscribers.set c { s with calls := s.calls + 1 } } :=
      (RoutineChange.refl w).same rfl rfl rfl rfl
    have hcalled : RoutineChange w (({ w with
        subscribers := w.subscribers.set c { s with calls := s.calls + 1 } } : World).log
          (.called e.host e.slot c s.callback r)) := hcounted.log rfl
    exact hcalled.trans (routineChange_calling hp hphase rfl)

lemma ActsNext.routineChange {e : Emission} {pass : Pass} {r : Result} {rest : List Nat}
    {callback : String} {script : List Action} (ha : w.ActsNext e pass r rest callback script w')
    (h : w.Steady) (hp : w.party = .emission e)
    (hpr : e.progress = .acting pass r rest callback script) : RoutineChange w w' := by
  have hphase : e.progress.phase = .calling pass r rest := congrArg Progress.phase hpr
  cases ha with
  | rests => exact routineChange_calling (job_party_of_emission hp).2 hphase rfl
  | @acts a script v reply heq =>
    have hperform := routineChange_perform h a
    have hparty := (carries_perform h a).party
    rw [heq] at hperform hparty
    have hacted : RoutineChange w (v.log (.acted callback reply)) := hperform.log rfl
    have hgoes : (Progress.calling pass r rest).phase = .calling pass r rest := rfl
    exact hacted.trans (routineChange_calling (job_party_of_emission (hparty.trans hp)).2 hphase hgoes)
  | @panics a script v text heq =>
    have hperform := routineChange_perform h a
    rw [heq] at hperform
    exact RoutineChange.trans hperform (routineChange_breakDown v _ _)

lemma Pauses.routineChange (hp : w.Pauses w') : RoutineChange w w' := by
  have hrest : RoutineChange w { w with running := none, rewoken := false, focus := .idle } :=
    (RoutineChange.refl w).same rfl rfl rfl rfl
  cases hp with
  | idle => exact (RoutineChange.refl w).aim _
  | ends => exact (RoutineChange.refl w).aim _
  | returns => exact hrest.fades (fadingUnheld_enqueue _ _)
  | rests => exact hrest

/-- The running task may turn into any fan with these branches. -/
def Folds (w : World) (branches : List (Option Emission)) : Prop :=
  ∀ f : Fan, f.branches = branches → RoutineChange w (w.setJob (.fan f))

variable {f : Fan}

lemma folds_of_job (hj : w.job = .fan f) : w.Folds f.branches := by
  intro f' hf'
  have hemission : (Job.fan f').emission? = (Job.fan f).emission? := by
    funext i
    show f'.branch? i = f.branch? i
    unfold Fan.branch?
    rw [hf']
  refine routineChange_setJob ?_ (fun own ho => .inr ⟨own, ?_, rfl⟩) (by rintro k' ⟨⟩)
  · rw [hj]
    funext i
    unfold Job.stake?
    rw [hemission]
  · rw [hj] at ho
    have hfan : f'.emissions = f.emissions := by rw [Fan.emissions, Fan.emissions, hf']
    show own ∈ f'.emissions.filterMap Emission.share?
    rw [hfan]
    exact ho

lemma TurnsFan.routineChange (ht : w.TurnsFan f w') (h : w.Folds f.branches) :
    RoutineChange w w' := by
  cases ht with
  | @polls g i hg => exact (h (g.aimAt i) hg.branches).aim .emission
  | ends hg => exact (h _ hg.branches).aim _
  | waits hg hp => exact (h _ hg.branches).trans hp.routineChange
  | @yields g v hg hp =>
    have hset : RoutineChange w { w.setJob (.fan g) with rewoken := true } :=
      (h g hg.branches).same rfl rfl rfl rfl
    exact hset.trans hp.routineChange

lemma TurnsToNext.routineChange (ht : w.TurnsToNext w') : RoutineChange w w' := by
  cases ht with
  | fan hj hf => exact hf.routineChange (folds_of_job hj)
  | pauses _ hp => exact hp.routineChange

lemma routineChange_clearAll (w : World) (host node : String) (keys : List String) :
    RoutineChange w (keys.foldl (fun w k => w.clear host ⟨node, k⟩) w) := by
  induction keys generalizing w with
  | nil => exact .refl w
  | cons k keys ih =>
    have hset : RoutineChange w (w.setEngine host ((w.engine host).clear ⟨node, k⟩)) :=
      (RoutineChange.refl w).setEngine ⟨rfl, rfl⟩
    have hclear : RoutineChange w (w.clear host ⟨node, k⟩) := hset.fades (fadingUnheld_releaseAll _ _)
    exact hclear.trans (ih _)

/-- The emissions of an invalidation have yet to begin. -/
lemma stake?_fan_of (host node : String) (keys : List String) (i : Nat) :
    (Job.fan (Fan.of host node keys)).stake? i = none := by
  show ((Fan.of host node keys).branch? i).bind Emission.stake? = none
  unfold Fan.branch? Fan.of
  rw [List.getElem?_map]
  cases keys[i]? <;> rfl

lemma bare_clearAll (w : World) (host node : String) (keys : List String) :
    (keys.foldl (fun w k => w.clear host ⟨node, k⟩) w).job.bare = w.job.bare := by
  induction keys generalizing w with
  | nil => rfl
  | cons k keys ih =>
    have hkin := fadingUnheld_releaseAll ((w.engine host).flying ⟨node, k⟩).toList
      (w.setEngine host ((w.engine host).clear ⟨node, k⟩))
    have hjob : (w.clear host ⟨node, k⟩).job.bare = w.job.bare :=
      job_fades (w := w.setEngine host ((w.engine host).clear ⟨node, k⟩)) hkin.toFading
    exact (ih _).trans hjob

lemma Invalidates.routineChange {host node : String} {keys : Option (List String)}
    (hi : w.Invalidates host node keys w') (hj : w.job = .invalidate host node keys) :
    RoutineChange w w' := by
  cases hi with
  | misses => exact (RoutineChange.refl w).aim _
  | @starts n v hn hturns =>
    generalize keys.getD n.outputs.names = ks at hturns
    have hlog : RoutineChange w (w.log (.invalidating (w.running.getD 0) host node ks)) :=
      (RoutineChange.refl w).log rfl
    have hjob := bare_clearAll (w.log (.invalidating (w.running.getD 0) host node ks)) host node ks
    rw [show (w.log (.invalidating (w.running.getD 0) host node ks)).job = w.job from rfl, hj] at hjob
    refine (hlog.trans (routineChange_clearAll _ host node ks)).trans (hturns.routineChange fun f hf => ?_)
    refine routineChange_setJob ?_ (fun own ho => ?_) (by rintro k' ⟨⟩)
    · rw [← Job.stake?_bare (World.job _), hjob]
      funext i
      have hnone := stake?_fan_of host node ks i
      show (f.branch? i).bind Emission.stake? = none
      rw [← hnone]
      show _ = ((Fan.of host node ks).branch? i).bind Emission.stake?
      unfold Fan.branch?
      rw [hf]
    · rw [← Job.shares_bare, hjob] at ho
      cases ho

/-- A task that is taken up computes on its own, or goes on with what it holds. -/
lemma ResumesTask.computes_or (hr : w.ResumesTask w') :
    (∃ host slot, w.job = .compute host slot ∧
      w' = (w.setJob (.work { host, slot, target := (w.engine host).target slot })).aim .work) ∨
    Embarks w w' := by
  have haim (focus : Focus) : Embarks w (w.aim focus) :=
    .routineChange ((RoutineChange.refl w).aim focus)
  cases hr with
  | computes hj => exact .inl ⟨_, _, hj, rfl⟩
  | finds | polls | works | emits | ends | nothing => exact .inr (haim _)
  | @joins host slot hj =>
    have hset : RoutineChange (w.join host slot).1
        ((w.join host slot).1.setJob (.output host slot (some (w.join host slot).2))) := by
      refine routineChange_setJob ?_ (fun own ho => ?_) (by rintro k' ⟨⟩)
      · rw [job_join, hj]
        rfl
      · rw [job_join, hj] at ho
        cases ho
    exact .inr ((RoutineChange.refl w).join host slot (hset.aim _) rfl)
  | invalidates hj hi => exact .inr (.routineChange (hi.routineChange hj))
  | turns hj hf => exact .inr (.routineChange (hf.routineChange (folds_of_job hj)))
  | panics => exact .inr (.routineChange (routineChange_breakDown w _ _))
  | @follows t v hj he hp =>
    have hmod : RoutineChange w (w.modifyTask t fun task => { task with follower := w.running }) :=
      routineChange_modifyTask w t fun _ => ⟨rfl, rfl⟩
    exact .inr (.routineChange (hmod.trans hp.routineChange))

/-- A task that computes on its own has its work from then on, with what is registered now. -/
lemma keepsStakes_compute {host : String} {slot : Slot} (hj : w.job = .compute host slot) :
    KeepsStakes w (w.setJob (.work { host, slot, target := (w.engine host).target slot })) := by
  rcases setJob_cases w (.work { host, slot, target := (w.engine host).target slot }) with
    ⟨t, task, hr, ht, heq⟩ | heq
  · rw [job_of_running hr ht] at hj
    rw [heq]
    refine ⟨fun _ => ⟨rfl, rfl⟩, fun u i => ?_, keepsAwaited_setTask ht (fun h => h) fun own ho => ?_⟩
    · rw [stake?_setTask ht]
      by_cases hu : t = u
      · subst hu
        rw [if_pos rfl, World.stake?, ht, Option.bind_some, hj]
        rfl
      · rw [if_neg hu]
    · rw [hj] at ho
      cases ho
  · rw [heq]
    exact (RoutineChange.refl w).toKeepsStakes

lemma ResumesTask.keepsStakes (hr : w.ResumesTask w') : KeepsStakes w w' := by
  rcases hr.computes_or with ⟨host, slot, hj, rfl⟩ | hembarks
  · exact (keepsStakes_compute hj).trans ((RoutineChange.refl _).aim _).toKeepsStakes
  · exact hembarks.keepsStakes

lemma routineChange_poll (w : World) (t : Nat) : RoutineChange w (w.poll t) := by
  rcases w.poll_cases t with heq | ⟨_, _, _, -, -, -, heq⟩ <;> rw [heq]
  · exact .refl w
  · exact (RoutineChange.refl w).same rfl rfl rfl rfl

lemma Steady.not_done (h : w.Steady) {ticket : Nat} (ht : w.ticket? = some ticket) :
    ¬w.Done ticket := by
  rintro ⟨f, r, hf, hl, -⟩
  obtain ⟨g, hg, hs⟩ := h.driven ticket (List.mem_of_mem_head? ht)
  rw [hf] at hg
  cases hg
  rw [hl] at hs
  cases hs

lemma routineChange_away (h : w.Steady) {k : Work} (hp : w.party = .work k)
    (hs : ∀ own, k.share? = some own → w.Done own.ticket) :
    RoutineChange w (w.setWork { k with stage := .away }) :=
  routineChange_setWork hp (.away k) (fun own ho => .inl (hs own ho))
    fun _ ht => h.not_done ht

/-- A work begins, and its node is asked for the output, or a work goes on with what it holds. -/
lemma ResumesWork.begins_or (hr : w.ResumesWork w') (h : w.Steady) :
    (∃ k n schema, w.party = .work k ∧ k.stage = .fresh ∧ k.target = .ok (n, schema) ∧
      RoutineChange w (w.setWork { k with stage := .away }) ∧
      w' = ((w.setWork { k with stage := .away }).log (.begun k.host k.slot w.ticket?)).aim
        (.make (n.produce k.slot.output))) ∨ RoutineChange w w' := by
  have haway (k : Work) (hp : w.party = .work k) (hs : k.share? = none) :
      RoutineChange w (w.setWork { k with stage := .away }) :=
    routineChange_away h hp fun own ho => by
      rw [hs] at ho
      cases ho
  cases hr with
  | @begins k n schema hp hs ht =>
    exact .inl ⟨k, n, schema, hp, hs, ht, haway k hp (by rw [Work.share?, hs]), rfl⟩
  | @misses k f hp hs => exact .inr ((haway k hp (by rw [Work.share?, hs])).aim _)
  | @opened k valve rest v o hp hs => exact .inr ((haway k hp (by rw [Work.share?, hs])).aim _)
  | waits => exact .inr ((RoutineChange.refl w).same rfl rfl rfl rfl)
  | polls | stalls => exact .inr ((RoutineChange.refl w).aim _)

lemma ResumesWork.keepsStakes (hr : w.ResumesWork w') (h : w.Steady) : KeepsStakes w w' := by
  rcases hr.begins_or h with ⟨k, n, schema, -, -, -, hroutine, rfl⟩ | hroutine
  · exact (hroutine.toKeepsStakes.log _).trans ((RoutineChange.refl _).aim _).toKeepsStakes
  · exact hroutine.toKeepsStakes

lemma MakesRecipe.embarks {r : Recipe} (hm : w.MakesRecipe r w') (h : w.Steady)
    (hs : ∀ k, w.party = .work k → k.share? = none) : Embarks w w' := by
  have hset : ∀ {v : World} {k : Work} (st : Stage), v.Steady → w.party = .work k →
      v.party = .work k → st ≠ .fresh → RoutineChange v (v.setWork { k with stage := st }) := by
    intro v k st hv hp hp' hst
    refine routineChange_setWork hp' ⟨rfl, rfl, rfl, fun hf => absurd hf hst⟩ (fun own ho => ?_)
      fun _ ht => hv.not_done ht
    rw [hs k hp] at ho
    cases ho
  have hlog (e : Event) (he : e.isMilestone = false) : RoutineChange w (w.log e) :=
    (RoutineChange.refl w).log he
  cases hm with
  | finishes => exact .routineChange ((hlog _ rfl).aim _)
  | misfits => exact .routineChange ((hlog _ rfl).trans (routineChange_breakDown _ _ _))
  | crashes => exact .routineChange (routineChange_breakDown w _ _)
  | announces => exact .routineChange ((hlog _ rfl).aim _)
  | peeks | finds | stalls => exact .routineChange ((RoutineChange.refl w).aim _)
  | @holds k what rest hp =>
    have hvalve : RoutineChange w { w with valves := w.valves ++ [({} : Valve)] } :=
      (RoutineChange.refl w).same rfl rfl rfl rfl
    have hheld : RoutineChange w (({ w with valves := w.valves ++ [({} : Valve)] } : World).log
        (.producing what (some w.valves.length))) := hvalve.log rfl
    have hsteady : (({ w with valves := w.valves ++ [({} : Valve)] } : World).log
        (.producing what (some w.valves.length))).Steady :=
      Steady.log (w := { w with valves := w.valves ++ [({} : Valve)] }) h.rest _
    exact .routineChange
      ((hheld.trans (hset (.held w.valves.length rest) hsteady hp hp (by rintro ⟨⟩))).aim _)
  | @asks k host slot rest hp hc =>
    have hj := World.joins h hc
    exact (RoutineChange.refl w).join host slot ((hset (.asking (w.join host slot).2 rest) hj.steady hp
      (hj.party.trans hp) (by rintro ⟨⟩)).aim _) rfl

lemma routineChange_nextResult (w : World) (focus : Focus) :
    RoutineChange w ({ w with nextResult := w.nextResult + 1 }.aim focus) :=
  (RoutineChange.refl w).same rfl rfl rfl rfl

/-- A flight lands, and keeps its work as it was. -/
lemma land_lands {ticket : Nat} {f : Flight} (hf : w.flights[ticket]? = some f)
    (hn : ¬w.Done ticket) (r : Result) :
    ∃ v kept, RoutineChange w v ∧ v.journal = w.journal ∧
      RoutineChange (v.log (.landed f.work.host f.work.slot ticket r kept)) (w.land ticket f r) := by
  have hset : RoutineChange w (w.setEngine f.work.host
      ((w.engine f.work.host).land f.work.slot ticket r)) :=
    (RoutineChange.refl w).setEngine ((w.engine f.work.host).keepsGates_land f.work.slot ticket r)
  refine ⟨_, decide ((w.engine f.work.host).flying f.work.slot = some ticket), hset, rfl, ?_⟩
  have hflight := routineChange_setFlight (w := (w.setEngine f.work.host
    ((w.engine f.work.host).land f.work.slot ticket r)).log (.landed f.work.host f.work.slot ticket r
      ((w.engine f.work.host).flying f.work.slot = some ticket)))
    hf { f with status := .landed r, seats := {} } (fun own ho => .inr ⟨own, ho, rfl⟩)
    (fun hd => absurd hd hn) w.driving
  exact hflight.fades (fadingUnheld_wake _ f.seats.waiters)

lemma finishWork_lands (h : w.Steady) {ticket : Nat} {outer : List Nat} {f : Flight}
    (hd : w.driving = ticket :: outer) (hf : w.flights[ticket]? = some f) (c : Content) :
    ∃ v kept, RoutineChange w v ∧ v.journal = w.journal ∧ RoutineChange
      (v.log (.landed f.work.host f.work.slot ticket
      ⟨w.nextResult, c⟩ kept)) (w.finishWork c) := by
  have hn : ¬w.Done ticket := h.not_done (by rw [ticket?, hd]; rfl)
  have hnext : RoutineChange w { w with nextResult := w.nextResult + 1 } :=
    (RoutineChange.refl w).same rfl rfl rfl rfl
  obtain ⟨v, kept, hv, hj, hland⟩ :=
    land_lands (w := { w with nextResult := w.nextResult + 1 }) hf hn ⟨w.nextResult, c⟩
  refine ⟨v, kept, hnext.trans hv, hj, ?_⟩
  rw [finishWork_cons hd hf]
  refine RoutineChange.aim ?_ _
  exact hland.same rfl rfl rfl rfl

/-- A work comes to its content, and a flight lands or nothing else happens. -/
lemma FinishesWork.keepsStakes {c : Content} (hf : w.FinishesWork c w') (h : w.Steady) :
    KeepsStakes w w' := by
  cases hf with
  | ends => exact (routineChange_nextResult w _).toKeepsStakes
  | @misses ticket outer hd hf =>
    obtain ⟨f, hf', -⟩ := h.driven ticket (by rw [hd]; exact List.mem_cons_self)
    cases hf.symm.trans hf'
  | @lands ticket outer f hd hf =>
    obtain ⟨v, kept, hv, -, hland⟩ := finishWork_lands h hd hf c
    rw [finishWork_cons hd hf] at hland
    exact (hv.toKeepsStakes.log _).trans hland.toKeepsStakes

lemma stake?_of_waiting {e : Emission} {pass : Pass} {clears : Nat} {own : Handle}
    (hpr : e.progress = .waiting pass clears own) :
    e.stake? = some ⟨e.host, e.slot, pass, false⟩ :=
  stake?_eq (by rw [hpr]; rfl) (by rw [hpr]; rfl)

/-- Who is handed an answer lets go of a flight that has landed. -/
lemma HandsAnswer.routineChange {r : Result} (ha : w.HandsAnswer r w') (h : w.Steady)
    (hd : ∀ own, w.party.share? = some own → w.Done own.ticket) : RoutineChange w w' := by
  cases ha with
  | resumes hp =>
    rw [hp] at hd
    exact (routineChange_away h hp hd).aim _
  | @readies e pass clears own hp hpr =>
    rw [hp] at hd
    refine RoutineChange.aim ?_ _
    refine routineChange_setEmission (e := e) (job_party_of_emission hp).2 rfl rfl ?_
      fun own ho => .inl (hd own ho)
    rw [stake?_of_waiting hpr]
    exact stake?_of_progress rfl rfl
  | ends | stalls => exact (RoutineChange.refl w).aim _

lemma KeepsShare.routineChange {own : Handle} (hk : w.KeepsShare own w') (h : w.Steady)
    (ha : w.party.awaits = some own.ticket) : RoutineChange w w' := by
  have hticket : ∀ own', w.party.share? = some own' → own.ticket = own'.ticket := by
    intro own' ho
    rw [Party.awaits, ho] at ha
    exact (Option.some.inj ha).symm
  cases hk with
  | work hp =>
    rw [hp] at hticket
    exact routineChange_setWork hp ⟨rfl, rfl, rfl, by rintro ⟨⟩⟩
      (fun own₁ ho => .inr ⟨own, rfl, hticket own₁ ho⟩) fun _ ht => h.not_done ht
  | emission hp hpr =>
    rw [hp] at hticket
    refine routineChange_setEmission (job_party_of_emission hp).2 rfl rfl ?_
      fun own₁ ho => .inr ⟨own, rfl, hticket own₁ ho⟩
    rw [stake?_of_waiting hpr]
    exact stake?_of_progress rfl rfl
  | output hp =>
    rw [hp] at hticket
    have hj := job_of_party_output hp
    refine routineChange_setJob (by rw [hj]; rfl) (fun own₁ ho => ?_) (by rintro k' ⟨⟩)
    rw [hj, Job.shares, Option.mem_toList] at ho
    exact .inr ⟨own, by simp [Job.shares], hticket own₁ ho⟩
  | nothing => exact .refl w

lemma PollsFlight.routineChange {own : Handle} (hpoll : w.PollsFlight own w') (h : w.Steady)
    (ha : w.party.awaits = some own.ticket) : RoutineChange w w' := by
  have hset {f g : Flight} {seat : Nat} (seats : Seats) (hf : w.flights[own.ticket]? = some f)
      (hg : (w.keep { own with seat := some seat }).flights[own.ticket]? = some g)
      (hnone : f.status.result? = none) (st : Status) (driving : List Nat) :
      RoutineChange w { (w.keep { own with seat := some seat }).setFlight own.ticket
        { g with seats, status := st } with driving } := by
    have hk := (w.keepsShare { own with seat := some seat }).routineChange h ha
    obtain ⟨g', hg', hw⟩ := 
      ((w.keepsShare { own with seat := some seat }).keepsDriving ha).flights own.ticket f hf
    cases hg.symm.trans hg'
    refine hk.trans (routineChange_setFlight hg { g with seats, status := st }
      (fun own' ho => .inr ⟨own', ho, rfl⟩) (fun hdone => ?_) driving)
    obtain ⟨g', r, hg', hl, -⟩ := hdone
    cases hg.symm.trans hg'
    have hlanded := hw.landed
    rw [hnone, Status.landed_iff.mp hl] at hlanded
    cases hlanded
  cases hpoll with
  | misses | answers => exact (RoutineChange.refl w).aim _
  | @drives f g seat seats hf hs hsit hg =>
    exact (hset seats hf hg (by rw [hs]; rfl) .driven _).aim _
  | @breaks f g seat seats hf hs hsit hg =>
    exact (hset seats hf hg (by rw [hs]; rfl) g.status _).trans (routineChange_breakDown _ _ _)
  | @waits f g seat seats hf hs hsit hg =>
    have hnone : f.status.result? = none := by
      rcases hs with hs | hs <;> rw [hs] <;> rfl
    exact (hset seats hf hg hnone g.status _).aim _

lemma Stalls.routineChange (hst : w.Stalls w') (h : w.Steady) : RoutineChange w w' := by
  cases hst with
  | @flight ticket outer f hd hf =>
    refine RoutineChange.aim (routineChange_setFlight hf { f with status := .idle }
      (fun own ho => .inr ⟨own, ho, rfl⟩) (fun hdone => ?_) outer) _
    exact absurd hdone (h.not_done (by rw [ticket?, hd]; rfl))
  | @misses ticket outer hd hf =>
    obtain ⟨f, hf', -⟩ := h.driven ticket (by rw [hd]; exact List.mem_cons_self)
    cases hf.symm.trans hf'
  | branch => exact (RoutineChange.refl w).aim _
  | task _ _ hp => exact hp.routineChange

end World

end Dataflow
