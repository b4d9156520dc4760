import Dataflow.Proofs.Returns

/-!
# What is held

Emissions hold passes for the gates of their slots, and jobs and works hold shares in flights. A flight
is awaited when an unfinished task waits for it, at first hand or through other flights. Most of what a
world does leaves gates and passes as they are, lets go of no flight that has yet to land, and brings
nothing to its end.
-/

namespace Dataflow

/-- A pass that an emission holds, and whether its subscribers were selected. -/
structure Stake where
  host : String
  slot : Slot
  pass : Pass
  delivering : Bool

def Emission.stake? (e : Emission) : Option Stake :=
  e.progress.pass?.map fun pass => ⟨e.host, e.slot, pass, !e.progress.phase.isOpen⟩

def Job.stake? (j : Job) (i : Nat) : Option Stake := (j.emission? i).bind Emission.stake?

/-- A flight has taken off or landed, a node is asked for an output, an emission has let go of its gate,
or a task has ended. -/
def Event.isMilestone : Event → Bool
  | .takenOff _ _ _ | .begun _ _ _ | .landed _ _ _ _ _ | .left _ _ _ | .ended _ _ _ => true
  | _ => false

/-- The same work at a later stage. -/
structure Work.Continues (k k' : Work) : Prop where
  host : k'.host = k.host
  slot : k'.slot = k.slot
  target : k'.target = k.target
  fresh : k'.stage = .fresh → k.stage = .fresh

namespace Work.Continues

variable {k k' k'' : Work}

lemma refl (k : Work) : k.Continues k := ⟨rfl, rfl, rfl, fun h => h⟩

lemma trans (h : k.Continues k') (h' : k'.Continues k'') : k.Continues k'' :=
  ⟨h'.host.trans h.host, h'.slot.trans h.slot, h'.target.trans h.target,
    fun hf => h.fresh (h'.fresh hf)⟩

lemma away (k : Work) : k.Continues { k with stage := .away } := ⟨rfl, rfl, rfl, by rintro ⟨⟩⟩

end Work.Continues

lemma Emission.stake?_of_fresh {e : Emission} (h : e.progress.phase = .fresh) :
    e.stake? = none := by
  unfold stake?
  cases hp : e.progress with
  | fresh => rfl
  | _ =>
    rw [hp] at h
    cases h

lemma Job.stake?_bare (j : Job) : j.bare.stake? = j.stake? := by
  funext i
  unfold stake?
  rw [emission?_bare]

/-- Only what the current emission holds can change with it. -/
lemma Job.stake?_setParty {j : Job} {e₀ e : Emission} (hp : j.party = .emission e₀)
    (hh : e.host = e₀.host) (hs : e.slot = e₀.slot) :
    (j.setParty (.emission e)).stake? = fun i => if i = j.cursor then e.stake? else j.stake? i := by
  funext i
  unfold stake?
  rw [emission?_setParty (p := .emission e) (by rw [hp]; exact ⟨hh, hs⟩)]
  by_cases hi : i = j.cursor
  · simp [hi]
  · simp [hi]

/-- The shares of a job are those of its party, and others that stay whatever the party does. -/
lemma Job.shares_setParty {j : Job} {p : Party} (h : p.Succeeds j.party) {own : Handle}
    (ho : own ∈ j.shares) : j.party.share? = some own ∨ own ∈ (j.setParty p).shares := by
  rcases mem_shares.mp ho with ⟨host, s, rfl⟩ | ⟨k, rfl, hk⟩ | ⟨i, e, hi, he⟩
  · exact .inl rfl
  · exact .inl hk
  · cases p with
    | emission e' =>
      by_cases hc : i = j.cursor
      · subst hc
        rw [party_of_emission? hi]
        exact .inl he
      · refine .inr (mem_shares.mpr (.inr (.inr ⟨i, e, ?_, he⟩)))
        rw [emission?_setParty h]
        simp only [if_neg hc]
        exact hi
    | _ =>
      refine .inr (mem_shares.mpr (.inr (.inr ⟨i, e, ?_, he⟩)))
      rw [emission?_setParty h]
      exact hi

lemma Job.share_setParty {j : Job} {p : Party} (h : p.Succeeds j.party) {own : Handle}
    (ho : p.share? = some own) : own ∈ (j.setParty p).shares := by
  have hp := party_setParty h
  cases p with
  | work k => exact mem_shares.mpr (.inr (.inl ⟨k, rfl, ho⟩))
  | output host s o =>
    have ho' : o = some own := ho
    subst ho'
    exact mem_shares.mpr (.inl ⟨host, s, rfl⟩)
  | emission e => exact mem_shares.mpr (.inr (.inr ⟨_, e, emission?_of_party hp, ho⟩))
  | nobody => cases ho

namespace World

variable {w w' w'' : World}

/-- The pass that branch `i` of a task holds. -/
def stake? (w : World) (t i : Nat) : Option Stake := (w.tasks[t]?).bind fun task => task.job.stake? i

/-- The flight has landed and waits for nothing. -/
def Done (w : World) (ticket : Nat) : Prop :=
  ∃ f r, w.flights[ticket]? = some f ∧ f.status = .landed r ∧ f.work.share? = none

/-- An unfinished task waits for the flight, or a flight does that is awaited itself. -/
inductive Awaited (w : World) : Nat → Prop where
  | task {t : Nat} {task : Task} {own : Handle} : w.tasks[t]? = some task → task.ended = none →
      own ∈ task.job.shares → Awaited w own.ticket
  | flight {ticket : Nat} {f : Flight} {own : Handle} : Awaited w ticket →
      w.flights[ticket]? = some f → f.work.share? = some own → Awaited w own.ticket

lemma Awaited.holds {ticket : Nat} (h : w.Awaited ticket) : w.Holds ticket := by
  cases h with
  | task ht _ ho => exact .inr (.inl ⟨_, List.mem_of_getElem? ht, _, ho, rfl⟩)
  | flight _ hf ho => exact .inr (.inr ⟨_, List.mem_of_getElem? hf, _, ho, rfl⟩)

/-- Nobody lets go of a flight that has yet to land. -/
structure KeepsAwaited (w w' : World) : Prop where
  awaited : ∀ ticket, w.Awaited ticket → w'.Awaited ticket ∨ w'.Done ticket
  done : ∀ ticket, w.Done ticket → w'.Done ticket

lemma KeepsAwaited.refl (w : World) : KeepsAwaited w w := ⟨fun _ => .inl, fun _ h => h⟩

lemma KeepsAwaited.trans (h : KeepsAwaited w w') (h' : KeepsAwaited w' w'') : KeepsAwaited w w'' where
  awaited := fun ticket ha => (h.awaited ticket ha).elim (h'.awaited ticket) fun hd =>
    .inr (h'.done ticket hd)
  done := fun ticket hd => h'.done ticket (h.done ticket hd)

/-- It is enough to look at one share at a time. A flight may drop its share when it is lost. -/
lemma keepsAwaited_of
    (htasks : ∀ (t : Nat) task own, w.tasks[t]? = some task → task.ended = none →
      own ∈ task.job.shares → w'.Done own.ticket ∨ ∃ (task' : Task) (own' : Handle),
        w'.tasks[t]? = some task' ∧ task'.ended = none ∧ own' ∈ task'.job.shares ∧
          own'.ticket = own.ticket)
    (hflights : ∀ (i : Nat) f own, w.flights[i]? = some f → f.work.share? = some own →
      w'.Done own.ticket ∨ (∃ (f' : Flight) (own' : Handle), w'.flights[i]? = some f' ∧
        f'.work.share? = some own' ∧ own'.ticket = own.ticket) ∨
      ∃ f', w'.flights[i]? = some f' ∧ f'.status = .lost ∧ ¬w'.Holds i)
    (hdone : ∀ ticket, w.Done ticket → w'.Done ticket) : KeepsAwaited w w' := by
  refine ⟨fun ticket ha => ?_, hdone⟩
  induction ha with
  | task ht he ho =>
    rcases htasks _ _ _ ht he ho with hd | ⟨task', own', ht', he', ho', heq⟩
    · exact .inr hd
    · rw [← heq]
      exact .inl (.task ht' he' ho')
  | @flight i f own _ hf ho ih =>
    rcases hflights i f own hf ho with hd | ⟨f', own', hf', ho', heq⟩ | ⟨f', hf', hlost, hn⟩
    · exact .inr hd
    · rcases ih with ha | ⟨g, r, hg, -, hnone⟩
      · rw [← heq]
        exact .inl (.flight ha hf' ho')
      · rw [hf'] at hg
        cases hg
        rw [ho'] at hnone
        cases hnone
    · rcases ih with ha | ⟨g, r, hg, hl, -⟩
      · exact absurd ha.holds hn
      · rw [hf'] at hg
        cases hg
        rw [hlost] at hl
        cases hl

/-- Gates and passes stay as they are, and nobody lets go of a flight that has yet to land. -/
structure KeepsStakes (w w' : World) : Prop where
  gates : ∀ host, (w.engine host).KeepsGates (w'.engine host)
  stakes : ∀ t i, w'.stake? t i = w.stake? t i
  keepsAwaited : KeepsAwaited w w'

/-- Nothing begins or comes to its end, and tasks at work go on with that work. -/
structure Uneventful (w w' : World) : Prop where
  journal : ∃ new, w'.journal = new ++ w.journal ∧ ∀ e ∈ new, e.isMilestone = false
  works : ∀ (t : Nat) task' k', w'.tasks[t]? = some task' → task'.job = .work k' →
    ∃ task k, w.tasks[t]? = some task ∧ task.job = .work k ∧ k.Continues k'

structure RoutineChange (w w' : World) : Prop extends KeepsStakes w w', Uneventful w w'

lemma KeepsStakes.trans (h : KeepsStakes w w') (h' : KeepsStakes w' w'') : KeepsStakes w w'' where
  gates := fun host => ⟨(h'.gates host).1.trans (h.gates host).1,
    (h'.gates host).2.trans (h.gates host).2⟩
  stakes := fun t i => (h'.stakes t i).trans (h.stakes t i)
  keepsAwaited := h.keepsAwaited.trans h'.keepsAwaited

lemma Uneventful.trans (h : Uneventful w w') (h' : Uneventful w' w'') : Uneventful w w'' where
  journal := by
    obtain ⟨new, hj, hn⟩ := h.journal
    obtain ⟨new', hj', hn'⟩ := h'.journal
    refine ⟨new' ++ new, by rw [hj', hj, List.append_assoc], fun e he => ?_⟩
    rcases List.mem_append.mp he with he | he
    · exact hn' e he
    · exact hn e he
  works := fun t task'' k'' ht hk => by
    obtain ⟨task', k', ht', hk', hc'⟩ := h'.works t task'' k'' ht hk
    obtain ⟨task, k, ht, hk, hc⟩ := h.works t task' k' ht' hk'
    exact ⟨task, k, ht, hk, hc.trans hc'⟩

lemma RoutineChange.trans (h : RoutineChange w w') (h' : RoutineChange w' w'') : RoutineChange w w'' :=
  ⟨h.toKeepsStakes.trans h'.toKeepsStakes, h.toUneventful.trans h'.toUneventful⟩

lemma keepsAwaited_of_eq (ht : w'.tasks = w.tasks) (hf : w'.flights = w.flights) : KeepsAwaited w w' := by
  refine keepsAwaited_of (fun t task own hm hn ho => ?_) (fun i f own hm ho => ?_) fun ticket hd => ?_
  · exact .inr ⟨task, own, by rw [ht]; exact hm, hn, ho, rfl⟩
  · exact .inr (.inl ⟨f, own, by rw [hf]; exact hm, ho, rfl⟩)
  · obtain ⟨f, r, hm, hl, hs⟩ := hd
    exact ⟨f, r, by rw [hf]; exact hm, hl, hs⟩

lemma keepsStakes_of_eq (he : ∀ host, (w.engine host).KeepsGates (w'.engine host))
    (ht : w'.tasks = w.tasks) (hf : w'.flights = w.flights) : KeepsStakes w w' :=
  ⟨he, fun t i => by rw [stake?, ht]; rfl, keepsAwaited_of_eq ht hf⟩

lemma KeepsStakes.log (h : KeepsStakes w w') (e : Event) : KeepsStakes w (w'.log e) :=
  h.trans (keepsStakes_of_eq (fun _ => ⟨rfl, rfl⟩) rfl rfl)

lemma Uneventful.suffix (h : Uneventful w w') : w.journal <:+ w'.journal := by
  obtain ⟨new, hj, -⟩ := h.journal
  exact ⟨new, hj.symm⟩

lemma uneventful_of_eq (ht : w'.tasks = w.tasks) (hj : w'.journal = w.journal) : Uneventful w w' where
  journal := ⟨[], hj, by simp⟩
  works := fun t task' k' hm hk => by
    rw [ht] at hm
    exact ⟨task', k', hm, hk, .refl k'⟩

lemma Uneventful.refl (w : World) : Uneventful w w := uneventful_of_eq rfl rfl

lemma Uneventful.same (h : Uneventful w w') (ht : w''.tasks = w'.tasks) (hj : w''.journal = w'.journal) :
    Uneventful w w'' :=
  h.trans (uneventful_of_eq ht hj)

lemma Uneventful.aim (h : Uneventful w w') (f : Focus) : Uneventful w (w'.aim f) := h.same rfl rfl

lemma Uneventful.setEngine (h : Uneventful w w') (host : String) (e : Engine) :
    Uneventful w (w'.setEngine host e) :=
  h.same rfl rfl

lemma Uneventful.log (h : Uneventful w w') {e : Event} (he : e.isMilestone = false) :
    Uneventful w (w'.log e) :=
  h.trans ⟨⟨[e], rfl, by simpa using he⟩, (Uneventful.refl w').works⟩

lemma routineChange_of_eq (he : ∀ host, (w.engine host).KeepsGates (w'.engine host))
    (ht : w'.tasks = w.tasks) (hf : w'.flights = w.flights) (hj : w'.journal = w.journal) :
    RoutineChange w w' :=
  ⟨keepsStakes_of_eq he ht hf, uneventful_of_eq ht hj⟩

lemma RoutineChange.refl (w : World) : RoutineChange w w :=
  routineChange_of_eq (fun _ => ⟨rfl, rfl⟩) rfl rfl rfl

/-- What else may change. -/
lemma RoutineChange.same (h : RoutineChange w w') (hp : w''.pipelines = w'.pipelines)
    (ht : w''.tasks = w'.tasks)
    (hf : w''.flights = w'.flights) (hj : w''.journal = w'.journal) : RoutineChange w w'' := by
  refine h.trans (routineChange_of_eq (fun host => ?_) ht hf hj)
  unfold engine pipeline
  rw [hp]
  exact ⟨rfl, rfl⟩

lemma RoutineChange.aim (h : RoutineChange w w') (f : Focus) : RoutineChange w (w'.aim f) :=
  h.same rfl rfl rfl rfl

lemma RoutineChange.log (h : RoutineChange w w') {e : Event} (he : e.isMilestone = false) :
    RoutineChange w (w'.log e) :=
  h.trans ⟨keepsStakes_of_eq (fun _ => ⟨rfl, rfl⟩) rfl rfl, (Uneventful.refl w').log he⟩

lemma RoutineChange.setEngine (h : RoutineChange w w') {host : String} {e : Engine}
    (he : (w'.engine host).KeepsGates e) : RoutineChange w (w'.setEngine host e) :=
  h.trans (routineChange_of_eq (keepsGates_setEngine he) rfl rfl rfl)

lemma routineChange_breakDown (w : World) (source : PanicSource) (text : String) :
    RoutineChange w (w.breakDown source text) :=
  ((RoutineChange.refl w).log rfl).aim _

lemma Done.fades (hk : Fading w w') {ticket : Nat} (h : w.Done ticket) : w'.Done ticket := by
  obtain ⟨f, r, hf, hl, hs⟩ := h
  have hlt : ticket < w'.flights.length := by
    rw [hk.length]
    exact (List.getElem?_eq_some_iff.mp hf).1
  have hf' := List.getElem?_eq_getElem hlt
  rcases hk.flights ticket f _ hf hf' with ⟨seats, heq⟩ | ⟨hidle, -⟩
  · exact ⟨_, r, hf', by rw [heq]; exact hl, by rw [heq]; exact hs⟩
  · rw [hidle] at hl
    cases hl

lemma keepsAwaited_fades (hk : FadingUnheld w w') : KeepsAwaited w w' := by
  refine keepsAwaited_of (fun t task own ht he ho => ?_) (fun i f own hf ho => ?_)
    fun ticket hd => hd.fades hk.toFading
  · have hb : (w'.tasks.map Task.bare)[t]? = some task.bare := by
      rw [hk.tasks, List.getElem?_map, ht]
      rfl
    rw [List.getElem?_map, Option.map_eq_some_iff] at hb
    obtain ⟨task', ht', hb⟩ := hb
    obtain ⟨-, hjob, -, hended, -⟩ := Task.eq_of_bare hb
    refine .inr ⟨task', own, ht', hended.trans he, ?_, rfl⟩
    rw [← Job.shares_bare, hjob, Job.shares_bare]
    exact ho
  · have hlt : i < w'.flights.length := by
      rw [hk.length]
      exact (List.getElem?_eq_some_iff.mp hf).1
    have hf' := List.getElem?_eq_getElem hlt
    rcases hk.flights i f _ hf hf' with ⟨seats, heq⟩ | ⟨hidle, seats, heq⟩
    · exact .inr (.inl ⟨_, own, hf', by rw [heq]; exact ho, rfl⟩)
    · have hlost : (w'.flights[i]).status = .lost := by rw [heq]
      rcases hk.lost i f _ hf hf' hlost with hl | hn
      · rw [hidle] at hl
        cases hl
      · exact .inr (.inr ⟨_, hf', hlost, hn⟩)

lemma routineChange_fades (hk : FadingUnheld w w') : RoutineChange w w' where
  gates := fun host => by
    rw [hk.engine]
    exact ⟨rfl, rfl⟩
  stakes := fun t i => by
    have hs : ∀ v : World, v.stake? t i = (v.emission? t i).bind Emission.stake? := by
      intro v
      unfold stake? emission? Job.stake?
      cases v.tasks[t]? <;> rfl
    rw [hs, hs, emission?_fades hk.toFading]
  keepsAwaited := keepsAwaited_fades hk
  journal := ⟨[], hk.journal, by simp⟩
  works := fun t task' k' ht hj => by
    obtain ⟨task, hm, hb⟩ := hk.toFading.task ht
    obtain ⟨-, hjob, -⟩ := Task.eq_of_bare hb
    rw [hj] at hjob
    have hw : task.job = .work k' := by
      cases hj' : task.job with
      | fan f =>
        rw [hj'] at hjob
        cases hjob
      | _ =>
        rw [hj'] at hjob
        exact hjob
    exact ⟨task, k', hm, hw, .refl k'⟩

lemma RoutineChange.fades (h : RoutineChange w w') (hk : FadingUnheld w' w'') :
    RoutineChange w w'' := h.trans (routineChange_fades hk)

lemma Uneventful.fades (h : Uneventful w w') (hk : FadingUnheld w' w'') : Uneventful w w'' :=
  h.trans (routineChange_fades hk).toUneventful

/-- A task goes on with another job, and lets go of nothing. -/
lemma keepsAwaited_setTask {t : Nat} {task task' : Task} (ht : w.tasks[t]? = some task)
    (he : task.ended = none → task'.ended = none)
    (hs : ∀ own ∈ task.job.shares, w.Done own.ticket ∨
      ∃ own' ∈ task'.job.shares, own'.ticket = own.ticket) :
    KeepsAwaited w { w with tasks := w.tasks.set t task' } := by
  refine keepsAwaited_of (fun i task₁ own hm hn ho => ?_)
    (fun i f own hm ho => .inr (.inl ⟨f, own, hm, ho, rfl⟩)) fun ticket hd => hd
  by_cases hi : t = i
  · subst hi
    rw [ht] at hm
    cases hm
    rcases hs own ho with hd | ⟨own', ho', heq⟩
    · exact .inl hd
    · exact .inr ⟨task', own', List.getElem?_set_self (List.getElem?_eq_some_iff.mp ht).1, he hn,
        ho', heq⟩
  · exact .inr ⟨task₁, own, (List.getElem?_set_ne hi).trans hm, hn, ho, rfl⟩

lemma stake?_setTask {t : Nat} {task task' : Task} (ht : w.tasks[t]? = some task) (u i : Nat) :
    World.stake? { w with tasks := w.tasks.set t task' } u i =
      if t = u then task'.job.stake? i else w.stake? u i := by
  unfold stake?
  dsimp only
  by_cases hu : t = u
  · subst hu
    rw [if_pos rfl, List.getElem?_set_self (List.getElem?_eq_some_iff.mp ht).1]
    rfl
  · rw [if_neg hu, List.getElem?_set_ne hu]

lemma uneventful_setTask {t : Nat} {task task' : Task} (ht : w.tasks[t]? = some task)
    (hw : ∀ k', task'.job = .work k' → ∃ k, task.job = .work k ∧ k.Continues k') :
    Uneventful w { w with tasks := w.tasks.set t task' } where
  journal := ⟨[], rfl, by simp⟩
  works := fun u task₁ k' hm hk => by
    rcases getElem?_set_cases hm with ⟨rfl, rfl⟩ | ⟨-, hm⟩
    · obtain ⟨k, hk, hrest⟩ := hw k' hk
      exact ⟨task, k, ht, hk, hrest⟩
    · exact ⟨task₁, k', hm, hk, .refl k'⟩

/-- The running task goes on with a job that is not a work, or the same. -/
lemma uneventful_setJob {j : Job}
    (hw : ∀ k', j = .work k' → ∃ k, w.job = .work k ∧ k.Continues k') :
    Uneventful w (w.setJob j) := by
  rcases setJob_cases w j with ⟨t, task, hr, ht, heq⟩ | heq
  · rw [job_of_running hr ht] at hw
    rw [heq]
    exact uneventful_setTask ht hw
  · rw [heq]
    exact .refl w

lemma uneventful_setEmission (w : World) (e : Emission) : Uneventful w (w.setEmission e) := by
  rcases setEmission_cases w e with ⟨f, -, heq⟩ | ⟨-, heq⟩ <;>
    exact heq ▸ uneventful_setJob (by rintro k' ⟨⟩)

lemma routineChange_setTask {t : Nat} {task task' : Task} (ht : w.tasks[t]? = some task)
    (he : task.ended = none → task'.ended = none) (hstake : task'.job.stake? = task.job.stake?)
    (hs : ∀ own ∈ task.job.shares, w.Done own.ticket ∨
      ∃ own' ∈ task'.job.shares, own'.ticket = own.ticket)
    (hw : ∀ k', task'.job = .work k' → ∃ k, task.job = .work k ∧ k.Continues k') :
    RoutineChange w { w with tasks := w.tasks.set t task' } where
  gates := fun _ => ⟨rfl, rfl⟩
  stakes := fun u i => by
    rw [stake?_setTask ht]
    by_cases hu : t = u
    · subst hu
      rw [if_pos rfl, hstake, World.stake?, ht]
      rfl
    · rw [if_neg hu]
  keepsAwaited := keepsAwaited_setTask ht he hs
  toUneventful := uneventful_setTask ht hw

/-- The running task goes on with another job. -/
lemma routineChange_setJob {j : Job} (hstake : j.stake? = w.job.stake?)
    (hs : ∀ own ∈ w.job.shares, w.Done own.ticket ∨ ∃ own' ∈ j.shares, own'.ticket = own.ticket)
    (hw : ∀ k', j = .work k' → ∃ k, w.job = .work k ∧ k.Continues k') :
    RoutineChange w (w.setJob j) := by
  rcases setJob_cases w j with ⟨t, task, hr, ht, heq⟩ | heq
  · rw [job_of_running hr ht] at hstake hs hw
    rw [heq]
    exact routineChange_setTask ht (fun h => h) hstake hs hw
  · rw [heq]
    exact .refl w

lemma routineChange_modifyTask (w : World) (t : Nat) {g : Task → Task}
    (hg : ∀ task : Task, (g task).job = task.job ∧ (g task).ended = task.ended) :
    RoutineChange w (w.modifyTask t g) := by
  rcases w.modifyTask_cases t g with ⟨task, ht, heq⟩ | heq <;> rw [heq]
  · obtain ⟨hjob, hended⟩ := hg task
    refine routineChange_setTask ht (fun h => hended.trans h) (by rw [hjob])
      (fun own ho => ?_) fun k' hk => ?_
    · exact .inr ⟨own, by rw [hjob]; exact ho, rfl⟩
    · exact ⟨k', hjob.symm.trans hk, .refl k'⟩
  · exact .refl w

/-- A new task has nothing yet. -/
lemma routineChange_spawn (w : World) {task : Task}
    (hf : ∀ i e, task.job.emission? i = some e → e.progress.phase = .fresh)
    (hw : ∀ k, task.job ≠ .work k) : RoutineChange w (w.spawn task).1 where
  gates := fun _ => ⟨rfl, rfl⟩
  stakes := fun t i => by
    show ((w.tasks ++ [task])[t]?).bind (fun task => task.job.stake? i) = w.stake? t i
    cases ht : w.tasks[t]? with
    | some task' =>
      rw [List.getElem?_append_left (List.getElem?_eq_some_iff.mp ht).1]
      rfl
    | none =>
      rw [World.stake?, ht]
      cases hm : (w.tasks ++ [task])[t]? with
      | none => rfl
      | some task' =>
        rcases getElem?_concat_cases hm with hm | ⟨-, rfl⟩
        · rw [ht] at hm
          cases hm
        · show (task'.job.emission? i).bind Emission.stake? = none
          cases he : task'.job.emission? i with
          | none => rfl
          | some e => exact Emission.stake?_of_fresh (hf i e he)
  keepsAwaited := by
    refine keepsAwaited_of (fun t task' own ht he ho => .inr ⟨task', own, ?_, he, ho, rfl⟩)
      (fun i f own hm ho => .inr (.inl ⟨f, own, hm, ho, rfl⟩)) fun ticket hd => hd
    exact (List.getElem?_append_left (List.getElem?_eq_some_iff.mp ht).1).trans ht
  journal := ⟨[.started w.tasks.length task], rfl, by simp [Event.isMilestone]⟩
  works := fun t task' k' ht hk => by
    rcases getElem?_concat_cases ht with ht | ⟨-, rfl⟩
    · exact ⟨task', k', ht, hk, .refl k'⟩
    · exact absurd hk (hw k')

/-- A flight that takes off is one more. -/
lemma routineChange_takeOff (w : World) (host : String) (s : Slot) (flight : Flight) :
    RoutineChange w ({ w with flights := w.flights ++ [flight] }.setEngine host
      ((w.engine host).takeOff s w.flights.length)) := by
  have hold : ∀ (i : Nat) f, w.flights[i]? = some f → (w.flights ++ [flight])[i]? = some f :=
    fun i f hf => (List.getElem?_append_left (List.getElem?_eq_some_iff.mp hf).1).trans hf
  have hnew : RoutineChange w { w with flights := w.flights ++ [flight] } := by
    refine ⟨⟨fun _ => ⟨rfl, rfl⟩, fun _ _ => rfl, keepsAwaited_of
      (fun t task own ht he ho => .inr ⟨task, own, ht, he, ho, rfl⟩)
      (fun i f own hf ho => .inr (.inl ⟨f, own, hold i f hf, ho, rfl⟩)) fun ticket hd => ?_⟩,
      uneventful_of_eq rfl rfl⟩
    obtain ⟨f, r, hf, hl, hn⟩ := hd
    exact ⟨f, r, hold ticket f hf, hl, hn⟩
  have hoff : (w.engine host).KeepsGates ((w.engine host).takeOff s w.flights.length) := ⟨rfl, rfl⟩
  exact hnew.setEngine hoff

/-- What is begun with a flight that is polled next, which may have taken off just now. -/
inductive Embarks (w w' : World) : Prop where
  | routineChange : RoutineChange w w' → Embarks w w'
  | takesOff {v : World} {host : String} {s : Slot} {own : Handle} : RoutineChange w v →
      RoutineChange (v.log (.takenOff host s own.ticket)) w' → w'.focus = .poll own → Embarks w w'

lemma RoutineChange.join {v : World} (h : RoutineChange w v) (host : String) (s : Slot)
    (ha : RoutineChange (v.join host s).1 w') (hf : w'.focus = .poll (v.join host s).2) : Embarks w w' := by
  rcases join_cases v host s with ⟨ticket, -, heq⟩ | ⟨-, heq⟩
  · rw [heq] at ha
    exact .routineChange (h.trans ha)
  · rw [heq] at ha hf
    exact .takesOff (h.trans (routineChange_takeOff v host s _)) ha hf

lemma Embarks.keepsStakes (h : Embarks w w') : KeepsStakes w w' := by
  cases h with
  | routineChange h => exact h.toKeepsStakes
  | takesOff h h' _ => exact (h.toKeepsStakes.log _).trans h'.toKeepsStakes

lemma job_party_of_emission {e : Emission} (hp : w.party = .emission e) :
    w.driving = [] ∧ w.job.party = .emission e := by
  rw [party_eq] at hp
  cases hd : w.driving with
  | nil =>
    rw [hd] at hp
    exact ⟨rfl, hp⟩
  | cons ticket outer =>
    rw [hd] at hp
    unfold partyAt at hp
    dsimp only at hp
    cases hf : w.flights[ticket]? <;> rw [hf] at hp <;> cases hp

lemma setEmission_eq (w : World) (e : Emission) :
    w.setEmission e = w.setJob (w.job.setParty (.emission e)) := by
  unfold setEmission Job.setParty
  cases hj : w.job with
  | fan f => rfl
  | _ => rfl

/-- An emission goes on with the pass that it has. -/
lemma routineChange_setEmission {e e' : Emission} (hp : w.job.party = .emission e)
    (hh : e'.host = e.host) (hs : e'.slot = e.slot) (hstake : e'.stake? = e.stake?)
    (hshare : ∀ own, e.share? = some own → w.Done own.ticket ∨
      ∃ own', e'.share? = some own' ∧ own'.ticket = own.ticket) : RoutineChange w (w.setEmission e') := by
  have hsucceeds : (Party.emission e').Succeeds w.job.party := by
    rw [hp]
    exact ⟨hh, hs⟩
  rw [setEmission_eq]
  refine routineChange_setJob ?_ (fun own ho => ?_) fun k' hk => ?_
  · rw [Job.stake?_setParty hp hh hs]
    funext i
    by_cases hi : i = w.job.cursor
    · subst hi
      rw [if_pos rfl, hstake, Job.stake?, Job.emission?_of_party hp]
      rfl
    · rw [if_neg hi]
  · rcases Job.shares_setParty hsucceeds ho with ho | ho
    · rw [hp] at ho
      rcases hshare own ho with hd | ⟨own', ho', heq⟩
      · exact .inl hd
      · exact .inr ⟨own', Job.share_setParty hsucceeds ho', heq⟩
    · exact .inr ⟨own, ho, rfl⟩
  · have hnone : (w.job.setParty (.emission e')).party = .emission e' := Job.party_setParty hsucceeds
    rw [hk] at hnone
    cases hnone

/-- One flight is at another stage. -/
lemma routineChange_setFlight {ticket : Nat} {f : Flight} (hf : w.flights[ticket]? = some f) (f' : Flight)
    (hs : ∀ own, f.work.share? = some own → w.Done own.ticket ∨
      ∃ own', f'.work.share? = some own' ∧ own'.ticket = own.ticket)
    (hd : w.Done ticket → (∃ r, f'.status = .landed r) ∧ f'.work.share? = none)
    (driving : List Nat) : RoutineChange w { w.setFlight ticket f' with driving } := by
  have hdone : ∀ i, w.Done i → World.Done { w.setFlight ticket f' with driving } i := by
    rintro i ⟨g, r, hg, hl, hn⟩
    by_cases hi : ticket = i
    · subst hi
      obtain ⟨⟨r', hr'⟩, hnone⟩ := hd ⟨g, r, hg, hl, hn⟩
      exact ⟨f', r', List.getElem?_set_self (List.getElem?_eq_some_iff.mp hf).1, hr', hnone⟩
    · exact ⟨g, r, (List.getElem?_set_ne hi).trans hg, hl, hn⟩
  refine ⟨⟨fun _ => ⟨rfl, rfl⟩, fun _ _ => rfl, keepsAwaited_of
    (fun t task own ht he ho => .inr ⟨task, own, ht, he, ho, rfl⟩) (fun i g own hg ho => ?_) hdone⟩,
    uneventful_of_eq rfl rfl⟩
  by_cases hi : ticket = i
  · subst hi
    rw [hf] at hg
    cases hg
    rcases hs own ho with hown | ⟨own', ho', heq⟩
    · exact .inl (hdone _ hown)
    · exact .inr (.inl ⟨f', own', List.getElem?_set_self (List.getElem?_eq_some_iff.mp hf).1, ho',
        heq⟩)
  · exact .inr (.inl ⟨g, own, (List.getElem?_set_ne hi).trans hg, ho, rfl⟩)

/-- The innermost work comes to another stage. -/
lemma routineChange_setWork {k k' : Work} (hp : w.party = .work k) (hc : k.Continues k')
    (hs : ∀ own, k.share? = some own → w.Done own.ticket ∨
      ∃ own', k'.share? = some own' ∧ own'.ticket = own.ticket)
    (hd : ∀ ticket, w.ticket? = some ticket → ¬w.Done ticket) : RoutineChange w (w.setWork k') := by
  rw [party_eq] at hp
  rcases setWork_cases w k' with ⟨ticket, outer, f, hdr, hf, heq⟩ | ⟨ticket, outer, -, -, heq⟩ |
    ⟨hdr, heq⟩
  · simp only [hdr, partyAt, hf] at hp
    cases hp
    have hnot : ¬w.Done ticket := hd ticket (by rw [ticket?, hdr]; rfl)
    rw [heq]
    exact routineChange_setFlight hf { f with work := k' } hs (fun h => absurd h hnot) w.driving
  · rw [heq]
    exact .refl w
  · rw [hdr] at hp
    have hj : w.job = .work k := Job.eq_of_party_work hp
    rw [heq]
    refine routineChange_setJob (by rw [hj]; rfl) (fun own ho => ?_) fun k₁ hk => ?_
    · rw [hj, Job.shares, Option.mem_toList] at ho
      rcases hs own ho with hdone | ⟨own', ho', heq⟩
      · exact .inl hdone
      · exact .inr ⟨own', by rw [Job.shares, Option.mem_toList]; exact ho', heq⟩
    · cases hk
      exact ⟨k, hj, hc⟩

end World

end Dataflow
