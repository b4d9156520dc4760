import Dataflow.Proofs.Bystanders
import Dataflow.Proofs.HandingOver
import Dataflow.Proofs.Tallies

/-!
# Tasks that ask for a slot

A task that waits for a flight waits for that flight until it ends, and a task that computes a slot on
its own does so with the node and the schema that it started with, whatever happens to them meanwhile.
-/

namespace Dataflow

/-- The job is to wait for the same flight, or to go on with a computation of the same. -/
inductive Job.Persists : Job → Job → Prop where
  | output {host : String} {slot : Slot} {own own' : Handle} : own'.ticket = own.ticket →
      Persists (.output host slot (some own)) (.output host slot (some own'))
  | work {k k' : Work} : k'.host = k.host → k'.slot = k.slot → k'.target = k.target →
      Persists (.work k) (.work k')

/-- The job is to wait for the result of a slot. -/
def Job.isOutput : Job → Bool
  | .output _ _ _ => true
  | _ => false

lemma Job.Persists.bare {j j' j'' : Job} (h : j.Persists j') (hb : j''.bare = j'.bare) :
    j.Persists j'' := by
  have heq : j'' = j' := by
    cases h <;> cases j'' <;> cases hb <;> rfl
  rw [heq]
  exact h

namespace World

variable {w w' : World} {t : Nat} {j : Job}

/-- The task is not over, and its job is still `j`. -/
def Asks (w : World) (t : Nat) (j : Job) : Prop :=
  ∃ task, w.tasks[t]? = some task ∧ task.ended = none ∧ j.Persists task.job

/-- The task is over. -/
def Over (w : World) (t : Nat) : Prop := ∃ task how, w.tasks[t]? = some task ∧ task.ended = some how

lemma Asks.same (h : w.Asks t j) (ht : w'.tasks = w.tasks) : w'.Asks t j := by
  obtain ⟨task, hm, he, hj⟩ := h
  exact ⟨task, by rw [ht]; exact hm, he, hj⟩

lemma Asks.spares (h : w.Asks t j) (hs : Spares w w') (hr : w.running ≠ some t) : w'.Asks t j := by
  obtain ⟨task, hm, he, hj⟩ := h
  obtain ⟨task', hm', he', hb⟩ := hs.tasks t task hr hm
  exact ⟨task', hm', he'.trans he, hj.bare hb⟩

lemma Asks.fading (h : w.Asks t j) (hf : Fading w w') : w'.Asks t j := by
  obtain ⟨task, hm, he, hj⟩ := h
  have hb : (w'.tasks.map Task.bare)[t]? = some task.bare := by
    rw [hf.tasks, List.getElem?_map, hm]
    rfl
  rw [List.getElem?_map, Option.map_eq_some_iff] at hb
  obtain ⟨task', hm', hb⟩ := hb
  have hended : task'.bare.ended = task.bare.ended := congrArg Task.ended hb
  have hjob : task'.bare.job = task.bare.job := congrArg Task.job hb
  exact ⟨task', hm', hended.trans he, hj.bare hjob⟩

/-- The job of the running task is what it asks for. -/
lemma Asks.job (h : w.Asks t j) (hr : w.running = some t) : j.Persists w.job := by
  obtain ⟨task, hm, -, hj⟩ := h
  rw [job_of_running hr hm]
  exact hj

lemma Asks.setJob (h : w.Asks t j) {j' : Job} (hj : w.running = some t → j.Persists j') :
    (w.setJob j').Asks t j := by
  by_cases hr : w.running = some t
  · obtain ⟨task, hm, he, -⟩ := h
    rw [setJob_of_running hr hm]
    exact ⟨{ task with job := j' }, List.getElem?_set_self (List.getElem?_eq_some_iff.mp hm).1, he,
      hj hr⟩
  · exact h.spares (spares_setJob w j') hr

/-- The innermost work may go on, whoever does it. -/
lemma Asks.setWork (h : w.Asks t j) {k k' : Work} (hp : w.party = .work k) (hhost : k'.host = k.host)
    (hslot : k'.slot = k.slot) (htarget : k'.target = k.target) : (w.setWork k').Asks t j := by
  rcases setWork_cases w k' with ⟨ticket, outer, f, -, -, heq⟩ | ⟨ticket, outer, -, -, heq⟩ | ⟨hd, heq⟩
  · rw [heq]
    exact h.same rfl
  · rw [heq]
    exact h
  · rw [heq]
    refine h.setJob fun hr => ?_
    have hj := h.job hr
    rw [party_eq, hd] at hp
    rw [Job.eq_of_party_work hp] at hj
    cases hj with
    | work hhost' hslot' htarget' =>
      exact .work (hhost.trans hhost') (hslot.trans hslot') (htarget.trans htarget')

/-- Whoever runs and asks for a slot emits nothing. -/
lemma Asks.party (h : w.Asks t j) (hr : w.running = some t) (e : Emission) :
    w.party ≠ .emission e := by
  have hj := h.job hr
  intro hp
  obtain ⟨-, hp'⟩ := job_party_of_emission hp
  generalize w.job = j' at hj hp'
  cases hj <;> cases hp'

section

variable (h : w.Asks t j) (hn : ∀ e, w.party ≠ .emission e)
include h

include hn in
lemma KeepsShare.keepsAsking {own : Handle} (hk : w.KeepsShare own w')
    (ha : w.party.awaits = some own.ticket) : w'.Asks t j := by
  cases hk with
  | work hp => exact h.setWork hp rfl rfl rfl
  | emission hp => exact absurd hp (hn _)
  | output hp =>
    refine h.setJob fun hr => ?_
    have hj := h.job hr
    rw [job_of_party_output hp] at hj
    rw [hp] at ha
    cases hj with
    | output ht => exact .output ((Option.some.inj ha).symm.trans ht)
  | nothing => exact h

include hn in
lemma PollsFlight.keepsAsking {own : Handle} (hpoll : w.PollsFlight own w')
    (ha : w.party.awaits = some own.ticket) : w'.Asks t j := by
  have hkeep (seat : Option Nat) : (w.keep { own with seat }).Asks t j :=
    (w.keepsShare { own with seat }).keepsAsking h hn ha
  cases hpoll with
  | misses | answers => exact h.same rfl
  | @drives f g seat => exact (hkeep (some seat)).same rfl
  | @breaks f g seat => exact (hkeep (some seat)).same rfl
  | @waits f g seat => exact (hkeep (some seat)).same rfl

lemma ResumesWork.keepsAsking (hr : w.ResumesWork w') : w'.Asks t j := by
  have haway (k : Work) (hp : w.party = .work k) :
      (w.setWork { k with stage := .away }).Asks t j := h.setWork hp rfl rfl rfl
  cases hr with
  | begins hp | misses hp | opened hp => exact (haway _ hp).same rfl
  | waits | polls | stalls => exact h.same rfl

lemma Asks.join (host : String) (s : Slot) : (w.join host s).1.Asks t j := by
  rcases join_cases w host s with ⟨ticket, -, heq⟩ | ⟨-, heq⟩ <;> rw [heq]
  · exact h
  · exact h.same rfl

lemma MakesRecipe.keepsAsking {r : Recipe} (hm : w.MakesRecipe r w') (hs : w.Steady) : w'.Asks t j := by
  cases hm with
  | @holds k what rest hp =>
    have hnew : ({ w with valves := w.valves ++ [({} : Valve)] }.log
        (.producing what (some w.valves.length))).Asks t j := h.same rfl
    have hheld : (({ w with valves := w.valves ++ [({} : Valve)] }.log
        (.producing what (some w.valves.length))).setWork
          { k with stage := .held w.valves.length rest }).Asks t j := hnew.setWork hp rfl rfl rfl
    exact hheld.same rfl
  | @asks k host slot rest hp hc =>
    have hset : ((w.join host slot).1.setWork
        { k with stage := .asking (w.join host slot).2 rest }).Asks t j :=
      (h.join host slot).setWork ((World.joins hs hc).party.trans hp) rfl rfl rfl
    exact hset.same rfl
  | finishes | misfits | crashes | peeks | announces | finds | stalls => exact h.same rfl

lemma FinishesWork.keepsAsking {c : Content} (hf : w.FinishesWork c w') : w'.Asks t j := by
  cases hf with
  | ends | misses => exact h.same rfl
  | @lands ticket outer f =>
    have hland : ({ w with nextResult := w.nextResult + 1 }.land ticket f
        ⟨w.nextResult, c⟩).Asks t j := by
      unfold World.land
      refine Asks.fading ?_ (fadingUnheld_wake _ _).toFading
      exact h.same rfl
    exact hland.same rfl

include hn in
lemma HandsAnswer.keepsAsking {r : Result} (ha : w.HandsAnswer r w') : w'.Asks t j := by
  cases ha with
  | @resumes k own rest hp =>
    have haway : (w.setWork { k with stage := .away }).Asks t j := h.setWork hp rfl rfl rfl
    exact haway.same rfl
  | readies hp => exact absurd hp (hn _)
  | ends | stalls => exact h.same rfl

lemma Pauses.keepsAsking (hp : w.Pauses w') : w'.Asks t j := by
  cases hp with
  | idle | ends | rests => exact h.same rfl
  | returns =>
    refine Asks.fading ?_ (fadingUnheld_enqueue _ _).toFading
    exact h.same rfl

lemma Stalls.keepsAsking (hs : w.Stalls w') : w'.Asks t j := by
  cases hs with
  | flight | misses | branch => exact h.same rfl
  | task _ _ hp => exact hp.keepsAsking h

/-- A panic takes nothing from whoever asks for a slot, unless it drives nothing and waits for a
flight. One that works on its own lays down its work. -/
lemma ForgetsParty.keepsAsking (hf : w.ForgetsParty w') (hn : ∀ e, w.party ≠ .emission e) :
    w'.Asks t j ∨ j.isOutput = true ∧ w.running = some t ∧ w.driving = [] := by
  cases hf with
  | work hp => exact .inl (h.setWork hp rfl rfl rfl)
  | emission hp => exact absurd hp (hn _)
  | output hp =>
    by_cases hr : w.running = some t
    · have hj := h.job hr
      rw [job_of_party_output hp] at hj
      refine .inr ⟨?_, hr, driving_of_party_output hp⟩
      cases hj
      rfl
    · exact .inl (h.spares (spares_setJob w _) hr)
  | nobody => exact .inl h

include hn in
/-- A panic reaches the running task when it drives nothing. -/
lemma Unwinds.keepsAsking {text : String} (hu : w.Unwinds text w') :
    w'.Asks t j ∨ j.isOutput = true ∧ w.running = some t ∧ w.driving = [] := by
  refine (w.forgetsParty.keepsAsking h hn).imp_left fun hf => ?_
  cases hu <;> exact hf.same rfl

end

lemma over_endTask (hr : w.running = some t) {task : Task} (ht : w.tasks[t]? = some task)
    (how : End) : ∃ task', (w.endTask how).tasks[t]? = some task' ∧ task'.ended = some how := by
  obtain ⟨subscriptions, hkin⟩ := (w.endsTask how).shelves hr ht
  have hlen : t < w.dropJob.tasks.length :=
    Nat.lt_of_lt_of_le (List.getElem?_eq_some_iff.mp ht).1
      ((adds_edits w.dropsJob.edits).handedOut .task)
  obtain ⟨dropped, hdropped⟩ : ∃ task, w.dropJob.tasks[t]? = some task :=
    ⟨_, List.getElem?_eq_getElem hlen⟩
  have hclosed : (w.closeTask t how).tasks[t]? =
      some { dropped with job := .nothing, ended := some how, holding := none } := by
    unfold closeTask modifyTask
    rw [hdropped]
    exact List.getElem?_set_self hlen
  have hb : ((w.endTask how).tasks.map Task.bare)[t]? =
      some (Task.bare { dropped with job := .nothing, ended := some how, holding := none }) := by
    rw [hkin.tasks, List.getElem?_map]
    show ((w.closeTask t how).tasks[t]?).map Task.bare = _
    rw [hclosed]
    rfl
  rw [List.getElem?_map, Option.map_eq_some_iff] at hb
  obtain ⟨task', hm', hb⟩ := hb
  have hended : task'.bare.ended = some how := congrArg Task.ended hb
  exact ⟨task', hm', hended⟩

/-- A panic has come to the task, which is about to end with it. -/
def Doomed (w : World) (t : Nat) : Prop :=
  w.running = some t ∧ ∃ text, w.focus = .finish (.panicked text)

lemma Unwinds.doomed {text : String} (hu : w.Unwinds text w') (hr : w.running = some t)
    (hd : w.driving = []) : w'.Doomed t := by
  have hdriving : w.forget.driving = [] := w.forgetsParty.keepsDriving.driving.trans hd
  cases hu with
  | ends => exact ⟨(w.forgetsParty.edits (A := fun _ => True)).running.trans hr, text, rfl⟩
  | breaks hd' | misses hd' => cases hdriving.symm.trans hd'

/-- Whoever is taken up again asks for what it has asked for. -/
lemma ResumesTask.keepsAsking (hres : w.ResumesTask w') (h : w.Asks t j) (hr : w.running = some t) :
    w'.Asks t j := by
  have hj := h.job hr
  cases hres with
  | polls | works => exact h.same rfl
  | finds hjob | joins hjob | computes hjob | invalidates hjob | turns hjob | emits hjob
  | panics hjob | ends hjob | follows hjob | nothing hjob =>
    rw [hjob] at hj
    cases hj

lemma TurnsToNext.keepsAsking (ht : w.TurnsToNext w') (h : w.Asks t j) (hr : w.running = some t) :
    w'.Asks t j := by
  have hj := h.job hr
  cases ht with
  | fan hjob =>
    rw [hjob] at hj
    cases hj
  | pauses _ hp => exact hp.keepsAsking h

lemma GoesOn.keepsAsking (hg : w.GoesOn w') (h : w.Asks t j) (hn : ∀ e, w.party ≠ .emission e) :
    w'.Asks t j := by
  cases hg with
  | stalls => exact h.same rfl
  | enters hp | looks hp | polls hp | approaches hp | calls hp | acts hp => exact absurd hp (hn _)

/-- A task goes on asking for what it asks for, until it ends or a panic comes to it. -/
lemma Asks.step (h : w.Asks t j) (hs : w.Sane) : w.step.Asks t j ∨
    j.isOutput = true ∧ w.step.Doomed t ∨
    w.running = some t ∧ ∃ how, w.focus = .finish how ∧
      ∃ task', w.step.tasks[t]? = some task' ∧ task'.ended = some how := by
  by_cases hr : w.running = some t
  · have hn := h.party hr
    have hsteady := hs.poised.steady
    have haim := hs.poised.aimed
    unfold World.step
    cases hf : w.focus with
    | idle => exact .inl h
    | resume => exact .inl (w.resumesTask.keepsAsking h hr)
    | work => exact .inl (w.resumesWork.keepsAsking h)
    | make r => exact .inl ((w.makesRecipe r).keepsAsking h hsteady)
    | made c => exact .inl ((w.finishesWork c).keepsAsking h)
    | poll own =>
      rw [hf] at haim
      exact .inl ((w.pollsFlight own).keepsAsking h hn haim.2)
    | answer r => exact .inl ((w.handsAnswer r).keepsAsking h hn)
    | stall => exact .inl (w.stalls.keepsAsking h)
    | emission => exact .inl (w.goesOn.keepsAsking h hn)
    | next finished => exact .inl ((w.turnsToNext finished).keepsAsking h hr)
    | finish how =>
      obtain ⟨task, ht, -⟩ := h
      exact .inr (.inr ⟨hr, how, rfl, over_endTask hr ht how⟩)
    | panic text =>
      exact ((w.unwinds text).keepsAsking h hn).imp_right fun hp =>
        .inl ⟨hp.1, (w.unwinds text).doomed hp.2.1 hp.2.2⟩
  · exact .inl (h.spares (spares_step hs.poised.steady) hr)

/-- The task asks for what it has asked for, or is over or about to be. -/
inductive Pursues (w : World) (t : Nat) (j : Job) : Prop where
  | asks : w.Asks t j → Pursues w t j
  | doomed : j.isOutput = true → w.Doomed t → Pursues w t j
  | finished : w.Over t → Pursues w t j

lemma Over.spares (h : w.Over t) (hs : Spares w w') (hr : w.running ≠ some t) : w'.Over t := by
  obtain ⟨task, how, hm, he⟩ := h
  obtain ⟨task', hm', he', -⟩ := hs.tasks t task hr hm
  exact ⟨task', how, hm', he'.trans he⟩

/-- Nobody runs who is over. -/
lemma Over.waits (h : w.Over t) (hs : w.Steady) : w.running ≠ some t := by
  intro hr
  obtain ⟨task, how, hm, he⟩ := h
  obtain ⟨task', hm', he'⟩ := hs.runs t hr
  rw [hm] at hm'
  cases hm'
  rw [he] at he'
  cases he'

lemma Pursues.step (h : w.Pursues t j) (hs : w.Sane) : w.step.Pursues t j := by
  cases h with
  | asks ha =>
    rcases ha.step hs with ha | ⟨ho, hd⟩ | ⟨-, how, -, task', hm, he⟩
    · exact .asks ha
    · exact .doomed ho hd
    · exact .finished ⟨task', how, hm, he⟩
  | doomed _ hd =>
    obtain ⟨hr, text, hf⟩ := hd
    obtain ⟨task, ht, -⟩ := hs.poised.steady.runs t hr
    obtain ⟨task', hm, he⟩ := over_endTask hr ht (.panicked text)
    have hstep : w.step = w.endTask (.panicked text) := by
      unfold World.step
      rw [hf]
    rw [hstep]
    exact .finished ⟨task', _, hm, he⟩
  | finished ho => exact .finished (ho.spares (spares_step hs.poised.steady) (ho.waits hs.poised.steady))

/-- While no task runs, whatever happens. -/
lemma Pursues.spares (h : w.Pursues t j) (hs : Spares w w') (hr : w.running = none) :
    w'.Pursues t j := by
  have hn : w.running ≠ some t := by
    rw [hr]
    rintro ⟨⟩
  cases h with
  | asks ha => exact .asks (ha.spares hs hn)
  | doomed _ hd => exact absurd hd.1 hn
  | finished ho => exact .finished (ho.spares hs hn)

lemma Pursues.poll (h : w.Pursues t j) (hr : w.running = none) (queue : List Nat) (i : Nat) :
    ({ w with queue }.poll i).Pursues t j := by
  have htasks : ({ w with queue }.poll i).tasks = w.tasks := tasks_poll _ i
  cases h with
  | asks ha => exact .asks (ha.same htasks)
  | doomed _ hd =>
    have hrunning := hd.1
    rw [hr] at hrunning
    cases hrunning
  | finished ho =>
    obtain ⟨task, how, hm, he⟩ := ho
    exact .finished ⟨task, how, by rw [htasks]; exact hm, he⟩

/-- Whatever happens from then on, a task pursues what it asks for. -/
lemma Reachable.pursues {start : World} (h : Reachable start w) (hs : start.Sane)
    (hp : start.Pursues t j) : w.Pursues t j := by
  induction h with
  | refl => exact hp
  | @perform w a w' reply hr hf ha ih =>
    have haim := (hr.goes hs).1.poised.aimed
    rw [hf] at haim
    have hperform := spares_perform (hr.goes hs).1.poised.steady a
    rw [ha] at hperform
    exact ih.spares hperform haim.2.2
  | @poll w i hr hf ih =>
    have haim := (hr.goes hs).1.poised.aimed
    rw [hf] at haim
    exact ih.poll haim.2.2 _ i
  | step hr ih => exact ih.step (hr.goes hs).1

end World

end Dataflow
