import Dataflow.Proofs.Edits

/-!
# Tasks that do not run

While one task runs, the others keep the jobs that they have, whatever flights it drives and whatever
its subscribers do. Only the order in which the branches of a wide fan are to be polled may change.
-/

namespace Dataflow

namespace World

/-- Tasks that do not run have the same jobs, and end no sooner. -/
structure Spares (w w' : World) : Prop where
  running : w'.running = w.running ∨ w'.running = none
  tasks : ∀ (t : Nat) task, w.running ≠ some t → w.tasks[t]? = some task →
    ∃ task', w'.tasks[t]? = some task' ∧ task'.ended = task.ended ∧ task'.job.bare = task.job.bare
  queue : w.Queued → w'.Queued

variable {A : Action → Prop} {w w' w'' : World}

lemma spares_of_eq (ht : w'.tasks = w.tasks) (hr : w'.running = w.running)
    (hq : w'.queue = w.queue) : Spares w w' where
  running := .inl hr
  tasks := fun t task _ hm => ⟨task, by rw [ht]; exact hm, rfl, rfl⟩
  queue := fun h => h.same hq hr ht

lemma Spares.refl (w : World) : Spares w w := spares_of_eq rfl rfl rfl

/-- Whoever does not run does not come to run. -/
lemma Spares.waits (h : Spares w w') {t : Nat} (hr : w.running ≠ some t) : w'.running ≠ some t := by
  rcases h.running with heq | hnone
  · rw [heq]
    exact hr
  · rw [hnone]
    rintro ⟨⟩

lemma Spares.trans (h : Spares w w') (h' : Spares w' w'') : Spares w w'' where
  running := h'.running.elim (fun heq => heq ▸ h.running) .inr
  tasks := fun t task hr hm => by
    obtain ⟨task', hm', he', hj'⟩ := h.tasks t task hr hm
    obtain ⟨task'', hm'', he'', hj''⟩ := h'.tasks t task' (h.waits hr) hm'
    exact ⟨task'', hm'', he''.trans he', hj''.trans hj'⟩
  queue := fun hq => h'.queue (h.queue hq)

lemma spares_fading (h : Fading w w') : Spares w w' where
  running := .inl h.running
  tasks := fun t task _ hm => by
    have hb : (w'.tasks.map Task.bare)[t]? = some task.bare := by
      rw [h.tasks, List.getElem?_map, hm]
      rfl
    rw [List.getElem?_map, Option.map_eq_some_iff] at hb
    obtain ⟨task', hm', hb⟩ := hb
    have he : task'.bare.ended = task.bare.ended := congrArg Task.ended hb
    have hj : task'.bare.job = task.bare.job := congrArg Task.job hb
    exact ⟨task', hm', he, hj⟩
  queue := h.queue

/-- One task changes. The one that runs may go on with anything, and any other keeps its job. -/
lemma spares_setTask {t : Nat} {task task' : Task} (ht : w.tasks[t]? = some task)
    (hs : w.running = some t ∨ task'.ended = task.ended ∧ task'.job = task.job) :
    Spares w { w with tasks := w.tasks.set t task' } where
  running := .inl rfl
  tasks := fun i task₁ hn hm => by
    by_cases hi : t = i
    · subst hi
      rw [ht] at hm
      cases hm
      obtain ⟨he, hj⟩ := hs.resolve_left hn
      exact ⟨task', List.getElem?_set_self (List.getElem?_eq_some_iff.mp ht).1, he,
        congrArg Job.bare hj⟩
    · exact ⟨task₁, (List.getElem?_set_ne hi).trans hm, rfl, rfl⟩
  queue := fun hq => hq.of_eq rfl (fun _ hn => hn) (by simp) fun i hn hl => by
    unfold live at hl ⊢
    dsimp only
    by_cases hi : t = i
    · subst hi
      rw [ht] at hl
      rw [List.getElem?_set_self (List.getElem?_eq_some_iff.mp ht).1]
      dsimp only at hl ⊢
      rwa [(hs.resolve_left hn).1]
    · rwa [List.getElem?_set_ne hi]

lemma spares_setJob (w : World) (j : Job) : Spares w (w.setJob j) := by
  rcases w.setJob_cases j with ⟨t, task, hr, ht, heq⟩ | heq <;> rw [heq]
  · exact spares_setTask ht (.inl hr)
  · exact .refl w

lemma spares_spawn (w : World) {task : Task} (he : task.ended = none) :
    Spares w (w.spawn task).1 where
  running := .inl rfl
  tasks := fun _ task' _ hm =>
    ⟨task', (List.getElem?_append_left (List.getElem?_eq_some_iff.mp hm).1).trans hm, rfl, rfl⟩
  queue := fun hq => by
    have hlive : ∀ t, w.live t = true → t < w.tasks.length := fun t hl => by
      obtain ⟨task', ht, -⟩ := live_iff.mp hl
      exact (List.getElem?_eq_some_iff.mp ht).1
    have hgrown : World.Queued { w with tasks := w.tasks ++ [task] } :=
      hq.of_eq rfl (fun _ hn => hn) (by simp) fun t _ hl => by
        have hlt := hlive t hl
        unfold live at hl ⊢
        dsimp only
        rwa [List.getElem?_append_left hlt]
    refine World.Queued.same (hgrown.push (t := w.tasks.length) ?_ (fun hr => ?_) fun hin => ?_) rfl rfl rfl
    · exact live_iff.mpr ⟨task, List.getElem?_concat_length, he⟩
    · exact absurd (hq.bound _ hr) (Nat.lt_irrefl _)
    · exact absurd (hlive _ (hq.waits _ hin).1) (Nat.lt_irrefl _)

lemma spares_putBack (w : World) (holding : Option (String × Subscription)) (how : End) :
    Spares w (w.putBack holding how) := by
  rcases putBack_cases w holding how with heq | ⟨_, _, -, heq⟩ <;> rw [heq]
  · exact .refl w
  · exact spares_of_eq rfl rfl rfl

lemma spares_edit (h : Edit A w w') : Spares w w' := by
  cases h with
  | aside | keeps | forgets | notes | withdraws | engines | flights | valves | results | calls =>
    exact spares_of_eq rfl rfl rfl
  | @awaits name sub s lent =>
    have hover : Spares w (w.handOver sub s lent) := spares_of_eq rfl rfl rfl
    exact hover.trans (spares_spawn _ rfl)
  | enrols =>
    obtain ⟨_, _, heq⟩ := subscriberOf_frame w _
    rw [heq]
    exact spares_of_eq rfl rfl rfl
  | fades hf => exact spares_fading hf
  | works hr ht => exact spares_setTask ht (.inl hr)
  | @ends t task hr ht how =>
    have hlogged : Spares w (World.log { w with
        tasks := w.tasks.set t { task with job := .nothing, ended := some how, holding := none } }
          (.ended t task.name how)) :=
      (spares_setTask ht (.inl hr)).trans (spares_of_eq rfl rfl rfl)
    exact hlogged.trans (spares_putBack _ _ _)
  | cancels ht => exact spares_setTask ht (.inr ⟨rfl, rfl⟩)
  | spawns he => exact spares_spawn w he

lemma spares_edits (h : Edits A w w') : Spares w w' := by
  induction h with
  | refl => exact .refl w
  | tail _ he ih => exact ih.trans (spares_edit he)

lemma spares_perform (h : w.Steady) (a : Action) : Spares w (w.perform a).1 :=
  spares_edits (edits_perform (A := fun _ => True) h True.intro)

/-- Whoever does not run is spared by every step. -/
lemma spares_step (h : w.Steady) : Spares w w.step := by
  cases editsThenRests_step (A := fun _ => True) h fun _ _ _ _ _ => True.intro with
  | goes h => exact spares_edits h
  | @rests v rewoken h hf =>
    have hrest : Spares v { v with running := none, rewoken, focus := .idle } :=
      ⟨.inr rfl, fun _ task _ hm => ⟨task, hm, rfl, rfl⟩, fun hq =>
        hq.of_eq rfl (fun _ hn => by cases hn) (Nat.le_refl _) fun _ _ hl => hl⟩
    exact ((spares_edits h).trans hrest).trans (spares_fading hf)

lemma Queued.poll (h : w.Queued) (t : Nat) :
    World.Queued ({ w with queue := w.queue.erase t }.poll t) := by
  have hqueue : World.Queued { w with queue := w.queue.erase t } := by
    refine ⟨h.nodup.erase t, fun i hi => h.waits i (List.mem_of_mem_erase hi), h.bound⟩
  rcases World.poll_cases { w with queue := w.queue.erase t } t with
    heq | ⟨task, _, _, ht, -, -, heq⟩
  · rw [heq]
    exact hqueue
  · rw [heq]
    refine ⟨hqueue.nodup, fun i hi => ⟨(hqueue.waits i hi).1, ?_⟩, fun i hi => ?_⟩
    · rintro ⟨⟩
      exact h.nodup.not_mem_erase hi
    · cases hi
      exact (List.getElem?_eq_some_iff.mp ht).1

theorem queued_of_reachable {sc : Scene} (h : Reachable sc.opening w) : w.Queued := by
  induction h with
  | refl => exact ⟨.nil, fun t ht => (List.not_mem_nil ht).elim, by rintro t ⟨⟩⟩
  | perform a w' reply hr _ hp ih =>
    have hperform := (spares_perform (Scene.sane_of_reachable hr).poised.steady a).queue ih
    rw [hp] at hperform
    exact hperform
  | poll t _ _ ih => exact ih.poll t
  | step hr ih => exact (spares_step (Scene.sane_of_reachable hr).poised.steady).queue ih

/-- Where every task is over nobody is on the queue. -/
lemma queue_eq_nil {sc : Scene} (h : Reachable sc.opening w)
    (hover : ∀ task ∈ w.tasks, task.ended.isSome = true) : w.queue = [] :=
  (queued_of_reachable h).queue_eq_nil fun _ task _ hm => hover task (List.mem_of_getElem? hm)

end World

end Dataflow
