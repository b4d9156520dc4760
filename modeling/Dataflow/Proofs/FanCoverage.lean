import Dataflow.Proofs.Edits

/-!
# How fans give up their branches

A fan that is given up gives up every branch that it has. A wide one goes by the order in which its
branches had to wait last, in which each of them keeps a place.
-/

namespace Dataflow

namespace Fan

/-- Every branch is given up when the fan is. -/
def Covered (f : Fan) : Prop := ∀ i < f.branches.length, i ∈ f.leaving

variable {f f' : Fan}

lemma covered_of (host node : String) (keys : List String) : (Fan.of host node keys).Covered := by
  intro i hi
  have hlt : i < keys.length := by simpa [Fan.of] using hi
  unfold leaving
  cases (Fan.of host node keys).wide with
  | true => simpa [Fan.of] using hlt
  | false => simpa [Fan.of] using hlt

/-- Only the number of branches and the order of a wide fan count. -/
lemma Covered.same (h : f.Covered) (hl : f'.branches.length = f.branches.length)
    (hw : f'.wide = f.wide) (hr : ∀ i ∈ f.recent, i ∈ f'.recent) : f'.Covered := by
  intro i hi
  have hmem := h i (hl ▸ hi)
  unfold leaving at hmem ⊢
  rw [hw]
  by_cases hwide : f.wide = true
  · rw [if_pos hwide] at hmem ⊢
    exact hr i hmem
  · rw [if_neg hwide]
    simpa using hi

lemma Covered.continues (h : f.Covered) (hc : f.Continues f') : f'.Covered :=
  h.same hc.length hc.wide hc.recent

lemma Covered.of_bare (h : f.Covered) (hb : f'.bare = f.bare) : f'.Covered := by
  unfold bare at hb
  rw [Fan.mk.injEq] at hb
  obtain ⟨hbranches, hwide, -, hrecent, -⟩ := hb
  exact h.same (congrArg List.length hbranches) hwide fun i hi => hrecent ▸ hi

end Fan

/-- The fan that the job has, if any, gives up all its branches. -/
def Job.Covered (j : Job) : Prop := ∀ f, j = .fan f → f.Covered

lemma Job.Covered.of_bare {j j' : Job} (h : j.Covered) (hb : j'.bare = j.bare) : j'.Covered := by
  rintro f rfl
  cases j with
  | fan f₀ =>
    simp only [bare, Job.fan.injEq] at hb
    exact (h f₀ rfl).of_bare hb
  | _ => cases hb

namespace World

def Covered (w : World) : Prop := ∀ (t : Nat) task, w.tasks[t]? = some task → task.job.Covered

variable {A : Action → Prop} {w w' : World}

lemma Covered.same (h : w.Covered) (ht : w'.tasks = w.tasks) : w'.Covered := by
  unfold Covered
  rw [ht]
  exact h

lemma Covered.log (h : w.Covered) (e : Event) : (w.log e).Covered := h

lemma Covered.fading (h : w.Covered) (hf : Fading w w') : w'.Covered := by
  intro t task' ht'
  obtain ⟨task, ht, hb⟩ := hf.task ht'
  exact (h t task ht).of_bare (Task.eq_of_bare hb).2.1.symm

lemma Covered.setTask (h : w.Covered) (t : Nat) {task : Task} (hj : task.job.Covered) :
    ({ w with tasks := w.tasks.set t task } : World).Covered := by
  intro i task' hm
  rcases getElem?_set_cases hm with ⟨-, rfl⟩ | ⟨-, hm⟩
  · exact hj
  · exact h i task' hm

lemma Covered.spawn (h : w.Covered) {task : Task} (hj : ∀ f, task.job ≠ .fan f) :
    (w.spawn task).1.Covered := by
  intro t task' hm
  rcases getElem?_concat_cases hm with hm | ⟨-, rfl⟩
  · exact h t task' hm
  · exact fun f hf => absurd hf (hj f)

/-- A job that goes on as a fan goes on with one that is covered, or comes up as one. -/
lemma Job.Covered.develops {j j' : Job} (h : j.Covered) (hd : w.Develops j j') : j'.Covered := by
  intro f' hf'
  obtain ⟨f, hf, hc⟩ := hd.fan f' hf'
  rcases hf with hf | ⟨host, node, keys, rfl⟩
  · exact (h f hf).continues hc
  · exact (Fan.covered_of host node keys).continues hc

lemma Covered.putBack (h : w.Covered) (holding : Option (String × Subscription)) (how : End) :
    (w.putBack holding how).Covered := by
  rcases putBack_cases w holding how with heq | ⟨_, _, -, heq⟩ <;> rw [heq] <;> exact h

lemma Covered.edit (h : w.Covered) (he : Edit A w w') : w'.Covered := by
  cases he with
  | aside | keeps | forgets | notes | withdraws | engines | flights | valves | results | calls =>
    exact h.same rfl
  | @awaits name sub s lent hs hl hj =>
    have hover : (w.handOver sub s lent).Covered := h.same rfl
    exact hover.spawn hj.fan
  | enrols =>
    obtain ⟨_, _, heq⟩ := subscriberOf_frame w _
    rw [heq]
    exact h.same rfl
  | fades hf => exact h.fading hf
  | works _ ht hj => exact h.setTask _ (Job.Covered.develops (h _ _ ht) hj)
  | @ends t task hr ht how =>
    have hset : ({ w with
        tasks := w.tasks.set t { task with job := .nothing, ended := some how, holding := none } } :
          World).Covered := h.setTask t (by rintro f ⟨⟩)
    have hlogged := hset.log (.ended t task.name how)
    exact hlogged.putBack _ _
  | @cancels t task ht =>
    have hj : task.job.Covered := h t task ht
    exact h.setTask t hj
  | spawns _ hj => exact h.spawn hj.fan

lemma Covered.edits (h : w.Covered) (he : Edits A w w') : w'.Covered := by
  induction he with
  | refl => exact h
  | tail _ he ih => exact ih.edit he

lemma Covered.perform (h : w.Covered) (hs : w.Steady) (a : Action) : (w.perform a).1.Covered :=
  h.edits (edits_perform (A := fun _ => True) hs True.intro)

lemma Covered.step (h : w.Covered) (hs : w.Steady) : w.step.Covered := by
  cases editsThenRests_step (A := fun _ => True) hs fun _ _ _ _ _ => True.intro with
  | goes he => exact h.edits he
  | @rests v rewoken he hf =>
    have hrest : ({ v with running := none, rewoken, focus := .idle } : World).Covered :=
      (h.edits he).same rfl
    exact hrest.fading hf

lemma Covered.poll (h : w.Covered) (t : Nat) : (w.poll t).Covered := h.same (tasks_poll w t)

end World

/-- All fans that come up give up all their branches. -/
theorem Scene.covered_of_reachable {s : Scene} {w : World} (h : World.Reachable s.opening w) :
    w.Covered := by
  induction h with
  | refl =>
    intro t task ht
    cases ht
  | perform a w' reply hr _ ha ih =>
    have hp := ih.perform (sane_of_reachable hr).poised.steady a
    rw [ha] at hp
    exact hp
  | poll t _ _ ih =>
    refine World.Covered.poll ?_ t
    exact ih.same rfl
  | step hr ih => exact ih.step (sane_of_reachable hr).poised.steady

end Dataflow
