import Dataflow.Proofs.GateLines
import Dataflow.Proofs.SlotRequests

/-!
# A task that is left alone

Where all other tasks are over, a run takes the one that is left from one turn to the next. Whoever is
woken then is a branch of its fan.
-/

namespace Dataflow

namespace Fan

/-- Whom to wake for a branch of the fan of the task `t`. -/
def seat (f : Fan) (t i : Nat) : Waiter := if f.wide then .branch t i else .task t

/-- The fan when that branch has been woken. -/
def nudge (f : Fan) (i : Nat) : Fan := if f.wide then f.stir i else f

@[simp] lemma branches_nudge (f : Fan) (i : Nat) : (f.nudge i).branches = f.branches := by
  unfold nudge
  cases f.wide <;> rfl

@[simp] lemma wide_nudge (f : Fan) (i : Nat) : (f.nudge i).wide = f.wide := by
  unfold nudge
  cases hw : f.wide with
  | true => exact hw
  | false => exact hw

@[simp] lemma cursor_nudge (f : Fan) (i : Nat) : (f.nudge i).cursor = f.cursor := by
  unfold nudge
  cases f.wide <;> rfl

lemma ready_stir (f : Fan) (i : Nat) : ∃ more, (f.stir i).ready = f.ready ++ more := by
  unfold stir
  dsimp only
  cases f.asleep i with
  | true => exact ⟨[i], rfl⟩
  | false => exact ⟨[], (List.append_nil _).symm⟩

/-- Whoever is woken is polled after all that are to be polled already. -/
lemma ready_nudge (f : Fan) (i : Nat) : ∃ more, (f.nudge i).ready = f.ready ++ more := by
  unfold nudge
  cases f.wide with
  | true => exact f.ready_stir i
  | false => exact ⟨[], (List.append_nil _).symm⟩

/-- A branch that is not over is to be polled once it was woken. -/
lemma mem_ready_nudge {f : Fan} {i : Nat} (hw : f.wide = true) (hi : (f.branch? i).isSome = true) :
    i ∈ (f.nudge i).ready := by
  unfold nudge
  rw [if_pos hw]
  show i ∈ if f.asleep i then f.ready ++ [i] else f.ready
  unfold asleep
  rw [hi, Bool.true_and]
  by_cases hm : i ∈ f.ready
  · rw [if_neg (by simpa using hm)]
    exact hm
  · rw [if_pos (by simpa using hm)]
    exact List.mem_append_right _ (List.mem_singleton_self i)

end Fan

namespace World

variable {sc : Scene} {t : Nat} {f f' : Fan} {u v w : World} {e : Emission}

/-- Running the one comes to the other. -/
def RunsTo (w v : World) : Prop := ∃ fuel, w.run fuel = v

lemma run_of_settled (hs : w.settled = true) (fuel : Nat) : w.run fuel = w := by
  cases fuel with
  | zero => rfl
  | succ fuel => exact if_pos hs

lemma run_succ (hs : ¬w.settled = true) (fuel : Nat) : w.run (fuel + 1) = w.advance.run fuel :=
  if_neg hs

lemma run_add (m n : Nat) (w : World) : w.run (m + n) = (w.run m).run n := by
  induction m generalizing w with
  | zero => rw [Nat.zero_add, run]
  | succ m ih =>
    rw [Nat.succ_add]
    by_cases hs : w.settled = true
    · rw [run_of_settled hs, run_of_settled hs, run_of_settled hs]
    · rw [run_succ hs, run_succ hs]
      exact ih w.advance

lemma RunsTo.refl (w : World) : RunsTo w w := ⟨0, rfl⟩

lemma RunsTo.trans (h : RunsTo u v) (h' : RunsTo v w) : RunsTo u w := by
  obtain ⟨m, rfl⟩ := h
  obtain ⟨n, rfl⟩ := h'
  exact ⟨m + n, run_add m n u⟩

lemma runsTo_advance (hs : w.settled = false) : RunsTo w w.advance := by
  refine ⟨1, ?_⟩
  rw [run_succ (by simp [hs])]
  rfl

lemma advance_of_focus (hf : w.focus ≠ .idle) : w.advance = w.step := by
  unfold advance
  cases hfocus : w.focus with
  | idle => exact absurd hfocus hf
  | _ => rfl

lemma runsTo_step (hf : w.focus ≠ .idle) : RunsTo w w.step := by
  rw [← advance_of_focus hf]
  refine runsTo_advance ?_
  unfold settled
  cases hfocus : w.focus with
  | idle => exact absurd hfocus hf
  | _ => rfl

lemma RunsTo.reachable (h : RunsTo w v) (hr : Reachable sc.opening w) : Reachable sc.opening v := by
  obtain ⟨fuel, rfl⟩ := h
  exact hr.run fuel

/-- Nothing panics while the world is run. -/
def NeverPanics (w : World) : Prop := ∀ fuel text, (w.run fuel).focus ≠ .panic text

lemma NeverPanics.runsTo (h : w.NeverPanics) (hr : RunsTo w v) : v.NeverPanics := by
  obtain ⟨n, rfl⟩ := hr
  intro fuel text
  rw [← run_add]
  exact h (n + fuel) text

lemma NeverPanics.step (h : w.NeverPanics) (hf : w.focus ≠ .idle) : w.step.NeverPanics :=
  h.runsTo (runsTo_step hf)

lemma NeverPanics.focus (h : w.NeverPanics) (text : String) : w.focus ≠ .panic text := h 0 text

/-- The task runs, all the others are over, and nobody is on the queue. -/
structure Lone (w : World) (t : Nat) : Prop where
  running : w.running = some t
  own : ∃ task, w.tasks[t]? = some task ∧ task.ended = none ∧ task.cancelled = false
  others : ∀ i task, i ≠ t → w.tasks[i]? = some task → task.ended.isSome = true
  queue : w.queue = []

/-- Besides, it goes through its fan. -/
structure LoneFan (w : World) (t : Nat) (f : Fan) : Prop where
  running : w.running = some t
  own : ∃ task, w.tasks[t]? = some task ∧ task.job = .fan f ∧ task.ended = none ∧
    task.cancelled = false
  others : ∀ i task, i ≠ t → w.tasks[i]? = some task → task.ended.isSome = true
  queue : w.queue = []

/-- The task may go through any fan. -/
lemma Lone.setFan (h : w.Lone t) (f : Fan) : ∃ tasks, w.setJob (.fan f) = { w with tasks } ∧
    ∀ v : World, v.running = w.running → v.tasks = tasks → v.queue = w.queue → v.LoneFan t f := by
  obtain ⟨task, ht, he, hc⟩ := h.own
  refine ⟨_, setJob_of_running h.running ht _, fun v hr hv hq => ?_⟩
  refine ⟨hr.trans h.running, ⟨{ task with job := .fan f }, ?_, rfl, he, hc⟩, fun i other hi hm => ?_,
    hq.trans h.queue⟩
  · rw [hv]
    exact List.getElem?_set_self (List.getElem?_eq_some_iff.mp ht).1
  · rw [hv, List.getElem?_set_ne hi.symm] at hm
    exact h.others i other hi hm

namespace LoneFan

lemma lone (h : w.LoneFan t f) : w.Lone t := by
  obtain ⟨task, ht, -, he, hc⟩ := h.own
  exact ⟨h.running, ⟨task, ht, he, hc⟩, h.others, h.queue⟩

lemma job (h : w.LoneFan t f) : w.job = .fan f := by
  obtain ⟨task, ht, hj, -⟩ := h.own
  rw [job_of_running h.running ht, hj]

lemma same (h : w.LoneFan t f) (hr : v.running = w.running) (ht : v.tasks = w.tasks)
    (hq : v.queue = w.queue) : v.LoneFan t f :=
  ⟨hr.trans h.running, by rw [ht]; exact h.own, by rw [ht]; exact h.others, hq.trans h.queue⟩

/-- The fan of the task may become another one. -/
lemma setFan (h : w.LoneFan t f) (f' : Fan) : ∃ tasks, w.setJob (.fan f') = { w with tasks } ∧
    ∀ v : World, v.running = w.running → v.tasks = tasks → v.queue = w.queue → v.LoneFan t f' :=
  h.lone.setFan f'

lemma setEmission_eq (h : w.LoneFan t f) (e : Emission) :
    w.setEmission e = w.setJob (.fan (f.setCurrent (some e))) := by
  unfold World.setEmission
  rw [h.job]

/-- The branch under the cursor goes on. -/
lemma setEmission (h : w.LoneFan t f) (e : Emission) : ∃ tasks, w.setEmission e = { w with tasks } ∧
    ∀ v : World, v.running = w.running → v.tasks = tasks → v.queue = w.queue →
      v.LoneFan t (f.setCurrent (some e)) := by
  rw [h.setEmission_eq]
  exact h.setFan _

lemma party (h : w.LoneFan t f) (hd : w.driving = []) (he : f.current? = some e) :
    w.party = .emission e := by
  unfold World.party
  rw [hd, h.job]
  dsimp only
  rw [he]

lemma self (h : w.LoneFan t f) (hd : w.driving = []) : w.self = f.seat t f.cursor := by
  unfold World.self
  rw [hd, h.job, h.running]
  rfl

lemma enqueue (h : w.LoneFan t f) : w.enqueue t = { w with rewoken := true } := by
  obtain ⟨task, ht, -, he, -⟩ := h.own
  have hlive : w.live t = true := live_iff.mpr ⟨task, ht, he⟩
  unfold World.enqueue
  rw [hlive, if_pos h.running]
  rfl

lemma stir (h : w.LoneFan t f) (i : Nat) :
    ∃ rewoken, w.stir t i = { w.setJob (.fan (f.stir i)) with rewoken } := by
  obtain ⟨task, ht, hj, -⟩ := h.own
  obtain ⟨tasks, hset, halone⟩ := h.setFan (f.stir i)
  have hmodify : (w.modifyTask t fun task => { task with job := .fan (f.stir i) }) =
      w.setJob (.fan (f.stir i)) := by
    unfold modifyTask
    rw [setJob_of_running h.running ht, ht]
  unfold World.stir
  rw [ht, Option.map_some, hj]
  dsimp only
  rw [hmodify]
  cases f.asleep i with
  | true =>
    refine ⟨true, ?_⟩
    rw [if_pos rfl, hset, LoneFan.enqueue (halone { w with tasks } rfl rfl rfl)]
  | false => exact ⟨w.rewoken, by rw [hset]; rfl⟩

/-- Whoever is woken is a branch of the fan. -/
lemma wake (h : w.LoneFan t f) (i : Nat) :
    ∃ rewoken, w.wake [f.seat t i] = { w.setJob (.fan (f.nudge i)) with rewoken } := by
  have hnil : ∀ (k : Nat) (v : World), wakeWithin k [] v = v := by
    intro k v
    cases k <;> rfl
  unfold World.wake Fan.seat Fan.nudge
  dsimp only
  rw [List.length_singleton, Nat.add_comm]
  cases f.wide with
  | true =>
    obtain ⟨rewoken, hstir⟩ := h.stir i
    exact ⟨rewoken, (hnil _ _).trans hstir⟩
  | false =>
    obtain ⟨task, ht, hj, -⟩ := h.own
    refine ⟨true, (hnil _ _).trans (h.enqueue.trans ?_)⟩
    have hsame : w.tasks.set t { task with job := .fan f } = w.tasks := by
      obtain ⟨hlt, heq⟩ := List.getElem?_eq_some_iff.mp ht
      rw [← hj]
      exact heq ▸ List.set_getElem_self hlt
    rw [setJob_of_running h.running ht]
    simp only [Bool.false_eq_true, if_false, hsame]

/-- What waking changes. -/
lemma wake_frame (h : w.LoneFan t f) (i : Nat) : ∃ tasks rewoken,
    w.wake [f.seat t i] = { w with tasks, rewoken } ∧
    ∀ v : World, v.running = w.running → v.tasks = tasks → v.queue = w.queue →
      v.LoneFan t (f.nudge i) := by
  obtain ⟨rewoken, hw⟩ := h.wake i
  obtain ⟨tasks, hset, halone⟩ := h.setFan (f.nudge i)
  exact ⟨tasks, rewoken, by rw [hw, hset], halone⟩

end LoneFan

end World

end Dataflow
