import Dataflow.Proofs.LeadingSteps

/-!
# Excerpts from runs

A run is a list of deeds: actions that are performed from outside, tasks that are polled, and steps
of the task that runs. The excerpt for a side leaves out whatever is about nodes of the other side.
-/

namespace Dataflow

/-- What is done to a world, and what it does by itself. -/
inductive Deed where
  /-- An action is performed. What comes back is `seen`, if anybody looks. -/
  | act (a : Action) (seen : Option Reply)
  | poll (t : Nat)
  | step

namespace World

/-- The world after the deed. -/
def after (w : World) : Deed → World
  | .act a _ => (w.perform a).1
  | .poll t => { w with queue := w.queue.erase t }.poll t
  | .step => w.step

/-- Actions are performed and tasks are polled while no task runs. -/
def Allows (w : World) : Deed → Prop
  | .act a seen => w.focus = .idle ∧
      ∃ reply, (w.perform a).2 = .reply reply ∧ ∀ r ∈ seen, r = reply
  | .poll _ => w.focus = .idle
  | .step => True

/-- The deeds lead from `w` to `w'`. -/
inductive Runs : World → List Deed → World → Prop where
  | nil {w : World} : Runs w [] w
  | cons {w w' : World} {d : Deed} {l : List Deed} :
      w.Allows d → Runs (w.after d) l w' → Runs w (d :: l) w'

variable {start w w' w'' : World} {d : Deed} {l l' : List Deed}

lemma Runs.append (h : Runs w l w') (h' : Runs w' l' w'') : Runs w (l ++ l') w'' := by
  induction h with
  | nil => exact h'
  | cons ha _ ih => exact .cons ha (ih h')

lemma Runs.of_append (h : Runs w (l ++ l') w'') : ∃ w', Runs w l w' ∧ Runs w' l' w'' := by
  induction l generalizing w with
  | nil => exact ⟨w, .nil, h⟩
  | cons d l ih =>
    cases h with
    | cons ha h =>
      obtain ⟨w', hl, hl'⟩ := ih h
      exact ⟨w', .cons ha hl, hl'⟩

lemma Reachable.after (h : Reachable start w) (ha : w.Allows d) :
    Reachable start (w.after d) := by
  cases d with
  | act a seen =>
    obtain ⟨hf, reply, hp, -⟩ := ha
    exact .perform a (w.perform a).1 reply h hf (by rw [← hp])
  | poll t => exact .poll t h ha
  | step => exact .step h

lemma Reachable.runs (h : Reachable start w) (hr : Runs w l w') : Reachable start w' := by
  induction hr with
  | nil => exact h
  | cons ha _ ih => exact ih (h.after ha)

/-- What is reachable is what runs lead to. -/
lemma reachable_iff_runs : Reachable start w ↔ ∃ l, Runs start l w := by
  refine ⟨fun h => ?_, fun ⟨l, hl⟩ => Reachable.refl.runs hl⟩
  induction h with
  | refl => exact ⟨[], .nil⟩
  | @perform w a w' reply _ hf ha ih =>
    obtain ⟨l, hl⟩ := ih
    have hrun : Runs w [.act a none] w' := by
      refine .cons ⟨hf, reply, by rw [ha], by rintro r ⟨⟩⟩ ?_
      show Runs (w.perform a).1 [] w'
      rw [ha]
      exact .nil
    exact ⟨_, hl.append hrun⟩
  | @poll w t _ hf ih =>
    obtain ⟨l, hl⟩ := ih
    exact ⟨_, hl.append (.cons (d := .poll t) hf .nil)⟩
  | @step w _ ih =>
    obtain ⟨l, hl⟩ := ih
    exact ⟨_, hl.append (.cons (d := .step) True.intro .nil)⟩

end World

namespace Side

variable {S T : Side} {k : Numbered} {i n : Nat}

lemma le_number (i : Nat) : i ≤ S k i := by
  induction i with
  | zero => exact Nat.zero_le _
  | succ i ih =>
    exact Nat.succ_le_of_lt (Nat.lt_of_le_of_lt ih (S.strictMono k (Nat.lt_succ_self i)))

/-- What goes by the number in the whole, by its number on the side. -/
def index? (S : Side) (k : Numbered) (n : Nat) : Option Nat :=
  (List.range (n + 1)).find? fun i => S k i == n

lemma index?_eq_some : S.index? k n = some i ↔ S k i = n := by
  refine ⟨fun h => ?_, fun h => ?_⟩
  · have hf : (S k i == n) = true := List.find?_some (p := fun i => S k i == n) h
    exact beq_iff_eq.mp hf
  have hle : i ≤ n := h ▸ le_number i
  unfold index?
  cases hf : (List.range (n + 1)).find? fun j => S k j == n with
  | none =>
    exact absurd (List.find?_eq_none.mp hf i (List.mem_range.mpr (Nat.lt_succ_of_le hle)))
      (by simp [h])
  | some j =>
    have hj : (S k j == n) = true := List.find?_some (p := fun i => S k i == n) hf
    rw [S.number_inj.mp ((beq_iff_eq.mp hj).trans h.symm)]

@[simp] lemma index?_number : S.index? k (S k i) = some i := index?_eq_some.mpr rfl

lemma Opposite.index? (h : S.Opposite T) : T.index? k (S k i) = none := by
  rw [Option.eq_none_iff_forall_ne_some]
  intro j hj
  exact h.apart k i j (index?_eq_some.mp hj).symm

end Side

/-- What the reply is on the side. -/
def Reply.narrow (S : Side) : Reply → Reply
  | .number n => .number ((S.index? .valve n).getD n)
  | .cached r => .cached ⟨(S.index? .result r.id).getD r.id, r.content⟩
  | reply => reply

lemma Reply.narrow_rename (S : Side) (r : Reply) : (r.rename S).narrow S = r := by
  cases r <;> simp [rename, narrow, Result.rename]

/-- What is left of an action for the side that it is not about: cells are for everybody, and so are
the names that subscriptions and subscribers are kept under. -/
def Action.echo? : Action → Option Deed
  | .setCell cell o => some (.act (.setCell cell o) none)
  | .dropSubscription sub => some (.act (.dropSubscription sub) none)
  | .dropCallback callback => some (.act (.dropCallback callback) none)
  | .await _ sub _ => some (.act (.dropSubscription sub) none)
  | _ => none

namespace World

/-- Whether the action is not carried out. -/
def refuses (w : World) (a : Action) : Bool :=
  match (w.perform a).2 with
  | .reply (.refused _) => true
  | _ => false

/-- What is left of a deed for one side. Valves and tasks go by their numbers on the side. -/
def portion (S : Side) (w : World) : Deed → Option Deed
  | .act a seen =>
    if w.refuses a then none
    else
      match a with
      | .resolve choice o => ((w.chosen? choice).bind (S.index? .valve)).map fun (i : Nat) =>
          .act (.resolve (.number i) o) (seen.map (Reply.narrow S))
      | .cancel name => ((w.taskNamed? name).bind (S.index? .task)).map fun _ =>
          .act (.cancel name) (seen.map (Reply.narrow S))
      | a =>
        if (w.subject? a).any S.nodes then some (.act a (seen.map (Reply.narrow S)))
        else a.echo?
  | .poll t => (S.index? .task t).map .poll
  | .step =>
    match w.running.bind (S.index? .task) with
    | some _ => some .step
    | none => w.script.head?.bind Action.echo?

/-- What is left of a run for one side. -/
def excerpt (S : Side) (w : World) : List Deed → List Deed
  | [] => []
  | d :: l => (w.portion S d).toList ++ (w.after d).excerpt S l

end World

/-- The nodes that a job is about. -/
def Job.nodes : Job → List String
  | .output _ slot _ | .compute _ slot => [slot.node]
  | .work k => [k.slot.node]
  | .invalidate _ node _ => [node]
  | j => j.emissions.map (·.slot.node)

/-- The nodes that a task is about, be it by a subscription whose first delivery it waits for. -/
def Task.nodes (t : Task) : List String :=
  t.job.nodes ++ (t.holding.map (·.2.slot.node)).toList

variable {S : Side}

lemma Emission.Resembles.own {e e' : Emission} (h : e.Resembles S e') :
    S.nodes e.slot.node = true := by
  obtain ⟨ho, -⟩ := h
  exact ho

lemma own_of_branches {l l' : List (Option Emission)}
    (h : List.Forall₂ (Option.Rel (Emission.Resembles S)) l l') :
    ∀ e ∈ l.filterMap id, S.nodes e.slot.node = true := by
  induction h with
  | nil => simp
  | @cons x _ l _ hx _ ih =>
    cases hx with
    | none => exact ih
    | some he =>
      intro e hm
      rcases List.mem_cons.mp hm with rfl | hm
      · exact he.own
      · exact ih e hm

lemma Job.Resembles.own {j j' : Job} (h : j.Resembles S j') :
    ∀ id ∈ j.nodes, S.nodes id = true := by
  have hslots : ∀ {l : List Emission}, (∀ e ∈ l, S.nodes e.slot.node = true) →
      ∀ id ∈ l.map (·.slot.node), S.nodes id = true := by
    intro l hl id hid
    obtain ⟨e, he, rfl⟩ := List.mem_map.mp hid
    exact hl e he
  cases h with
  | output own _ | compute own | invalidate own _ | work own _ =>
    intro id hid
    rw [List.mem_singleton.mp hid]
    exact own
  | @fan f f' alike =>
    obtain ⟨_, hb⟩ := alike
    exact hslots (own_of_branches hb)
  | emit alike =>
    refine hslots fun e he => ?_
    rw [List.mem_singleton.mp he]
    exact alike.own
  | _ =>
    intro id hid
    cases hid

lemma Task.Resembles.own {t t' : Task} (h : t.Resembles S t') :
    ∀ id ∈ t.nodes, S.nodes id = true := by
  intro id hid
  rcases List.mem_append.mp hid with hj | hh
  · exact h.job.own id hj
  · have hholding := h.holding
    generalize t.holding = x at hh hholding
    generalize t'.holding = x' at hholding
    cases hholding with
    | none => cases hh
    | @some p p' hs =>
      rw [List.mem_singleton.mp hh]
      show S.nodes p.2.slot.node = true
      rw [hs.2.eq]
      exact hs.2.own

namespace World

/-- What concerns the nodes of the side is in `w` as it is in `v`, but for the numbers: what is
cached, what is in flight, who is subscribed, all that happened, and what tasks came to. -/
structure Agrees (S : Side) (w v : World) : Prop where
  cached : ∀ host slot, S.nodes slot.node = true →
    (w.engine host).cached slot = ((v.engine host).cached slot).map (Result.rename S)
  flying : ∀ host slot, S.nodes slot.node = true →
    (w.engine host).flying slot = ((v.engine host).flying slot).map (S .flight)
  subscribers : ∀ host slot, S.nodes slot.node = true →
    (w.engine host).subscribers slot = ((v.engine host).subscribers slot).map S.subscriber
  journal : w.journal.filter S.about = (v.journal.filter S.about).map (Event.rename S)
  ended : ∀ t, (w.tasks[S .task t]?).bind Task.ended =
    ((v.tasks[t]?).bind Task.ended).map (End.rename S)

lemma Strand.agrees {w v : World} (h : w.Strand S v) : w.Agrees S v where
  cached := fun host slot hs => (h.engine host).cached hs
  flying := fun host slot hs => (h.engine host).flying hs
  subscribers := fun host slot hs => (h.engine host).subscribers hs
  journal := h.journal
  ended := by
    intro t
    have ht := h.tasks t
    generalize w.tasks[S .task t]? = x at ht
    generalize v.tasks[t]? = x' at ht
    cases ht with
    | none => rfl
    | some hres => exact hres.ended

/-- A flight or a task does the work. -/
def IsDoing (w : World) (k : Work) : Prop :=
  (∃ (i : Nat) (f : Flight), w.flights[i]? = some f ∧ f.work = k) ∨
    ∃ (t : Nat) (task : Task), w.tasks[t]? = some task ∧ task.job = .work k

/-- A task is on the side whose nodes it is about, and so is a valve that a work waits for. -/
structure Sorted (S : Side) (w : World) : Prop where
  tasks : ∀ t task, w.tasks[t]? = some task → ∀ id ∈ task.nodes,
    S.nodes id = (S.index? .task t).isSome
  valves : ∀ k valve rest, w.IsDoing k → k.stage = .held valve rest →
    S.nodes k.slot.node = (S.index? .valve valve).isSome

lemma Strand.isDoing {w v : World} (h : w.Strand S v) {k : Work}
    (hk : (∃ (i : Nat) (f : Flight), w.flights[S .flight i]? = some f ∧ f.work = k) ∨
      ∃ (t : Nat) (task : Task), w.tasks[S .task t]? = some task ∧ task.job = .work k) :
    S.nodes k.slot.node = true ∧ ∃ k' : Work, k = k'.rename S := by
  rcases hk with ⟨i, f, hf, rfl⟩ | ⟨t, task, ht, hj⟩
  · obtain ⟨f', -, hres⟩ := h.flights.of_get hf
    have hown := hres.own
    obtain ⟨rfl, -, -⟩ := hres
    exact ⟨hown, f'.work, rfl⟩
  · obtain ⟨task', -, hres⟩ := h.tasks.of_get ht
    have hjob := hres.job
    rw [hj] at hjob
    generalize task'.job = j at hjob
    cases hjob with
    | work own _ => exact ⟨own, _, rfl⟩

/-- A work of the side waits for a valve of the side. -/
lemma held_rename {k : Work} {valve : Nat} {rest : Option Outcome → Recipe}
    (h : (k.rename S).stage = .held valve rest) : ∃ i, S .valve i = valve := by
  have h : k.stage.rename S = .held valve rest := h
  cases hs : k.stage with
  | held i rest' =>
    rw [hs] at h
    cases h
    exact ⟨i, rfl⟩
  | _ =>
    rw [hs] at h
    cases h

variable {T : Side}

/-- Whatever work is being done is on one of the two sides. -/
lemma Strand.isDoing_cases {u v w : World} (ho : S.Opposite T) (h : w.Strand S v)
    (h' : w.Strand T u) {k : Work} (hk : w.IsDoing k) :
    (S.nodes k.slot.node = true ∧ ∃ k' : Work, k = k'.rename S) ∨
      T.nodes k.slot.node = true ∧ ∃ k' : Work, k = k'.rename T := by
  rcases hk with ⟨i, f, hf, hk⟩ | ⟨t, task, ht, hj⟩
  · rcases ho.cover .flight i with ⟨i, rfl⟩ | ⟨i, rfl⟩
    · exact .inl (h.isDoing (.inl ⟨i, f, hf, hk⟩))
    · exact .inr (h'.isDoing (.inl ⟨i, f, hf, hk⟩))
  · rcases ho.cover .task t with ⟨t, rfl⟩ | ⟨t, rfl⟩
    · exact .inl (h.isDoing (.inr ⟨t, task, ht, hj⟩))
    · exact .inr (h'.isDoing (.inr ⟨t, task, ht, hj⟩))

lemma Strand.sorted {u v w : World} (ho : S.Opposite T) (h : w.Strand S v) (h' : w.Strand T u) :
    w.Sorted S where
  tasks := by
    intro t task ht id hid
    rcases ho.cover .task t with ⟨i, rfl⟩ | ⟨i, rfl⟩
    · obtain ⟨_, -, hres⟩ := h.tasks.of_get ht
      rw [hres.own id hid, Side.index?_number]
      rfl
    · obtain ⟨_, -, hres⟩ := h'.tasks.of_get ht
      rw [ho.symm.index?, ho.symm.other (hres.own id hid)]
      rfl
  valves := by
    intro k valve rest hk hstage
    rcases isDoing_cases ho h h' hk with ⟨hown, k', rfl⟩ | ⟨hown, k', rfl⟩
    · obtain ⟨j, rfl⟩ := held_rename hstage
      rw [hown, Side.index?_number]
      rfl
    · obtain ⟨j, rfl⟩ := held_rename hstage
      rw [ho.symm.other hown, ho.symm.index?]
      rfl

end World

end Dataflow
