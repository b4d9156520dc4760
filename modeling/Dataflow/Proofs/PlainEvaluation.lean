import Mathlib.Data.Fintype.Card
import Mathlib.Data.Fintype.EquivFin
import Mathlib.Data.Fintype.Sets
import Mathlib.Logic.Relation
import Dataflow.Engine.Basic
import Mathlib.Tactic.Lemma

/-!
# Plain evaluation

What an engine makes of a slot can be told without cache, computations in flight and tasks: follow the
recipe of the node, and evaluate every slot that it asks for in the same way, again and again. The
evaluation goes as deep as it is told to; once it has come to something, going deeper changes nothing.
-/

namespace Dataflow

/-- Why an evaluation comes to no content. -/
inductive Halt where
  | panicked (text : String)
  | tooDeep
deriving DecidableEq, Repr

namespace Recipe

variable (cells : String → Option Outcome) (answer : Slot → Except Halt Content)

/-- What the recipe comes to. Valves are open at once, and bring nothing. -/
def follow : Recipe → Except Halt (Except Cause Payload)
  | .finish handed => .ok handed
  | .crash text => .error (.panicked text)
  | .peek cell rest => follow (rest (cells cell))
  | .announce _ rest => follow rest
  | .hold _ rest => follow (rest none)
  | .ask _ slot rest =>
    match answer slot with
    | .ok c => follow (rest c)
    | .error halt => .error halt

/-- The slots that the recipe asks for. -/
def asked : Recipe → List Slot
  | .finish _ | .crash _ => []
  | .peek cell rest => asked (rest (cells cell))
  | .announce _ rest => asked rest
  | .hold _ rest => asked (rest none)
  | .ask _ slot rest =>
    slot ::
      match answer slot with
      | .ok c => asked (rest c)
      | .error _ => []

end Recipe

namespace Engine

/-- What becomes of what a node handed over. -/
def verdict (schema : Schema) (s : Slot) : Except Cause Payload → Except Halt Content
  | .error cause => .ok (.error (.compute s.node s.output cause))
  | .ok p =>
    match schema.check p with
    | .accepted => .ok (.ok p)
    | .rejected diagnostic => .ok (.error (.validation s.node s.output diagnostic))
    | .crashed text => .error (.panicked text)

/-- What the slot evaluates to within this depth. -/
def plain (e : Engine) (cells : String → Option Outcome) : Nat → Slot → Except Halt Content
  | 0, _ => .error .tooDeep
  | depth + 1, s =>
    match e.target s with
    | .error f => .ok (.error f)
    | .ok (n, schema) =>
      match (n.produce s.output).follow cells (e.plain cells depth) with
      | .ok handed => verdict schema s handed
      | .error halt => .error halt

/-- The node of `s` asks for `s'` in the course of an evaluation. -/
def Awaits (e : Engine) (cells : String → Option Outcome) (s s' : Slot) : Prop :=
  ∃ depth n schema, e.target s = .ok (n, schema) ∧
    s' ∈ (n.produce s.output).asked cells (e.plain cells depth)

/-- However deep it goes from some depth on, the evaluation comes to this. -/
def Evaluates (e : Engine) (cells : String → Option Outcome) (s : Slot) (v : Except Halt Content) :
    Prop :=
  v ≠ .error .tooDeep ∧ ∃ depth, ∀ deeper, depth ≤ deeper → e.plain cells deeper s = v

end Engine

section

variable {cells : String → Option Outcome} {answer answer' : Slot → Except Halt Content}

/-- `answer'` knows whatever `answer` does. -/
def Deepens (answer answer' : Slot → Except Halt Content) : Prop :=
  ∀ s, answer s ≠ .error .tooDeep → answer' s = answer s

namespace Recipe

lemma follow_deepens (h : Deepens answer answer') (r : Recipe)
    (hr : r.follow cells answer ≠ .error .tooDeep) : r.follow cells answer' = r.follow cells answer := by
  induction r with
  | finish handed => rfl
  | crash text => rfl
  | peek cell rest ih => exact ih _ hr
  | announce what rest ih => exact ih hr
  | hold what rest ih => exact ih _ hr
  | ask host slot rest ih =>
    have hs := h slot
    unfold follow at hr ⊢
    cases ha : answer slot with
    | ok c =>
      simp only [ha] at hr hs ⊢
      rw [hs (by rintro ⟨⟩)]
      exact ih c hr
    | error halt =>
      simp only [ha] at hr hs ⊢
      rw [hs fun he => hr (by cases he; rfl)]

lemma asked_deepens (h : Deepens answer answer') (r : Recipe) :
    r.asked cells answer ⊆ r.asked cells answer' := by
  induction r with
  | finish handed => exact List.Subset.refl _
  | crash text => exact List.Subset.refl _
  | peek cell rest ih => exact ih _
  | announce what rest ih => exact ih
  | hold what rest ih => exact ih _
  | ask host slot rest ih =>
    have hs := h slot
    unfold asked
    refine List.cons_subset_cons slot ?_
    cases ha : answer slot with
    | ok c =>
      rw [ha] at hs
      rw [hs (by rintro ⟨⟩)]
      exact ih c
    | error halt => exact List.nil_subset _

end Recipe

end

namespace Engine

variable {e : Engine} {cells : String → Option Outcome} {s s' : Slot} {v v' : Except Halt Content}

lemma plain_succ (e : Engine) (cells : String → Option Outcome) (depth : Nat) {n : Node}
    {schema : Schema} (ht : e.target s = .ok (n, schema)) :
    e.plain cells (depth + 1) s =
      match (n.produce s.output).follow cells (e.plain cells depth) with
      | .ok handed => verdict schema s handed
      | .error halt => .error halt := by
  rw [plain, ht]

lemma plain_deepens_succ (e : Engine) (cells : String → Option Outcome) (depth : Nat) :
    Deepens (e.plain cells depth) (e.plain cells (depth + 1)) := by
  induction depth with
  | zero => exact fun s hs => absurd rfl hs
  | succ depth ih =>
    intro s hs
    cases ht : e.target s with
    | error f => simp only [plain, ht]
    | ok target =>
      obtain ⟨n, schema⟩ := target
      rw [plain_succ e cells _ ht] at hs ⊢
      rw [plain_succ e cells _ ht, (n.produce s.output).follow_deepens ih]
      intro hf
      rw [hf] at hs
      exact hs rfl

lemma plain_deepens (e : Engine) (cells : String → Option Outcome) {depth deeper : Nat}
    (h : depth ≤ deeper) : Deepens (e.plain cells depth) (e.plain cells deeper) := by
  induction h with
  | refl => exact fun _ _ => rfl
  | @step deeper _ ih =>
    intro s hs
    rw [e.plain_deepens_succ cells deeper s (by rw [ih s hs]; exact hs), ih s hs]

lemma evaluates_of_plain (depth : Nat) (hp : e.plain cells depth s = v)
    (hv : v ≠ .error .tooDeep) : e.Evaluates cells s v :=
  ⟨hv, depth, fun deeper hd => (e.plain_deepens cells hd s (by rw [hp]; exact hv)).trans hp⟩

lemma Evaluates.unique (h : e.Evaluates cells s v) (h' : e.Evaluates cells s v') : v = v' := by
  obtain ⟨-, depth, hd⟩ := h
  obtain ⟨-, depth', hd'⟩ := h'
  rw [← hd (max depth depth') (Nat.le_max_left _ _), hd' _ (Nat.le_max_right _ _)]

/-- A recipe comes to an end if whatever it asks for does. -/
lemma follow_ends (r : Recipe)
    (h : ∀ depth, ∀ s ∈ r.asked cells (e.plain cells depth), ∃ v, e.Evaluates cells s v) :
    ∃ depth, r.follow cells (e.plain cells depth) ≠ .error .tooDeep := by
  induction r with
  | finish handed => exact ⟨0, by rintro ⟨⟩⟩
  | crash text => exact ⟨0, by rintro ⟨⟩⟩
  | peek cell rest ih => exact ih _ h
  | announce what rest ih => exact ih h
  | hold what rest ih => exact ih _ h
  | ask host slot rest ih =>
    obtain ⟨v, hv, depth, hd⟩ := h 0 slot List.mem_cons_self
    cases v with
    | error halt =>
      refine ⟨depth, ?_⟩
      rw [Recipe.follow, hd depth (Nat.le_refl _)]
      intro he
      exact hv (by cases he; rfl)
    | ok c =>
      obtain ⟨deeper, hf⟩ := ih c fun deeper s hs => by
        refine h (max depth deeper) s ?_
        rw [Recipe.asked, hd _ (Nat.le_max_left _ _)]
        exact List.mem_cons_of_mem _
          (Recipe.asked_deepens (e.plain_deepens cells (Nat.le_max_right _ _)) _ hs)
      refine ⟨max depth deeper, ?_⟩
      rw [Recipe.follow, hd _ (Nat.le_max_left _ _)]
      dsimp only
      rw [Recipe.follow_deepens (e.plain_deepens cells (Nat.le_max_right _ _)) _ hf]
      exact hf

/-- A slot evaluates to something if all slots do that its node asks for. -/
lemma evaluates_of_awaits (h : ∀ s', e.Awaits cells s s' → ∃ v, e.Evaluates cells s' v) :
    ∃ v, e.Evaluates cells s v := by
  cases ht : e.target s with
  | error f =>
    refine ⟨.ok (.error f), evaluates_of_plain 1 ?_ (by rintro ⟨⟩)⟩
    rw [plain, ht]
  | ok target =>
    obtain ⟨n, schema⟩ := target
    obtain ⟨depth, hf⟩ := follow_ends (n.produce s.output) fun depth s' hs =>
      h s' ⟨depth, n, schema, ht, hs⟩
    refine ⟨_, evaluates_of_plain (depth + 1) rfl ?_⟩
    rw [plain_succ e cells depth ht]
    cases hfollow : (n.produce s.output).follow cells (e.plain cells depth) with
    | error halt =>
      intro he
      rw [hfollow] at hf
      exact hf (by cases he; rfl)
    | ok handed =>
      cases handed with
      | error cause => rintro ⟨⟩
      | ok p =>
        simp only [verdict]
        cases schema.check p <;> rintro ⟨⟩

/-- The slots that are declared by some node. -/
def declared (e : Engine) : List Slot :=
  e.nodes.entries.flatMap fun p => p.2.outputs.names.map (Slot.mk p.1)

lemma mem_entries_of_lookup {κ α : Type} [DecidableEq κ] {l : List (κ × α)} {k : κ} {a : α}
    (h : Table.lookup l k = some a) : (k, a) ∈ l := by
  induction l with
  | nil => cases h
  | cons p l ih =>
    unfold Table.lookup at h
    by_cases hk : p.1 = k
    · rw [if_pos hk] at h
      cases h
      rw [← hk]
      exact List.mem_cons_self
    · rw [if_neg hk] at h
      exact List.mem_cons_of_mem p (ih h)

lemma registered_of_target {n : Node} {schema : Schema} (h : e.target s = .ok (n, schema)) :
    (s.node, n) ∈ e.nodes.entries ∧ s.output ∈ n.outputs.names := by
  unfold target node at h
  cases hn : e.nodes.get? s.node with
  | none =>
    rw [hn] at h
    cases h
  | some m =>
    simp only [hn] at h
    cases hs : m.outputs.get? s.output with
    | none =>
      rw [hs] at h
      cases h
    | some schema' =>
      rw [hs] at h
      cases h
      exact ⟨mem_entries_of_lookup hn, NameMap.mem_names_of_get? hs⟩

lemma mem_declared {n : Node} {schema : Schema} (h : e.target s = .ok (n, schema)) :
    s ∈ e.declared := by
  obtain ⟨hn, ho⟩ := registered_of_target h
  exact List.mem_flatMap.mpr ⟨(s.node, n), hn, List.mem_map.mpr ⟨s.output, ho, rfl⟩⟩

/-- No slot awaits itself if every slot ranks above those that it awaits. -/
lemma acyclic_of_rank (rank : Slot → Nat) (h : ∀ s s', e.Awaits cells s s' → rank s' < rank s)
    (s : Slot) : ¬Relation.TransGen (e.Awaits cells) s s := by
  have hlt : ∀ s', Relation.TransGen (e.Awaits cells) s s' → rank s' < rank s := by
    intro s' hs
    induction hs with
    | single ha => exact h _ _ ha
    | tail _ ha ih => exact Nat.lt_trans (h _ _ ha) ih
  exact fun hs => Nat.lt_irrefl _ (hlt s hs)

/-- There are finitely many slots that await others, so that no chain of them goes on for ever. -/
lemma acc_of_acyclic (h : ∀ s, ¬Relation.TransGen (e.Awaits cells) s s) (s : Slot) :
    Acc (fun s' s => e.Awaits cells s s') s := by
  let below : {s // s ∈ e.declared} → {s // s ∈ e.declared} → Prop := fun a b =>
    Relation.TransGen (e.Awaits cells) b.1 a.1
  have htrans : IsTrans _ below := ⟨fun a b c hab hbc => hbc.trans hab⟩
  have hirrefl : Std.Irrefl below := ⟨fun a => h a.1⟩
  have hwf : WellFounded below := Finite.wellFounded_of_trans_of_irrefl below
  have hother : ∀ s, s ∉ e.declared → Acc (fun s' s => e.Awaits cells s s') s := by
    refine fun s hs => .intro s fun s' hs' => ?_
    obtain ⟨-, n, schema, ht, -⟩ := hs'
    exact absurd (mem_declared ht) hs
  have hdeclared : ∀ a : {s // s ∈ e.declared}, Acc (fun s' s => e.Awaits cells s s') a.1 := by
    intro a
    induction a using hwf.induction with
    | _ a ih =>
      refine .intro _ fun s' hs' => ?_
      by_cases hd : s' ∈ e.declared
      · exact ih ⟨s', hd⟩ (.single hs')
      · exact hother s' hd
  by_cases hd : s ∈ e.declared
  · exact hdeclared ⟨s, hd⟩
  · exact hother s hd

/-- Where no slot awaits itself, not even by way of others, every slot evaluates to something. -/
lemma evaluates_of_acyclic (h : ∀ s, ¬Relation.TransGen (e.Awaits cells) s s) (s : Slot) :
    ∃ v, e.Evaluates cells s v := by
  induction acc_of_acyclic h s with
  | intro s _ ih => exact evaluates_of_awaits ih

end Engine

end Dataflow
