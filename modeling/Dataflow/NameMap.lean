/-!
# Maps keyed by names

A `NameMap` lists its entries in strictly increasing order of their names, so listing it shows
the byte order of UTF-8, which is the order of code points.
-/

namespace Dataflow

abbrev NameMap (α : Type) := List (String × α)

namespace NameMap

variable {α : Type}

def get? : NameMap α → String → Option α
  | [], _ => none
  | (m, a) :: rest, n => if m = n then some a else get? rest n

/-- Puts `a` under `n`, in place of what was there. -/
def insert : NameMap α → String → α → NameMap α
  | [], n, a => [(n, a)]
  | (m, b) :: rest, n, a =>
    if n = m then (n, a) :: rest
    else if n < m then (n, a) :: (m, b) :: rest
    else (m, b) :: insert rest n a

def erase (m : NameMap α) (n : String) : NameMap α := m.filter fun p => p.1 ≠ n

/-- Later pairs win over earlier ones of the same name. -/
def ofList (pairs : List (String × α)) : NameMap α :=
  pairs.foldl (fun m p => m.insert p.1 p.2) []

def names (m : NameMap α) : List String := m.map Prod.fst

/-- The order that every map built by `insert` and `erase` has. -/
def Sorted (m : NameMap α) : Prop := m.names.Pairwise (· < ·)

@[simp] theorem get?_insert (m : NameMap α) (n j : String) (a : α) :
    (m.insert n a).get? j = if n = j then some a else m.get? j := by
  induction m with
  | nil => simp [insert, get?]
  | cons p rest ih =>
    obtain ⟨k, b⟩ := p
    by_cases hk : n = k
    · subst hk
      by_cases hj : n = j <;> simp [insert, get?, hj]
    · by_cases hl : n < k
      · simp [insert, get?, hk, hl]
      · by_cases hj : k = j
        · subst hj
          simp [insert, get?, hk, hl]
        · simp [insert, get?, hk, hl, hj, ih]

@[simp] theorem get?_erase (m : NameMap α) (n j : String) :
    (m.erase n).get? j = if n = j then none else m.get? j := by
  induction m with
  | nil => simp [erase, get?]
  | cons p rest ih =>
    obtain ⟨k, b⟩ := p
    simp only [erase] at ih
    by_cases hk : k = n
    · subst hk
      by_cases hj : k = j <;> simp_all [erase, get?]
    · by_cases hj : k = j
      · subst hj
        simp [erase, get?, hk, Ne.symm hk]
      · simp_all [erase, get?]

theorem mem_names_of_get? {m : NameMap α} {n : String} {a : α} (h : m.get? n = some a) :
    n ∈ m.names := by
  induction m with
  | nil => cases h
  | cons p rest ih =>
    unfold get? at h
    by_cases hp : p.1 = n
    · subst hp
      exact List.mem_cons_self
    · rw [if_neg hp] at h
      exact List.mem_cons_of_mem p.1 (ih h)

theorem sorted_nil : Sorted ([] : NameMap α) := List.Pairwise.nil

theorem Sorted.erase {m : NameMap α} (h : m.Sorted) (n : String) : (m.erase n).Sorted :=
  h.sublist (List.filter_sublist.map Prod.fst)

theorem mem_names_insert (m : NameMap α) (n j : String) (a : α) :
    j ∈ (m.insert n a).names ↔ j = n ∨ j ∈ m.names := by
  induction m with
  | nil => simp [insert, names]
  | cons p rest ih =>
    obtain ⟨k, b⟩ := p
    by_cases hk : n = k
    · subst hk
      simp [insert, names]
    · by_cases hl : n < k
      · simp [insert, names, hk, hl]
      · simp only [names] at ih
        simp [insert, names, hk, hl, ih, or_left_comm]

theorem name_lt_of_not_lt {n k : String} (h : n ≠ k) (hl : ¬n < k) : k < n := by
  rcases String.le_total n k with hle | hle
  · exact absurd (String.le_antisymm hle (String.not_lt.mp hl)) h
  · exact String.not_le.mp fun hge => h (String.le_antisymm hge hle)

theorem Sorted.insert {m : NameMap α} (h : m.Sorted) (n : String) (a : α) :
    (m.insert n a).Sorted := by
  induction m with
  | nil => simp [NameMap.insert, Sorted, names]
  | cons p rest ih =>
    obtain ⟨k, b⟩ := p
    have hk : ∀ j ∈ names rest, k < j := (List.pairwise_cons.mp h).1
    have hr : Sorted rest := (List.pairwise_cons.mp h).2
    by_cases he : n = k
    · subst he
      simpa [NameMap.insert, Sorted, names] using h
    · by_cases hl : n < k
      · have hs : Sorted ((n, a) :: (k, b) :: rest) := by
          refine List.pairwise_cons.mpr ⟨?_, h⟩
          intro j hj
          rcases List.mem_cons.mp hj with hj | hj
          · exact hj ▸ hl
          · exact String.lt_trans hl (hk j hj)
        simpa [NameMap.insert, he, hl] using hs
      · have hs : Sorted ((k, b) :: NameMap.insert rest n a) := by
          refine List.pairwise_cons.mpr ⟨?_, ih hr⟩
          intro j hj
          rcases (mem_names_insert rest n j a).mp hj with hj | hj
          · exact hj ▸ name_lt_of_not_lt he hl
          · exact hk j hj
        simpa [NameMap.insert, he, hl] using hs

end NameMap

end Dataflow
