/-!
# Finite tables

A `Table` keeps its entries in the order in which their keys first came. Looking up a key after
`insert` and `erase` is settled by `get?_insert` and `get?_erase`.
-/

namespace Dataflow

structure Table (κ α : Type) where
  entries : List (κ × α) := []

namespace Table

variable {κ α : Type} [DecidableEq κ]

instance : EmptyCollection (Table κ α) := ⟨⟨[]⟩⟩

def lookup : List (κ × α) → κ → Option α
  | [], _ => none
  | (l, a) :: rest, k => if l = k then some a else lookup rest k

def replace : List (κ × α) → κ → α → List (κ × α)
  | [], k, a => [(k, a)]
  | (l, b) :: rest, k, a => if l = k then (k, a) :: rest else (l, b) :: replace rest k a

def get? (t : Table κ α) (k : κ) : Option α := lookup t.entries k

def insert (t : Table κ α) (k : κ) (a : α) : Table κ α := ⟨replace t.entries k a⟩

def erase (t : Table κ α) (k : κ) : Table κ α := ⟨t.entries.filter fun p => p.1 ≠ k⟩

def contains (t : Table κ α) (k : κ) : Bool := (t.get? k).isSome

def keys (t : Table κ α) : List κ := t.entries.map Prod.fst

def size (t : Table κ α) : Nat := t.entries.length

theorem lookup_replace (l : List (κ × α)) (k j : κ) (a : α) :
    lookup (replace l k a) j = if k = j then some a else lookup l j := by
  induction l with
  | nil => simp [replace, lookup]
  | cons p rest ih =>
    obtain ⟨m, b⟩ := p
    by_cases hm : m = k
    · subst hm
      by_cases hj : m = j <;> simp [replace, lookup, hj]
    · by_cases hj : m = j
      · subst hj
        simp [replace, lookup, hm, Ne.symm hm]
      · simp [replace, lookup, hm, hj, ih]

theorem lookup_filter_ne (l : List (κ × α)) (k j : κ) :
    lookup (l.filter fun p => p.1 ≠ k) j = if k = j then none else lookup l j := by
  induction l with
  | nil => simp [lookup]
  | cons p rest ih =>
    obtain ⟨m, b⟩ := p
    by_cases hm : m = k
    · subst hm
      by_cases hj : m = j <;> simp_all [lookup]
    · by_cases hj : m = j
      · subst hj
        simp [lookup, hm, Ne.symm hm]
      · simp_all [lookup]

@[simp] theorem get?_empty (k : κ) : (∅ : Table κ α).get? k = none := rfl

@[simp] theorem get?_insert (t : Table κ α) (k j : κ) (a : α) :
    (t.insert k a).get? j = if k = j then some a else t.get? j :=
  lookup_replace t.entries k j a

@[simp] theorem get?_erase (t : Table κ α) (k j : κ) :
    (t.erase k).get? j = if k = j then none else t.get? j :=
  lookup_filter_ne t.entries k j

end Table

end Dataflow
