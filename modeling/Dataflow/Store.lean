import Dataflow.NameMap
import Dataflow.Table

/-!
# Two-level store

A `Store` keeps values under an id and a name. An id is present only while a value is stored under
it: erasing the last name of an id erases the id.
-/

namespace Dataflow

structure Store (α : Type) where
  shelves : Table String (NameMap α)

namespace Store

variable {α : Type}

instance : EmptyCollection (Store α) := ⟨⟨∅⟩⟩

/-- Everything stored under `id`, in the order of the names. -/
def entries (s : Store α) (id : String) : NameMap α := (s.shelves.get? id).getD []

def get? (s : Store α) (id name : String) : Option α := (s.entries id).get? name

def set (s : Store α) (id name : String) (a : α) : Store α :=
  ⟨s.shelves.insert id ((s.entries id).insert name a)⟩

/-- Leaves only `shelf` under `id`, and no id at all when `shelf` is empty. -/
def settle (s : Store α) (id : String) (shelf : NameMap α) : Store α :=
  ⟨if shelf.isEmpty then s.shelves.erase id else s.shelves.insert id shelf⟩

def erase (s : Store α) (id name : String) : Store α := s.settle id ((s.entries id).erase name)

/-- Erases one value and hands it back. -/
def delete (s : Store α) (id name : String) : Option α × Store α :=
  (s.get? id name, s.erase id name)

def eraseAll (s : Store α) (id : String) : Store α := ⟨s.shelves.erase id⟩

/-- Erases every value of `id` and hands them back in the order of their names. -/
def deleteAll (s : Store α) (id : String) : NameMap α × Store α := (s.entries id, s.eraseAll id)

/-- Overwrites a value that is there, and hands back the old one. -/
def replace (s : Store α) (id name : String) (a : α) : Option α × Store α :=
  match s.get? id name with
  | some old => (some old, s.set id name a)
  | none => (none, s)

def containsId (s : Store α) (id : String) : Bool := s.shelves.contains id

/-- The number of ids. -/
def size (s : Store α) : Nat := s.shelves.size

def isEmpty (s : Store α) : Bool := s.size == 0

theorem entries_set (s : Store α) (id name : String) (a : α) (i : String) :
    (s.set id name a).entries i = if id = i then (s.entries id).insert name a else s.entries i := by
  by_cases h : id = i <;> simp [set, entries, h]

theorem entries_settle (s : Store α) (id : String) (shelf : NameMap α) (i : String) :
    (s.settle id shelf).entries i = if id = i then shelf else s.entries i := by
  by_cases h : id = i
  · cases shelf <;> simp [settle, entries, h]
  · by_cases he : shelf.isEmpty <;> simp [settle, entries, h, he]

theorem entries_eraseAll (s : Store α) (id i : String) :
    (s.eraseAll id).entries i = if id = i then [] else s.entries i := by
  by_cases h : id = i <;> simp [eraseAll, entries, h]

@[simp] theorem get?_empty (id name : String) : (∅ : Store α).get? id name = none := rfl

@[simp] theorem get?_set (s : Store α) (id name : String) (a : α) (i n : String) :
    (s.set id name a).get? i n = if id = i ∧ name = n then some a else s.get? i n := by
  by_cases h : id = i
  · subst h
    simp [get?, entries_set]
  · simp [get?, entries_set, h]

@[simp] theorem get?_erase (s : Store α) (id name i n : String) :
    (s.erase id name).get? i n = if id = i ∧ name = n then none else s.get? i n := by
  by_cases h : id = i
  · subst h
    simp [get?, erase, entries_settle]
  · simp [get?, erase, entries_settle, h]

@[simp] theorem get?_eraseAll (s : Store α) (id i n : String) :
    (s.eraseAll id).get? i n = if id = i then none else s.get? i n := by
  by_cases h : id = i
  · simp [get?, entries_eraseAll, h, NameMap.get?]
  · simp [get?, entries_eraseAll, h]

end Store

end Dataflow
