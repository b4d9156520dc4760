import Dataflow.Proofs.SideBySide
import Dataflow.Proofs.TidyStores
import Mathlib.Data.String.Basic
import Mathlib.Tactic.SplitIfs

/-!
# Stores as flat maps

Seen from outside a store is a map from pairs of an id and a name. The two levels show only in what is
listed: the names of an id come in the order of their bytes, and an id counts as long as a name is left
under it.
-/

namespace Dataflow

namespace NameMap

/-- The bytes that write a name in UTF-8. -/
def bytes (n : String) : List UInt8 := n.toByteArray.data.toList

lemma bytes_eq (n : String) : bytes n = n.toList.flatMap String.utf8EncodeChar := by
  rw [bytes, ← String.utf8Encode_toList, List.utf8Encode, List.toList_data_toByteArray]

lemma ofNat_lt_ofNat {x y : Nat} (hx : x < 256) (hy : y < 256) :
    UInt8.ofNat x < UInt8.ofNat y ↔ x < y := by
  rw [UInt8.lt_iff_toNat_lt, UInt8.toNat_ofNat', UInt8.toNat_ofNat', Nat.mod_eq_of_lt hx,
    Nat.mod_eq_of_lt hy]

lemma ofNat_eq_ofNat {x y : Nat} (hx : x < 256) (hy : y < 256) :
    UInt8.ofNat x = UInt8.ofNat y ↔ x = y := by
  rw [← UInt8.toNat_inj, UInt8.toNat_ofNat', UInt8.toNat_ofNat', Nat.mod_eq_of_lt hx,
    Nat.mod_eq_of_lt hy]

/-- The first byte grows with the number of bytes, and those behind it are digits to base 64. -/
lemma encode_lt_encode {c d : Char} (h : c < d) (l l' : List UInt8) :
    String.utf8EncodeChar c ++ l < String.utf8EncodeChar d ++ l' := by
  have hlt : c.val.toNat < d.val.toNat := h
  have hd : d.val.toNat < 1114112 := by
    rcases d.valid with hv | hv
    · omega
    · exact hv.2
  unfold String.utf8EncodeChar
  generalize c.val.toNat = x at hlt
  generalize d.val.toNat = y at hlt hd
  have hx : x / 4096 = x / 64 / 64 ∧ x / 262144 = x / 4096 / 64 ∧ x / 262144 % 8 = x / 262144 := by
    omega
  have hy : y / 4096 = y / 64 / 64 ∧ y / 262144 = y / 4096 / 64 ∧ y / 262144 % 8 = y / 262144 := by
    omega
  dsimp only
  split_ifs <;>
    simp only [List.cons_append, List.nil_append, List.cons_lt_cons_iff] <;>
    simp (disch := omega) only [ofNat_lt_ofNat, ofNat_eq_ofNat] <;>
    omega

lemma flatMap_encode_lt {l l' : List Char} (h : l < l') :
    l.flatMap String.utf8EncodeChar < l'.flatMap String.utf8EncodeChar := by
  induction l generalizing l' with
  | nil =>
    cases l' with
    | nil => exact absurd h (List.lt_irrefl [])
    | cons d l' =>
      rw [List.flatMap_nil, List.flatMap_cons]
      cases he : String.utf8EncodeChar d with
      | nil => exact absurd he String.utf8EncodeChar_ne_nil
      | cons b bs => exact List.nil_lt_cons b _
  | cons c l ih =>
    cases l' with
    | nil => cases h
    | cons d l' =>
      rw [List.flatMap_cons, List.flatMap_cons]
      rcases List.cons_lt_cons_iff.mp h with hcd | ⟨rfl, hl⟩
      · exact encode_lt_encode hcd _ _
      · exact List.append_left_lt (ih hl)

/-- Names are in the order of their bytes. -/
lemma lt_iff_bytes_lt {m n : String} : m < n ↔ bytes m < bytes n := by
  have hmono : ∀ {m n : String}, m < n → bytes m < bytes n := by
    intro m n h
    rw [bytes_eq, bytes_eq]
    exact flatMap_encode_lt (String.lt_iff_toList_lt.mp h)
  refine ⟨hmono, fun h => ?_⟩
  by_cases heq : m = n
  · subst heq
    exact absurd h (List.lt_irrefl _)
  · by_cases hlt : m < n
    · exact hlt
    · exact absurd h (Std.Asymm.asymm _ _ (hmono (name_lt_of_not_lt heq hlt)))

lemma Sorted.mem_iff {α : Type} {m : NameMap α} (h : m.Sorted) {n : String} {a : α} :
    (n, a) ∈ m ↔ m.get? n = some a :=
  ⟨fun hm => h.get?_of_mem hm, mem_of_get?⟩

end NameMap

/-- A map from pairs of an id and a name. -/
abbrev Flat (α : Type) := String × String → Option α

namespace Flat

variable {α : Type}

def put (m : Flat α) (id name : String) (a : Option α) : Flat α :=
  fun k => if (id, name) = k then a else m k

def drop (m : Flat α) (id : String) : Flat α := fun k => if id = k.1 then none else m k

/-- Whether something is stored under the id. -/
def Has (m : Flat α) (id : String) : Prop := ∃ name a, m (id, name) = some a

/-- The list has every pair of the id once, in the order of the bytes of the names, and no other. -/
structure Lists (m : Flat α) (id : String) (l : List (String × α)) : Prop where
  ordered : l.Pairwise fun p q => NameMap.bytes p.1 < NameMap.bytes q.1
  mem_iff : ∀ name a, (name, a) ∈ l ↔ m (id, name) = some a

end Flat

namespace Store

variable {α : Type}

/-- All that can be asked of the store is answered as by the flat map, what would be erased with an id
is what is listed under it, and no id is kept without a name. -/
structure Shows (s : Store α) (m : Flat α) : Prop where
  get? : ∀ id name, s.get? id name = m (id, name)
  entries : ∀ id, m.Lists id (s.entries id)
  deleteAll : ∀ id, (s.deleteAll id).1 = s.entries id
  containsId : ∀ id, s.containsId id = true ↔ m.Has id
  size : ∃ ids : List String, ids.Nodup ∧ (∀ id, id ∈ ids ↔ m.Has id) ∧ s.size = ids.length
  isEmpty : s.isEmpty = true ↔ ∀ id, ¬m.Has id
  filled : ∀ p ∈ s.shelves.entries, p.2 ≠ []

lemma Tidy.lists {s : Store α} (h : s.Tidy) {m : Flat α}
    (hm : ∀ id name, s.get? id name = m (id, name)) (id : String) : m.Lists id (s.entries id) where
  ordered := (List.pairwise_map.mp (h.entries_sorted id)).imp NameMap.lt_iff_bytes_lt.mp
  mem_iff := fun name a => by
    rw [← hm]
    exact (h.entries_sorted id).mem_iff

/-- An id is listed as long as something is stored under it. -/
lemma Tidy.mem_keys {s : Store α} (h : s.Tidy) (id : String) :
    id ∈ s.shelves.keys ↔ ∃ name a, s.get? id name = some a := by
  constructor
  · intro hid
    obtain ⟨p, hp, rfl⟩ := List.mem_map.mp hid
    obtain ⟨q, hq⟩ := List.exists_mem_of_ne_nil p.2 (h.filled p hp)
    exact ⟨q.1, q.2, h.get?_of_mem hp hq⟩
  · rintro ⟨name, a, ha⟩
    unfold Store.get? Store.entries at ha
    cases hs : s.shelves.get? id with
    | none =>
      rw [hs] at ha
      cases ha
    | some shelf => exact List.mem_map.mpr ⟨(id, shelf), Table.mem_of_lookup hs, rfl⟩

lemma contains_iff (s : Store α) (id : String) :
    s.containsId id = true ↔ id ∈ s.shelves.keys := by
  unfold containsId Table.contains
  constructor
  · intro h
    obtain ⟨shelf, hs⟩ := Option.isSome_iff_exists.mp h
    exact List.mem_map.mpr ⟨(id, shelf), Table.mem_of_lookup hs, rfl⟩
  · intro h
    obtain ⟨p, hp, rfl⟩ := List.mem_map.mp h
    cases hs : s.shelves.get? p.1 with
    | some shelf => rfl
    | none =>
      rw [← Table.filter_ne_eq_self hs] at hp
      simp at hp

/-- A tidy store shows the map of what can be looked up in it. -/
lemma Tidy.shows {s : Store α} (h : s.Tidy) {m : Flat α}
    (hm : ∀ id name, s.get? id name = m (id, name)) : s.Shows m := by
  have hkeys : ∀ id, id ∈ s.shelves.keys ↔ m.Has id := by
    intro id
    rw [h.mem_keys id]
    simp only [hm, Flat.Has]
  refine ⟨hm, h.lists hm, fun _ => rfl, fun id => (s.contains_iff id).trans (hkeys id),
    ⟨s.shelves.keys, h.ids, hkeys, (List.length_map _).symm⟩, ?_, h.filled⟩
  constructor
  · intro he id hid
    have hnil : s.shelves.entries = [] := by simpa [Store.isEmpty, Store.size, Table.size] using he
    have hin := (hkeys id).mpr hid
    rw [Table.keys, hnil] at hin
    cases hin
  · intro hn
    exact h.isEmpty fun id name => Option.eq_none_iff_forall_ne_some.mpr fun a ha =>
      hn id ⟨name, a, (hm id name).symm.trans ha⟩

end Store

/-- What can be done to a store. -/
inductive Op (α : Type) where
  | set (id name : String) (a : α)
  /-- Overwrites a value that is there. -/
  | replace (id name : String) (a : α)
  | delete (id name : String)
  | deleteAll (id : String)

/-- What comes back. -/
inductive Answer (α : Type) where
  | nothing
  | value (a : Option α)
  | values (l : List (String × α))

/-- What can be done to stores that are given by their places. A copy is put at the end of them. -/
inductive Command (α : Type) where
  | on (i : Nat) (op : Op α)
  | copy (i : Nat)

variable {α : Type}

namespace Op

def run (s : Store α) : Op α → Answer α × Store α
  | .set id name a => (.nothing, s.set id name a)
  | .replace id name a => (.value (s.replace id name a).1, (s.replace id name a).2)
  | .delete id name => (.value (s.delete id name).1, (s.delete id name).2)
  | .deleteAll id => (.values (s.deleteAll id).1, (s.deleteAll id).2)

/-- What the operation makes of a flat map. -/
def after (m : Flat α) : Op α → Flat α
  | .set id name a => m.put id name (some a)
  | .replace id name a => if (m (id, name)).isSome then m.put id name (some a) else m
  | .delete id name => m.put id name none
  | .deleteAll id => m.drop id

/-- The answer is right for a store that shows the flat map. -/
def Expects (m : Flat α) (answer : Answer α) : Op α → Prop
  | .set _ _ _ => answer = .nothing
  | .replace id name _ | .delete id name => answer = .value (m (id, name))
  | .deleteAll id => ∃ l, answer = .values l ∧ m.Lists id l

/-- A tidy store stays tidy, and what can be looked up in it changes as in a flat map. -/
lemma run_spec {s : Store α} {m : Flat α} (ht : s.Tidy)
    (hm : ∀ id name, s.get? id name = m (id, name)) (op : Op α) :
    (op.run s).2.Tidy ∧ (∀ id name, (op.run s).2.get? id name = op.after m (id, name)) ∧
      op.Expects m (op.run s).1 := by
  cases op with
  | set id name a =>
    refine ⟨ht.set id name a, fun i n => ?_, rfl⟩
    simp [run, after, Flat.put, hm]
  | replace id name a =>
    have hget := hm id name
    cases hs : s.get? id name with
    | none =>
      have hrun : s.replace id name a = (none, s) := by simp [Store.replace, hs]
      rw [hs] at hget
      exact ⟨by simpa [run, hrun] using ht, fun i n => by simp [run, hrun, after, ← hget, hm],
        by simp [run, hrun, Expects, ← hget]⟩
    | some old =>
      have hrun : s.replace id name a = (some old, s.set id name a) := by simp [Store.replace, hs]
      rw [hs] at hget
      exact ⟨by simpa [run, hrun] using ht.set id name a,
        fun i n => by simp [run, hrun, after, ← hget, Flat.put, hm],
        by simp [run, hrun, Expects, ← hget]⟩
  | delete id name =>
    refine ⟨ht.erase id name, fun i n => ?_, congrArg Answer.value (hm id name)⟩
    simp [run, after, Store.delete, Flat.put, hm]
  | deleteAll id =>
    refine ⟨ht.eraseAll id, fun i n => ?_, s.entries id, rfl, ht.lists hm id⟩
    simp [run, after, Store.deleteAll, Flat.drop, hm]

end Op

namespace Command

def run (stores : List (Store α)) : Command α → Answer α × List (Store α)
  | .on i op =>
    match stores[i]? with
    | some s => ((op.run s).1, stores.set i (op.run s).2)
    | none => (.nothing, stores)
  | .copy i => (.nothing, stores ++ stores[i]?.toList)

/-- What the command makes of flat maps. -/
def after (maps : List (Flat α)) : Command α → List (Flat α)
  | .on i op =>
    match maps[i]? with
    | some m => maps.set i (op.after m)
    | none => maps
  | .copy i => maps ++ maps[i]?.toList

/-- The answer is right for stores that show the flat maps. -/
def Expects (maps : List (Flat α)) (answer : Answer α) : Command α → Prop
  | .on i op =>
    match maps[i]? with
    | some m => op.Expects m answer
    | none => answer = .nothing
  | .copy _ => answer = .nothing

/-- Carries out the commands one after the other. -/
def runAll (stores : List (Store α)) : List (Command α) → List (Answer α) × List (Store α)
  | [] => ([], stores)
  | c :: rest =>
    let (answer, stores) := c.run stores
    let (answers, stores) := runAll stores rest
    (answer :: answers, stores)

def afterAll (maps : List (Flat α)) (commands : List (Command α)) : List (Flat α) :=
  commands.foldl after maps

/-- All answers are right, each for the flat maps that there are by then. -/
def ExpectsAll : List (Flat α) → List (Command α) → List (Answer α) → Prop
  | _, [], answers => answers = []
  | _, _ :: _, [] => False
  | maps, c :: rest, answer :: answers =>
    c.Expects maps answer ∧ ExpectsAll (c.after maps) rest answers

end Command

namespace Store

/-- The store is tidy, and in it can be looked up what is in the flat map. -/
def Holds (s : Store α) (m : Flat α) : Prop := s.Tidy ∧ ∀ id name, s.get? id name = m (id, name)

end Store

open List (Forall₂)

namespace Command

lemma run_spec {stores : List (Store α)} {maps : List (Flat α)}
    (h : Forall₂ Store.Holds stores maps) (c : Command α) :
    Forall₂ Store.Holds (c.run stores).2 (c.after maps) ∧ c.Expects maps (c.run stores).1 := by
  cases c with
  | on i op =>
    have hplace := forall₂_getElem? h i
    cases hs : stores[i]? with
    | none =>
      rw [hs] at hplace
      cases hm : maps[i]? with
      | none =>
        simp only [run, after, Expects, hs, hm]
        exact ⟨h, trivial⟩
      | some m =>
        rw [hm] at hplace
        cases hplace
    | some s =>
      rw [hs] at hplace
      cases hm : maps[i]? with
      | none =>
        rw [hm] at hplace
        cases hplace
      | some m =>
        rw [hm] at hplace
        cases hplace with
        | some hholds =>
          obtain ⟨ht, hget, hexpects⟩ := op.run_spec hholds.1 hholds.2
          simp only [run, after, Expects, hs, hm]
          exact ⟨forall₂_set h i ⟨ht, hget⟩, hexpects⟩
  | copy i => exact ⟨List.rel_append h (forall₂_toList (forall₂_getElem? h i)), rfl⟩

lemma runAll_spec {stores : List (Store α)} {maps : List (Flat α)}
    (h : Forall₂ Store.Holds stores maps) (commands : List (Command α)) :
    Forall₂ Store.Holds (runAll stores commands).2 (afterAll maps commands) ∧
      ExpectsAll maps commands (runAll stores commands).1 := by
  induction commands generalizing stores maps with
  | nil => exact ⟨h, rfl⟩
  | cons c rest ih =>
    obtain ⟨hstores, hexpects⟩ := c.run_spec h
    obtain ⟨hlast, hrest⟩ := ih hstores
    exact ⟨hlast, hexpects, hrest⟩

end Command

/-- Whatever is set, replaced, deleted and copied, beginning with one empty store: every store shows the
flat map that the same commands make of an empty one, and every answer on the way is right for it. -/
theorem Store.shows_flat_maps (commands : List (Command α)) :
    Forall₂ Shows (Command.runAll [∅] commands).2 (Command.afterAll [fun _ => none] commands) ∧
      Command.ExpectsAll [fun _ => none] commands (Command.runAll [∅] commands).1 := by
  have hempty : (∅ : Store α).Holds fun _ => none := ⟨.empty, fun _ _ => rfl⟩
  obtain ⟨hstores, hexpects⟩ := Command.runAll_spec (.cons hempty .nil) commands
  exact ⟨hstores.imp fun s m h => h.1.shows h.2, hexpects⟩

end Dataflow
