import Dataflow.Store
import Mathlib.Data.List.Nodup
import Mathlib.Tactic.Lemma

/-!
# Tidy stores

A store that only its own operations have changed lists every id once and the names of an id in
order, and it lists no id without a name. What is listed in a tidy store is what can be looked up,
so entries that an operation passes over stay listed where they were.
-/

namespace Dataflow

/-- Puts the values through `f`, and leaves out those that `f` has nothing for. -/
def trim {κ α : Type} (f : α → Option α) (l : List (κ × α)) : List (κ × α) :=
  l.filterMap fun p => (f p.2).map fun a => (p.1, a)

section Trim

variable {κ α : Type} {f : α → Option α}

lemma trim_cons (f : α → Option α) (p : κ × α) (l : List (κ × α)) :
    trim f (p :: l) = (match f p.2 with
      | some a => (p.1, a) :: trim f l
      | none => trim f l) := by
  unfold trim
  cases h : f p.2 <;> simp [h]

lemma trim_eq_self {l : List (κ × α)} (h : ∀ p ∈ l, f p.2 = some p.2) : trim f l = l := by
  induction l with
  | nil => rfl
  | cons p l ih =>
    rw [trim_cons, h p List.mem_cons_self, ih fun q hq => h q (List.mem_cons_of_mem p hq)]

/-- An entry that `f` has nothing for can as well be absent. -/
lemma trim_filter_ne [DecidableEq κ] {l : List (κ × α)} {k : κ}
    (h : ∀ p ∈ l, p.1 = k → f p.2 = none) : trim f (l.filter fun p => p.1 ≠ k) = trim f l := by
  induction l with
  | nil => rfl
  | cons p l ih =>
    have hl := ih fun q hq => h q (List.mem_cons_of_mem p hq)
    by_cases hp : p.1 = k
    · rw [List.filter_cons_of_neg (by simpa using hp), trim_cons, h p List.mem_cons_self hp]
      exact hl
    · rw [List.filter_cons_of_pos (by simpa using hp), trim_cons, trim_cons, hl]

end Trim

namespace Table

variable {κ α : Type} [DecidableEq κ]

lemma mem_of_lookup {l : List (κ × α)} {k : κ} {a : α} (h : lookup l k = some a) :
    (k, a) ∈ l := by
  induction l with
  | nil => cases h
  | cons p l ih =>
    obtain ⟨j, b⟩ := p
    by_cases hj : j = k
    · subst hj
      simp only [lookup, if_true, Option.some.injEq] at h
      subst h
      exact List.mem_cons_self
    · simp only [lookup, if_neg hj] at h
      exact List.mem_cons_of_mem _ (ih h)

lemma lookup_of_mem {l : List (κ × α)} (hn : (l.map Prod.fst).Nodup) {p : κ × α} (hp : p ∈ l) :
    lookup l p.1 = some p.2 := by
  induction l with
  | nil => cases hp
  | cons q l ih =>
    rw [List.map_cons, List.nodup_cons] at hn
    rcases List.mem_cons.mp hp with rfl | hp'
    · simp [lookup]
    · have hq : q.1 ≠ p.1 := fun he => hn.1 (he ▸ List.mem_map_of_mem hp')
      obtain ⟨j, b⟩ := q
      exact (if_neg hq).trans (ih hn.2 hp')

lemma mem_replace {l : List (κ × α)} {k : κ} {a : α} {p : κ × α} (h : p ∈ replace l k a) :
    p = (k, a) ∨ p ∈ l := by
  induction l with
  | nil => exact .inl (List.mem_singleton.mp h)
  | cons q l ih =>
    obtain ⟨j, b⟩ := q
    by_cases hj : j = k
    · simp only [replace, if_pos hj] at h
      rcases List.mem_cons.mp h with hp | hp
      · exact .inl hp
      · exact .inr (List.mem_cons_of_mem _ hp)
    · simp only [replace, if_neg hj] at h
      rcases List.mem_cons.mp h with rfl | hp
      · exact .inr List.mem_cons_self
      · rcases ih hp with hp | hp
        · exact .inl hp
        · exact .inr (List.mem_cons_of_mem _ hp)

lemma nodup_replace {l : List (κ × α)} (h : (l.map Prod.fst).Nodup) (k : κ) (a : α) :
    ((replace l k a).map Prod.fst).Nodup := by
  induction l with
  | nil => simp [replace]
  | cons p l ih =>
    obtain ⟨j, b⟩ := p
    rw [List.map_cons, List.nodup_cons] at h
    by_cases hj : j = k
    · subst hj
      simpa [replace] using h
    · simp only [replace, if_neg hj, List.map_cons, List.nodup_cons]
      refine ⟨fun hm => ?_, ih h.2⟩
      obtain ⟨q, hq, hqj⟩ := List.mem_map.mp hm
      rcases mem_replace hq with rfl | hq
      · exact hj hqj.symm
      · exact h.1 (List.mem_map.mpr ⟨q, hq, hqj⟩)

lemma filter_ne_eq_self {l : List (κ × α)} {k : κ} (h : lookup l k = none) :
    l.filter (fun p => p.1 ≠ k) = l := by
  induction l with
  | nil => rfl
  | cons p l ih =>
    obtain ⟨j, b⟩ := p
    by_cases hj : j = k
    · simp [lookup, hj] at h
    · simp only [lookup, if_neg hj] at h
      rw [List.filter_cons_of_pos (by simpa using hj), ih h]

lemma filter_ne_replace (l : List (κ × α)) (k : κ) (a : α) :
    (replace l k a).filter (fun p => p.1 ≠ k) = l.filter fun p => p.1 ≠ k := by
  induction l with
  | nil => simp [replace]
  | cons p l ih =>
    obtain ⟨j, b⟩ := p
    by_cases hj : j = k
    · simp [replace, hj]
    · simp only [replace, if_neg hj]
      rw [List.filter_cons_of_pos (by simpa using hj), List.filter_cons_of_pos (by simpa using hj),
        ih]

/-- A value that `f` turns into the same as the one before it makes no difference. -/
lemma trim_replace {f : α → Option α} {l : List (κ × α)} {k : κ} {a : α}
    (h : f a = (lookup l k).bind f) : trim f (replace l k a) = trim f l := by
  induction l with
  | nil =>
    have ha : f a = none := h
    rw [replace, trim_cons, ha]
  | cons p l ih =>
    obtain ⟨j, b⟩ := p
    by_cases hj : j = k
    · subst hj
      have ha : f a = f b := by simpa [lookup] using h
      simp only [replace, if_true]
      rw [trim_cons, trim_cons, ha]
    · simp only [lookup, if_neg hj] at h
      simp only [replace, if_neg hj]
      rw [trim_cons, trim_cons, ih h]

end Table

namespace NameMap

variable {α : Type}

lemma Sorted.tail {p : String × α} {m : NameMap α} (h : Sorted (p :: m)) : Sorted m :=
  (List.pairwise_cons.mp h).2

lemma Sorted.lt {p q : String × α} {m : NameMap α} (h : Sorted (p :: m)) (hq : q ∈ m) :
    p.1 < q.1 :=
  (List.pairwise_cons.mp h).1 q.1 (List.mem_map_of_mem hq)

lemma Sorted.get?_of_mem {m : NameMap α} (h : m.Sorted) {p : String × α} (hp : p ∈ m) :
    m.get? p.1 = some p.2 := by
  induction m with
  | nil => cases hp
  | cons q m ih =>
    rcases List.mem_cons.mp hp with rfl | hp
    · simp [get?]
    · have hq : q.1 ≠ p.1 := String.ne_of_lt (h.lt hp)
      simpa [get?, hq] using ih h.tail hp

lemma mem_of_get? {m : NameMap α} {n : String} {a : α} (h : m.get? n = some a) :
    (n, a) ∈ m := by
  induction m with
  | nil => cases h
  | cons q m ih =>
    obtain ⟨k, b⟩ := q
    by_cases hk : k = n
    · subst hk
      simp only [get?, if_true, Option.some.injEq] at h
      subst h
      exact List.mem_cons_self
    · simp only [get?, if_neg hk] at h
      exact List.mem_cons_of_mem _ (ih h)

/-- Names are in order, so what comes after a name is not there before it. -/
lemma Sorted.get?_of_lt {q : String × α} {m : NameMap α} (h : Sorted (q :: m)) {n : String}
    (hn : n < q.1) : get? (q :: m) n = none := by
  cases hg : get? (q :: m) n with
  | none => rfl
  | some a =>
    rcases List.mem_cons.mp (mem_of_get? hg) with heq | hm
    · subst heq
      exact absurd hn (String.lt_irrefl n)
    · exact absurd (String.lt_trans hn (h.lt hm)) (String.lt_irrefl n)

lemma insert_ne_nil (m : NameMap α) (n : String) (a : α) : m.insert n a ≠ [] := by
  cases m with
  | nil => simp [insert]
  | cons p m =>
    obtain ⟨k, b⟩ := p
    unfold insert
    by_cases hk : n = k
    · simp [hk]
    · by_cases hlt : n < k <;> simp [hk, hlt]

lemma trim_insert {f : α → Option α} {m : NameMap α} (hm : m.Sorted) {n : String} {a : α}
    (h : f a = (m.get? n).bind f) : trim f (m.insert n a) = trim f m := by
  induction m with
  | nil =>
    have ha : f a = none := h
    rw [insert, trim_cons, ha]
  | cons p m ih =>
    by_cases hk : n = p.1
    · have ha : f a = f p.2 := by simpa [get?, hk] using h
      simp only [insert, if_pos hk]
      rw [trim_cons, trim_cons, ha, hk]
    · by_cases hl : n < p.1
      · rw [hm.get?_of_lt hl] at h
        have ha : f a = none := h
        simp only [insert, if_neg hk, if_pos hl]
        rw [trim_cons, ha]
      · simp only [get?, if_neg (Ne.symm hk)] at h
        simp only [insert, if_neg hk, if_neg hl]
        rw [trim_cons, trim_cons, ih hm.tail h]

end NameMap

namespace Store

variable {α : Type}

structure Tidy (s : Store α) : Prop where
  ids : s.shelves.keys.Nodup
  sorted : ∀ p ∈ s.shelves.entries, NameMap.Sorted p.2
  filled : ∀ p ∈ s.shelves.entries, p.2 ≠ []

/-- Every value in the store, under its id and name. -/
def listing (s : Store α) : List ((String × String) × α) :=
  s.shelves.entries.flatMap fun p => p.2.map fun q => ((p.1, q.1), q.2)

namespace Tidy

variable {s : Store α}

lemma empty : (∅ : Store α).Tidy :=
  ⟨List.nodup_nil, fun _ hp => (List.not_mem_nil hp).elim, fun _ hp => (List.not_mem_nil hp).elim⟩

lemma entries_sorted (h : s.Tidy) (id : String) : NameMap.Sorted (s.entries id) := by
  unfold entries
  cases hs : s.shelves.get? id with
  | none => exact NameMap.sorted_nil
  | some m => exact h.sorted (id, m) (Table.mem_of_lookup hs)

lemma insert (h : s.Tidy) (id : String) {m : NameMap α} (hm : m.Sorted) (hne : m ≠ []) :
    Tidy ⟨s.shelves.insert id m⟩ := by
  refine ⟨Table.nodup_replace h.ids id m, fun p hp => ?_, fun p hp => ?_⟩
  · rcases Table.mem_replace hp with rfl | hp
    · exact hm
    · exact h.sorted p hp
  · rcases Table.mem_replace hp with rfl | hp
    · exact hne
    · exact h.filled p hp

lemma eraseAll (h : s.Tidy) (id : String) : (s.eraseAll id).Tidy := by
  have hsub : (s.shelves.erase id).entries.Sublist s.shelves.entries := List.filter_sublist
  exact ⟨h.ids.sublist (hsub.map Prod.fst), fun p hp => h.sorted p (hsub.mem hp),
    fun p hp => h.filled p (hsub.mem hp)⟩

lemma set (h : s.Tidy) (id name : String) (a : α) : (s.set id name a).Tidy :=
  h.insert id ((h.entries_sorted id).insert name a) (NameMap.insert_ne_nil _ name a)

lemma settle (h : s.Tidy) (id : String) {m : NameMap α} (hm : m.Sorted) :
    (s.settle id m).Tidy := by
  unfold Store.settle
  by_cases he : m.isEmpty
  · rw [if_pos he]
    exact h.eraseAll id
  · rw [if_neg he]
    exact h.insert id hm fun hnil => he (List.isEmpty_iff.mpr hnil)

lemma erase (h : s.Tidy) (id name : String) : (s.erase id name).Tidy :=
  h.settle id ((h.entries_sorted id).erase name)

lemma get?_of_mem (h : s.Tidy) {p : String × NameMap α} (hp : p ∈ s.shelves.entries)
    {q : String × α} (hq : q ∈ p.2) : s.get? p.1 q.1 = some q.2 := by
  have hget : s.shelves.get? p.1 = some p.2 := Table.lookup_of_mem h.ids hp
  have hentries : s.entries p.1 = p.2 := by rw [entries, hget, Option.getD_some]
  rw [get?, hentries]
  exact (h.sorted p hp).get?_of_mem hq

/-- Where nothing is found there is nothing. -/
lemma isEmpty (h : s.Tidy) (hn : ∀ id name, s.get? id name = none) : s.isEmpty = true := by
  have hnil : s.shelves.entries = [] := by
    refine List.eq_nil_iff_forall_not_mem.mpr fun p hp => ?_
    obtain ⟨q, hq⟩ := List.exists_mem_of_ne_nil p.2 (h.filled p hp)
    have hsome := h.get?_of_mem hp hq
    rw [hn] at hsome
    cases hsome
  unfold Store.isEmpty Store.size Table.size
  rw [hnil]
  rfl

lemma mem_listing (h : s.Tidy) {id name : String} {a : α} :
    ((id, name), a) ∈ s.listing ↔ s.get? id name = some a := by
  constructor
  · intro hm
    obtain ⟨p, hp, hpm⟩ := List.mem_flatMap.mp hm
    obtain ⟨q, hq, heq⟩ := List.mem_map.mp hpm
    cases heq
    exact h.get?_of_mem hp hq
  · intro hg
    unfold get? entries at hg
    cases hs : s.shelves.get? id with
    | none =>
      rw [hs] at hg
      cases hg
    | some m =>
      rw [hs] at hg
      exact List.mem_flatMap.mpr ⟨(id, m), Table.mem_of_lookup hs,
        List.mem_map.mpr ⟨(name, a), NameMap.mem_of_get? hg, rfl⟩⟩

/-- No place is listed twice. -/
lemma nodup_listing (h : s.Tidy) : (s.listing.map Prod.fst).Nodup := by
  have hplaces : s.listing.map Prod.fst =
      s.shelves.entries.flatMap fun p => p.2.names.map fun n => (p.1, n) := by
    simp [listing, NameMap.names, List.map_flatMap, Function.comp_def]
  rw [hplaces, List.nodup_flatMap]
  constructor
  · intro p hp
    have hn : p.2.names.Nodup := (h.sorted p hp).imp String.ne_of_lt
    exact hn.map fun _ _ heq => (Prod.mk.inj heq).2
  · refine (List.pairwise_map.mp h.ids).imp ?_
    intro p q hpq x hx hy
    obtain ⟨n, -, rfl⟩ := List.mem_map.mp hx
    obtain ⟨m, -, heq⟩ := List.mem_map.mp hy
    exact hpq (Prod.mk.inj heq).1.symm

end Tidy

end Store

end Dataflow
