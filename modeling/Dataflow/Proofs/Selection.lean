import Dataflow.Proofs.Rolls

/-!
# What one delivery selects

A delivery goes through the registrations of its slot one by one and writes down what it has selected
as it goes. It comes to the same as looking at each subscriber of the slot once, in the order of the
first registration, by the records as they were before.
-/

namespace Dataflow

namespace Engine

/-- Repetitions go the same whether others are taken out before or after. -/
lemma eraseDups_filter (q : Nat → Bool) (l : List Nat) :
    (l.filter q).eraseDups = l.eraseDups.filter q := by
  induction hn : l.length using Nat.strongRecOn generalizing l with
  | ind n ih =>
    cases l with
    | nil => rfl
    | cons a t =>
      have hlt : (t.filter fun b => !b == a).length < n := by
        have hle := List.length_filter_le (fun b => !b == a) t
        rw [List.length_cons] at hn
        omega
      have hrest := ih _ hlt (t.filter fun b => !b == a) rfl
      rw [List.eraseDups_cons]
      by_cases ha : q a
      · rw [List.filter_cons_of_pos ha, List.filter_cons_of_pos ha, List.eraseDups_cons, ← hrest,
          List.filter_filter, List.filter_filter]
        simp only [Bool.and_comm]
      · rw [List.filter_cons_of_neg ha, List.filter_cons_of_neg ha, ← hrest, List.filter_filter]
        congr 1
        refine List.filter_congr fun b _ => ?_
        by_cases hb : b = a
        · subst hb
          simp [ha]
        · simp [hb]

/-- Whoever has a record that does not show `r` or the same is picked, at its first registration. -/
lemma pick_eq (p : Policy) (r : Result) (l : List Nat) (d : Table Nat Delivered) :
    (pick p r l d).1 = l.eraseDups.filter fun c => (d.get? c).any fun entry => !entry.has p r := by
  induction l generalizing d with
  | nil => rfl
  | cons c rest ih =>
    rw [List.eraseDups_cons, eraseDups_filter]
    -- what is left of `c` further on is passed over, be it by its record or by the new entry
    have hskip : ∀ {q q' : Nat → Bool}, q' c = false → (∀ b, b ≠ c → q' b = q b) →
        (rest.eraseDups.filter fun b => !b == c).filter q = rest.eraseDups.filter q' := by
      intro q q' hc hq
      rw [List.filter_filter]
      refine List.filter_congr fun b _ => ?_
      by_cases hb : b = c
      · subst hb
        simp [hc]
      · simp [hb, hq b hb]
    cases hc : d.get? c with
    | none =>
      rw [List.filter_cons_of_neg (by simp [hc]), hskip (by simp [hc]) fun _ _ => rfl]
      simp only [pick, hc]
      exact ih d
    | some entry =>
      by_cases hh : entry.has p r
      · rw [List.filter_cons_of_neg (by simp [hc, hh]), hskip (by simp [hc, hh]) fun _ _ => rfl]
        simp only [pick, hc, hh, if_true]
        exact ih d
      · rw [List.filter_cons_of_pos (by simp [hc, hh])]
        simp only [pick, hc, hh, Bool.false_eq_true, if_false, ih]
        congr 1
        refine (hskip (by simp [Delivered.has]) fun b hb => ?_).symm
        simp [Ne.symm hb]

/-- Whoever is on the roll of a slot has a record. -/
def Noted (e : Engine) : Prop :=
  ∀ s c, c ∈ e.subscribers s → 0 < e.registrations c

variable {e : Engine}

lemma exists_of_registrations {c : Nat} (h : 0 < e.registrations c) :
    ∃ entry, e.delivered.get? c = some entry := by
  unfold registrations at h
  cases hc : e.delivered.get? c with
  | none =>
    rw [hc] at h
    cases h
  | some entry => exact ⟨entry, rfl⟩

/-- A delivery selects the subscribers of the slot to which nothing was delivered yet, or last a result
that is not the same, each of them at its first registration. -/
lemma Noted.select_eq (h : e.Noted) (p : Policy) (s : Slot) (r : Result) :
    (e.select p s r).1 =
      (e.subscribers s).eraseDups.filter fun c => !(e.lastOf c).any fun last => p.same last r := by
  show (pick p r (e.subscribers s) e.delivered).1 = _
  rw [pick_eq]
  refine List.filter_congr fun c hc => ?_
  obtain ⟨entry, hentry⟩ := exists_of_registrations (h s c (List.mem_eraseDups.mp hc))
  unfold lastOf
  rw [hentry]
  unfold Delivered.has
  cases hr : entry.result <;> simp [hr]

lemma Noted.mem_select (h : e.Noted) {p : Policy} {s : Slot} {r : Result} {c : Nat} :
    c ∈ (e.select p s r).1 ↔
      c ∈ e.subscribers s ∧ ∀ last, e.lastOf c = some last → p.same last r = false := by
  rw [h.select_eq p s r, List.mem_filter, List.mem_eraseDups]
  cases hl : e.lastOf c <;> simp

/-- What a delivery leaves on record. -/
lemma Noted.lastOf_select (h : e.Noted) (p : Policy) (s : Slot) (r : Result) (c : Nat) :
    (e.select p s r).2.lastOf c = if c ∈ (e.select p s r).1 then some r else e.lastOf c := by
  unfold lastOf
  rw [delivered_select]
  by_cases hc : c ∈ (e.select p s r).1
  · obtain ⟨entry, hentry⟩ := exists_of_registrations (h s c (h.mem_select.mp hc).1)
    rw [if_pos hc, if_pos hc, hentry]
    rfl
  · rw [if_neg hc, if_neg hc]

lemma Noted.select (h : e.Noted) (p : Policy) (s : Slot) (r : Result) : (e.select p s r).2.Noted := by
  intro j c hc
  rw [registrations_select]
  exact h j c hc

/-- The same result is delivered to nobody twice. -/
lemma Noted.select_select (h : e.Noted) (p : Policy) (s : Slot) (r : Result) :
    ((e.select p s r).2.select p s r).1 = [] := by
  refine List.eq_nil_iff_forall_not_mem.mpr fun c hc => ?_
  obtain ⟨hmem, hlast⟩ := (h.select p s r).mem_select.mp hc
  have hmem : c ∈ e.subscribers s := hmem
  obtain ⟨last, hl, hsame⟩ := has_of_select e p s r c hmem (h s c hmem)
  rw [hlast last hl] at hsame
  cases hsame

end Engine

end Dataflow
