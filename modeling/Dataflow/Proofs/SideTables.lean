import Dataflow.Proofs.Resemblance
import Dataflow.World.Basic

/-!
# Tables of two sides

What is kept in lists and tables that both sides share: lists in which the entries of one side leave
gaps, subscribers that one side or both have come to know, and subscriptions under names that either
side may take.
-/

namespace Dataflow

variable {S : Side}

section Threads

variable {α β : Type} {f : Nat → Nat} {R : α → β → Prop} {l : List α} {l' : List β} {i : Nat}

/-- Entry `i` of `l'` is the one at `f i` in `l`. -/
def Threads (f : Nat → Nat) (R : α → β → Prop) (l : List α) (l' : List β) : Prop :=
  ∀ i, Option.Rel R l[f i]? l'[i]?

namespace Threads

lemma get (h : Threads f R l l') {b : β} (hb : l'[i]? = some b) :
    ∃ a, l[f i]? = some a ∧ R a b := by
  have hi := h i
  rw [hb] at hi
  generalize l[f i]? = o at hi
  cases hi with
  | some hab => exact ⟨_, rfl, hab⟩

lemma get_none (h : Threads f R l l') (hb : l'[i]? = none) : l[f i]? = none := by
  have hi := h i
  rw [hb] at hi
  generalize l[f i]? = o at hi
  cases hi
  rfl

lemma getD (h : Threads f R l l') {a : α} {b : β} (hab : R a b) (i : Nat) :
    R ((l[f i]?).getD a) ((l'[i]?).getD b) := by
  have hi := h i
  generalize l[f i]? = o at hi
  generalize l'[i]? = o' at hi
  cases hi with
  | none => exact hab
  | some hr => exact hr

lemma of_get (h : Threads f R l l') {a : α} (ha : l[f i]? = some a) :
    ∃ b, l'[i]? = some b ∧ R a b := by
  cases hb : l'[i]? with
  | none =>
    rw [h.get_none hb] at ha
    cases ha
  | some b =>
    obtain ⟨a', ha', hab⟩ := h.get hb
    rw [ha] at ha'
    cases ha'
    exact ⟨b, rfl, hab⟩

lemma counts (h : Threads f R l l') : Counts f l.length l'.length := by
  intro i
  rw [← isSome_getElem?_iff, ← isSome_getElem?_iff]
  have hi := h i
  generalize l[f i]? = o at hi
  generalize l'[i]? = o' at hi
  cases hi <;> simp
where
  isSome_getElem?_iff {γ : Type} {m : List γ} {i : Nat} : m[i]?.isSome = true ↔ i < m.length := by
    simp

lemma set (h : Threads f R l l') (hf : StrictMono f) (i : Nat) {a : α} {b : β} (hab : R a b) :
    Threads f R (l.set (f i) a) (l'.set i b) := by
  intro j
  have hlt := h.counts i
  have hj := h j
  rw [List.getElem?_set, List.getElem?_set]
  by_cases hij : i = j
  · subst hij
    rw [if_pos rfl, if_pos rfl]
    by_cases hi : i < l'.length
    · rw [if_pos hi, if_pos (hlt.mpr hi)]
      exact .some hab
    · rw [if_neg hi, if_neg fun hl => hi (hlt.mp hl)]
      exact .none
  · rw [if_neg hij, if_neg fun he => hij (hf.injective he)]
    exact hj

lemma set_other (h : Threads f R l l') {j : Nat} (hj : ∀ i, f i ≠ j) (a : α) :
    Threads f R (l.set j a) l' := by
  intro i
  rw [List.getElem?_set_ne (hj i).symm]
  exact h i

lemma append (h : Threads f R l l') (hf : StrictMono f) (hn : f l'.length = l.length) {a : α}
    {b : β} (hab : R a b) : Threads f R (l ++ [a]) (l' ++ [b]) := by
  intro i
  have hi := h i
  rcases Nat.lt_trichotomy i l'.length with hlt | rfl | hlt
  · rw [List.getElem?_append_left hlt, List.getElem?_append_left ((h.counts i).mpr hlt)]
    exact hi
  · rw [hn, List.getElem?_concat_length, List.getElem?_concat_length]
    exact .some hab
  · have hlt' : l.length < f i := hn ▸ hf hlt
    rw [List.getElem?_eq_none (by simp; omega), List.getElem?_eq_none (by simp; omega)]
    exact .none

lemma append_other (h : Threads f R l l') (hn : ∀ i, f i ≠ l.length) (a : α) :
    Threads f R (l ++ [a]) l' := by
  intro i
  have hi := h i
  rcases Nat.lt_or_gt_of_ne (hn i) with hlt | hlt
  · rw [List.getElem?_append_left hlt]
    exact hi
  · rw [List.getElem?_eq_none (by omega)] at hi
    rw [List.getElem?_eq_none (by simp; omega)]
    exact hi

end Threads

end Threads

/-- The subscribers that the side has come to know are the same, under other numbers; those that are
its own were called as often. -/
structure Roster (S : Side) (l : List Subscriber) (names : Table String Nat) (l' : List Subscriber)
    (names' : Table String Nat) : Prop where
  called : ∀ name c, names.get? name = some c → ∃ s, l[c]? = some s ∧ s.callback = name
  listed : ∀ c s', l'[c]? = some s' → ∃ s, l[S.subscriber c]? = some s ∧
    s.callback = s'.callback ∧ (S.own (S.subscriber c) = true → s.calls = s'.calls)
  unlisted : ∀ c s, S.own c = true → l[c]? = some s →
    (∀ i, i < l'.length → S.subscriber i ≠ c) → s.calls = 0
  named : ∀ name c, names'.get? name = some c → names.get? name = some (S.subscriber c)
  of_named : ∀ name c, names.get? name = some (S.subscriber c) → c < l'.length →
    names'.get? name = some c

namespace Roster

variable {l l' : List Subscriber} {names names' : Table String Nat} {name : String} {c : Nat}

lemma called_set (h : Roster S l names l' names') {s : Subscriber} (hw : l[c]? = some s)
    (n : Nat) (j : String) (d : Nat) (hd : names.get? j = some d) :
    ∃ r, (l.set c { s with calls := n })[d]? = some r ∧ r.callback = j := by
  obtain ⟨r, hr, hj⟩ := h.called j d hd
  rw [List.getElem?_set]
  by_cases hcd : c = d
  · subst hcd
    rw [hw] at hr
    cases hr
    rw [if_pos rfl, if_pos (List.getElem?_eq_some_iff.mp hw).1]
    exact ⟨_, rfl, hj⟩
  · rw [if_neg hcd]
    exact ⟨r, hr, hj⟩

lemma call (h : Roster S l names l' names') {s s' : Subscriber}
    (hw : l[S.subscriber c]? = some s) (hv : l'[c]? = some s') :
    Roster S (l.set (S.subscriber c) { s with calls := s.calls + 1 }) names
      (l'.set c { s' with calls := s'.calls + 1 }) names' := by
  have hlt := (List.getElem?_eq_some_iff.mp hw).1
  have hlt' := (List.getElem?_eq_some_iff.mp hv).1
  refine ⟨h.called_set hw _, fun d t' ht' => ?_, fun d t hd ht hnew => ?_, h.named,
    fun name d hd hlen => h.of_named name d hd (by rwa [List.length_set] at hlen)⟩
  · rw [List.getElem?_set]
    rw [List.getElem?_set] at ht'
    by_cases hcd : c = d
    · subst hcd
      rw [if_pos rfl, if_pos hlt'] at ht'
      cases ht'
      obtain ⟨r, hr, hcall, hcalls⟩ := h.listed c s' hv
      rw [hw] at hr
      cases hr
      rw [if_pos rfl, if_pos hlt]
      exact ⟨_, rfl, hcall, fun ho => congrArg (· + 1) (hcalls ho)⟩
    · rw [if_neg hcd] at ht'
      rw [if_neg fun he => hcd (S.subscriber_injective he)]
      exact h.listed d t' ht'
  · rw [List.length_set] at hnew
    rw [List.getElem?_set_ne fun he => hnew c hlt' he] at ht
    exact h.unlisted d t hd ht hnew

lemma call_other (h : Roster S l names l' names') (hc : S.own c = false) {s : Subscriber}
    (hw : l[c]? = some s) :
    Roster S (l.set c { s with calls := s.calls + 1 }) names l' names' := by
  have hlt := (List.getElem?_eq_some_iff.mp hw).1
  refine ⟨h.called_set hw _, fun d t' ht' => ?_, fun d t hd ht hnew => ?_, h.named, h.of_named⟩
  · obtain ⟨t, ht, hcall, hcalls⟩ := h.listed d t' ht'
    rw [List.getElem?_set]
    by_cases hcd : c = S.subscriber d
    · subst hcd
      rw [hw] at ht
      cases ht
      rw [if_pos rfl, if_pos hlt]
      refine ⟨_, rfl, hcall, fun ho => ?_⟩
      rw [hc] at ho
      cases ho
    · rw [if_neg hcd]
      exact ⟨t, ht, hcall, hcalls⟩
  · have hne : c ≠ d := by
      rintro rfl
      rw [hc] at hd
      cases hd
    rw [List.getElem?_set_ne hne] at ht
    exact h.unlisted d t hd ht hnew

/-- The side comes to know a subscriber that the other side made. -/
lemma meet (h : Roster S l names l' names')
    (hc : names.get? name = some (S.subscriber l'.length)) :
    Roster S l names (l' ++ [⟨name, 0⟩]) (names'.insert name l'.length) := by
  obtain ⟨s, hs, hcall⟩ := h.called name _ hc
  refine ⟨h.called, fun d t' ht' => ?_, fun d t hd ht hnew => ?_, fun j d hj => ?_,
    fun j d hj hlt => ?_⟩
  · rcases Nat.lt_or_ge d l'.length with hlt | hge
    · rw [List.getElem?_append_left hlt] at ht'
      exact h.listed d t' ht'
    · obtain rfl : d = l'.length := by
        have hlt := (List.getElem?_eq_some_iff.mp ht').1
        rw [List.length_append, List.length_singleton] at hlt
        omega
      rw [List.getElem?_concat_length] at ht'
      cases ht'
      refine ⟨s, hs, hcall, fun ho => h.unlisted _ s ho hs fun i hi he => ?_⟩
      exact Nat.ne_of_lt hi (S.subscriber_injective he)
  · refine h.unlisted d t hd ht fun i hi => hnew i ?_
    rw [List.length_append]
    omega
  · rw [Table.get?_insert] at hj
    by_cases he : name = j
    · rw [if_pos he] at hj
      cases hj
      exact he ▸ hc
    · rw [if_neg he] at hj
      exact h.named j d hj
  · rw [Table.get?_insert]
    by_cases he : name = j
    · subst he
      rw [hc] at hj
      rw [if_pos rfl, S.subscriber_injective (Option.some.inj hj)]
    · rw [if_neg he]
      refine h.of_named j d hj ?_
      rw [List.length_append, List.length_singleton] at hlt
      rcases Nat.lt_or_ge d l'.length with hd | hge
      · exact hd
      · -- the number goes by one name only
        obtain rfl : d = l'.length := by omega
        obtain ⟨r, hr, hj⟩ := h.called j _ hj
        rw [hs] at hr
        cases hr
        exact absurd (hcall.symm.trans hj) he

/-- A subscriber is made that the side does not come to know. -/
lemma add_other (h : Roster S l names l' names') (hn : names.get? name = none) :
    Roster S (l ++ [⟨name, 0⟩]) (names.insert name l.length) l' names' := by
  have hkeep : ∀ {c : Nat} {s : Subscriber}, l[c]? = some s → (l ++ [⟨name, 0⟩])[c]? = some s := by
    intro c s hs
    rw [List.getElem?_append_left (List.getElem?_eq_some_iff.mp hs).1, hs]
  refine ⟨fun j d hj => ?_, fun d t' ht' => ?_, fun d t hd ht hnew => ?_, fun j d hj => ?_,
    fun j d hj hlt => ?_⟩
  · rw [Table.get?_insert] at hj
    by_cases he : name = j
    · rw [if_pos he] at hj
      cases hj
      exact ⟨_, List.getElem?_concat_length, he⟩
    · rw [if_neg he] at hj
      obtain ⟨s, hs, hcall⟩ := h.called j d hj
      exact ⟨s, hkeep hs, hcall⟩
  · obtain ⟨t, ht, hrest⟩ := h.listed d t' ht'
    exact ⟨t, hkeep ht, hrest⟩
  · rcases Nat.lt_or_ge d l.length with hlt | hge
    · rw [List.getElem?_append_left hlt] at ht
      exact h.unlisted d t hd ht hnew
    · rw [List.getElem?_append_right hge] at ht
      rw [List.mem_singleton.mp (List.mem_of_getElem? ht)]
  · rw [Table.get?_insert, if_neg, h.named j d hj]
    rintro rfl
    rw [h.named _ d hj] at hn
    cases hn
  · rw [Table.get?_insert] at hj
    by_cases he : name = j
    · rw [if_pos he] at hj
      obtain ⟨t, ht, -⟩ := h.listed d _ (List.getElem?_eq_getElem hlt)
      have hold := (List.getElem?_eq_some_iff.mp ht).1
      rw [← Option.some.inj hj] at hold
      exact absurd hold (Nat.lt_irrefl _)
    · rw [if_neg he] at hj
      exact h.of_named j d hj hlt

/-- A subscriber is made by the side itself. -/
lemma add (h : Roster S l names l' names') (hn : names.get? name = none)
    (hc : S.subscriber l'.length = l.length) :
    Roster S (l ++ [⟨name, 0⟩]) (names.insert name l.length) (l' ++ [⟨name, 0⟩])
      (names'.insert name l'.length) := by
  refine (h.add_other hn).meet ?_
  rw [Table.get?_insert, if_pos rfl, hc]

lemma erase (h : Roster S l names l' names') (name : String) :
    Roster S l (names.erase name) l' (names'.erase name) := by
  refine ⟨fun j d hj => ?_, h.listed, h.unlisted, fun j d hj => ?_, fun j d hj hlt => ?_⟩
  · rw [Table.get?_erase, Option.ite_none_left_eq_some] at hj
    exact h.called j d hj.2
  · rw [Table.get?_erase, Option.ite_none_left_eq_some] at hj
    rw [Table.get?_erase, if_neg hj.1]
    exact h.named j d hj.2
  · rw [Table.get?_erase, Option.ite_none_left_eq_some] at hj
    rw [Table.get?_erase, if_neg hj.1]
    exact h.of_named j d hj.2 hlt

end Roster

/-- The subscriptions of the side are kept under the same names. Where the other side took a name,
anything may be kept under it. -/
structure Shelf (S : Side) (t t' : Table String Subscription) : Prop where
  unnamed : ∀ name, t.get? name = none → t'.get? name = none
  own : ∀ name s, t.get? name = some s → S.nodes s.slot.node = true →
    ∃ s', t'.get? name = some s' ∧ s.Resembles S s'

namespace Shelf

variable {t t' : Table String Subscription} {name : String} {s s' : Subscription}

lemma insert (h : Shelf S t t') (name : String) (hs : s.Resembles S s') :
    Shelf S (t.insert name s) (t'.insert name s') := by
  refine ⟨fun j hj => ?_, fun j r hr ho => ?_⟩
  · rw [Table.get?_insert] at hj ⊢
    by_cases he : name = j
    · rw [if_pos he] at hj
      cases hj
    · rw [if_neg he] at hj ⊢
      exact h.unnamed j hj
  · rw [Table.get?_insert] at hr ⊢
    by_cases he : name = j
    · rw [if_pos he] at hr ⊢
      cases hr
      exact ⟨s', rfl, hs⟩
    · rw [if_neg he] at hr ⊢
      exact h.own j r hr ho

lemma insert_other (h : Shelf S t t') (name : String) (hs : S.nodes s.slot.node = false) :
    Shelf S (t.insert name s) t' := by
  refine ⟨fun j hj => ?_, fun j r hr ho => ?_⟩
  · rw [Table.get?_insert] at hj
    by_cases he : name = j
    · rw [if_pos he] at hj
      cases hj
    · rw [if_neg he] at hj
      exact h.unnamed j hj
  · rw [Table.get?_insert] at hr
    by_cases he : name = j
    · rw [if_pos he] at hr
      cases hr
      rw [hs] at ho
      cases ho
    · rw [if_neg he] at hr
      exact h.own j r hr ho

/-- Where the other side took the name, anything may be kept under it. -/
lemma insert_foreign (h : Shelf S t t') (hs : t.get? name = some s)
    (ho : S.nodes s.slot.node = false) (s' : Subscription) : Shelf S t (t'.insert name s') := by
  refine ⟨fun j hj => ?_, fun j r hr hown => ?_⟩
  · rw [Table.get?_insert, if_neg, h.unnamed j hj]
    rintro rfl
    rw [hs] at hj
    cases hj
  · obtain ⟨r', hr', hres⟩ := h.own j r hr hown
    refine ⟨r', ?_, hres⟩
    rw [Table.get?_insert, if_neg, hr']
    rintro rfl
    rw [hs] at hr
    cases hr
    rw [ho] at hown
    cases hown

lemma insert_alone (h : Shelf S t t') (hn : t.get? name ≠ none) (hn' : t'.get? name = none)
    (s' : Subscription) : Shelf S t (t'.insert name s') := by
  obtain ⟨s, hs⟩ := Option.ne_none_iff_exists'.mp hn
  refine h.insert_foreign hs (Bool.eq_false_iff.mpr fun ho => ?_) s'
  obtain ⟨r', hr', -⟩ := h.own name s hs ho
  rw [hn'] at hr'
  cases hr'

/-- What the other side keeps under the name, this side need not. -/
lemma insert_erase (h : Shelf S t t') (name : String) (hs : S.nodes s.slot.node = false) :
    Shelf S (t.insert name s) (t'.erase name) := by
  refine ⟨fun j hj => ?_, fun j r hr ho => ?_⟩
  · rw [Table.get?_insert] at hj
    by_cases he : name = j
    · rw [if_pos he] at hj
      cases hj
    · rw [if_neg he] at hj
      rw [Table.get?_erase, if_neg he]
      exact h.unnamed j hj
  · rw [Table.get?_insert] at hr
    by_cases he : name = j
    · rw [if_pos he] at hr
      cases hr
      rw [hs] at ho
      cases ho
    · rw [if_neg he] at hr
      rw [Table.get?_erase, if_neg he]
      exact h.own j r hr ho

lemma erase (h : Shelf S t t') (name : String) : Shelf S (t.erase name) (t'.erase name) := by
  refine ⟨fun j hj => ?_, fun j r hr ho => ?_⟩
  · rw [Table.get?_erase] at hj ⊢
    by_cases he : name = j
    · rw [if_pos he]
    · rw [if_neg he] at hj ⊢
      exact h.unnamed j hj
  · rw [Table.get?_erase, Option.ite_none_left_eq_some] at hr
    rw [Table.get?_erase, if_neg hr.1]
    exact h.own j r hr.2 ho

end Shelf

end Dataflow
