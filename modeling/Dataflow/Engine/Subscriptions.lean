import Dataflow.Engine.Basic

/-!
# Subscriptions

A subscriber can be registered on many slots, and on one slot many times. The record of what was
delivered to it last is one for all of them, and is kept as long as one registration is left.
-/

namespace Dataflow

/-- Whether the last delivery was of `r` or of the same. -/
def Delivered.has (p : Policy) (r : Result) (d : Delivered) : Bool :=
  match d.result with
  | some last => p.same last r
  | none => false

namespace Engine

/-- The subscribers of a slot, one entry for every registration. -/
def subscribers (e : Engine) (s : Slot) : List Nat :=
  (e.subscriptions.get? s.node s.output).getD []

def subscribe (e : Engine) (s : Slot) (c : Nat) : Engine :=
  let d := (e.delivered.get? c).getD ⟨none, 0⟩
  { e with
    subscriptions := e.subscriptions.set s.node s.output (e.subscribers s ++ [c])
    delivered := e.delivered.insert c { d with registrations := d.registrations + 1 } }

/-- Counts down the registrations of a subscriber, and forgets it with the last. -/
def release (d : Table Nat Delivered) (c : Nat) (n : Nat) : Table Nat Delivered :=
  match d.get? c with
  | none => d
  | some entry =>
    if entry.registrations - n = 0 then d.erase c
    else d.insert c { entry with registrations := entry.registrations - n }

/-- Removes every registration of a subscriber on one slot. -/
def unsubscribe (e : Engine) (s : Slot) (c : Nat) : Engine :=
  match e.subscriptions.get? s.node s.output with
  | none => e
  | some before =>
    let after := before.filter (· != c)
    { e with
      subscriptions :=
        if after.isEmpty then e.subscriptions.erase s.node s.output
        else e.subscriptions.set s.node s.output after
      delivered := release e.delivered c (before.length - after.length) }

/-- Goes through the registrations in order and picks each subscriber that has not received `r` or
the same, noting `r` as the result delivered to it last. -/
def pick (p : Policy) (r : Result) :
    List Nat → Table Nat Delivered → List Nat × Table Nat Delivered
  | [], d => ([], d)
  | c :: rest, d =>
    match d.get? c with
    | none => pick p r rest d
    | some entry =>
      if entry.has p r then pick p r rest d
      else
        let (picked, d) := pick p r rest (d.insert c { entry with result := some r })
        (c :: picked, d)

/-- The subscribers that a delivery of `r` from the slot calls, all of them noted at once. -/
def select (e : Engine) (p : Policy) (s : Slot) (r : Result) : List Nat × Engine :=
  let (picked, d) := pick p r (e.subscribers s) e.delivered
  (picked, { e with delivered := d })

/-- How often a subscriber is registered, as the record of it says. -/
def registrations (e : Engine) (c : Nat) : Nat :=
  match e.delivered.get? c with
  | some d => d.registrations
  | none => 0

/-- The result noted as the one delivered last. -/
def lastOf (e : Engine) (c : Nat) : Option Result := (e.delivered.get? c).bind Delivered.result

@[simp] theorem subscribers_subscribe (e : Engine) (s j : Slot) (c : Nat) :
    (e.subscribe s c).subscribers j =
      if s = j then e.subscribers s ++ [c] else e.subscribers j := by
  by_cases h : s = j
  · subst h
    simp [subscribers, subscribe]
  · have hne : ¬(s.node = j.node ∧ s.output = j.output) := fun he => h ((s.eq_iff j).mpr he)
    simp [subscribers, subscribe, h, hne]

@[simp] theorem subscribers_unsubscribe (e : Engine) (s j : Slot) (c : Nat) :
    (e.unsubscribe s c).subscribers j =
      if s = j then (e.subscribers s).filter (· != c) else e.subscribers j := by
  unfold unsubscribe
  cases hs : e.subscriptions.get? s.node s.output with
  | none =>
    by_cases h : s = j
    · subst h
      simp [subscribers, hs]
    · simp [h]
  | some before =>
    by_cases h : s = j
    · subst h
      by_cases ha : (before.filter (· != c)).isEmpty
      · simp only [subscribers, hs, ha, if_true, Store.get?_erase, and_self, Option.getD_none]
        exact (List.isEmpty_iff.mp ha).symm
      · simp [subscribers, hs, ha]
    · have hne : ¬(s.node = j.node ∧ s.output = j.output) := fun he => h ((s.eq_iff j).mpr he)
      by_cases ha : (before.filter (· != c)).isEmpty <;> simp [subscribers, ha, h, hne]

/-- Where the slot has no roll there is nothing to remove. Otherwise the roll goes with the last on it,
or the others stay. -/
theorem unsubscribe_cases (e : Engine) (s : Slot) (c : Nat) :
    e.unsubscribe s c = e ∨
    ∃ before delivered, e.subscriptions.get? s.node s.output = some before ∧
      (before.filter (· != c) = [] ∧ e.unsubscribe s c =
        { e with subscriptions := e.subscriptions.erase s.node s.output, delivered } ∨
      before.filter (· != c) ≠ [] ∧ e.unsubscribe s c =
        { e with
          subscriptions := e.subscriptions.set s.node s.output (before.filter (· != c))
          delivered }) := by
  unfold unsubscribe
  cases hs : e.subscriptions.get? s.node s.output with
  | none => exact .inl rfl
  | some before =>
    refine .inr ⟨before, release e.delivered c (before.length - (before.filter (· != c)).length), rfl, ?_⟩
    dsimp only
    cases hl : before.filter (· != c) with
    | nil => exact .inl ⟨rfl, rfl⟩
    | cons d rest => exact .inr ⟨List.cons_ne_nil d rest, rfl⟩

/-- Cancelling a registration touches rolls and records alone. -/
theorem unsubscribe_frame (e : Engine) (s : Slot) (c : Nat) : ∃ subscriptions delivered,
    e.unsubscribe s c = { e with subscriptions, delivered } := by
  unfold unsubscribe
  cases e.subscriptions.get? s.node s.output <;> exact ⟨_, _, rfl⟩

theorem registrations_subscribe (e : Engine) (s : Slot) (c d : Nat) :
    (e.subscribe s c).registrations d = e.registrations d + (if c = d then 1 else 0) := by
  by_cases h : c = d
  · subst h
    cases hc : e.delivered.get? c <;> simp [registrations, subscribe, hc]
  · simp [registrations, subscribe, h]

@[simp] theorem lastOf_subscribe (e : Engine) (s : Slot) (c d : Nat) :
    (e.subscribe s c).lastOf d = e.lastOf d := by
  by_cases h : c = d
  · subst h
    cases hc : e.delivered.get? c <;> simp [lastOf, subscribe, hc]
  · simp [lastOf, subscribe, h]

theorem release_cases (d : Table Nat Delivered) (c n : Nat) :
    release d c n = d ∨ release d c n = d.erase c ∨
      ∃ entry, release d c n = d.insert c entry := by
  unfold release
  cases d.get? c with
  | none => exact .inl rfl
  | some entry =>
    by_cases hz : entry.registrations - n = 0
    · exact .inr (.inl (if_pos hz))
    · exact .inr (.inr ⟨_, if_neg hz⟩)

theorem get?_release (d : Table Nat Delivered) (c n j : Nat) :
    (release d c n).get? j =
      if c = j then
        (d.get? j).bind fun entry =>
          if entry.registrations - n = 0 then none
          else some { entry with registrations := entry.registrations - n }
      else d.get? j := by
  unfold release
  by_cases h : c = j
  · subst h
    cases hc : d.get? c with
    | none => simp [hc]
    | some entry => by_cases hn : entry.registrations - n = 0 <;> simp [hn]
  · cases hc : d.get? c with
    | none => simp [h]
    | some entry => by_cases hn : entry.registrations - n = 0 <;> simp [hn, h]

theorem length_filter_ne (l : List Nat) (c : Nat) :
    l.length - (l.filter (· != c)).length = l.count c := by
  have h : (l.filter (· == c)).length + (l.filter (· != c)).length = l.length := by
    induction l with
    | nil => rfl
    | cons a l ih => by_cases ha : a = c <;> simp [ha] <;> omega
  rw [List.count_eq_length_filter]
  omega

theorem delivered_unsubscribe (e : Engine) (s : Slot) (c j : Nat) :
    (e.unsubscribe s c).delivered.get? j =
      if c = j ∧ (e.subscriptions.get? s.node s.output).isSome then
        (release e.delivered c ((e.subscribers s).count c)).get? j
      else e.delivered.get? j := by
  unfold unsubscribe
  cases hs : e.subscriptions.get? s.node s.output with
  | none => simp
  | some before =>
    by_cases h : c = j
    · simp [h, subscribers, hs, length_filter_ne]
    · simp [h, get?_release]

theorem registrations_unsubscribe (e : Engine) (s : Slot) (c d : Nat) :
    (e.unsubscribe s c).registrations d =
      e.registrations d - (if c = d then (e.subscribers s).count c else 0) := by
  unfold registrations
  rw [delivered_unsubscribe]
  by_cases h : c = d
  · subst h
    cases hs : e.subscriptions.get? s.node s.output with
    | none => simp [subscribers, hs]
    | some before =>
      cases hc : e.delivered.get? c with
      | none => simp [get?_release, hc]
      | some entry =>
        by_cases hn : entry.registrations - (e.subscribers s).count c = 0 <;>
          simp [get?_release, hc, hn]
  · simp [h]

theorem lastOf_unsubscribe (e : Engine) (s : Slot) (c d : Nat) :
    (e.unsubscribe s c).lastOf d = e.lastOf d ∨ (e.unsubscribe s c).lastOf d = none := by
  unfold lastOf
  rw [delivered_unsubscribe]
  by_cases h : c = d
  · subst h
    cases hs : e.subscriptions.get? s.node s.output with
    | none => simp
    | some before =>
      cases hc : e.delivered.get? c with
      | none => simp [get?_release, hc]
      | some entry =>
        by_cases hn : entry.registrations - (e.subscribers s).count c = 0 <;>
          simp [get?_release, hc, hn]
  · simp [h]

/-- A subscriber that stays registered somewhere keeps the record of its last delivery. -/
theorem lastOf_unsubscribe_of_pos (e : Engine) (s : Slot) (c d : Nat)
    (h : 0 < (e.unsubscribe s c).registrations d) :
    (e.unsubscribe s c).lastOf d = e.lastOf d := by
  unfold registrations at h
  unfold lastOf
  rw [delivered_unsubscribe] at h ⊢
  by_cases hcd : c = d
  · subst hcd
    cases hs : e.subscriptions.get? s.node s.output with
    | none => simp
    | some before =>
      cases hc : e.delivered.get? c with
      | none => simp [hs, get?_release, hc] at h
      | some entry =>
        by_cases hn : entry.registrations - (e.subscribers s).count c = 0
        · simp [hs, get?_release, hc, hn] at h
        · simp [get?_release, hc, hn]
  · simp [hcd]

theorem mem_pick (p : Policy) (r : Result) (l : List Nat) (d : Table Nat Delivered) (j : Nat) :
    j ∈ (pick p r l d).1 ↔ j ∈ l ∧ ∃ entry, d.get? j = some entry ∧ entry.has p r = false := by
  induction l generalizing d with
  | nil => simp [pick]
  | cons c rest ih =>
    cases hc : d.get? c with
    | none =>
      simp only [pick, hc, ih, List.mem_cons]
      constructor
      · rintro ⟨hj, h⟩
        exact ⟨.inr hj, h⟩
      · rintro ⟨rfl | hj, entry, he, hh⟩
        · rw [hc] at he
          cases he
        · exact ⟨hj, entry, he, hh⟩
    | some entry =>
      by_cases hh : entry.has p r
      · simp only [pick, hc, hh, if_true, ih, List.mem_cons]
        constructor
        · rintro ⟨hj, h⟩
          exact ⟨.inr hj, h⟩
        · rintro ⟨rfl | hj, entry', he, hh'⟩
          · rw [hc] at he
            cases he
            simp [hh] at hh'
          · exact ⟨hj, entry', he, hh'⟩
      · simp only [pick, hc, hh, Bool.false_eq_true, if_false, List.mem_cons, ih]
        by_cases hj : c = j
        · subst hj
          simp [hc, hh]
        · simp [hj, Ne.symm hj]

theorem nodup_pick (p : Policy) (r : Result) (l : List Nat) (d : Table Nat Delivered) :
    (pick p r l d).1.Nodup := by
  induction l generalizing d with
  | nil => simp [pick]
  | cons c rest ih =>
    cases hc : d.get? c with
    | none => simpa only [pick, hc] using ih d
    | some entry =>
      by_cases hh : entry.has p r
      · simpa only [pick, hc, hh, if_true] using ih d
      · simp only [pick, hc, hh, Bool.false_eq_true, if_false, List.nodup_cons]
        refine ⟨?_, ih _⟩
        intro hmem
        obtain ⟨-, entry', he, hh'⟩ := (mem_pick p r rest _ c).mp hmem
        rw [Table.get?_insert, if_pos rfl] at he
        cases he
        simp [Delivered.has] at hh'

theorem get?_pick (p : Policy) (r : Result) (l : List Nat) (d : Table Nat Delivered) (j : Nat) :
    (pick p r l d).2.get? j =
      if j ∈ (pick p r l d).1 then (d.get? j).map fun entry => { entry with result := some r }
      else d.get? j := by
  induction l generalizing d with
  | nil => simp [pick]
  | cons c rest ih =>
    cases hc : d.get? c with
    | none => simpa only [pick, hc] using ih d
    | some entry =>
      by_cases hh : entry.has p r
      · simpa only [pick, hc, hh, if_true] using ih d
      · simp only [pick, hc, hh, Bool.false_eq_true, if_false, List.mem_cons, ih]
        by_cases hj : c = j
        · subst hj
          by_cases hm : c ∈ (pick p r rest (d.insert c { entry with result := some r })).1 <;>
            simp [hm, hc]
        · simp [hj, Ne.symm hj]

/-- A delivery picks the registered subscribers that have not received the result or the same. -/
theorem mem_select (e : Engine) (p : Policy) (s : Slot) (r : Result) (c : Nat) :
    c ∈ (e.select p s r).1 ↔
      c ∈ e.subscribers s ∧ ∃ entry, e.delivered.get? c = some entry ∧ entry.has p r = false :=
  mem_pick p r (e.subscribers s) e.delivered c

theorem nodup_select (e : Engine) (p : Policy) (s : Slot) (r : Result) :
    (e.select p s r).1.Nodup :=
  nodup_pick p r (e.subscribers s) e.delivered

theorem delivered_select (e : Engine) (p : Policy) (s : Slot) (r : Result) (c : Nat) :
    (e.select p s r).2.delivered.get? c =
      if c ∈ (e.select p s r).1 then
        (e.delivered.get? c).map fun entry => { entry with result := some r }
      else e.delivered.get? c :=
  get?_pick p r (e.subscribers s) e.delivered c

theorem registrations_select (e : Engine) (p : Policy) (s : Slot) (r : Result) (c : Nat) :
    (e.select p s r).2.registrations c = e.registrations c := by
  unfold registrations
  rw [delivered_select]
  by_cases h : c ∈ (e.select p s r).1
  · cases hc : e.delivered.get? c <;> simp [h]
  · simp [h]

/-- After a delivery every subscriber of the slot has received the result or the same. -/
theorem has_of_select (e : Engine) (p : Policy) (s : Slot) (r : Result) (c : Nat)
    (hc : c ∈ e.subscribers s) (hr : 0 < e.registrations c) :
    ∃ last, (e.select p s r).2.lastOf c = some last ∧ p.same last r = true := by
  obtain ⟨entry, he⟩ : ∃ entry, e.delivered.get? c = some entry := by
    unfold registrations at hr
    cases h : e.delivered.get? c with
    | none => simp [h] at hr
    | some entry => exact ⟨entry, rfl⟩
  unfold lastOf
  rw [delivered_select]
  by_cases hm : c ∈ (e.select p s r).1
  · exact ⟨r, by simp [hm, he], Policy.same_self p r⟩
  · have hh : entry.has p r = true := by
      by_cases hh : entry.has p r = true
      · exact hh
      · exact absurd ((mem_select e p s r c).mpr ⟨hc, entry, he, by simpa using hh⟩) hm
    unfold Delivered.has at hh
    cases hl : entry.result with
    | none => simp [hl] at hh
    | some last => exact ⟨last, by simp [hm, he, hl], by simpa [hl] using hh⟩

end Engine

end Dataflow
