import Dataflow.Proofs.History
import Mathlib.Tactic.Lemma

/-!
# What lawful histories tell

A cached result has landed since the slot was cleared last, and so was its computation begun since.
A subscriber that is owed a result is called with it, unless something panics.
-/

namespace Dataflow

/-- Two places in one list: the first of them lies before, at or behind the second. -/
lemma split_cases {α : Type} {a b c d : List α} {x y : α} (h : a ++ x :: b = c ++ y :: d) :
    (∃ m, c = a ++ x :: m ∧ b = m ++ y :: d) ∨ (a = c ∧ x = y ∧ b = d) ∨
      ∃ m, a = c ++ y :: m ∧ d = m ++ x :: b := by
  rcases List.append_eq_append_iff.mp h with ⟨m, rfl, hm⟩ | ⟨m, rfl, hm⟩
  · cases m with
    | nil =>
      obtain ⟨rfl, rfl⟩ := List.cons_eq_cons.mp hm
      exact .inr (.inl ⟨(List.append_nil a).symm, rfl, rfl⟩)
    | cons z m =>
      obtain ⟨rfl, rfl⟩ := List.cons_eq_cons.mp hm
      exact .inl ⟨m, rfl, rfl⟩
  · cases m with
    | nil =>
      obtain ⟨rfl, rfl⟩ := List.cons_eq_cons.mp hm
      exact .inr (.inl ⟨List.append_nil c, rfl, rfl⟩)
    | cons z m =>
      obtain ⟨rfl, rfl⟩ := List.cons_eq_cons.mp hm
      exact .inr (.inr ⟨m, rfl, rfl⟩)

/-- A list taken apart at one of its places. -/
lemma split_of_place {α : Type} {l : List α} {i : Nat} {x : α} (h : l[i]? = some x) :
    l = l.take i ++ x :: l.drop (i + 1) := by
  obtain ⟨hlt, hget⟩ := List.getElem?_eq_some_iff.mp h
  rw [← hget, List.getElem_cons_drop hlt, List.take_append_drop]

/-- A list taken apart at two of its places. -/
lemma split_of_places {α : Type} {l : List α} {i j : Nat} {x y : α} (hij : i < j)
    (hx : l[i]? = some x) (hy : l[j]? = some y) :
    ∃ mid earlier, l = l.take i ++ x :: (mid ++ y :: earlier) := by
  have hrest : (l.drop (i + 1))[j - (i + 1)]? = some y := by
    rw [List.getElem?_drop, Nat.add_sub_cancel' hij]
    exact hy
  have hsplit := split_of_place hx
  rw [split_of_place hrest] at hsplit
  exact ⟨_, _, hsplit⟩

/-- Where something of one kind lies between any two of another, there are fewer of those than of the
former, but for one. -/
lemma countP_le_of_between {α : Type} {p q : α → Bool} {l : List α}
    (h : ∀ later x mid y earlier, l = later ++ x :: (mid ++ y :: earlier) → p x = true →
      p y = true → ∃ z ∈ mid, q z = true) : l.countP p ≤ l.countP q + 1 := by
  -- Besides, nothing is lost where the first of them has something of the other kind before it.
  suffices hboth : l.countP p ≤ l.countP q + 1 ∧ ((∀ mid y earlier, l = mid ++ y :: earlier →
      p y = true → ∃ z ∈ mid, q z = true) → l.countP p ≤ l.countP q) from hboth.1
  induction l with
  | nil => exact ⟨Nat.zero_le _, fun _ => Nat.le_refl _⟩
  | cons x l ih =>
    obtain ⟨hone, hnone⟩ := ih fun later x' mid y earlier hl =>
      h (x :: later) x' mid y earlier (by rw [hl, List.cons_append])
    rw [List.countP_cons, List.countP_cons]
    refine ⟨?_, fun hled => ?_⟩
    · cases hp : p x with
      | false =>
        rw [if_neg Bool.false_ne_true]
        omega
      | true =>
        have hle := hnone fun mid y earlier hl =>
          h [] x mid y earlier (by rw [hl, List.nil_append]) hp
        rw [if_pos rfl]
        omega
    · have hp : p x = false := by
        refine Bool.eq_false_iff.mpr fun hp => ?_
        obtain ⟨z, hz, -⟩ := hled [] x l rfl hp
        cases hz
      rw [hp, if_neg Bool.false_ne_true]
      cases hq : q x with
      | true =>
        rw [if_pos rfl]
        omega
      | false =>
        have hle := hnone fun mid y earlier hl hy => by
          obtain ⟨z, hz, hqz⟩ := hled (x :: mid) y earlier (by rw [hl, List.cons_append]) hy
          rcases List.mem_cons.mp hz with rfl | hz
          · rw [hq] at hqz
            cases hqz
          · exact ⟨z, hz, hqz⟩
        rw [if_neg Bool.false_ne_true]
        omega

namespace Event

lemma ofCache_eq_some_some {host : String} {s : Slot} {e : Event} {r : Result} :
    e.ofCache host s = some (some r) ↔ ∃ ticket, e = .landed host s ticket r true := by
  cases e with
  | landed h j ticket r' kept =>
    by_cases hc : h = host ∧ j = s ∧ kept = true
    · obtain ⟨rfl, rfl, rfl⟩ := hc
      simp [ofCache, clears, ofLanding]
    · simp only [ofCache, clears, ofLanding, Bool.false_eq_true, if_false, if_neg hc]
      constructor
      · intro h
        cases h
      · rintro ⟨t, h⟩
        cases h
        exact absurd ⟨rfl, rfl, rfl⟩ hc
  | _ => simp [ofCache, ofLanding]

lemma ofFlight_eq_some_some {host : String} {s : Slot} {e : Event} {ticket : Nat} :
    e.ofFlight host s = some (some ticket) ↔ e = .takenOff host s ticket := by
  cases e with
  | takenOff h j t =>
    by_cases hc : h = host ∧ j = s
    · obtain ⟨rfl, rfl⟩ := hc
      simp [ofFlight, clears, ofLanding, ofDeparture]
    · simp only [ofFlight, clears, ofLanding, ofDeparture, Bool.false_eq_true, Option.isSome_none,
        or_self, if_false, if_neg hc]
      constructor
      · intro h
        cases h
      · intro h
        cases h
        exact absurd ⟨rfl, rfl⟩ hc
  | _ => simp [ofFlight, ofDeparture]

lemma clears_of_ofCache {host : String} {s : Slot} {e : Event} (h : e.ofCache host s = none) :
    e.clears host s = false := by
  unfold ofCache at h
  by_cases hc : e.clears host s = true
  · rw [if_pos hc] at h
    cases h
  · exact Bool.eq_false_iff.mpr hc

lemma ofCache_of_ofFlight {host : String} {s : Slot} {e : Event}
    (h : e.ofFlight host s = none) : e.ofCache host s = none := by
  unfold ofFlight at h
  by_cases hc : e.clears host s = true ∨ (e.ofLanding host s).isSome = true
  · rw [if_pos hc] at h
    cases h
  · rw [not_or] at hc
    have hl : e.ofLanding host s = none := Option.not_isSome_iff_eq_none.mp hc.2
    simp [ofCache, hc.1, hl]

lemma ofCall_eq_some {host : String} {c : Nat} {e : Event} {r : Result} :
    e.ofCall host c = some r ↔ ∃ s callback, e = .called host s c callback r := by
  cases e with
  | called h s d callback r' =>
    by_cases hc : h = host ∧ d = c
    · obtain ⟨rfl, rfl⟩ := hc
      simp [ofCall]
    · simp only [ofCall, if_neg hc]
      constructor
      · intro h
        cases h
      · rintro ⟨s', callback', h⟩
        cases h
        exact absurd ⟨rfl, rfl⟩ hc
  | _ => simp [ofCall]

lemma ofOffer_eq_some {host : String} {c : Nat} {e : Event} {s : Slot} {r : Result} :
    e.ofOffer host c = some (s, r) ↔
      ∃ pass picked, e = .delivering host s pass r picked ∧ c ∈ picked := by
  cases e with
  | delivering h j pass r' picked =>
    by_cases hc : h = host ∧ c ∈ picked
    · obtain ⟨rfl, hm⟩ := hc
      simp only [ofOffer, hm, and_self, if_true, Option.some.injEq, Prod.mk.injEq]
      constructor
      · rintro ⟨rfl, rfl⟩
        exact ⟨pass, picked, rfl, hm⟩
      · rintro ⟨pass', picked', h, -⟩
        cases h
        exact ⟨rfl, rfl⟩
    · simp only [ofOffer, if_neg hc]
      constructor
      · intro h
        cases h
      · rintro ⟨pass', picked', h, hm⟩
        cases h
        exact absurd ⟨rfl, hm⟩ hc
  | _ => simp [ofOffer]

lemma ofRoll_eq_some {host : String} {s : Slot} {c : Nat} {e : Event} {b : Bool}
    (h : e.ofRoll host s c = some b) : (b = true ∧ ∃ name, e = .subscribed host s c name) ∨
      b = false ∧ e = .unsubscribed host s c := by
  cases e with
  | subscribed h' s' c' name =>
    by_cases hc : h' = host ∧ s' = s ∧ c' = c
    · obtain ⟨rfl, rfl, rfl⟩ := hc
      simp only [ofRoll, and_self, if_true, Option.some.injEq] at h
      exact .inl ⟨h.symm, name, rfl⟩
    · simp [ofRoll, hc] at h
  | unsubscribed h' s' c' =>
    by_cases hc : h' = host ∧ s' = s ∧ c' = c
    · obtain ⟨rfl, rfl, rfl⟩ := hc
      simp only [ofRoll, and_self, if_true, Option.some.injEq] at h
      exact .inr ⟨h.symm, rfl⟩
    · simp [ofRoll, hc] at h
  | _ => cases h

lemma begins_eq_some {t i : Nat} {p : String × Slot} {e : Event} (h : e.begins t i = some p) :
    (∃ task, e = .started t task) ∨ ∃ host node keys, e = .invalidating t host node keys := by
  cases e with
  | started u task =>
    simp only [begins] at h
    cases hj : task.job with
    | emit x =>
      simp only [hj] at h
      by_cases hc : u = t ∧ i = 0
      · exact .inl ⟨task, hc.1 ▸ rfl⟩
      · rw [if_neg hc] at h
        cases h
    | _ =>
      simp only [hj] at h
      cases h
  | invalidating u host node keys =>
    simp only [begins] at h
    by_cases hc : u = t
    · exact .inr ⟨host, node, keys, hc ▸ rfl⟩
    · rw [if_neg hc] at h
      cases h
  | _ => cases h

lemma begins_emitting (t : Nat) (host : String) (s : Slot) :
    (started t (.emitting host s)).begins t 0 = some (host, s) := by
  simp [begins, Task.emitting]

/-- The event is neither a call of the subscriber nor a promise of one, and cancels none. -/
def Idle (host : String) (c : Nat) (e : Event) : Prop :=
  e.ofCall host c = none ∧ e.ofPromise host c = none ∧ e.ofDebt host c = none

lemma call_cases (host : String) (c : Nat) (e : Event) :
    (∃ s callback r, e = .called host s c callback r) ∨
      (∃ s pass r picked, e = .delivering host s pass r picked ∧ c ∈ picked) ∨
      (∃ h s pass, e = .abandoned h s pass) ∨ e.Idle host c := by
  cases hcall : e.ofCall host c with
  | some r =>
    obtain ⟨s, callback, rfl⟩ := ofCall_eq_some.mp hcall
    exact .inl ⟨s, callback, r, rfl⟩
  | none =>
    cases hoffer : e.ofOffer host c with
    | some o =>
      obtain ⟨pass, picked, rfl, hm⟩ := ofOffer_eq_some.mp hoffer
      exact .inr (.inl ⟨o.1, pass, o.2, picked, rfl, hm⟩)
    | none =>
      cases e with
      | abandoned h s pass => exact .inr (.inr (.inl ⟨h, s, pass, rfl⟩))
      | _ => exact .inr (.inr (.inr ⟨hcall, by simp [ofPromise, hcall, hoffer],
          by simp [ofDebt, hcall, hoffer]⟩))

end Event

namespace Journal

lemma not_mem_of_append {l₁ l₂ : List Event} {e : Event} (h : e ∉ l₁ ++ l₂) : e ∉ l₁ ∧ e ∉ l₂ := by
  rw [List.mem_append, not_or] at h
  exact h

lemma Panicked.of_append {l₁ l₂ : List Event} (h : ¬Panicked (l₁ ++ l₂)) :
    ¬Panicked l₁ ∧ ¬Panicked l₂ := by
  refine ⟨?_, ?_⟩
  · rintro ⟨source, text, hm⟩
    exact h ⟨source, text, List.mem_append_left l₂ hm⟩
  · rintro ⟨source, text, hm⟩
    exact h ⟨source, text, List.mem_append_right l₁ hm⟩

lemma latest_cons {α : Type} (f : Event → Option (Option α)) (e : Event) (l : List Event) :
    latest f (e :: l) = (f e).getD (latest f l) := by
  unfold latest
  rw [List.findSome?_cons]
  cases f e <;> rfl

lemma latest_append {α : Type} (f : Event → Option (Option α)) (l₁ l₂ : List Event)
    (h : ∀ e ∈ l₁, f e = none) : latest f (l₁ ++ l₂) = latest f l₂ := by
  induction l₁ with
  | nil => rfl
  | cons e l₁ ih =>
    rw [List.cons_append, latest_cons, h e List.mem_cons_self, Option.getD_none]
    exact ih fun x hx => h x (List.mem_cons_of_mem e hx)

lemma latest_eq_some {α : Type} {f : Event → Option (Option α)} {l : List Event} {a : α}
    (h : latest f l = some a) :
    ∃ later e earlier, l = later ++ e :: earlier ∧ f e = some (some a) ∧
      ∀ x ∈ later, f x = none := by
  unfold latest at h
  rw [Option.join_eq_some_iff] at h
  exact List.findSome?_eq_some_iff.mp h

lemma cached_eq_some {host : String} {s : Slot} {l : List Event} {r : Result}
    (h : cached host s l = some r) :
    ∃ later earlier ticket, l = later ++ .landed host s ticket r true :: earlier ∧
      ∀ e ∈ later, e.clears host s = false := by
  obtain ⟨later, e, earlier, rfl, he, hl⟩ := latest_eq_some h
  obtain ⟨ticket, rfl⟩ := Event.ofCache_eq_some_some.mp he
  exact ⟨later, earlier, ticket, rfl, fun x hx => Event.clears_of_ofCache (hl x hx)⟩

lemma landed_of_cached {host : String} {s : Slot} {l : List Event} {r : Result}
    (h : cached host s l = some r) : ∃ ticket, .landed host s ticket r true ∈ l := by
  obtain ⟨later, earlier, ticket, rfl, -⟩ := cached_eq_some h
  exact ⟨ticket, List.mem_append_right later List.mem_cons_self⟩

lemma flying_eq_some {host : String} {s : Slot} {l : List Event} {ticket : Nat}
    (h : flying host s l = some ticket) :
    ∃ later earlier, l = later ++ .takenOff host s ticket :: earlier ∧
      ∀ e ∈ later, e.clears host s = false := by
  obtain ⟨later, e, earlier, rfl, he, hl⟩ := latest_eq_some h
  rw [Event.ofFlight_eq_some_some] at he
  subst he
  exact ⟨later, earlier, rfl,
    fun x hx => Event.clears_of_ofCache (Event.ofCache_of_ofFlight (hl x hx))⟩

lemma heard_cons (host : String) (c : Nat) (e : Event) (l : List Event) :
    heard host c (e :: l) = (e.ofCall host c).or (heard host c l) := by
  unfold heard
  rw [List.findSome?_cons]
  cases e.ofCall host c <;> rfl

lemma promised_cons (host : String) (c : Nat) (e : Event) (l : List Event) :
    promised host c (e :: l) = (e.ofPromise host c).or (promised host c l) := by
  unfold promised
  rw [List.findSome?_cons]
  cases e.ofPromise host c <;> rfl

lemma owed_cons (host : String) (c : Nat) (e : Event) (l : List Event) :
    owed host c (e :: l) = (e.ofDebt host c).getD (owed host c l) :=
  latest_cons _ e l

lemma enrolled_cons (host : String) (s : Slot) (c : Nat) (e : Event) (l : List Event) :
    enrolled host s c (e :: l) = (e.ofRoll host s c).getD (enrolled host s c l) := by
  unfold enrolled
  rw [List.findSome?_cons]
  cases e.ofRoll host s c <;> rfl

lemma enrolled_append {host : String} {s : Slot} {c : Nat} {l₁ l₂ : List Event}
    (h : enrolled host s c l₂ = true) (hl : .unsubscribed host s c ∉ l₁) :
    enrolled host s c (l₁ ++ l₂) = true := by
  induction l₁ with
  | nil => exact h
  | cons e l₁ ih =>
    rw [List.mem_cons, not_or] at hl
    rw [List.cons_append, enrolled_cons, ih hl.2]
    cases hr : e.ofRoll host s c with
    | none => rfl
    | some b =>
      rcases Event.ofRoll_eq_some hr with ⟨rfl, -⟩ | ⟨-, rfl⟩
      · rfl
      · exact absurd rfl hl.1

lemma departures_cons (e : Event) (l : List Event) :
    departures (e :: l) = departures l + (if e.isDeparture then 1 else 0) :=
  List.countP_cons

/-- Whoever is registered has been subscribed. -/
lemma subscribed_of_enrolled {host : String} {s : Slot} {c : Nat} {l : List Event}
    (h : enrolled host s c l = true) : ∃ name, .subscribed host s c name ∈ l := by
  induction l with
  | nil => cases h
  | cons e l ih =>
    rw [enrolled_cons] at h
    cases hr : e.ofRoll host s c with
    | none =>
      rw [hr, Option.getD_none] at h
      obtain ⟨name, hn⟩ := ih h
      exact ⟨name, List.mem_cons_of_mem e hn⟩
    | some b =>
      rw [hr, Option.getD_some] at h
      subst h
      rcases Event.ofRoll_eq_some hr with ⟨-, name, rfl⟩ | ⟨hf, -⟩
      · exact ⟨name, List.mem_cons_self⟩
      · cases hf

/-! ## Calls and debts -/

@[simp] lemma heard_called (host : String) (s : Slot) (c : Nat) (callback : String) (r : Result)
    (l : List Event) : heard host c (.called host s c callback r :: l) = some r := by
  simp [heard_cons, Event.ofCall]

@[simp] lemma promised_called (host : String) (s : Slot) (c : Nat) (callback : String)
    (r : Result) (l : List Event) :
    promised host c (.called host s c callback r :: l) = some r := by
  simp [promised_cons, Event.ofPromise, Event.ofCall]

@[simp] lemma owed_called (host : String) (s : Slot) (c : Nat) (callback : String) (r : Result)
    (l : List Event) : owed host c (.called host s c callback r :: l) = none := by
  simp [owed_cons, Event.ofDebt, Event.ofCall]

lemma promised_delivering {host : String} {c : Nat} {picked : List Nat} (h : c ∈ picked)
    (s : Slot) (pass : Pass) (r : Result) (l : List Event) :
    promised host c (.delivering host s pass r picked :: l) = some r := by
  simp [promised_cons, Event.ofPromise, Event.ofCall, Event.ofOffer, h]

lemma owed_delivering {host : String} {c : Nat} {picked : List Nat} (h : c ∈ picked)
    (s : Slot) (pass : Pass) (r : Result) (l : List Event) :
    owed host c (.delivering host s pass r picked :: l) = some (s, r) := by
  simp [owed_cons, Event.ofDebt, Event.ofCall, Event.ofOffer, h]

@[simp] lemma heard_abandoned (host h : String) (s : Slot) (c : Nat) (pass : Pass)
    (l : List Event) : heard host c (.abandoned h s pass :: l) = heard host c l := by
  simp [heard_cons, Event.ofCall]

@[simp] lemma promised_abandoned (host h : String) (s : Slot) (c : Nat) (pass : Pass)
    (l : List Event) : promised host c (.abandoned h s pass :: l) = promised host c l := by
  simp [promised_cons, Event.ofPromise, Event.ofCall, Event.ofOffer]

@[simp] lemma owed_abandoned (host h : String) (s : Slot) (c : Nat) (pass : Pass)
    (l : List Event) : owed host c (.abandoned h s pass :: l) = none := by
  simp [owed_cons, Event.ofDebt]

/-- An event that says nothing about the calls of a subscriber. -/
lemma replays_cons {host : String} {c : Nat} {e : Event} (h : e.Idle host c) (l : List Event) :
    heard host c (e :: l) = heard host c l ∧ promised host c (e :: l) = promised host c l ∧
      owed host c (e :: l) = owed host c l := by
  rw [heard_cons, promised_cons, owed_cons, h.1, h.2.1, h.2.2]
  exact ⟨rfl, rfl, rfl⟩

lemma promised_of_owed {host : String} {c : Nat} {l : List Event} {s : Slot} {r : Result}
    (h : owed host c l = some (s, r)) : promised host c l = some r := by
  induction l with
  | nil => cases h
  | cons e l ih =>
    rcases e.call_cases host c with
      ⟨s', callback, r', rfl⟩ | ⟨s', pass, r', picked, rfl, hm⟩ | ⟨h', s', pass, rfl⟩ | hi
    · rw [owed_called] at h
      cases h
    · rw [owed_delivering hm] at h
      cases h
      exact promised_delivering hm s pass r l
    · rw [owed_abandoned] at h
      cases h
    · obtain ⟨-, hp, ho⟩ := replays_cons hi l
      rw [ho] at h
      rw [hp]
      exact ih h

end Journal

open Journal

namespace Lawful

variable {policy : String → Policy}

lemma tail {l₁ l₂ : List Event} (h : Lawful policy (l₁ ++ l₂)) : Lawful policy l₂ := by
  induction l₁ with
  | nil => exact h
  | cons e l₁ ih => exact ih h.2

lemma fits {l₁ l₂ : List Event} {e : Event} (h : Lawful policy (l₁ ++ e :: l₂)) :
    e.Fits policy l₂ :=
  h.tail.1

lemma ticket_lt {l : List Event} (h : Lawful policy l) {host : String} {s : Slot} {ticket : Nat}
    (hm : .takenOff host s ticket ∈ l) : ticket < departures l := by
  induction l with
  | nil => cases hm
  | cons e l ih =>
    rcases List.mem_cons.mp hm with rfl | hm
    · have hf : ticket = departures l := h.1.2.2
      rw [departures_cons, hf]
      exact Nat.lt_succ_self _
    · rw [departures_cons]
      exact Nat.lt_of_lt_of_le (ih h.2 hm) (Nat.le_add_right _ _)

/-- Tickets are given out once. -/
lemma eq_of_takenOff {l : List Event} (h : Lawful policy l) {host host' : String} {s s' : Slot}
    {ticket : Nat} (hm : .takenOff host s ticket ∈ l) (hm' : .takenOff host' s' ticket ∈ l) :
    host = host' ∧ s = s' := by
  induction l with
  | nil => cases hm
  | cons e l ih =>
    rcases List.mem_cons.mp hm with rfl | hl
    · rcases List.mem_cons.mp hm' with he | hl'
      · cases he
        exact ⟨rfl, rfl⟩
      · have hlt := Lawful.ticket_lt h.2 hl'
        have hf : ticket = departures l := h.1.2.2
        omega
    · rcases List.mem_cons.mp hm' with rfl | hl'
      · have hlt := Lawful.ticket_lt h.2 hl
        have hf : ticket = departures l := h.1.2.2
        omega
      · exact ih h.2 hl hl'

/-- A task is started once. -/
lemma eq_of_started {later later' earlier earlier' : List Event} {t : Nat} {task task' : Task}
    (h : Lawful policy (later ++ .started t task :: earlier))
    (heq : later ++ .started t task :: earlier = later' ++ .started t task' :: earlier') :
    later = later' ∧ task = task' ∧ earlier = earlier' := by
  have hcount : ∀ (m : List Event) (u : Nat) (job : Task) (l : List Event),
      starts l < starts (m ++ .started u job :: l) := by
    intro m u job l
    unfold starts
    rw [List.countP_append, List.countP_cons_of_pos rfl]
    omega
  rcases split_cases heq with ⟨m, rfl, rfl⟩ | ⟨hl, he, hr⟩ | ⟨m, rfl, rfl⟩
  · have hf : t = starts (m ++ .started t task' :: earlier') := h.fits.1
    have hf' : t = starts earlier' := h.tail.2.fits.1
    have hlt := hcount m t task' earlier'
    omega
  · cases he
    exact ⟨hl, rfl, hr⟩
  · rw [heq] at h
    have hf : t = starts (m ++ .started t task :: earlier) := h.fits.1
    have hf' : t = starts earlier := h.tail.2.fits.1
    have hlt := hcount m t task earlier
    omega

lemma started_once {l : List Event} (h : Lawful policy l) {t : Nat} {task task' : Task}
    (hm : .started t task ∈ l) (hm' : .started t task' ∈ l) : task = task' := by
  obtain ⟨later, earlier, hl⟩ := List.append_of_mem hm
  obtain ⟨later', earlier', hl'⟩ := List.append_of_mem hm'
  rw [hl] at h
  exact (h.eq_of_started (hl.symm.trans hl')).2.1

lemma started_lt {l : List Event} (h : Lawful policy l) {t : Nat} {task : Task}
    (hm : .started t task ∈ l) : t < starts l := by
  obtain ⟨later, earlier, rfl⟩ := List.append_of_mem hm
  have hf : t = starts earlier := h.fits.1
  unfold starts at hf ⊢
  rw [List.countP_append, List.countP_cons_of_pos rfl]
  omega

/-- What a task begins to emit, it begins after its start and before its end. -/
lemma of_begins {e : Event} {past : List Event} (h : Lawful policy (e :: past)) {t i : Nat}
    {p : String × Slot} (he : e.begins t i = some p) :
    (∃ task, .started t task ∈ e :: past) ∧ ∀ name how, .ended t name how ∉ e :: past := by
  rcases Event.begins_eq_some he with ⟨task, rfl⟩ | ⟨host, node, keys, rfl⟩
  · refine ⟨⟨task, List.mem_cons_self⟩, fun name how hm => ?_⟩
    rcases List.mem_cons.mp hm with heq | hm
    · cases heq
    · obtain ⟨later, earlier, rfl⟩ := List.append_of_mem hm
      obtain ⟨task', hs, -⟩ := h.2.fits.2.2.1
      have hlt := h.2.started_lt (List.mem_append_right later (List.mem_cons_of_mem _ hs))
      have hf : t = starts _ := h.1.1
      omega
  · obtain ⟨⟨task, hs⟩, hend⟩ := h.1
    refine ⟨⟨task, List.mem_cons_of_mem _ hs⟩, fun name how hm => ?_⟩
    rcases List.mem_cons.mp hm with heq | hm
    · cases heq
    · exact hend name how hm

/-- A task without a name cannot be cancelled. -/
lemma not_cancelled {l : List Event} (h : Lawful policy l) {t : Nat} {task : Task}
    (hs : .started t task ∈ l) (hn : task.name = none) (name : Option String) :
    .ended t name .cancelled ∉ l := by
  intro hm
  obtain ⟨later, earlier, rfl⟩ := List.append_of_mem hm
  obtain ⟨-, -, ⟨task', hs', rfl⟩, hname, -⟩ := h.fits
  obtain ⟨x, y, hsplit⟩ := List.append_of_mem hs
  obtain ⟨x', y', hsplit'⟩ := List.append_of_mem (List.mem_append_right later
    (List.mem_cons_of_mem (.ended t task'.name .cancelled) hs'))
  rw [hsplit] at h
  obtain ⟨-, rfl, -⟩ := h.eq_of_started (hsplit.symm.trans hsplit')
  have hsome := hname rfl
  rw [hn] at hsome
  cases hsome

/-- A flight takes off once. -/
lemma eq_of_split {later later' earlier earlier' : List Event} {host host' : String}
    {s s' : Slot} {ticket : Nat} (h : Lawful policy (later ++ .takenOff host s ticket :: earlier))
    (heq : later ++ .takenOff host s ticket :: earlier =
      later' ++ .takenOff host' s' ticket :: earlier') : later = later' ∧ earlier = earlier' := by
  rcases split_cases heq with ⟨m, rfl, rfl⟩ | ⟨hl, -, he⟩ | ⟨m, rfl, rfl⟩
  · have hf := h.fits.2.2
    have hlt := Lawful.ticket_lt h.tail.2 (List.mem_append_right m List.mem_cons_self)
    omega
  · exact ⟨hl, he⟩
  · rw [heq] at h
    have hf := h.fits.2.2
    have hlt := Lawful.ticket_lt h.tail.2 (List.mem_append_right m List.mem_cons_self)
    omega

/-- A computation lands once, and the numbers of results are given out once. -/
lemma landed_once {l : List Event} (h : Lawful policy l) {host host' : String} {s s' : Slot}
    {ticket ticket' : Nat} {r r' : Result} {kept kept' : Bool}
    (hm : .landed host s ticket r kept ∈ l) (hm' : .landed host' s' ticket' r' kept' ∈ l)
    (heq : ticket = ticket' ∨ r.id = r'.id) :
    Event.landed host s ticket r kept = .landed host' s' ticket' r' kept' := by
  induction l with
  | nil => cases hm
  | cons e l ih =>
    rcases List.mem_cons.mp hm with rfl | hl
    · rcases List.mem_cons.mp hm' with he | hl'
      · exact he.symm
      · have hother := h.1.2.2 _ _ _ _ _ hl'
        omega
    · rcases List.mem_cons.mp hm' with rfl | hl'
      · have hother := h.1.2.2 _ _ _ _ _ hl
        omega
      · exact ih h.2 hl hl'

/-! ## Caching -/

lemma cached_none_of_flying {l : List Event} (h : Lawful policy l) {host : String} {s : Slot}
    {ticket : Nat} (hf : flying host s l = some ticket) : cached host s l = none := by
  obtain ⟨later, e, earlier, rfl, he, hl⟩ := latest_eq_some hf
  rw [Event.ofFlight_eq_some_some] at he
  subst he
  unfold cached
  rw [latest_append _ _ _ fun x hx => Event.ofCache_of_ofFlight (hl x hx)]
  exact h.fits.1

/-- A cached result comes from a computation that was started after the slot was cleared last. -/
lemma cached_since {l : List Event} (h : Lawful policy l) {host : String} {s : Slot}
    {r : Result} (hc : cached host s l = some r) :
    ∃ later mid earlier ticket,
      l = later ++ .landed host s ticket r true :: (mid ++ .takenOff host s ticket :: earlier) ∧
        (∀ e ∈ later, e.clears host s = false) ∧ ∀ e ∈ mid, e.clears host s = false := by
  obtain ⟨later, before, ticket, rfl, hl⟩ := cached_eq_some hc
  have hk : true = decide (flying host s before = some ticket) := h.fits.2.1
  obtain ⟨mid, earlier, rfl, hm⟩ := flying_eq_some (of_decide_eq_true hk.symm)
  exact ⟨later, mid, earlier, ticket, rfl, hl, hm⟩

/-- A result stays cached until the slot is cleared. -/
lemma cached_keep {e : Event} {l : List Event} (h : Lawful policy (e :: l)) {host : String}
    {s : Slot} {r : Result} (he : e.clears host s = false) (hc : cached host s l = some r) :
    cached host s (e :: l) = some r := by
  have hnone : e.ofCache host s = none := by
    cases ho : e.ofCache host s with
    | none => rfl
    | some o =>
      cases o with
      | none =>
        unfold Event.ofCache at ho
        rw [he, if_neg Bool.false_ne_true] at ho
        cases hl : e.ofLanding host s <;> rw [hl] at ho <;> cases ho
      | some r' =>
        obtain ⟨ticket, rfl⟩ := Event.ofCache_eq_some_some.mp ho
        have hf : flying host s l = some ticket := of_decide_eq_true h.1.2.1.symm
        rw [h.2.cached_none_of_flying hf] at hc
        cases hc
  unfold cached
  rw [latest_cons, hnone, Option.getD_none]
  exact hc

lemma cached_append {new past : List Event} (h : Lawful policy (new ++ past)) {host : String}
    {s : Slot} {r : Result} (hn : ∀ e ∈ new, e.clears host s = false)
    (hc : cached host s past = some r) : cached host s (new ++ past) = some r := by
  induction new with
  | nil => exact hc
  | cons e new ih =>
    rw [List.cons_append] at h ⊢
    exact h.cached_keep (hn e List.mem_cons_self)
      (ih h.2 fun x hx => hn x (List.mem_cons_of_mem e hx))

/-- Until the slot is cleared, a computation is in flight, or else what it came to is cached. -/
lemma flying_or_landed {after before : List Event} {host : String} {s : Slot} {ticket : Nat}
    (h : Lawful policy (after ++ .takenOff host s ticket :: before))
    (hn : ∀ e ∈ after, e.clears host s = false) :
    flying host s (after ++ .takenOff host s ticket :: before) = some ticket ∨
      ∃ r, cached host s (after ++ .takenOff host s ticket :: before) = some r ∧
        .landed host s ticket r true ∈ after := by
  induction after with
  | nil =>
    left
    show latest _ (_ :: before) = _
    rw [latest_cons, Event.ofFlight_eq_some_some.mpr rfl]
    rfl
  | cons e after ih =>
    have he := hn e List.mem_cons_self
    rw [List.cons_append] at h ⊢
    rcases ih h.2 fun x hx => hn x (List.mem_cons_of_mem e hx) with hf | ⟨r, hc, hm⟩
    · cases ho : e.ofFlight host s with
      | none =>
        left
        unfold flying
        rw [latest_cons, ho]
        exact hf
      | some o =>
        cases o with
        | some other =>
          rw [Event.ofFlight_eq_some_some] at ho
          subst ho
          rw [h.1.2.1] at hf
          cases hf
        | none =>
          cases hl : e.ofLanding host s with
          | none => simp [Event.ofFlight, he, hl] at ho
          | some r =>
            have hcache : e.ofCache host s = some (some r) := by
              simp [Event.ofCache, he, hl]
            obtain ⟨other, rfl⟩ := Event.ofCache_eq_some_some.mp hcache
            have hother : flying host s _ = some other := of_decide_eq_true h.1.2.1.symm
            rw [hf] at hother
            cases hother
            refine .inr ⟨r, ?_, List.mem_cons_self⟩
            unfold cached
            rw [latest_cons, hcache]
            rfl
    · exact .inr ⟨r, h.cached_keep he hc, List.mem_cons_of_mem e hm⟩

/-- What is cached after the slot was cleared is fresh. -/
lemma fresh_of_clears {after before : List Event} {e : Event}
    (h : Lawful policy (after ++ e :: before)) {host : String} {s : Slot} {r : Result}
    (he : e.clears host s = true) (hc : cached host s (after ++ e :: before) = some r) :
    Fresh host s r after := by
  obtain ⟨later, mid, earlier, ticket, hl, hlater, hmid⟩ := h.cached_since hc
  rcases split_cases hl with ⟨m, rfl, -⟩ | ⟨rfl, rfl, -⟩ | ⟨m, rfl, hm⟩
  · have hf := hlater e (by simp)
    rw [he] at hf
    cases hf
  · cases he
  · rcases split_cases hm with ⟨m', rfl, -⟩ | ⟨rfl, rfl, -⟩ | ⟨m', rfl, -⟩
    · exact ⟨ticket, by simp, by simp⟩
    · cases he
    · have hf := hmid e (by simp)
      rw [he] at hf
      cases hf

/-- Only a delivery that selects a subscriber promises it something new. -/
lemma promised_step {e : Event} {l : List Event} (h : Lawful policy (e :: l)) (host : String)
    (c : Nat) : promised host c (e :: l) = promised host c l ∨
      ∃ s pass r picked, e = .delivering host s pass r picked ∧ c ∈ picked ∧
        promised host c (e :: l) = some r := by
  rcases e.call_cases host c with
    ⟨s, callback, r, rfl⟩ | ⟨s, pass, r, picked, rfl, hm⟩ | ⟨h', s, pass, rfl⟩ | hi
  · rw [promised_called]
    exact .inl (promised_of_owed h.1).symm
  · exact .inr ⟨s, pass, r, picked, rfl, hm, promised_delivering hm s pass r l⟩
  · exact .inl (promised_abandoned host h' s c pass l)
  · exact .inl (replays_cons hi l).2.1

/-- What was promised to a subscriber was cached then. -/
lemma landed_of_promised {l : List Event} (h : Lawful policy l) {host : String} {c : Nat}
    {r : Result} (hp : promised host c l = some r) :
    ∃ s ticket, .landed host s ticket r true ∈ l := by
  induction l with
  | nil => cases hp
  | cons e l ih =>
    rcases h.promised_step host c with hold | ⟨s, pass, r', picked, rfl, -, hnew⟩
    · obtain ⟨s, ticket, hm⟩ := ih h.2 (hold.symm.trans hp)
      exact ⟨s, ticket, List.mem_cons_of_mem e hm⟩
    · rw [hnew] at hp
      cases hp
      obtain ⟨ticket, hm⟩ := landed_of_cached h.1.1
      exact ⟨s, ticket, List.mem_cons_of_mem _ hm⟩

/-- Whoever is owed something from a slot has been subscribed to it. -/
lemma subscribed_of_owed {l : List Event} (h : Lawful policy l) {host : String} {c : Nat}
    {s : Slot} {r : Result} (ho : owed host c l = some (s, r)) :
    ∃ name, .subscribed host s c name ∈ l := by
  induction l with
  | nil => cases ho
  | cons e l ih =>
    rcases e.call_cases host c with
      ⟨s', callback, r', rfl⟩ | ⟨s', pass, r', picked, rfl, hm⟩ | ⟨h', s', pass, rfl⟩ | hi
    · rw [owed_called] at ho
      cases ho
    · rw [owed_delivering hm] at ho
      cases ho
      obtain ⟨name, hs⟩ := subscribed_of_enrolled (h.1.2.2.1 c hm)
      exact ⟨name, List.mem_cons_of_mem _ hs⟩
    · rw [owed_abandoned] at ho
      cases ho
    · rw [(replays_cons hi l).2.2] at ho
      obtain ⟨name, hs⟩ := ih h.2 ho
      exact ⟨name, List.mem_cons_of_mem e hs⟩

/-- Whoever is owed a call was selected for it, and has neither been called nor selected since. -/
lemma offer_of_owed {l : List Event} {host : String} {c : Nat} {s : Slot} {r : Result}
    (ho : owed host c l = some (s, r)) :
    ∃ gap pass picked before, l = gap ++ .delivering host s pass r picked :: before ∧ c ∈ picked ∧
      ∀ e ∈ gap, e.ofDebt host c = none := by
  obtain ⟨gap, e, before, rfl, he, hgap⟩ := latest_eq_some ho
  rcases e.call_cases host c with
    ⟨j, callback, r', rfl⟩ | ⟨j, pass, r', picked, rfl, hm⟩ | ⟨i, j, pass, rfl⟩ | hi
  · simp [Event.ofDebt, Event.ofCall] at he
  · simp only [Event.ofDebt, Event.ofCall, Event.ofOffer, Option.isSome_none, Bool.false_eq_true,
      if_false, hm, and_self, if_true, Option.map_some, Option.some.injEq, Prod.mk.injEq] at he
    obtain ⟨rfl, rfl⟩ := he
    exact ⟨gap, pass, picked, before, rfl, hm, hgap⟩
  · simp [Event.ofDebt] at he
  · rw [hi.2.2] at he
    cases he

/-- A subscriber that was selected is called before anything else is delivered, unless one of them
panics. -/
lemma owed_or_called {after before : List Event} {host : String} {s : Slot} {pass : Pass}
    {r : Result} {picked : List Nat}
    (h : Lawful policy (after ++ .delivering host s pass r picked :: before)) {c : Nat}
    (hm : c ∈ picked) (hp : ∀ text, .panicked .subscriber text ∉ after) :
    owed host c (after ++ .delivering host s pass r picked :: before) = some (s, r) ∨
      ∃ callback, .called host s c callback r ∈ after := by
  induction after with
  | nil => exact .inl (owed_delivering hm s pass r before)
  | cons e after ih =>
    have hp' : ∀ text, .panicked .subscriber text ∉ after := fun text hx =>
      hp text (List.mem_cons_of_mem e hx)
    rw [List.cons_append] at h ⊢
    rcases ih h.2 hp' with ho | ⟨callback, hc⟩
    · rcases e.call_cases host c with
        ⟨s', callback, r', rfl⟩ | ⟨s', pass', r', picked', rfl, -⟩ | ⟨h', s', pass', rfl⟩ | hi
      · have hf := ho.symm.trans h.1
        cases hf
        exact .inr ⟨callback, List.mem_cons_self⟩
      · have hf := h.1.2.1 host c
        rw [ho] at hf
        cases hf
      · rcases h.1 with hf | ⟨source, text, older, hf⟩
        · rw [hf host c] at ho
          cases ho
        · cases after with
          | nil => cases hf
          | cons x after =>
            -- Only the panic of a subscriber leaves somebody uncalled.
            obtain ⟨rfl, -⟩ := List.cons_eq_cons.mp hf
            have hsource : source ≠ .subscriber := fun hs => hp text (by simp [hs])
            have hnone : owed host c (after ++ .delivering host s pass r picked :: before) = none :=
              h.2.1.2.2 hsource host c
            have hsome : owed host c (after ++ .delivering host s pass r picked :: before) =
                some (s, r) := ho
            rw [hsome] at hnone
            cases hnone
      · rw [(replays_cons hi _).2.2]
        exact .inl ho
    · exact .inr ⟨callback, List.mem_cons_of_mem e hc⟩

/-- A task that came to its end has delivered what it was to emit, unless something panicked
meanwhile. -/
lemma delivered {later earlier : List Event} {e : Event} {t i : Nat} {name : Option String}
    {how : End} {host : String} {s : Slot}
    (h : Lawful policy (.ended t name how :: (later ++ e :: earlier))) (hw : how.proper = true)
    (he : e.begins t i = some (host, s)) (hp : ¬Panicked later) : Emitted host s later := by
  rcases (h.1.2.2.2.2.2 hw).1 later e earlier i host s rfl he with hem | hpan
  · exact hem
  · exact absurd hpan hp

/-- Flights and tasks panic only after something else did, and engines never do. -/
lemma not_panicked {l : List Event} (h : Lawful policy l) (hn : Unharmed l) : ¬Panicked l := by
  induction l with
  | nil =>
    rintro ⟨source, text, hm⟩
    cases hm
  | cons e l ih =>
    have hl : ¬Panicked l := ih h.2 fun text =>
      ⟨fun hm => (hn text).1 (List.mem_cons_of_mem e hm),
        fun hm => (hn text).2 (List.mem_cons_of_mem e hm)⟩
    rintro ⟨source, text, hm⟩
    rcases List.mem_cons.mp hm with rfl | hm
    · cases source with
      | node => exact (hn text).1 List.mem_cons_self
      | subscriber => exact (hn text).2 List.mem_cons_self
      | engine => exact h.1.1 rfl
      | former => exact hl (h.1.2.1 rfl)
    · exact hl ⟨source, text, hm⟩

/-- While nothing panics, whoever is owed nothing was called with all that was promised since. -/
lemma heard_or_same {after base : List Event} (h : Lawful policy (after ++ base))
    (hp : ¬Panicked after) {host : String} {c : Nat} (ho : owed host c (after ++ base) = none) :
    heard host c (after ++ base) = promised host c (after ++ base) ∨
      heard host c (after ++ base) = heard host c base ∧
        promised host c (after ++ base) = promised host c base := by
  induction after with
  | nil => exact .inr ⟨rfl, rfl⟩
  | cons e after ih =>
    have hp' : ¬Panicked after := by
      rintro ⟨source, text, hx⟩
      exact hp ⟨source, text, List.mem_cons_of_mem e hx⟩
    rw [List.cons_append] at h ho ⊢
    rcases e.call_cases host c with
      ⟨s, callback, r, rfl⟩ | ⟨s, pass, r, picked, rfl, hm⟩ | ⟨h', s, pass, rfl⟩ | hi
    · rw [heard_called, promised_called]
      exact .inl rfl
    · rw [owed_delivering hm] at ho
      cases ho
    · rw [heard_abandoned, promised_abandoned]
      rcases h.1 with hf | ⟨source, text, older, hf⟩
      · exact ih h.2 hp' (hf host c)
      · cases after with
        | nil => exact .inr ⟨rfl, rfl⟩
        | cons x after =>
          obtain ⟨rfl, -⟩ := List.cons_eq_cons.mp hf
          exact absurd ⟨source, text, by simp⟩ hp
    · obtain ⟨hh, hpr, hd⟩ := replays_cons hi (after ++ base)
      rw [hd] at ho
      rw [hh, hpr]
      exact ih h.2 hp' ho

/-- Without a panic, whoever is owed nothing was called with all that was promised. -/
lemma heard_eq_promised {l : List Event} (h : Lawful policy l) (hp : ¬Panicked l)
    {host : String} {c : Nat} (ho : owed host c l = none) : heard host c l = promised host c l := by
  rw [← List.append_nil l] at h ho ⊢
  rcases h.heard_or_same hp ho with heq | ⟨hh, hpr⟩
  · exact heq
  · rw [hh, hpr]
    rfl

end Lawful

end Dataflow
