import Dataflow.Proofs.Selection

/-!
# What a policy can make of a sequence of deliveries

An engine is taken through subscriptions, cancellations and deliveries alone. A policy that finds more
results to be the same leaves other records than the policy by identity as soon as it passes over the
first delivery, so afterwards either of the two may call somebody whom the other does not. They are
compared subscriber by subscriber: as long as a subscriber has been called equally often under both, what
was delivered to it last is the same result as well, and identity catches up with every further call.
-/

namespace Dataflow

/-- What can happen to the rolls and records of an engine. -/
inductive Turn where
  | subscribe (s : Slot) (c : Nat)
  | unsubscribe (s : Slot) (c : Nat)
  | deliver (s : Slot) (r : Result)

namespace Engine

/-- Who is selected in a turn, and the engine after it. -/
def turn (p : Policy) (e : Engine) : Turn → List Nat × Engine
  | .subscribe s c => ([], e.subscribe s c)
  | .unsubscribe s c => ([], e.unsubscribe s c)
  | .deliver s r => e.select p s r

/-- The engine after a sequence of turns. -/
def after (p : Policy) (e : Engine) (turns : List Turn) : Engine :=
  turns.foldl (fun e t => (e.turn p t).2) e

/-- Who is selected in the course of a sequence of turns, one entry for every time. -/
def selections (p : Policy) : Engine → List Turn → List Nat
  | _, [] => []
  | e, t :: rest => (e.turn p t).1 ++ selections p (e.turn p t).2 rest

/-- Whether a subscriber is registered on any slot. -/
def Enrolled (e : Engine) (c : Nat) : Prop := ∃ s, c ∈ e.subscribers s

/-- The rolls and the records of an engine count alike. -/
structure Balanced (e : Engine) : Prop where
  listed : e.Listed
  tallied : ∀ c (slots : List Slot), slots.Nodup →
    (slots.flatMap e.subscribers).count c ≤ e.registrations c

namespace Balanced

variable {e : Engine}

lemma empty : ({} : Engine).Balanced := by
  refine ⟨.empty, fun c slots _ => ?_⟩
  have hnone : slots.flatMap ({} : Engine).subscribers = [] :=
    List.flatMap_eq_nil_iff.mpr fun _ _ => rfl
  rw [hnone]
  exact Nat.zero_le _

lemma turn (h : e.Balanced) (p : Policy) (t : Turn) : (e.turn p t).2.Balanced := by
  cases t with
  | subscribe s c => exact ⟨h.listed.subscribe s c, Ledger.tallied_subscribe h.tallied s c⟩
  | unsubscribe s c => exact ⟨h.listed.unsubscribe s c, Ledger.tallied_unsubscribe h.tallied s c⟩
  | deliver s r =>
    refine ⟨h.listed.select p s r, fun c slots hn => ?_⟩
    show (slots.flatMap e.subscribers).count c ≤ (e.select p s r).2.registrations c
    rw [registrations_select]
    exact h.tallied c slots hn

lemma after (h : e.Balanced) (p : Policy) (turns : List Turn) : (e.after p turns).Balanced := by
  induction turns generalizing e with
  | nil => exact h
  | cons t rest ih => exact ih (h.turn p t)

lemma noted (h : e.Balanced) : e.Noted := by
  intro s c hc
  have hle := h.tallied c [s] (by simp)
  have hpos := List.count_pos_iff.mpr hc
  rw [List.flatMap_cons, List.flatMap_nil, List.append_nil] at hle
  omega

/-- Whoever is registered nowhere has no record. -/
lemma lastOf_of_not_enrolled (h : e.Balanced) {c : Nat} (hc : ¬e.Enrolled c) :
    e.lastOf c = none := by
  cases hl : e.lastOf c with
  | none => rfl
  | some r => exact absurd (h.listed.registered_of_lastOf hl) hc

/-- A turn at which a subscriber that stays registered is not selected leaves its record alone. -/
lemma lastOf_turn (h : e.Balanced) {p : Policy} {t : Turn} {c : Nat}
    (hc : (e.turn p t).2.Enrolled c) (hs : c ∉ (e.turn p t).1) :
    (e.turn p t).2.lastOf c = e.lastOf c := by
  cases t with
  | subscribe s d => exact lastOf_subscribe e s d c
  | unsubscribe s d =>
    obtain ⟨j, hj⟩ := hc
    exact lastOf_unsubscribe_of_pos e s d c ((h.turn p (.unsubscribe s d)).noted j c hj)
  | deliver s r =>
    exact (h.noted.lastOf_select p s r c).trans (if_neg hs)

/-- Nor does a sequence of such turns change it. -/
lemma lastOf_after (h : e.Balanced) {p : Policy} {turns : List Turn} {c : Nat}
    (hc : ∀ l, l <+: turns → (e.after p l).Enrolled c) (hs : c ∉ e.selections p turns) :
    (e.after p turns).lastOf c = e.lastOf c := by
  induction turns generalizing e with
  | nil => rfl
  | cons t rest ih =>
    rw [selections, List.mem_append, not_or] at hs
    have hfirst : (e.turn p t).2.lastOf c = e.lastOf c :=
      h.lastOf_turn (hc [t] (List.cons_prefix_cons.mpr ⟨rfl, List.nil_prefix⟩)) hs.1
    rw [← hfirst]
    exact ih (h.turn p t) (fun l hl => hc (t :: l) (List.cons_prefix_cons.mpr ⟨rfl, hl⟩)) hs.2

end Balanced

/-- What holds of a subscriber that was selected `n` times under a policy, with the engine `e` as the
outcome, and `m` times under identity, with the outcome `e'`. -/
structure Outrun (c : Nat) (e e' : Engine) (n m : Nat) : Prop where
  subscribers : ∀ s, e.subscribers s = e'.subscribers s
  blank : e.lastOf c = none ↔ e'.lastOf c = none
  le : n ≤ m
  /-- Of those who were called equally often under both the same result is on record. -/
  level : n = m → ∀ r r', e.lastOf c = some r → e'.lastOf c = some r' → r.id = r'.id

/-- Whom a delivery under identity passes over, to that one the very result was delivered last. -/
lemma Noted.delivered_of_not_selected {e : Engine} (h : e.Noted) {s : Slot} {r : Result} {c : Nat}
    (hc : c ∈ e.subscribers s) (hs : c ∉ (e.select .identity s r).1) :
    ∃ last, e.lastOf c = some last ∧ last.id = r.id := by
  cases hl : e.lastOf c with
  | none => exact absurd (h.mem_select.mpr ⟨hc, by simp [hl]⟩) hs
  | some last =>
    refine ⟨last, rfl, Classical.byContradiction fun hid => hs (h.mem_select.mpr ⟨hc, ?_⟩)⟩
    intro last' hl'
    rw [hl] at hl'
    cases hl'
    simp [Policy.same, hid]

/-- Whomever a delivery selects, to that one another result was delivered last. -/
lemma Noted.ne_of_selected {e : Engine} (h : e.Noted) {p : Policy} {s : Slot} {r last : Result}
    {c : Nat} (hs : c ∈ (e.select p s r).1) (hl : e.lastOf c = some last) : last.id ≠ r.id := by
  intro hid
  have hnew := (h.mem_select.mp hs).2 last hl
  simp [Policy.same, hid] at hnew

namespace Outrun

variable {c n m : Nat} {e e' : Engine}

lemma subscribe (h : Outrun c e e' n m) (s : Slot) (d : Nat) :
    Outrun c (e.subscribe s d) (e'.subscribe s d) n m := by
  refine ⟨fun j => ?_, ?_, h.le, ?_⟩
  · rw [subscribers_subscribe, subscribers_subscribe, h.subscribers s, h.subscribers j]
  · rw [lastOf_subscribe, lastOf_subscribe]
    exact h.blank
  · rw [lastOf_subscribe, lastOf_subscribe]
    exact h.level

lemma unsubscribe (h : Outrun c e e' n m) (hb : e.Balanced) (hb' : e'.Balanced) (s : Slot) (d : Nat) :
    Outrun c (e.unsubscribe s d) (e'.unsubscribe s d) n m := by
  have hsub : ∀ j, (e.unsubscribe s d).subscribers j = (e'.unsubscribe s d).subscribers j := by
    intro j
    rw [subscribers_unsubscribe, subscribers_unsubscribe, h.subscribers s, h.subscribers j]
  have hturn : (e.unsubscribe s d).Balanced := hb.turn .identity (.unsubscribe s d)
  have hturn' : (e'.unsubscribe s d).Balanced := hb'.turn .identity (.unsubscribe s d)
  by_cases hin : (e.unsubscribe s d).Enrolled c
  · have hin' : (e'.unsubscribe s d).Enrolled c := by
      obtain ⟨j, hj⟩ := hin
      exact ⟨j, hsub j ▸ hj⟩
    have hkeep : (e.unsubscribe s d).lastOf c = e.lastOf c :=
      hb.lastOf_turn (p := .identity) (t := .unsubscribe s d) hin List.not_mem_nil
    have hkeep' : (e'.unsubscribe s d).lastOf c = e'.lastOf c :=
      hb'.lastOf_turn (p := .identity) (t := .unsubscribe s d) hin' List.not_mem_nil
    refine ⟨hsub, ?_, h.le, ?_⟩
    · rw [hkeep, hkeep']
      exact h.blank
    · rw [hkeep, hkeep']
      exact h.level
  · have hout' : ¬(e'.unsubscribe s d).Enrolled c := by
      rintro ⟨j, hj⟩
      exact hin ⟨j, (hsub j).symm ▸ hj⟩
    have hnone := hturn.lastOf_of_not_enrolled hin
    have hnone' := hturn'.lastOf_of_not_enrolled hout'
    refine ⟨hsub, by rw [hnone, hnone'], h.le, fun _ r r' hr => ?_⟩
    rw [hnone] at hr
    cases hr

lemma select (h : Outrun c e e' n m) (hb : e.Noted) (hb' : e'.Noted) (p : Policy) (s : Slot)
    (r : Result) :
    Outrun c (e.select p s r).2 (e'.select .identity s r).2
      (n + (e.select p s r).1.count c) (m + (e'.select .identity s r).1.count c) := by
  have hsub : ∀ j, (e.select p s r).2.subscribers j = (e'.select .identity s r).2.subscribers j :=
    h.subscribers
  have hcount : ∀ (q : Policy) (f : Engine), (f.select q s r).1.count c =
      if c ∈ (f.select q s r).1 then 1 else 0 := by
    intro q f
    exact (f.nodup_select q s r).count
  have hlast := hb.lastOf_select p s r c
  have hlast' := hb'.lastOf_select .identity s r c
  rw [hcount, hcount]
  by_cases hin : c ∈ (e.select p s r).1 <;> by_cases hin' : c ∈ (e'.select .identity s r).1
  · rw [if_pos hin] at hlast ⊢
    rw [if_pos hin'] at hlast' ⊢
    refine ⟨hsub, by simp [hlast, hlast'], Nat.add_le_add_right h.le 1, fun _ x y hx hy => ?_⟩
    rw [hlast] at hx
    rw [hlast'] at hy
    cases hx
    cases hy
    rfl
  · rw [if_pos hin] at hlast ⊢
    rw [if_neg hin'] at hlast' ⊢
    obtain ⟨hmem, -⟩ := hb.mem_select.mp hin
    -- identity passes it over: the same result was delivered before, so it was ahead by one call
    obtain ⟨last', hl', hid'⟩ := hb'.delivered_of_not_selected (h.subscribers s ▸ hmem) hin'
    obtain ⟨last, hl⟩ : ∃ last, e.lastOf c = some last := by
      cases hl : e.lastOf c with
      | none =>
        rw [h.blank.mp hl] at hl'
        cases hl'
      | some last => exact ⟨last, rfl⟩
    have hlt : n ≠ m := fun hnm =>
      hb.ne_of_selected hin hl ((h.level hnm last last' hl hl').trans hid')
    have hle := h.le
    refine ⟨hsub, by simp [hlast, hlast', hl'], by omega, fun _ x y hx hy => ?_⟩
    rw [hlast] at hx
    rw [hlast', hl'] at hy
    cases hx
    cases hy
    exact hid'.symm
  · rw [if_neg hin] at hlast ⊢
    rw [if_pos hin'] at hlast' ⊢
    have hle := h.le
    refine ⟨hsub, ?_, by omega, fun hnm => by omega⟩
    obtain ⟨hmem, -⟩ := hb'.mem_select.mp hin'
    obtain ⟨last, hl, -⟩ := has_of_select e p s r c ((h.subscribers s).symm ▸ hmem)
      (hb s c ((h.subscribers s).symm ▸ hmem))
    rw [hl, hlast']
    simp
  · rw [if_neg hin] at hlast ⊢
    rw [if_neg hin'] at hlast' ⊢
    refine ⟨hsub, ?_, h.le, ?_⟩
    · rw [hlast, hlast']
      exact h.blank
    · rw [hlast, hlast']
      exact h.level

lemma turn (h : Outrun c e e' n m) (hb : e.Balanced) (hb' : e'.Balanced) (p : Policy) (t : Turn) :
    Outrun c (e.turn p t).2 (e'.turn .identity t).2
      (n + (e.turn p t).1.count c) (m + (e'.turn .identity t).1.count c) := by
  cases t with
  | subscribe s d => exact h.subscribe s d
  | unsubscribe s d => exact h.unsubscribe hb hb' s d
  | deliver s r => exact h.select hb.noted hb'.noted p s r

lemma after (h : Outrun c e e' n m) (hb : e.Balanced) (hb' : e'.Balanced) (p : Policy)
    (turns : List Turn) :
    Outrun c (e.after p turns) (e'.after .identity turns)
      (n + (e.selections p turns).count c) (m + (e'.selections .identity turns).count c) := by
  induction turns generalizing e e' n m with
  | nil => exact h
  | cons t rest ih =>
    rw [selections, selections, List.count_append, List.count_append, ← Nat.add_assoc,
      ← Nat.add_assoc]
    exact ih (h.turn hb hb' p t) (hb.turn p t) (hb'.turn .identity t)

end Outrun

/-- A subscriber that stays registered is selected for another result than the last time. -/
lemma Balanced.selected_again {e : Engine} (h : e.Balanced) {p : Policy} {c : Nat} {s s' : Slot}
    {r r' : Result} {between : List Turn} (hs : c ∈ (e.select p s r).1)
    (hc : ∀ l, l <+: between → ((e.select p s r).2.after p l).Enrolled c)
    (hno : c ∉ (e.select p s r).2.selections p between)
    (hs' : c ∈ (((e.select p s r).2.after p between).select p s' r').1) : r.id ≠ r'.id := by
  have hb : (e.select p s r).2.Balanced := h.turn p (.deliver s r)
  have hlast : (e.select p s r).2.lastOf c = some r := by
    rw [h.noted.lastOf_select, if_pos hs]
  rw [← hb.lastOf_after hc hno] at hlast
  exact (hb.after p between).noted.ne_of_selected hs' hlast

/-- No policy calls anybody more often than identity does: whatever is subscribed, unsubscribed and
delivered, from the empty engine on. Nor does any policy call a subscriber twice in a row with one
result while it stays registered. -/
theorem selections_le_identity (p : Policy) :
    (∀ turns c, (selections p {} turns).count c ≤ (selections .identity {} turns).count c) ∧
    ∀ before between c s s' r r',
      let e := ({} : Engine).after p before
      let e' := (e.select p s r).2
      c ∈ (e.select p s r).1 → (∀ l, l <+: between → (e'.after p l).Enrolled c) →
        c ∉ e'.selections p between → c ∈ ((e'.after p between).select p s' r').1 → r.id ≠ r'.id := by
  refine ⟨?_, ?_⟩
  · intro turns c
    have h : Outrun c {} {} 0 0 :=
      ⟨fun _ => rfl, Iff.rfl, Nat.le_refl 0, by rintro - r r' ⟨⟩⟩
    have hle := (h.after .empty .empty p turns).le
    rwa [Nat.zero_add, Nat.zero_add] at hle
  · intro before between c s s' r r' e e' hs hc hno hs'
    exact (Balanced.empty.after p before).selected_again hs hc hno hs'

/-- A policy that passes over one result of three: the records differ after the second delivery, and the
third one calls the subscriber under both. -/
theorem selections_le_identity_drifting :
    let s : Slot := ⟨"a", "out"⟩
    let r (n : Nat) : Result := ⟨n, .error (.nodeNotFound "a")⟩
    let p : Policy := .custom fun _ new => new.id == 1
    let turns : List Turn := [.subscribe s 0, .deliver s (r 0), .deliver s (r 1), .deliver s (r 2)]
    (selections p {} turns).count 0 = 2 ∧ (selections .identity {} turns).count 0 = 3 ∧
      (selections p {} turns).count 0 ≤ (selections .identity {} turns).count 0 ∧
      (r 0).id ≠ (r 2).id := by
  intro s r p turns
  refine ⟨by decide, by decide, (selections_le_identity p).1 turns 0,
    (selections_le_identity p).2 [.subscribe s 0] [.deliver s (r 1)] 0 s s (r 0) (r 2)
      (by decide) (fun l hl => ⟨s, ?_⟩) (by decide) (by decide)⟩
  obtain rfl | ⟨l', rfl, hl'⟩ := List.prefix_cons_iff.mp hl
  · decide
  · rw [List.prefix_nil.mp hl']
    decide

end Engine

end Dataflow
