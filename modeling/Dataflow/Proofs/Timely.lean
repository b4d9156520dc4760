import Dataflow.Proofs.Errands
import Dataflow.Proofs.Mirrors

/-!
# Emissions know of clearings

As long as nothing was cleared since an emission looked, what it saw is there: the computation that
it waits for is still in flight or its result is cached.
-/

namespace Dataflow

/-- From `e` to `e'`, whatever is gone was cleared, which shows in the count. -/
structure Engine.Lapses (e e' : Engine) : Prop where
  clears : e.clears ≤ e'.clears
  cached : e'.clears = e.clears → ∀ s, e.cached s ≠ none → e'.cached s ≠ none
  flying : e'.clears = e.clears → ∀ s ticket, e.flying s = some ticket →
    e'.flying s = some ticket ∨ e'.cached s ≠ none

namespace Engine

lemma Lapses.refl (e : Engine) : e.Lapses e :=
  ⟨Nat.le_refl _, fun _ _ h => h, fun _ _ _ h => .inl h⟩

lemma Lapses.of_lt {e e' : Engine} (h : e.clears < e'.clears) : e.Lapses e' :=
  ⟨Nat.le_of_lt h, fun he => absurd he (by omega), fun he => absurd he (by omega)⟩

lemma lapses_takeOff {e : Engine} {s : Slot} (h : e.flying s = none) (ticket : Nat) :
    e.Lapses (e.takeOff s ticket) := by
  refine ⟨Nat.le_refl _, fun _ _ hc => hc, fun _ j other hf => .inl ?_⟩
  rw [flying_takeOff]
  by_cases hj : s = j
  · subst hj
    rw [h] at hf
    cases hf
  · rw [if_neg hj, hf]

lemma lapses_land (e : Engine) (s : Slot) (ticket : Nat) (r : Result) :
    e.Lapses (e.land s ticket r) := by
  refine ⟨Nat.le_of_eq (e.land_frame s ticket r).2.1.symm, fun _ j hc => ?_, fun _ j other hf => ?_⟩
  · rw [cached_land]
    by_cases hj : e.flying s = some ticket ∧ s = j
    · rw [if_pos hj]
      exact Option.some_ne_none r
    · rw [if_neg hj]
      exact hc
  · rw [flying_land, cached_land]
    by_cases hj : e.flying s = some ticket ∧ s = j
    · rw [if_pos hj, if_pos hj]
      exact .inr (Option.some_ne_none r)
    · rw [if_neg hj, if_neg hj]
      exact .inl hf

lemma lapses_register (e : Engine) (n : Node) : e.Lapses (e.register n) := by
  by_cases hn : e.nodes.contains n.id = true
  · refine .of_lt ?_
    rw [(e.register_frame n).2.1, if_pos hn]
    exact Nat.lt_succ_self _
  · have hcached : ∀ j, (e.register n).cached j = e.cached j := fun j => by
      rw [cached_register, if_neg fun h => hn h.1]
    have hflying : ∀ j, (e.register n).flying j = e.flying j := fun j => by
      rw [flying_register, if_neg fun h => hn h.1]
    refine ⟨?_, fun _ j hc => ?_, fun _ j ticket hf => .inl ?_⟩
    · rw [(e.register_frame n).2.1]
      exact Nat.le_add_right _ _
    · rw [hcached]
      exact hc
    · rw [hflying, hf]

lemma lapses_clearAll (e : Engine) (node : String) (keys : List String) :
    e.Lapses (e.clearAll node keys) := by
  cases keys with
  | nil => exact .refl e
  | cons k keys =>
    refine .of_lt ?_
    rw [(e.clearAll_frame node (k :: keys)).2.1, List.length_cons]
    omega

end Engine

namespace Ledger

variable {b b' : Ledger}

lemma Move.lapses (h : Move b b') (host : String) : (b.engine host).Lapses (b'.engine host) := by
  obtain ⟨m, hc, hp⟩ := h.change
  obtain ⟨gates, passes, -, hg⟩ := hp.engine host
  suffices hm : (b.engine host).Lapses (m.engine host) by
    rw [hg]
    exact ⟨hm.clears, hm.cached, hm.flying⟩
  have hset : ∀ {i : String} {e : Engine}, (b.engine i).Lapses e →
      (b.engine host).Lapses (if i = host then e else b.engine host) := by
    intro i e he
    by_cases hi : i = host
    · subst hi
      rw [if_pos rfl]
      exact he
    · rw [if_neg hi]
      exact .refl _
  cases hc with
  | nothing => exact .refl _
  | takeOff i s _ hf => exact hset (Engine.lapses_takeOff hf _)
  | land ticket d c _ _ => exact hset (Engine.lapses_land _ _ _ _)
  | enlist i n => exact hset (Engine.lapses_register _ n)
  | unregister i id hn =>
    refine hset (.of_lt ?_)
    rw [((b.engine i).unregister_frame id hn).2.1]
    exact Nat.lt_succ_self _
  | enrol i s c name _ => exact hset ⟨Nat.le_refl _, fun _ _ h => h, fun _ _ _ h => .inl h⟩
  | unsubscribe i s c =>
    obtain ⟨subscriptions, delivered, he⟩ := (b.engine i).unsubscribe_frame s c
    refine hset ?_
    rw [he]
    exact ⟨Nat.le_refl _, fun _ _ h => h, fun _ _ _ h => .inl h⟩
  | clearKeys t i node keys => exact hset (Engine.lapses_clearAll _ node keys)
  | offer i s pass r _ _ => exact hset ⟨Nat.le_refl _, fun _ _ h => h, fun _ _ _ h => .inl h⟩

/-- What the emission counted on is there, if nothing was cleared since. -/
def OnTime (e : Engine) (x : Errand) : Prop :=
  match x.phase with
  | .waiting _ clears ticket => clears ≤ e.clears ∧
      (clears = e.clears → e.flying x.slot = some ticket ∨ e.cached x.slot ≠ none)
  | .ready _ clears => clears ≤ e.clears ∧ (clears = e.clears → e.cached x.slot ≠ none)
  | _ => True

def Timely (b : Ledger) : Prop :=
  ∀ t i x, b.errand? t i = some x → OnTime (b.engine x.host) x

lemma OnTime.lapses {e e' : Engine} {x : Errand} (h : OnTime e x) (hl : e.Lapses e') :
    OnTime e' x := by
  have hle := hl.clears
  unfold OnTime at h ⊢
  cases hp : x.phase with
  | waiting pass clears ticket =>
    rw [hp] at h
    simp only at h ⊢
    refine ⟨Nat.le_trans h.1 hle, fun hc => ?_⟩
    have hsame : e'.clears = e.clears := by
      have := h.1
      omega
    rcases h.2 (hc.trans hsame) with hf | hn
    · exact hl.flying hsame x.slot ticket hf
    · exact .inr (hl.cached hsame x.slot hn)
  | ready pass clears =>
    rw [hp] at h
    simp only at h ⊢
    refine ⟨Nat.le_trans h.1 hle, fun hc => ?_⟩
    have hsame : e'.clears = e.clears := by
      have := h.1
      omega
    exact hl.cached hsame x.slot (h.2 (hc.trans hsame))
  | _ => exact True.intro

lemma Timely.advance (h : Timely b) (hl : Logged b) {t i : Nat} {x : Errand} {p : Phase}
    (hx : b.errand? t i = some x) (ha : b.Advances x p) :
    OnTime (b.engine x.host) { x with phase := p } := by
  cases ha with
  | retry _ _ _ _ => exact True.intro
  | found pass r _ hc =>
    refine ⟨Nat.le_refl _, fun _ => ?_⟩
    show (b.engine x.host).cached x.slot ≠ none
    rw [hc]
    exact Option.some_ne_none r
  | wait pass ticket _ hf => exact ⟨Nat.le_refl _, fun _ => .inl hf⟩
  | answer pass clears ticket d r hp hd hland =>
    have ht := h t i x hx
    unfold OnTime at ht
    rw [hp] at ht
    refine ⟨ht.1, fun hc => ?_⟩
    rcases ht.2 hc with hf | hn
    · obtain ⟨d', hd', hn, -⟩ := hl.flying x.host x.slot ticket hf
      rw [hd] at hd'
      cases hd'
      rw [hland] at hn
      cases hn
    · exact hn

lemma Timely.move (h : Timely b) (hl : Logged b) (hm : Move b b') : Timely b' := by
  intro t i x hx
  cases hm.came hx with
  | kept hx => exact (h t i x hx).lapses (hm.lapses x.host)
  | fresh hf =>
    unfold OnTime
    rw [hf]
    exact True.intro
  | entered y _ _ hxp _ | looked y pass _ _ hxp _ =>
    subst hxp
    exact True.intro
  | advanced y p hy ha hxp hb =>
    subst hxp
    rw [hb]
    exact h.advance (x := y) hl hy ha
  | selected y pass clears r _ _ _ _ hxp _ =>
    subst hxp
    exact True.intro
  | called y pass r c rest callback _ _ hxp _ =>
    subst hxp
    exact True.intro

/-- An emission that is about to deliver finds a cached result, or else its slot was cleared since
it looked. -/
lemma Timely.not_fatal (h : Timely b) {t i : Nat} {x : Errand} {pass : Pass}
    (hx : b.errand? t i = some x) (hp : x.phase = .ready pass (b.engine x.host).clears) :
    (b.engine x.host).cached x.slot ≠ none := by
  have ht := h t i x hx
  unfold OnTime at ht
  rw [hp] at ht
  exact ht.2 rfl

end Ledger

end Dataflow
