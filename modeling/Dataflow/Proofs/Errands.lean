import Dataflow.Proofs.Changes

/-!
# Where errands come from and what becomes of them

The errands after a move are those before it, but for one at most that has come further. A task that
is started or takes up an invalidation brings fresh ones.
-/

namespace Dataflow

/-- Whether the emission of `x` is one of the slot. -/
def Errand.Is (host : String) (s : Slot) (x : Errand) : Prop := x.host = host ∧ x.slot = s

lemma Task.errands_emitting (host : String) (s : Slot) (i : Nat) :
    (emitting host s).job.errands i = if i = 0 then some ⟨host, s, .fresh⟩ else none := by
  unfold emitting Job.errands Job.emission?
  by_cases hi : i = 0
  · simp [hi, Emission.errand, Progress.phase]
  · simp [hi]

namespace Ledger

variable {b b' : Ledger} {t i : Nat} {x y : Errand}

lemma Advances.isOpen {x : Errand} {p : Phase} (h : b.Advances x p) :
    x.phase.isOpen = true ∧ p.isOpen = true := by
  cases h with
  | found _ _ h _ | wait _ _ h _ | answer _ _ _ _ _ h _ _ | retry _ _ h _ =>
    rw [h]
    exact ⟨rfl, rfl⟩

lemma errand?_eq_some : b.errand? t i = some x ↔
    ∃ d, b.duties[t]? = some d ∧ d.errands i = some x :=
  Option.bind_eq_some_iff

lemma errand?_congr (h : b'.duties = b.duties) (t i : Nat) : b'.errand? t i = b.errand? t i := by
  unfold errand?
  rw [h]

lemma errand?_setErrand (h : b.errand? t i = some y) (x : Option Errand) (t' i' : Nat) :
    (b.setErrand t i x).errand? t' i' = if t = t' ∧ i = i' then x else b.errand? t' i' := by
  obtain ⟨d, hd, -⟩ := errand?_eq_some.mp h
  unfold errand? setErrand
  rw [List.getElem?_modify]
  by_cases ht : t = t'
  · subst ht
    by_cases hi : i = i' <;> simp [hd, hi]
  · simp [ht]

/-- What is under way after one errand was set is that errand, or was under way before. -/
lemma setErrand_cases (h : b.errand? t i = some y) {x : Option Errand} {t' i' : Nat} {z : Errand}
    (hz : (b.setErrand t i x).errand? t' i' = some z) :
    (t = t' ∧ i = i' ∧ x = some z) ∨ b.errand? t' i' = some z := by
  rw [errand?_setErrand h] at hz
  by_cases ht : t = t' ∧ i = i'
  · rw [if_pos ht] at hz
    exact .inl ⟨ht.1, ht.2, hz⟩
  · rw [if_neg ht] at hz
    exact .inr hz

/-- Where no other errand is calling, the one that is set is the only one that may be. -/
lemma errand?_setErrand_of_sole (h : b.errand? t i = some y) (hs : b.Sole t i) {z : Option Errand}
    {t' i' : Nat} (hx : x.phase.isOpen = false) :
    (b.setErrand t i z).errand? t' i' = some x ↔ t = t' ∧ i = i' ∧ z = some x := by
  rw [errand?_setErrand h]
  by_cases ht : t = t' ∧ i = i'
  · rw [if_pos ht]
    exact ⟨fun he => ⟨ht.1, ht.2, he⟩, fun he => he.2.2⟩
  · rw [if_neg ht]
    constructor
    · intro he
      obtain ⟨rfl, rfl⟩ := hs t' i' x he hx
      exact absurd ⟨rfl, rfl⟩ ht
    · rintro ⟨rfl, rfl, -⟩
      exact absurd ⟨rfl, rfl⟩ ht

lemma errand?_setDuty {d : Duty} (h : b.duties[t]? = some d) {d' : Duty}
    (hb : b'.duties = b.duties.set t d') (t' i' : Nat) :
    b'.errand? t' i' = if t = t' then d'.errands i' else b.errand? t' i' := by
  have hlt := (List.getElem?_eq_some_iff.mp h).1
  unfold errand?
  rw [hb, List.getElem?_set]
  by_cases ht : t = t'
  · subst ht
    simp [hlt]
  · simp [ht]

lemma errand?_append {l : List Duty} (hb : b'.duties = b.duties ++ l)
    (h : b.errand? t i = some x) : b'.errand? t i = some x := by
  obtain ⟨d, hd, hi⟩ := errand?_eq_some.mp h
  have hlt := (List.getElem?_eq_some_iff.mp hd).1
  exact errand?_eq_some.mpr ⟨d, by rw [hb, List.getElem?_append_left hlt, hd], hi⟩

lemma errand?_of_append {l : List Duty} (hb : b'.duties = b.duties ++ l)
    (h : b'.errand? t i = some x) :
    b.errand? t i = some x ∨ ∃ d ∈ l, d.errands i = some x := by
  obtain ⟨d, hd, hi⟩ := errand?_eq_some.mp h
  rw [hb] at hd
  by_cases hlt : t < b.duties.length
  · rw [List.getElem?_append_left hlt] at hd
    exact .inl (errand?_eq_some.mpr ⟨d, hd, hi⟩)
  · rw [List.getElem?_append_right (by omega)] at hd
    exact .inr ⟨d, List.mem_of_getElem? hd, hi⟩

lemma duties_emitAll (b : Ledger) (host node : String) (outputs : List String) :
    (b.emitAll host node outputs).duties =
      b.duties ++ outputs.map fun o => (Task.emitting host ⟨node, o⟩).duty := by
  induction outputs generalizing b with
  | nil => exact (List.append_nil _).symm
  | cons o outputs ih =>
    have hs : (b.spawn (.emitting host ⟨node, o⟩)).duties =
        b.duties ++ [(Task.emitting host ⟨node, o⟩).duty] := rfl
    show ((b.spawn (.emitting host ⟨node, o⟩)).emitAll host node outputs).duties = _
    rw [ih, hs, List.append_assoc]
    rfl

lemma duties_register (b : Ledger) (host : String) (n : Node) :
    ∃ outputs : List String, (b.register host n).duties =
      b.duties ++ outputs.map fun o => (Task.emitting host ⟨n.id, o⟩).duty := by
  rcases register_cases b host n with ⟨h, -, -⟩ | ⟨h, -⟩
  · exact ⟨_, by rw [h, duties_emitAll]; rfl⟩
  · exact ⟨[], by rw [h]; exact (List.append_nil _).symm⟩

lemma duties_subscribe (b : Ledger) (host : String) (s : Slot) (c : Nat) (name : String) :
    (b.subscribe host s c name).duties =
      b.duties ++ if b.runtime then [(Task.emitting host s).duty] else [] := by
  unfold subscribe
  by_cases hr : b.runtime = true
  · rw [if_pos hr, if_pos hr]
    rfl
  · rw [if_neg hr, if_neg hr]
    exact (List.append_nil _).symm

lemma duties_drop (b : Ledger) (t i : Nat) (x : Errand) :
    (b.drop t i x).duties = (b.setErrand t i none).duties := by
  unfold drop
  cases x.phase.pass? <;> rfl

lemma fresh_of_emitting {host : String} {s : Slot}
    (h : (Task.emitting host s).duty.errands i = some x) : x.phase = .fresh := by
  have h' : (Task.emitting host s).job.errands i = some x := h
  rw [Task.errands_emitting] at h'
  by_cases hi : i = 0
  · rw [if_pos hi] at h'
    cases h'
    rfl
  · rw [if_neg hi] at h'
    cases h'

inductive Came (b b' : Ledger) (t i : Nat) (x : Errand) : Prop where
  | kept : b.errand? t i = some x → Came b b' t i x
  | fresh : x.phase = .fresh → Came b b' t i x
  | entered (y : Errand) : b.errand? t i = some y → y.phase = .fresh →
      x = { y with phase := .looking ((b.engine y.host).enter y.slot).1 } → b' = b.enter t i y →
      Came b b' t i x
  | looked (y : Errand) (pass : Pass) : b.errand? t i = some y → y.phase = .looking pass →
      x = { y with phase := .looked pass } → b' = b.look t i y pass → Came b b' t i x
  | advanced (y : Errand) (p : Phase) : b.errand? t i = some y → b.Advances y p →
      x = { y with phase := p } → b' = b.setErrand t i (some x) → Came b b' t i x
  | selected (y : Errand) (pass : Pass) (clears : Nat) (r : Result) : b.errand? t i = some y →
      y.phase = .ready pass clears → b.Silent → (b.engine y.host).cached y.slot = some r →
      x = { y with
        phase := .calling pass r ((b.engine y.host).select (b.policy y.host) y.slot r).1 } →
      b' = b.select t i y pass r → Came b b' t i x
  | called (y : Errand) (pass : Pass) (r : Result) (c : Nat) (rest : List Nat)
      (callback : String) : b.errand? t i = some y → y.phase = .calling pass r (c :: rest) →
      x = { y with phase := .calling pass r rest } → b' = b.call t i y pass r c rest callback →
      Came b b' t i x

lemma Move.came (h : Move b b') (hx : b'.errand? t i = some x) : Came b b' t i x := by
  cases h with
  | quiet hq =>
    rw [errand?_congr hq.duties] at hx
    exact .kept hx
  | takeOff _ _ _ _ | begin _ _ _ _ | land _ _ _ _ _ | unregister _ _ _ | unsubscribe _ _ _ =>
    exact .kept hx
  | panic _ _ _ _ _ => exact .kept hx
  | register host n =>
    obtain ⟨outputs, hd⟩ := duties_register b host n
    rcases errand?_of_append hd hx with hx | ⟨d, hm, hx⟩
    · exact .kept hx
    · obtain ⟨o, -, rfl⟩ := List.mem_map.mp hm
      exact .fresh (fresh_of_emitting hx)
  | subscribe host s c name _ =>
    rcases errand?_of_append (duties_subscribe b host s c name) hx with hx | ⟨d, hm, hx⟩
    · exact .kept hx
    · by_cases hr : b.runtime = true
      · rw [if_pos hr, List.mem_singleton] at hm
        subst hm
        exact .fresh (fresh_of_emitting hx)
      · rw [if_neg hr] at hm
        cases hm
  | start task _ hf _ =>
    rcases errand?_of_append (l := [task.duty]) rfl hx with hx | ⟨d, hm, hx⟩
    · exact .kept hx
    · rw [List.mem_singleton] at hm
      subst hm
      exact .fresh (hf i x hx)
  | invalidate u d host node keys hd _ _ _ _ =>
    rw [errand?_setDuty hd rfl] at hx
    by_cases ht : u = t
    · rw [if_pos ht, Option.map_eq_some_iff] at hx
      obtain ⟨k, -, rfl⟩ := hx
      exact .fresh rfl
    · rw [if_neg ht] at hx
      exact .kept hx
  | enter u j y hy hp =>
    rcases setErrand_cases (b := b.takePass y.host y.slot) hy hx with ⟨rfl, rfl, heq⟩ | hx
    · cases heq
      exact .entered y hy hp rfl rfl
    · exact .kept hx
  | look u j y pass hy hp =>
    rcases setErrand_cases (b := b.log (.looked y.host y.slot pass)) hy hx with ⟨rfl, rfl, heq⟩ | hx
    · cases heq
      exact .looked y pass hy hp rfl rfl
    · exact .kept hx
  | advance u j y p hy ha =>
    rcases setErrand_cases hy hx with ⟨rfl, rfl, heq⟩ | hx
    · cases heq
      exact .advanced y p hy ha rfl rfl
    · exact .kept hx
  | select u j y pass clears r hy hp hs hc =>
    rcases setErrand_cases (b := b.offer y.host y.slot pass r) hy hx with ⟨rfl, rfl, heq⟩ | hx
    · cases heq
      exact .selected y pass clears r hy hp hs hc rfl rfl
    · exact .kept hx
  | call u j y pass r c rest callback hy hp =>
    rcases setErrand_cases (b := b.log (.called y.host y.slot c callback r)) hy hx with
      ⟨rfl, rfl, heq⟩ | hx
    · cases heq
      exact .called y pass r c rest callback hy hp rfl rfl
    · exact .kept hx
  | leave u j y pass r hy _ =>
    rcases setErrand_cases hy hx with ⟨-, -, heq⟩ | hx
    · cases heq
    · exact .kept hx
  | drop u j y hy _ _ =>
    rw [errand?_congr (duties_drop b u j y)] at hx
    rcases setErrand_cases hy hx with ⟨-, -, heq⟩ | hx
    · cases heq
    · exact .kept hx
  | finish u d how engine extra he =>
    rw [errand?_setDuty he.duty rfl] at hx
    by_cases ht : u = t
    · rw [if_pos ht] at hx
      cases hx
    · rw [if_neg ht] at hx
      exact .kept hx

end Ledger

end Dataflow
