import Dataflow.Proofs.Mirrors
import Dataflow.Proofs.Registrations

/-!
# Records of deliveries

The record that an engine keeps of a subscriber is of the result that it was selected for last, as
long as it has been registered ever since.
-/

namespace Dataflow

namespace Journal

variable {host : String} {c : Nat} {r : Result}

lemma Recalls.registered {l : List Event} (h : Recalls host c r l) : Registered host c l := by
  cases l with
  | nil => cases h
  | cons e l => exact h.1

lemma Recalls.of_append {l past : List Event} (h : Recalls host c r (l ++ past))
    (hn : ∀ e ∈ l, e.ofOffer host c = none) : Recalls host c r past := by
  induction l with
  | nil => exact h
  | cons e l ih =>
    have hrest := h.2
    rw [hn e List.mem_cons_self] at hrest
    exact ih hrest fun x hx => hn x (List.mem_cons_of_mem e hx)

end Journal

namespace Ledger

open Journal

variable {b b' : Ledger}

/-- What the history recalls of a subscriber is what its engine has noted. -/
def Recorded (b : Ledger) : Prop :=
  ∀ host c r, Recalls host c r b.journal → (b.engine host).lastOf c = some r

lemma Recorded.plain (h : Recorded b) (hp : b.Plain b') : Recorded b' := by
  obtain ⟨new, hj, hn⟩ := hp.journal
  intro host c r hr
  obtain ⟨gates, passes, -, hg⟩ := hp.engine host
  rw [hg]
  rw [hj] at hr
  refine h host c r (hr.of_append fun e he => ?_)
  have hpe := hn e he
  cases e <;> first | rfl | cases hpe

/-- One engine has changed, and nobody was selected. Whoever is still registered has kept the
record. -/
lemma Recorded.set (h : Recorded b) (hm : Mirrors b') (ht : Tallied b') {host : String}
    {e : Engine} {x : Event} (hb : ∀ i, b'.engine i = if host = i then e else b.engine i)
    (hj : b'.journal = x :: b.journal) (hx : ∀ i c, x.ofOffer i c = none)
    (he : ∀ c, 0 < e.registrations c → e.lastOf c = (b.engine host).lastOf c) : Recorded b' := by
  intro i c r hr
  obtain ⟨s, hs⟩ := hr.registered
  have hpos : 0 < (b'.engine i).registrations c := ht.pos ((hm.roll i s c).mpr hs)
  have hold : Recalls i c r b.journal := by
    rw [hj] at hr
    exact hr.of_append (l := [x]) (by simpa using hx i c)
  rw [hb] at hpos ⊢
  by_cases hi : host = i
  · subst hi
    rw [if_pos rfl] at hpos ⊢
    exact (he c hpos).trans (h host c r hold)
  · rw [if_neg hi]
    exact h i c r hold

lemma Recorded.offer (h : Recorded b) (host : String) (s : Slot) (pass : Pass) (r : Result) :
    Recorded (b.offer host s pass r) := by
  intro i c last hr
  have hengine : (b.offer host s pass r).engine i =
      if host = i then ((b.engine host).select (b.policy host) s r).2 else b.engine i := rfl
  have hjournal : (b.offer host s pass r).journal = .delivering host s pass r
      ((b.engine host).select (b.policy host) s r).1 :: b.journal := rfl
  rw [hjournal] at hr
  rw [hengine]
  by_cases hc : host = i ∧ c ∈ ((b.engine host).select (b.policy host) s r).1
  · -- The subscriber is selected, and noted with it.
    obtain ⟨rfl, hc⟩ := hc
    have hlast := hr.2
    simp only [Event.ofOffer, hc, and_self, if_true] at hlast
    obtain ⟨-, entry, hentry, -⟩ := (Engine.mem_select _ _ _ _ c).mp hc
    rw [if_pos rfl, Engine.lastOf, Engine.delivered_select, if_pos hc, hentry, ← hlast]
    rfl
  · have hold : Recalls i c last b.journal :=
      hr.of_append (l := [_]) (by simp [Event.ofOffer, hc])
    rw [← h i c last hold]
    by_cases hi : host = i
    · subst hi
      have hnot : c ∉ ((b.engine host).select (b.policy host) s r).1 := fun hm => hc ⟨rfl, hm⟩
      rw [if_pos rfl, Engine.lastOf, Engine.delivered_select, if_neg hnot]
      rfl
    · rw [if_neg hi]

lemma lastOf_congr {e e' : Engine} (h : e'.delivered = e.delivered) (c : Nat) :
    e'.lastOf c = e.lastOf c := by
  unfold Engine.lastOf
  rw [h]

lemma Recorded.change (h : Recorded b) (hm : Mirrors b') (ht : Tallied b')
    (hc : b.Change b') : Recorded b' := by
  cases hc with
  | nothing => exact h
  | takeOff host s _ _ =>
    exact h.set hm ht (fun _ => rfl) rfl (fun _ _ => rfl) fun c _ => lastOf_congr rfl c
  | land ticket d c _ _ =>
    obtain ⟨-, -, -, hd⟩ := (b.engine d.host).land_frame d.slot ticket ⟨b.results, c⟩
    exact h.set hm ht (fun _ => rfl) rfl (fun _ _ => rfl) fun c _ => lastOf_congr hd c
  | enlist host n =>
    obtain ⟨-, -, -, hd⟩ := (b.engine host).register_frame n
    exact h.set hm ht (fun _ => rfl) rfl (fun _ _ => rfl) fun c _ => lastOf_congr hd c
  | unregister host id hn =>
    obtain ⟨-, -, -, hd⟩ := (b.engine host).unregister_frame id hn
    exact h.set hm ht (fun _ => rfl) rfl (fun _ _ => rfl) fun c _ => lastOf_congr hd c
  | enrol host s d name _ =>
    exact h.set hm ht (fun _ => rfl) rfl (fun _ _ => rfl) fun c _ => Engine.lastOf_subscribe _ s d c
  | unsubscribe host s d =>
    exact h.set hm ht (fun _ => rfl) rfl (fun _ _ => rfl) fun c hpos =>
      Engine.lastOf_unsubscribe_of_pos _ s d c hpos
  | clearKeys t host node keys =>
    obtain ⟨-, -, -, hd⟩ := (b.engine host).clearAll_frame node keys
    exact h.set hm ht (fun _ => rfl) rfl (fun _ _ => rfl) fun c _ => lastOf_congr hd c
  | offer host s pass r _ _ => exact h.offer host s pass r

lemma Recorded.move (h : Recorded b) (hm : Mirrors b) (ht : Tallied b) (hmove : Move b b') :
    Recorded b' := by
  obtain ⟨m, hc, hp⟩ := hmove.change
  exact (h.change (hm.change hc) (ht.change hc) hc).plain hp

end Ledger

end Dataflow
