import Dataflow.Proofs.LastDelivered
import Dataflow.Proofs.Scripts
import Dataflow.Proofs.Selection

/-!
# Successive results

What a subscriber is selected for differs from what is on record for it, and the record is of the last
call as long as nobody panics and the subscriber stays registered. A record is lost when registrations
are cancelled while a call is still to be made, which only another subscriber can do.
-/

namespace Dataflow

lemma Event.ofOffer_of_ofDebt {host : String} {c : Nat} {e : Event}
    (h : e.ofDebt host c = none) : e.ofOffer host c = none := by
  cases ho : e.ofOffer host c with
  | none => rfl
  | some p =>
    obtain ⟨pass, picked, rfl, hm⟩ := ofOffer_eq_some.mp ho
    simp [ofDebt, ofCall, ofOffer, hm] at h

namespace Journal

/-- No registration is cancelled while somebody is still to be called. -/
def Considerate (l : List Event) : Prop :=
  Throughout (fun past e => e.isWithdrawal = true → ∀ host c, owed host c past = none) l

lemma Considerate.append {new l : List Event} (h : Considerate l)
    (hn : ∀ e ∈ new, e.isWithdrawal = false) : Considerate (new ++ l) := by
  induction new with
  | nil => exact h
  | cons e new ih =>
    refine ⟨fun he => ?_, ih fun x hx => hn x (List.mem_cons_of_mem e hx)⟩
    rw [hn e List.mem_cons_self] at he
    cases he

lemma Considerate.tail {new l : List Event} (h : Considerate (new ++ l)) : Considerate l := by
  induction new with
  | nil => exact h
  | cons e new ih => exact ih h.2

lemma Remains.append {host : String} {c : Nat} {earlier l new : List Event}
    (h : Remains host c (l ++ earlier) new) (hl : Remains host c earlier l) :
    Remains host c earlier (new ++ l) := by
  intro later before hsplit
  rcases List.append_eq_append_iff.mp hsplit with ⟨m, rfl, rfl⟩ | ⟨m, rfl, rfl⟩
  · exact hl m before rfl
  · rw [List.append_assoc]
    exact h later m rfl

/-- Whoever is selected stays registered until it is called. -/
lemma Considerate.remains {gap old : List Event} {host : String} {s : Slot} {c : Nat} {pass : Pass}
    {r : Result} {picked : List Nat}
    (h : Considerate (gap ++ .delivering host s pass r picked :: old)) (hm : c ∈ picked)
    (he : enrolled host s c old = true) (hgap : ∀ e ∈ gap, e.ofDebt host c = none) :
    Remains host c old (gap ++ [.delivering host s pass r picked]) := by
  refine remains_of_enrolled he fun hu => ?_
  rcases List.mem_append.mp hu with hu | hu
  · obtain ⟨later, earlier, rfl⟩ := List.append_of_mem hu
    rw [List.append_assoc, List.cons_append] at h
    have hnone := h.fits rfl host c
    rw [owed, latest_append _ _ _ fun e he => hgap e (List.mem_append_right _ (List.mem_cons_of_mem _ he)),
      ← owed, owed_delivering hm] at hnone
    cases hnone
  · rw [List.mem_singleton] at hu
    cases hu

end Journal

open Journal

namespace Lawful

variable {policy : String → Policy} {host : String} {c : Nat}

/-- Nobody is selected between two selections without being called, unless a subscriber panics. -/
lemma not_offered {new rest : List Event} {s : Slot} {pass : Pass} {r : Result}
    {picked : List Nat} (h : Lawful policy (.delivering host s pass r picked :: (new ++ rest)))
    (hp : ∀ text, .panicked .subscriber text ∉ new) (hn : ∀ e ∈ new, e.ofCall host c = none) :
    ∀ e ∈ new, e.ofOffer host c = none := by
  intro e he
  cases ho : e.ofOffer host c with
  | none => rfl
  | some p =>
    obtain ⟨j, r₀⟩ := p
    obtain ⟨pass₀, picked₀, rfl, hm⟩ := Event.ofOffer_eq_some.mp ho
    obtain ⟨front, back, rfl⟩ := List.append_of_mem he
    obtain ⟨-, howed, -, -, -⟩ := h.1
    have hback := h.2
    rw [List.append_assoc, List.cons_append] at hback
    have hquiet : ∀ text, .panicked .subscriber text ∉ front := fun text hx =>
      hp text (List.mem_append_left _ hx)
    rcases hback.owed_or_called hm hquiet with howing | ⟨callback, hcall⟩
    · have hnone := howed host c
      rw [List.append_assoc, List.cons_append, howing] at hnone
      cases hnone
    · have hnone := hn _ (List.mem_append_left _ hcall)
      simp [Event.ofCall] at hnone

/-- What a subscriber is called with is not the same as what it was called with before, if it stays
registered in between. -/
lemma called_anew {mid earlier : List Event} {s s' : Slot} {callback callback' : String}
    {r r' : Result}
    (h : Lawful policy (.called host s' c callback' r' ::
      (mid ++ .called host s c callback r :: earlier)))
    (hc : Considerate (mid ++ .called host s c callback r :: earlier))
    (hp : ∀ text, .panicked .subscriber text ∉ mid)
    (hmid : ∀ e ∈ mid, e.ofCall host c = none)
    (hr : Remains host c (.called host s c callback r :: earlier) mid) :
    (policy host).same r r' = false := by
  have hlaw : Lawful policy (.called host s c callback r :: earlier) := h.2.tail
  obtain ⟨gap, pass, picked, old, rfl, hm, hgap⟩ := offer_of_owed hlaw.1
  obtain ⟨gap', pass', picked', past, hsplit, hm', hgap'⟩ := offer_of_owed h.1
  -- The second selection comes after the first call.
  obtain ⟨new, rfl, rfl⟩ : ∃ new, mid = gap' ++ .delivering host s' pass' r' picked' :: new ∧
      past = new ++ .called host s c callback r :: (gap ++ .delivering host s pass r picked :: old) := by
    rcases split_cases hsplit with ⟨m, rfl, -⟩ | ⟨-, hd, -⟩ | ⟨m, rfl, rfl⟩
    · have hdebt := hgap' (.called host s c callback r) (by simp)
      simp [Event.ofDebt, Event.ofCall] at hdebt
    · cases hd
    · exact ⟨m, rfl, rfl⟩
  have hd : Lawful policy (.delivering host s' pass' r' picked' ::
      (new ++ .called host s c callback r :: (gap ++ .delivering host s pass r picked :: old))) := by
    have htail := h.2
    rw [List.append_assoc] at htail
    exact htail.tail
  have hbetween : new ⊆ gap' ++ .delivering host s' pass' r' picked' :: new := fun e he =>
    List.mem_append_right gap' (List.mem_cons_of_mem _ he)
  have hnew := hd.not_offered (fun text hx => hp text (hbetween hx)) fun e he =>
    hmid e (hbetween he)
  have hstays : Remains host c old (gap ++ [.delivering host s pass r picked]) := by
    have hd' : Lawful policy (.delivering host s pass r picked :: old) := hlaw.2.tail
    exact Considerate.remains hc.tail.2 hm (hd'.1.2.2.1 c hm) hgap
  have hcalled : Remains host c old (.called host s c callback r ::
      (gap ++ [.delivering host s pass r picked])) := by
    intro later before hsplit
    cases later with
    | nil =>
      rw [← show _ = before from hsplit]
      have hreg := hr _ [] (List.append_nil _).symm
      simpa using hreg
    | cons x later => exact hstays later before (List.cons_eq_cons.mp hsplit).2
  have hrecalls : Recalls host c r
      ((new ++ .called host s c callback r :: gap) ++ .delivering host s pass r picked :: ([] ++ old)) := by
    refine Remains.recalls ?_ (Event.ofOffer_eq_some.mpr ⟨pass, picked, rfl, hm⟩) fun x hx => ?_
    · rw [List.append_assoc, List.cons_append]
      refine Remains.append (Remains.of_append
        (l := gap' ++ [.delivering host s' pass' r' picked']) ?_) hcalled
      simpa using hr
    · rcases List.mem_append.mp hx with hx | hx
      · exact hnew x hx
      · rcases List.mem_cons.mp hx with rfl | hx
        · rfl
        · exact Event.ofOffer_of_ofDebt (hgap x hx)
  obtain ⟨-, -, -, -, hdiffers⟩ := hd.1
  refine hdiffers c hm' r ?_
  simpa using hrecalls

end Lawful

namespace World

variable {w : World}

/-- Where an action cancels registrations, that is the last thing that it does. -/
lemma journal_of_withdraws {a : Action} (ha : a.withdraws = true) :
    (w.perform a).1.journal = w.journal ∨ ∃ host s c, (w.perform a).1.journal =
      .unsubscribed host s c :: w.journal ∨ (w.perform a).1.journal =
        .unsubscribed host s c :: .built host :: w.journal := by
  cases a with
  | unsubscribe host slot callback =>
    refine .inr ⟨host, slot, ((w.use host).subscriberOf callback).2, ?_⟩
    have hof : ((w.use host).subscriberOf callback).1.journal = (w.use host).journal := by
      obtain ⟨subscribers, callbacks, heq⟩ := subscriberOf_frame (w.use host) callback
      rw [heq]
    have hj : (w.perform (.unsubscribe host slot callback)).1.journal =
        .unsubscribed host slot ((w.use host).subscriberOf callback).2 :: (w.use host).journal := by
      rw [← hof]
      rfl
    rw [hj]
    rcases w.use_cases host with heq | heq <;> rw [heq]
    · exact .inl rfl
    · exact .inr rfl
  | unsubscribeBy sub =>
    simp only [perform]
    cases w.subscriptions.get? sub with
    | none => exact .inl rfl
    | some s => exact .inr ⟨_, _, _, .inl rfl⟩
  | _ => cases ha

/-- Where the scripts cancel no registrations, none is cancelled while somebody is still to be called. -/
lemma Reachable.considerate {sc : Scene} (h : Reachable sc.opening w)
    (ht : sc.opening.Told fun a => a.withdraws = false) : Considerate w.journal := by
  induction h with
  | refl => exact True.intro
  | @perform w a w' reply hr hf ha ih =>
    have hsane := Scene.sane_of_reachable hr
    have hnone := hsane.owed_none (hsane.silent hf)
    have ha' : w' = (w.perform a).1 := by rw [ha]
    rw [ha']
    cases hw : a.withdraws with
    | false =>
      obtain ⟨new, hj, hn⟩ :=
        (obeys_perform (P := fun _ => True) hsane.poised.steady a).journal
      rw [hj]
      refine ih.append fun e he => Bool.eq_false_iff.mpr fun hwe => ?_
      rw [hn e he hwe] at hw
      cases hw
    | true =>
      rcases journal_of_withdraws (w := w) hw with hj | ⟨host, s, c, hj | hj⟩
      · rw [hj]
        exact ih
      · rw [hj]
        exact ⟨fun _ => hnone, ih⟩
      · rw [hj]
        refine ⟨fun _ host' c' => ?_, fun hb => ?_, ih⟩
        · rw [owed_cons]
          exact hnone host' c'
        · cases hb
  | @poll w t _ _ ih =>
    obtain ⟨new, hj, hn⟩ := (obeys_poll (P := fun _ => True) (b := false)
      { w with queue := w.queue.erase t } t).journal
    rw [hj]
    exact ih.append fun e he => Bool.eq_false_iff.mpr fun hwe => by cases hn e he hwe
  | @step w hr ih =>
    have hsteady := (Scene.sane_of_reachable hr).poised.steady
    obtain ⟨new, hj, hn⟩ := (obeys_step (P := fun _ => True) (b := false) hsteady
      fun e hp a ha hw => by
        obtain ⟨-, t, -, he⟩ := emission?_of_party hsteady hp
        rw [(hr.obeys ht).2 t _ e he a ha] at hw
        cases hw).journal
    rw [hj]
    exact ih.append fun e he => Bool.eq_false_iff.mpr fun hwe => by cases hn e he hwe

/-- A delivery selects, once each and in order, the subscribers that were not delivered the same before.
So nobody is called twice in a row with what is the same. -/
theorem delivery_selects {sc : Scene} (h : Reachable sc.opening w) :
    (∀ host s p r,
      let e := w.engine host
      let picked := (e.select p s r).1
      let e' := (e.select p s r).2
      picked = ((e.subscribers s).eraseDups.filter fun c =>
          !(e.lastOf c).any fun last => p.same last r) ∧
        (∀ c ∈ picked, e'.lastOf c = some r ∧ e'.registrations c = e.registrations c) ∧
        (∀ c, c ∉ picked → e'.delivered.get? c = e.delivered.get? c) ∧
        e' = { e with delivered := e'.delivered } ∧ (e'.select p s r).1 = []) ∧
    ((sc.opening.Told fun a => a.withdraws = false) →
      (∀ text, .panicked .subscriber text ∉ w.journal) →
      ∀ later mid earlier host c s s' callback callback' r r',
        w.journal = later ++ .called host s' c callback' r' ::
          (mid ++ .called host s c callback r :: earlier) →
        (∀ e ∈ mid, e.ofCall host c = none) →
        Remains host c (.called host s c callback r :: earlier) mid →
        (w.policy host).same r r' = false) := by
  have hsane := Scene.sane_of_reachable h
  refine ⟨?_, ?_⟩
  · intro host s p r
    have hnoted : (w.engine host).Noted := fun j c hc => hsane.sound.tallied.pos hc
    refine ⟨hnoted.select_eq p s r, ?_, ?_, rfl, hnoted.select_select p s r⟩
    · intro c hc
      refine ⟨?_, Engine.registrations_select ..⟩
      rw [hnoted.lastOf_select, if_pos hc]
    · intro c hc
      rw [Engine.delivered_select, if_neg hc]
  · intro ht hp later mid earlier host c s s' callback callback' r r' hj hmid hr
    have hlaw : Lawful w.policy w.journal := hsane.sound.lawful
    have hc := h.considerate ht
    rw [hj] at hlaw hp hc
    exact hlaw.tail.called_anew hc.tail.2 (fun text hx => hp text (by simp [hx])) hmid hr

/-- The subscriber is called at these two places and not in between, and is on the slot since before
that; nobody panics and no registration is cancelled. -/
def callsAt (w : World) (host : String) (slot : Slot) (c i j : Nat) : Bool :=
  ((w.journal.take j)[i]?).any (fun e => (e.ofCall host c).isSome) &&
    (w.journal[j]?).any (fun e => (e.ofCall host c).isSome) &&
    ((w.journal.take j).drop (i + 1)).all (fun e => (e.ofCall host c).isNone) &&
    enrolled host slot c (w.journal.drop (j + 1)) &&
    w.journal.all fun e => !e.isOutcry && !e.isWithdrawal

lemma of_callsAt {host : String} {slot : Slot} {c i j : Nat}
    (h : w.callsAt host slot c i j = true) :
    ∃ later mid earlier s s' callback callback' r r',
      w.journal = later ++ .called host s' c callback' r' ::
        (mid ++ .called host s c callback r :: earlier) ∧
      (∀ e ∈ mid, e.ofCall host c = none) ∧
      Remains host c (.called host s c callback r :: earlier) mid ∧
      ∀ text, .panicked .subscriber text ∉ w.journal := by
  simp only [callsAt, Bool.and_eq_true, List.all_eq_true] at h
  obtain ⟨⟨⟨⟨hfirst, hsecond⟩, hmid⟩, henrolled⟩, hquiet⟩ := h
  obtain ⟨x, hx, hx'⟩ := (Option.any_eq_true _ _).mp hfirst
  obtain ⟨y, hy, hy'⟩ := (Option.any_eq_true _ _).mp hsecond
  obtain ⟨r', hr'⟩ := Option.isSome_iff_exists.mp hx'
  obtain ⟨r, hr⟩ := Option.isSome_iff_exists.mp hy'
  obtain ⟨s', callback', rfl⟩ := Event.ofCall_eq_some.mp hr'
  obtain ⟨s, callback, rfl⟩ := Event.ofCall_eq_some.mp hr
  have hj := split_of_place hy
  rw [split_of_place hx, List.append_assoc, List.cons_append] at hj
  refine ⟨_, _, _, s, s', callback, callback', r, r', hj,
    fun e he => Option.isNone_iff_eq_none.mp (hmid e he), ?_, fun text hm => ?_⟩
  · refine remains_of_enrolled (s := slot) ?_ fun hm => ?_
    · rw [enrolled_cons]
      exact henrolled
    · have hno := hquiet _ (List.mem_of_mem_take (List.mem_of_mem_drop hm))
      simp [Event.isWithdrawal] at hno
  · have hno := hquiet _ hm
    simp [Event.isOutcry] at hno

/-- Results are compared as JSON. -/
def byContent : Scene where
  setups := ⟨[("p", { policy := .json })]⟩

/-- A node comes to `1`, to `1` again and to `2`. -/
def counting : List (Action × Nat) :=
  let produce (n : Int) : Action × Nat :=
    (.resolve .first (some (.value (.json (.number (.int n))))), 30)
  [(.register "p" (heldNode "n" ["o"]) "n", 0),
    (.subscribe "p" "first" ⟨"n", "o"⟩ "c", 30), produce 1,
    (.invalidate "p" "t" "n" none, 30), produce 1,
    (.invalidate "p" "t" "n" none, 30), produce 2]

/-- The subscriber is called with the first of the results and then with the third. -/
theorem delivery_selects_counting : ∃ w later mid earlier s s' callback callback' r r',
    Reachable byContent.opening w ∧ (byContent.opening.Told fun a => a.withdraws = false) ∧
      (∀ text, .panicked .subscriber text ∉ w.journal) ∧
      w.journal = later ++ .called "p" s' 0 callback' r' ::
        (mid ++ .called "p" s 0 callback r :: earlier) ∧
      (∀ e ∈ mid, e.ofCall "p" 0 = none) ∧
      Remains "p" 0 (.called "p" s 0 callback r :: earlier) mid ∧
      (w.policy "p").same r r' = false := by
  have hfacts : (byContent.opening.rehearse counting).any (fun w =>
      w.callsAt "p" ⟨"n", "o"⟩ 0 2 27) = true := by decide +kernel
  obtain ⟨w, hw, hcalls⟩ := (Option.any_eq_true _ _).mp hfacts
  obtain ⟨later, mid, earlier, s, s', callback, callback', r, r', hj, hmid, hr, hp⟩ :=
    of_callsAt hcalls
  have hreach := reachable_rehearse .refl hw
  have htold : byContent.opening.Told fun a => a.withdraws = false := by
    rintro callback l script ⟨⟩
  exact ⟨w, later, mid, earlier, s, s', callback, callback', r, r', hreach, htold, hp, hj, hmid, hr,
    (delivery_selects hreach).2 htold hp later mid earlier "p" 0 s s' callback callback' r r' hj hmid
      hr⟩

end World

end Dataflow
