import Dataflow.Proofs.DeliveryOrder

/-!
# Repeated notifications

The record that is kept of a subscriber is one for all its slots, and it is of the last delivery only.
So a subscriber is called with a result a second time only where it was called from another slot with
another result in between.
-/

namespace Dataflow

/-- The subscriber is called with the result of this number. -/
def Event.isCallWith (host : String) (c id : Nat) : Event → Bool
  | .called h _ d _ r => h == host && d == c && r.id == id
  | _ => false

lemma Event.isCallWith_iff {host : String} {c id : Nat} {e : Event} :
    e.isCallWith host c id = true ↔
      ∃ s callback r, e = .called host s c callback r ∧ r.id = id := by
  cases e with
  | called h s d callback r =>
    simp only [isCallWith, Bool.and_eq_true, beq_iff_eq]
    constructor
    · rintro ⟨⟨rfl, rfl⟩, hid⟩
      exact ⟨s, callback, r, rfl, hid⟩
    · rintro ⟨s', callback', r', he, hid⟩
      cases he
      exact ⟨⟨rfl, rfl⟩, hid⟩
  | _ => simp [isCallWith]

/-- Calls come from this slot. -/
def Event.isFrom (s : Slot) : Event → Bool
  | .called _ j _ _ _ => j == s
  | _ => true

lemma Event.ofCall_of_ofDebt {host : String} {c : Nat} {e : Event}
    (h : e.ofDebt host c = none) : e.ofCall host c = none := by
  cases hc : e.ofCall host c with
  | none => rfl
  | some r =>
    obtain ⟨s, callback, rfl⟩ := ofCall_eq_some.mp hc
    simp [ofDebt, hc] at h

namespace Journal

/-- The subscriber stays registered throughout `during`, which comes after `earlier`. -/
def Remains (host : String) (c : Nat) (earlier during : List Event) : Prop :=
  ∀ later before, during = later ++ before → Registered host c (before ++ earlier)

lemma Remains.of_append {host : String} {c : Nat} {earlier l old : List Event}
    (h : Remains host c earlier (l ++ old)) : Remains host c earlier old :=
  fun later before hold => h (l ++ later) before (by rw [hold, List.append_assoc])

lemma remains_of_enrolled {host : String} {c : Nat} {s : Slot} {earlier during : List Event}
    (h : enrolled host s c earlier = true) (hn : .unsubscribed host s c ∉ during) :
    Remains host c earlier during := by
  rintro later before rfl
  exact ⟨s, enrolled_append h fun hm => hn (List.mem_append_right later hm)⟩

lemma Remains.recalls {host : String} {c : Nat} {s : Slot} {r : Result}
    {earlier new old : List Event} {e : Event} (h : Remains host c earlier (new ++ e :: old))
    (he : e.ofOffer host c = some (s, r)) (hn : ∀ x ∈ new, x.ofOffer host c = none) :
    Recalls host c r (new ++ e :: (old ++ earlier)) := by
  induction new with
  | nil =>
    refine ⟨h [] (e :: old) rfl, ?_⟩
    rw [he]
  | cons x new ih =>
    have hreg := h [] (x :: (new ++ e :: old)) rfl
    rw [List.cons_append, List.append_assoc, List.cons_append] at hreg
    refine ⟨hreg, ?_⟩
    rw [hn x List.mem_cons_self]
    exact ih (fun later before hl => h (x :: later) before (by rw [List.cons_append, hl]; rfl))
      fun y hy => hn y (List.mem_cons_of_mem x hy)

end Journal

open Journal

namespace Lawful

variable {policy : String → Policy} {host : String} {c : Nat}

/-- A subscriber that is owed nothing when a period begins is called in it with what it was selected
for in it. -/
lemma selected_within {before earlier : List Event} {s : Slot} {callback : String} {r : Result}
    (h : Lawful policy (.called host s c callback r :: (before ++ earlier)))
    (ho : owed host c earlier = none) :
    ∃ gap pass picked old, before = gap ++ .delivering host s pass r picked :: old ∧ c ∈ picked ∧
      ∀ e ∈ gap, e.ofCall host c = none := by
  obtain ⟨gap, pass, picked, past, hsplit, hm, hgap⟩ := offer_of_owed h.1
  rcases append_split hsplit with ⟨front, rfl, hearlier⟩ | ⟨old, rfl, rfl⟩
  · have howed : owed host c earlier = some (s, r) := by
      rw [hearlier, ← owed_delivering hm s pass r past]
      exact latest_append _ _ _ fun e he => hgap e (List.mem_append_right _ he)
    rw [ho] at howed
    cases howed
  · exact ⟨gap, pass, picked, old, rfl, hm, fun e he => Event.ofCall_of_ofDebt (hgap e he)⟩

/-- Whoever is selected for the same as once before was called with something else since then. -/
lemma called_otherwise {new old earlier : List Event} {e : Event} {s s' : Slot} {pass : Pass}
    {r r' : Result} {picked : List Nat}
    (h : Lawful policy (.delivering host s pass r picked :: (new ++ e :: (old ++ earlier))))
    (hm : c ∈ picked) (he : e.ofOffer host c = some (s', r'))
    (hr : Remains host c earlier (new ++ e :: old))
    (hp : ∀ text, .panicked .subscriber text ∉ new) (hsame : (policy host).same r' r = true) :
    ∃ j callback r'', .called host j c callback r'' ∈ new ∧ (policy host).same r'' r = false := by
  obtain ⟨-, howed, -, -, hdiffers⟩ := h.1
  cases hlast : new.findSome? (Event.ofOffer host c) with
  | none =>
    have hn := List.findSome?_eq_none_iff.mp hlast
    rw [hdiffers c hm r' (hr.recalls he hn)] at hsame
    cases hsame
  | some p =>
    obtain ⟨j, r''⟩ := p
    obtain ⟨front, x, back, rfl, hx, hn⟩ := List.findSome?_eq_some_iff.mp hlast
    have hassoc : front ++ x :: back ++ e :: (old ++ earlier) =
        front ++ x :: ((back ++ e :: old) ++ earlier) := by simp
    have hr' : Remains host c earlier (front ++ x :: (back ++ e :: old)) := by
      rwa [← List.cons_append, ← List.append_assoc]
    have hrecalls := hr'.recalls hx hn
    obtain ⟨pass'', picked'', rfl, hm''⟩ := Event.ofOffer_eq_some.mp hx
    have hlaw := h.2
    have hnone := howed host c
    rw [hassoc] at hlaw hnone hdiffers
    have hquiet : ∀ text, .panicked .subscriber text ∉ front := fun text hx =>
      hp text (List.mem_append_left _ hx)
    rcases hlaw.owed_or_called hm'' hquiet with ho | ⟨callback, hcall⟩
    · rw [hnone] at ho
      cases ho
    · exact ⟨j, callback, r'', List.mem_append_left _ hcall, hdiffers c hm r'' hrecalls⟩

/-- Between two calls from one slot with the same result, all calls from that slot are with it. -/
lemma called_alike {later mid mid' earlier : List Event} {s : Slot}
    {callback₁ callback₂ callback₃ : String} {r r₂ : Result}
    (h : Lawful policy (later ++ .called host s c callback₃ r ::
      (mid ++ .called host s c callback₂ r₂ ::
        (mid' ++ .called host s c callback₁ r :: earlier)))) : r₂ = r := by
  have hlaw : Lawful policy (mid ++ .called host s c callback₂ r₂ ::
      (mid' ++ .called host s c callback₁ r :: earlier)) := h.tail.2
  obtain ⟨t₂, t₃, h₂, h₃, hle⟩ := h.called_in_order
  obtain ⟨t₁, t₂', h₁, h₂', hle'⟩ := hlaw.called_in_order
  have hwide : ∀ e ∈ mid' ++ .called host s c callback₁ r :: earlier, e ∈ mid ++
      .called host s c callback₂ r₂ :: (mid' ++ .called host s c callback₁ r :: earlier) :=
    fun e he => List.mem_append_right _ (List.mem_cons_of_mem _ he)
  have hland₂ := hwide _ h₂
  have hland₁ := hwide _ (List.mem_append_right _ (List.mem_cons_of_mem _ h₁))
  cases hlaw.landed_once hland₂ (hwide _ h₂') (.inr rfl)
  cases hlaw.landed_once hland₁ h₃ (.inr rfl)
  cases hlaw.landed_once hland₂ hland₁ (.inl (Nat.le_antisymm hle hle'))
  rfl

/-- Two calls with the same result, each after the delivery that it comes from, are from one slot, and
in between the subscriber was called from another slot with another result. -/
lemma called_between_of_delivered {gap new gap' old earlier : List Event} {s s' : Slot}
    {callback callback' : String} {pass pass' : Pass} {r r' : Result} {picked picked' : List Nat}
    (h : Lawful policy (.called host s c callback r :: (gap ++ .delivering host s pass r picked ::
      (new ++ .called host s' c callback' r' :: (gap' ++ .delivering host s' pass' r' picked' ::
        (old ++ earlier))))))
    (hm : c ∈ picked) (hm' : c ∈ picked')
    (hgap : ∀ e ∈ gap', e.ofCall host c = none)
    (hr : Remains host c earlier (new ++ .called host s' c callback' r' ::
      (gap' ++ .delivering host s' pass' r' picked' :: old)))
    (hp : ∀ text, .panicked .subscriber text ∉ new ++ .called host s' c callback' r' :: gap')
    (hid : r.id = r'.id) :
    s = s' ∧ ∃ j callback'' r'', .called host j c callback'' r'' ∈ new ∧ j ≠ s ∧ r''.id ≠ r.id := by
  have hlaw := h.2.tail
  obtain ⟨ticket, hland⟩ := landed_of_cached hlaw.1.1
  obtain ⟨ticket', hland'⟩ := landed_of_cached hlaw.2.tail.2.fits.1
  have hwide : .landed host s' ticket' r' true ∈ new ++ .called host s' c callback' r' ::
      (gap' ++ .delivering host s' pass' r' picked' :: (old ++ earlier)) :=
    List.mem_append_right _ (List.mem_cons_of_mem _
      (List.mem_append_right _ (List.mem_cons_of_mem _ hland')))
  cases hlaw.2.landed_once hland hwide (.inr hid)
  refine ⟨rfl, ?_⟩
  have hoffer : Event.ofOffer host c (.delivering host s pass' r picked') = some (s, r) :=
    Event.ofOffer_eq_some.mpr ⟨pass', picked', rfl, hm'⟩
  have hflat : Lawful policy (.delivering host s pass r picked ::
      ((new ++ .called host s c callback' r :: gap') ++
        .delivering host s pass' r picked' :: (old ++ earlier))) := by simpa using hlaw
  have hr' : Remains host c earlier ((new ++ .called host s c callback' r :: gap') ++
      .delivering host s pass' r picked' :: old) := by simpa using hr
  obtain ⟨j, callback'', r'', hcall, hdiffers⟩ :=
    hflat.called_otherwise hm hoffer hr' hp (Policy.same_self _ r)
  have hid'' : r''.id ≠ r.id := by
    intro heq
    simp [Policy.same, heq] at hdiffers
  have hnew : .called host j c callback'' r'' ∈ new := by
    rcases List.mem_append.mp hcall with hcall | hcall
    · exact hcall
    · rcases List.mem_cons.mp hcall with heq | hcall
      · cases heq
        exact absurd rfl hid''
      · have hnone := hgap _ hcall
        simp [Event.ofCall] at hnone
  refine ⟨j, callback'', r'', hnew, ?_, hid''⟩
  rintro rfl
  obtain ⟨front, back, rfl⟩ := List.append_of_mem hnew
  have hcalls : Lawful policy ([] ++ .called host j c callback r ::
      ((gap ++ .delivering host j pass r picked :: front) ++ .called host j c callback'' r'' ::
        (back ++ .called host j c callback' r :: (gap' ++ .delivering host j pass' r picked' ::
          (old ++ earlier))))) := by simpa using h
  exact hid'' (congrArg Result.id hcalls.called_alike)

/-- The same of two calls in a period in which the subscriber stays registered. -/
lemma called_between {mid before earlier : List Event} {s s' : Slot} {callback callback' : String}
    {r r' : Result}
    (h : Lawful policy (.called host s c callback r ::
      (mid ++ .called host s' c callback' r' :: (before ++ earlier))))
    (hr : Remains host c earlier (mid ++ .called host s' c callback' r' :: before))
    (ho : owed host c earlier = none)
    (hp : ∀ text, .panicked .subscriber text ∉ mid ++ .called host s' c callback' r' :: before)
    (hid : r.id = r'.id) :
    s = s' ∧ ∃ j callback'' r'', .called host j c callback'' r'' ∈ mid ∧ j ≠ s ∧ r''.id ≠ r.id := by
  obtain ⟨gap', pass', picked', old, rfl, hm', hgap'⟩ := h.2.tail.selected_within ho
  have hflat : Lawful policy (.called host s c callback r ::
      ((mid ++ .called host s' c callback' r' ::
        (gap' ++ .delivering host s' pass' r' picked' :: old)) ++ earlier)) := by simpa using h
  obtain ⟨gap, pass, picked, past, hsplit, hm, hgap⟩ := hflat.selected_within ho
  -- The second call was selected for after the first was made.
  obtain ⟨new, rfl⟩ : ∃ new, mid = gap ++ .delivering host s pass r picked :: new := by
    rcases split_cases hsplit with ⟨m, rfl, -⟩ | ⟨-, hd, -⟩ | ⟨m, rfl, -⟩
    · have hcall := hgap (.called host s' c callback' r') (by simp)
      simp [Event.ofCall] at hcall
    · cases hd
    · exact ⟨m, rfl⟩
  have hr' : Remains host c earlier (new ++ .called host s' c callback' r' ::
      (gap' ++ .delivering host s' pass' r' picked' :: old)) := by
    refine Remains.of_append (l := gap ++ [.delivering host s pass r picked]) ?_
    simpa using hr
  have hp' : ∀ text, .panicked .subscriber text ∉ new ++ .called host s' c callback' r' :: gap' := by
    intro text hx
    refine hp text ?_
    rcases List.mem_append.mp hx with hx | hx
    · simp [hx]
    · rcases List.mem_cons.mp hx with hx | hx
      · cases hx
      · simp [hx]
  obtain ⟨hslot, j, callback'', r'', hcall, hne⟩ :=
    called_between_of_delivered (by simpa using h) hm hm' hgap' hr' hp' hid
  exact ⟨hslot, j, callback'', r'', by simp [hcall], hne⟩

end Lawful

namespace World

/-- A subscriber that stays registered is called with one result twice only from one slot, with another
slot's result in between. -/
theorem notified_again {s : Scene} {w : World} (h : Reachable s.opening w)
    (hp : ∀ text, .panicked .subscriber text ∉ w.journal) (later during earlier : List Event)
    (host : String) (c : Nat) (hj : w.journal = later ++ (during ++ earlier))
    (hr : Remains host c earlier during) (ho : owed host c earlier = none) :
    (∀ after mid before slot slot' callback callback' r r',
      during = after ++ .called host slot c callback r ::
        (mid ++ .called host slot' c callback' r' :: before) → r.id = r'.id →
      slot = slot' ∧ ∃ j callback'' r'', .called host j c callback'' r'' ∈ mid ∧ j ≠ slot ∧
        r''.id ≠ r.id) ∧
    ∀ slot id, (∀ j callback r, .called host j c callback r ∈ during → j = slot) →
      during.countP (Event.isCallWith host c id) ≤ 1 := by
  have hlaw : Lawful w.policy w.journal := (Scene.sane_of_reachable h).sound.lawful
  rw [hj] at hlaw hp
  have hbetween : ∀ after mid before slot slot' callback callback' r r',
      during = after ++ .called host slot c callback r ::
        (mid ++ .called host slot' c callback' r' :: before) → r.id = r'.id →
      slot = slot' ∧ ∃ j callback'' r'', .called host j c callback'' r'' ∈ mid ∧ j ≠ slot ∧
        r''.id ≠ r.id := by
    rintro after mid before slot slot' callback callback' r r' rfl hid
    have hwithin : Lawful w.policy (.called host slot c callback r ::
        (mid ++ .called host slot' c callback' r' :: (before ++ earlier))) := by
      have hrest := hlaw.tail
      rw [List.append_assoc] at hrest
      simpa using hrest.tail
    have hr' : Remains host c earlier (mid ++ .called host slot' c callback' r' :: before) :=
      Remains.of_append (l := after ++ [.called host slot c callback r]) (by simpa using hr)
    exact hwithin.called_between hr' ho (fun text hx => hp text (List.mem_append_right later
      (List.mem_append_left earlier (List.mem_append_right after (List.mem_cons_of_mem _ hx))))) hid
  refine ⟨hbetween, ?_⟩
  intro slot id hone
  -- Nothing lies between two such calls.
  have hnone : during.countP (fun _ => false) = 0 := List.countP_eq_zero.mpr (by simp)
  rw [← Nat.zero_add 1, ← hnone]
  refine countP_le_of_between fun after x mid y before hsplit hx hy => ?_
  obtain ⟨j, callback, r, rfl, hrid⟩ := Event.isCallWith_iff.mp hx
  obtain ⟨j', callback', r', rfl, hrid'⟩ := Event.isCallWith_iff.mp hy
  obtain ⟨-, k, callback'', r'', hm, hk, -⟩ :=
    hbetween after mid before j j' callback callback' r r' hsplit (hrid.trans hrid'.symm)
  have hslot := hone k callback'' r'' (by simp [hsplit, hm])
  have hslot' := hone j callback r (by simp [hsplit])
  exact absurd (hslot.trans hslot'.symm) hk

/-- Under the identity policy and without a panic, the subscriber has been on the slot for the last `n`
events and was called twice meanwhile with the result of this number. -/
def repeats (w : World) (host : String) (slot : Slot) (c id n : Nat) : Bool :=
  (w.policy host).isIdentity &&
    w.journal.all (fun | .panicked .subscriber _ => false | _ => true) &&
    enrolled host slot c (w.journal.drop n) &&
    (w.journal.take n).all (fun | .unsubscribed _ _ _ => false | _ => true) &&
    (w.journal.take n).countP (Event.isCallWith host c id) == 2

lemma of_repeats {w : World} {host : String} {slot : Slot} {c id n : Nat}
    (h : w.repeats host slot c id n = true) :
    w.policy host = .identity ∧ (∀ text, .panicked .subscriber text ∉ w.journal) ∧
      Remains host c (w.journal.drop n) (w.journal.take n) ∧
      (w.journal.take n).countP (Event.isCallWith host c id) = 2 := by
  simp only [repeats, Bool.and_eq_true, List.all_eq_true] at h
  obtain ⟨⟨⟨⟨hpolicy, hpanic⟩, henrolled⟩, hstays⟩, hcount⟩ := h
  refine ⟨Policy.eq_of_isIdentity hpolicy, fun text hm => ?_,
    remains_of_enrolled henrolled fun hm => ?_, eq_of_beq hcount⟩
  · cases hpanic _ hm
  · cases hstays _ hm

/-- A subscriber of two slots, and another one of the first of them that comes last. -/
def echoing : List (Action × Nat) := [
  (.register "p" (heldNode "n" ["a", "b"]) "n", 0),
  (.subscribe "p" "first" ⟨"n", "a"⟩ "c", 30),
  (.resolve .first (some (.value (.text "a"))), 30),
  (.subscribe "p" "second" ⟨"n", "b"⟩ "c", 30),
  (.resolve .first (some (.value (.text "b"))), 30),
  (.subscribe "p" "third" ⟨"n", "a"⟩ "d", 30)]

/-- The subscriber is called with the result of the first slot, with that of the second and with that of
the first again. -/
theorem notified_again_echoing : ∃ w during earlier, Reachable ({} : Scene).opening w ∧
    (∀ text, .panicked .subscriber text ∉ w.journal) ∧ w.journal = during ++ earlier ∧
    Remains "p" 0 earlier during ∧ owed "p" 0 earlier = none ∧
    ∃ after mid before slot slot' callback callback' r r',
      during = after ++ .called "p" slot 0 callback r ::
        (mid ++ .called "p" slot' 0 callback' r' :: before) ∧ r.id = r'.id ∧
      slot = slot' ∧ ∃ j callback'' r'', .called "p" j 0 callback'' r'' ∈ mid ∧ j ≠ slot ∧
        r''.id ≠ r.id := by
  have hfacts : (({} : Scene).opening.rehearse echoing).any (fun w =>
      w.repeats "p" ⟨"n", "a"⟩ 0 0 34 && (owed "p" 0 (w.journal.drop 34)).isNone &&
        ((w.journal.take 34)[3]?).any (Event.isCallWith "p" 0 0) &&
        ((w.journal.take 34)[24]?).any (Event.isCallWith "p" 0 0)) = true := by decide +kernel
  obtain ⟨w, hw, hall⟩ := (Option.any_eq_true _ _).mp hfacts
  rw [Bool.and_eq_true, Bool.and_eq_true, Bool.and_eq_true] at hall
  obtain ⟨⟨⟨hrep, howed⟩, hcall⟩, hcall'⟩ := hall
  obtain ⟨-, hp, hr, -⟩ := of_repeats hrep
  obtain ⟨x, hx, hx'⟩ := (Option.any_eq_true _ _).mp hcall
  obtain ⟨y, hy, hy'⟩ := (Option.any_eq_true _ _).mp hcall'
  obtain ⟨slot, callback, r, rfl, hid⟩ := Event.isCallWith_iff.mp hx'
  obtain ⟨slot', callback', r', rfl, hid'⟩ := Event.isCallWith_iff.mp hy'
  obtain ⟨mid, before, hsplit⟩ := split_of_places (by decide) hx hy
  have hreach := reachable_rehearse .refl hw
  have hj : w.journal = [] ++ (w.journal.take 34 ++ w.journal.drop 34) :=
    (List.take_append_drop 34 w.journal).symm
  have ho := Option.isNone_iff_eq_none.mp howed
  have hagain := (notified_again hreach hp [] _ _ "p" 0 hj hr ho).1 _ mid before slot slot' callback
    callback' r r' hsplit (hid.trans hid'.symm)
  exact ⟨w, w.journal.take 34, w.journal.drop 34, hreach, hp, hj, hr, ho, _, mid, before, slot, slot',
    callback, callback', r, r', hsplit, hid.trans hid'.symm, hagain⟩

/-- A subscriber that, when it is called, takes the next one off its slot and puts it back. -/
def renewal : Scene where
  scripts := ⟨[("d", [[.unsubscribe "p" ⟨"n", "o"⟩ "c", .subscribe "p" "third" ⟨"n", "o"⟩ "c"]])]⟩

def renewing : List (Action × Nat) := [
  (.register "p" (heldNode "n" ["o"]) "n", 0),
  (.subscribe "p" "first" ⟨"n", "o"⟩ "d", 30),
  (.subscribe "p" "second" ⟨"n", "o"⟩ "c", 30),
  (.resolve .first (some (.value (.text "a"))), 60)]

/-- A subscriber can be called twice with one result while it stays registered: on two slots, or, with
nothing in between, on a single one where it was put back while a call was still to be made. -/
theorem notified_twice :
    (∃ w during earlier, Reachable ({} : Scene).opening w ∧ w.policy "p" = .identity ∧
      (∀ text, .panicked .subscriber text ∉ w.journal) ∧ w.journal = during ++ earlier ∧
      Remains "p" 0 earlier during ∧ owed "p" 0 earlier = none ∧
      during.countP (Event.isCallWith "p" 0 0) = 2) ∧
    ∃ w during earlier, Reachable renewal.opening w ∧ w.policy "p" = .identity ∧
      (∀ text, .panicked .subscriber text ∉ w.journal) ∧ w.journal = during ++ earlier ∧
      Remains "p" 1 earlier during ∧
      (∀ j callback r, .called "p" j 1 callback r ∈ w.journal → j = ⟨"n", "o"⟩) ∧
      during.countP (Event.isCallWith "p" 1 0) = 2 := by
  have hecho : (({} : Scene).opening.rehearse echoing).any (fun w =>
      w.repeats "p" ⟨"n", "a"⟩ 0 0 34 && (owed "p" 0 (w.journal.drop 34)).isNone) = true := by
    decide +kernel
  have hrenew : (renewal.opening.rehearse renewing).any (fun w =>
      w.repeats "p" ⟨"n", "o"⟩ 1 0 14 && w.journal.all (Event.isFrom ⟨"n", "o"⟩)) = true := by
    decide +kernel
  constructor
  · obtain ⟨w, hw, hall⟩ := (Option.any_eq_true _ _).mp hecho
    obtain ⟨hrep, howed⟩ := (Bool.and_eq_true _ _).mp hall
    obtain ⟨hpolicy, hp, hr, hcount⟩ := of_repeats hrep
    exact ⟨w, w.journal.take 34, w.journal.drop 34, reachable_rehearse .refl hw, hpolicy, hp,
      (List.take_append_drop 34 w.journal).symm, hr, Option.isNone_iff_eq_none.mp howed, hcount⟩
  · obtain ⟨w, hw, hall⟩ := (Option.any_eq_true _ _).mp hrenew
    obtain ⟨hrep, hlone⟩ := (Bool.and_eq_true _ _).mp hall
    obtain ⟨hpolicy, hp, hr, hcount⟩ := of_repeats hrep
    exact ⟨w, w.journal.take 14, w.journal.drop 14, reachable_rehearse .refl hw, hpolicy, hp,
      (List.take_append_drop 14 w.journal).symm, hr,
      fun j callback r hm => eq_of_beq (List.all_eq_true.mp hlone _ hm), hcount⟩

end World

end Dataflow
