import Dataflow.Proofs.FirstDeliveries

/-!
# Awaited deliveries

Whoever waits for an invalidation, or for the first delivery of a subscription, waits until the slot
was delivered, however often it is cleared and computed again meanwhile.
-/

namespace Dataflow

namespace Journal

/-- A delivery of `r` between `earlier` and `later` has reached the subscriber: it was called with
`r`, or what it was called with last is the same. -/
def Reached (same : Result → Result → Bool) (host : String) (s : Slot) (c : Nat) (r : Result)
    (later earlier : List Event) : Prop :=
  (∃ callback, .called host s c callback r ∈ later) ∨
    ∃ last, heard host c earlier = some last ∧ same last r = true

/-- The slot of a subscription made after `before` was delivered in `since`, and the delivery has
reached the subscriber with what was cached then. -/
def ReachedSince (same : Result → Result → Bool) (sub : String) (s : Subscription)
    (since before : List Event) : Prop :=
  ∃ later pass r picked earlier,
    since = later ++ .delivering s.host s.slot pass r picked :: earlier ∧
    cached s.host s.slot (earlier ++ .subscribed s.host s.slot s.subscriber sub :: before) =
      some r ∧
    Reached same s.host s.slot s.subscriber r later
      (earlier ++ .subscribed s.host s.slot s.subscriber sub :: before)

/-- The task waits for the latest subscription of that name, and unless it was undone, its slot was
delivered since. -/
def DeliveredTo (same : Result → Result → Bool) (past : List Event) (t : Nat) (task : Task)
    (sub : String) (s : Subscription) : Prop :=
  ∃ since gap before, past = since ++ .subscribed s.host s.slot s.subscriber sub :: before ∧
    (∃ later, since = later ++ .started t task :: gap) ∧
    (∀ host j c, .subscribed host j c sub ∉ gap) ∧
    (.unsubscribed s.host s.slot s.subscriber ∉ since → ReachedSince same sub s since before)

section

variable {same : Result → Result → Bool} {past since before : List Event} {t : Nat} {task : Task}
  {sub : String} {s : Subscription}

lemma Reached.append {host : String} {slot : Slot} {c : Nat} {r : Result} {later earlier : List Event}
    (h : Reached same host slot c r later earlier) (new : List Event) :
    Reached same host slot c r (new ++ later) earlier := by
  refine h.imp_left fun hcalled => ?_
  obtain ⟨callback, hm⟩ := hcalled
  exact ⟨callback, List.mem_append_right new hm⟩

lemma ReachedSince.append (h : ReachedSince same sub s since before) (new : List Event) :
    ReachedSince same sub s (new ++ since) before := by
  obtain ⟨later, pass, r, picked, earlier, rfl, hcached, hreached⟩ := h
  exact ⟨new ++ later, pass, r, picked, earlier, (List.append_assoc ..).symm, hcached,
    hreached.append new⟩

lemma DeliveredTo.append (h : DeliveredTo same past t task sub s) (new : List Event) :
    DeliveredTo same (new ++ past) t task sub s := by
  obtain ⟨since, gap, before, rfl, ⟨later, hlater⟩, hgap, hreached⟩ := h
  refine ⟨new ++ since, gap, before, (List.append_assoc ..).symm, ⟨new ++ later, ?_⟩, hgap,
    fun hu => (hreached fun hm => hu (List.mem_append_right new hm)).append new⟩
  rw [hlater, List.append_assoc]

end

end Journal

namespace Lawful

open Journal

variable {policy : String → Policy}

/-- When nobody is owed a call any more, a delivery has reached all who were registered. -/
lemma reached {later earlier : List Event} {host : String} {s : Slot} {pass : Pass} {r : Result}
    {picked : List Nat} {c : Nat}
    (h : Lawful policy (later ++ .delivering host s pass r picked :: earlier))
    (hp : ¬Panicked (later ++ .delivering host s pass r picked :: earlier))
    (ho : owed host c (later ++ .delivering host s pass r picked :: earlier) = none)
    (he : enrolled host s c earlier = true) :
    Reached (policy host).same host s c r later earlier := by
  obtain ⟨-, hnone, -, hall, -⟩ := h.fits
  rcases hall c he with hm | ⟨last, hlast, hsame⟩
  · rcases h.owed_or_called hm (fun text hx => (Panicked.of_append hp).1 ⟨_, _, hx⟩) with howed | hcall
    · rw [ho] at howed
      cases howed
    · exact .inl hcall
  · refine .inr ⟨last, ?_, hsame⟩
    rw [h.tail.2.heard_eq_promised ?_ (hnone host c)]
    · exact hlast
    · rintro ⟨source, text, hm⟩
      exact hp ⟨source, text, List.mem_append_right _ (List.mem_cons_of_mem _ hm)⟩

lemma delivered_invalidation {after mid before : List Event} {t : Nat} {name : Option String}
    {host node k : String} {keys : List String} {c : Nat}
    (h : Lawful policy (after ++ .ended t name .ok :: (mid ++
      .invalidating t host node keys :: before)))
    (hp : ¬Panicked (after ++ .ended t name .ok :: (mid ++
      .invalidating t host node keys :: before)))
    (hk : k ∈ keys) (he : enrolled host ⟨node, k⟩ c before = true)
    (hu : .unsubscribed host ⟨node, k⟩ c ∉ mid) :
    ∃ later pass r picked earlier, mid = later ++ .delivering host ⟨node, k⟩ pass r picked :: earlier ∧
      Fresh host ⟨node, k⟩ r earlier ∧
      Reached (policy host).same host ⟨node, k⟩ c r later
        (earlier ++ .invalidating t host node keys :: before) := by
  obtain ⟨i, hi⟩ := List.getElem?_of_mem hk
  have hend := h.tail
  have hpast : ¬Panicked (mid ++ .invalidating t host node keys :: before) := by
    rintro ⟨source, text, hm⟩
    exact hp ⟨source, text, List.mem_append_right _ (List.mem_cons_of_mem _ hm)⟩
  have hbegin : (Event.invalidating t host node keys).begins t i = some (host, ⟨node, k⟩) := by
    simp [Event.begins, hi]
  obtain ⟨pass, r, picked, hm⟩ := hend.delivered rfl hbegin (Panicked.of_append hpast).1
  obtain ⟨later, earlier, rfl⟩ := List.append_of_mem hm
  rw [List.append_assoc, List.cons_append] at hend hpast
  have hu' := Journal.not_mem_of_append hu
  have hclears : (Event.invalidating t host node keys).clears host ⟨node, k⟩ = true := by
    simp [Event.clears, hk]
  have hroll : enrolled host ⟨node, k⟩ c (.invalidating t host node keys :: before) = true := by
    rw [enrolled_cons]
    exact he
  have henrolled : enrolled host ⟨node, k⟩ c
      (earlier ++ .invalidating t host node keys :: before) = true :=
    enrolled_append hroll fun hx => hu'.2 (List.mem_cons_of_mem _ hx)
  refine ⟨later, pass, r, picked, earlier, rfl, ?_, ?_⟩
  · exact hend.2.tail.2.fresh_of_clears hclears hend.2.fits.1
  · exact hend.2.reached hpast (hend.1.2.1 host c) henrolled

/-- A delivery since a subscription has reached the subscriber when nobody is owed a call any more,
if the subscriber stayed registered. -/
lemma reached_since {since before : List Event} {sub : String} {s : Subscription}
    (h : Lawful policy (since ++ .subscribed s.host s.slot s.subscriber sub :: before))
    (hp : ¬Panicked (since ++ .subscribed s.host s.slot s.subscriber sub :: before))
    (ho : owed s.host s.subscriber
      (since ++ .subscribed s.host s.slot s.subscriber sub :: before) = none)
    (hem : Emitted s.host s.slot since) (hu : .unsubscribed s.host s.slot s.subscriber ∉ since) :
    ReachedSince (policy s.host).same sub s since before := by
  obtain ⟨pass, r, picked, hm⟩ := hem
  obtain ⟨later, earlier, rfl⟩ := List.append_of_mem hm
  rw [List.append_assoc, List.cons_append] at h hp ho
  have hroll : enrolled s.host s.slot s.subscriber
      (.subscribed s.host s.slot s.subscriber sub :: before) = true := by
    rw [enrolled_cons]
    simp [Event.ofRoll]
  have henrolled : enrolled s.host s.slot s.subscriber
      (earlier ++ .subscribed s.host s.slot s.subscriber sub :: before) = true :=
    enrolled_append hroll fun hx => (Journal.not_mem_of_append hu).2 (List.mem_cons_of_mem _ hx)
  exact ⟨later, pass, r, picked, earlier, rfl, h.fits.1, h.reached hp ho henrolled⟩

/-- A task that another one waited for, and that emits a slot, has delivered from the slot. -/
lemma delivered_followed {mid before : List Event} {t : Nat} {host : String} {s : Slot}
    (h : Lawful policy (mid ++ .started t (.emitting host s) :: before))
    (hp : ¬Panicked (mid ++ .started t (.emitting host s) :: before)) {name : Option String}
    {how : End}
    (he : .ended t name how ∈ mid ++ .started t (.emitting host s) :: before)
    (hw : ∀ text, how ≠ .panicked text) : Emitted host s mid := by
  have hbegin := Event.begins_emitting t host s
  have hm : .ended t name how ∈ mid :=
    (List.mem_append.mp he).resolve_right ((h.tail.of_begins hbegin).2 name how)
  -- Such a task has no name under which it could be cancelled.
  have hproper : how.proper = true := by
    cases how with
    | panicked text => exact absurd rfl (hw text)
    | cancelled =>
      exact absurd he (h.not_cancelled (List.mem_append_right mid List.mem_cons_self) rfl name)
    | _ => rfl
  obtain ⟨later, since, rfl⟩ := List.append_of_mem hm
  have hcalm := (Panicked.of_append (Panicked.of_append hp).1).2
  rw [List.append_assoc, List.cons_append] at h
  obtain ⟨pass, r, picked, hd⟩ := h.tail.delivered hproper hbegin
    fun hpan => hcalm (Ledger.panicked_append hpan [_])
  exact ⟨pass, r, picked, List.mem_append_right _ (List.mem_cons_of_mem _ hd)⟩

/-- Whoever was the first to wait and has not been cancelled was delivered to. -/
lemma delivered_subscription {past : List Event} {t : Nat} {name : Option String} {how : End}
    {task : Task} {sub : String} {s : Subscription}
    (hend : Lawful policy (.ended t name how :: past)) (hw : how.proper = true)
    (hpast : ¬Panicked past) (hs : .started t task ∈ past)
    (hh : task.holding = some (sub, s)) (hj : task.job ≠ .nothing) :
    DeliveredTo (policy s.host).same past t task sub s := by
  obtain ⟨mid, past, rfl⟩ := List.append_of_mem hs
  have howed := hend.1.2.1 s.host s.subscriber
  have hawaits := (Lawful.fits hend.2).2 sub s hh
  unfold Job.Awaits at hawaits
  cases hjob : task.job with
  | nothing => exact absurd hjob hj
  | follow u =>
    rw [hjob] at hawaits
    obtain ⟨gap, before, hgap, rfl⟩ := hawaits
    obtain ⟨name', how', hm, hnp⟩ := (hend.1.2.2.2.2.2 hw).2 task u hs hjob
    have hsplit : mid ++ .started t task :: (gap ++ .started u (.emitting s.host s.slot) ::
        .subscribed s.host s.slot s.subscriber sub :: before) =
        (mid ++ .started t task :: gap) ++ .started u (.emitting s.host s.slot) ::
          .subscribed s.host s.slot s.subscriber sub :: before := by
      rw [List.append_assoc]
      rfl
    have hlaw := hend.2
    rw [hsplit] at hlaw hpast hm howed
    have hem := hlaw.delivered_followed hpast hm hnp
    have hsince : (mid ++ .started t task :: gap) ++ .started u (.emitting s.host s.slot) ::
        .subscribed s.host s.slot s.subscriber sub :: before =
        (mid ++ .started t task :: (gap ++ [.started u (.emitting s.host s.slot)])) ++
          .subscribed s.host s.slot s.subscriber sub :: before := by
      simp
    rw [hsince] at hlaw hpast howed
    refine ⟨mid ++ .started t task :: (gap ++ [.started u (.emitting s.host s.slot)]),
      gap ++ [.started u (.emitting s.host s.slot)], before, by simp, ⟨mid, rfl⟩, ?_, fun hu =>
        hlaw.reached_since hpast howed ?_ hu⟩
    · intro host j c hx
      rcases List.mem_append.mp hx with hx | hx
      · exact hgap host j c hx
      · cases List.mem_singleton.mp hx
    · obtain ⟨pass, r, picked, hx⟩ := hem
      exact ⟨pass, r, picked, by
        rw [← List.cons_append, ← List.append_assoc]
        exact List.mem_append_left _ hx⟩
  | emit e =>
    rw [hjob] at hawaits
    obtain ⟨hhost, hslot, gap, before, hgap, rfl⟩ := hawaits
    have hbegin : (Event.started t task).begins t 0 = some (s.host, s.slot) := by
      simp [Event.begins, hjob, hhost, hslot]
    obtain ⟨pass, r, picked, hm⟩ := hend.delivered hw hbegin (Panicked.of_append hpast).1
    have hsince : mid ++ .started t task :: (gap ++
        .subscribed s.host s.slot s.subscriber sub :: before) =
        (mid ++ .started t task :: gap) ++ .subscribed s.host s.slot s.subscriber sub :: before := by
      simp
    have hlaw := hend.2
    rw [hsince] at hlaw hpast howed
    exact ⟨mid ++ .started t task :: gap, gap, before, hsince, ⟨mid, rfl⟩, hgap, fun hu =>
      hlaw.reached_since hpast howed ⟨pass, r, picked, List.mem_append_left _ hm⟩ hu⟩
  | _ =>
    rw [hjob] at hawaits
    exact hawaits.elim

/-- Whoever waits for a subscription comes to its end after the first that has waited, which was
delivered to unless it was cancelled. -/
lemma delivered_or_cancelled {past : List Event} {t : Nat} {name : Option String} {task : Task}
    {sub : String} {s : Subscription} (h : Lawful policy (.ended t name .ok :: past))
    (hp : ¬Panicked past) (hb : Throughout StartsWaiting past) (hs : .started t task ∈ past)
    (hh : task.holding = some (sub, s)) :
    ∃ t₀ task₀, s.delivery = .taken t₀ ∧ .started t₀ task₀ ∈ past ∧
      task₀.holding = some (sub, s) ∧ task₀.job ≠ .nothing ∧ (task.job ≠ .nothing → t₀ = t) ∧
      ((∃ name₀, .ended t₀ name₀ .cancelled ∈ past) ∨
        DeliveredTo (policy s.host).same past t₀ task₀ sub s) := by
  obtain ⟨mid, earlier, hsplit⟩ := List.append_of_mem hs
  obtain ⟨t₀, hd, hfirst⟩ := ((hsplit ▸ hb).fits t task sub s rfl hh).taken
  rcases hfirst with ⟨hj, rfl⟩ | ⟨hj, ⟨task₀, hs₀, hh₀, hj₀⟩, name₀, how₀, he₀⟩
  · exact ⟨t₀, task, hd, hs, hh, hj, fun _ => rfl,
      .inr (h.delivered_subscription rfl hp hs hh hj)⟩
  · have hmore : ∀ x ∈ earlier, x ∈ past := by
      intro x hx
      rw [hsplit]
      exact List.mem_append_right mid (List.mem_cons_of_mem _ hx)
    refine ⟨t₀, task₀, hd, hmore _ hs₀, hh₀, hj₀, fun hne => absurd hj hne, ?_⟩
    obtain ⟨later, older, rfl⟩ := List.append_of_mem (hmore _ he₀)
    have hended := h.2.tail
    obtain ⟨-, -, ⟨task₁, hs₁, -⟩, -, hpanic, -⟩ := hended.1
    have hcalm : ¬Panicked older := by
      rintro ⟨source, text, hm⟩
      exact hp ⟨source, text, List.mem_append_right _ (List.mem_cons_of_mem _ hm)⟩
    obtain rfl : task₁ = task₀ := h.2.started_once
      (List.mem_append_right _ (List.mem_cons_of_mem _ hs₁)) (hmore _ hs₀)
    by_cases hproper : how₀.proper = true
    · have hdelivered := hended.delivered_subscription hproper hcalm hs₁ hh₀ hj₀
      have hextended := hdelivered.append (later ++ [.ended t₀ name₀ how₀])
      rw [List.append_assoc] at hextended
      exact .inr hextended
    · cases how₀ with
      | cancelled => exact .inl ⟨name₀, hmore _ he₀⟩
      | panicked text => exact absurd (hpanic text rfl) hcalm
      | _ => exact absurd rfl hproper

end Lawful

namespace World

open Journal

/-- When nothing panics, an invalidation that succeeds has delivered each cleared slot to all who stayed
registered, and so has the first delivery of whatever subscription was waited for, unless its first
wait was cancelled. -/
theorem awaited_delivery {s : Scene} {w : World} (h : Reachable s.opening w)
    (hu : Unharmed w.journal) :
    (∀ after mid before t name host node keys k c,
      w.journal = after ++ .ended t name .ok :: (mid ++ .invalidating t host node keys :: before) →
      k ∈ keys → enrolled host ⟨node, k⟩ c before = true →
      .unsubscribed host ⟨node, k⟩ c ∉ mid →
      ∃ later pass r picked earlier,
        mid = later ++ .delivering host ⟨node, k⟩ pass r picked :: earlier ∧
        Fresh host ⟨node, k⟩ r earlier ∧
        Reached (w.policy host).same host ⟨node, k⟩ c r later
          (earlier ++ .invalidating t host node keys :: before)) ∧
    ∀ after past t name task sub s, w.journal = after ++ .ended t name .ok :: past →
      .started t task ∈ past → task.holding = some (sub, s) →
      ∃ t₀ task₀, s.delivery = .taken t₀ ∧ .started t₀ task₀ ∈ past ∧
        task₀.holding = some (sub, s) ∧ task₀.job ≠ .nothing ∧ (task.job ≠ .nothing → t₀ = t) ∧
        ((∃ name₀, .ended t₀ name₀ .cancelled ∈ past) ∨
          DeliveredTo (w.policy s.host).same past t₀ task₀ sub s) := by
  have hlaw : Lawful w.policy w.journal := (Scene.sane_of_reachable h).sound.lawful
  have hp := hlaw.not_panicked hu
  have hbegun := (lends_of_reachable h).begun
  constructor
  · intro after mid before t name host node keys k c hj hk he hn
    rw [hj] at hlaw hp
    exact hlaw.delivered_invalidation hp hk he hn
  · intro after past t name task sub s hj hs hh
    rw [hj] at hlaw hp hbegun
    have hcalm : ¬Panicked past := by
      rintro ⟨source, text, hm⟩
      exact hp ⟨source, text, List.mem_append_right _ (List.mem_cons_of_mem _ hm)⟩
    exact hlaw.tail.delivered_or_cancelled hcalm hbegun.earlier.2 hs hh

/-- A task waits for a subscription kept under that name. -/
def waitedFor (t : Nat) (sub : String) : Event → Option Subscription
  | .started u task =>
    match task.holding with
    | some (name, s) => if u = t ∧ name = sub then some s else none
    | none => none
  | _ => none

lemma of_waitedFor {t : Nat} {sub : String} {s : Subscription} {e : Event}
    (h : waitedFor t sub e = some s) : ∃ task, e = .started t task ∧ task.holding = some (sub, s) := by
  cases e with
  | started u task =>
    unfold waitedFor at h
    cases hh : task.holding with
    | none =>
      simp only [hh] at h
      cases h
    | some p =>
      by_cases hp : u = t ∧ p.1 = sub
      · simp only [hh, if_pos hp, Option.some.injEq] at h
        exact ⟨task, by rw [hp.1], by rw [hh, ← hp.2, ← h]⟩
      · simp only [hh, if_neg hp] at h
        cases h
  | _ => cases h

/-- A subscription that is waited for twice, and then an invalidation. -/
def waits : List (Action × Nat) := [
  (.register "p" (heldNode "n" ["o"]) "n", 0),
  (.subscribe "p" "s" ⟨"n", "o"⟩ "c", 30),
  (.await "first" "s" true, 30),
  (.resolve .first (some (.value (.text "a"))), 60),
  (.await "second" "s" true, 30),
  (.invalidate "p" "clear" "n" (some ["o"]), 60),
  (.resolve .first (some (.value (.text "b"))), 60)]

/-- The invalidation and the second wait have ended, and so the slot was delivered since. -/
theorem awaited_delivery_waits : ∃ w mid before after past task s,
    Reachable ({} : Scene).opening w ∧
    w.journal = .ended 3 (some "clear") .ok ::
      (mid ++ .invalidating 3 "p" "n" ["o"] :: before) ∧
    (∃ later pass r picked earlier, mid = later ++ .delivering "p" ⟨"n", "o"⟩ pass r picked :: earlier ∧
      Fresh "p" ⟨"n", "o"⟩ r earlier ∧
      Reached (w.policy "p").same "p" ⟨"n", "o"⟩ 0 r later
        (earlier ++ .invalidating 3 "p" "n" ["o"] :: before)) ∧
    w.journal = after ++ .ended 2 (some "second") .ok :: past ∧ .started 2 task ∈ past ∧
    task.holding = some ("s", s) ∧
    ∃ t₀ task₀, s.delivery = .taken t₀ ∧ .started t₀ task₀ ∈ past ∧
      task₀.holding = some ("s", s) ∧ task₀.job ≠ .nothing ∧ (task.job ≠ .nothing → t₀ = 2) ∧
      ((∃ name₀, .ended t₀ name₀ .cancelled ∈ past) ∨
        DeliveredTo (w.policy s.host).same past t₀ task₀ "s" s) := by
  have hfacts : (({} : Scene).opening.rehearse waits).any (fun w =>
      w.journal.all (Event.isCalmOn ⟨"n", "o"⟩) &&
      w.journal[0]?.any (Event.isEnd 3 (some "clear")) &&
      w.journal[11]?.any (Event.isInvalidation 3 "p" "n" ["o"]) &&
      enrolled "p" ⟨"n", "o"⟩ 0 (w.journal.drop 12) &&
      w.journal[13]?.any (Event.isEnd 2 (some "second")) &&
      (w.journal[14]?.bind (waitedFor 2 "s")).isSome) = true := by decide +kernel
  obtain ⟨w, hw, hall⟩ := (Option.any_eq_true _ _).mp hfacts
  simp only [Bool.and_eq_true] at hall
  obtain ⟨⟨⟨⟨⟨hcalm, hclear⟩, hinvalidation⟩, hroll⟩, hend⟩, hwait⟩ := hall
  have hreach := reachable_rehearse .refl hw
  have hcalm' := List.all_eq_true.mp hcalm
  have hunharmed : Unharmed w.journal := by
    intro text
    constructor
    · intro hm
      cases hcalm' _ hm
    · intro hm
      cases hcalm' _ hm
  obtain ⟨x, hx, hxe⟩ := (Option.any_eq_true _ _).mp hclear
  obtain ⟨y, hy, hye⟩ := (Option.any_eq_true _ _).mp hinvalidation
  obtain ⟨z, hz, hze⟩ := (Option.any_eq_true _ _).mp hend
  obtain ⟨s, hs⟩ := Option.isSome_iff_exists.mp hwait
  obtain ⟨e, he, hheld⟩ := Option.bind_eq_some_iff.mp hs
  obtain rfl := Event.eq_of_isEnd hxe
  obtain rfl := Event.eq_of_isInvalidation hye
  obtain rfl := Event.eq_of_isEnd hze
  obtain ⟨task, rfl, hholding⟩ := of_waitedFor hheld
  have hfront : w.journal.take 11 =
      .ended 3 (some "clear") .ok :: (w.journal.take 11).drop 1 := by
    refine split_of_place (i := 0) ?_
    rw [List.getElem?_take, if_pos (by decide)]
    exact hx
  have hjournal := split_of_place hy
  rw [hfront, List.cons_append] at hjournal
  have hsecond := split_of_place hz
  have hstart : .started 2 task ∈ w.journal.drop 14 :=
    List.mem_of_getElem? (i := 0) (by rw [List.getElem?_drop]; exact he)
  have hstays : .unsubscribed "p" ⟨"n", "o"⟩ 0 ∉ (w.journal.take 11).drop 1 := by
    intro hm
    cases hcalm' _ (List.mem_of_mem_take (List.mem_of_mem_drop hm))
  exact ⟨w, _, _, _, _, task, s, hreach, hjournal,
    (awaited_delivery hreach hunharmed).1 [] _ _ 3 _ "p" "n" ["o"] "o" 0 hjournal
      List.mem_cons_self hroll hstays, hsecond, hstart, hholding,
    (awaited_delivery hreach hunharmed).2 _ _ 2 _ task "s" s hsecond hstart hholding⟩

/-- The first wait that returns is for a subscription whose subscriber is registered, and so far nobody
was called. -/
def ReturnsUncalled (w : World) (t : Nat) (sub : String) : Prop :=
  ∃ after past name task s, w.journal = after ++ .ended t name .ok :: past ∧
    .started t task ∈ past ∧ task.holding = some (sub, s) ∧
    .subscribed s.host s.slot s.subscriber sub ∈ past ∧
    enrolled s.host s.slot s.subscriber past = true ∧
    (∀ t' name', .ended t' (some name') .ok ∉ past) ∧
    ∀ host j c callback r, .called host j c callback r ∉ past

def isUncalled : Event → Bool
  | .called _ _ _ _ _ | .ended _ (some _) .ok => false
  | _ => true

def isSubscription (host : String) (s : Slot) (c : Nat) (sub : String) : Event → Bool
  | .subscribed h j d n => h == host && j == s && d == c && n == sub
  | _ => false

def isPanic : Event → Bool
  | .panicked _ _ => true
  | _ => false

def isCancelled : Event → Bool
  | .ended _ _ .cancelled => true
  | _ => false

lemma unharmed_of_isPanic {l : List Event} (h : ∀ e ∈ l, isPanic e = false) : Unharmed l := by
  intro text
  constructor
  · intro hm
    cases h _ hm
  · intro hm
    cases h _ hm

/-- The event at this place ends such a wait. -/
def returnsUncalled (w : World) (t : Nat) (name sub : String) (i : Nat) : Bool :=
  w.journal[i]?.any (Event.isEnd t (some name)) && (w.journal.drop (i + 1)).all isUncalled &&
    (w.journal.drop (i + 1)).any fun e => (waitedFor t sub e).any fun s =>
      (w.journal.drop (i + 1)).any (isSubscription s.host s.slot s.subscriber sub) &&
        enrolled s.host s.slot s.subscriber (w.journal.drop (i + 1))

lemma of_returnsUncalled {w : World} {t : Nat} {name sub : String} {i : Nat}
    (h : w.returnsUncalled t name sub i = true) : w.ReturnsUncalled t sub := by
  unfold returnsUncalled at h
  simp only [Bool.and_eq_true, List.any_eq_true, Option.any_eq_true] at h
  obtain ⟨⟨⟨x, hx, hend⟩, huncalled⟩, e, he, s, hs, ⟨y, hy, hsub⟩, hroll⟩ := h
  obtain rfl := Event.eq_of_isEnd hend
  obtain ⟨task, rfl, hholding⟩ := of_waitedFor hs
  have hnone := List.all_eq_true.mp huncalled
  have hsubscribed : y = .subscribed s.host s.slot s.subscriber sub := by
    cases y with
    | subscribed host j c n =>
      simp only [isSubscription, Bool.and_eq_true, beq_iff_eq] at hsub
      obtain ⟨⟨⟨rfl, rfl⟩, rfl⟩, rfl⟩ := hsub
      rfl
    | _ => cases hsub
  refine ⟨_, _, _, task, s, split_of_place hx, he, hholding, hsubscribed ▸ hy, hroll, ?_, ?_⟩
  · intro t' name' hm
    cases hnone _ hm
  · intro host j c callback r hm
    cases hnone _ hm

/-- A first wait that is cancelled, and another one. -/
def cancelledWait : List (Action × Nat) := [
  (.register "p" (heldNode "n" ["o"]) "n", 0),
  (.subscribe "p" "s" ⟨"n", "o"⟩ "c", 30),
  (.await "first" "s" true, 30),
  (.cancel "first", 30),
  (.await "second" "s" true, 30)]

/-- A wait for a subscription that was undone while its slot was delivered, and is made again. -/
def renewedWait : List (Action × Nat) := [
  (.register "p" (heldNode "n" ["o"]) "n", 0),
  (.subscribe "p" "s" ⟨"n", "o"⟩ "c", 30),
  (.unsubscribe "p" ⟨"n", "o"⟩ "c", 0),
  (.resolve .first (some (.value (.text "a"))), 60),
  (.await "wait" "s" true, 0),
  (.subscribe "p" "again" ⟨"n", "o"⟩ "c", 60)]

/-- A wait need not follow a delivery: the first delivery is spent on a wait that was cancelled, or went
out while the subscription was undone. -/
theorem wait_returns_uncalled :
    (∃ w, Reachable ({} : Scene).opening w ∧ Unharmed w.journal ∧ w.ReturnsUncalled 2 "s" ∧
      ∀ host j c, .unsubscribed host j c ∉ w.journal) ∧
    ∃ w, Reachable ({} : Scene).opening w ∧ Unharmed w.journal ∧ w.ReturnsUncalled 1 "s" ∧
      ∀ t name, .ended t name .cancelled ∉ w.journal := by
  have hcancelled : (({} : Scene).opening.rehearse cancelledWait).any (fun w =>
      w.returnsUncalled 2 "second" "s" 0 && w.journal.all (fun e =>
        !isPanic e && !e.isWithdrawal)) = true := by decide +kernel
  have hrenewed : (({} : Scene).opening.rehearse renewedWait).any (fun w =>
      w.returnsUncalled 1 "wait" "s" 6 && w.journal.all (fun e =>
        !isPanic e && !isCancelled e)) = true := by decide +kernel
  simp only [Option.any_eq_true, Bool.and_eq_true, Bool.not_eq_true', List.all_eq_true]
    at hcancelled hrenewed
  obtain ⟨w, hw, hreturns, hnone⟩ := hcancelled
  obtain ⟨w', hw', hreturns', hnone'⟩ := hrenewed
  refine ⟨⟨w, reachable_rehearse .refl hw, unharmed_of_isPanic fun e he => (hnone e he).1,
    of_returnsUncalled hreturns, fun host j c hm => ?_⟩,
    ⟨w', reachable_rehearse .refl hw', unharmed_of_isPanic fun e he => (hnone' e he).1,
      of_returnsUncalled hreturns', fun t name hm => ?_⟩⟩
  · cases (hnone _ hm).2
  · cases (hnone' _ hm).2

end World

end Dataflow
