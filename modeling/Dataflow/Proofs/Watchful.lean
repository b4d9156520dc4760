import Dataflow.Proofs.Duties
import Dataflow.Proofs.Mirrors

/-!
# Looking again

Every emission has a pass of its own. One that has looked for a cached result counts on what it saw,
and looks again only when the slot was cleared since.
-/

namespace Dataflow

open Journal

/-- What an emission saw when it looked is there still: the computation that it waits for is in
flight, or something is cached. -/
def Phase.Covered (host : String) (s : Slot) (past : List Event) : Phase → Prop
  | .waiting _ _ ticket => flying host s past = some ticket ∨ cached host s past ≠ none
  | .ready _ _ => cached host s past ≠ none
  | .looked _ | .calling _ _ _ => True
  | _ => False

/-- It stays there until the slot is cleared. -/
lemma Lawful.covered_append {policy : String → Policy} {new past : List Event}
    (h : Lawful policy (new ++ past)) {host : String} {s : Slot} {p : Phase}
    (hp : p.Covered host s past) :
    (∃ e ∈ new, e.clears host s = true) ∨ p.Covered host s (new ++ past) := by
  by_cases hc : ∃ e ∈ new, e.clears host s = true
  · exact .inl hc
  have hn : ∀ e ∈ new, e.clears host s = false := fun e he =>
    Bool.eq_false_iff.mpr fun ht => hc ⟨e, he, ht⟩
  have hkeep : cached host s past ≠ none → cached host s (new ++ past) ≠ none := by
    intro hr
    obtain ⟨r, hr⟩ := Option.ne_none_iff_exists'.mp hr
    rw [h.cached_append hn hr]
    exact Option.some_ne_none r
  right
  cases p with
  | waiting pass clears ticket =>
    rcases hp with hf | hr
    · obtain ⟨later, earlier, rfl, hl⟩ := flying_eq_some hf
      rw [← List.append_assoc] at h
      have hboth : ∀ e ∈ new ++ later, e.clears host s = false := fun e he =>
        (List.mem_append.mp he).elim (hn e) (hl e)
      rcases h.flying_or_landed hboth with hf | ⟨r, hr, -⟩
      · rw [List.append_assoc] at hf
        exact .inl hf
      · rw [List.append_assoc] at hr
        exact .inr (by rw [hr]; exact Option.some_ne_none r)
    · exact .inr (hkeep hr)
  | ready pass clears => exact hkeep hp
  | _ => exact hp

namespace Ledger

variable {b b' : Ledger}

@[simp] lemma passes_clearAll (e : Engine) (node : String) (keys : List String) :
    (e.clearAll node keys).passes = e.passes := by
  unfold Engine.clearAll
  induction keys generalizing e with
  | nil => rfl
  | cons k keys ih => exact ih (e.clear ⟨node, k⟩)

lemma Change.passes (h : b.Change b') (host : String) :
    (b'.engine host).passes = (b.engine host).passes := by
  have hset : ∀ {i : String} {e : Engine}, e.passes = (b.engine i).passes →
      (if i = host then e else b.engine host).passes = (b.engine host).passes := by
    intro i e he
    by_cases hi : i = host
    · subst hi
      rw [if_pos rfl, he]
    · rw [if_neg hi]
  cases h with
  | nothing => rfl
  | takeOff i s _ _ | enrol i s c name _ | offer i s pass r _ _ => exact hset rfl
  | land ticket d c _ _ =>
    refine hset ?_
    unfold Engine.land
    by_cases hf : (b.engine d.host).flying d.slot = some ticket
    · rw [if_pos hf]
    · rw [if_neg hf]
  | enlist i n =>
    refine hset ?_
    unfold Engine.register
    cases (b.engine i).nodes.contains n.id <;> rfl
  | unregister i id _ =>
    refine hset ?_
    unfold Engine.unregister
    cases (b.engine i).nodes.contains id <;> rfl
  | unsubscribe i s c =>
    obtain ⟨subscriptions, delivered, he⟩ := (b.engine i).unsubscribe_frame s c
    exact hset (by rw [he])
  | clearKeys t i node keys => exact hset (passes_clearAll _ node keys)

lemma Move.passes_le (h : Move b b') (host : String) :
    (b.engine host).passes ≤ (b'.engine host).passes := by
  obtain ⟨m, hc, hp⟩ := h.change
  rw [← hc.passes host]
  exact (hp.engine host).passes_le

lemma passes_enter (b : Ledger) (t i : Nat) (y : Errand) :
    ((b.enter t i y).engine y.host).passes = (b.engine y.host).passes + 1 := by
  show (if y.host = y.host then ((b.engine y.host).enter y.slot).2 else _).passes = _
  rw [if_pos rfl]
  exact (Engine.enter_number _ _).2

lemma errand?_enter {t i : Nat} {y : Errand} (hy : b.errand? t i = some y) (t' i' : Nat) :
    (b.enter t i y).errand? t' i' =
      if t = t' ∧ i = i' then
        some { y with phase := .looking ((b.engine y.host).enter y.slot).1 }
      else b.errand? t' i' :=
  errand?_setErrand (b := b.takePass y.host y.slot) hy _ t' i'

lemma errand?_look {t i : Nat} {y : Errand} (hy : b.errand? t i = some y) (pass : Pass)
    (t' i' : Nat) : (b.look t i y pass).errand? t' i' =
      if t = t' ∧ i = i' then some { y with phase := .looked pass } else b.errand? t' i' :=
  errand?_setErrand (b := b.log (.looked y.host y.slot pass)) hy _ t' i'

/-- An emission has the pass that it had, or else takes the next one. -/
lemma Move.pass_cases (h : Move b b') {t i : Nat} {x : Errand} {pass : Pass}
    (hx : b'.errand? t i = some x) (hp : x.phase.pass? = some pass) :
    (∃ y, b.errand? t i = some y ∧ y.Is x.host x.slot ∧ y.phase.pass? = some pass) ∨
      ∃ y, b.errand? t i = some y ∧ y.phase = .fresh ∧ y.Is x.host x.slot ∧
        x.phase = .looking pass ∧ pass.number = (b.engine x.host).passes ∧ b' = b.enter t i y := by
  cases h.came hx with
  | kept hx => exact .inl ⟨x, hx, ⟨rfl, rfl⟩, hp⟩
  | fresh hf =>
    rw [hf] at hp
    cases hp
  | entered y hy hf hxp hb =>
    subst hxp
    cases hp
    exact .inr ⟨y, hy, hf, ⟨rfl, rfl⟩, rfl, (Engine.enter_number _ _).1, hb⟩
  | looked y pass' hy hyp hxp _ =>
    subst hxp
    exact .inl ⟨y, hy, ⟨rfl, rfl⟩, by rw [hyp]; exact hp⟩
  | advanced y p hy ha hxp _ =>
    subst hxp
    refine .inl ⟨y, hy, ⟨rfl, rfl⟩, ?_⟩
    cases ha with
    | found _ _ hyp _ | wait _ _ hyp _ | answer _ _ _ _ _ hyp _ _ | retry _ _ hyp _ =>
      rw [hyp]
      exact hp
  | selected y pass' clears r hy hyp _ _ hxp _ =>
    subst hxp
    exact .inl ⟨y, hy, ⟨rfl, rfl⟩, by rw [hyp]; exact hp⟩
  | called y pass' r c rest callback hy hyp hxp _ =>
    subst hxp
    exact .inl ⟨y, hy, ⟨rfl, rfl⟩, by rw [hyp]; exact hp⟩

/-- Nobody looks between the two. -/
def Unlooked (b b' : Ledger) : Prop :=
  ∃ new, b'.journal = new ++ b.journal ∧ ∀ host s pass, .looked host s pass ∉ new

lemma unlooked_log {e : Event} (hj : b'.journal = e :: b.journal)
    (he : ∀ host s pass, e ≠ .looked host s pass) : Unlooked b b' :=
  ⟨[e], hj, fun host s pass hm => he host s pass (List.mem_singleton.mp hm).symm⟩

lemma unlooked_same (hj : b'.journal = b.journal) : Unlooked b b' := ⟨[], hj, by simp⟩

/-- Somebody looks only in a move of its own. -/
lemma Move.looks (h : Move b b') : Unlooked b b' ∨ ∃ t i x pass,
    b.errand? t i = some x ∧ x.phase = .looking pass ∧ b' = b.look t i x pass := by
  cases h with
  | look t i x pass hx hp => exact .inr ⟨t, i, x, pass, hx, hp, rfl⟩
  | quiet hq =>
    obtain ⟨notes, hj, hn⟩ := hq.journal
    refine .inl ⟨notes, hj, fun host s pass hm => ?_⟩
    cases hn _ hm
  | takeOff _ _ _ _ | begin _ _ _ _ | land _ _ _ _ _ | unregister _ _ _ | unsubscribe _ _ _ =>
    exact .inl (unlooked_log rfl (by rintro _ _ _ ⟨⟩))
  | start _ _ _ _ | invalidate _ _ _ _ _ _ _ _ _ _ | panic _ _ _ _ _ =>
    exact .inl (unlooked_log rfl (by rintro _ _ _ ⟨⟩))
  | enter _ _ _ _ _ | select _ _ _ _ _ _ _ _ _ _ | call _ _ _ _ _ _ _ _ _ _ =>
    exact .inl (unlooked_log rfl (by rintro _ _ _ ⟨⟩))
  | advance _ _ _ _ _ _ | leave _ _ _ _ _ _ _ => exact .inl (unlooked_same rfl)
  | register host n =>
    left
    rcases register_cases b host n with ⟨he, -, -⟩ | ⟨he, -⟩
    · obtain ⟨new, hj, hn, -⟩ := journal_emitAll (b.enlist host n) host n.id
        ((b.engine host).subscriptions.entries n.id).names
      rw [he]
      refine ⟨new ++ [.registered host n ((b.engine host).nodes.contains n.id)], ?_, ?_⟩
      · rw [hj, List.append_assoc]
        rfl
      · intro i s pass hm
        rcases List.mem_append.mp hm with hm | hm
        · obtain ⟨t, task, heq⟩ := hn _ hm
          cases heq
        · cases List.mem_singleton.mp hm
    · rw [he]
      exact unlooked_log rfl (by rintro _ _ _ ⟨⟩)
  | subscribe host s c name _ =>
    left
    unfold Ledger.subscribe
    by_cases hr : b.runtime = true
    · rw [if_pos hr]
      exact ⟨[.started b.duties.length (.emitting host s), .subscribed host s c name], rfl, by simp⟩
    · rw [if_neg hr]
      exact unlooked_log rfl (by rintro _ _ _ ⟨⟩)
  | drop t i x _ _ _ =>
    left
    unfold Ledger.drop
    cases x.phase.pass? with
    | none => exact unlooked_same rfl
    | some pass => exact unlooked_log rfl (by rintro _ _ _ ⟨⟩)
  | finish t d how engine extra he =>
    refine .inl ⟨.ended t d.name how :: extra, rfl, fun host s pass hm => ?_⟩
    rcases List.mem_cons.mp hm with heq | hm
    · cases heq
    · obtain ⟨i, j, other, heq⟩ := he.extra _ hm
      cases heq

structure Watchful (b : Ledger) : Prop where
  numbered : ∀ host s pass, .looked host s pass ∈ b.journal → pass.number < (b.engine host).passes
  handed : ∀ t i x pass, b.errand? t i = some x → x.phase.pass? = some pass →
    pass.number < (b.engine x.host).passes
  unshared : ∀ t i x t' i' x' pass, b.errand? t i = some x → b.errand? t' i' = some x' →
    x.host = x'.host → x.phase.pass? = some pass → x'.phase.pass? = some pass → t = t' ∧ i = i'
  seen : ∀ t i x pass, b.errand? t i = some x → x.phase.pass? = some pass →
    x.phase = .looking pass ∨ .looked x.host x.slot pass ∈ b.journal
  watched : ∀ t i x pass later earlier, b.errand? t i = some x → x.phase.pass? = some pass →
    b.journal = later ++ .looked x.host x.slot pass :: earlier →
    (∃ e ∈ later, e.clears x.host x.slot = true) ∨ x.phase.Covered x.host x.slot b.journal

/-- Whoever looks has not looked yet, or the slot was cleared since. -/
lemma Watchful.fits_looked (h : Watchful b) {t i : Nat} {x : Errand} {pass : Pass}
    (hx : b.errand? t i = some x) (hp : x.phase = .looking pass) {later earlier : List Event}
    (hj : b.journal = later ++ .looked x.host x.slot pass :: earlier) :
    ∃ e ∈ later, e.clears x.host x.slot = true := by
  rcases h.watched t i x pass later earlier hx (by rw [hp]; rfl) hj with hc | hcov
  · exact hc
  · rw [hp] at hcov
    cases hcov

lemma Watchful.numbered_move (h : Watchful b) (hm : Move b b') {host : String} {s : Slot}
    {pass : Pass} (hl : .looked host s pass ∈ b'.journal) :
    pass.number < (b'.engine host).passes := by
  refine Nat.lt_of_lt_of_le ?_ (hm.passes_le host)
  rcases hm.looks with ⟨new, hj, hn⟩ | ⟨t, i, x, pass', hx, hp, rfl⟩
  · rw [hj] at hl
    rcases List.mem_append.mp hl with hl | hl
    · exact absurd hl (hn host s pass)
    · exact h.numbered host s pass hl
  · rcases List.mem_cons.mp hl with heq | hl
    · cases heq
      exact h.handed t i x pass hx (by rw [hp]; rfl)
    · exact h.numbered host s pass hl

lemma Watchful.handed_move (h : Watchful b) (hm : Move b b') {t i : Nat} {x : Errand}
    {pass : Pass} (hx : b'.errand? t i = some x) (hp : x.phase.pass? = some pass) :
    pass.number < (b'.engine x.host).passes := by
  rcases hm.pass_cases hx hp with ⟨y, hy, hi, hyp⟩ | ⟨y, hy, -, hi, -, hn, rfl⟩
  · have hlt := h.handed t i y pass hy hyp
    rw [hi.1] at hlt
    exact Nat.lt_of_lt_of_le hlt (hm.passes_le x.host)
  · rw [hn, ← hi.1, passes_enter]
    exact Nat.lt_succ_self _

lemma Watchful.unshared_move (h : Watchful b) (hm : Move b b') {t i t' i' : Nat} {x x' : Errand}
    {pass : Pass} (hx : b'.errand? t i = some x) (hx' : b'.errand? t' i' = some x')
    (hh : x.host = x'.host) (hp : x.phase.pass? = some pass) (hp' : x'.phase.pass? = some pass) :
    t = t' ∧ i = i' := by
  rcases hm.pass_cases hx hp with ⟨y, hy, hi, hyp⟩ | ⟨y, hy, -, hi, -, hn, hb⟩
  · rcases hm.pass_cases hx' hp' with ⟨y', hy', hi', hyp'⟩ | ⟨y', -, -, -, -, hn', -⟩
    · exact h.unshared t i y t' i' y' pass hy hy' (hi.1.trans (hh.trans hi'.1.symm)) hyp hyp'
    · have hlt := h.handed t i y pass hy hyp
      rw [hi.1, hh] at hlt
      omega
  · rcases hm.pass_cases hx' hp' with ⟨y', hy', hi', hyp'⟩ | ⟨y', hy', hf', -, -, -, -⟩
    · have hlt := h.handed t' i' y' pass hy' hyp'
      rw [hi'.1, ← hh] at hlt
      omega
    · -- Only one of the two has entered, and the other would still be fresh.
      rw [hb, errand?_enter hy] at hx'
      by_cases ht : t = t' ∧ i = i'
      · exact ht
      · rw [if_neg ht, hy'] at hx'
        cases hx'
        rw [hf'] at hp'
        cases hp'

lemma Watchful.seen_move (h : Watchful b) (hm : Move b b') {t i : Nat} {x : Errand}
    {pass : Pass} (hx : b'.errand? t i = some x) (hp : x.phase.pass? = some pass) :
    x.phase = .looking pass ∨ .looked x.host x.slot pass ∈ b'.journal := by
  obtain ⟨new, hj⟩ := hm.grows
  have hold : ∀ y, b.errand? t i = some y → y.Is x.host x.slot → y.phase.pass? = some pass →
      y.phase ≠ .looking pass → .looked x.host x.slot pass ∈ b'.journal := by
    rintro y hy ⟨hhost, hslot⟩ hyp hn
    rw [hj, ← hhost, ← hslot]
    exact List.mem_append_right _ ((h.seen t i y pass hy hyp).resolve_left hn)
  cases hm.came hx with
  | kept hx =>
    by_cases hn : x.phase = .looking pass
    · exact .inl hn
    · exact .inr (hold x hx ⟨rfl, rfl⟩ hp hn)
  | fresh hf =>
    rw [hf] at hp
    cases hp
  | entered y _ _ hxp _ =>
    subst hxp
    cases hp
    exact .inl rfl
  | looked y pass' _ _ hxp hb =>
    subst hxp
    cases hp
    rw [hb]
    exact .inr List.mem_cons_self
  | advanced y p hy ha hxp _ =>
    subst hxp
    cases ha with
    | found pass' r hyp _ | wait pass' ticket hyp _ | answer pass' _ _ _ _ hyp _ _ =>
      cases hp
      exact .inr (hold y hy ⟨rfl, rfl⟩ (by rw [hyp]; rfl) (by rw [hyp]; rintro ⟨⟩))
    | retry pass' clears hyp _ =>
      cases hp
      exact .inl rfl
  | selected y pass' clears r hy hyp _ _ hxp _ =>
    subst hxp
    cases hp
    exact .inr (hold y hy ⟨rfl, rfl⟩ (by rw [hyp]; rfl) (by rw [hyp]; rintro ⟨⟩))
  | called y pass' r c rest callback hy hyp hxp _ =>
    subst hxp
    cases hp
    exact .inr (hold y hy ⟨rfl, rfl⟩ (by rw [hyp]; rfl) (by rw [hyp]; rintro ⟨⟩))

/-- What an emission comes to counts on what it saw, or its slot was cleared since. -/
lemma Watchful.watched_advance (h : Watchful b) (hm : Mirrors b) (hl : Logged b) {t i : Nat}
    {y : Errand} {p : Phase} {pass : Pass} (hy : b.errand? t i = some y) (ha : b.Advances y p)
    (hp : p.pass? = some pass) {later earlier : List Event}
    (hj : b.journal = later ++ .looked y.host y.slot pass :: earlier) :
    (∃ e ∈ later, e.clears y.host y.slot = true) ∨ p.Covered y.host y.slot b.journal := by
  cases ha with
  | found pass' r hyp hc =>
    rw [hm.cached] at hc
    exact .inr (by rw [Phase.Covered, hc]; exact Option.some_ne_none r)
  | wait pass' ticket hyp hf =>
    rw [hm.flying] at hf
    exact .inr (.inl hf)
  | answer pass' clears ticket d r hyp hd hland =>
    cases hp
    rcases h.watched t i y pass later earlier hy (by rw [hyp]; rfl) hj with hc | hcov
    · exact .inl hc
    · rw [hyp] at hcov
      rcases hcov with hf | hc
      · rw [← hm.flying] at hf
        obtain ⟨d', hd', hn, -⟩ := hl.flying y.host y.slot ticket hf
        rw [hd] at hd'
        cases hd'
        rw [hland] at hn
        cases hn
      · exact .inr hc
  | retry pass' clears hyp hc =>
    cases hp
    rcases h.watched t i y pass later earlier hy (by rw [hyp]; rfl) hj with hcl | hcov
    · exact .inl hcl
    · rw [hyp] at hcov
      rw [hm.cached] at hc
      exact absurd hc hcov

/-- A look of an emission that was under way before stays watched whatever is added to the history. -/
lemma Watchful.watched_append (h : Watchful b) {policy : String → Policy} {new m earlier : List Event}
    (hlaw : Lawful policy (new ++ b.journal)) {t i : Nat} {x : Errand} {pass : Pass}
    (hx : b.errand? t i = some x) (hp : x.phase.pass? = some pass)
    (hj : b.journal = m ++ .looked x.host x.slot pass :: earlier) :
    (∃ e ∈ new ++ m, e.clears x.host x.slot = true) ∨
      x.phase.Covered x.host x.slot (new ++ b.journal) := by
  rcases h.watched t i x pass m earlier hx hp hj with ⟨e, he, hc⟩ | hcov
  · exact .inl ⟨e, List.mem_append_right _ he, hc⟩
  · rcases hlaw.covered_append hcov with ⟨e, he, hc⟩ | hcov
    · exact .inl ⟨e, List.mem_append_left _ he, hc⟩
    · exact .inr hcov

/-- An emission that a move leaves as it is stays watched: no other emission looks with its pass. -/
lemma Watchful.watched_kept (h : Watchful b) {policy : String → Policy}
    (hlaw : Lawful policy b'.journal) (hm : Move b b') {t i : Nat} {x : Errand} {pass : Pass}
    {later earlier : List Event} (hkept : b.errand? t i = some x) (hx : b'.errand? t i = some x)
    (hp : x.phase.pass? = some pass)
    (hj : b'.journal = later ++ .looked x.host x.slot pass :: earlier) :
    (∃ e ∈ later, e.clears x.host x.slot = true) ∨ x.phase.Covered x.host x.slot b'.journal := by
  rcases hm.looks with ⟨new, hgrow, hn⟩ | ⟨t', i', y, pass', hy, hyp, rfl⟩
  · rw [hgrow] at hj hlaw ⊢
    rcases append_split hj with ⟨m, rfl, hsplit⟩ | ⟨m, hnew, -⟩
    · exact h.watched_append hlaw hkept hp hsplit
    · refine absurd ?_ (hn x.host x.slot pass)
      rw [hnew]
      exact List.mem_append_right _ List.mem_cons_self
  · have hgrow : (b.look t' i' y pass').journal =
        [.looked y.host y.slot pass'] ++ b.journal := rfl
    rw [hgrow] at hj hlaw ⊢
    rcases append_split hj with ⟨m, rfl, hsplit⟩ | ⟨m, hnew, -⟩
    · exact h.watched_append hlaw hkept hp hsplit
    · cases later with
      | cons e later => cases later <;> cases hnew
      | nil =>
        obtain ⟨heq, -⟩ := List.cons_eq_cons.mp hnew
        obtain ⟨hhost, -, rfl⟩ := Event.looked.inj heq
        obtain ⟨rfl, rfl⟩ :=
          h.unshared t' i' y t i x pass' hy hkept hhost (by rw [hyp]; rfl) hp
        rw [errand?_look hy, if_pos ⟨rfl, rfl⟩] at hx
        rw [hy] at hkept
        cases hkept
        have hlooked := congrArg Errand.phase (Option.some.inj hx)
        rw [hyp] at hlooked
        cases hlooked

lemma Watchful.watched_move (h : Watchful b) (hmir : Mirrors b) (hlog : Logged b)
    {policy : String → Policy} (hlaw : Lawful policy b'.journal) (hm : Move b b') {t i : Nat}
    {x : Errand} {pass : Pass} {later earlier : List Event} (hx : b'.errand? t i = some x)
    (hp : x.phase.pass? = some pass)
    (hj : b'.journal = later ++ .looked x.host x.slot pass :: earlier) :
    (∃ e ∈ later, e.clears x.host x.slot = true) ∨ x.phase.Covered x.host x.slot b'.journal := by
  cases hm.came hx with
  | kept hkept => exact h.watched_kept hlaw hm hkept hx hp hj
  | fresh hf =>
    rw [hf] at hp
    cases hp
  | entered y hy _ hxp hb =>
    subst hxp
    cases hp
    rw [hb] at hj
    cases later with
    | nil => cases hj
    | cons e later =>
      obtain ⟨-, hsplit⟩ := List.cons_eq_cons.mp hj
      have hm : .looked y.host y.slot ((b.engine y.host).enter y.slot).1 ∈ b.journal := by
        have hjournal : b.journal = later ++ .looked y.host y.slot _ :: earlier := hsplit
        rw [hjournal]
        exact List.mem_append_right _ List.mem_cons_self
      have hlt := h.numbered y.host y.slot _ hm
      rw [(Engine.enter_number _ _).1] at hlt
      exact absurd hlt (Nat.lt_irrefl _)
  | looked y pass' _ _ hxp _ =>
    subst hxp
    exact .inr True.intro
  | advanced y p hy ha hxp hb =>
    subst hxp
    rw [hb] at hj ⊢
    exact h.watched_advance (y := y) hmir hlog hy ha hp hj
  | selected y pass' clears r _ _ _ _ hxp _ =>
    subst hxp
    exact .inr True.intro
  | called y pass' r c rest callback _ _ hxp _ =>
    subst hxp
    exact .inr True.intro

lemma Watchful.move (h : Watchful b) (hmir : Mirrors b) (hlog : Logged b)
    {policy : String → Policy} (hlaw : Lawful policy b'.journal) (hm : Move b b') :
    Watchful b' where
  numbered := fun _ _ _ hl => h.numbered_move hm hl
  handed := fun _ _ _ _ hx hp => h.handed_move hm hx hp
  unshared := fun _ _ _ _ _ _ _ hx hx' hh hp hp' => h.unshared_move hm hx hx' hh hp hp'
  seen := fun _ _ _ _ hx hp => h.seen_move hm hx hp
  watched := fun _ _ _ _ _ _ hx hp hj => h.watched_move hmir hlog hlaw hm hx hp hj

end Ledger

end Dataflow
