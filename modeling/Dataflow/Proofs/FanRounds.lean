import Dataflow.Proofs.FanTurns
import Dataflow.Proofs.Selection

/-!
# Rounds of a fan that is left alone

A fan polls its branches in the order of the keys, and those that had to wait again when they are woken.
So nodes are asked for the keys in the order in which they come first.
-/

namespace Dataflow

namespace Fan

variable {f f' : Fan} {b : Option Emission} {host node : String} {keys : List String} {m n t i : Nat}

/-- The first `m` branches were polled, and those of them that are not over wait at their gates. -/
structure Partway (f : Fan) (host node : String) (keys : List String) (m : Nat) : Prop where
  length : f.branches.length = keys.length
  wide : f.wide = decide (wideFrom ≤ keys.length)
  fresh : ∀ i k, m ≤ i → keys[i]? = some k → f.branch? i = some { host, slot := ⟨node, k⟩ }
  came : ∀ i e, i < m → f.branch? i = some e → ∃ k pass clears, keys[i]? = some k ∧
    e = ⟨host, ⟨node, k⟩, .ready pass clears⟩

/-- A wide fan is to poll the branches from the `m`-th on before all others. -/
def Lists (f : Fan) (m : Nat) : Prop :=
  f.wide = true → ∃ more, f.ready = List.range' m (f.branches.length - m) ++ more

/-- How many branches are not over. -/
def load (f : Fan) : Nat := f.branches.countP Option.isSome

lemma partway_of (host node : String) (keys : List String) :
    (Fan.of host node keys).Partway host node keys 0 where
  length := List.length_map ..
  wide := rfl
  fresh := fun i k _ hk => by
    show ((keys.map _)[i]?).bind id = _
    rw [List.getElem?_map, hk]
    rfl
  came := fun i e hi => absurd hi (Nat.not_lt_zero i)

lemma mem_unfinished : i ∈ f.unfinished ↔ (f.branch? i).isSome = true := by
  unfold unfinished
  rw [List.mem_filter, List.mem_range]
  refine ⟨And.right, fun h => ⟨?_, h⟩⟩
  obtain ⟨e, he⟩ := Option.isSome_iff_exists.mp h
  exact branch?_lt he

namespace Partway

lemma slot {e : Emission} (h : f.Partway host node keys m) (hi : f.branch? i = some e) :
    ∃ k, keys[i]? = some k ∧ e.host = host ∧ e.slot = ⟨node, k⟩ := by
  by_cases hm : i < m
  · obtain ⟨k, pass, clears, hk, rfl⟩ := h.came i e hm hi
    exact ⟨k, hk, rfl, rfl⟩
  · have hlt : i < keys.length := h.length ▸ branch?_lt hi
    have hk : keys[i]? = some keys[i] := List.getElem?_eq_getElem hlt
    have hfresh := h.fresh i _ (Nat.le_of_not_lt hm) hk
    rw [hi] at hfresh
    cases hfresh
    exact ⟨_, hk, rfl, rfl⟩

/-- The branch that was polled is over, or waits at its gate. -/
lemma refits {k : String} (h : f.Partway host node keys m) (hm : f.cursor ≤ m)
    (hk : keys[f.cursor]? = some k) (hfit : f.Refits b f')
    (hb : ∀ e, b = some e → ∃ pass clears, e = ⟨host, ⟨node, k⟩, .ready pass clears⟩) :
    f'.Partway host node keys (max m (f.cursor + 1)) where
  length := by rw [hfit.branches, List.length_set, h.length]
  wide := hfit.wide.trans h.wide
  fresh := fun i k' hi hk' => by
    rw [hfit.branch? (by omega)]
    exact h.fresh i k' (by omega) hk'
  came := fun i e hi he => by
    by_cases hc : i = f.cursor
    · subst hc
      have hlt : f.cursor < f.branches.length := by
        rw [h.length]
        exact (List.getElem?_eq_some_iff.mp hk).1
      have hcurrent : f'.branch? f.cursor = b := by
        unfold branch?
        rw [hfit.branches, List.getElem?_set_self hlt]
        rfl
      obtain ⟨pass, clears, rfl⟩ := hb e (hcurrent.symm.trans he)
      exact ⟨k, pass, clears, hk, rfl⟩
    · exact h.came i e (by omega) ((hfit.branch? hc).symm.trans he)

lemma of_branches (h : f.Partway host node keys m) (hb : f'.branches = f.branches)
    (hw : f'.wide = f.wide) : f'.Partway host node keys m := by
  have hbranch : ∀ i, f'.branch? i = f.branch? i := fun i => by
    unfold branch?
    rw [hb]
  exact ⟨by rw [hb, h.length], hw.trans h.wide, fun i k hi hk => (hbranch i).trans (h.fresh i k hi hk),
    fun i e hi he => h.came i e hi ((hbranch i).symm.trans he)⟩

end Partway

lemma Lists.refits (h : f.Lists m) (hfit : f.Refits b f') : f'.Lists m := by
  intro hw
  obtain ⟨more, hmore⟩ := h (hfit.wide.symm.trans hw)
  obtain ⟨more', hmore'⟩ := hfit.ready
  refine ⟨more ++ more', ?_⟩
  rw [hmore', hmore, hfit.branches, List.length_set, List.append_assoc]

lemma Lists.nudge (h : f.Lists m) (i : Nat) : (f.nudge i).Lists m := by
  intro hw
  obtain ⟨more, hmore⟩ := h ((wide_nudge f i).symm.trans hw)
  obtain ⟨more', hmore'⟩ := f.ready_nudge i
  refine ⟨more ++ more', ?_⟩
  rw [hmore', hmore, branches_nudge, List.append_assoc]

lemma load_of_refits (hc : f.current?.isSome = true) (hfit : f.Refits b f') :
    f'.load = f.load - 1 + (if b.isSome = true then 1 else 0) ∧ 0 < f.load := by
  obtain ⟨e, he⟩ := Option.isSome_iff_exists.mp hc
  obtain ⟨x, hx, hxe⟩ := Option.bind_eq_some_iff.mp he
  obtain ⟨hlt, hget⟩ := List.getElem?_eq_some_iff.mp hx
  obtain rfl : x = some e := hxe
  unfold load
  constructor
  · rw [hfit.branches, List.countP_set hlt, hget]
    rfl
  · exact List.countP_pos_iff.mpr ⟨some e, hget ▸ List.getElem_mem hlt, rfl⟩

/-- What a wide fan turns to: the first branch to be polled that is not over. -/
lemma ready_cases (f : Fan) :
    ((f.ready.dropWhile fun i => !f.unfinished.contains i) = [] ∧
      ∀ i ∈ f.ready, (f.branch? i).isSome = false) ∨
    ∃ gone i rest, (f.ready.dropWhile fun i => !f.unfinished.contains i) = i :: rest ∧
      f.ready = gone ++ i :: rest ∧ (f.branch? i).isSome = true ∧
      ∀ j ∈ gone, (f.branch? j).isSome = false := by
  have hmem : ∀ i, f.unfinished.contains i = (f.branch? i).isSome := fun i => by
    rw [Bool.eq_iff_iff, List.contains_iff_mem, mem_unfinished]
  simp only [hmem]
  induction f.ready with
  | nil => exact .inl ⟨rfl, fun i hi => by cases hi⟩
  | cons i more ih =>
    cases hi : (f.branch? i).isSome with
    | true =>
      exact .inr ⟨[], i, more, by simp only [List.dropWhile_cons, hi]; rfl, rfl, hi,
        fun j hj => by cases hj⟩
    | false =>
      have hdrop : ((i :: more).dropWhile fun i => !(f.branch? i).isSome) =
          more.dropWhile fun i => !(f.branch? i).isSome := by
        simp only [List.dropWhile_cons, hi]
        rfl
      rw [hdrop]
      rcases ih with ⟨hnil, hall⟩ | ⟨gone, j, rest, hmore, heq, hj, hall⟩
      · exact .inl ⟨hnil, List.forall_mem_cons.mpr ⟨hi, hall⟩⟩
      · exact .inr ⟨i :: gone, j, rest, hmore, by rw [heq, List.cons_append], hj,
          List.forall_mem_cons.mpr ⟨hi, hall⟩⟩

/-- What a narrow fan turns to when all branches before the `m`-th are over. -/
lemma Partway.find?_unfinished (h : f.Partway host node keys m)
    (hover : ∀ i < m, f.branch? i = none) :
    f.unfinished.find? (m ≤ ·) = if m < keys.length then some m else none := by
  unfold unfinished
  rw [List.find?_filter, h.length]
  by_cases hm : m < keys.length
  · rw [if_pos hm, List.find?_range_eq_some]
    have hfresh := h.fresh m _ (Nat.le_refl m) (List.getElem?_eq_getElem hm)
    refine ⟨by simp [hfresh], List.mem_range.mpr hm, fun j hj => ?_⟩
    simp [hover j hj]
  · rw [if_neg hm, List.find?_eq_none]
    intro i hi
    rw [List.mem_range] at hi
    have hlt : ¬m ≤ i := by omega
    simp [hlt]

end Fan

namespace World

variable {sc : Scene} {t m : Nat} {f f' : Fan} {u v w : World} {host node : String} {keys : List String}
  {b : Bool}

/-- A branch is about to be polled, the next one if it is not one of the first `m`. -/
structure OnBranch (w : World) (t : Nat) (f : Fan) (host node : String) (keys : List String) (m : Nat) :
    Prop where
  alone : w.LoneFan t f
  driving : w.driving = []
  focus : w.focus = .emission
  partway : f.Partway host node keys m
  cursor : f.cursor ≤ m
  current : f.current?.isSome = true
  lists : f.Lists (max m (f.cursor + 1))
  orderly : w.QueuesInOrder t f host (some f.cursor)
  narrow : f.wide = false → w.deliveries ≤ m ∧ ∀ i < m, f.branch? i = none

/-- A branch was polled last. -/
structure PastBranch (w : World) (t : Nat) (f : Fan) (host node : String) (keys : List String) (m : Nat)
    (b : Bool) : Prop where
  alone : w.LoneFan t f
  driving : w.driving = []
  focus : w.focus = .next b
  partway : f.Partway host node keys m
  lists : f.Lists m
  orderly : w.QueuesInOrder t f host none
  narrow : f.wide = false → w.deliveries ≤ m ∧ f.cursor + 1 = m ∧ ∀ i < m, f.branch? i = none

/-- All branches are over, and the task is to end. -/
structure Closes (w : World) (t : Nat) (f : Fan) : Prop where
  alone : w.LoneFan t f
  driving : w.driving = []
  focus : w.focus = .finish .ok
  done : ∀ i, f.branch? i = none

/-- Nothing happens but that the task turns to another branch. -/
structure Idles (w v : World) : Prop where
  runtime : v.runtime = w.runtime
  scripts : v.scripts = w.scripts
  pipelines : v.pipelines = w.pipelines
  subscribers : v.subscribers = w.subscribers
  journal : v.journal = w.journal
  number : v.nextResult = w.nextResult

lemma Idles.engine (h : Idles w v) (host : String) : v.engine host = w.engine host := by
  unfold World.engine World.pipeline
  rw [h.pipelines]

lemma Idles.delivers (h : Idles w v) (host : String) : Delivers host w v where
  runtime := h.runtime
  scripts := h.scripts
  policy := by
    unfold World.policy World.pipeline
    rw [h.pipelines]
  subscribers := by rw [h.subscribers]
  nodes := by rw [h.engine]
  subscriptions := by rw [h.engine]
  cached := fun s => by rw [h.engine]
  flying := fun s => by rw [h.engine]
  asked := by
    unfold productions
    rw [h.journal]
  number := h.number

lemma Idles.callsTo (h : Idles w v) (c : Nat) : v.callsTo c = w.callsTo c := by
  unfold World.callsTo
  rw [h.journal]

/-- The world when the fan has turned to a branch. -/
lemma Lone.pollBranch (h : w.Lone t) (f' : Fan) (i : Nat) : ∃ tasks,
    w.pollBranch f' i = { w with tasks, focus := .emission } ∧
      ∀ v : World, v.running = w.running → v.tasks = tasks → v.queue = w.queue →
        v.LoneFan t (f'.aimAt i) := by
  obtain ⟨tasks, hset, halone⟩ := h.setFan (f'.aimAt i)
  refine ⟨tasks, ?_, halone⟩
  unfold World.pollBranch
  rw [hset]
  rfl

/-- The world when the fan has nothing left to do. -/
lemma Lone.closeFan (h : w.Lone t) (f' : Fan) (hf : ∀ i, f'.branch? i = none) : ∃ tasks,
    w.closeFan f' = { w with tasks, focus := .finish .ok } ∧
      ∀ v : World, v.running = w.running → v.tasks = tasks → v.queue = w.queue → v.LoneFan t f' := by
  obtain ⟨tasks, hset, halone⟩ := h.setFan f'
  refine ⟨tasks, ?_, halone⟩
  have hnone : f'.unfinished.isEmpty = true := by
    rw [List.isEmpty_iff, List.eq_nil_iff_forall_not_mem]
    intro i hi
    rw [Fan.mem_unfinished, hf] at hi
    cases hi
  unfold World.closeFan
  dsimp only
  rw [if_pos hnone, hset]
  rfl

lemma QueuesInOrder.congr {polled : Option Nat} (h : w.QueuesInOrder t f host polled)
    (he : v.engine host = w.engine host) (hb : f'.branches = f.branches) (hw : f'.wide = f.wide)
    (hr : f'.ready = f.ready) : v.QueuesInOrder t f' host polled := by
  have hbranch : ∀ i, f'.branch? i = f.branch? i := fun i => by
    unfold Fan.branch?
    rw [hb]
  have hseat : ∀ i, f'.seat t i = f.seat t i := fun i => Fan.seat_congr hw
  constructor
  · simp only [hbranch]
    exact h.hosts
  · simp only [hbranch, hseat, he]
    exact h.seated
  · simp only [hbranch, hseat, he]
    exact h.waiting
  · simp only [hw, hseat, he, hr]
    exact h.next

/-- Where all that are to be polled are over, no branch is left. -/
lemma QueuesInOrder.allOver (ho : w.QueuesInOrder t f host none) (hw : f.wide = true)
    (hp : f.Partway host node keys m) (hl : f.Lists m)
    (hall : ∀ i ∈ f.ready, (f.branch? i).isSome = false) (i : Nat) : f.branch? i = none := by
  obtain ⟨more, hmore⟩ := hl hw
  have hm : f.branches.length ≤ m := by
    refine Nat.le_of_not_lt fun hlt => ?_
    have hin : m ∈ f.ready := by
      rw [hmore]
      exact List.mem_append_left _ (List.mem_range'_1.mpr (by omega))
    have hfresh := hp.fresh m _ (Nat.le_refl m) (List.getElem?_eq_getElem (hp.length ▸ hlt))
    have hnone := hall m hin
    rw [hfresh] at hnone
    cases hnone
  cases he : f.branch? i with
  | none => rfl
  | some e =>
    -- It stands in line, and the first in that line is to be polled.
    obtain ⟨k, pass, clears, -, rfl⟩ := hp.came i e (Nat.lt_of_lt_of_le (Fan.branch?_lt he) hm) he
    have hin := ho.waiting i _ pass clears (by rintro ⟨⟩) he rfl
    obtain ⟨p, rest, hline⟩ := List.exists_cons_of_ne_nil (List.ne_nil_of_mem hin)
    obtain ⟨j, hj, hready⟩ := ho.next hw _ p rest hline
    obtain ⟨j', e', pass', hj', -, -, rfl⟩ := ho.seated _ p (hline ▸ List.mem_cons_self)
    obtain rfl := Fan.seat_inj hw hj
    have hnone := hall j' (hready.resolve_right (by rintro ⟨⟩))
    rw [hj'] at hnone
    cases hnone

/-- A wide fan turns to a branch that waits, or to the next one, or is at its end. -/
lemma Lone.pollsReady (h : w.Lone t) (hd : w.driving = []) {g : Fan} (hw : g.wide = true)
    (hp : g.Partway host node keys m) (hl : g.Lists m) (ho : w.QueuesInOrder t g host none) :
    ∃ f', Idles w (w.pollReady g) ∧ f'.branches = g.branches ∧ f'.wide = g.wide ∧
      (Closes (w.pollReady g) t f' ∨ OnBranch (w.pollReady g) t f' host node keys m ∧
        f'.ready.length < g.ready.length ∧ f'.yielded = g.yielded ∧
        (w.pollReady g).deliveries = w.deliveries) := by
  unfold pollReady
  rcases g.ready_cases with ⟨hdrop, hall⟩ | ⟨gone, i, rest, hdrop, hready, hi, hgone⟩
  · rw [hdrop]
    dsimp only
    have hover := ho.allOver hw hp hl hall
    obtain ⟨tasks, hclose, halone⟩ := h.closeFan { g with ready := [] } hover
    rw [hclose]
    exact ⟨{ g with ready := [] }, ⟨rfl, rfl, rfl, rfl, rfl, rfl⟩, rfl, rfl,
      .inl ⟨halone _ rfl rfl rfl, hd, rfl, hover⟩⟩
  · rw [hdrop]
    dsimp only
    obtain ⟨tasks, hpoll, halone⟩ := h.pollBranch { g with ready := rest } i
    rw [hpoll]
    obtain ⟨more, hmore⟩ := hl hw
    obtain ⟨e, he⟩ := Option.isSome_iff_exists.mp hi
    have hlt := Fan.branch?_lt he
    -- The next branch comes before all that wait.
    have hturn : i = m ∧ rest = List.range' (m + 1) (g.branches.length - (m + 1)) ++ more ∨
        i < m ∧ g.branches.length ≤ m := by
      by_cases hm : m < g.branches.length
      · rw [show g.branches.length - m = g.branches.length - (m + 1) + 1 by omega, List.range'_succ,
          List.cons_append, hready] at hmore
        have hfresh := hp.fresh m _ (Nat.le_refl m) (List.getElem?_eq_getElem (hp.length ▸ hm))
        cases gone with
        | nil =>
          obtain ⟨rfl, rfl⟩ := List.cons.inj hmore
          exact .inl ⟨rfl, rfl⟩
        | cons j gone =>
          obtain ⟨rfl, -⟩ := List.cons.inj hmore
          have hnone := hgone j List.mem_cons_self
          rw [hfresh] at hnone
          cases hnone
      · exact .inr (by omega)
    refine ⟨({ g with ready := rest } : Fan).aimAt i, ⟨rfl, rfl, rfl, rfl, rfl, rfl⟩, rfl, rfl,
      .inr ⟨⟨halone _ rfl rfl rfl, hd, rfl, hp.of_branches rfl rfl, ?_, hi, fun _ => ?_, ?_,
        fun hn => ?_⟩, ?_, rfl, rfl⟩⟩
    · show i ≤ m
      omega
    · show ∃ more, rest = List.range' (max m (i + 1)) (g.branches.length - max m (i + 1)) ++ more
      rcases hturn with ⟨rfl, hrest⟩ | hlt'
      · exact ⟨more, by rw [Nat.max_eq_right (Nat.le_succ i)]; exact hrest⟩
      · exact ⟨rest, by rw [Nat.sub_eq_zero_of_le (by omega)]; rfl⟩
    · refine ⟨ho.hosts, ho.seated, fun j e pass clears _ => ho.waiting j e pass clears (by rintro ⟨⟩),
        fun _ s p line hline => ?_⟩
      obtain ⟨j, hj, hm⟩ := ho.next hw s p line hline
      obtain ⟨j', e', pass', hj', -, -, rfl⟩ := ho.seated s p (hline ▸ List.mem_cons_self)
      obtain rfl := Fan.seat_inj hw hj
      have hm' := hm.resolve_right (by rintro ⟨⟩)
      rw [hready, List.mem_append, List.mem_cons] at hm'
      rcases hm' with hm' | rfl | hm'
      · have hnone := hgone j' hm'
        rw [hj'] at hnone
        cases hnone
      · exact ⟨j', rfl, .inr rfl⟩
      · exact ⟨j', rfl, .inl hm'⟩
    · exact absurd (hw.symm.trans hn) (by simp)
    · show rest.length < g.ready.length
      rw [hready, List.length_append, List.length_cons]
      omega

/-- A narrow fan turns to the next branch, or is at its end. -/
lemma Lone.pollsFrom (h : w.Lone t) (hd : w.driving = []) {g : Fan} (hw : g.wide = false)
    (hp : g.Partway host node keys m) (ho : w.QueuesInOrder t g host none) (hn : w.deliveries ≤ m)
    (hover : ∀ i < m, g.branch? i = none) :
    ∃ f', Idles w (w.pollFrom g m) ∧ f'.branches = g.branches ∧ f'.wide = g.wide ∧
      (Closes (w.pollFrom g m) t f' ∨ OnBranch (w.pollFrom g m) t f' host node keys m) := by
  unfold pollFrom
  rw [hp.find?_unfinished hover]
  by_cases hm : m < keys.length
  · rw [if_pos hm]
    dsimp only
    obtain ⟨tasks, hpoll, halone⟩ := h.pollBranch g m
    rw [hpoll]
    have hfresh := hp.fresh m _ (Nat.le_refl m) (List.getElem?_eq_getElem hm)
    have hnever : (g.aimAt m).wide = true → False := fun hh => by
      rw [show (g.aimAt m).wide = g.wide from rfl, hw] at hh
      cases hh
    refine ⟨g.aimAt m, ⟨rfl, rfl, rfl, rfl, rfl, rfl⟩, rfl, rfl, .inr ⟨halone _ rfl rfl rfl, hd, rfl,
      hp.of_branches rfl rfl, Nat.le_refl m, ?_, fun hh => (hnever hh).elim, ?_, fun _ => ⟨hn, hover⟩⟩⟩
    · show (g.branch? m).isSome = true
      rw [hfresh]
      rfl
    · exact ⟨ho.hosts, ho.seated, fun j e pass clears _ => ho.waiting j e pass clears (by rintro ⟨⟩),
        fun hh => (hnever hh).elim⟩
  · rw [if_neg hm]
    dsimp only
    have hnone : ∀ i, g.branch? i = none := by
      intro i
      by_cases hi : i < m
      · exact hover i hi
      · unfold Fan.branch?
        rw [List.getElem?_eq_none (by rw [hp.length]; omega)]
        rfl
    obtain ⟨tasks, hclose, halone⟩ := h.closeFan g hnone
    rw [hclose]
    exact ⟨g, ⟨rfl, rfl, rfl, rfl, rfl, rfl⟩, rfl, rfl, .inl ⟨halone _ rfl rfl rfl, hd, rfl, hnone⟩⟩

/-- A task that lets others go first is taken up again at once, for there are no others. -/
lemma LoneFan.comesBack (h : w.LoneFan t f) (hd : w.driving = [])
    (hrewoken : w.rewoken = true) : ∃ v, RunsTo w.pause v ∧ Idles w v ∧ v.LoneFan t f ∧
      v.driving = [] ∧ v.focus = .resume ∧ v.deliveries = 0 := by
  obtain ⟨task, ht, hj, he, hc⟩ := h.own
  have hlive : ({ w with running := none, rewoken := false, focus := .idle } : World).live t = true :=
    live_iff.mpr ⟨task, ht, he⟩
  have hpause : w.pause = { w with running := none, rewoken := false, focus := .idle, queue := [t] } := by
    unfold World.pause
    rw [h.running]
    dsimp only
    rw [ht, Option.any_some, hc, if_neg Bool.false_ne_true, if_pos hrewoken]
    unfold World.enqueue
    rw [hlive, h.queue]
    rfl
  obtain ⟨subscriptions, hpoll⟩ : ∃ subscriptions, w.pause.advance = { w with
      running := some t, rewoken := false, focus := .resume, queue := [], deliveries := 0
      subscriptions } := by
    rw [hpause]
    exact poll_going ht he hc
  refine ⟨w.pause.advance, runsTo_advance (by rw [hpause]; rfl), ?_⟩
  rw [hpoll]
  exact ⟨⟨rfl, rfl, rfl, rfl, rfl, rfl⟩, h.same h.running.symm rfl h.queue.symm, hd, rfl, rfl⟩

lemma Idles.trans (h : Idles u v) (h' : Idles v w) : Idles u w :=
  ⟨h'.runtime.trans h.runtime, h'.scripts.trans h.scripts, h'.pipelines.trans h.pipelines,
    h'.subscribers.trans h.subscribers, h'.journal.trans h.journal, h'.number.trans h.number⟩

/-- What counts turns and waits changes nothing about the branches. -/
lemma PastBranch.recount (h : w.PastBranch t f host node keys m b) {g : Fan}
    (hb : g.branches = f.branches) (hw : g.wide = f.wide) (hr : g.ready = f.ready)
    (he : v.engine host = w.engine host) :
    g.Partway host node keys m ∧ g.Lists m ∧ v.QueuesInOrder t g host none := by
  refine ⟨h.partway.of_branches hb hw, fun hh => ?_, h.orderly.congr he hb hw hr⟩
  rw [hr, hb]
  exact h.lists (hw.symm.trans hh)

lemma PastBranch.step (h : w.PastBranch t f host node keys m b) :
    w.step = if !f.wide then w.pollFrom f (f.cursor + 1)
      else if b then w.pollReady f.beginTurn
      else if f.countWait.yields then
        { w.setJob (.fan f.countWait) with rewoken := true }.pause
      else w.pollReady f.countWait := by
  have hstep : w.step = w.nextBranch b := by
    unfold World.step
    rw [h.focus]
  rw [hstep]
  unfold nextBranch
  rw [h.alone.job]

/-- A fan whose branches come one after the other begins the next one. -/
lemma PastBranch.goesOn_narrow (h : w.PastBranch t f host node keys m b) (hw : f.wide = false) :
    ∃ f', Idles w w.step ∧ f'.branches = f.branches ∧ f'.wide = f.wide ∧
      (Closes w.step t f' ∨ OnBranch w.step t f' host node keys m) := by
  obtain ⟨hcount, hcursor, hover⟩ := h.narrow hw
  have hpoll : w.step = w.pollFrom f m := by
    rw [h.step, hw, ← hcursor]
    rfl
  rw [hpoll]
  exact h.alone.lone.pollsFrom h.driving hw h.partway h.orderly hcount hover

/-- After a branch that is over comes the next one that is to be polled. -/
lemma PastBranch.goesOn_over (h : w.PastBranch t f host node keys m true) (hw : f.wide = true) :
    ∃ f', Idles w w.step ∧ f'.branches = f.branches ∧ f'.wide = f.wide ∧
      (Closes w.step t f' ∨ OnBranch w.step t f' host node keys m) := by
  have hpoll : w.step = w.pollReady f.beginTurn := by
    rw [h.step, hw]
    rfl
  obtain ⟨hp, hl, ho⟩ := h.recount (g := f.beginTurn) rfl rfl rfl rfl
  obtain ⟨f', hidles, hb, hw', hgoes⟩ :=
    h.alone.lone.pollsReady h.driving (g := f.beginTurn) hw hp hl ho
  rw [← hpoll] at hidles hgoes
  exact ⟨f', hidles, hb, hw', hgoes.imp_right fun hon => hon.1⟩

/-- After a branch that had to wait comes the next one that is to be polled. -/
lemma PastBranch.goesOn_held (h : w.PastBranch t f host node keys m false) (hw : f.wide = true)
    (hy : f.countWait.yields = false) :
    ∃ f', Idles w w.step ∧ f'.branches = f.branches ∧ f'.wide = f.wide ∧
      (Closes w.step t f' ∨ OnBranch w.step t f' host node keys m ∧
        f'.ready.length < f.ready.length ∧ (w.step.sated = true → w.sated = true ∧
          f'.yielded = f.yielded + (if f.stirred then 1 else 0) ∧ f'.yielded < 2)) := by
  have hpoll : w.step = w.pollReady f.countWait := by
    rw [h.step, hw, hy]
    rfl
  obtain ⟨hp, hl, ho⟩ := h.recount (g := f.countWait) rfl rfl rfl rfl
  obtain ⟨f', hidles, hb, hw', hgoes⟩ :=
    h.alone.lone.pollsReady h.driving (g := f.countWait) hw hp hl ho
  rw [← hpoll] at hidles hgoes
  refine ⟨f', hidles, hb, hw', hgoes.imp_right fun hon => ⟨hon.1, hon.2.1, fun hs =>
    ⟨?_, hon.2.2.1, ?_⟩⟩⟩
  · unfold sated at hs ⊢
    rwa [hon.2.2.2, hidles.runtime] at hs
  · rw [hon.2.2.1]
    unfold Fan.yields at hy
    simp only [Bool.or_eq_false_iff, decide_eq_false_iff_not, Nat.not_le] at hy
    exact hy.2

/-- A task that yields comes back to the next branch with no deliveries made. -/
lemma PastBranch.goesOn_yielding (h : w.PastBranch t f host node keys m false)
    (hw : f.wide = true) (hy : f.countWait.yields = true) :
    ∃ v f', RunsTo w.step v ∧ Idles w v ∧ f'.branches = f.branches ∧ f'.wide = f.wide ∧
      (Closes v t f' ∨ OnBranch v t f' host node keys m ∧
        f'.ready.length < f.ready.length ∧ v.sated = false) := by
  obtain ⟨tasks, hset, halone⟩ := h.alone.setFan f.countWait
  have hpause : w.step = World.pause { w with tasks, rewoken := true } := by
    rw [h.step, hw, if_neg (by simp), if_neg (by simp), if_pos hy, hset]
  obtain ⟨v, hv, hidles, halone', hdriving, hfocus, hcount⟩ :=
    (halone { w with tasks, rewoken := true } rfl rfl rfl).comesBack h.driving rfl
  have hidles' : Idles w v := Idles.trans
    (v := { w with tasks, rewoken := true }) ⟨rfl, rfl, rfl, rfl, rfl, rfl⟩ hidles
  have hpoll : v.step = v.pollReady f.countWait.beginTurn := by
    unfold World.step
    rw [hfocus]
    dsimp only
    unfold resumeTask
    rw [halone'.job]
    exact if_pos hw
  obtain ⟨hp, hl, ho⟩ :=
    h.recount (g := f.countWait.beginTurn) rfl rfl rfl (hidles'.engine host)
  obtain ⟨f', hidles₂, hb, hw', hgoes⟩ :=
    halone'.lone.pollsReady hdriving (g := f.countWait.beginTurn) hw hp hl ho
  rw [← hpoll] at hidles₂ hgoes
  refine ⟨v.step, f', (hpause ▸ hv).trans (runsTo_step (by rw [hfocus]; rintro ⟨⟩)),
    hidles'.trans hidles₂, hb, hw', hgoes.imp_right fun hon => ⟨hon.1, hon.2.1, ?_⟩⟩
  have hnone : v.step.deliveries = 0 := hon.2.2.2.trans hcount
  unfold sated
  rw [hnone]
  simp [manyDeliveries]

/-- After one branch comes another one, with fewer to be polled, or the fan is at its end. -/
lemma PastBranch.goesOn (h : w.PastBranch t f host node keys m b) :
    ∃ v f', RunsTo w v ∧ Idles w v ∧ f'.branches = f.branches ∧ f'.wide = f.wide ∧
      (Closes v t f' ∨ OnBranch v t f' host node keys m ∧
        (f.wide = true → b = false → f'.ready.length < f.ready.length ∧
          (v.sated = true → w.sated = true ∧
            f'.yielded = f.yielded + (if f.stirred then 1 else 0) ∧ f'.yielded < 2))) := by
  have hrun : RunsTo w w.step := runsTo_step (by rw [h.focus]; rintro ⟨⟩)
  cases hw : f.wide with
  | false =>
    obtain ⟨f', hidles, hb, hw', hgoes⟩ := h.goesOn_narrow hw
    exact ⟨w.step, f', hrun, hidles, hb, hw'.trans hw,
      hgoes.imp_right fun hon => ⟨hon, by rintro ⟨⟩⟩⟩
  | true =>
    cases b with
    | true =>
      obtain ⟨f', hidles, hb, hw', hgoes⟩ := h.goesOn_over hw
      exact ⟨w.step, f', hrun, hidles, hb, hw'.trans hw,
        hgoes.imp_right fun hon => ⟨hon, by rintro - ⟨⟩⟩⟩
    | false =>
      cases hy : f.countWait.yields with
      | true =>
        obtain ⟨v, f', hv, hidles, hb, hw', hgoes⟩ := h.goesOn_yielding hw hy
        refine ⟨v, f', hrun.trans hv, hidles, hb, hw'.trans hw, hgoes.imp_right fun hon =>
          ⟨hon.1, fun _ _ => ⟨hon.2.1, fun hs => ?_⟩⟩⟩
        rw [hon.2.2] at hs
        cases hs
      | false =>
        obtain ⟨f', hidles, hb, hw', hgoes⟩ := h.goesOn_held hw hy
        exact ⟨w.step, f', hrun, hidles, hb, hw'.trans hw,
          hgoes.imp_right fun hon => ⟨hon.1, fun _ _ => hon.2⟩⟩

end World

end Dataflow
