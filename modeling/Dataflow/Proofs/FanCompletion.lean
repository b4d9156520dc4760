import Dataflow.Proofs.FanRounds

/-!
# What comes of a fan that is left alone

While a fan goes from branch to branch, the slots of the keys that have come are cached, each after its
node was asked for it once, and whoever is registered on one of these slots only is called once at most.
Every turn brings the fan closer to its end, so it comes there.
-/

namespace Dataflow

namespace Fan

@[simp] lemma yielded_nudge (f : Fan) (i : Nat) : (f.nudge i).yielded = f.yielded := by
  unfold nudge
  cases f.wide <;> rfl

/-- A branch that is woken while it is polled. -/
lemma stirred_nudge {f : Fan} (h : f.wide = true) : (f.nudge f.cursor).stirred = true := by
  unfold nudge
  rw [if_pos h]
  show (f.stirred || f.cursor == f.cursor) = true
  simp

end Fan

namespace World

variable {sc : Scene} {t m : Nat} {f f' : Fan} {u v w : World} {host node : String} {keys : List String}
  {r : Result}

/-- What nodes are asked for when the slots of these keys are empty. -/
def demands (u : World) (host node : String) (keys : List String) : List (String × Slot) :=
  (keys.eraseDups.filter fun k => ((u.engine host).target ⟨node, k⟩).isOk).map fun k => (host, ⟨node, k⟩)

lemma demands_succ (u : World) (host node : String) {k : String} (hk : keys[m]? = some k) :
    u.demands host node (keys.take (m + 1)) = u.demands host node (keys.take m) ++
      if k ∉ keys.take m ∧ ((u.engine host).target ⟨node, k⟩).isOk = true then [(host, ⟨node, k⟩)]
      else [] := by
  unfold demands
  rw [List.take_add_one, hk, Option.toList_some, List.eraseDups_append, List.filter_append,
    List.map_append]
  congr 1
  have hremove : ([k].removeAll (keys.take m)) = if k ∉ keys.take m then [k] else [] := by
    by_cases hin : k ∈ keys.take m <;> simp [List.removeAll, hin]
  rw [hremove]
  by_cases hin : k ∈ keys.take m
  · simp [hin]
  · cases hok : ((u.engine host).target ⟨node, k⟩).isOk <;>
      simp [hin, hok, List.eraseDups_cons]

/-- The slots of the first `m` keys are cached since `u`, and those of the other keys are empty. -/
structure Supplied (u : World) (host node : String) (keys : List String) (m : Nat) (w : World) : Prop where
  scripts : w.scripts = u.scripts
  policy : w.policy = u.policy
  nodes : (w.engine host).nodes = (u.engine host).nodes
  subscriptions : (w.engine host).subscriptions = (u.engine host).subscriptions
  flying : ∀ s, (w.engine host).flying s = (u.engine host).flying s
  others : ∀ s, (∀ k ∈ keys, s ≠ ⟨node, k⟩) → (w.engine host).cached s = (u.engine host).cached s
  cached : ∀ k ∈ keys.take m, ∃ r, (w.engine host).cached ⟨node, k⟩ = some r ∧ u.nextResult ≤ r.id
  missing : ∀ k ∈ keys, k ∉ keys.take m → (w.engine host).cached ⟨node, k⟩ = none
  asked : w.productions = u.productions ++ u.demands host node (keys.take m)
  number : u.nextResult ≤ w.nextResult

lemma supplied_zero (hc : ∀ k ∈ keys, (u.engine host).cached ⟨node, k⟩ = none) :
    Supplied u host node keys 0 u where
  scripts := rfl
  policy := rfl
  nodes := rfl
  subscriptions := rfl
  flying := fun _ => rfl
  others := fun _ _ => rfl
  cached := fun k hk => by cases hk
  missing := fun k hk _ => hc k hk
  asked := (List.append_nil _).symm
  number := Nat.le_refl _

namespace Supplied

lemma delivers (h : Supplied u host node keys m w) (hd : Delivers host w v) :
    Supplied u host node keys m v where
  scripts := hd.scripts.trans h.scripts
  policy := hd.policy.trans h.policy
  nodes := hd.nodes.trans h.nodes
  subscriptions := hd.subscriptions.trans h.subscriptions
  flying := fun s => (hd.flying s).trans (h.flying s)
  others := fun s hs => (hd.cached s).trans (h.others s hs)
  cached := fun k hk => by
    rw [hd.cached]
    exact h.cached k hk
  missing := fun k hk hn => (hd.cached _).trans (h.missing k hk hn)
  asked := hd.asked.trans h.asked
  number := hd.number.symm ▸ h.number

lemma of_take {n : Nat} (h : Supplied u host node keys m w) (ht : keys.take m = keys.take n) :
    Supplied u host node keys n w where
  scripts := h.scripts
  policy := h.policy
  nodes := h.nodes
  subscriptions := h.subscriptions
  flying := h.flying
  others := h.others
  cached := ht ▸ h.cached
  missing := ht ▸ h.missing
  asked := ht ▸ h.asked
  number := h.number

lemma target (h : Supplied u host node keys m w) (s : Slot) :
    (w.engine host).target s = (u.engine host).target s := by
  unfold Engine.target Engine.node
  rw [h.nodes]

/-- Next comes the slot of another key: it is cached already, or its node is asked for it. -/
lemma succ {k : String} (h : Supplied u host node keys m w) (hk : keys[m]? = some k)
    (hp : Produces host w v) (hf : ∀ s, (v.engine host).flying s = (w.engine host).flying s)
    (hcases : (∃ r, (w.engine host).cached ⟨node, k⟩ = some r ∧ v.productions = w.productions ∧
        ∀ s, (v.engine host).cached s = (w.engine host).cached s) ∨
      (w.engine host).cached ⟨node, k⟩ = none ∧
        (v.productions = w.productions ++
          if ((w.engine host).target ⟨node, k⟩).isOk then [(host, ⟨node, k⟩)] else []) ∧
        ∃ c, ∀ s, (v.engine host).cached s =
          if (⟨node, k⟩ : Slot) = s then some ⟨w.nextResult, c⟩ else (w.engine host).cached s) :
    Supplied u host node keys (m + 1) v := by
  have hmem : k ∈ keys := List.mem_of_getElem? hk
  have htake : keys.take (m + 1) = keys.take m ++ [k] := by rw [List.take_add_one, hk]; rfl
  have hslot : ∀ {k' : String}, (⟨node, k⟩ : Slot) = ⟨node, k'⟩ ↔ k = k' := fun {k'} =>
    ⟨fun h => by injection h, fun h => by rw [h]⟩
  have hdemands := u.demands_succ host node hk
  refine ⟨hp.scripts.trans h.scripts, hp.policy.trans h.policy, hp.nodes.trans h.nodes,
    hp.subscriptions.trans h.subscriptions, fun s => (hf s).trans (h.flying s), fun s hs => ?_,
    fun k' hk' => ?_, fun k' hk' hn => ?_, ?_, Nat.le_trans h.number hp.results⟩
  · rcases hcases with ⟨r, -, -, hcached⟩ | ⟨-, -, c, hcached⟩
    · rw [hcached]
      exact h.others s hs
    · rw [hcached, if_neg fun heq => hs k hmem heq.symm]
      exact h.others s hs
  · rcases hcases with ⟨r, hr, -, hcached⟩ | ⟨hnone, -, c, hcached⟩
    · rw [hcached]
      by_cases hin : k' ∈ keys.take m
      · exact h.cached k' hin
      · obtain rfl : k' = k := by
          rw [htake] at hk'
          simpa [hin] using hk'
        refine h.cached k' (Decidable.byContradiction fun hin => ?_)
        rw [h.missing k' hmem hin] at hr
        cases hr
    · rw [hcached]
      by_cases heq : k = k'
      · rw [if_pos (hslot.mpr heq)]
        exact ⟨_, rfl, h.number⟩
      · rw [if_neg fun hh => heq (hslot.mp hh)]
        refine h.cached k' ?_
        rw [htake] at hk'
        simpa [Ne.symm heq] using hk'
  · have hn' : k' ∉ keys.take m ∧ k' ≠ k := by
      rw [htake] at hn
      simpa using hn
    rcases hcases with ⟨r, -, -, hcached⟩ | ⟨-, -, c, hcached⟩
    · rw [hcached]
      exact h.missing k' hk' hn'.1
    · rw [hcached, if_neg fun hh => hn'.2 (hslot.mp hh).symm]
      exact h.missing k' hk' hn'.1
  · rw [hdemands, ← List.append_assoc, ← h.asked]
    rcases hcases with ⟨r, hr, hasked, -⟩ | ⟨hnone, hasked, -⟩
    · have hin : k ∈ keys.take m := Decidable.byContradiction fun hin => by
        rw [h.missing k hmem hin] at hr
        cases hr
      rw [hasked, if_neg fun hh => hh.1 hin, List.append_nil]
    · have hin : k ∉ keys.take m := fun hin => by
        obtain ⟨r, hr, -⟩ := h.cached k hin
        rw [hnone] at hr
        cases hr
      rw [hasked, h.target]
      simp only [hin, not_false_eq_true, true_and]

end Supplied

/-- Since `u` nobody else was called, and whoever is registered on one of the named slots was called once
at most, for what is cached there. -/
structure Heeded (u : World) (host node : String) (keys : List String) (w : World) (f : Fan) : Prop where
  others : ∀ c, (∀ k ∈ keys, c ∉ (u.engine host).subscribers ⟨node, k⟩) → w.callsTo c = u.callsTo c
  calls : ∀ c k, k ∈ keys → c ∈ (u.engine host).subscribers ⟨node, k⟩ →
    (∀ k' ∈ keys, c ∈ (u.engine host).subscribers ⟨node, k'⟩ → k' = k) →
    (w.callsTo c = u.callsTo c ∧ (w.engine host).lastOf c = (u.engine host).lastOf c) ∨
      w.callsTo c = u.callsTo c + 1 ∧
        ∃ r, (w.engine host).cached ⟨node, k⟩ = some r ∧ (w.engine host).lastOf c = some r ∧
          ∀ last, (u.engine host).lastOf c = some last → (u.policy host).same last r = false
  told : ∀ c k i, keys[i]? = some k → c ∈ (u.engine host).subscribers ⟨node, k⟩ →
    (∀ k' ∈ keys, c ∈ (u.engine host).subscribers ⟨node, k'⟩ → k' = k) → f.branch? i = none →
    ∃ r last, (w.engine host).cached ⟨node, k⟩ = some r ∧ (w.engine host).lastOf c = some last ∧
      (u.policy host).same last r = true

lemma heeded_of_fresh (h : f.Partway host node keys 0) : Heeded u host node keys u f := by
  refine ⟨fun _ _ => rfl, fun _ _ _ _ _ => .inl ⟨rfl, rfl⟩, fun c k i hi _ _ hnone => ?_⟩
  rw [h.fresh i k (Nat.zero_le i) hi] at hnone
  cases hnone

namespace Heeded

/-- Nobody is called, and nothing that is cached is dropped. -/
lemma keep (h : Heeded u host node keys w f) (hcalls : ∀ c, v.callsTo c = w.callsTo c)
    (hd : (v.engine host).delivered = (w.engine host).delivered)
    (hc : ∀ k r, (w.engine host).cached ⟨node, k⟩ = some r → (v.engine host).cached ⟨node, k⟩ = some r)
    (hb : ∀ i, i < keys.length → f'.branch? i = none → f.branch? i = none) :
    Heeded u host node keys v f' := by
  have hlast : ∀ c, (v.engine host).lastOf c = (w.engine host).lastOf c := fun c => by
    unfold Engine.lastOf
    rw [hd]
  refine ⟨fun c hn => (hcalls c).trans (h.others c hn), fun c k hk hreg honly => ?_,
    fun c k i hi hreg honly hnone => ?_⟩
  · rw [hcalls, hlast]
    refine (h.calls c k hk hreg honly).imp_right ?_
    rintro ⟨hone, r, hr, hl, hnew⟩
    exact ⟨hone, r, hc k r hr, hl, hnew⟩
  · obtain ⟨r, last, hr, hl, hsame⟩ :=
      h.told c k i hi hreg honly (hb i (List.getElem?_eq_some_iff.mp hi).1 hnone)
    exact ⟨r, last, hc k r hr, (hlast c).trans hl, hsame⟩

/-- A branch has delivered. -/
lemma getsThrough (h : Heeded u host node keys w f) {k : String} (hs : Supplied u host node keys m w)
    (hn : (w.engine host).Noted) (hk : keys[f.cursor]? = some k)
    (hr : (w.engine host).cached ⟨node, k⟩ = some r) (hg : GetsThrough host ⟨node, k⟩ r f w v f')
    (hd : Delivers host w v) : Heeded u host node keys v f' := by
  have hsubs : ∀ s, (w.engine host).subscribers s = (u.engine host).subscribers s := fun s => by
    unfold Engine.subscribers
    rw [hs.subscriptions]
  have hpolicy : w.policy host = u.policy host := congrFun hs.policy host
  have hmem : k ∈ keys := List.mem_of_getElem? hk
  generalize hpicked : ((w.engine host).select (w.policy host) ⟨node, k⟩ r).1 = picked
  have hcalls : ∀ c, v.callsTo c = w.callsTo c + if c ∈ picked then 1 else 0 := fun c => by
    have hnodup : picked.Nodup := hpicked ▸ Engine.nodup_select _ _ _ _
    rw [hg.calls, hpicked, hnodup.count]
  have hlast : ∀ c, (v.engine host).lastOf c =
      if c ∈ picked then some r else (w.engine host).lastOf c := fun c => by
    rw [← hpicked, ← hn.lastOf_select]
    unfold Engine.lastOf
    rw [hg.delivered]
  have hpick : ∀ c, c ∈ picked ↔ c ∈ (u.engine host).subscribers ⟨node, k⟩ ∧
      ∀ last, (w.engine host).lastOf c = some last → (u.policy host).same last r = false := fun c => by
    rw [← hpicked, hn.mem_select, hsubs, hpolicy]
  refine ⟨fun c hnone => ?_, fun c j hj hreg honly => ?_, fun c j i hi hreg honly hnone => ?_⟩
  · rw [hcalls, if_neg fun hin => hnone k hmem ((hpick c).mp hin).1]
    exact h.others c hnone
  · rw [hcalls, hlast, hd.cached]
    by_cases hin : c ∈ picked
    · -- It was not called before, for then it would have had the result already.
      obtain ⟨hsub, hnew⟩ := (hpick c).mp hin
      obtain rfl : k = j := honly k hmem hsub
      rw [if_pos hin, if_pos hin]
      rcases h.calls c k hj hreg honly with ⟨hnot, hsame⟩ | ⟨-, r', hr', hl, -⟩
      · exact .inr ⟨by rw [hnot], r, hr, rfl, hsame ▸ hnew⟩
      · rw [hr] at hr'
        cases hr'
        have hsame := hnew r hl
        rw [Policy.same_self] at hsame
        cases hsame
    · rw [if_neg hin, if_neg hin]
      exact h.calls c j hj hreg honly
  · rw [hlast, hd.cached]
    by_cases hin : c ∈ picked
    · obtain rfl : k = j := honly k hmem ((hpick c).mp hin).1
      rw [if_pos hin]
      exact ⟨r, r, hr, rfl, Policy.same_self _ r⟩
    · rw [if_neg hin]
      by_cases hi' : i = f.cursor
      · -- It was passed over, for it had the result or the same.
        subst hi'
        obtain rfl : k = j := Option.some.inj (hk.symm.trans hi)
        have hhas : ¬∀ last, (w.engine host).lastOf c = some last →
            (u.policy host).same last r = false := fun hall => hin ((hpick c).mpr ⟨hreg, hall⟩)
        simp only [not_forall, Bool.not_eq_false] at hhas
        obtain ⟨last, hl, hsame⟩ := hhas
        exact ⟨r, last, hr, hl, hsame⟩
      · exact h.told c j i hi hreg honly ((hg.refits.branch? hi').symm.trans hnone)

end Heeded

/-- A branch that was not polled before has come to its gate. -/
lemma QueuesInOrder.arrives {e : Emission} (h : w.QueuesInOrder t f host (some f.cursor))
    (hc : f.current? = some e) (hp : e.progress.pass? = none) {e' : Emission}
    (hfit : f.Refits (some e') f') (hh : e'.host = host)
    (hline : ∀ s, (v.engine host).lineAt s = (w.engine host).lineAt s) :
    v.QueuesInOrder t f' host (some f'.cursor) := by
  have hcurrent := hfit.current? (by rw [hc]; rfl)
  unfold Fan.current? at hc hcurrent
  rw [hfit.cursor] at hcurrent
  have hseat : ∀ i, f'.seat t i = f.seat t i := fun i => Fan.seat_congr hfit.wide
  refine ⟨fun i x hi => ?_, fun s p hp' => ?_, fun i x pass clears hne hi hready => ?_,
    fun hwide s p rest hp' => ?_⟩
  · by_cases hcursor : i = f.cursor
    · subst hcursor
      rw [hcurrent] at hi
      cases hi
      exact hh
    · exact h.hosts i x ((hfit.branch? hcursor).symm.trans hi)
  · rw [hline] at hp'
    obtain ⟨i, x, pass, hi, hs, hpass, rfl⟩ := h.seated s p hp'
    have hne : i ≠ f.cursor := by
      rintro rfl
      rw [hc] at hi
      cases hi
      rw [hp] at hpass
      cases hpass
    exact ⟨i, x, pass, (hfit.branch? hne).trans hi, hs, hpass, by rw [hseat]⟩
  · rw [hfit.cursor] at hne
    have hne' : i ≠ f.cursor := fun heq => hne (by rw [heq])
    rw [hseat, hline]
    exact h.waiting i x pass clears hne ((hfit.branch? hne').symm.trans hi) hready
  · rw [hline] at hp'
    obtain ⟨i, hi, hm⟩ := h.next (hfit.wide.symm.trans hwide) s p rest hp'
    rw [hfit.cursor]
    exact ⟨i, by rw [hseat, hi], hm.imp_left hfit.mem_ready⟩

/-- A narrow fan polls one branch after the other. -/
lemma OnBranch.cursor_of_narrow (h : w.OnBranch t f host node keys m) (hn : f.wide = false) :
    f.cursor = m := by
  rcases Nat.lt_or_eq_of_le h.cursor with hlt | heq
  · have hcurrent := h.current
    unfold Fan.current? at hcurrent
    rw [(h.narrow hn).2 _ hlt] at hcurrent
    cases hcurrent
  · exact heq

/-- A branch of a narrow fan never has to wait: no other one is under way, and the task has made few
deliveries. -/
lemma OnBranch.not_heldUp (h : w.OnBranch t f host node keys m) (hn : f.wide = false) {v v' : World}
    {f₁ f₂ : Fan} {b : Option Emission} (hfit : f.Refits b f₁) (hd : v.deliveries = w.deliveries) :
    ¬HeldUp host f₁ v v' f₂ := by
  intro hheld
  obtain ⟨hcount, hover⟩ := h.narrow hn
  have hcursor := h.cursor_of_narrow hn
  rcases hheld.why with ⟨-, i, e, pass, hne, hi, hpass⟩ | ⟨-, hsated⟩
  · rw [hfit.cursor] at hne
    rw [hfit.branch? hne] at hi
    have hlt : m < i := by
      rcases Nat.lt_trichotomy i m with hlt | heq | hgt
      · rw [hover i hlt] at hi
        cases hi
      · exact absurd (heq.trans hcursor.symm) hne
      · exact hgt
    obtain ⟨k, hk, -⟩ := h.partway.slot hi
    rw [h.partway.fresh i k (Nat.le_of_lt hlt) hk] at hi
    cases hi
    cases hpass
  · have hfew : m < Fan.wideFrom := by
      have hwide := h.partway.wide
      rw [hn] at hwide
      have hkeys : ¬Fan.wideFrom ≤ keys.length := of_decide_eq_false hwide.symm
      have hlt : f.cursor < f.branches.length := by
        obtain ⟨e, he⟩ := Option.isSome_iff_exists.mp h.current
        exact Fan.branch?_lt he
      rw [h.partway.length] at hlt
      omega
    unfold sated at hsated
    rw [hd] at hsated
    simp only [Bool.and_eq_true, decide_eq_true_eq] at hsated
    have hmany := hsated.2
    unfold manyDeliveries at hmany
    unfold Fan.wideFrom at hfew
    omega

section

variable (h : w.OnBranch t f host node keys m) (hcalm : w.NeverPanics)
  (hprompt : ∀ n, (w.engine host).nodes.get? node = some n → ∀ o, (n.produce o).Prompt)
  (hs : Supplied u host node keys m w)
  (hfl : ∀ k ∈ keys, (u.engine host).flying ⟨node, k⟩ = none)
  (hh : Heeded u host node keys w f)

include h hcalm hprompt hs hfl hh

/-- The branch comes to its gate, unless it waits there already, and its slot is cached then. -/
lemma OnBranch.arrives : ∃ v f' k pass clears, RunsTo w v ∧ v.LoneFan t f' ∧ v.driving = [] ∧
    v.focus = .emission ∧ keys[f.cursor]? = some k ∧
    f.Refits (some ⟨host, ⟨node, k⟩, .ready pass clears⟩) f' ∧
    v.QueuesInOrder t f' host (some f'.cursor) ∧ Supplied u host node keys (max m (f.cursor + 1)) v ∧
    Heeded u host node keys v f' ∧ v.deliveries = w.deliveries ∧
    (f.cursor = m ∨ f.cursor < m ∧ f' = f ∧ v = w) := by
  rcases Nat.lt_or_eq_of_le h.cursor with hlt | heq
  · obtain ⟨e, he⟩ := Option.isSome_iff_exists.mp h.current
    obtain ⟨k, pass, clears, hk, rfl⟩ := h.partway.came _ e hlt he
    refine ⟨w, f, k, pass, clears, .refl w, h.alone, h.driving, h.focus, hk, Fan.refits_self he, h.orderly,
      ?_, hh, rfl, .inr ⟨hlt, rfl, rfl⟩⟩
    rwa [Nat.max_eq_left hlt]
  · obtain ⟨e, he⟩ := Option.isSome_iff_exists.mp h.current
    obtain ⟨k, hk, -⟩ := h.partway.slot he
    have hmem := List.mem_of_getElem? hk
    have hfresh : f.current? = some { host, slot := ⟨node, k⟩ } :=
      h.partway.fresh f.cursor k (Nat.le_of_eq heq.symm) hk
    obtain ⟨v, f', pass, clears, hv, hproduces, halone, hfit, hfocus, hdriving, hflying, hcases⟩ :=
      h.alone.runsTo_ready h.driving h.focus hfresh rfl ((hs.flying _).trans (hfl k hmem)) hcalm
        fun n hn => hprompt n hn k
    have hsup := hs.succ (heq ▸ hk) hproduces hflying hcases
    refine ⟨v, f', k, pass, clears, hv, halone, hdriving, hfocus, hk, hfit,
      h.orderly.arrives hfresh rfl hfit rfl hproduces.line, ?_, ?_, hproduces.deliveries, .inl heq⟩
    · rwa [heq, Nat.max_eq_right (Nat.le_succ m)]
    · refine hh.keep hproduces.calls hproduces.delivered (fun j r hr => ?_) fun i hi hnone => ?_
      · rcases hcases with ⟨-, -, -, hcached⟩ | ⟨hnone, -, c, hcached⟩
        · rw [hcached, hr]
        · rw [hcached, if_neg, hr]
          intro heq'
          rw [← heq', hnone] at hr
          cases hr
      · have hne : i ≠ f.cursor := by
          rintro rfl
          have hcurrent := hfit.current? (by rw [hfresh]; rfl)
          unfold Fan.current? at hcurrent
          rw [hfit.cursor, hnone] at hcurrent
          cases hcurrent
        exact (hfit.branch? hne).symm.trans hnone

end

/-- The branch delivers and is over, or it has to wait: one that waits already is not woken, unless it is
first in line and others go first. -/
lemma OnBranch.turn (h : w.OnBranch t f host node keys m) (hr : Reachable sc.opening w)
    (hcalm : w.NeverPanics) (ht : w.Told Action.Detached)
    (hprompt : ∀ n, (w.engine host).nodes.get? node = some n → ∀ o, (n.produce o).Prompt)
    (hs : Supplied u host node keys m w)
    (hfl : ∀ k ∈ keys, (u.engine host).flying ⟨node, k⟩ = none) (hh : Heeded u host node keys w f) :
    ∃ v f' b, RunsTo w v ∧ v.PastBranch t f' host node keys (max m (f.cursor + 1)) b ∧
      Supplied u host node keys (max m (f.cursor + 1)) v ∧ Heeded u host node keys v f' ∧
      (f'.load + 1 = f.load ∨ f'.load = f.load ∧ b = false ∧ f'.wide = true ∧
        (f.cursor = m ∨ f.cursor < m ∧ v.sated = w.sated ∧
          (f' = f ∨ f' = f.nudge f.cursor ∧ w.sated = true))) := by
  obtain ⟨v, f₁, k, pass, clears, hv, halone, hdriving, hfocus, hk, hfit, ho, hsup, hheed, hcount,
    hwhich⟩ :=
    h.arrives hcalm hprompt hs hfl hh
  have hc := hfit.current? h.current
  have hr' := hv.reachable hr
  obtain ⟨r, hres, -⟩ := hsup.cached k (List.mem_take_iff_getElem.mpr
    ⟨f.cursor, by
      have hlt := (List.getElem?_eq_some_iff.mp hk).1
      omega, (List.getElem?_eq_some_iff.mp hk).2⟩)
  have ht' : v.Told Action.Detached := by
    unfold Told
    rw [hsup.scripts, ← hs.scripts]
    exact ht
  obtain ⟨v₂, f₂, hv₂, hdelivers, halone₂, hdriving₂, ho₂, hends⟩ :=
    halone.comesThrough hr' hdriving hfocus hc ho hres ht' (hcalm.runsTo hv)
  have hsup₂ := hsup.delivers hdelivers
  have hloads := Fan.load_of_refits h.current hfit
  have hm : max m (f.cursor + 1) = m ∨ f.cursor = m := by
    have hle := h.cursor
    omega
  rcases hends with hthrough | hheld
  · have hfit₂ := hfit.trans hthrough.refits
    refine ⟨v₂, f₂, true, hv.trans hv₂, ⟨halone₂, hdriving₂, hthrough.focus, ?_, ?_, ho₂, fun hn => ?_⟩,
      hsup₂, ?_, .inl ?_⟩
    · exact h.partway.refits h.cursor hk hfit₂ fun e he => by cases he
    · exact h.lists.refits hfit₂
    · have hwide := hfit₂.wide.symm.trans hn
      obtain ⟨hle, hover⟩ := h.narrow hwide
      have hcursor := h.cursor_of_narrow hwide
      rw [hcursor, Nat.max_eq_right (Nat.le_succ m), hthrough.deliveries, hcount, hfit₂.cursor, hcursor]
      refine ⟨Nat.succ_le_succ hle, rfl, fun i hi => ?_⟩
      by_cases hi' : i = f.cursor
      · rw [hi', hfit₂.branch?_cursor]
      · exact (hfit₂.branch? hi').trans (hover i (by omega))
    · exact hheed.getsThrough hsup (fun s c hm => (Scene.sane_of_reachable hr').sound.tallied.pos hm)
        (by rw [hfit.cursor, hk]) hres hthrough hdelivers
    · rw [(Fan.load_of_refits h.current hfit₂).1]
      exact Nat.sub_add_cancel hloads.2
  · have hwide : f.wide = true := by
      cases hn : f.wide with
      | true => rfl
      | false => exact absurd hheld (h.not_heldUp hn hfit hcount)
    have hpart := h.partway.refits h.cursor hk hfit fun e he => ⟨pass, clears, (Option.some.inj he).symm⟩
    have hlists := h.lists.refits hfit
    have hsame : f₂.branches = f₁.branches ∧ f₂.wide = f₁.wide ∧ f₂.Lists (max m (f.cursor + 1)) := by
      rcases hheld.why with ⟨rfl, -⟩ | ⟨rfl, -⟩
      · exact ⟨rfl, rfl, hlists⟩
      · exact ⟨Fan.branches_nudge _ _, Fan.wide_nudge _ _, hlists.nudge _⟩
    obtain ⟨hbranches, hwide₂, hlists₂⟩ := hsame
    have hwide' : f₂.wide = true := hwide₂.trans (hfit.wide.trans hwide)
    refine ⟨v₂, f₂, false, hv.trans hv₂, ⟨halone₂, hdriving₂, hheld.focus,
      hpart.of_branches hbranches hwide₂, hlists₂, ho₂, fun hn => ?_⟩, hsup₂, ?_,
        .inr ⟨?_, rfl, hwide', ?_⟩⟩
    · rw [hwide'] at hn
      cases hn
    · refine hheed.keep hheld.calls hheld.delivered (fun j r hr => ?_) fun i hi hnone => ?_
      · rw [hdelivers.cached, hr]
      · unfold Fan.branch? at hnone ⊢
        rwa [hbranches] at hnone
    · unfold Fan.load at hloads ⊢
      rw [hbranches, hloads.1]
      exact Nat.sub_add_cancel hloads.2
    · refine hwhich.imp_right ?_
      rintro ⟨hlt, rfl, rfl⟩
      refine ⟨hlt, ?_, hheld.why.imp And.left id⟩
      unfold sated
      rw [hdelivers.runtime, hheld.deliveries]

/-- How far the fan is from its end: first the branches that were not polled yet or are not over, then how
often branches may still be woken in vain, then the branches to be polled. -/
def distance (w : World) (f : Fan) (keys : List String) (m : Nat) : Nat × Nat × Nat :=
  (keys.length - m + f.load, (if w.sated then 3 - min 2 f.yielded else 0), f.ready.length)

/-- Closer to the end. -/
def Closer (a b : Nat × Nat × Nat) : Prop :=
  Prod.Lex (· < ·) (Prod.Lex (· < ·) (· < ·)) a b

lemma closer_wf : WellFounded Closer :=
  WellFounded.prod_lex Nat.lt_wfRel.wf (WellFounded.prod_lex Nat.lt_wfRel.wf Nat.lt_wfRel.wf)

lemma closer_of {a b c a' b' c' : Nat} (h : a' < a ∨ a' = a ∧ (b' < b ∨ b' ≤ b ∧ c' < c)) :
    Closer (a', b', c') (a, b, c) := by
  rcases h with hlt | ⟨rfl, hlt | ⟨hle, hlt⟩⟩
  · exact .left _ _ hlt
  · exact .right _ (.left _ _ hlt)
  · rcases Nat.lt_or_eq_of_le hle with hb | rfl
    · exact .right _ (.left _ _ hb)
    · exact .right _ (.right _ hlt)

lemma Heeded.idles (h : Heeded u host node keys w f) (hi : Idles w v)
    (hb : f'.branches = f.branches) : Heeded u host node keys v f' := by
  refine h.keep hi.callsTo (by rw [hi.engine]) (fun k r hr => by rw [hi.engine, hr]) fun i _ hnone => ?_
  unfold Fan.branch? at hnone ⊢
  rwa [hb] at hnone

/-- A fan that is left alone comes to its end. -/
lemma OnBranch.completes (h : w.OnBranch t f host node keys m) (hr : Reachable sc.opening w)
    (hcalm : w.NeverPanics) (ht : w.Told Action.Detached)
    (hprompt : ∀ n, (w.engine host).nodes.get? node = some n → ∀ o, (n.produce o).Prompt)
    (hs : Supplied u host node keys m w)
    (hfl : ∀ k ∈ keys, (u.engine host).flying ⟨node, k⟩ = none) (hh : Heeded u host node keys w f) :
    ∃ v f', RunsTo w v ∧ Closes v t f' ∧ Supplied u host node keys keys.length v ∧
      Heeded u host node keys v f' := by
  generalize hd : w.distance f keys m = d
  induction d using closer_wf.induction generalizing w f m with
  | _ d ih =>
    subst hd
    obtain ⟨v₁, f₁, b, hv₁, hpast, hs₁, hh₁, hload⟩ := h.turn hr hcalm ht hprompt hs hfl hh
    obtain ⟨v, f₂, hv₂, hidles, hbranches, hwide, hgoes⟩ := hpast.goesOn
    have hrun := hv₁.trans hv₂
    have hs₂ := hs₁.delivers (hidles.delivers host)
    have hh₂ := hh₁.idles hidles hbranches
    rcases hgoes with hcloses | ⟨hon, hfewer⟩
    · refine ⟨v, f₂, hrun, hcloses, ?_, hh₂⟩
      have hall : keys.length ≤ max m (f.cursor + 1) := by
        refine Nat.le_of_not_lt fun hlt => ?_
        have hfresh := hpast.partway.fresh _ _ (Nat.le_refl _) (List.getElem?_eq_getElem hlt)
        have hnone := hcloses.done (max m (f.cursor + 1))
        unfold Fan.branch? at hfresh hnone
        rw [hbranches, hfresh] at hnone
        cases hnone
      refine hs₂.of_take ?_
      rw [List.take_of_length_le hall, List.take_length]
    · have hload₂ : f₂.load = f₁.load := by
        unfold Fan.load
        rw [hbranches]
      have hcloser : Closer (v.distance f₂ keys (max m (f.cursor + 1))) (w.distance f keys m) := by
        refine closer_of ?_
        rcases hload with hless | ⟨hsame, rfl, hwide₁, hwhich⟩
        · exact .inl (by omega)
        · obtain ⟨hready, hsated⟩ := hfewer hwide₁ rfl
          have hlt : f.cursor < keys.length := by
            obtain ⟨e, he⟩ := Option.isSome_iff_exists.mp h.current
            rw [← h.partway.length]
            exact Fan.branch?_lt he
          rcases hwhich with hnew | ⟨hold, hsame', hwoken⟩
          · exact .inl (by omega)
          · refine .inr ⟨by rw [Nat.max_eq_left hold, hload₂, hsame], ?_⟩
            rcases hwoken with rfl | ⟨rfl, hmany⟩
            · refine .inr ⟨?_, hready⟩
              by_cases hs' : v.sated = true
              · obtain ⟨hw, hyielded, -⟩ := hsated hs'
                rw [if_pos hs', if_pos (hsame'.symm.trans hw)]
                omega
              · rw [if_neg hs']
                exact Nat.zero_le _
            · refine .inl ?_
              rw [if_pos hmany]
              by_cases hs' : v.sated = true
              · rw [if_pos hs']
                obtain ⟨-, hyielded, hfew⟩ := hsated hs'
                rw [Fan.stirred_nudge ((Fan.wide_nudge f _).symm.trans hwide₁), if_pos rfl,
                  Fan.yielded_nudge] at hyielded
                omega
              · rw [if_neg hs']
                omega
      have hstill : v.scripts = w.scripts ∧ (v.engine host).nodes = (w.engine host).nodes :=
        ⟨hs₂.scripts.trans hs.scripts.symm, hs₂.nodes.trans hs.nodes.symm⟩
      obtain ⟨v', f', hv', hends⟩ := ih _ hcloser hon (hrun.reachable hr) (hcalm.runsTo hrun)
        (by unfold Told; rw [hstill.1]; exact ht) (by rw [hstill.2]; exact hprompt) hs₂ hh₂ rfl
      exact ⟨v', f', hrun.trans hv', hends⟩

end World

end Dataflow
