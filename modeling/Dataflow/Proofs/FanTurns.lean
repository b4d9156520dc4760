import Dataflow.Proofs.LoneDeliveries

/-!
# Turns of a fan that is left alone

The branches of a fan that wait stand in line at the gates of their slots, and the first in every line is
to be polled. A branch that has come to its gate delivers and is over, or keeps its place in line.
-/

namespace Dataflow

namespace Fan

variable {f f' : Fan} {b : Option Emission} {t i j : Nat}

lemma seat_inj (hw : f.wide = true) (h : f.seat t i = f.seat t j) : i = j := by
  unfold seat at h
  rw [if_pos hw, if_pos hw] at h
  injection h

lemma seat_congr (h : f'.wide = f.wide) : f'.seat t i = f.seat t i := by
  unfold seat
  rw [h]

lemma Refits.branch? (h : f.Refits b f') (hi : i ≠ f.cursor) : f'.branch? i = f.branch? i := by
  unfold Fan.branch?
  rw [h.branches, List.getElem?_set_ne hi.symm]

/-- The branch is over. -/
lemma Refits.branch?_cursor (h : f.Refits none f') : f'.branch? f.cursor = none := by
  unfold Fan.branch?
  rw [h.branches, List.getElem?_set, if_pos rfl]
  by_cases hlt : f.cursor < f.branches.length
  · rw [if_pos hlt]
    rfl
  · rw [if_neg hlt]
    rfl

lemma Refits.mem_ready (h : f.Refits b f') (hi : i ∈ f.ready) : i ∈ f'.ready := by
  obtain ⟨more, hmore⟩ := h.ready
  rw [hmore]
  exact List.mem_append_left _ hi

end Fan

namespace World

variable {sc : Scene} {t : Nat} {f f' : Fan} {u v w : World} {e : Emission} {host : String} {pass : Pass}
  {slot : Slot} {r : Result} {clears : Nat}

/-- Nobody stands in line twice. -/
lemma LoneFan.sole (h : w.LoneFan t f) (hr : Reachable sc.opening w) {i j : Nat} {a b : Emission}
    {p q : Pass} (ha : f.branch? i = some a) (hb : f.branch? j = some b)
    (hp : a.progress.pass? = some p) (hq : b.progress.pass? = some q) (hh : a.host = b.host)
    (hn : p.number = q.number) : i = j := by
  have hx : w.stake? t i = some ⟨a.host, a.slot, p, !a.progress.phase.isOpen⟩ := by
    rw [h.stake?, ha, Option.bind_some, Emission.stake?, hp, Option.map_some]
  have hy : w.stake? t j = some ⟨b.host, b.slot, q, !b.progress.phase.isOpen⟩ := by
    rw [h.stake?, hb, Option.bind_some, Emission.stake?, hq, Option.map_some]
  exact ((Scene.kept_of_reachable hr).sole t i _ t j _ hx hy hh hn).2

/-- Those that stand in line are branches under way, the branches that wait stand in line, and the first
in every line is to be polled, unless it is the one that is being polled. -/
structure QueuesInOrder (w : World) (t : Nat) (f : Fan) (host : String) (polled : Option Nat) : Prop where
  hosts : ∀ i e, f.branch? i = some e → e.host = host
  seated : ∀ s p, p ∈ (w.engine host).lineAt s → ∃ i e pass, f.branch? i = some e ∧ e.slot = s ∧
    e.progress.pass? = some pass ∧ p = (pass.number, f.seat t i)
  waiting : ∀ i e pass clears, polled ≠ some i → f.branch? i = some e →
    e.progress = .ready pass clears → (pass.number, f.seat t i) ∈ (w.engine host).lineAt e.slot
  next : f.wide = true → ∀ s p rest, (w.engine host).lineAt s = p :: rest →
    ∃ i, p.2 = f.seat t i ∧ (i ∈ f.ready ∨ polled = some i)

namespace QueuesInOrder

lemma of_mem_lineWith {p : Nat × Waiter} {who : Waiter} (h : p ∈ w.lineWith e pass who) :
    p ∈ (w.engine e.host).lineAt e.slot ∨ p = (pass.number, who) := by
  rcases w.lineWith_cases e pass who with heq | ⟨-, heq⟩ <;> rw [heq] at h
  · simpa using h
  · exact .inl h

/-- Whoever was the first in line stays so. -/
lemma of_lineWith_eq_cons {p : Nat × Waiter} {rest : List (Nat × Waiter)} {who : Waiter}
    (h : w.lineWith e pass who = p :: rest) :
    (∃ rest, (w.engine e.host).lineAt e.slot = p :: rest) ∨ p = (pass.number, who) := by
  rcases w.lineWith_cases e pass who with heq | ⟨-, heq⟩ <;> rw [heq] at h
  · cases hl : (w.engine e.host).lineAt e.slot with
    | nil =>
      rw [hl] at h
      exact .inr (List.cons.inj h).1.symm
    | cons q more =>
      rw [hl] at h
      obtain rfl := (List.cons.inj h).1
      exact .inl ⟨more, rfl⟩
  · exact .inl ⟨rest, h⟩

lemma mem_lineWith {p : Nat × Waiter} {who : Waiter} (h : p ∈ (w.engine e.host).lineAt e.slot) :
    p ∈ w.lineWith e pass who := by
  rcases w.lineWith_cases e pass who with heq | ⟨-, heq⟩ <;> rw [heq]
  · exact List.mem_append_left _ h
  · exact h

lemma filter_lineWith (who : Waiter) : (w.lineWith e pass who).filter (·.1 != pass.number) =
    ((w.engine e.host).lineAt e.slot).filter (·.1 != pass.number) := by
  rcases w.lineWith_cases e pass who with heq | ⟨-, heq⟩ <;> rw [heq]
  rw [List.filter_append]
  simp

section

variable (ho : w.QueuesInOrder t f host (some f.cursor))
  (hc : f.current? = some ⟨host, slot, .ready pass clears⟩)

include ho hc

/-- The others in line are other branches. -/
lemma other {s : Slot} {p : Nat × Waiter} (hp : p ∈ (w.engine host).lineAt s)
    (hn : s = slot → p.1 ≠ pass.number) : ∃ i e pass', i ≠ f.cursor ∧ f.branch? i = some e ∧
      e.slot = s ∧ e.progress.pass? = some pass' ∧ p = (pass'.number, f.seat t i) := by
  obtain ⟨i, e, pass', hi, hs, hpass, rfl⟩ := ho.seated s p hp
  refine ⟨i, e, pass', ?_, hi, hs, hpass, rfl⟩
  rintro rfl
  obtain rfl : e = ⟨host, slot, .ready pass clears⟩ := Option.some.inj (hi.symm.trans hc)
  cases hpass
  exact hn hs.symm rfl

/-- The branch that has come to its gate stands in line there. -/
lemma own (h : w.LoneFan t f) (hr : Reachable sc.opening w) :
    (pass.number, f.seat t f.cursor) ∈
      w.lineWith ⟨host, slot, .ready pass clears⟩ pass (f.seat t f.cursor) := by
  rcases w.lineWith_cases ⟨host, slot, .ready pass clears⟩ pass (f.seat t f.cursor) with
    heq | ⟨⟨p, hp, hn⟩, heq⟩ <;> rw [heq]
  · exact List.mem_append_right _ (List.mem_singleton_self _)
  · obtain ⟨i, e, pass', hi, -, hpass, rfl⟩ := ho.seated slot p hp
    obtain rfl : i = f.cursor := h.sole hr hi hc hpass rfl (ho.hosts i e hi) hn
    dsimp only at hn
    rw [← hn]
    exact hp

/-- The branch waits from now on. -/
lemma lineUp (h : w.LoneFan t f) (hr : Reachable sc.opening w) (hb : f'.branches = f.branches)
    (hw : f'.wide = f.wide) (hm : ∀ i ∈ f.ready, i ∈ f'.ready)
    (hline : ∀ s, (v.engine host).lineAt s = if slot = s then
      w.lineWith ⟨host, slot, .ready pass clears⟩ pass (f.seat t f.cursor)
        else (w.engine host).lineAt s)
    (hfirst : f.wide = true → f.cursor ∈ f'.ready ∨ ∃ p rest, p.1 ≠ pass.number ∧
      w.lineWith ⟨host, slot, .ready pass clears⟩ pass (f.seat t f.cursor) = p :: rest) :
    v.QueuesInOrder t f' host none := by
  have hbranch : ∀ i, f'.branch? i = f.branch? i := fun i => by
    unfold Fan.branch?
    rw [hb]
  have hseat : ∀ i, f'.seat t i = f.seat t i := fun i => Fan.seat_congr hw
  refine ⟨fun i e hi => ho.hosts i e ((hbranch i).symm.trans hi), fun s p hp => ?_,
    fun i e pass' clears' _ hi hready => ?_, fun hwide s p rest hp => ?_⟩
  · simp only [hbranch, hseat]
    rw [hline] at hp
    by_cases hs : slot = s
    · rw [if_pos hs] at hp
      rcases of_mem_lineWith hp with hp | rfl
      · exact hs ▸ ho.seated slot p hp
      · exact ⟨f.cursor, _, pass, hc, hs, rfl, rfl⟩
    · rw [if_neg hs] at hp
      exact ho.seated s p hp
  · rw [hbranch] at hi
    rw [hseat, hline]
    by_cases hcursor : i = f.cursor
    · subst hcursor
      obtain rfl : e = ⟨host, slot, .ready pass clears⟩ := Option.some.inj (hi.symm.trans hc)
      cases hready
      rw [if_pos rfl]
      exact ho.own hc h hr
    · have hin := ho.waiting i e pass' clears'
        (fun heq => hcursor (Option.some.inj heq).symm) hi hready
      by_cases hs : slot = e.slot
      · rw [if_pos hs]
        exact mem_lineWith (e := ⟨host, slot, .ready pass clears⟩) (hs ▸ hin)
      · rw [if_neg hs]
        exact hin
  · rw [hw] at hwide
    simp only [hseat]
    -- Whoever is the first of others in line was the first before.
    have hold : ∀ p rest, (w.engine host).lineAt s = p :: rest → (s = slot → p.1 ≠ pass.number) →
        ∃ i, p.2 = f.seat t i ∧ (i ∈ f'.ready ∨ none = some i) := by
      intro p rest hp hn
      obtain ⟨i, hi, hready⟩ := ho.next hwide s p rest hp
      refine ⟨i, hi, .inl (hready.elim (hm i) fun hcursor => ?_)⟩
      obtain ⟨j, e, pass', hne, -, -, -, rfl⟩ :=
        ho.other hc (hp ▸ List.mem_cons_self : p ∈ (w.engine host).lineAt s) hn
      exact absurd ((Fan.seat_inj hwide hi).trans (Option.some.inj hcursor).symm) hne
    rw [hline] at hp
    by_cases hs : slot = s
    · rw [if_pos hs] at hp
      have hold' := of_lineWith_eq_cons hp
      dsimp only at hold'
      rcases hfirst hwide with hcursor | ⟨q, rest', hq, hhead⟩
      · rcases hold' with ⟨more, hin⟩ | rfl
        · obtain ⟨i, hi, hready⟩ := ho.next hwide slot p more hin
          refine ⟨i, hi, .inl (hready.elim (hm i) fun heq => ?_)⟩
          exact Option.some.inj heq ▸ hcursor
        · exact ⟨f.cursor, rfl, .inl hcursor⟩
      · rw [hhead] at hp
        obtain rfl := (List.cons.inj hp).1
        rcases hold' with ⟨more, hin⟩ | rfl
        · exact hold q more (hs ▸ hin) fun _ => hq
        · exact absurd rfl hq
    · rw [if_neg hs] at hp
      exact hold p rest hp fun heq => absurd heq.symm hs

/-- The branch is over, and the next in line is to be polled. -/
lemma left (h : w.LoneFan t f) (hr : Reachable sc.opening w) (hfit : f.Refits none f')
    (hline : ∀ s, (v.engine host).lineAt s = if slot = s then
      ((w.engine host).lineAt slot).filter (·.1 != pass.number) else (w.engine host).lineAt s)
    (hnext : f.wide = true → ∀ p rest, ((w.engine host).lineAt slot).filter (·.1 != pass.number) =
      p :: rest → ∃ i, p.2 = f.seat t i ∧ i ∈ f'.ready) : v.QueuesInOrder t f' host none := by
  have hbranch : ∀ {i e}, f'.branch? i = some e → i ≠ f.cursor ∧ f.branch? i = some e := by
    intro i e hi
    have hne : i ≠ f.cursor := by
      rintro rfl
      rw [hfit.branch?_cursor] at hi
      cases hi
    exact ⟨hne, (hfit.branch? hne).symm.trans hi⟩
  have hseat : ∀ i, f'.seat t i = f.seat t i := fun i => Fan.seat_congr hfit.wide
  refine ⟨fun i e hi => ho.hosts i e (hbranch hi).2, fun s p hp => ?_,
    fun i e pass' clears' _ hi hready => ?_, fun hwide s p rest hp => ?_⟩
  · have hin : p ∈ (w.engine host).lineAt s ∧ (s = slot → p.1 ≠ pass.number) := by
      rw [hline] at hp
      by_cases hs : slot = s
      · rw [if_pos hs, List.mem_filter] at hp
        exact ⟨hs ▸ hp.1, fun _ => by simpa using hp.2⟩
      · rw [if_neg hs] at hp
        exact ⟨hp, fun heq => absurd heq.symm hs⟩
    obtain ⟨i, e, pass', hne, hi, hs, hpass, rfl⟩ := ho.other hc hin.1 hin.2
    exact ⟨i, e, pass', (hfit.branch? hne).trans hi, hs, hpass, by rw [hseat]⟩
  · obtain ⟨hne, hi⟩ := hbranch hi
    have hin := ho.waiting i e pass' clears' (fun heq => hne (Option.some.inj heq).symm) hi hready
    rw [hseat, hline]
    by_cases hs : slot = e.slot
    · rw [if_pos hs]
      refine List.mem_filter.mpr ⟨hs ▸ hin, ?_⟩
      have hn : pass'.number ≠ pass.number := fun hn =>
        hne (h.sole hr hi hc (by rw [hready]; rfl) rfl (ho.hosts i e hi) hn)
      simpa using hn
    · rw [if_neg hs]
      exact hin
  · rw [hfit.wide] at hwide
    simp only [hseat]
    rw [hline] at hp
    by_cases hs : slot = s
    · rw [if_pos hs] at hp
      obtain ⟨i, hi, hready⟩ := hnext hwide p rest hp
      exact ⟨i, hi, .inl hready⟩
    · rw [if_neg hs] at hp
      obtain ⟨i, hi, hready⟩ := ho.next hwide s p rest hp
      refine ⟨i, hi, .inl (hready.elim hfit.mem_ready fun hcursor => ?_)⟩
      obtain ⟨j, e, pass', hne, -, -, -, rfl⟩ := ho.other hc
        (hp ▸ List.mem_cons_self : p ∈ (w.engine host).lineAt s) fun heq => absurd heq.symm hs
      exact absurd ((Fan.seat_inj hwide hi).trans (Option.some.inj hcursor).symm) hne

end

end QueuesInOrder

/-- The branch has delivered and is over. -/
structure GetsThrough (host : String) (slot : Slot) (r : Result) (f : Fan) (w v : World) (f' : Fan) :
    Prop where
  focus : v.focus = .next true
  refits : f.Refits none f'
  deliveries : v.deliveries = w.deliveries + 1
  delivered : (v.engine host).delivered =
    ((w.engine host).select (w.policy host) slot r).2.delivered
  calls : ∀ c, v.callsTo c =
    w.callsTo c + ((w.engine host).select (w.policy host) slot r).1.count c

/-- The branch has to wait, be it that another one is first in line or that other tasks go first. -/
structure HeldUp (host : String) (f : Fan) (w v : World) (f' : Fan) : Prop where
  focus : v.focus = .next false
  deliveries : v.deliveries = w.deliveries
  delivered : (v.engine host).delivered = (w.engine host).delivered
  calls : ∀ c, v.callsTo c = w.callsTo c
  why : (f' = f ∧ ∃ i e pass, i ≠ f.cursor ∧ f.branch? i = some e ∧ e.progress.pass? = some pass) ∨
    f' = f.nudge f.cursor ∧ w.sated = true

section

variable (h : w.LoneFan t f) (hr : Reachable sc.opening w) (hd : w.driving = [])
  (hf : w.focus = .emission) (hc : f.current? = some ⟨host, slot, .ready pass clears⟩)
  (ho : w.QueuesInOrder t f host (some f.cursor))

include h hr hc in
/-- Whoever is at a gate was given its pass there. -/
lemma LoneFan.gate? : ∃ g, (w.engine host).gate? slot = some g ∧ g.id = pass.gate := by
  have hstake : w.stake? t f.cursor = some ⟨host, slot, pass, false⟩ := by
    rw [h.stake?]
    unfold Fan.current? at hc
    rw [hc]
    rfl
  obtain ⟨g, hg, hid, -⟩ := (Scene.kept_of_reachable hr).held t f.cursor _ hstake
  exact ⟨g, hg, hid⟩

include h hr hd hf hc ho

/-- The first in line waits when its task has made many deliveries. -/
lemma LoneFan.heldUp_of_sated {who : Waiter} {rest : List (Nat × Waiter)}
    (hl : w.lineWith ⟨host, slot, .ready pass clears⟩ pass (f.seat t f.cursor) =
      (pass.number, who) :: rest) (hs : w.sated = true) :
    ∃ v f', RunsTo w v ∧ Delivers host w v ∧ v.LoneFan t f' ∧ v.driving = [] ∧
      v.QueuesInOrder t f' host none ∧ HeldUp host f w v f' := by
  obtain ⟨g, hg, hid⟩ := h.gate? hr hc
  obtain ⟨v, hv, hdelivers, halone, hfocus, hdriving, hcount, hdelivered, hcalls, hline⟩ :=
    h.holdsBack hd hf hc rfl hg hid ⟨who, rest, hl⟩ hs
  dsimp only at hdelivers hdelivered hline
  have hcursor : f.branch? f.cursor = some ⟨host, slot, .ready pass clears⟩ := hc
  have hfit := (Fan.refits_self hc).nudge f.cursor
  have horderly : v.QueuesInOrder t (f.nudge f.cursor) host none :=
    ho.lineUp hc h hr (Fan.branches_nudge f _) (Fan.wide_nudge f _) (fun i => hfit.mem_ready) hline
      fun hwide => .inl (Fan.mem_ready_nudge hwide (by rw [hcursor]; rfl))
  exact ⟨v, _, hv, hdelivers, halone, hdriving, horderly,
    hfocus, hcount, hdelivered, hcalls, .inr ⟨rfl, hs⟩⟩

/-- The first in line delivers what is cached, and the next one is to be polled. -/
lemma LoneFan.getsThrough (hres : (w.engine host).cached slot = some r)
    (ht : w.Told Action.Detached) (hcalm : w.NeverPanics) {who : Waiter} {rest : List (Nat × Waiter)}
    (hl : w.lineWith ⟨host, slot, .ready pass clears⟩ pass (f.seat t f.cursor) =
      (pass.number, who) :: rest) (hs : w.sated = false) :
    ∃ v f', RunsTo w v ∧ Delivers host w v ∧ v.LoneFan t f' ∧ v.driving = [] ∧
      v.QueuesInOrder t f' host none ∧ GetsThrough host slot r f w v f' := by
  obtain ⟨g, hg, hid⟩ := h.gate? hr hc
  obtain ⟨hdelivers, halone, hfocus, hdriving, hcount, hdelivered, hcalls, hline⟩ :=
    h.offers hd hf hc rfl hg hid hres ⟨who, rest, hl⟩ hs
  dsimp only at hdelivers halone hdelivered hline
  have hrun : RunsTo w w.step := runsTo_step (by rw [hf]; rintro ⟨⟩)
  have hbound : ∀ c ∈ ((w.engine host).select (w.policy host) slot r).1,
      c < w.step.subscribers.length := by
    intro c hm
    rw [hdelivers.subscribers]
    exact (Scene.sane_of_reachable hr).sound.known.subscribers host slot c
      ((Engine.mem_select _ _ _ _ c).mp hm).1
  have hc₁ := Fan.current?_setCurrent (f := f) (by rw [hc]; rfl) (some ⟨host, slot, .calling pass r
    ((w.engine host).select (w.policy host) slot r).1⟩)
  obtain ⟨u, f₂, hu, htalks, hcalls₂, halone₂, hfit₂, hfocus₂, hdriving₂⟩ :=
    halone.calls (by
      unfold Told
      rw [hdelivers.scripts]
      exact ht) hbound hdriving hfocus hc₁ (hcalm.runsTo hrun)
  have hfit := (Fan.refits_setCurrent f _).trans hfit₂
  have hrun₂ := hrun.trans hu
  have hline₂ : ∀ s, (u.engine host).lineAt s = if slot = s then
      w.lineWith ⟨host, slot, .ready pass clears⟩ pass (f.seat t f.cursor)
        else (w.engine host).lineAt s := fun s => by
    rw [htalks.engine]
    exact hline s
  have hothers : ∀ p ∈ (u.engine host).lineAt slot, p.1 ≠ pass.number →
      ∃ i, (f₂.branch? i).isSome = true ∧ p.2 = f₂.seat t i := by
    intro p hp hn
    rw [hline₂, if_pos rfl] at hp
    obtain ⟨i, e, pass', hne, hi, -, -, rfl⟩ := ho.other hc
      ((QueuesInOrder.of_mem_lineWith hp).resolve_right fun heq => hn (by rw [heq])) fun _ => hn
    exact ⟨i, by rw [hfit.branch? hne, hi]; rfl, (Fan.seat_congr hfit.wide).symm⟩
  obtain ⟨f', hdelivers₃, halone₃, hfit₃, hfocus₃, hdriving₃, hcount₃, hdelivered₃, hcalls₃, hline₃,
    hnext⟩ := halone₂.leaves (hrun₂.reachable hr) hdriving₂ hfocus₂
      (hfit₂.current? (by rw [hc₁]; rfl)) hothers
  have hrun₃ : RunsTo u u.step := runsTo_step (by rw [hfocus₂]; rintro ⟨⟩)
  have hfilter : ((u.engine host).lineAt slot).filter (·.1 != pass.number) =
      ((w.engine host).lineAt slot).filter (·.1 != pass.number) := by
    rw [hline₂, if_pos rfl]
    exact QueuesInOrder.filter_lineWith _
  have hfit' := hfit.trans hfit₃
  have horderly : u.step.QueuesInOrder t f' host none := by
    refine ho.left hc h hr hfit' (fun s => ?_) fun hwide p rest hp => ?_
    · rw [hline₃, hfilter, hline₂]
      by_cases hs : slot = s
      · rw [if_pos hs, if_pos hs]
      · rw [if_neg hs, if_neg hs, if_neg hs]
    · obtain ⟨i, hi, hm⟩ := hnext (hfit.wide.trans hwide) p rest (hfilter.trans hp)
      exact ⟨i, hi.trans (Fan.seat_congr hfit.wide), hm⟩
  refine ⟨u.step, f', hrun₂.trans hrun₃, (hdelivers.trans (htalks.delivers host)).trans hdelivers₃,
    halone₃, hdriving₃, horderly, hfocus₃, hfit', ?_, ?_, fun c => ?_⟩
  · rw [hcount₃, htalks.deliveries, hcount]
  · rw [hdelivered₃, htalks.engine, hdelivered]
  · rw [hcalls₃, hcalls₂, hcalls]

/-- Whoever is not first in line waits for another branch. -/
lemma LoneFan.heldUp_of_line
    (hl : ¬∃ who rest, w.lineWith ⟨host, slot, .ready pass clears⟩ pass (f.seat t f.cursor) =
      (pass.number, who) :: rest) :
    ∃ v f', RunsTo w v ∧ Delivers host w v ∧ v.LoneFan t f' ∧ v.driving = [] ∧
      v.QueuesInOrder t f' host none ∧ HeldUp host f w v f' := by
  obtain ⟨g, hg, hid⟩ := h.gate? hr hc
  obtain ⟨v, hv, hdelivers, halone, hfocus, hdriving, hcount, hdelivered, hcalls, hline⟩ :=
    h.queues hd hf hc rfl hg hid hl
  dsimp only at hdelivers hdelivered hline
  -- Whoever is first is another branch.
  have hfirst : ∃ p rest, p.1 ≠ pass.number ∧
      w.lineWith ⟨host, slot, .ready pass clears⟩ pass (f.seat t f.cursor) = p :: rest := by
    cases hlined : w.lineWith ⟨host, slot, .ready pass clears⟩ pass (f.seat t f.cursor) with
    | nil =>
      have hown := ho.own hc h hr
      rw [hlined] at hown
      cases hown
    | cons p rest =>
      refine ⟨p, rest, fun hn => hl ⟨p.2, rest, ?_⟩, rfl⟩
      rw [hlined, ← hn]
  have horderly : v.QueuesInOrder t f host none :=
    ho.lineUp hc h hr rfl rfl (fun i hi => hi) hline fun _ => .inr hfirst
  refine ⟨v, f, hv, hdelivers, halone, hdriving, horderly,
    hfocus, hcount, hdelivered, hcalls, .inl ⟨rfl, ?_⟩⟩
  obtain ⟨p, rest, hn, hlined⟩ := hfirst
  rcases QueuesInOrder.of_lineWith_eq_cons hlined with ⟨more, hin⟩ | rfl
  · obtain ⟨i, e, pass', hne, hi, -, hpass, -⟩ :=
      ho.other hc (hin ▸ List.mem_cons_self) fun _ => hn
    exact ⟨i, e, pass', hne, hi, hpass⟩
  · exact absurd rfl hn

/-- A branch that has come to its gate delivers what is cached there, or waits in line. -/
lemma LoneFan.comesThrough (hres : (w.engine host).cached slot = some r)
    (ht : w.Told Action.Detached) (hcalm : w.NeverPanics) :
    ∃ v f', RunsTo w v ∧ Delivers host w v ∧ v.LoneFan t f' ∧ v.driving = [] ∧
      v.QueuesInOrder t f' host none ∧ (GetsThrough host slot r f w v f' ∨ HeldUp host f w v f') := by
  by_cases hl : ∃ who rest, w.lineWith ⟨host, slot, .ready pass clears⟩ pass (f.seat t f.cursor) =
      (pass.number, who) :: rest
  · obtain ⟨who, rest, hl⟩ := hl
    cases hs : w.sated with
    | true =>
      obtain ⟨v, f', hv, hdelivers, halone, hdriving, horderly, hheld⟩ :=
        h.heldUp_of_sated hr hd hf hc ho hl hs
      exact ⟨v, f', hv, hdelivers, halone, hdriving, horderly, .inr hheld⟩
    | false =>
      obtain ⟨v, f', hv, hdelivers, halone, hdriving, horderly, hgets⟩ :=
        h.getsThrough hr hd hf hc ho hres ht hcalm hl hs
      exact ⟨v, f', hv, hdelivers, halone, hdriving, horderly, .inl hgets⟩
  · obtain ⟨v, f', hv, hdelivers, halone, hdriving, horderly, hheld⟩ :=
      h.heldUp_of_line hr hd hf hc ho hl
    exact ⟨v, f', hv, hdelivers, halone, hdriving, horderly, .inr hheld⟩

end

end World

end Dataflow
