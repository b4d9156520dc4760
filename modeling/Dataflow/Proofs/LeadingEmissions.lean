import Dataflow.Proofs.LeadingWorks

/-!
# Emissions of the leading strand

The one thing that the two count differently is how often something was cleared, and it matters only
to an emission that finds nothing cached when it is about to deliver. Then something was cleared
since it looked, in the whole and in the strand alike, and it starts again.
-/

namespace Dataflow

namespace World

/-- Lining up changes neither what is cached nor how often something was cleared. -/
lemma lined_up (w : World) (host : String) (s : Slot) (pass : Pass) (who : Waiter) :
    let e := (w.setEngine host ((w.engine host).lineUp s pass who)).engine host
    e.cached s = (w.engine host).cached s ∧ e.clears = (w.engine host).clears := by
  obtain ⟨gates, passes, -, heq⟩ := (w.engine host).regated_lineUp s pass who
  rw [engine_setEngine, if_pos rfl, heq]
  exact ⟨rfl, rfl⟩

namespace Lead

variable {S T : Side} {v u w : World} {e e' : Emission}

lemma enter (h : Lead S T v u w) (he : e.Resembles S e')
    (hn : S (.pass e'.host) (v.engine e'.host).passes = (w.engine e'.host).passes) :
    Lead S T (v.enter e') u (w.enter e) := by
  obtain @⟨host, slot, p, p', ho, hp⟩ := he
  obtain ⟨hpass, hown⟩ := (h.own.engine host).enter ho hn
  have hother := (h.other.engine host).enter_other (h.opposite.other ho)
    fun i => hn ▸ (h.opposite.apart _ _ i).symm
  have hlog := (h.setEngine hown hother).log
    (.entered host slot ((v.engine host).enter slot).1) ho
  have hset := hlog.setEmission
    (.of ho (.looking ((v.engine host).enter slot).1) : Emission.Resembles S ⟨host, slot, _⟩ _)
  simp only [Event.rename, ← hpass] at hset
  exact hset

lemma look (h : Lead S T v u w) (he : e.Resembles S e') (pass : Pass)
    (hn : (w.engine e'.host).cached e'.slot = none → (w.engine e'.host).flying e'.slot = none →
      S .flight v.flights.length = w.flights.length) :
    Lead S T (v.look e' pass) u (w.look e (pass.rename S e'.host)) := by
  obtain @⟨host, slot, p, p', ho, hp⟩ := he
  have hlog := h.log (.looked host slot pass) ho
  have hcached := (h.own.engine host).cached ho
  unfold World.look
  dsimp only
  cases hc : (v.engine host).cached slot with
  | some r =>
    rw [hc] at hcached
    rw [hcached]
    exact hlog.setEmission (.of ho (.ready pass _ _))
  | none =>
    rw [hc] at hcached
    rw [hcached]
    obtain ⟨hjoin, hshare⟩ := hlog.join ho (hn hcached)
    have hset := hjoin.setEmission (.of ho (.waiting pass (w.engine host).clears
      (v.engine host).clears ((v.log (.looked host slot pass)).join host slot).2) :
        Emission.Resembles S ⟨host, slot, _⟩ _)
    have hgo := hset.shift (.poll ((v.log (.looked host slot pass)).join host slot).2) rfl
    simp only [Focus.rename, ← hshare] at hgo
    exact hgo

lemma makeWay (h : Lead S T v u w) (he : e.Resembles S e') (pass : Pass) :
    Lead S T (v.makeWay e' pass) u (w.makeWay e (pass.rename S e'.host)) := by
  obtain @⟨host, slot, p, p', ho, hp⟩ := he
  have hown := h.own.engine host
  have hset := h.setEngine (hown.stepOut ho pass)
    ((h.other.engine host).modifyGate_other (h.opposite.other ho) (pass.rename S host) _)
  have hline := (hset.own.engine host).line ho pass
  unfold World.makeWay
  simp only [hown.isFirst ho]
  cases (v.engine host).isFirst slot pass with
  | false => exact hset
  | true =>
    have hnext : ((((w.setEngine host ((w.engine host).stepOut slot (pass.rename S host))).engine
        host).line slot (pass.rename S host)).head?.map (·.2)).toList =
        ((((v.setEngine host ((v.engine host).stepOut slot pass)).engine host).line slot
          pass).head?.map (·.2)).toList.map (Waiter.rename S) := by
      rw [hline]
      cases ((v.setEngine host ((v.engine host).stepOut slot pass)).engine host).line slot pass <;>
        rfl
    simp only [if_true, hnext]
    exact hset.wake _

lemma deliver (h : Lead S T v u w) (he : e.Resembles S e') (pass : Pass) {clears clears' : Nat}
    (hv : (v.engine e'.host).cached e'.slot = none → (v.engine e'.host).clears ≠ clears')
    (hw : (w.engine e'.host).cached e'.slot = none → (w.engine e'.host).clears ≠ clears) :
    Lead S T (v.deliver e' pass clears') u (w.deliver e (pass.rename S e'.host) clears) := by
  obtain @⟨host, slot, p, p', ho, hp⟩ := he
  have hown := h.own.engine host
  have hcached := hown.cached ho
  unfold World.deliver
  dsimp only at hv hw ⊢
  cases hc : (v.engine host).cached slot with
  | some r =>
    rw [hc] at hcached
    rw [hcached, h.own.policy]
    obtain ⟨hpicked, hselect⟩ := hown.select ho (h.own.blind host) r
    have hmine : ∀ c ∈ (v.engine host).subscribers slot, S.own (S.subscriber c) = true :=
      fun c hm => hown.subscribed slot c ho hm
    have hother : ∀ c ∈ (w.engine host).subscribers slot, T.own c = false := by
      intro c hm
      rw [hown.subscribers ho] at hm
      obtain ⟨c', hc', rfl⟩ := List.mem_map.mp hm
      rw [h.opposite.own, hmine c' hc']
      rfl
    have hlog := (h.setEngine hselect ((h.other.engine host).select_other hother)).log
      (.delivering host slot pass r ((v.engine host).select (v.policy host) slot r).1) ho
    have hcalled : ∀ c ∈ ((v.engine host).select (v.policy host) slot r).1,
        S.own (S.subscriber c) = true :=
      fun c hm => hmine c ((Engine.mem_select _ _ _ _ c).mp hm).1
    have hset := hlog.setEmission
      (.of ho (.calling pass r hcalled) : Emission.Resembles S ⟨host, slot, _⟩ _)
    simp only [Event.rename, ← hpicked] at hset
    exact hset
  | none =>
    rw [hc] at hcached
    rw [hcached]
    dsimp only
    rw [if_neg (hv hc), if_neg (hw hcached)]
    have hlog := h.log (.retrying host slot pass) ho
    exact (hlog.makeWay (.of ho hp) pass).setEmission (.of ho (.looking pass))

lemma sated (h : Lead S T v u w) (hr : v.running ≠ none) : w.sated = v.sated := by
  unfold World.sated
  rw [h.own.runtime, h.deliveries hr]

lemma approach (h : Lead S T v u w) (hr : v.running ≠ none) (he : e.Resembles S e')
    (pass : Pass) {clears clears' : Nat}
    (hv : (v.engine e'.host).cached e'.slot = none → (v.engine e'.host).clears ≠ clears')
    (hw : (w.engine e'.host).cached e'.slot = none → (w.engine e'.host).clears ≠ clears) :
    Lead S T (v.approach e' pass clears') u (w.approach e (pass.rename S e'.host) clears) := by
  obtain @⟨host, slot, p, p', ho, hp⟩ := he
  have hself := h.self hr
  have hown := (h.own.engine host).lineUp ho pass v.self
  have hset := h.setEngine hown
    ((h.other.engine host).lineUp_other (h.opposite.other ho) (pass.rename S host) _)
  unfold World.approach
  simp only [hself, hown.isFirst ho]
  cases ((v.engine host).lineUp slot pass v.self).isFirst slot pass with
  | false => exact hset.shift .stall rfl
  | true =>
    simp only [hset.sated hr]
    cases (v.setEngine host ((v.engine host).lineUp slot pass v.self)).sated with
    | true =>
      have hwake := (hset.wake [v.self]).shift .stall rfl
      have hself' := hset.self hr
      simp only [hself']
      exact hwake
    | false =>
      refine hset.countDelivery.deliver (.of ho hp) pass (fun hc => ?_) fun hc => ?_
      · obtain ⟨hcached, hclears⟩ := lined_up v host slot pass v.self
        exact hclears.trans_ne (hv (hcached.symm.trans hc))
      · obtain ⟨hcached, hclears⟩ := lined_up w host slot (pass.rename S host) (v.self.rename S)
        exact hclears.trans_ne (hw (hcached.symm.trans hc))

lemma finishEmission (h : Lead S T v u w) (he : e.Resembles S e') (pass : Pass) :
    Lead S T (v.finishEmission e' pass) u (w.finishEmission e (pass.rename S e'.host)) := by
  have hway := h.makeWay he pass
  obtain @⟨host, slot, p, p', ho, hp⟩ := he
  have hlog := (hway.setEngine ((hway.own.engine host).leave ho pass)
    ((hway.other.engine host).leave_other (h.opposite.other ho) (pass.rename S host))).log
    (.left host slot pass) ho
  have hjob := hlog.job
  unfold World.finishEmission
  dsimp only at hlog hjob ⊢
  simp only [Event.rename] at hlog hjob
  generalize ((v.makeWay _ _).setEngine _ _).log _ = v' at hlog hjob ⊢
  generalize ((w.makeWay _ _).setEngine _ _).log _ = w' at hlog hjob ⊢
  generalize w'.job = j at hjob
  generalize v'.job = j' at hjob
  cases hjob with
  | fan alike =>
    exact (hlog.setJob (.fan (alike.setCurrent .none))).shift (.next true) rfl
  | _ => exact (hlog.setJob .nothing).shift (.finish .ok) rfl

lemma callNext (h : Lead S T v u w) (he : e.Resembles S e') (pass : Pass) (r : Result)
    {l : List Nat} (hl : ∀ c ∈ l, S.own (S.subscriber c) = true ∧ c < v.subscribers.length) :
    Lead S T (v.callNext e' pass r l) u
      (w.callNext e (pass.rename S e'.host) (r.rename S) (l.map S.subscriber)) := by
  cases l with
  | nil => exact h.finishEmission he pass
  | cons c rest =>
    obtain @⟨host, slot, p, p', ho, hp⟩ := he
    obtain ⟨hc, hlt⟩ := hl c List.mem_cons_self
    have hrest : ∀ c ∈ rest, S.own (S.subscriber c) = true :=
      fun c hm => (hl c (List.mem_cons_of_mem _ hm)).1
    obtain ⟨s', hv⟩ : ∃ s', v.subscribers[c]? = some s' := ⟨_, List.getElem?_eq_getElem hlt⟩
    obtain ⟨s, hw, hs, hcalls⟩ := h.own.roster.listed c s' hv
    have hcount := h.countCall hc hw hv
    have hlog := hcount.log (.called host slot c s'.callback r) ho
    have hset := hlog.setEmission (.of ho (.acting pass r hrest s'.callback
      ((((v.scripts.get? s'.callback).getD [])[s'.calls]?).getD [])) :
        Emission.Resembles S ⟨host, slot, _⟩ _)
    have hscript : (((w.scripts.get? s'.callback).getD [])[s'.calls]?).getD [] =
        (((v.scripts.get? s'.callback).getD [])[s'.calls]?).getD [] := by
      rw [h.own.scripts]
    rw [List.map_cons]
    unfold World.callNext
    simp only [hw, hv, hs, hcalls hc]
    simp only [hs, hcalls hc, ← hscript] at hset
    simp only [← hscript]
    exact hset

lemma dropEmission (h : Lead S T v u w) (he : e.Resembles S e') :
    Lead S T (v.dropEmission e') u (w.dropEmission e) := by
  have hshare := he.share?
  obtain @⟨host, slot, p, p', ho, hp⟩ := he
  have hpass := hp.pass?
  unfold World.dropEmission
  dsimp only
  cases hq : p'.pass? with
  | none =>
    rw [hq] at hpass
    rw [hpass]
    exact h
  | some pass =>
    rw [hq] at hpass
    rw [hpass]
    have hend : ∀ {v' w' : World}, Lead S T v' u w' →
        Lead S T (((v'.makeWay ⟨host, slot, p'⟩ pass).setEngine host
          (((v'.makeWay ⟨host, slot, p'⟩ pass).engine host).abandon slot pass)).log
            (.abandoned host slot pass)) u
          (((w'.makeWay ⟨host, slot, p⟩ (pass.rename S host)).setEngine host
            (((w'.makeWay ⟨host, slot, p⟩ (pass.rename S host)).engine host).abandon slot
              (pass.rename S host))).log (.abandoned host slot (pass.rename S host))) := by
      intro v' w' h'
      have hway := h'.makeWay (.of ho hp) pass
      exact (hway.setEngine ((hway.own.engine host).abandon ho pass)
        ((hway.other.engine host).modifyGate_other (h.opposite.other ho) (pass.rename S host) _)).log
        (.abandoned host slot pass) ho
    dsimp only [Option.map_some]
    rw [hshare]
    cases (⟨host, slot, p'⟩ : Emission).share? with
    | none => exact hend h
    | some own => exact hend (h.release [] own)

end Lead

end World

end Dataflow
