import Dataflow.Proofs.EmissionCases
import Dataflow.Proofs.LeadingEmissions

/-!
# Tasks of the leading strand

A task is taken up, put aside and ended in the whole as it is in the strand that leads.
-/

namespace Dataflow

lemma Emission.Resembles.recalled {S : Side} {e e' : Emission} (h : e.Resembles S e') :
    e.recalled.Resembles S e'.recalled := by
  obtain @⟨host, slot, p, p', ho, hp⟩ := h
  cases hp with
  | waiting pass clears clears' own => exact .of ho (.looking pass)
  | fresh => exact .of ho .fresh
  | looking pass => exact .of ho (.looking pass)
  | ready pass clears clears' => exact .of ho (.ready pass clears clears')
  | calling pass r own => exact .of ho (.calling pass r own)
  | acting pass r own callback script => exact .of ho (.acting pass r own callback script)

namespace World

namespace Lead

variable {S T : Side} {v u w : World} {f f' : Fan}

lemma cancelled (h : Lead S T v u w) (t : Nat) :
    (w.tasks[S .task t]?).any Task.cancelled = (v.tasks[t]?).any Task.cancelled := by
  cases ht : v.tasks[t]? with
  | none => rw [h.own.tasks.get_none ht]
  | some task' =>
    obtain ⟨task, ht, hr⟩ := h.own.tasks.get ht
    rw [ht]
    exact hr.cancelled

lemma pause (h : Lead S T v u w) : Lead S T v.pause u w.pause := by
  have hrest := h.rest
  have hcancelled := h.shift (.finish .cancelled) rfl
  have hidle := h.shift .idle rfl
  have hrunning := h.running
  unfold World.pause
  dsimp only
  generalize ({ v with running := none, rewoken := false, focus := .idle } : World) = v' at hrest ⊢
  generalize ({ w with running := none, rewoken := false, focus := .idle } : World) = w' at hrest ⊢
  cases hr : v.running with
  | none =>
    rw [hr] at hrunning
    rw [hrunning]
    exact hidle
  | some t =>
    rw [hr] at hrunning
    rw [hrunning]
    simp only [Option.map_some, h.cancelled t]
    by_cases hc : v.tasks[t]?.any Task.cancelled = true
    · rw [if_pos hc, if_pos hc]
      exact hcancelled
    · rw [if_neg hc, if_neg hc]
      -- whether the task was woken since may differ, and does not show
      have hown : Lead S T (if v.rewoken then v'.enqueue t else v') u w' := by
        cases v.rewoken with
        | true => exact hrest.enqueue_own t
        | false => exact hrest
      cases w.rewoken with
      | true => exact hown.enqueue_whole _
      | false => exact hown

lemma stall (h : Lead S T v u w) : Lead S T v.stall u w.stall := by
  have hj := h.job
  have hpause := h.pause
  have hnext := h.shift (.next false) rfl
  have hdriving := h.driving
  unfold World.stall
  cases hd : v.driving with
  | cons i outer =>
    rw [hd] at hdriving
    rw [hdriving]
    simp only [List.map_cons]
    cases hf : v.flights[i]? with
    | none =>
      rw [h.own.flights.get_none hf]
      exact (h.withDriving outer).shift .stall rfl
    | some f' =>
      obtain ⟨f, hf, rfl, ho, ha⟩ := h.own.flights.get hf
      rw [hf]
      exact ((h.setFlight i (show Flight.Resembles S _ { f' with status := .idle } from
        ⟨rfl, ho, ha⟩)).withDriving outer).shift .stall rfl
  | nil =>
    rw [hd] at hdriving
    rw [hdriving]
    simp only [List.map_nil]
    generalize w.job = j at hj
    generalize v.job = j' at hj
    cases hj with
    | fan alike => exact hnext
    | _ => exact hpause

lemma pollBranch (h : Lead S T v u w) (hf : f.Resembles S f') (i : Nat) :
    Lead S T (v.pollBranch f' i) u (w.pollBranch f i) :=
  (h.setJob (.fan (hf.aimAt i))).shift .emission rfl

lemma closeFan (h : Lead S T v u w) (hf : f.Resembles S f') :
    Lead S T (v.closeFan f') u (w.closeFan f) := by
  have hset := h.setJob (.fan hf)
  unfold World.closeFan
  simp only [hf.unfinished]
  cases f'.unfinished.isEmpty with
  | true => exact hset.shift (.finish .ok) rfl
  | false => exact hset.pause

lemma pollFrom (h : Lead S T v u w) (hf : f.Resembles S f') (i : Nat) :
    Lead S T (v.pollFrom f' i) u (w.pollFrom f i) := by
  unfold World.pollFrom
  rw [hf.unfinished]
  cases f'.unfinished.find? (i ≤ ·) with
  | some j => exact h.pollBranch hf j
  | none => exact h.closeFan hf

lemma pollReady (h : Lead S T v u w) (hf : f.Resembles S f') :
    Lead S T (v.pollReady f') u (w.pollReady f) := by
  unfold World.pollReady
  rw [hf.unfinished, hf.ready]
  cases f'.ready.dropWhile fun i => !f'.unfinished.contains i with
  | cons i rest => exact h.pollBranch (hf.withReady rest) i
  | nil => exact h.closeFan (hf.withReady [])

lemma startFan (h : Lead S T v u w) (hf : f.Resembles S f') :
    Lead S T (v.startFan f') u (w.startFan f) := by
  unfold World.startFan
  rw [hf.wide]
  cases f'.wide with
  | true => exact h.pollReady hf.beginTurn
  | false => exact h.pollFrom hf 0

lemma nextBranch (h : Lead S T v u w) (finished : Bool) :
    Lead S T (v.nextBranch finished) u (w.nextBranch finished) := by
  have hj := h.job
  have hpause := h.pause
  unfold World.nextBranch
  generalize w.job = j at hj
  generalize v.job = j' at hj
  cases hj with
  | @fan f f' alike =>
    simp only [alike.wide, alike.cursor]
    cases f'.wide with
    | false => exact h.pollFrom alike _
    | true =>
      cases finished with
      | true => exact h.pollReady alike.beginTurn
      | false =>
        simp only [alike.countWait.yields]
        cases f'.countWait.yields with
        | true =>
          have hset := h.setJob (.fan alike.countWait)
          exact (hset.withQueue _ _ true true).pause
        | false => exact h.pollReady alike.countWait
  | _ => exact hpause

lemma clearAll (h : Lead S T v u w) {host node : String} (hn : S.nodes node = true)
    (keys : List String) :
    Lead S T (keys.foldl (fun w k => w.clear host ⟨node, k⟩) v) u
      (keys.foldl (fun w k => w.clear host ⟨node, k⟩) w) := by
  induction keys generalizing v w with
  | nil => exact h
  | cons k keys ih => exact ih (h.clear (s := ⟨node, k⟩) hn)

lemma startInvalidation (h : Lead S T v u w) (hr : v.running ≠ none) (host : String)
    {node : String} (hn : S.nodes node = true) (keys : Option (List String)) :
    Lead S T (v.startInvalidation host node keys) u (w.startInvalidation host node keys) := by
  obtain ⟨t, ht⟩ := Option.ne_none_iff_exists'.mp hr
  have hrunning := h.running
  rw [ht] at hrunning
  unfold World.startInvalidation
  rw [(h.own.engine host).node hn]
  cases (v.engine host).node node with
  | error f => exact h.shift (.finish (.failed f)) rfl
  | ok n =>
    have hlog := h.log (.invalidating t host node (keys.getD n.outputs.names)) hn
    simp only [ht, hrunning, Option.map_some, Option.getD_some]
    exact (hlog.clearAll hn _).startFan (.ofKeys host hn _)

lemma resumeTask (h : Lead S T v u w) (hr : v.running ≠ none)
    (hn : ∀ host slot, v.job = .output host slot none → (w.engine host).cached slot = none →
      (w.engine host).flying slot = none → S .flight v.flights.length = w.flights.length) :
    Lead S T v.resumeTask u w.resumeTask := by
  have hj := h.job
  have hfinish := h.shift (.finish .ok) rfl
  unfold World.resumeTask
  generalize w.job = j at hj
  generalize v.job = j' at hj hn
  cases hj with
  | @output host slot ho own =>
    cases own with
    | some own => exact h.shift (.poll own) rfl
    | none =>
      have hcached := (h.own.engine host).cached ho
      simp only [Option.map_none]
      cases hc : (v.engine host).cached slot with
      | some r =>
        rw [hc] at hcached
        rw [hcached]
        exact h.shift (.finish (.result r)) rfl
      | none =>
        rw [hc] at hcached
        rw [hcached]
        obtain ⟨hjoin, hshare⟩ := h.join ho (hn host slot rfl hcached)
        have hset := hjoin.setJob (.output ho (some (v.join host slot).2) : Job.Resembles S
          (.output host slot (some ((v.join host slot).2.rename S))) _)
        have hgo := hset.shift (.poll (v.join host slot).2) rfl
        simp only [Focus.rename, Option.map_some, ← hshare] at hgo
        exact hgo
  | @compute host slot ho =>
    have he := h.own.engine host
    have hset := h.setJob (.work (k := { host, slot, target := (v.engine host).target slot })
      ho (he.work_alone slot))
    simp only [Engine.lookUp_eq_target, he.target ho]
    exact hset.shift .work rfl
  | work ho ha => exact h.shift .work rfl
  | invalidate ho keys => exact h.startInvalidation hr _ ho keys
  | fan alike => exact h.startFan alike
  | emit alike => exact h.shift .emission rfl
  | follow t =>
    have hwait := (h.modifyTask t (fun task => { task with follower := w.running })
      (fun task => { task with follower := v.running })
      fun _ _ hr => { hr with follower := h.running }).pause
    dsimp only
    cases ht : v.tasks[t]? with
    | none =>
      rw [h.own.tasks.get_none ht]
      exact hwait
    | some task' =>
      obtain ⟨task, ht, hr⟩ := h.own.tasks.get ht
      rw [ht]
      simp only [Option.bind_some, hr.ended]
      cases hend : task'.ended with
      | none => exact hwait
      | some how =>
        cases how with
        | panicked text => exact h.breakDown .former text
        | _ => exact hfinish
  | nothing => exact hfinish

lemma dropBranch (h : Lead S T v u w) (i : Nat) :
    Lead S T (v.dropBranch i) u (w.dropBranch i) := by
  have hj := h.job
  unfold World.dropBranch
  generalize w.job = j at hj
  generalize v.job = j' at hj
  cases hj with
  | @fan f f' alike =>
    have hb := alike.branch? i
    dsimp only
    generalize f.branch? i = o at hb
    generalize f'.branch? i = o' at hb
    cases hb with
    | none => exact h
    | some he => exact (h.setJob (.fan ((alike.aimAt i).setCurrent .none))).dropEmission he
  | _ => exact h

lemma dropJob (h : Lead S T v u w) : Lead S T v.dropJob u w.dropJob := by
  have hj := h.job
  have hdrop : ∀ l : List Nat,
      Lead S T (l.foldl World.dropBranch v) u (l.foldl World.dropBranch w) := by
    intro l
    induction l generalizing v w with
    | nil => exact h
    | cons i l ih => exact ih (h.dropBranch i) (h.dropBranch i).job
  unfold World.dropJob
  generalize w.job = j at hj
  generalize v.job = j' at hj
  cases hj with
  | output ho own =>
    cases own with
    | none => exact h
    | some own => exact (h.setJob .nothing).release [] own
  | @work k ho ha =>
    simp only [Work.share?_rename, ha.share?]
    exact h
  | fan alike =>
    simp only [alike.leaving]
    exact hdrop _
  | emit alike => exact (h.setJob .nothing).dropEmission alike
  | _ => exact h

lemma forget (h : Lead S T v u w) : Lead S T v.forget u w.forget := by
  have hp := h.party
  have hj := h.job
  unfold World.forget
  generalize w.party = p at hp
  generalize v.party = p' at hp
  cases hp with
  | work ho ha => exact h.setWork ho ha.away
  | @emission e e' he =>
    generalize w.job = j at hj
    generalize v.job = j' at hj
    cases hj with
    | fan alike => exact (h.setJob (.fan (alike.setCurrent .none))).dropEmission he.recalled
    | _ => exact (h.setJob .nothing).dropEmission he.recalled
  | output ho own => exact h.setJob (.output ho none)
  | nobody => exact h

lemma unwind (h : Lead S T v u w) (text : String) :
    Lead S T (v.unwind text) u (w.unwind text) := by
  have hforget := h.forget
  unfold World.unwind
  dsimp only
  generalize v.forget = v at hforget
  generalize w.forget = w at hforget
  have hend := hforget.shift (.finish (.panicked text)) rfl
  have hdriving := hforget.driving
  cases hd : v.driving with
  | cons i outer =>
    rw [hd] at hdriving
    rw [hdriving]
    simp only [List.map_cons]
    cases hf : v.flights[i]? with
    | none =>
      rw [hforget.own.flights.get_none hf]
      exact hforget.withDriving outer
    | some f' =>
      obtain ⟨f, hf, rfl, ho, ha⟩ := hforget.own.flights.get hf
      rw [hf]
      exact (hforget.setFlight i (show Flight.Resembles S _ { f' with status := .broken } from
        ⟨rfl, ho, ha⟩)).withDriving outer
  | nil =>
    rw [hd] at hdriving
    rw [hdriving]
    exact hend

/-- A subscription that was waited for goes back unless its name was taken. Where the other side took
the name, the strand puts it back all the same. -/
lemma putBack (h : Lead S T v u w) {holding holding' : Option (String × Subscription)}
    (hh : Option.Rel (fun p p' => p.1 = p'.1 ∧ p.2.Resembles S p'.2) holding holding') (how : End) :
    Lead S T (v.putBack holding' how) u (w.putBack holding (how.rename S)) := by
  have hput : ∀ (w : World) (name : String) (sub : Subscription) (how : End), how ≠ .cancelled →
      w.putBack (some (name, sub)) how = if w.subscriptions.contains name then w else
        { w with subscriptions := w.subscriptions.insert name sub } := by
    intro w name sub how hc
    cases how with
    | cancelled => exact absurd rfl hc
    | _ => rfl
  cases hh with
  | none => cases how <;> exact h
  | @some p p' hp =>
    obtain ⟨name, sub⟩ := p
    obtain ⟨name', sub'⟩ := p'
    obtain ⟨rfl, hsub⟩ := hp
    have hsub : sub.Resembles S sub' := hsub
    have hnot : T.nodes sub.slot.node = false := by
      rw [hsub.eq]
      exact h.opposite.other hsub.own
    have hown := h.own.subscriptions
    by_cases hc : how = .cancelled
    · subst hc
      exact h
    · have hc' : how.rename S ≠ .cancelled := by
        cases how with
        | cancelled => exact absurd rfl hc
        | _ => rintro ⟨⟩
      rw [hput v name sub' how hc, hput w name sub _ hc']
      unfold Table.contains
      cases hw : w.subscriptions.get? name with
      | none =>
        rw [hown.unnamed name hw]
        exact { h with
          own := { h.own with subscriptions := hown.insert name hsub }
          other := { h.other with subscriptions := h.other.subscriptions.insert_other name hnot } }
      | some s =>
        have hn : w.subscriptions.get? name ≠ none := by
          rw [hw]
          rintro ⟨⟩
        cases hv : v.subscriptions.get? name with
        | some s' => exact h
        | none =>
          exact { h with
            own := { h.own with subscriptions := hown.insert_alone hn hv sub' } }

lemma endTask (h : Lead S T v u w) (how : End) :
    Lead S T (v.endTask how) u (w.endTask (how.rename S)) := by
  have hrunning := h.running
  have hidle := h.shift .idle rfl
  have hover := h.rest.withQueue w.queue v.queue w.rewoken v.rewoken
  have hdrop := h.dropJob
  unfold World.endTask
  dsimp only at hover ⊢
  generalize ({ v with running := none, focus := .idle } : World) = v' at hover ⊢
  generalize ({ w with running := none, focus := .idle } : World) = w' at hover ⊢
  generalize v.dropJob = vd at hdrop
  generalize w.dropJob = wd at hdrop
  cases hr : v.running with
  | none =>
    rw [hr] at hrunning
    rw [hrunning]
    exact hidle
  | some t =>
    rw [hr] at hrunning
    rw [hrunning]
    simp only [Option.map_some]
    cases ht : v.tasks[t]? with
    | none =>
      rw [h.own.tasks.get_none ht]
      exact hover
    | some task' =>
      obtain ⟨task, ht, hres⟩ := h.own.tasks.get ht
      rw [ht]
      have hend := hdrop.modifyTask t
        (fun task => { task with job := .nothing, ended := some (how.rename S), holding := none })
        (fun task => { task with job := .nothing, ended := some how, holding := none })
        fun _ _ hr => { hr with job := .nothing, ended := rfl, holding := .none }
      have hrest := ((hend.log (.ended t task'.name how) rfl).putBack
        hres.holding how).rest
      simp only [Event.rename, ← hres.name] at hrest
      have hf := hres.follower
      dsimp only
      cases hfollow : task'.follower with
      | none =>
        rw [hfollow] at hf
        rw [hf, ← hres.name]
        exact hrest
      | some follower =>
        rw [hfollow] at hf
        rw [hf, ← hres.name]
        exact hrest.enqueue _ _

/-- A task of the side takes the delivery of what it was lent, and of nothing else. -/
lemma takeDelivery (h : Lead S T v u w) (t : Nat) {holding holding' : Option (String × Subscription)}
    (hh : Option.Rel (fun p p' => p.1 = p'.1 ∧ p.2.Resembles S p'.2) holding holding') :
    Lead S T (v.takeDelivery t holding') u (w.takeDelivery (S .task t) holding) := by
  have hown := h.own.subscriptions
  cases hh with
  | none => exact h
  | @some p p' hp =>
    obtain ⟨name, sub⟩ := p
    obtain ⟨name', sub'⟩ := p'
    obtain ⟨rfl, -⟩ := hp
    unfold World.takeDelivery
    dsimp only
    cases hw : w.subscriptions.get? name with
    | none =>
      rw [hown.unnamed name hw]
      exact h
    | some s =>
      cases ho : S.nodes s.slot.node with
      | true =>
        obtain ⟨s', hv, hres⟩ := hown.own name s hw ho
        have hother : T.nodes s.slot.node = false := h.opposite.other ho
        have hborrower : s.borrower = some (S .task t) ↔ s'.borrower = some t := by
          rw [congrArg Subscription.borrower hres.eq]
          show s'.borrower.map (S .task) = some (S .task t) ↔ _
          cases s'.borrower with
          | none => simp
          | some b => simp [S.number_inj]
        rw [hv]
        dsimp only
        by_cases hb : s'.borrower = some t
        · rw [if_pos hb, if_pos (hborrower.mpr hb)]
          have htake := hres.take t s'.borrower
          have heq : s.borrower = s'.borrower.map (S .task) := congrArg Subscription.borrower hres.eq
          rw [← heq] at htake
          exact { h with
            own := { h.own with subscriptions := hown.insert name htake }
            other := { h.other with
              subscriptions := h.other.subscriptions.insert_other name hother } }
        · rw [if_neg hb, if_neg (mt hborrower.mp hb)]
          exact h
      | false =>
        -- What the other side keeps under the name, none of this side has borrowed.
        have hno : s.borrower ≠ some (S .task t) := by
          intro hb
          obtain ⟨s', -, hres⟩ := h.other.subscriptions.own name s hw (by rw [h.opposite.nodes, ho]; rfl)
          rw [congrArg Subscription.borrower hres.eq] at hb
          obtain ⟨b, -, hb⟩ := Option.map_eq_some_iff.mp hb
          exact h.opposite.apart .task t b hb.symm
        dsimp only
        rw [if_neg hno]
        cases hv : v.subscriptions.get? name with
        | none => exact h
        | some s' =>
          dsimp only
          by_cases hb : s'.borrower = some t
          · rw [if_pos hb]
            exact { h with own := { h.own with subscriptions := hown.insert_foreign hw ho _ } }
          · rw [if_neg hb]
            exact h

lemma poll (h : Lead S T v u w) (t : Nat) :
    Lead S T (v.poll t) u (w.poll (S .task t)) := by
  unfold World.poll
  cases ht : v.tasks[t]? with
  | none =>
    rw [h.own.tasks.get_none ht]
    exact h
  | some task' =>
    obtain ⟨task, ht, hres⟩ := h.own.tasks.get ht
    rw [ht]
    dsimp only
    rw [hres.ended, hres.cancelled]
    cases task'.ended with
    | some how => exact h
    | none =>
      have hpolled : Lead S T
          { v with running := some t, rewoken := false, deliveries := 0 } u
          { w with running := some (S .task t), rewoken := false, deliveries := 0 } :=
        { h with
          own := { h.own with }
          other := { h.other with }
          running := rfl
          deliveries := fun _ => rfl }
      cases task'.cancelled with
      | true => exact hpolled.shift (.finish .cancelled) rfl
      | false => exact (hpolled.takeDelivery t hres.holding).shift .resume rfl

end Lead

end World

end Dataflow
