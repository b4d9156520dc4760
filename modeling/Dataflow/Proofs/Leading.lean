import Dataflow.Proofs.Strands

/-!
# What the leading strand does

The innermost party, the waking of those who wait and the giving up of shares are in the whole what
they are in the strand that leads, since whatever they come upon is on its side.
-/

namespace Dataflow

namespace World

lemma enqueue_eq (w : World) (t : Nat) :
    ∃ queue rewoken, w.enqueue t = { w with queue, rewoken } := by
  have he := w.enqueues t
  generalize w.enqueue t = w' at he
  cases he with
  | ended | runs | waits | queues => exact ⟨_, _, rfl⟩

lemma setJob_eq_modify {w : World} {t : Nat} (h : w.running = some t) (j : Job) :
    w.setJob j = w.modifyTask t fun task => { task with job := j } := by
  cases ht : w.tasks[t]? <;> simp [setJob, modifyTask, h, ht]

lemma setJob_at_rest {w : World} (h : w.running = none) (j : Job) : w.setJob j = w := by
  simp only [setJob, h]

namespace Lead

variable {S T : Side} {v u w : World}

lemma job (h : Lead S T v u w) : w.job.Resembles S v.job := by
  unfold World.job
  rw [h.running]
  cases v.running with
  | none => exact .nothing
  | some t =>
    simp only [Option.map_some, Option.bind_some]
    cases ht : v.tasks[t]? with
    | none =>
      rw [h.own.tasks.get_none ht]
      exact .nothing
    | some task' =>
      obtain ⟨task, ht, hr⟩ := h.own.tasks.get ht
      rw [ht]
      exact hr.job

lemma modifyTask (h : Lead S T v u w) (t : Nat) (g g' : Task → Task)
    (hg : ∀ task task', task.Resembles S task' → (g task).Resembles S (g' task')) :
    Lead S T (v.modifyTask t g') u (w.modifyTask (S .task t) g) := by
  unfold World.modifyTask
  cases ht : v.tasks[t]? with
  | none =>
    rw [h.own.tasks.get_none ht]
    exact h
  | some task' =>
    obtain ⟨task, ht, hr⟩ := h.own.tasks.get ht
    rw [ht]
    exact h.setTask t (hg task task' hr)

lemma setJob (h : Lead S T v u w) {j j' : Job} (hj : j.Resembles S j') :
    Lead S T (v.setJob j') u (w.setJob j) := by
  have hrun := h.running
  cases hr : v.running with
  | none =>
    rw [hr] at hrun
    rw [setJob_at_rest hr, setJob_at_rest hrun]
    exact h
  | some t =>
    rw [hr] at hrun
    rw [setJob_eq_modify hr, setJob_eq_modify hrun]
    exact h.modifyTask t (fun task => { task with job := j }) (fun task => { task with job := j' })
      fun _ _ hres => { hres with job := hj }

lemma party (h : Lead S T v u w) : w.party.Resembles S v.party := by
  have hj := h.job
  unfold World.party
  rw [h.driving]
  cases v.driving with
  | cons i outer =>
    simp only [List.map_cons]
    cases hf : v.flights[i]? with
    | none =>
      rw [h.own.flights.get_none hf]
      exact .nobody
    | some f' =>
      obtain ⟨f, hf, rfl, ho, ha⟩ := h.own.flights.get hf
      rw [hf]
      exact .work ho ha
  | nil =>
    generalize w.job = j at hj
    generalize v.job = j' at hj
    cases hj with
    | output own h => exact .output own h
    | work own alone => exact .work own alone
    | emit alike => exact .emission alike
    | @fan f f' alike =>
      have hc := alike.current?
      dsimp only
      generalize f.current? = o at hc
      generalize f'.current? = o' at hc
      cases hc with
      | none => exact .nobody
      | some he => exact .emission he
    | _ => exact .nobody

lemma self (h : Lead S T v u w) (hr : v.running ≠ none) : w.self = v.self.rename S := by
  have hj := h.job
  obtain ⟨t, ht⟩ := Option.ne_none_iff_exists'.mp hr
  unfold World.self
  rw [h.driving, h.running, ht]
  cases v.driving with
  | cons i outer => rfl
  | nil =>
    generalize w.job = j at hj
    generalize v.job = j' at hj
    cases hj with
    | @fan f f' alike =>
      show (if f.wide then Waiter.branch _ f.cursor else _) =
        Waiter.rename S (if f'.wide then _ else _)
      rw [alike.wide, alike.cursor]
      cases f'.wide <;> rfl
    | _ => rfl

lemma setWork (h : Lead S T v u w) {k : Work} (ho : S.nodes k.slot.node = true) (ha : k.AsksNothing) :
    Lead S T (v.setWork k) u (w.setWork (k.rename S)) := by
  unfold World.setWork
  rw [h.driving]
  cases v.driving with
  | cons i outer =>
    simp only [List.map_cons]
    cases hf : v.flights[i]? with
    | none =>
      rw [h.own.flights.get_none hf]
      exact h
    | some f' =>
      obtain ⟨f, hf, rfl, -, -⟩ := h.own.flights.get hf
      rw [hf]
      exact h.setFlight i ⟨rfl, ho, ha⟩
  | nil => exact h.setJob (.work ho ha)

lemma setEmission (h : Lead S T v u w) {e e' : Emission} (he : e.Resembles S e') :
    Lead S T (v.setEmission e') u (w.setEmission e) := by
  have hj := h.job
  unfold World.setEmission
  generalize w.job = j at hj
  generalize v.job = j' at hj
  cases hj with
  | fan alike => exact h.setJob (.fan (alike.setCurrent (.some he)))
  | _ => exact h.setJob (.emit he)

lemma keep (h : Lead S T v u w) (own : Handle) :
    Lead S T (v.keep own) u (w.keep (own.rename S)) := by
  have hp := h.party
  unfold World.keep
  generalize w.party = p at hp
  generalize v.party = p' at hp
  cases hp with
  | @work k ho ha =>
    obtain ⟨host, slot, target, stage⟩ := k
    cases stage with
    | asking own rest => exact absurd rfl (ha.asking own rest)
    | _ => exact h
  | emission he =>
    obtain ⟨ho, hp⟩ := he
    cases hp with
    | waiting pass clears clears' old =>
      exact h.setEmission (.of ho (.waiting pass clears clears' own))
    | _ => exact h
  | output ho old => exact h.setJob (.output ho (some own))
  | nobody => exact h

lemma enqueue_own (h : Lead S T v u w) (t : Nat) : Lead S T (v.enqueue t) u w := by
  obtain ⟨queue, rewoken, hv⟩ := enqueue_eq v t
  rw [hv]
  exact h.withQueue w.queue queue w.rewoken rewoken

lemma enqueue_whole (h : Lead S T v u w) (t : Nat) : Lead S T v u (w.enqueue t) := by
  obtain ⟨queue, rewoken, hw⟩ := enqueue_eq w t
  rw [hw]
  exact h.withQueue queue v.queue rewoken v.rewoken

lemma enqueue (h : Lead S T v u w) (t t' : Nat) : Lead S T (v.enqueue t') u (w.enqueue t) :=
  (h.enqueue_own t').enqueue_whole t

lemma stir (h : Lead S T v u w) (t key : Nat) :
    Lead S T (v.stir t key) u (w.stir (S .task t) key) := by
  unfold World.stir
  cases ht : v.tasks[t]? with
  | none =>
    rw [h.own.tasks.get_none ht]
    exact h
  | some task' =>
    obtain ⟨task, ht, hr⟩ := h.own.tasks.get ht
    have hj := hr.job
    rw [ht]
    simp only [Option.map_some]
    generalize task.job = j at hj
    generalize task'.job = j' at hj
    cases hj with
    | @fan f f' alike =>
      have hm := h.modifyTask t (fun task => { task with job := .fan (f.stir key) })
        (fun task => { task with job := .fan (f'.stir key) })
        fun _ _ hr => { hr with job := .fan (alike.stir key) }
      simp only [alike.asleep key]
      cases f'.asleep key with
      | true => exact hm.enqueue _ _
      | false => exact hm
    | _ => exact h

lemma waitersOf (h : Lead S T v u w) (i : Nat) :
    w.waitersOf (S .flight i) = (v.waitersOf i).map (Waiter.rename S) := by
  unfold World.waitersOf
  cases hf : v.flights[i]? with
  | none =>
    rw [h.own.flights.get_none hf]
    rfl
  | some f' =>
    obtain ⟨f, hf, rfl, -, -⟩ := h.own.flights.get hf
    rw [hf]
    exact f'.seats.waiters_rename

lemma rouse (h : Lead S T v u w) (i : Nat) :
    Lead S T (v.rouse i) u (w.rouse (S .flight i)) := by
  unfold World.rouse
  cases hf : v.flights[i]? with
  | none =>
    rw [h.own.flights.get_none hf]
    exact h
  | some f' =>
    obtain ⟨f, hf, rfl, ho, ha⟩ := h.own.flights.get hf
    rw [hf]
    refine h.setFlight i ⟨?_, ho, ha⟩
    simp only [Flight.rename, Seats.roused_rename]

end Lead

/-- How many seats are taken. -/
def seated (w : World) : Nat := (w.flights.flatMap fun f => f.seats.waiters).length

@[simp] lemma seated_enqueue (w : World) (t : Nat) : (w.enqueue t).seated = w.seated := by
  obtain ⟨queue, rewoken, h⟩ := enqueue_eq w t
  rw [h]
  rfl

@[simp] lemma seated_modifyTask (w : World) (t : Nat) (g : Task → Task) :
    (w.modifyTask t g).seated = w.seated := by
  rcases w.modifyTask_cases t g with ⟨task, -, heq⟩ | heq <;> rw [heq]
  rfl

@[simp] lemma seated_stir (w : World) (t key : Nat) : (w.stir t key).seated = w.seated := by
  rcases w.stir_cases t key with ⟨-, f, -, -, w', rfl, heq | heq⟩ | heq <;> simp [heq]

lemma length_flatMap_set {α β : Type} {l : List α} (g : α → List β) {i : Nat} {a : α}
    (ha : l[i]? = some a) (b : α) :
    ((l.set i b).flatMap g).length + (g a).length = (l.flatMap g).length + (g b).length := by
  induction l generalizing i with
  | nil => cases ha
  | cons c l ih =>
    cases i with
    | zero =>
      cases ha
      simp only [List.set_cons_zero, List.flatMap_cons, List.length_append]
      omega
    | succ i =>
      have hi := ih ha
      simp only [List.set_cons_succ, List.flatMap_cons, List.length_append]
      omega

/-- Those who are woken leave their seats. -/
lemma seated_rouse (w : World) (i : Nat) :
    (w.rouse i).seated + (w.waitersOf i).length = w.seated := by
  unfold rouse waitersOf
  cases hf : w.flights[i]? with
  | none => rfl
  | some f =>
    have hset := length_flatMap_set (fun f : Flight => f.seats.waiters) hf
      { f with seats := f.seats.roused }
    rw [show ({ f with seats := f.seats.roused } : Flight).seats.waiters = [] from
      f.seats.waiters_roused] at hset
    exact hset

namespace Lead

variable {S T : Side} {v u w : World}

lemma wakeWithin (h : Lead S T v u w) {n m : Nat} {l : List Waiter}
    (hn : l.length + v.seated ≤ n) (hm : l.length + w.seated ≤ m) :
    Lead S T (wakeWithin n l v) u (wakeWithin m (l.map (Waiter.rename S)) w) := by
  induction n generalizing m l v w with
  | zero =>
    cases l with
    | nil => cases m <;> exact h
    | cons who rest => simp at hn
  | succ n ih =>
    cases l with
    | nil => cases m <;> exact h
    | cons who rest =>
      cases m with
      | zero => simp at hm
      | succ m =>
        rw [List.length_cons] at hn hm
        cases who with
        | task t =>
          refine ih (h.enqueue (S .task t) t) ?_ ?_
          · rw [seated_enqueue]
            omega
          · rw [seated_enqueue]
            omega
        | branch t key =>
          refine ih (h.stir t key) ?_ ?_
          · rw [seated_stir]
            omega
          · rw [seated_stir]
            omega
        | flight i =>
          have hv := seated_rouse v i
          have hw := seated_rouse w (S .flight i)
          have hlen := congrArg List.length (h.waitersOf i)
          rw [List.length_map] at hlen
          have hn : (v.waitersOf i ++ rest).length + (v.rouse i).seated ≤ n := by
            rw [List.length_append]
            omega
          have hm : (v.waitersOf i ++ rest).length + (w.rouse (S .flight i)).seated ≤ m := by
            rw [List.length_append]
            omega
          have hrest := ih (h.rouse i) hn hm
          rw [List.map_append, ← h.waitersOf i] at hrest
          exact hrest

lemma wake (h : Lead S T v u w) (l : List Waiter) :
    Lead S T (v.wake l) u (w.wake (l.map (Waiter.rename S))) :=
  h.wakeWithin (Nat.le_refl _) (Nat.le_of_eq (by rw [List.length_map]; rfl))

lemma vacate (h : Lead S T v u w) (own : Handle) :
    Lead S T (v.vacate own) u (w.vacate (own.rename S)) := by
  obtain ⟨ticket, seat⟩ := own
  unfold World.vacate
  simp only [Handle.rename]
  cases hf : v.flights[ticket]? with
  | none =>
    rw [h.own.flights.get_none hf]
    exact h
  | some f' =>
    obtain ⟨f, hf, rfl, ho, ha⟩ := h.own.flights.get hf
    rw [hf]
    obtain ⟨work, status, seats⟩ := f'
    cases seat with
    | none => exact h
    | some seat =>
      have hset := h.setFlight ticket
        (show Flight.Resembles S _ ⟨work, status, seats.giveUp seat⟩ from ⟨rfl, ho, ha⟩)
      cases status with
      | landed r => exact h
      | _ =>
        simp only [Flight.rename, ← Seats.giveUp_rename] at hset
        exact hset

/-- No flight waits for another one. -/
lemma share?_work (h : Lead S T v u w) {f : Flight} (hm : f ∈ w.flights) :
    f.work.share? = none := by
  have halone : ∀ {R : Side} {f' : Flight}, f.Resembles R f' → f.work.share? = none := by
    rintro R f' ⟨rfl, -, ha⟩
    show (f'.work.rename R).share? = none
    rw [Work.share?_rename, ha.share?]
    rfl
  obtain ⟨j, hj⟩ := List.mem_iff_getElem?.mp hm
  rcases h.opposite.cover .flight j with ⟨j, rfl⟩ | ⟨j, rfl⟩
  · obtain ⟨f', -, hres⟩ := h.own.flights.of_get hj
    exact halone hres
  · obtain ⟨f', -, hres⟩ := h.other.flights.of_get hj
    exact halone hres

/-- Whoever holds a share in a flight of the side is on that side. -/
lemma held (h : Lead S T v u w) (i : Nat) : w.held (S .flight i) = v.held i := by
  rw [Bool.eq_iff_iff, held_iff, held_iff]
  have hshares : ∀ (l : List Handle), (∃ own ∈ l.map (Handle.rename S), own.ticket = S .flight i) ↔
      ∃ own ∈ l, own.ticket = i := by
    intro l
    simp [Handle.rename]
  refine or_congr ?_ (or_congr ⟨?_, ?_⟩ ?_)
  · cases hf : v.flights[i]? with
    | none =>
      rw [h.own.flights.get_none hf]
      simp
    | some f' =>
      obtain ⟨f, hf, rfl, ho, -⟩ := h.own.flights.get hf
      rw [hf]
      simp only [Option.some.injEq, exists_eq_left']
      exact (h.own.engine f'.work.host).flying_iff ho i
  · rintro ⟨task, hm, own, hown, hi⟩
    obtain ⟨t, ht⟩ := List.mem_iff_getElem?.mp hm
    rcases h.opposite.cover .task t with ⟨t', rfl⟩ | ⟨t', rfl⟩
    · obtain ⟨task', ht', hr⟩ := h.own.tasks.of_get ht
      refine ⟨task', List.mem_of_getElem? ht', (hshares _).mp ⟨own, ?_, hi⟩⟩
      rw [← hr.job.shares]
      exact hown
    · obtain ⟨task', -, hr⟩ := h.other.tasks.of_get ht
      rw [hr.job.shares] at hown
      obtain ⟨own', -, rfl⟩ := List.mem_map.mp hown
      exact absurd hi.symm (h.opposite.apart _ _ _)
  · rintro ⟨task', hm, hown⟩
    obtain ⟨t, ht⟩ := List.mem_iff_getElem?.mp hm
    obtain ⟨task, ht', hr⟩ := h.own.tasks.get ht
    refine ⟨task, List.mem_of_getElem? ht', ?_⟩
    rw [hr.job.shares]
    exact (hshares _).mpr hown
  · -- no work waits for another flight, be it on this side or on the other
    refine iff_of_false ?_ ?_
    · rintro ⟨f, hm, own, hown, -⟩
      rw [h.share?_work hm] at hown
      cases hown
    · rintro ⟨f', hm, own, hown, -⟩
      obtain ⟨j, hj⟩ := List.mem_iff_getElem?.mp hm
      obtain ⟨f, -, -, -, ha⟩ := h.own.flights.get hj
      rw [ha.share?] at hown
      cases hown

lemma release (h : Lead S T v u w) (kept : List Nat) (own : Handle) :
    Lead S T (v.release kept own) u (w.release (kept.map (S .flight)) (own.rename S)) := by
  have hv := h.vacate own
  unfold World.release
  simp only [releaseWithin]
  generalize v.vacate own = v at hv
  generalize w.vacate (own.rename S) = w at hv
  obtain ⟨i, seat⟩ := own
  simp only [Handle.rename]
  cases hf : v.flights[i]? with
  | none =>
    rw [hv.own.flights.get_none hf]
    exact hv
  | some f' =>
    obtain ⟨f, hf, rfl, ho, ha⟩ := hv.own.flights.get hf
    rw [hf]
    have hheld : ((kept.map (S .flight)).contains (S .flight i) || w.held (S .flight i)) =
        (kept.contains i || v.held i) := by
      rw [hv.held i, Bool.eq_iff_iff]
      simp
    obtain ⟨work, status, seats⟩ := f'
    cases status with
    | idle =>
      have hlost := hv.setFlight i
        (show Flight.Resembles S _ ⟨{ work with stage := .away }, .lost, seats⟩ from
          ⟨rfl, ho, ha.away⟩)
      have hshare : (work.rename S).share? = none := by
        rw [Work.share?_rename, ha.share?]
        rfl
      simp only [Flight.rename, Status.rename, hheld, hshare, ha.share?] at hlost ⊢
      cases kept.contains i || v.held i with
      | true => exact hv
      | false => exact hlost
    | _ => exact hv

lemma releaseAll (h : Lead S T v u w) (tickets : List Nat) :
    Lead S T (releaseAll tickets v) u (releaseAll (tickets.map (S .flight)) w) := by
  induction tickets generalizing v w with
  | nil => exact h
  | cons ticket rest ih => exact ih (h.release rest { ticket })

lemma join (h : Lead S T v u w) {host : String} {s : Slot} (hs : S.nodes s.node = true)
    (hn : (w.engine host).flying s = none → S .flight v.flights.length = w.flights.length) :
    Lead S T (v.join host s).1 u (w.join host s).1 ∧
      (w.join host s).2 = (v.join host s).2.rename S := by
  have he := h.own.engine host
  have hflying := he.flying hs
  unfold World.join
  dsimp only
  cases hf : (v.engine host).flying s with
  | some ticket =>
    rw [hf] at hflying
    rw [hflying]
    exact ⟨h, rfl⟩
  | none =>
    rw [hf] at hflying
    have hnext := hn hflying
    rw [hflying]
    have hflight : Flight.Resembles S
        { work := { host, slot := s, target := (w.engine host).target s } }
        { work := { host, slot := s, target := (v.engine host).target s } } := by
      rw [he.target hs]
      exact ⟨rfl, hs, he.work_alone s⟩
    have hadd := h.addFlight hnext hflight
    have hset := hadd.setEngine (he.takeOff s v.flights.length)
      ((h.other.engine host).takeOff_other (h.opposite.other hs) _)
    have hlog := hset.log (.takenOff host s v.flights.length) hs
    simp only [Event.rename, hnext] at hlog
    exact ⟨hlog, by simp [Handle.rename, hnext]⟩

lemma clear (h : Lead S T v u w) {host : String} {s : Slot} (hs : S.nodes s.node = true) :
    Lead S T (v.clear host s) u (w.clear host s) := by
  have he := h.own.engine host
  have hset := h.setEngine (he.clear s) ((h.other.engine host).clear_other (h.opposite.other hs))
  have hall := hset.releaseAll ((v.engine host).flying s).toList
  rw [show ((v.engine host).flying s).toList.map (S .flight) = ((w.engine host).flying s).toList by
    rw [he.flying hs]; cases (v.engine host).flying s <;> rfl] at hall
  exact hall

lemma ground (h : Lead S T v u w) {host : String} {before before' : Engine}
    (hb : before.Strand S host before') {id : String} (hn : S.nodes id = true) :
    Lead S T (v.ground before' id) u (w.ground before id) := by
  have hall := h.releaseAll ((before'.inFlight.entries id).map (·.2))
  unfold World.ground
  rw [hb.inFlight id hn]
  rw [List.map_map] at hall
  rw [NameMap.mapValues, List.map_map]
  exact hall

end Lead

end World

end Dataflow
