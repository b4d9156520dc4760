import Dataflow.Proofs.EmissionSteps
import Dataflow.Proofs.TaskCases

/-!
# The steps of tasks

A task that is polled goes on with its job until it ends or has to wait. The branches of a fan are
polled one after the other.
-/

namespace Dataflow

namespace World

open Ledger (Move Moves Quiet)

variable {w w' : World}

/-- Nothing is driven, so any task that has not ended may be the one that runs. -/
lemma Steady.hands (h : w.Steady) (hd : w.driving = []) {running : Option Nat}
    (hr : ∀ t, running = some t → ∃ task, w.tasks[t]? = some task ∧ task.ended = none)
    (rewoken : Bool) (deliveries : Nat) (focus : Focus) :
    { w with running, rewoken, deliveries, focus }.Steady where
  tasks := h.tasks
  flights := h.flights
  runs := hr
  callbacks := h.callbacks
  shelf := h.shelf
  driven := h.driven
  nodup := h.nodup
  linked := by
    show Linked _ _ w.driving
    rw [hd]
    exact True.intro
  flying := h.flying
  safe := h.safe

/-- No task runs any more. -/
lemma Steady.rests (h : w.Steady) (hd : w.driving = []) (rewoken : Bool) (focus : Focus) :
    { w with running := none, rewoken, focus }.Steady :=
  h.hands hd (by rintro _ ⟨⟩) rewoken w.deliveries focus

/-- The world is put to rest, and its ledger stays as it is. -/
structure Settles (w w' : World) : Prop where
  poised : w'.Poised
  ledger : w'.ledger = w.ledger

lemma Settles.goes (h : Settles w w') : Goes w w' := ⟨h.poised, by rw [h.ledger]; exact .refl _⟩

lemma Pauses.settles (hp : w.Pauses w') (h : w.Steady) (hs : w.Silent) (hd : w.driving = []) :
    Settles w w' := by
  have hrest : ({ w with running := none, rewoken := false, focus := .idle } : World).Steady :=
    h.rests hd _ _
  cases hp with
  | idle hr => exact ⟨h.poised (f := .idle) ⟨hs, hd, hr⟩, rfl⟩
  | @ends t hr hc =>
    obtain ⟨task, ht, -⟩ := h.runs t hr
    rw [ht] at hc
    have hend : w.MayEnd .cancelled := by
      refine ⟨fun _ t' task' hr' ht' => ?_, by rintro _ ⟨⟩, by rintro ⟨⟩, by rintro ⟨⟩⟩
      cases hr.symm.trans hr'
      cases ht.symm.trans ht'
      exact (h.tasks t task ht).named hc
    exact ⟨h.poised (f := .finish .cancelled) ⟨hs, hd, hend⟩, rfl⟩
  | @returns t hr hc hw =>
    have hk := fadingUnheld_enqueue { w with running := none, rewoken := false, focus := .idle } t
    refine ⟨⟨hrest.fades hk, ?_⟩, (ledger_fades hk.toFading).trans rfl⟩
    rw [hk.focus]
    exact ⟨silent_fades hk.toFading hs, hk.driving.trans hd, hk.running⟩
  | rests => exact ⟨⟨hrest, hs, hd, rfl⟩, rfl⟩

/-- A flight that has to wait is idle again, and so is whoever drove it. -/
lemma Stalls.settles (hst : w.Stalls w') (h : w.Steady) (hs : w.Silent) : Settles w w' := by
  cases hst with
  | @flight ticket outer f hd hf =>
    obtain ⟨g, hg, hdriven⟩ := h.driven ticket (by simp [hd])
    cases hf.symm.trans hg
    have htidy := h.flights ticket f hf
    have hn := h.nodup
    have hl := h.linked
    rw [hd] at hl
    rw [hd, List.nodup_cons] at hn
    have hidle : { w.setFlight ticket { f with status := .idle } with driving := outer }.Steady := by
      refine h.setFlight _ hf rfl rfl ⟨by rintro ⟨⟩, htidy.sound, by rintro _ ⟨⟩⟩ ?_ hn.2
        (linked_set (fun hm => hn.1 (List.mem_of_mem_tail hm)) hl.2) (by rintro ⟨⟩) ?_
      · intro i hi
        refine .inr ⟨?_, by rw [hd]; exact List.mem_cons_of_mem _ hi⟩
        rintro rfl
        exact hn.1 hi
      · intro own ho
        exact h.safe _ (.inr (.inr ⟨f, List.mem_of_getElem? hf, own, ho, rfl⟩))
    refine ⟨hidle.poised (f := .stall) hs, ?_⟩
    show (w.setFlight ticket { f with status := .idle }).ledger = w.ledger
    refine ledger_setFlight hf ?_
    unfold Flight.departure
    rw [hdriven]
    rfl
  | @misses ticket outer hd hf =>
    obtain ⟨g, hg, -⟩ := h.driven ticket (by simp [hd])
    cases hf.symm.trans hg
  | branch hd => exact ⟨h.poised (f := .next false) ⟨hs, hd⟩, rfl⟩
  | task hd _ hp => exact hp.settles h hs hd

/-- The running task may turn into any fan with these branches; its ledger is `b` then. -/
def Fans (w : World) (b : Ledger) (branches : List (Option Emission)) : Prop :=
  ∀ f : Fan, f.branches = branches → (w.setJob (.fan f)).Steady ∧ (w.setJob (.fan f)).Silent ∧
    (w.setJob (.fan f)).driving = [] ∧ (w.setJob (.fan f)).job = .fan f ∧
      (w.setJob (.fan f)).ledger = b

variable {b : Ledger} {f : Fan}

lemma emission?_of_unfinished (hf : f.unfinished.isEmpty = true) (i : Nat) :
    (Job.fan f).emission? i = none := by
  show f.branch? i = none
  cases hb : f.branch? i with
  | none => rfl
  | some e =>
    have hlt : i < f.branches.length := by
      unfold Fan.branch? at hb
      obtain ⟨b, hm, -⟩ := Option.bind_eq_some_iff.mp hb
      exact (List.getElem?_eq_some_iff.mp hm).1
    have hm : i ∈ f.unfinished := by
      unfold Fan.unfinished
      rw [List.mem_filter, List.mem_range]
      exact ⟨hlt, by rw [hb]; rfl⟩
    rw [List.isEmpty_iff] at hf
    rw [hf] at hm
    cases hm

lemma TurnsFan.fans (ht : w.TurnsFan f w') (h : w.Fans b f.branches) :
    w'.Poised ∧ w'.ledger = b := by
  cases ht with
  | @polls g i hg =>
    obtain ⟨hs, hsi, hd, -, hl⟩ := h (g.aimAt i) hg.branches
    exact ⟨hs.poised (f := .emission) ⟨hsi.hushed, hd⟩, hl⟩
  | @ends g hg hu =>
    obtain ⟨hs, hsi, hd, hj, hl⟩ := h g hg.branches
    have hend : (w.setJob (.fan g)).MayEnd .ok := by
      refine ⟨by rintro ⟨⟩, by rintro _ ⟨⟩, fun _ i => ?_, fun _ t ht => ?_⟩
      · rw [hj]
        exact emission?_of_unfinished hu i
      · rw [hj] at ht
        cases ht
    exact ⟨hs.poised (f := .finish .ok) ⟨hsi, hd, hend⟩, hl⟩
  | waits hg hp =>
    obtain ⟨hs, hsi, hd, -, hl⟩ := h _ hg.branches
    have hrest := hp.settles hs hsi hd
    exact ⟨hrest.poised, hrest.ledger.trans hl⟩
  | yields hg hp =>
    obtain ⟨hs, hsi, hd, -, hl⟩ := h _ hg.branches
    have hrest := hp.settles hs.rest hsi hd
    exact ⟨hrest.poised, hrest.ledger.trans hl⟩

/-- Which task it is that runs. -/
lemma running_of_job (h : w.Steady) (hj : w.job ≠ .nothing) :
    ∃ t task, w.running = some t ∧ w.tasks[t]? = some task ∧ task.ended = none ∧
      task.job = w.job := by
  cases hr : w.running with
  | none => exact absurd (by simp [job, hr]) hj
  | some t =>
    obtain ⟨task, ht, he⟩ := h.runs t hr
    exact ⟨t, task, rfl, ht, he, (job_of_running hr ht).symm⟩

/-- The branches of a fan stay while others are polled. -/
lemma fans_of_job (h : w.Steady) (hs : w.Silent) (hd : w.driving = []) (hj : w.job = .fan f) :
    w.Fans w.ledger f.branches := by
  intro g hg
  obtain ⟨t, task, hr, ht, -, hjob⟩ := running_of_job h (by rw [hj]; rintro ⟨⟩)
  rw [hj] at hjob
  have hem : ∀ i, (Job.fan g).emission? i = task.job.emission? i := by
    intro i
    rw [hjob]
    show g.branch? i = f.branch? i
    rw [Fan.branch?, Fan.branch?, hg]
  have hshares : ∀ own ∈ (Job.fan g).shares, own ∈ task.job.shares := by
    intro own ho
    rcases Job.mem_shares.mp ho with ⟨host, s, hx⟩ | ⟨k, hx, -⟩ | ⟨i, e, hi, ho⟩
    · cases hx
    · cases hx
    · rw [hem] at hi
      exact Job.mem_shares.mpr (.inr (.inr ⟨i, e, hi, ho⟩))
  have htidy := (h.tasks t task ht).job
  refine ⟨h.setJob hr ht hd ⟨by rintro _ ⟨⟩, by rintro _ _ _ ⟨⟩, fun i e own hi ho => ?_⟩
    fun own ho => ?_, ?_, ?_, ?_, ?_⟩
  · rw [hem] at hi
    exact htidy.emission i e own hi ho
  · exact h.safe _ (.inr (.inl ⟨task, List.mem_of_getElem? ht, own, hshares own ho, rfl⟩))
  · intro u i e he
    rw [setJob_of_running hr ht] at he
    obtain ⟨task', ht', hi⟩ := Option.bind_eq_some_iff.mp he
    rcases getElem?_set_cases ht' with ⟨rfl, rfl⟩ | ⟨-, ht'⟩
    · rw [hem] at hi
      exact hs t i e (Option.bind_eq_some_iff.mpr ⟨task, ht, hi⟩)
    · exact hs u i e (Option.bind_eq_some_iff.mpr ⟨task', ht', hi⟩)
  · rw [setJob_of_running hr ht]
    exact hd
  · rw [setJob_of_running hr ht]
    exact job_of_running (w := { w with tasks := w.tasks.set t { task with job := .fan g } }) hr
      (List.getElem?_set_self (List.getElem?_eq_some_iff.mp ht).1)
  · refine ledger_setJob hr ht ?_ ?_
    · funext i
      unfold Job.errands
      rw [hem]
    · rw [hjob]
      rfl

lemma TurnsToNext.goes (ht : w.TurnsToNext w') (h : w.Steady) (hs : w.Silent)
    (hd : w.driving = []) : Goes w w' := by
  cases ht with
  | fan hj hf =>
    obtain ⟨hpoised, hledger⟩ := hf.fans (fans_of_job h hs hd hj)
    exact Settles.goes ⟨hpoised, hledger⟩
  | pauses _ hp => exact (hp.settles h hs hd).goes

lemma setEngine_setEngine (b : Ledger) (host : String) (e e' : Engine) :
    (b.setEngine host e).setEngine host e' = b.setEngine host e' := by
  unfold Ledger.setEngine
  congr 1
  funext h
  by_cases hh : host = h <;> simp [hh]

lemma setEngine_self (b : Ledger) (host : String) : b.setEngine host (b.engine host) = b := by
  have he : (fun h => if host = h then b.engine host else b.engine h) = b.engine := by
    funext h
    by_cases hh : host = h <;> simp [hh]
  unfold Ledger.setEngine
  rw [he]

lemma keeps_clear (h : w.Steady) (host : String) (s : Slot) :
    Keeps w (w.clear host s) ∧
      (w.clear host s).ledger = w.ledger.setEngine host ((w.engine host).clear s) := by
  unfold clear
  simp only
  have hk := keeps_setEngine (i := host) (e := (w.engine host).clear s) h fun j ticket hf => by
    rw [Engine.flying_clear, Option.ite_none_left_eq_some] at hf
    exact hf.2
  have hr := fadingUnheld_releaseAll ((w.engine host).flying s).toList
    (w.setEngine host ((w.engine host).clear s))
  refine ⟨hk.trans (keeps_fades hk.steady hr), ?_⟩
  rw [ledger_fades hr.toFading, ledger_setEngine]

lemma keeps_clearAll (h : w.Steady) (host node : String) (keys : List String) :
    Keeps w (keys.foldl (fun w k => w.clear host ⟨node, k⟩) w) ∧
      (keys.foldl (fun w k => w.clear host ⟨node, k⟩) w).ledger =
        w.ledger.setEngine host ((w.engine host).clearAll node keys) ∧
      (keys.foldl (fun w k => w.clear host ⟨node, k⟩) w).tasks.map Task.bare =
        w.tasks.map Task.bare := by
  induction keys generalizing w with
  | nil => exact ⟨.refl h, (setEngine_self w.ledger host).symm, rfl⟩
  | cons k keys ih =>
    obtain ⟨hk, hl⟩ := keeps_clear h host ⟨node, k⟩
    obtain ⟨hrest, hlrest, htasks⟩ := ih hk.steady
    refine ⟨hk.trans hrest, ?_, ?_⟩
    · have he : (w.clear host ⟨node, k⟩).engine host = (w.engine host).clear ⟨node, k⟩ := by
        show (w.clear host ⟨node, k⟩).ledger.engine host = _
        rw [hl]
        exact if_pos rfl
      rw [List.foldl_cons, hlrest, hl, he, setEngine_setEngine]
      rfl
    · rw [List.foldl_cons, htasks]
      exact (fadingUnheld_releaseAll _ _).tasks

/-- The branches of an invalidation that has just cleared its slots. -/
lemma fans_of (host node : String) (keys : List String) (h : w.Steady) (hs : w.Silent)
    (hd : w.driving = []) {t : Nat} {task : Task} (hr : w.running = some t)
    (ht : w.tasks[t]? = some task) :
    w.Fans
      { w.ledger with
        duties := w.ledger.duties.set t
          { name := task.name
            errands := fun i => (keys[i]?).map fun k => ⟨host, ⟨node, k⟩, .fresh⟩
            follows := none
            ended := task.ended } }
      (Fan.of host node keys).branches := by
  intro f hf
  have hbranch : ∀ i, f.branch? i = (keys[i]?).map fun k => ⟨host, ⟨node, k⟩, .fresh⟩ := by
    intro i
    rw [Fan.branch?, hf]
    show ((keys.map _)[i]?).bind id = _
    rw [List.getElem?_map]
    cases keys[i]? <;> rfl
  have hfresh : ∀ i e, (Job.fan f).emission? i = some e → e.progress = .fresh := by
    intro i e hi
    have hi' : f.branch? i = some e := hi
    rw [hbranch] at hi'
    obtain ⟨k, -, rfl⟩ := Option.map_eq_some_iff.mp hi'
    rfl
  refine ⟨h.setJob hr ht hd ⟨by rintro _ ⟨⟩, by rintro _ _ _ ⟨⟩, fun i e own hi ho => ?_⟩
    fun own ho => ?_, ?_, ?_, ?_, ?_⟩
  · rw [Emission.share?, hfresh i e hi] at ho
    cases ho
  · rcases Job.mem_shares.mp ho with ⟨host, s, hx⟩ | ⟨k, hx, -⟩ | ⟨i, e, hi, ho⟩
    · cases hx
    · cases hx
    · rw [Emission.share?, hfresh i e hi] at ho
      cases ho
  · intro u i e he
    rw [setJob_of_running hr ht] at he
    obtain ⟨task', ht', hi⟩ := Option.bind_eq_some_iff.mp he
    rcases getElem?_set_cases ht' with ⟨rfl, rfl⟩ | ⟨-, ht'⟩
    · rw [hfresh i e hi]
      rfl
    · exact hs u i e (Option.bind_eq_some_iff.mpr ⟨task', ht', hi⟩)
  · rw [setJob_of_running hr ht]
    exact hd
  · rw [setJob_of_running hr ht]
    exact job_of_running (w := { w with tasks := w.tasks.set t { task with job := .fan f } }) hr
      (List.getElem?_set_self (List.getElem?_eq_some_iff.mp ht).1)
  · rw [setJob_of_running hr ht]
    have hduty : Task.duty { task with job := .fan f } =
        { name := task.name
          errands := fun i => (keys[i]?).map fun k => ⟨host, ⟨node, k⟩, .fresh⟩
          follows := none
          ended := task.ended } := by
      have he : (Job.fan f).errands = fun i => (keys[i]?).map fun k => ⟨host, ⟨node, k⟩, .fresh⟩ := by
        funext i
        show (f.branch? i).map Emission.errand = _
        rw [hbranch]
        cases keys[i]? <;> rfl
      unfold Task.duty
      rw [he]
      rfl
    unfold ledger
    simp only [List.map_set, hduty]
    rfl

lemma mayEnd_idleJob (hj : ∀ i, w.job.emission? i = none) (hf : w.job.follows = none) {how : End}
    (hc : how ≠ .cancelled) (hp : ∀ text, how ≠ .panicked text) : w.MayEnd how where
  cancelled := fun he => absurd he hc
  panicked := fun text he => absurd he (hp text)
  finished := fun _ => hj
  followed := fun _ t ht => by rw [hf] at ht; cases ht

/-- An invalidation of a registered node clears the slots of its keys, and then emits them. -/
lemma TurnsFan.invalidates {host node : String} {keys : Option (List String)} {n : Node}
    (hturns : TurnsFan ((keys.getD n.outputs.names).foldl (fun w k => w.clear host ⟨node, k⟩)
        (w.log (.invalidating (w.running.getD 0) host node (keys.getD n.outputs.names))))
      (Fan.of host node (keys.getD n.outputs.names)) w')
    (h : w.Steady) (hs : w.Silent) (hd : w.driving = []) {t : Nat} {task : Task}
    (hr : w.running = some t) (ht : w.tasks[t]? = some task)
    (hj : task.job = .invalidate host node keys) :
    w'.Poised ∧ w'.ledger =
      w.ledger.invalidate t task.duty host node (keys.getD n.outputs.names) := by
  have hlog := keeps_log h (.invalidating (w.running.getD 0) host node (keys.getD n.outputs.names))
  obtain ⟨hk, hl, htasks⟩ := keeps_clearAll hlog.steady host node (keys.getD n.outputs.names)
  have hall := hlog.trans hk
  have hb : ((w.log (.invalidating (w.running.getD 0) host node
      (keys.getD n.outputs.names))).tasks.map Task.bare)[t]? = some task.bare := by
    rw [List.getElem?_map]
    show (w.tasks[t]?).map _ = _
    rw [ht]
    rfl
  rw [← htasks, List.getElem?_map, Option.map_eq_some_iff] at hb
  obtain ⟨task₂, ht₂, hbare⟩ := hb
  obtain ⟨hname, -, -, hended₂, -⟩ := Task.eq_of_bare hbare
  have hf := hturns.fans (fans_of host node (keys.getD n.outputs.names) hall.steady
    (hall.silent hs) (hall.driving.trans hd) (hall.running.trans hr) ht₂)
  have hduty : task.duty.follows = none := by
    show task.job.follows = none
    rw [hj]
    rfl
  refine ⟨hf.1, ?_⟩
  rw [hf.2, hl, hname, hended₂, hr]
  unfold Ledger.invalidate
  rw [hduty]
  rfl

lemma Invalidates.goes {host node : String} {keys : Option (List String)}
    (hi : w.Invalidates host node keys w') (h : w.Steady) (hs : w.Silent) (hd : w.driving = [])
    (hj : w.job = .invalidate host node keys) : Goes w w' := by
  obtain ⟨t, task, hr, ht, hended, htj⟩ := running_of_job h (by rw [hj]; rintro ⟨⟩)
  rw [hj] at htj
  cases hi with
  | misses =>
    exact ⟨h.poised (f := .finish _) ⟨hs, hd, mayEnd_idleJob (by rw [hj]; exact fun _ => rfl)
      (by rw [hj]; rfl) (by rintro ⟨⟩) (by rintro _ ⟨⟩)⟩, .refl _⟩
  | @starts n v hn hturns =>
    obtain ⟨hpoised, hledger⟩ := hturns.invalidates h hs hd hr ht htj
    refine ⟨hpoised, ?_⟩
    rw [hledger]
    exact .single (Move.invalidate (b := w.ledger) t task.duty host node (keys.getD n.outputs.names)
      (by show (w.tasks.map Task.duty)[t]? = _; rw [List.getElem?_map, ht]; rfl)
      (by intro i; show task.job.errands i = none; rw [htj]; rfl)
      (by show task.job.follows = none; rw [htj]; rfl) hended
      (by
        show (w.engine host).nodes.contains node = true
        unfold Engine.node at hn
        unfold Table.contains
        cases hg : (w.engine host).nodes.get? node with
        | none => rw [hg] at hn; cases hn
        | some n' => rfl))

/-- The task of an output takes a share in the flight of its slot. -/
lemma goes_joinOutput (h : w.Steady) (hs : w.Silent) (hd : w.driving = []) {host : String}
    {slot : Slot} (hj : w.job = .output host slot none) (hc : (w.engine host).cached slot = none) :
    Goes w (((w.join host slot).1.setJob (.output host slot (some (w.join host slot).2))).aim
      (.poll (w.join host slot).2)) := by
  have hp : w.party = .output host slot none := by
    rw [party_eq, hd, hj]
    rfl
  have hjo := joins h hc
  rcases hjoin : w.join host slot with ⟨w₂, own⟩
  rw [hjoin] at hjo
  have hp₂ : w₂.party = .output host slot none := hjo.party.trans hp
  have hs₂ : w₂.Silent := by
    obtain ⟨_, _, _, rfl⟩ := hjo.rest
    exact hs
  have hsucc : (Party.output host slot (some own)).Succeeds w₂.party := by
    rw [hp₂]
    exact ⟨rfl, rfl⟩
  have h₃ := hjo.steady.setParty hsucc fun own' ho => by
    cases ho
    exact ⟨hjo.alive, hjo.serves⟩
  have hs₃ := silent_setParty hjo.steady hs₂.hushed hsucc (by rintro _ ⟨⟩)
  have hparty := (setParty_frame hjo.steady hsucc).1
  refine ⟨h₃.poised (f := .poll own) ⟨hs₃, by rw [hparty]; rfl⟩, ?_⟩
  show Moves w.ledger (w₂.setParty (.output host slot (some own))).ledger
  rw [ledger_setParty hjo.steady hsucc (by rintro _ ⟨⟩)]
  exact hjo.moves

/-- The node and the output are looked up as any computation finds them. -/
lemma resumeTask_compute {host : String} {slot : Slot} (hj : w.job = .compute host slot) :
    w.resumeTask =
      (w.setJob (.work { host, slot, target := (w.engine host).target slot })).aim .work := by
  unfold resumeTask
  rw [hj]
  dsimp only
  rw [Engine.lookUp_eq_target]

/-- The task of a computation begins the work for its slot. -/
lemma goes_startWork (h : w.Steady) (hs : w.Silent) (hd : w.driving = []) {host : String}
    {slot : Slot} (hj : w.job = .compute host slot) :
    Goes w ((w.setJob (.work { host, slot, target := (w.engine host).target slot })).aim .work) := by
  obtain ⟨t, task, hr, ht, -, hjob⟩ := running_of_job h (by rw [hj]; rintro ⟨⟩)
  rw [hj] at hjob
  have h₁ : (w.setJob (.work { host, slot, target := (w.engine host).target slot })).Steady := by
    refine h.setJob hr ht hd ⟨?_, by rintro _ _ _ ⟨⟩, by rintro _ _ _ ⟨⟩⟩ ?_
    · rintro k hk
      cases hk
      exact True.intro
    · intro own ho
      cases ho
  have hs₁ : (w.setJob (.work { host, slot, target := (w.engine host).target slot })).Silent := by
    intro u i e he
    rw [setJob_of_running hr ht] at he
    obtain ⟨task', ht', hi⟩ := Option.bind_eq_some_iff.mp he
    rcases getElem?_set_cases ht' with ⟨-, rfl⟩ | ⟨-, ht'⟩
    · cases hi
    · exact hs u i e (Option.bind_eq_some_iff.mpr ⟨task', ht', hi⟩)
  refine ⟨h₁.poised (f := .work) hs₁, ?_⟩
  rw [ledger_aim, ledger_setJob hr ht]
  · exact .refl _
  · rw [hjob]
    rfl
  · rw [hjob]
    rfl

lemma ResumesTask.goes (hres : w.ResumesTask w') (h : w.Steady) (ha : w.Aimed .resume) :
    Goes w w' := by
  obtain ⟨hs, hd⟩ := ha
  cases hres with
  | finds hj =>
    exact ⟨h.poised (f := .finish _) ⟨hs, hd, mayEnd_idleJob (by rw [hj]; exact fun _ => rfl)
      (by rw [hj]; rfl) (by rintro ⟨⟩) (by rintro _ ⟨⟩)⟩, .refl _⟩
  | joins hj hc => exact goes_joinOutput h hs hd hj hc
  | @polls host slot own hj =>
    refine ⟨h.poised (f := .poll own) ⟨hs, ?_⟩, .refl _⟩
    rw [party_eq, hd, hj]
    rfl
  | computes hj => exact goes_startWork h hs hd hj
  | works => exact ⟨h.poised (f := .work) hs, .refl _⟩
  | invalidates hj hi => exact hi.goes h hs hd hj
  | turns hj hf =>
    obtain ⟨hpoised, hledger⟩ := hf.fans (fans_of_job h hs hd hj)
    exact Settles.goes ⟨hpoised, hledger⟩
  | emits => exact ⟨h.poised (f := .emission) ⟨hs.hushed, hd⟩, .refl _⟩
  | @panics t text hj he =>
    obtain ⟨task, hm, hended⟩ := Option.bind_eq_some_iff.mp he
    exact goes_breakDown h hs.hushed _ text (fun _ => (h.tasks t task hm).panicked text hended)
      (by rintro ⟨⟩) fun _ => hs
  | @ends t how hj he hn =>
    obtain ⟨task, hm, hended⟩ := Option.bind_eq_some_iff.mp he
    have hend : w.MayEnd .ok := by
      refine ⟨by rintro ⟨⟩, by rintro _ ⟨⟩, fun _ i => by rw [hj]; rfl, fun _ t' ht' => ?_⟩
      rw [hj] at ht'
      cases ht'
      exact ⟨task, how, hm, hended, hn⟩
    exact ⟨h.poised (f := .finish .ok) ⟨hs, hd, hend⟩, .refl _⟩
  | @follows t v hj he hp =>
    have hk := fadingUnheld_modifyTask w t (fun task => { task with follower := w.running })
      fun _ _ => rfl
    have hrest := hp.settles (h.fades hk) (silent_fades hk.toFading hs) (hk.driving.trans hd)
    exact Settles.goes ⟨hrest.poised, hrest.ledger.trans (ledger_fades hk.toFading)⟩
  | nothing hj =>
    exact ⟨h.poised (f := .finish .ok)
      ⟨hs, hd, mayEnd_nothing hj (by rintro ⟨⟩) (by rintro _ ⟨⟩)⟩, .refl _⟩

/-- A task that was lent a subscription takes the delivery from what is on the shelf. -/
lemma shelves_takeDelivery (w : World) (t : Nat) (holding : Option (String × Subscription)) :
    w.Shelves (w.takeDelivery t holding).subscriptions ∧
      w.takeDelivery t holding =
        { w with subscriptions := (w.takeDelivery t holding).subscriptions } := by
  have hsame : w.Shelves w.subscriptions := fun _ s hs => .inr ⟨s, hs, rfl⟩
  unfold takeDelivery
  cases holding with
  | none => exact ⟨hsame, rfl⟩
  | some held =>
    obtain ⟨name, s⟩ := held
    dsimp only
    cases w.subscriptions.get? name with
    | none => exact ⟨hsame, rfl⟩
    | some s =>
      by_cases hb : s.borrower = some t
      · simp only [if_pos hb]
        exact ⟨shelves_insert (s.delivery.isTaken_take t), True.intro⟩
      · simp only [if_neg hb]
        exact ⟨hsame, True.intro⟩

/-- A task that goes on is taken up, and may take the delivery that it waits for. -/
lemma poll_going {t : Nat} {task : Task} (ht : w.tasks[t]? = some task) (he : task.ended = none)
    (hc : task.cancelled = false) : ∃ subscriptions, w.poll t = { w with
      running := some t, rewoken := false, deliveries := 0, subscriptions, focus := .resume } := by
  have htake := (shelves_takeDelivery
    { w with running := some t, rewoken := false, deliveries := 0 } t task.holding).2
  have hpoll : w.poll t = (World.takeDelivery
      { w with running := some t, rewoken := false, deliveries := 0 } t task.holding).aim .resume := by
    unfold poll
    simp [ht, he, hc]
  exact ⟨_, hpoll.trans (congrArg (World.aim · .resume) htake)⟩

/-- Whether a task is over, cancelled, or goes on, little changes when its turn comes. -/
lemma poll_cases (w : World) (t : Nat) : w.poll t = w ∨
    ∃ task subscriptions focus, w.tasks[t]? = some task ∧ task.ended = none ∧
      (focus = .resume ∨ focus = .finish .cancelled) ∧ w.poll t = { w with
        running := some t, rewoken := false, deliveries := 0, subscriptions, focus } := by
  cases ht : w.tasks[t]? with
  | none =>
    refine .inl ?_
    unfold poll
    rw [ht]
  | some task =>
    cases he : task.ended with
    | some how =>
      refine .inl ?_
      unfold poll
      simp [ht, he]
    | none =>
      cases hc : task.cancelled with
      | false =>
        obtain ⟨subscriptions, heq⟩ := poll_going ht he hc
        exact .inr ⟨task, _, _, rfl, he, .inl rfl, heq⟩
      | true =>
        refine .inr ⟨task, w.subscriptions, _, rfl, he, .inr rfl, ?_⟩
        unfold poll
        simp [ht, he, hc, aim]

section

variable (w) (t : Nat)

@[simp] lemma tasks_poll : (w.poll t).tasks = w.tasks := by
  rcases w.poll_cases t with heq | ⟨_, _, _, -, -, -, heq⟩ <;> rw [heq]

@[simp] lemma flights_poll : (w.poll t).flights = w.flights := by
  rcases w.poll_cases t with heq | ⟨_, _, _, -, -, -, heq⟩ <;> rw [heq]

@[simp] lemma pipelines_poll : (w.poll t).pipelines = w.pipelines := by
  rcases w.poll_cases t with heq | ⟨_, _, _, -, -, -, heq⟩ <;> rw [heq]

@[simp] lemma driving_poll : (w.poll t).driving = w.driving := by
  rcases w.poll_cases t with heq | ⟨_, _, _, -, -, -, heq⟩ <;> rw [heq]

@[simp] lemma scripts_poll : (w.poll t).scripts = w.scripts := by
  rcases w.poll_cases t with heq | ⟨_, _, _, -, -, -, heq⟩ <;> rw [heq]

@[simp] lemma journal_poll : (w.poll t).journal = w.journal := by
  rcases w.poll_cases t with heq | ⟨_, _, _, -, -, -, heq⟩ <;> rw [heq]

end

/-- A task is taken up when none runs. -/
lemma goes_poll (h : w.Poised) (hf : w.focus = .idle) (t : Nat) : Goes w (w.poll t) := by
  obtain ⟨h, ha⟩ := h
  rw [hf] at ha
  obtain ⟨hs, hd, hr⟩ := ha
  have hself : Goes w w := ⟨⟨h, by rw [hf]; exact ⟨hs, hd, hr⟩⟩, .refl _⟩
  unfold poll
  cases ht : w.tasks[t]? with
  | none => exact hself
  | some task =>
    dsimp only
    cases he : task.ended with
    | some how => exact hself
    | none =>
      have hruns : ∀ t', some t = some t' → ∃ task, w.tasks[t']? = some task ∧ task.ended = none := by
        rintro _ ⟨⟩
        exact ⟨task, ht, he⟩
      have hpolled := h.hands hd hruns false 0 w.focus
      cases hc : task.cancelled with
      | false =>
        obtain ⟨hshelf, heq⟩ := shelves_takeDelivery
          { w with running := some t, rewoken := false, deliveries := 0 } t task.holding
        have hcarries := carries_shelve hpolled hshelf
        rw [← heq] at hcarries
        refine ⟨⟨hcarries.steady.aim .resume, ?_⟩, hcarries.moves⟩
        rw [heq]
        exact ⟨hs, hd⟩
      | true =>
        refine ⟨⟨hpolled.aim _, hs, hd, fun _ t' task' hr' ht' => ?_, by rintro _ ⟨⟩, by rintro ⟨⟩,
          by rintro ⟨⟩⟩, .refl _⟩
        cases hr'
        have heq : task = task' := Option.some.inj (ht.symm.trans ht')
        rw [← heq]
        exact (h.tasks t task ht).named hc

end World

end Dataflow
