import Dataflow.Proofs.EmissionCases
import Dataflow.World.Run

/-!
# What tasks come to

The steps of a task that is taken up, put aside or ended, taken apart once as those of works, flights
and emissions are.
-/

namespace Dataflow

/-- A fan turns to another branch: its branches stay, and those that had to wait keep their places. -/
structure Fan.Turns (f g : Fan) : Prop where
  branches : g.branches = f.branches
  wide : g.wide = f.wide
  recent : ∀ i ∈ f.recent, i ∈ g.recent

lemma Fan.Turns.refl (f : Fan) : f.Turns f := ⟨rfl, rfl, fun _ hi => hi⟩

lemma Fan.Turns.trans {f g h : Fan} (hg : f.Turns g) (hh : g.Turns h) : f.Turns h :=
  ⟨hh.branches.trans hg.branches, hh.wide.trans hg.wide, fun i hi => hh.recent i (hg.recent i hi)⟩

lemma Fan.turns_aimAt (f : Fan) (i : Nat) : f.Turns (f.aimAt i) := ⟨rfl, rfl, fun _ hi => hi⟩

lemma Fan.turns_beginTurn (f : Fan) : f.Turns f.beginTurn := ⟨rfl, rfl, fun _ hi => hi⟩

/-- The branch that had to wait comes to the front, and the others keep their places behind it. -/
lemma Fan.turns_countWait (f : Fan) : f.Turns f.countWait := by
  refine ⟨rfl, rfl, fun i hi => ?_⟩
  show i ∈ f.cursor :: f.recent.erase f.cursor
  by_cases hc : i = f.cursor
  · exact List.mem_cons.mpr (.inl hc)
  · exact List.mem_cons_of_mem _ ((List.mem_erase_of_ne hc).mpr hi)

namespace World

variable {w : World}

/-- What comes of a task that is put aside. -/
inductive Pauses (w : World) : World → Prop where
  | idle (hr : w.running = none) : Pauses w (w.aim .idle)
  | ends {t : Nat} (hr : w.running = some t) (hc : (w.tasks[t]?).any Task.cancelled = true) :
      Pauses w (w.aim (.finish .cancelled))
  | returns {t : Nat} (hr : w.running = some t) (hc : (w.tasks[t]?).any Task.cancelled = false)
      (hw : w.rewoken = true) :
      Pauses w ({ w with running := none, rewoken := false, focus := .idle }.enqueue t)
  | rests {t : Nat} (hr : w.running = some t) (hc : (w.tasks[t]?).any Task.cancelled = false)
      (hw : w.rewoken = false) :
      Pauses w { w with running := none, rewoken := false, focus := .idle }

lemma pauses (w : World) : w.Pauses w.pause := by
  unfold pause
  cases hr : w.running with
  | none => exact .idle hr
  | some t =>
    cases hc : (w.tasks[t]?).any Task.cancelled with
    | true => simpa [hc] using Pauses.ends hr hc
    | false =>
      cases hw : w.rewoken with
      | true => simpa [hc, hw] using Pauses.returns hr hc hw
      | false => simpa [hc, hw] using Pauses.rests hr hc hw

/-- What comes of a party that cannot go on. -/
inductive Stalls (w : World) : World → Prop where
  | flight {ticket : Nat} {outer : List Nat} {f : Flight} (hd : w.driving = ticket :: outer)
      (hf : w.flights[ticket]? = some f) :
      Stalls w ({ w.setFlight ticket { f with status := .idle } with driving := outer }.aim .stall)
  | misses {ticket : Nat} {outer : List Nat} (hd : w.driving = ticket :: outer)
      (hf : w.flights[ticket]? = none) : Stalls w ({ w with driving := outer }.aim .stall)
  | branch {f : Fan} (hd : w.driving = []) (hj : w.job = .fan f) : Stalls w (w.aim (.next false))
  | task {v : World} (hd : w.driving = []) (hj : ∀ f, w.job ≠ .fan f) (h : Pauses w v) : Stalls w v

lemma stalls (w : World) : w.Stalls w.stall := by
  unfold stall
  cases hd : w.driving with
  | cons ticket outer =>
    cases hf : w.flights[ticket]? with
    | none => simpa [hf] using Stalls.misses hd hf
    | some f => simpa [hf] using Stalls.flight hd hf
  | nil =>
    cases hj : w.job with
    | fan f => exact .branch hd hj
    | _ => exact .task hd (by simp [hj]) w.pauses

/-- What comes of a fan: a branch of it is polled, or it is done, or the task is put aside, maybe to let
others go first. -/
inductive TurnsFan (w : World) (f : Fan) : World → Prop where
  | polls {g : Fan} {i : Nat} (hg : f.Turns g) :
      TurnsFan w f ((w.setJob (.fan (g.aimAt i))).aim .emission)
  | ends {g : Fan} (hg : f.Turns g) (hu : g.unfinished.isEmpty = true) :
      TurnsFan w f ((w.setJob (.fan g)).aim (.finish .ok))
  | waits {g : Fan} {v : World} (hg : f.Turns g) (h : Pauses (w.setJob (.fan g)) v) : TurnsFan w f v
  | yields {g : Fan} {v : World} (hg : f.Turns g)
      (h : Pauses { w.setJob (.fan g) with rewoken := true } v) : TurnsFan w f v

lemma TurnsFan.of {f g : Fan} {v : World} (hg : f.Turns g) (h : w.TurnsFan g v) :
    w.TurnsFan f v := by
  cases h with
  | polls hg' => exact .polls (hg.trans hg')
  | ends hg' hu => exact .ends (hg.trans hg') hu
  | waits hg' hp => exact .waits (hg.trans hg') hp
  | yields hg' hp => exact .yields (hg.trans hg') hp

lemma turnsFan_closeFan (w : World) (f : Fan) : w.TurnsFan f (w.closeFan f) := by
  unfold closeFan
  by_cases hu : f.unfinished.isEmpty
  · simpa [hu] using TurnsFan.ends (.refl f) hu
  · simpa [hu] using TurnsFan.waits (.refl f) (w.setJob (.fan f)).pauses

lemma turnsFan_pollFrom (w : World) (f : Fan) (i : Nat) : w.TurnsFan f (w.pollFrom f i) := by
  unfold pollFrom
  cases f.unfinished.find? (i ≤ ·) with
  | some j => exact .polls (.refl f)
  | none => exact turnsFan_closeFan w f

lemma turnsFan_pollReady (w : World) (f : Fan) : w.TurnsFan f (w.pollReady f) := by
  have hready : ∀ ready, f.Turns { f with ready } := fun _ => ⟨rfl, rfl, fun _ hi => hi⟩
  unfold pollReady
  cases f.ready.dropWhile fun i => !f.unfinished.contains i with
  | cons i rest => exact .polls (hready rest)
  | nil => exact .of (hready []) (turnsFan_closeFan w _)

lemma turnsFan_startFan (w : World) (f : Fan) : w.TurnsFan f (w.startFan f) := by
  unfold startFan
  cases f.wide with
  | true => exact .of f.turns_beginTurn (turnsFan_pollReady w _)
  | false => exact turnsFan_pollFrom w f 0

/-- What comes of a branch that is over or has to wait. -/
inductive TurnsToNext (w : World) : World → Prop where
  | fan {f : Fan} {v : World} (hj : w.job = .fan f) (h : TurnsFan w f v) : TurnsToNext w v
  | pauses {v : World} (hj : ∀ f, w.job ≠ .fan f) (h : Pauses w v) : TurnsToNext w v

lemma turnsToNext (w : World) (finished : Bool) : w.TurnsToNext (w.nextBranch finished) := by
  unfold nextBranch
  cases hj : w.job with
  | fan f =>
    refine .fan hj ?_
    cases hw : f.wide with
    | false => simpa [hw] using turnsFan_pollFrom w f (f.cursor + 1)
    | true =>
      cases finished with
      | true => simpa [hw] using .of f.turns_beginTurn (turnsFan_pollReady w _)
      | false =>
        by_cases hy : f.countWait.yields
        · simpa [hw, hy] using TurnsFan.yields f.turns_countWait (pauses _)
        · simpa [hw, hy] using .of f.turns_countWait (turnsFan_pollReady w f.countWait)
  | _ => exact .pauses (by simp [hj]) w.pauses

/-- What comes of an invalidation. The slots that it names are cleared before the first is emitted. -/
inductive Invalidates (w : World) (host node : String) (keys : Option (List String)) :
    World → Prop where
  | misses {f : Failure} (hn : (w.engine host).node node = .error f) :
      Invalidates w host node keys (w.aim (.finish (.failed f)))
  | starts {n : Node} {v : World} (hn : (w.engine host).node node = .ok n)
      (h : TurnsFan ((keys.getD n.outputs.names).foldl (fun w k => w.clear host ⟨node, k⟩)
          (w.log (.invalidating (w.running.getD 0) host node (keys.getD n.outputs.names))))
        (Fan.of host node (keys.getD n.outputs.names)) v) :
      Invalidates w host node keys v

lemma invalidates (w : World) (host node : String) (keys : Option (List String)) :
    w.Invalidates host node keys (w.startInvalidation host node keys) := by
  unfold startInvalidation
  cases hn : (w.engine host).node node with
  | error f => exact .misses hn
  | ok n => exact .starts hn (turnsFan_startFan _ _)

/-- What comes of a task that is taken up. -/
inductive ResumesTask (w : World) : World → Prop where
  | finds {host : String} {slot : Slot} {r : Result} (hj : w.job = .output host slot none)
      (hc : (w.engine host).cached slot = some r) : ResumesTask w (w.aim (.finish (.result r)))
  | joins {host : String} {slot : Slot} (hj : w.job = .output host slot none)
      (hc : (w.engine host).cached slot = none) :
      ResumesTask w (((w.join host slot).1.setJob (.output host slot (some (w.join host slot).2))).aim
        (.poll (w.join host slot).2))
  | polls {host : String} {slot : Slot} {own : Handle} (hj : w.job = .output host slot (some own)) :
      ResumesTask w (w.aim (.poll own))
  | computes {host : String} {slot : Slot} (hj : w.job = .compute host slot) :
      ResumesTask w
        ((w.setJob (.work { host, slot, target := (w.engine host).target slot })).aim .work)
  | works {k : Work} (hj : w.job = .work k) : ResumesTask w (w.aim .work)
  | invalidates {host node : String} {keys : Option (List String)} {v : World}
      (hj : w.job = .invalidate host node keys) (h : Invalidates w host node keys v) :
      ResumesTask w v
  | turns {f : Fan} {v : World} (hj : w.job = .fan f) (h : TurnsFan w f v) : ResumesTask w v
  | emits {e : Emission} (hj : w.job = .emit e) : ResumesTask w (w.aim .emission)
  | panics {t : Nat} {text : String} (hj : w.job = .follow t)
      (he : (w.tasks[t]?).bind Task.ended = some (.panicked text)) :
      ResumesTask w (w.breakDown .former text)
  | ends {t : Nat} {how : End} (hj : w.job = .follow t)
      (he : (w.tasks[t]?).bind Task.ended = some how) (hn : ∀ text, how ≠ .panicked text) :
      ResumesTask w (w.aim (.finish .ok))
  | follows {t : Nat} {v : World} (hj : w.job = .follow t)
      (he : (w.tasks[t]?).bind Task.ended = none)
      (h : Pauses (w.modifyTask t fun task => { task with follower := w.running }) v) :
      ResumesTask w v
  | nothing (hj : w.job = .nothing) : ResumesTask w (w.aim (.finish .ok))

lemma resumesTask (w : World) : w.ResumesTask w.resumeTask := by
  unfold resumeTask
  cases hj : w.job with
  | output host slot own =>
    cases own with
    | some own => exact .polls hj
    | none =>
      cases hc : (w.engine host).cached slot with
      | some r => simpa [hc] using ResumesTask.finds hj hc
      | none => simpa [hc] using ResumesTask.joins hj hc
  | compute host slot =>
    dsimp only
    rw [Engine.lookUp_eq_target]
    exact .computes hj
  | work k => exact .works hj
  | invalidate host node keys => exact .invalidates hj (invalidates w host node keys)
  | fan f => exact .turns hj (turnsFan_startFan w f)
  | emit e => exact .emits hj
  | follow t =>
    cases he : (w.tasks[t]?).bind Task.ended with
    | none => simpa [he] using ResumesTask.follows hj he (pauses _)
    | some how =>
      cases how with
      | panicked text => simpa [he] using ResumesTask.panics hj he
      | _ => simpa [he] using ResumesTask.ends hj he (by rintro _ ⟨⟩)
  | nothing => exact .nothing hj

/-- What comes of a branch that is given up. -/
inductive DropsBranch (w : World) (i : Nat) : World → Prop where
  | branch {f : Fan} {e : Emission} (hj : w.job = .fan f) (hb : f.branch? i = some e) :
      DropsBranch w i ((w.setJob (.fan ((f.aimAt i).setCurrent none))).dropEmission e)
  | nothing (hb : ∀ f, w.job = .fan f → f.branch? i = none) : DropsBranch w i w

lemma dropsBranch (w : World) (i : Nat) : w.DropsBranch i (w.dropBranch i) := by
  unfold dropBranch
  cases hj : w.job with
  | fan f =>
    cases hb : f.branch? i with
    | some e => simpa [hb] using DropsBranch.branch hj hb
    | none => simpa [hb] using DropsBranch.nothing (w := w) (i := i) (by simp [hj, hb])
  | _ => exact .nothing (by simp [hj])

/-- What comes of a task that gives up what it holds. -/
inductive DropsJob (w : World) : World → Prop where
  | output {host : String} {slot : Slot} {own : Handle} (hj : w.job = .output host slot (some own)) :
      DropsJob w ((w.setJob .nothing).release [] own)
  | work {k : Work} {own : Handle} (hj : w.job = .work k) (hs : k.share? = some own) :
      DropsJob w ((w.setJob .nothing).release [] own)
  | emission {e : Emission} (hj : w.job = .emit e) :
      DropsJob w ((w.setJob .nothing).dropEmission e)
  | branches {f : Fan} (hj : w.job = .fan f) : DropsJob w (f.leaving.foldl dropBranch w)
  | nothing : DropsJob w w

lemma dropsJob (w : World) : w.DropsJob w.dropJob := by
  unfold dropJob
  cases hj : w.job with
  | output host slot own =>
    cases own with
    | some own => exact .output hj
    | none => exact .nothing
  | work k =>
    cases hs : k.share? with
    | some own => simpa [hs] using DropsJob.work hj hs
    | none => simpa [hs] using DropsJob.nothing
  | emit e => exact .emission hj
  | fan f => exact .branches hj
  | _ => exact .nothing

/-- What a panic leaves of the innermost party. -/
inductive ForgetsParty (w : World) : World → Prop where
  | work {k : Work} (hp : w.party = .work k) : ForgetsParty w (w.setWork { k with stage := .away })
  | emission {e : Emission} (hp : w.party = .emission e) :
      ForgetsParty w ((w.setJob w.job.clear).dropEmission e.recalled)
  | output {host : String} {slot : Slot} {own : Option Handle} (hp : w.party = .output host slot own) :
      ForgetsParty w (w.setJob (.output host slot none))
  | nobody (hp : w.party = .nobody) : ForgetsParty w w

lemma forgetsParty (w : World) : w.ForgetsParty w.forget := by
  unfold forget
  cases hp : w.party with
  | work k => exact .work hp
  | emission e =>
    have he := ForgetsParty.emission hp
    cases hj : w.job <;> rw [hj] at he <;> exact he
  | output host slot own => exact .output hp
  | nobody => exact .nobody hp

/-- What comes of a panic. -/
inductive Unwinds (w : World) (text : String) : World → Prop where
  | breaks {ticket : Nat} {outer : List Nat} {f : Flight} (hd : w.forget.driving = ticket :: outer)
      (hf : w.forget.flights[ticket]? = some f) :
      Unwinds w text { w.forget.setFlight ticket { f with status := .broken } with driving := outer }
  | misses {ticket : Nat} {outer : List Nat} (hd : w.forget.driving = ticket :: outer)
      (hf : w.forget.flights[ticket]? = none) : Unwinds w text { w.forget with driving := outer }
  | ends (hd : w.forget.driving = []) :
      Unwinds w text (w.forget.aim (.finish (.panicked text)))

lemma unwinds (w : World) (text : String) : w.Unwinds text (w.unwind text) := by
  unfold unwind
  cases hd : w.forget.driving with
  | nil => simpa [hd] using Unwinds.ends hd
  | cons ticket outer =>
    cases hf : w.forget.flights[ticket]? with
    | some f => simpa [hd, hf] using Unwinds.breaks hd hf
    | none => simpa [hd, hf] using Unwinds.misses hd hf

/-- The task has given up what it held, and is over. -/
def closeTask (w : World) (t : Nat) (how : End) : World :=
  w.dropJob.modifyTask t fun task => { task with job := .nothing, ended := some how, holding := none }

/-- Besides, closing a task changes tasks alone. -/
lemma closeTask_eq (w : World) (t : Nat) (how : End) :
    ∃ tasks, w.closeTask t how = { w.dropJob with tasks } := by
  unfold closeTask
  rcases w.dropJob.modifyTask_cases t
    (fun task => { task with job := .nothing, ended := some how, holding := none }) with
    ⟨task, -, heq⟩ | heq
  · exact ⟨_, heq⟩
  · exact ⟨_, heq⟩

/-- The task is over, and no task runs. -/
def leaveTask (w : World) (t : Nat) (task : Task) (how : End) : World :=
  { ((w.closeTask t how).log (.ended t task.name how)).putBack task.holding how with
    running := none
    rewoken := false
    focus := .idle }

/-- What a task waited for goes back on the shelf. -/
lemma putBack_cases (w : World) (holding : Option (String × Subscription)) (how : End) :
    w.putBack holding how = w ∨ ∃ name s, holding = some (name, s) ∧
      w.putBack holding how = { w with subscriptions := w.subscriptions.insert name s } := by
  rcases holding with _ | ⟨name, s⟩
  · exact .inl (by cases how <;> rfl)
  by_cases hc : w.subscriptions.contains name
  · exact .inl (by cases how <;> simp [putBack, hc])
  cases how with
  | cancelled => exact .inl rfl
  | _ => exact .inr ⟨name, s, rfl, by simp [putBack, hc]⟩

/-- Whoever leaves changes nothing but the shelf of what the task waited for. -/
lemma leaveTask_eq (w : World) (t : Nat) (task : Task) (how : End) : ∃ subscriptions,
    w.leaveTask t task how = { (w.closeTask t how).log (.ended t task.name how) with
      subscriptions, running := none, rewoken := false, focus := .idle } := by
  unfold leaveTask
  rcases putBack_cases ((w.closeTask t how).log (.ended t task.name how)) task.holding how with
    heq | ⟨name, s, -, heq⟩
  · exact ⟨_, by rw [heq]⟩
  · exact ⟨_, by rw [heq]⟩

/-- Ending a task logs nothing until what it held is given up. -/
lemma journal_closeTask (w : World) (t : Nat) (how : End) :
    (w.closeTask t how).journal = w.dropJob.journal := by
  obtain ⟨tasks, heq⟩ := w.closeTask_eq t how
  rw [heq]

lemma journal_leaveTask (w : World) (t : Nat) (task : Task) (how : End) :
    (w.leaveTask t task how).journal = .ended t task.name how :: w.dropJob.journal := by
  obtain ⟨subscriptions, heq⟩ := w.leaveTask_eq t task how
  rw [heq, ← journal_closeTask w t how]
  rfl

/-- What comes of a task that ends. -/
inductive EndsTask (w : World) (how : End) : World → Prop where
  | idle (hr : w.running = none) : EndsTask w how (w.aim .idle)
  | misses {t : Nat} (hr : w.running = some t) (ht : w.tasks[t]? = none) :
      EndsTask w how { w with running := none, focus := .idle }
  | leaves {t : Nat} {task : Task} (hr : w.running = some t) (ht : w.tasks[t]? = some task)
      (hf : task.follower = none) : EndsTask w how (w.leaveTask t task how)
  | calls {t follower : Nat} {task : Task} (hr : w.running = some t) (ht : w.tasks[t]? = some task)
      (hf : task.follower = some follower) :
      EndsTask w how ((w.leaveTask t task how).enqueue follower)

lemma endsTask (w : World) (how : End) : w.EndsTask how (w.endTask how) := by
  unfold endTask
  cases hr : w.running with
  | none => exact .idle hr
  | some t =>
    cases ht : w.tasks[t]? with
    | none => simpa [ht] using EndsTask.misses hr ht
    | some task =>
      simp only [ht]
      cases hf : task.follower with
      | none => exact .leaves hr ht hf
      | some follower => exact .calls hr ht hf

end World

end Dataflow
