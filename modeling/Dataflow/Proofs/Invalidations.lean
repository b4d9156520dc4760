import Dataflow.Proofs.BrokenFlights
import Dataflow.Proofs.FanCompletion
import Dataflow.Proofs.LeadingActions

/-!
# What an invalidation touches

The invalidation of a node that is not registered does nothing but fail. That of a registered one clears
the slots that it names, each once or more often, and no other, and then emits them. Where all other
tasks are over, the node is asked once for every declared output that is named, and every named slot is
cached anew in the end.
-/

namespace Dataflow

/-- The outputs that an invalidation of the node names. -/
def Node.named (n : Node) (keys : Option (List String)) : List String := keys.getD n.outputs.names

/-- Clearing leaves the gates as they are. -/
@[simp] lemma Engine.lineAt_clearAll (e : Engine) (node : String) (keys : List String) (s : Slot) :
    (e.clearAll node keys).lineAt s = e.lineAt s := by
  unfold Engine.clearAll
  induction keys generalizing e with
  | nil => rfl
  | cons k keys ih => exact ih (e.clear ⟨node, k⟩)

namespace World

variable {sc : Scene} {t : Nat} {f : Fan} {u v w : World} {host node name : String}
  {keys : Option (List String)} {outputs : List String} {n : Node}

/-- The task is left alone while others are woken or flights are lost. -/
lemma Lone.fading (h : w.Lone t) (hq : w.Queued) (hf : Fading w v) : v.Lone t := by
  have hothers : ∀ i task, i ≠ t → v.tasks[i]? = some task → task.ended.isSome = true := by
    intro i task' hi ht'
    obtain ⟨task, ht, hbare⟩ := hf.task ht'
    obtain ⟨-, -, -, hended, -⟩ := Task.eq_of_bare hbare
    rw [← hended]
    exact h.others i task hi ht
  have hrunning := hf.running.trans h.running
  refine ⟨hrunning, ?_, hothers, (hf.queue hq).queue_eq_nil fun i task hi ht => ?_⟩
  · obtain ⟨task, ht, he, hc⟩ := h.own
    have hsome : (v.tasks.map Task.bare)[t]? = some task.bare := by
      rw [hf.tasks, List.getElem?_map, ht]
      rfl
    rw [List.getElem?_map, Option.map_eq_some_iff] at hsome
    obtain ⟨task', ht', hbare⟩ := hsome
    obtain ⟨-, -, hcancelled, hended, -⟩ := Task.eq_of_bare hbare
    exact ⟨task', ht', hended.trans he, hcancelled.trans hc⟩
  · exact hothers i task (fun heq => hi (heq ▸ hrunning)) ht

/-- What clearing changes besides the engine. -/
lemma Lone.clears (h : w.Lone t) (hq : w.Queued) (host node : String) (outputs : List String) :
    ∃ tasks flights queue rewoken pipelines,
      outputs.foldl (fun w k => w.clear host ⟨node, k⟩) w =
        { w with tasks, flights, queue, rewoken, pipelines } ∧
      (outputs.foldl (fun w k => w.clear host ⟨node, k⟩) w).Lone t := by
  induction outputs generalizing w with
  | nil => exact ⟨_, _, _, _, _, rfl, h⟩
  | cons k outputs ih =>
    let v := w.setEngine host ((w.engine host).clear ⟨node, k⟩)
    have hset : v.Lone t := ⟨h.running, h.own, h.others, h.queue⟩
    have hqueued : v.Queued := hq.same rfl rfl rfl
    have hfading : Fading v (w.clear host ⟨node, k⟩) := (fadingUnheld_releaseAll _ v).toFading
    obtain ⟨tasks, flights, queue, rewoken, pipelines, heq, hlone⟩ :=
      ih (hset.fading hqueued hfading) (hfading.queue hqueued)
    refine ⟨tasks, flights, queue, rewoken, pipelines, ?_, hlone⟩
    obtain ⟨_, _, _, _, hclear⟩ := hfading.rest
    rw [List.foldl_cons, heq, hclear]
    rfl

/-- The task looks its node up at once. -/
lemma Ready.step_startInvalidation (h : w.Ready t (.invalidate host node keys)) :
    (w.takeUp t).step = (w.takeUp t).startInvalidation host node keys := by
  rw [h.step_eq]
  unfold resumeTask
  rw [h.job]

lemma node_takeUp (t : Nat) (hn : (w.engine host).nodes.get? node = some n) :
    ((w.takeUp t).engine host).node node = .ok n := by
  rw [engine_takeUp]
  unfold Engine.node
  rw [hn]

/-- A node that is not registered. -/
lemma Ready.fails (h : w.Ready t (.invalidate host node keys))
    (hn : (w.engine host).nodes.get? node = none) :
    (w.takeUp t).step = (w.takeUp t).aim (.finish (.failed (.nodeNotFound node))) := by
  rw [h.step_startInvalidation]
  unfold startInvalidation Engine.node
  rw [engine_takeUp, hn]

lemma Ready.step_invalidate (h : w.Ready t (.invalidate host node keys))
    (hn : (w.engine host).nodes.get? node = some n) :
    (w.takeUp t).step = ((n.named keys).foldl (fun w k => w.clear host ⟨node, k⟩)
      ((w.takeUp t).log (.invalidating t host node (n.named keys)))).startFan
        (Fan.of host node (n.named keys)) := by
  rw [h.step_startInvalidation]
  unfold startInvalidation
  rw [node_takeUp t hn]
  dsimp only
  rw [h.running]
  rfl

lemma Ready.ledger_step (h : w.Ready t (.invalidate host node keys)) (hs : w.Sane)
    (hn : (w.engine host).nodes.get? node = some n) : ∃ d,
      (w.takeUp t).step.ledger = (w.takeUp t).ledger.invalidate t d host node (n.named keys) := by
  obtain ⟨task, ht, hj, -, -⟩ := h.waits
  have hsane : (w.takeUp t).Sane := ((reachable_takeUp h.idle t).goes hs).1
  have haimed := hsane.poised.aimed
  rw [h.focus] at haimed
  have htask : (w.takeUp t).tasks[t]? = some task := by
    rw [tasks_takeUp]
    exact ht
  rw [h.step_startInvalidation]
  have hnode := node_takeUp t hn
  have hinvalidates := invalidates (w.takeUp t) host node keys
  generalize (w.takeUp t).startInvalidation host node keys = u at hinvalidates ⊢
  cases hinvalidates with
  | misses hn' => cases hnode.symm.trans hn'
  | starts hn' hturns =>
    cases hnode.symm.trans hn'
    exact ⟨_, (hturns.invalidates hsane.poised.steady haimed.1 haimed.2 h.running htask hj).2⟩

/-- The slots of these outputs are cleared, and that is all. -/
structure Clears (host node : String) (outputs : List String) (w v : World) : Prop where
  policy : v.policy = w.policy
  number : v.nextResult = w.nextResult
  nodes : ∀ i, (v.engine i).nodes = (w.engine i).nodes
  subscriptions : ∀ i, (v.engine i).subscriptions = (w.engine i).subscriptions
  delivered : ∀ i, (v.engine i).delivered = (w.engine i).delivered
  cached : ∀ i s, (v.engine i).cached s =
    if i = host ∧ s.node = node ∧ s.output ∈ outputs then none else (w.engine i).cached s
  flying : ∀ i s, (v.engine i).flying s =
    if i = host ∧ s.node = node ∧ s.output ∈ outputs then none else (w.engine i).flying s

lemma clears_of_ledger {ticket : Nat} {d : Duty}
    (h : v.ledger = w.ledger.invalidate ticket d host node outputs) : Clears host node outputs w v := by
  have hengine : ∀ i, v.engine i =
      if host = i then (w.engine host).clearAll node outputs else w.engine i := fun i =>
    congrArg (fun b : Ledger => b.engine i) h
  obtain ⟨hnodes, -, hsubs, hdelivered⟩ := (w.engine host).clearAll_frame node outputs
  refine ⟨congrArg Ledger.policy h, congrArg Ledger.results h, fun i => ?_, fun i => ?_, fun i => ?_,
    fun i s => ?_, fun i s => ?_⟩ <;>
    rw [hengine] <;> by_cases hi : host = i
  · rw [if_pos hi, hnodes, hi]
  · rw [if_neg hi]
  · rw [if_pos hi, hsubs, hi]
  · rw [if_neg hi]
  · rw [if_pos hi, hdelivered, hi]
  · rw [if_neg hi]
  · rw [if_pos hi, Engine.cached_clearAll, hi]
    simp [eq_comm]
  · rw [if_neg hi, if_neg fun hh => hi hh.1.symm]
  · rw [if_pos hi, Engine.flying_clearAll, hi]
    simp [eq_comm]
  · rw [if_neg hi, if_neg fun hh => hi hh.1.symm]

lemma Clears.congr (h : Clears host node outputs w v) (hp : w.policy = u.policy)
    (hr : w.nextResult = u.nextResult) (he : ∀ i, w.engine i = u.engine i) :
    Clears host node outputs u v where
  policy := h.policy.trans hp
  number := h.number.trans hr
  nodes := fun i => he i ▸ h.nodes i
  subscriptions := fun i => he i ▸ h.subscriptions i
  delivered := fun i => he i ▸ h.delivered i
  cached := fun i => he i ▸ h.cached i
  flying := fun i => he i ▸ h.flying i

/-- The task of a registered node clears the slots, and nobody is asked or called. -/
lemma Ready.clears (h : w.Ready t (.invalidate host node keys)) (hs : w.Sane)
    (hn : (w.engine host).nodes.get? node = some n) :
    Clears host node (n.named keys) w (w.takeUp t).step ∧
      (w.takeUp t).step.journal = .invalidating t host node (n.named keys) :: w.journal := by
  obtain ⟨d, hledger⟩ := h.ledger_step hs hn
  obtain ⟨_, htaken⟩ := h.takeUp_eq
  refine ⟨(clears_of_ledger hledger).congr ?_ ?_ fun i => ?_, ?_⟩
  · rw [htaken]
    rfl
  · rw [htaken]
  · exact congrFun (engine_takeUp w t) i
  · refine (congrArg Ledger.journal hledger).trans ?_
    show _ :: (w.takeUp t).journal = _
    rw [journal_takeUp]

lemma leaveTask_of_dropJob {task : Task} (ht : w.tasks[t]? = some task) (hd : w.dropJob = w)
    (how : End) : ∃ subscriptions, w.leaveTask t task how = { w with
      tasks := w.tasks.set t { task with job := .nothing, ended := some how, holding := none }
      journal := .ended t task.name how :: w.journal
      running := none, rewoken := false, focus := .idle, subscriptions } := by
  have hclose : w.closeTask t how = { w with
      tasks := w.tasks.set t { task with job := .nothing, ended := some how, holding := none } } := by
    unfold closeTask modifyTask
    rw [hd, ht]
  obtain ⟨subscriptions, heq⟩ := w.leaveTask_eq t task how
  rw [hclose] at heq
  exact ⟨subscriptions, heq⟩

/-- A task that holds nothing is over, and nothing else happens. -/
lemma EndsTask.of_dropJob {how : End} (he : w.EndsTask how v) {task : Task} (hr : w.running = some t)
    (ht : w.tasks[t]? = some task) (hd : w.dropJob = w) :
    ∃ queue rewoken subscriptions, v = { w with
      tasks := w.tasks.set t { task with job := .nothing, ended := some how, holding := none }
      journal := .ended t task.name how :: w.journal
      running := none, focus := .idle, queue, rewoken, subscriptions } := by
  obtain ⟨subscriptions, hleave⟩ := leaveTask_of_dropJob ht hd how
  cases he with
  | idle hr' => cases hr.symm.trans hr'
  | misses hr' ht' =>
    cases hr.symm.trans hr'
    cases ht.symm.trans ht'
  | leaves hr' ht' =>
    cases hr.symm.trans hr'
    cases ht.symm.trans ht'
    exact ⟨_, _, subscriptions, hleave⟩
  | @calls _ follower _ hr' ht' =>
    cases hr.symm.trans hr'
    cases ht.symm.trans ht'
    obtain ⟨queue, rewoken, henqueue⟩ := enqueue_eq (w.leaveTask t task how) follower
    exact ⟨queue, rewoken, subscriptions, by rw [henqueue, hleave]⟩

/-- The task of a node that is not registered. -/
lemma Ready.ends (h : w.Ready t (.invalidate host node keys))
    (hn : (w.engine host).nodes.get? node = none) : ∃ name,
      (w.takeUp t).step.step.focus = .idle ∧
      (w.takeUp t).step.step.journal = .ended t name (.failed (.nodeNotFound node)) :: w.journal ∧
      (w.takeUp t).step.step.pipelines = w.pipelines ∧
      (w.takeUp t).step.step.flights = w.flights ∧
      (w.takeUp t).step.step.subscribers = w.subscribers ∧
      (w.takeUp t).step.step.nextResult = w.nextResult := by
  obtain ⟨task, ht, -, -, -⟩ := h.waits
  have hjob : ((w.takeUp t).aim (.finish (.failed (.nodeNotFound node)))).job =
      .invalidate host node keys := h.job
  have hdrop : ((w.takeUp t).aim (.finish (.failed (.nodeNotFound node)))).dropJob =
      (w.takeUp t).aim (.finish (.failed (.nodeNotFound node))) := by
    unfold dropJob
    rw [hjob]
  have htask : ((w.takeUp t).aim (.finish (.failed (.nodeNotFound node)))).tasks[t]? = some task :=
    (congrArg (·[t]?) (tasks_takeUp w t)).trans ht
  obtain ⟨queue, rewoken, subscriptions, heq⟩ :=
    (((w.takeUp t).aim (.finish (.failed (.nodeNotFound node)))).endsTask
      (.failed (.nodeNotFound node))).of_dropJob h.running htask hdrop
  have hstep : (w.takeUp t).step.step = ((w.takeUp t).aim
      (.finish (.failed (.nodeNotFound node)))).endTask (.failed (.nodeNotFound node)) := by
    rw [h.fails hn]
    rfl
  obtain ⟨_, htaken⟩ := h.takeUp_eq
  rw [hstep, heq, htaken]
  exact ⟨task.name, rfl, rfl, rfl, rfl, rfl, rfl⟩

/-- A fan of which no branch is left has nothing to give up. -/
lemma DropsJob.eq_of_fan (hd : w.DropsJob v) {f : Fan} (hj : w.job = .fan f)
    (hdone : ∀ i, f.branch? i = none) : v = w := by
  have hnone : ∀ i, w.job.emission? i = none := fun i => by
    rw [hj]
    exact hdone i
  cases hd with
  | output hj' | work hj' | emission hj' => cases hj.symm.trans hj'
  | branches => exact foldl_dropBranch_of_none hnone _
  | nothing => rfl

/-- The task ends when its fan has come to its end. -/
lemma Closes.ends (h : Closes w t f) (hr : Reachable sc.opening w) : ∃ name,
    RunsTo w w.step ∧ w.step.settled = true ∧ (w.step.tasks[t]?).bind Task.ended = some .ok ∧
      w.step.journal = .ended t name .ok :: w.journal ∧ w.step.pipelines = w.pipelines := by
  obtain ⟨task, ht, -, -, -⟩ := h.alone.own
  have hdrop : w.dropJob = w := w.dropsJob.eq_of_fan h.alone.job h.done
  obtain ⟨queue, rewoken, subscriptions, heq⟩ := (w.endsTask .ok).of_dropJob h.alone.running ht hdrop
  have hstep : w.step = w.endTask .ok := by
    unfold World.step
    rw [h.focus]
  have hlt := (List.getElem?_eq_some_iff.mp ht).1
  have hqueue : w.step.queue = [] := by
    refine queue_eq_nil (.step hr) fun other hm => ?_
    rw [hstep, heq] at hm
    obtain ⟨i, hi⟩ := List.mem_iff_getElem?.mp hm
    by_cases hit : t = i
    · subst hit
      rw [List.getElem?_set_self hlt] at hi
      cases hi
      rfl
    · rw [List.getElem?_set_ne hit] at hi
      exact h.alone.others i other (Ne.symm hit) hi
  refine ⟨task.name, runsTo_step (by rw [h.focus]; rintro ⟨⟩), ?_, ?_, ?_, ?_⟩
  · have hfocus : w.step.focus = .idle := by rw [hstep, heq]
    unfold settled
    rw [hfocus, hqueue]
    rfl
  · rw [hstep, heq]
    dsimp only
    rw [List.getElem?_set_self hlt]
    rfl
  · rw [hstep, heq]
  · rw [hstep, heq]

/-- The fan of an invalidation starts with its first branch. -/
lemma Lone.starts (h : w.Lone t) (host node : String) (outputs : List String) (hd : w.driving = [])
    (hc : w.deliveries = 0) (hl : ∀ s, (w.engine host).lineAt s = []) : ∃ f,
      Idles w (w.startFan (Fan.of host node outputs)) ∧ f.Partway host node outputs 0 ∧
      (Closes (w.startFan (Fan.of host node outputs)) t f ∨
        OnBranch (w.startFan (Fan.of host node outputs)) t f host node outputs 0) := by
  let f := Fan.of host node outputs
  have hpart : f.Partway host node outputs 0 := Fan.partway_of host node outputs
  have horder : ∀ g : Fan, g.branches = f.branches → g.wide = f.wide → w.QueuesInOrder t g host none := by
    intro g hb hw
    have hpart' := hpart.of_branches hb hw
    refine ⟨fun i e hi => ?_, fun s p hp => ?_, fun i e pass clears _ hi hready => ?_,
      fun _ s p rest hp => ?_⟩
    · obtain ⟨k, -, hh, -⟩ := hpart'.slot hi
      exact hh
    · rw [hl] at hp
      cases hp
    · obtain ⟨k, hk, -⟩ := hpart'.slot hi
      rw [hpart'.fresh i k (Nat.zero_le i) hk] at hi
      cases hi
      cases hready
    · rw [hl] at hp
      cases hp
  unfold startFan
  cases hw : f.wide with
  | true =>
    rw [if_pos rfl]
    have hlists : f.beginTurn.Lists 0 := fun _ => ⟨[], by
      show List.range outputs.length = List.range' 0 (f.branches.length - 0) ++ []
      rw [List.append_nil, hpart.length, List.range_eq_range']
      rfl⟩
    obtain ⟨g, hidles, hb, hw', hends⟩ := h.pollsReady hd (g := f.beginTurn) hw
      (hpart.of_branches rfl rfl) hlists (horder _ rfl rfl)
    exact ⟨g, hidles, hpart.of_branches hb hw', hends.imp_right And.left⟩
  | false =>
    rw [if_neg Bool.false_ne_true]
    obtain ⟨g, hidles, hb, hw', hends⟩ := h.pollsFrom hd (g := f) hw hpart (horder _ rfl rfl)
      (Nat.le_of_eq hc) fun i hi => absurd hi (Nat.not_lt_zero i)
    exact ⟨g, hidles, hpart.of_branches hb hw', hends⟩

/-- The task has been put on the queue, and nothing else has happened. -/
structure StartsTask (w : World) (j : Job) (v : World) : Prop where
  focus : v.focus = w.focus
  scripts : v.scripts = w.scripts
  policy : v.policy = w.policy
  engine : ∀ i, v.engine i = w.engine i
  number : v.nextResult = w.nextResult
  queue : v.queue = w.queue ++ [w.tasks.length]
  tasks : ∃ task : Task, v.tasks = w.tasks ++ [task] ∧ task.job = j ∧ task.ended = none ∧
    task.cancelled = false
  asked : v.productions = w.productions
  calls : ∀ c, v.callsTo c = w.callsTo c

/-- Where every task is over, an invalidation starts whatever its name is. -/
lemma startsTask_invalidate (hover : ∀ task ∈ w.tasks, task.ended.isSome = true)
    (host name node : String) (keys : Option (List String)) : ∃ v,
      w.perform (.invalidate host name node keys) = (v, .reply .nothing) ∧
      StartsTask w (.invalidate host node keys) v := by
  let task : Task := { name := some name, job := .invalidate host node keys }
  have hfresh : (w.use host).taskNamed? name = none := by
    unfold taskNamed?
    rw [tasks_use, List.findIdx?_eq_none_iff]
    intro task hm
    rw [← Option.not_isSome, hover task hm]
    simp
  have hperform : w.perform (.invalidate host name node keys) =
      (((w.use host).spawn task).1, .reply .nothing) := by
    show (w.use host).start name _ = _
    unfold start
    rw [hfresh]
    rfl
  refine ⟨_, hperform, ?_⟩
  rcases use_cases w host with hu | hu <;> rw [hu]
  · refine ⟨rfl, rfl, rfl, fun i => rfl, rfl, rfl, ⟨task, rfl, rfl, rfl, rfl⟩, ?_, fun c => ?_⟩
    · exact (productions_log _ _).trans (List.append_nil _)
    · exact callsTo_log _ _ c
  · refine ⟨rfl, rfl, ?_, fun i => (pipeline_built w host i).1, rfl, rfl,
      ⟨task, rfl, rfl, rfl, rfl⟩, ?_, fun c => ?_⟩
    · funext i
      exact congrArg Setup.policy (pipeline_built w host i).2
    · exact ((productions_log _ _).trans (List.append_nil _)).trans
        ((productions_log _ _).trans (List.append_nil _))
    · exact (callsTo_log _ (.started w.tasks.length task) c).trans (callsTo_log w (.built host) c)

namespace StartsTask

variable {j : Job}

lemma ready (h : StartsTask w j v) (hf : w.focus = .idle) : v.Ready w.tasks.length j := by
  obtain ⟨task, ht, hj, he, hc⟩ := h.tasks
  exact ⟨h.focus.trans hf, task, by rw [ht, List.getElem?_concat_length], hj, he, hc⟩

/-- The run goes on with the task. -/
lemma takesUp (h : StartsTask w j v) (hf : w.focus = .idle) (hq : w.queue = []) :
    RunsTo v (v.takeUp w.tasks.length) := by
  have hfocus : v.focus = .idle := h.focus.trans hf
  have hqueue : v.queue = [w.tasks.length] := by rw [h.queue, hq, List.nil_append]
  have hadvance : v.advance = v.takeUp w.tasks.length := by
    unfold advance takeUp
    rw [hfocus, hqueue, List.erase_cons_head]
  rw [← hadvance]
  refine runsTo_advance ?_
  unfold settled
  rw [hfocus, hqueue]
  rfl

/-- It is left alone when it is taken up. -/
lemma lone (h : StartsTask w j v) (hf : w.focus = .idle) (hq : w.queue = [])
    (hover : ∀ task ∈ w.tasks, task.ended.isSome = true) :
    (v.takeUp w.tasks.length).Lone w.tasks.length := by
  obtain ⟨task, ht, -, he, hc⟩ := h.tasks
  obtain ⟨_, htaken⟩ := (h.ready hf).takeUp_eq
  rw [htaken]
  refine ⟨rfl, ⟨task, ?_, he, hc⟩, fun i other hi hm => ?_, ?_⟩
  · show v.tasks[w.tasks.length]? = _
    rw [ht, List.getElem?_concat_length]
  · have hm' : (w.tasks ++ [task])[i]? = some other := ht ▸ hm
    by_cases hlt : i < w.tasks.length
    · rw [List.getElem?_append_left hlt] at hm'
      exact hover other (List.mem_of_getElem? hm')
    · rw [List.getElem?_append_right (by omega), List.getElem?_singleton, if_neg (by omega)] at hm'
      cases hm'
  · show v.queue.erase w.tasks.length = []
    rw [h.queue, hq, List.nil_append, List.erase_cons_head]

end StartsTask

/-! ## What comes of it -/

/-- What was delivered last was cached before. -/
lemma lastOf_lt (h : Reachable sc.opening w) {c : Nat} {r : Result}
    (hl : (w.engine host).lastOf c = some r) : r.id < w.nextResult := by
  have hs := (Scene.sane_of_reachable h).sound
  obtain ⟨s, ticket, hm⟩ := hs.lawful.landed_of_promised (hs.receipts.told host c r hl)
  exact (hs.logged.landing _ _ _ _ _ hm).1

lemma demands_of_node (hn : (w.engine host).nodes.get? node = some n) (outputs : List String) :
    w.demands host node outputs =
      (outputs.eraseDups.filter fun k => (n.outputs.get? k).isSome).map fun k => (host, ⟨node, k⟩) := by
  have htarget : ∀ k, ((w.engine host).target ⟨node, k⟩).isOk = (n.outputs.get? k).isSome := by
    intro k
    unfold Engine.target Engine.node
    rw [hn]
    dsimp only
    cases n.outputs.get? k <;> rfl
  unfold demands
  simp only [htarget]

lemma productions_of_cons {x : Event} (h : v.journal = x :: w.journal) (hx : x.production? = none) :
    v.productions = w.productions := by
  have hlog : v.productions = (w.log x).productions := by
    unfold productions
    rw [h]
    rfl
  rw [hlog, productions_log, hx]
  exact List.append_nil _

lemma callsTo_of_cons {x : Event} {c : Nat} (h : v.journal = x :: w.journal)
    (hx : x.isCallTo c = false) : v.callsTo c = w.callsTo c := by
  have hlog : v.callsTo c = (w.log x).callsTo c := by
    unfold callsTo
    rw [h]
    rfl
  rw [hlog, callsTo_log, hx]
  rfl

/-- The node was asked once for every declared output that was named, in order, every named slot is
cached anew, and its subscribers were called at most once. -/
structure Renews (host node : String) (n : Node) (outputs : List String) (w v : World) : Prop where
  asked : v.productions = w.productions ++
    (outputs.eraseDups.filter fun k => (n.outputs.get? k).isSome).map fun k => (host, ⟨node, k⟩)
  others : ∀ s, (∀ k ∈ outputs, s ≠ ⟨node, k⟩) →
    (v.engine host).cached s = (w.engine host).cached s ∧
      (v.engine host).flying s = (w.engine host).flying s
  spared : ∀ c, (∀ k ∈ outputs, c ∉ (w.engine host).subscribers ⟨node, k⟩) →
    v.callsTo c = w.callsTo c
  cached : ∀ k ∈ outputs, ∃ r, (v.engine host).cached ⟨node, k⟩ = some r ∧ w.nextResult ≤ r.id ∧
    (v.engine host).flying ⟨node, k⟩ = none ∧
    ∀ c ∈ (w.engine host).subscribers ⟨node, k⟩,
      (∀ k' ∈ outputs, c ∈ (w.engine host).subscribers ⟨node, k'⟩ → k' = k) →
      v.callsTo c = w.callsTo c +
        (if ((w.engine host).lastOf c).any fun last => (w.policy host).same last r then 0 else 1) ∧
      (∃ last, (v.engine host).lastOf c = some last ∧ (w.policy host).same last r = true) ∧
      v.callsTo c ≤ w.callsTo c + 1 ∧
      (w.policy host = .identity → v.callsTo c = w.callsTo c + 1)

/-- It is of no account which outputs are named more than once. -/
lemma Renews.congr {outputs' : List String} (h : Renews host node n outputs w v)
    (he : outputs'.eraseDups = outputs.eraseDups) : Renews host node n outputs' w v := by
  have hmem : ∀ k, k ∈ outputs' ↔ k ∈ outputs := fun k => by
    rw [← List.mem_eraseDups, he, List.mem_eraseDups]
  refine ⟨by rw [he]; exact h.asked, ?_, ?_, ?_⟩
  · simp only [hmem]
    exact h.others
  · simp only [hmem]
    exact h.spared
  · simp only [hmem]
    exact h.cached

/-- What comes of a fan that has cleared its slots and is at its end. -/
lemma renews_of_closes (hr : Reachable sc.opening w)
    (hn : (w.engine host).nodes.get? node = some n) (hclears : Clears host node outputs w u)
    (hasked : u.productions = w.productions) (hcalls : ∀ c, u.callsTo c = w.callsTo c)
    (hs : Supplied u host node outputs outputs.length v) (hh : Heeded u host node outputs v f)
    (hdone : ∀ i, f.branch? i = none) : Renews host node n outputs w v := by
  have hsubs : ∀ s, (u.engine host).subscribers s = (w.engine host).subscribers s := fun s => by
    unfold Engine.subscribers
    rw [hclears.subscriptions]
  have hlast : ∀ c, (u.engine host).lastOf c = (w.engine host).lastOf c := fun c => by
    unfold Engine.lastOf
    rw [hclears.delivered]
  have hpolicy : u.policy host = w.policy host := by rw [hclears.policy]
  refine ⟨?_, fun s hne => ?_, fun c hnone => ?_, fun k hk => ?_⟩
  · rw [hs.asked, hasked, List.take_length, demands_of_node (by rw [hclears.nodes]; exact hn)]
  · have hnot : ¬(host = host ∧ s.node = node ∧ s.output ∈ outputs) := fun ⟨_, hnode, hin⟩ =>
      hne _ hin ((Slot.eq_iff _ _).mpr ⟨hnode, rfl⟩)
    rw [hs.others s hne, hs.flying, hclears.cached, hclears.flying, if_neg hnot, if_neg hnot]
    exact ⟨rfl, rfl⟩
  · rw [hh.others c fun k hk => hsubs ⟨node, k⟩ ▸ hnone k hk, hcalls]
  · obtain ⟨r, hcached, hnew⟩ := hs.cached k (by rw [List.take_length]; exact hk)
    rw [hclears.number] at hnew
    refine ⟨r, hcached, hnew, ?_, fun c hreg honly => ?_⟩
    · rw [hs.flying, hclears.flying, if_pos ⟨rfl, rfl, hk⟩]
    have hreg' : c ∈ (u.engine host).subscribers ⟨node, k⟩ := hsubs ⟨node, k⟩ ▸ hreg
    have honly' : ∀ k' ∈ outputs, c ∈ (u.engine host).subscribers ⟨node, k'⟩ → k' = k :=
      fun k' hk' hin => honly k' hk' (hsubs ⟨node, k'⟩ ▸ hin)
    obtain ⟨i, hi⟩ := List.mem_iff_getElem?.mp hk
    obtain ⟨r', last, hr', hl, hsame⟩ := hh.told c k i hi hreg' honly' (hdone i)
    obtain rfl : r = r' := Option.some.inj (hcached.symm.trans hr')
    rw [hpolicy] at hsame
    have hexact : v.callsTo c = w.callsTo c + (if ((w.engine host).lastOf c).any fun last =>
        (w.policy host).same last r then 0 else 1) := by
      rcases hh.calls c k hk hreg' honly' with ⟨hnot, hold⟩ | ⟨hone, r', hr', -, hfresh⟩
      · rw [hlast, hl] at hold
        rw [hnot, hcalls, ← hold, Option.any_some, if_pos hsame, Nat.add_zero]
      · obtain rfl : r = r' := Option.some.inj (hcached.symm.trans hr')
        rw [hone, hcalls, if_neg]
        intro hany
        obtain ⟨x, hx, hsame'⟩ := (Option.any_eq_true _ _).mp hany
        rw [← hpolicy, hfresh x ((hlast c).trans hx)] at hsame'
        cases hsame'
    refine ⟨hexact, ⟨last, hl, hsame⟩, ?_, fun hidentity => ?_⟩
    · rw [hexact]
      cases ((w.engine host).lastOf c).any fun last => (w.policy host).same last r with
      | true => exact Nat.le_succ _
      | false => exact Nat.le_refl _
    · -- What was delivered before has another number.
      rw [hexact, if_neg]
      intro hany
      obtain ⟨x, hx, hsame'⟩ := (Option.any_eq_true _ _).mp hany
      have hlt := lastOf_lt hr hx
      rw [hidentity] at hsame'
      unfold Policy.same at hsame'
      rw [Bool.or_false, beq_iff_eq] at hsame'
      omega

/-- The task clears the slots and goes through them, one after the other. -/
lemma Ready.completes (h : w.Ready t (.invalidate host node keys)) (hr : Reachable sc.opening w)
    (hlone : (w.takeUp t).Lone t) (hl : ∀ s, (w.engine host).lineAt s = [])
    (hn : (w.engine host).nodes.get? node = some n) (hprompt : ∀ o, (n.produce o).Prompt)
    (ht : w.Told Action.Detached) (hcalm : (w.takeUp t).NeverPanics) :
    ∃ v f, RunsTo (w.takeUp t).step v ∧ Closes v t f ∧
      Supplied (w.takeUp t).step host node (n.named keys) (n.named keys).length v ∧
      Heeded (w.takeUp t).step host node (n.named keys) v f := by
  have htaken : Reachable sc.opening (w.takeUp t) := hr.trans (reachable_takeUp h.idle t)
  have hsane := Scene.sane_of_reachable htaken
  let a := (w.takeUp t).log (.invalidating t host node (n.named keys))
  have halone : a.Lone t := ⟨hlone.running, hlone.own, hlone.others, hlone.queue⟩
  obtain ⟨tasks, flights, queue, rewoken, pipelines, heq, hb⟩ :=
    halone.clears ((queued_of_reachable htaken).same rfl rfl rfl) host node (n.named keys)
  have hledger := (keeps_clearAll (keeps_log hsane.poised.steady
    (.invalidating t host node (n.named keys))).steady host node (n.named keys)).2.1
  have hstep := h.step_invalidate hn
  obtain ⟨hclears, -⟩ := h.clears (Scene.sane_of_reachable hr) hn
  generalize (n.named keys).foldl (fun w k => w.clear host ⟨node, k⟩) a = b at heq hb hledger hstep
  have hline : ∀ s, (b.engine host).lineAt s = [] := by
    intro s
    have hcleared : b.engine host = (a.engine host).clearAll node (n.named keys) :=
      (congrArg (fun b : Ledger => b.engine host) hledger).trans (if_pos rfl)
    have hsame : a.engine host = w.engine host := congrFun (engine_takeUp w t) host
    rw [hcleared, Engine.lineAt_clearAll, hsame, hl]
  have hdriving : b.driving = [] := by
    rw [heq]
    exact h.driving (Scene.sane_of_reachable hr)
  have hcount : b.deliveries = 0 := by
    rw [heq]
    show (w.takeUp t).deliveries = 0
    obtain ⟨_, htaken⟩ := h.takeUp_eq
    rw [htaken]
  obtain ⟨f, hidles, hpart, hends⟩ := hb.starts host node (n.named keys) hdriving hcount hline
  rw [← hstep] at hidles hends
  have htold : (w.takeUp t).step.Told Action.Detached := by
    unfold Told
    rw [hidles.scripts, heq]
    show (w.takeUp t).Told Action.Detached
    unfold Told
    rw [show (w.takeUp t).scripts = w.scripts from scripts_poll _ t]
    exact ht
  have hin : ∀ k ∈ n.named keys, host = host ∧ (⟨node, k⟩ : Slot).node = node ∧
      (⟨node, k⟩ : Slot).output ∈ n.named keys := fun k hk => ⟨rfl, rfl, hk⟩
  have hsupplied : Supplied (w.takeUp t).step host node (n.named keys) 0 (w.takeUp t).step :=
    supplied_zero fun k hk => by rw [hclears.cached, if_pos (hin k hk)]
  rcases hends with hcloses | hon
  · have hnil : n.named keys = [] := by
      refine List.eq_nil_of_length_eq_zero (Nat.eq_zero_of_not_pos fun hlt => ?_)
      have hfresh := hpart.fresh 0 _ (Nat.le_refl 0) (List.getElem?_eq_getElem hlt)
      rw [hcloses.done 0] at hfresh
      cases hfresh
    exact ⟨_, f, .refl _, hcloses, hsupplied.of_take (by rw [hnil]; rfl), heeded_of_fresh hpart⟩
  · refine hon.completes (.step htaken) (hcalm.step (by rw [h.focus]; rintro ⟨⟩)) htold
      (fun n' hn' o => ?_) hsupplied (fun k hk => ?_) (heeded_of_fresh hpart)
    · rw [hclears.nodes, hn] at hn'
      cases hn'
      exact hprompt o
    · rw [hclears.flying, if_pos (hin k hk)]

/-- The task is taken up and goes on until it is over. -/
lemma StartsTask.renews (h : StartsTask w (.invalidate host node keys) v) (hr : Reachable sc.opening w)
    (hf : w.focus = .idle) (hover : ∀ task ∈ w.tasks, task.ended.isSome = true)
    (hn : (w.engine host).nodes.get? node = some n) (hprompt : ∀ o, (n.produce o).Prompt)
    (ht : w.Told Action.Detached) (hv : Reachable sc.opening v) (hcalm : v.NeverPanics) :
    ∃ z, RunsTo v z ∧ z.settled = true ∧ (z.tasks[w.tasks.length]?).bind Task.ended = some .ok ∧
      Renews host node n (n.named keys) w z := by
  have hq := queue_eq_nil hr hover
  have hready := h.ready hf
  have hnode : (v.engine host).nodes.get? node = some n := by
    rw [h.engine]
    exact hn
  have hline : ∀ s, (v.engine host).lineAt s = [] := by
    intro s
    rw [h.engine]
    refine lineAt_of_rest hr (fun t i => ?_) host s
    cases hx : w.stake? t i with
    | none => rfl
    | some x =>
      obtain ⟨task, hm, he⟩ := (Scene.sane_of_reachable hr).unfinished_of_stake hx
      have hended := hover task (List.mem_of_getElem? hm)
      rw [he] at hended
      cases hended
  have htaken := h.takesUp hf hq
  have hrun : RunsTo v (v.takeUp w.tasks.length).step :=
    htaken.trans (runsTo_step (by rw [hready.focus]; rintro ⟨⟩))
  obtain ⟨hclears, hjournal⟩ := hready.clears (Scene.sane_of_reachable hv) hnode
  obtain ⟨z, f, hz, hcloses, hs, hh⟩ := hready.completes hv (h.lone hf hq hover) hline hnode hprompt
    (by unfold Told; rw [h.scripts]; exact ht) (hcalm.runsTo htaken)
  have hzr : Reachable sc.opening z := (hrun.trans hz).reachable hv
  obtain ⟨name, hlast, hsettled, hended, hfinal, hpipelines⟩ := hcloses.ends hzr
  refine ⟨z.step, (hrun.trans hz).trans hlast, hsettled, hended, ?_⟩
  have hrenews : Renews host node n (n.named keys) w z :=
    renews_of_closes hr hn (hclears.congr h.policy h.number h.engine)
      ((productions_of_cons hjournal rfl).trans h.asked)
      (fun c => (callsTo_of_cons hjournal rfl).trans (h.calls c)) hs hh hcloses.done
  have hengine : ∀ i, z.step.engine i = z.engine i := fun i => by
    unfold World.engine World.pipeline
    rw [hpipelines]
  exact { hrenews with
    asked := (productions_of_cons hfinal rfl).trans hrenews.asked
    others := fun s hne => hengine host ▸ hrenews.others s hne
    spared := fun c hc => (callsTo_of_cons hfinal rfl).trans (hrenews.spared c hc)
    cached := fun k hk => by
      rw [hengine]
      simp only [callsTo_of_cons hfinal rfl]
      exact hrenews.cached k hk }

/-- An invalidation clears what it names and nothing else. Started while all is at rest, it runs to its
end, and every named slot is computed anew, once. -/
theorem invalidation_touches_named {sc : Scene} {w : World} (h : Reachable sc.opening w) :
    (∀ t host node keys, w.Ready t (.invalidate host node keys) →
      (w.engine host).nodes.get? node = none → ∃ name,
        (w.takeUp t).step.step.focus = .idle ∧
        (w.takeUp t).step.step.journal = .ended t name (.failed (.nodeNotFound node)) :: w.journal ∧
        (w.takeUp t).step.step.pipelines = w.pipelines ∧
        (w.takeUp t).step.step.flights = w.flights ∧
        (w.takeUp t).step.step.subscribers = w.subscribers ∧
        (w.takeUp t).step.step.nextResult = w.nextResult) ∧
    (∀ t host node keys n, w.Ready t (.invalidate host node keys) →
      (w.engine host).nodes.get? node = some n →
        Clears host node (n.named keys) w (w.takeUp t).step ∧
        (w.takeUp t).step.journal = .invalidating t host node (n.named keys) :: w.journal) ∧
    (w.focus = .idle → (∀ task ∈ w.tasks, task.ended.isSome = true) → w.Told Action.Detached →
      ∀ host name node keys n, (w.engine host).nodes.get? node = some n →
        (∀ o, (n.produce o).Prompt) →
        ∃ v, w.perform (.invalidate host name node keys) = (v, .reply .nothing) ∧
          (v.NeverPanics → ∃ z, RunsTo v z ∧ z.settled = true ∧
            (z.tasks[w.tasks.length]?).bind Task.ended = some .ok ∧
            Renews host node n (n.named keys) w z ∧
            ∀ outputs, outputs.eraseDups = (n.named keys).eraseDups →
              Renews host node n outputs w z)) := by
  have hs := Scene.sane_of_reachable h
  refine ⟨?_, ?_, ?_⟩
  · intro t host node keys hready hn
    exact hready.ends hn
  · intro t host node keys n hready hn
    exact hready.clears hs hn
  · intro hf hover ht host name node keys n hn hprompt
    obtain ⟨v, hperform, hstarts⟩ := startsTask_invalidate hover host name node keys
    have hv : Reachable sc.opening v := .perform _ v _ h hf hperform
    refine ⟨v, hperform, ?_⟩
    intro hcalm
    obtain ⟨z, hrun, hsettled, hended, hrenews⟩ :=
      hstarts.renews h hf hover hn hprompt ht hv hcalm
    exact ⟨z, hrun, hsettled, hended, hrenews, fun outputs he => hrenews.congr he⟩

/-- A node whose outputs are their names. -/
def promptNode (id : String) (outputs : List String) : Node where
  id := id
  name := id
  outputs := NameMap.ofList (outputs.map fun o => (o, ⟨fun _ => .accepted⟩))
  produce o := .announce ⟨id, id, o⟩ (.finish (.ok (.text o)))

/-- Whether nothing panics until the world is at rest after so many steps at most. -/
def isCalm : Nat → World → Bool
  | 0, w => w.settled
  | fuel + 1, w => w.settled || (!w.focus.isPanic && isCalm fuel w.advance)

lemma neverPanics_of_isCalm {fuel : Nat} (h : isCalm fuel w = true) : w.NeverPanics := by
  have hrest : ∀ w : World, w.settled = true → w.NeverPanics := by
    intro w hs m text hf
    rw [run_of_settled hs] at hf
    unfold settled at hs
    rw [hf] at hs
    cases hs
  induction fuel generalizing w with
  | zero => exact hrest w h
  | succ fuel ih =>
    by_cases hs : w.settled = true
    · exact hrest w hs
    · unfold isCalm at h
      simp only [hs, Bool.false_or, Bool.and_eq_true, Bool.not_eq_true'] at h
      intro m text
      cases m with
      | zero =>
        intro hf
        rw [show w.run 0 = w from rfl] at hf
        rw [hf] at h
        cases h.1
      | succ m =>
        rw [run_succ hs]
        exact ih h.2 m text

/-- Whether the task of this invalidation has not been taken up, while no task runs. -/
def isInvalidating (w : World) (t : Nat) (host node : String) (keys : Option (List String)) : Bool :=
  match w.focus, w.tasks[t]? with
  | .idle, some { job := .invalidate h i ks, cancelled := false, ended := none, .. } =>
    h == host && i == node && ks == keys
  | _, _ => false

lemma ready_of_isInvalidating (h : w.isInvalidating t host node keys = true) :
    w.Ready t (.invalidate host node keys) := by
  unfold isInvalidating at h
  split at h
  · rename_i hf ht
    simp only [Bool.and_eq_true, beq_iff_eq] at h
    obtain ⟨⟨rfl, rfl⟩, rfl⟩ := h
    exact ⟨hf, _, ht, rfl, rfl, rfl⟩
  · cases h

/-- A node of two outputs, each with a subscriber. -/
def twoOutputs : List (Action × Nat) := [
  (.register "p" (promptNode "n" ["a", "b"]) "n", 0),
  (.subscribe "p" "s" ⟨"n", "a"⟩ "c", 60),
  (.subscribe "p" "s'" ⟨"n", "b"⟩ "d", 60)]

/-- Two invalidations that have not been taken up, one of them for a node that there is not. -/
def twoInvalidations : List (Action × Nat) := [
  (.invalidate "p" "first" "n" (some ["b", "x", "b", "a"]), 0),
  (.invalidate "p" "second" "m" none, 0)]

/-- One output is named twice, and another one is not declared. -/
theorem invalidation_touches_named_repeated : ∃ w v v' z name,
    Reachable ({} : Scene).opening w ∧ Reachable ({} : Scene).opening v ∧
    v.Ready 3 (.invalidate "p" "m" none) ∧ (v.engine "p").nodes.get? "m" = none ∧
    (v.takeUp 3).step.step.journal = .ended 3 name (.failed (.nodeNotFound "m")) :: v.journal ∧
    v.Ready 2 (.invalidate "p" "n" (some ["b", "x", "b", "a"])) ∧
    (v.engine "p").nodes.get? "n" = some (promptNode "n" ["a", "b"]) ∧
    Clears "p" "n" ["b", "x", "b", "a"] v (v.takeUp 2).step ∧
    w.focus = .idle ∧ (∀ task ∈ w.tasks, task.ended.isSome = true) ∧ w.Told Action.Detached ∧
    (w.engine "p").nodes.get? "n" = some (promptNode "n" ["a", "b"]) ∧
    (∀ o, ((promptNode "n" ["a", "b"]).produce o).Prompt) ∧ w.policy "p" = .identity ∧
    w.perform (.invalidate "p" "clear" "n" (some ["b", "x", "b", "a"])) = (v', .reply .nothing) ∧
    v'.NeverPanics ∧ RunsTo v' z ∧
    z.productions = w.productions ++ [("p", ⟨"n", "b"⟩), ("p", ⟨"n", "a"⟩)] ∧
    z.callsTo 0 = w.callsTo 0 + 1 := by
  have hfacts : (({} : Scene).opening.rehearse twoOutputs).any (fun w =>
      (w.settled && w.tasks.all fun task => task.ended.isSome) &&
        (isCalm 200 (w.perform (.invalidate "p" "clear" "n" (some ["b", "x", "b", "a"]))).1 &&
          ((w.engine "p").subscribers ⟨"n", "a"⟩ == [0] &&
            ["b", "x", "b", "a"].all fun k =>
              k == "a" || !((w.engine "p").subscribers ⟨"n", k⟩).contains 0)) &&
        (w.rehearse twoInvalidations).any fun v =>
          v.isInvalidating 3 "p" "m" none && v.isInvalidating 2 "p" "n" (some ["b", "x", "b", "a"]) &&
            ((v.engine "p").nodes.get? "m").isNone) = true := by decide +kernel
  have hnode : ((({} : Scene).opening.rehearse twoOutputs).bind fun w =>
      (w.engine "p").nodes.get? "n") = some (promptNode "n" ["a", "b"]) := rfl
  have hnode' : ((({} : Scene).opening.rehearse twoOutputs).bind fun w =>
      (w.rehearse twoInvalidations).bind fun v => (v.engine "p").nodes.get? "n") =
        some (promptNode "n" ["a", "b"]) := rfl
  have hpolicy : ((({} : Scene).opening.rehearse twoOutputs).map fun w => w.policy "p") =
      some .identity := rfl
  have hprompt : ∀ o, ((promptNode "n" ["a", "b"]).produce o).Prompt :=
    fun o => .announce _ _ (.finish _)
  obtain ⟨w, hw, hall⟩ := (Option.any_eq_true _ _).mp hfacts
  simp only [Bool.and_eq_true] at hall
  obtain ⟨⟨⟨hsettled, hover⟩, hcalm, hreg, honly⟩, hv⟩ := hall
  obtain ⟨v, hv, hfacts'⟩ := (Option.any_eq_true _ _).mp hv
  simp only [Bool.and_eq_true, Option.isNone_iff_eq_none] at hfacts'
  obtain ⟨⟨hlost, hfirst⟩, hnone⟩ := hfacts'
  rw [hw, Option.bind_some] at hnode hnode'
  rw [hv, Option.bind_some] at hnode'
  rw [hw, Option.map_some, Option.some.injEq] at hpolicy
  have hreach : Reachable ({} : Scene).opening w := reachable_rehearse .refl hw
  have hreach' : Reachable ({} : Scene).opening v := reachable_rehearse hreach hv
  have htold : w.Told Action.Detached := (hreach.obeys (by rintro _ _ _ ⟨⟩)).1
  have hover' : ∀ task ∈ w.tasks, task.ended.isSome = true := List.all_eq_true.mp hover
  have hidle : w.focus = .idle := idle_of_settled hsettled
  obtain ⟨hfails, hclears, -⟩ := invalidation_touches_named hreach'
  obtain ⟨name, -, hjournal, -⟩ := hfails 3 _ _ _ (ready_of_isInvalidating hlost) hnone
  obtain ⟨-, -, hrenews⟩ := invalidation_touches_named hreach
  obtain ⟨v', hperform, hruns⟩ := hrenews hidle hover' htold "p" "clear" "n"
    (some ["b", "x", "b", "a"]) _ hnode hprompt
  rw [hperform] at hcalm
  obtain ⟨z, hrun, -, -, hz, -⟩ := hruns (neverPanics_of_isCalm hcalm)
  obtain ⟨r, -, -, -, hcalled⟩ := hz.cached "a" (by decide)
  refine ⟨w, v, v', z, name, hreach, hreach', ready_of_isInvalidating hlost, hnone, hjournal,
    ready_of_isInvalidating hfirst, hnode', (hclears 2 _ _ _ _ (ready_of_isInvalidating hfirst) hnode').1,
    hidle, hover', htold, hnode, hprompt, hpolicy, hperform, neverPanics_of_isCalm hcalm, hrun,
      hz.asked, ?_⟩
  refine (hcalled 0 ?_ fun k hk hin => ?_).2.2.2 hpolicy
  · rw [beq_iff_eq.mp hreg]
    exact List.mem_singleton_self 0
  · have hnot := List.all_eq_true.mp honly k hk
    rw [Bool.or_eq_true, beq_iff_eq, Bool.not_eq_true'] at hnot
    refine hnot.resolve_right fun hout => ?_
    rw [List.contains_iff_mem.mpr hin] at hout
    cases hout

end World

end Dataflow
