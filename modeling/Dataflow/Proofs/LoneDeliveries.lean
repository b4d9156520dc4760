import Dataflow.Proofs.PromptWorks
import Dataflow.Proofs.Residue
import Dataflow.Proofs.Scripts

/-!
# Deliveries of a task that is left alone

An emission that has come to the gate stands in line. If it is first and the task may go on, it
delivers what is cached, its subscribers do what their scripts say, and it leaves, whereupon the next in
line is woken. Or else it has to wait.
-/

namespace Dataflow

/-- The action calls on no pipeline, and neither starts a task nor cancels one. -/
def Action.Detached : Action → Prop
  | .resolve _ _ => True
  | a => a.Neutral

namespace Engine

variable {e : Engine} {s : Slot} {pass : Pass} {g : Gate}

lemma isFirst_iff_lineAt (hg : e.gate? s = some g) (hid : g.id = pass.gate) :
    e.isFirst s pass = true ↔ ∃ who rest, e.lineAt s = (pass.number, who) :: rest := by
  rw [isFirst_iff, lineAt_of_gate hg, ← Gate.leads_iff]
  constructor
  · rintro ⟨g', hg', -, hl⟩
    rw [hg] at hg'
    cases hg'
    exact hl
  · exact fun hl => ⟨g, hg, hid, hl⟩

end Engine

namespace World

variable {sc : Scene} {t : Nat} {f : Fan} {u v w : World} {e : Emission} {host : String} {pass : Pass}
  {r : Result} {who : Waiter}

/-- Nothing is asked for, cached or cleared meanwhile. -/
structure Delivers (host : String) (w v : World) : Prop where
  runtime : v.runtime = w.runtime
  scripts : v.scripts = w.scripts
  policy : v.policy = w.policy
  subscribers : v.subscribers.length = w.subscribers.length
  nodes : (v.engine host).nodes = (w.engine host).nodes
  subscriptions : (v.engine host).subscriptions = (w.engine host).subscriptions
  cached : ∀ s, (v.engine host).cached s = (w.engine host).cached s
  flying : ∀ s, (v.engine host).flying s = (w.engine host).flying s
  asked : v.productions = w.productions
  number : v.nextResult = w.nextResult

lemma Delivers.refl (host : String) (w : World) : Delivers host w w :=
  ⟨rfl, rfl, rfl, rfl, rfl, rfl, fun _ => rfl, fun _ => rfl, rfl, rfl⟩

lemma Delivers.trans (h : Delivers host u v) (h' : Delivers host v w) : Delivers host u w where
  runtime := h'.runtime.trans h.runtime
  scripts := h'.scripts.trans h.scripts
  policy := h'.policy.trans h.policy
  subscribers := h'.subscribers.trans h.subscribers
  nodes := h'.nodes.trans h.nodes
  subscriptions := h'.subscriptions.trans h.subscriptions
  cached := fun s => (h'.cached s).trans (h.cached s)
  flying := fun s => (h'.flying s).trans (h.flying s)
  asked := h'.asked.trans h.asked
  number := h'.number.trans h.number

/-- What the running task is concerned with may change. -/
lemma Delivers.goOn (h : Delivers host u v) (tasks : List Task) (rewoken : Bool) (deliveries : Nat)
    (focus : Focus) : Delivers host u { v with tasks, rewoken, deliveries, focus } :=
  ⟨h.runtime, h.scripts, h.policy, h.subscribers, h.nodes, h.subscriptions, h.cached, h.flying, h.asked,
    h.number⟩

lemma Delivers.log (h : Delivers host u v) {x : Event} (hx : x.production? = none) :
    Delivers host u (v.log x) :=
  { h with asked := by rw [productions_log, hx]; exact (List.append_nil _).trans h.asked }

lemma Delivers.setEngine (h : Delivers host u v) {E : Engine}
    (hn : E.nodes = (v.engine host).nodes) (hs : E.subscriptions = (v.engine host).subscriptions)
    (hc : E.outputs = (v.engine host).outputs) (hf : E.inFlight = (v.engine host).inFlight) :
    Delivers host u (v.setEngine host E) :=
  { h with
    policy := by
      funext i
      rw [policy_setEngine, h.policy]
    nodes := by
      rw [engine_setEngine, if_pos rfl, hn]
      exact h.nodes
    subscriptions := by
      rw [engine_setEngine, if_pos rfl, hs]
      exact h.subscriptions
    cached := fun s => by
      rw [engine_setEngine, if_pos rfl]
      unfold Engine.cached
      rw [hc]
      exact h.cached s
    flying := fun s => by
      rw [engine_setEngine, if_pos rfl]
      unfold Engine.flying
      rw [hf]
      exact h.flying s }

/-- Gates may change. -/
lemma Delivers.regate (h : Delivers host u v) {E : Engine} (hr : (v.engine host).Regated E) :
    Delivers host u (v.setEngine host E) := by
  obtain ⟨gates, passes, -, rfl⟩ := hr
  exact h.setEngine rfl rfl rfl rfl

/-- The line at the gate of a slot when the emission has come to it. -/
def lineWith (w : World) (e : Emission) (pass : Pass) (who : Waiter) : List (Nat × Waiter) :=
  if ∀ p ∈ (w.engine e.host).lineAt e.slot, p.1 ≠ pass.number then
    (w.engine e.host).lineAt e.slot ++ [(pass.number, who)]
  else (w.engine e.host).lineAt e.slot

lemma lineWith_cases (w : World) (e : Emission) (pass : Pass) (who : Waiter) :
    w.lineWith e pass who = (w.engine e.host).lineAt e.slot ++ [(pass.number, who)] ∨
    (∃ p ∈ (w.engine e.host).lineAt e.slot, p.1 = pass.number) ∧
      w.lineWith e pass who = (w.engine e.host).lineAt e.slot := by
  unfold lineWith
  by_cases hin : ∀ p ∈ (w.engine e.host).lineAt e.slot, p.1 ≠ pass.number
  · exact .inl (if_pos hin)
  · refine .inr ⟨?_, if_neg hin⟩
    simpa only [not_forall, Decidable.not_not, exists_prop] using hin

/-- The world when the emission has come to the gate. -/
def lined (w : World) (e : Emission) (pass : Pass) (who : Waiter) : World :=
  w.setEngine e.host ((w.engine e.host).lineUp e.slot pass who)

lemma engine_lined (w : World) (e : Emission) (pass : Pass) (who : Waiter) :
    (w.lined e pass who).engine e.host = (w.engine e.host).lineUp e.slot pass who :=
  (engine_setEngine _ _ _ _).trans (if_pos rfl)

lemma delivers_lined (w : World) (e : Emission) (pass : Pass) (who : Waiter) :
    Delivers e.host w (w.lined e pass who) :=
  (Delivers.refl e.host w).regate (Engine.regated_lineUp _ _ _ _)

lemma delivered_lined (w : World) (e : Emission) (pass : Pass) (who : Waiter) :
    ((w.lined e pass who).engine e.host).delivered = (w.engine e.host).delivered := by
  rw [engine_lined]
  exact delivered_regated (Engine.regated_lineUp _ _ _ _)

section

variable {clears : Nat} {g : Gate} (hg : (w.engine e.host).gate? e.slot = some g)
  (hid : g.id = pass.gate)

include hg hid

lemma lineAt_lined (who : Waiter) (s : Slot) : ((w.lined e pass who).engine e.host).lineAt s =
    if e.slot = s then w.lineWith e pass who else (w.engine e.host).lineAt s := by
  rw [engine_lined, Engine.lineAt_lineUp hg hid]
  unfold lineWith
  by_cases hs : e.slot = s
  · subst hs
    by_cases hin : ∀ p ∈ (w.engine e.host).lineAt e.slot, p.1 ≠ pass.number
    · rw [if_pos ⟨rfl, hin⟩, if_pos rfl, if_pos hin]
    · rw [if_neg fun hh => hin hh.2, if_pos rfl, if_neg hin]
  · rw [if_neg fun hh => hs hh.1, if_neg hs]

lemma isFirst_lined (who : Waiter) :
    ((w.engine e.host).lineUp e.slot pass who).isFirst e.slot pass = true ↔
      ∃ who' rest, w.lineWith e pass who = (pass.number, who') :: rest := by
  obtain ⟨line, hg', -⟩ := Engine.gate?_lineUp hg hid who
  have hline := lineAt_lined hg hid who e.slot
  rw [if_pos rfl, engine_lined] at hline
  rw [Engine.isFirst_iff_lineAt hg' hid, hline]

end

lemma LoneFan.step_approach {clears : Nat} (h : w.LoneFan t f) (hd : w.driving = [])
    (hf : w.focus = .emission) (hc : f.current? = some e) (hp : e.progress = .ready pass clears) :
    w.step = w.approach e pass clears := by
  rw [step_of_emission hf]
  unfold goOn
  rw [h.party hd hc]
  dsimp only
  rw [hp]

/-- Where a branch has to wait the fan turns to the next one. -/
lemma LoneFan.stalls (h : w.LoneFan t f) (hd : w.driving = []) (hf : w.focus = .stall) :
    w.step = w.aim (.next false) := by
  unfold World.step
  rw [hf]
  dsimp only
  unfold World.stall
  rw [hd]
  dsimp only
  rw [h.job]

section

variable {clears : Nat} {g : Gate} (h : w.LoneFan t f) (hd : w.driving = []) (hf : w.focus = .emission)
  (hc : f.current? = some e) (hp : e.progress = .ready pass clears)
  (hg : (w.engine e.host).gate? e.slot = some g) (hid : g.id = pass.gate)

include h hd hf hc hp hg hid

/-- Whoever is not first in line waits until it is. -/
lemma LoneFan.queues
    (hl : ¬∃ who rest, w.lineWith e pass (f.seat t f.cursor) = (pass.number, who) :: rest) :
    ∃ v, RunsTo w v ∧ Delivers e.host w v ∧ v.LoneFan t f ∧ v.focus = .next false ∧ v.driving = [] ∧
      v.deliveries = w.deliveries ∧
      (v.engine e.host).delivered = (w.engine e.host).delivered ∧
      (∀ c, v.callsTo c = w.callsTo c) ∧
      ∀ s, (v.engine e.host).lineAt s = if e.slot = s then w.lineWith e pass (f.seat t f.cursor)
        else (w.engine e.host).lineAt s := by
  have hfirst := mt (isFirst_lined hg hid (f.seat t f.cursor)).mp hl
  have hstep : w.step = (w.lined e pass (f.seat t f.cursor)).aim .stall := by
    rw [h.step_approach hd hf hc hp]
    unfold approach
    rw [h.self hd]
    dsimp only
    rw [if_pos (by simpa using hfirst)]
    rfl
  have halone : w.step.LoneFan t f := by
    rw [hstep]
    exact h.same rfl rfl rfl
  have hstall := halone.stalls (by rw [hstep]; exact hd) (by rw [hstep]; rfl)
  have hrun : RunsTo w w.step.step :=
    (runsTo_step (by rw [hf]; rintro ⟨⟩)).trans (runsTo_step (by rw [hstep]; rintro ⟨⟩))
  refine ⟨_, hrun, ?_⟩
  rw [hstall, hstep]
  exact ⟨(delivers_lined ..).goOn _ _ _ _, h.same rfl rfl rfl, rfl, hd, rfl, delivered_lined ..,
    fun c => rfl, lineAt_lined hg hid _⟩

/-- Whoever is first in line when the task has made many deliveries is polled again later. -/
lemma LoneFan.holdsBack
    (hl : ∃ who rest, w.lineWith e pass (f.seat t f.cursor) = (pass.number, who) :: rest)
    (hs : w.sated = true) :
    ∃ v, RunsTo w v ∧ Delivers e.host w v ∧ v.LoneFan t (f.nudge f.cursor) ∧ v.focus = .next false ∧
      v.driving = [] ∧ v.deliveries = w.deliveries ∧
      (v.engine e.host).delivered = (w.engine e.host).delivered ∧
      (∀ c, v.callsTo c = w.callsTo c) ∧
      ∀ s, (v.engine e.host).lineAt s = if e.slot = s then w.lineWith e pass (f.seat t f.cursor)
        else (w.engine e.host).lineAt s := by
  have hfirst := (isFirst_lined hg hid (f.seat t f.cursor)).mpr hl
  have hlined : (w.lined e pass (f.seat t f.cursor)).LoneFan t f := h.same rfl rfl rfl
  obtain ⟨tasks, rewoken, hwake, hnudged⟩ := hlined.wake_frame f.cursor
  have hself : (w.lined e pass (f.seat t f.cursor)).self = f.seat t f.cursor := hlined.self hd
  have hstep : w.step = { w.lined e pass (f.seat t f.cursor) with
      tasks, rewoken, focus := .stall } := by
    have happroach : w.approach e pass clears =
        ((w.lined e pass w.self).wake [(w.lined e pass w.self).self]).aim .stall := by
      unfold approach
      dsimp only
      rw [h.self hd, if_neg (by simpa using hfirst)]
      exact if_pos hs
    rw [h.step_approach hd hf hc hp, happroach, h.self hd, hself, hwake]
    rfl
  have halone : w.step.LoneFan t (f.nudge f.cursor) := by
    rw [hstep]
    exact hnudged _ rfl rfl rfl
  have hstall := halone.stalls (by rw [hstep]; exact hd) (by rw [hstep])
  have hrun : RunsTo w w.step.step :=
    (runsTo_step (by rw [hf]; rintro ⟨⟩)).trans (runsTo_step (by rw [hstep]; rintro ⟨⟩))
  refine ⟨_, hrun, ?_⟩
  rw [hstall, hstep]
  exact ⟨(delivers_lined ..).goOn tasks _ _ _, hnudged _ rfl rfl rfl, rfl, hd, rfl,
    delivered_lined .., fun c => rfl, lineAt_lined hg hid _⟩

/-- Whoever is first in line delivers what is cached. -/
lemma LoneFan.offers (hr : (w.engine e.host).cached e.slot = some r)
    (hl : ∃ who rest, w.lineWith e pass (f.seat t f.cursor) = (pass.number, who) :: rest)
    (hs : w.sated = false) :
    Delivers e.host w w.step ∧
      w.step.LoneFan t (f.setCurrent (some { e with
        progress := .calling pass r ((w.engine e.host).select (w.policy e.host) e.slot r).1 })) ∧
      w.step.focus = .emission ∧ w.step.driving = [] ∧ w.step.deliveries = w.deliveries + 1 ∧
      (w.step.engine e.host).delivered =
        ((w.engine e.host).select (w.policy e.host) e.slot r).2.delivered ∧
      (∀ c, w.step.callsTo c = w.callsTo c) ∧
      ∀ s, (w.step.engine e.host).lineAt s =
        if e.slot = s then w.lineWith e pass (f.seat t f.cursor)
        else (w.engine e.host).lineAt s := by
  have hfirst := (isFirst_lined hg hid (f.seat t f.cursor)).mpr hl
  generalize hu : ({ w.lined e pass (f.seat t f.cursor) with
    deliveries := w.deliveries + 1 } : World) = u
  generalize hE : (u.engine e.host).select (w.policy e.host) e.slot r = selected
  have hengine : u.engine e.host = (w.lined e pass (f.seat t f.cursor)).engine e.host := by
    rw [← hu]
    rfl
  have hpolicy : u.policy e.host = w.policy e.host := by
    rw [← hu]
    exact policy_setEngine _ _ _ _
  have hcached : (u.engine e.host).cached e.slot = some r := by
    rw [hengine]
    exact ((delivers_lined ..).cached e.slot).trans hr
  have hselect : selected.1 = ((w.engine e.host).select (w.policy e.host) e.slot r).1 ∧
      selected.2.delivered = ((w.engine e.host).select (w.policy e.host) e.slot r).2.delivered := by
    rw [← hE, hengine, engine_lined]
    exact select_regated (Engine.regated_lineUp _ _ _ _) _ _ _
  have halone : ((u.setEngine e.host selected.2).log
      (.delivering e.host e.slot pass r selected.1)).LoneFan t f := by
    rw [← hu]
    exact h.same rfl rfl rfl
  obtain ⟨tasks, hset, hnext⟩ :=
    halone.setEmission { e with progress := .calling pass r selected.1 }
  have hstep : w.step = { (u.setEngine e.host selected.2).log
      (.delivering e.host e.slot pass r selected.1) with tasks } := by
    have happroach : w.approach e pass clears = u.deliver e pass clears := by
      rw [← hu]
      unfold approach
      dsimp only
      rw [h.self hd, if_neg (by simpa using hfirst)]
      exact if_neg (Bool.eq_false_iff.mp hs)
    rw [h.step_approach hd hf hc hp, happroach]
    unfold deliver
    dsimp only
    rw [hcached, hpolicy]
    dsimp only
    rw [hE]
    exact hset
  have hnodes : selected.2.nodes = (u.engine e.host).nodes ∧
      selected.2.subscriptions = (u.engine e.host).subscriptions ∧
      selected.2.outputs = (u.engine e.host).outputs ∧
      selected.2.inFlight = (u.engine e.host).inFlight ∧ selected.2.gates = (u.engine e.host).gates := by
    rw [← hE]
    exact ⟨rfl, rfl, rfl, rfl, rfl⟩
  have hdelivers : Delivers e.host w u := by
    rw [← hu]
    exact (delivers_lined ..).goOn _ _ _ _
  have hafter : ((u.setEngine e.host selected.2).log
      (.delivering e.host e.slot pass r selected.1)).engine e.host = selected.2 :=
    (engine_setEngine _ _ _ _).trans (if_pos rfl)
  obtain ⟨hn, hsub, ho, hi, hgates⟩ := hnodes
  rw [hstep, ← hselect.1]
  refine ⟨?_, hnext _ rfl rfl rfl, by rw [← hu]; exact hf, by rw [← hu]; exact hd, by rw [← hu]; rfl,
    ?_, fun c => by rw [← hu]; rfl, fun s => ?_⟩
  · exact ((hdelivers.setEngine hn hsub ho hi).log rfl).goOn tasks _ _ _
  · exact (congrArg Engine.delivered hafter).trans hselect.2
  · refine (congrArg (Engine.lineAt · s) hafter).trans ?_
    have hline : selected.2.lineAt s = (u.engine e.host).lineAt s := by
      refine Engine.lineAt_congr ?_
      unfold Engine.gate?
      rw [hgates]
    rw [hline, hengine]
    exact lineAt_lined hg hid _ s

end

/-! ## Calling -/

/-- Subscribers do what is about no pipeline. -/
structure Talks (w v : World) : Prop where
  runtime : v.runtime = w.runtime
  scripts : v.scripts = w.scripts
  pipelines : v.pipelines = w.pipelines
  deliveries : v.deliveries = w.deliveries
  subscribers : v.subscribers.length = w.subscribers.length
  asked : v.productions = w.productions
  number : v.nextResult = w.nextResult

lemma Talks.refl (w : World) : Talks w w := ⟨rfl, rfl, rfl, rfl, rfl, rfl, rfl⟩

lemma Talks.trans (h : Talks u v) (h' : Talks v w) : Talks u w :=
  ⟨h'.runtime.trans h.runtime, h'.scripts.trans h.scripts, h'.pipelines.trans h.pipelines,
    h'.deliveries.trans h.deliveries, h'.subscribers.trans h.subscribers, h'.asked.trans h.asked,
    h'.number.trans h.number⟩

lemma Talks.engine (h : Talks w v) (host : String) : v.engine host = w.engine host := by
  unfold World.engine World.pipeline
  rw [h.pipelines]

lemma Talks.told {P : Action → Prop} (h : Talks w v) (ht : w.Told P) : v.Told P := by
  unfold World.Told
  rw [h.scripts]
  exact ht

lemma Talks.delivers (h : Talks w v) (host : String) : Delivers host w v where
  runtime := h.runtime
  scripts := h.scripts
  policy := by
    unfold World.policy World.pipeline
    rw [h.pipelines]
  subscribers := h.subscribers
  nodes := by rw [h.engine]
  subscriptions := by rw [h.engine]
  cached := fun s => by rw [h.engine]
  flying := fun s => by rw [h.engine]
  asked := h.asked
  number := h.number

/-- Nobody is called, and what runs goes on running. -/
structure Hums (w v : World) : Prop extends Talks w v where
  calls : ∀ c, v.callsTo c = w.callsTo c
  focus : v.focus = w.focus
  driving : v.driving = w.driving

lemma Hums.refl (w : World) : Hums w w := ⟨.refl w, fun _ => rfl, rfl, rfl⟩

lemma Hums.trans (h : Hums u v) (h' : Hums v w) : Hums u w :=
  ⟨h.toTalks.trans h'.toTalks, fun c => (h'.calls c).trans (h.calls c), h'.focus.trans h.focus,
    h'.driving.trans h.driving⟩

/-- What else may change. -/
lemma Hums.goOn (h : Hums u v) (cells : Table String Outcome) (valves : List Valve)
    (flights : List Flight) (tasks : List Task) (rewoken : Bool) (callbacks : Table String Nat)
    (subscriptions : Table String Subscription) :
    Hums u { v with cells, valves, flights, tasks, rewoken, callbacks, subscriptions } :=
  ⟨⟨h.runtime, h.scripts, h.pipelines, h.deliveries, h.subscribers, h.asked, h.number⟩, h.calls, h.focus,
    h.driving⟩

lemma hums_modifyTask (w : World) (i : Nat) (g : Task → Task) : Hums w (w.modifyTask i g) := by
  rcases w.modifyTask_cases i g with ⟨task, -, heq⟩ | heq <;> rw [heq]
  · exact (Hums.refl w).goOn ..
  · exact .refl w

/-- Tasks that are over are not woken. -/
lemma LoneFan.enqueues (h : w.LoneFan t f) (i : Nat) :
    Hums w (w.enqueue i) ∧ (w.enqueue i).LoneFan t f := by
  by_cases hi : i = t
  · subst hi
    rw [h.enqueue]
    exact ⟨(Hums.refl w).goOn .., h.same rfl rfl rfl⟩
  · have hdead : w.live i = false := by
      refine Bool.eq_false_iff.mpr fun hlive => ?_
      obtain ⟨task, hm, he⟩ := live_iff.mp hlive
      have hended := h.others i task hi hm
      rw [he] at hended
      cases hended
    unfold World.enqueue
    rw [hdead]
    exact ⟨.refl w, h⟩

/-- Another task may change as long as it stays over. -/
lemma LoneFan.modifyOther (h : w.LoneFan t f) {i : Nat} (hi : i ≠ t) (g : Task → Task)
    (hg : ∀ task, (g task).ended = task.ended) : (w.modifyTask i g).LoneFan t f := by
  rcases w.modifyTask_cases i g with ⟨task, hm, heq⟩ | heq <;> rw [heq]
  · obtain ⟨own, hown, hj⟩ := h.own
    refine ⟨h.running, ⟨own, (List.getElem?_set_ne hi).trans hown, hj⟩, fun n other hn ho => ?_,
      h.queue⟩
    by_cases hin : i = n
    · subst hin
      obtain rfl : g task = other := by
        rw [← Option.some.injEq, ← ho]
        exact (List.getElem?_set_self (List.getElem?_eq_some_iff.mp hm).1).symm
      rw [hg]
      exact h.others i task hi hm
    · exact h.others n other hn ((List.getElem?_set_ne hin).symm.trans ho)
  · exact h

lemma LoneFan.stirs (h : w.LoneFan t f) (he : f.current? = some e) (i key : Nat) : ∃ f',
    Hums w (w.stir i key) ∧ (w.stir i key).LoneFan t f' ∧ f.Refits (some e) f' := by
  by_cases hi : i = t
  · subst hi
    obtain ⟨rewoken, hstir⟩ := h.stir key
    obtain ⟨tasks, hset, halone⟩ := h.setFan (f.stir key)
    rw [hstir, hset]
    refine ⟨f.stir key, (Hums.refl w).goOn .., halone _ rfl rfl rfl, ?_⟩
    obtain ⟨hb, hw, hc, -⟩ := Fan.refits_self he
    exact ⟨hb, hw, hc, f.ready_stir key⟩
  · have hself := Fan.refits_self he
    rcases w.stir_cases i key with ⟨-, f', -, -, w', rfl, heq⟩ | heq
    · have hums := hums_modifyTask w i fun task => { task with job := .fan (f'.stir key) }
      have hmodify := h.modifyOther hi fun task => { task with job := .fan (f'.stir key) }
      rcases heq with heq | heq <;> rw [heq]
      · exact ⟨f, hums, hmodify fun _ => rfl, hself⟩
      · obtain ⟨hums', halone⟩ := (hmodify fun _ => rfl).enqueues i
        exact ⟨f, hums.trans hums', halone, hself⟩
    · rw [heq]
      exact ⟨f, .refl w, h, hself⟩

/-- Whoever is woken, at most branches of the fan are to be polled then. -/
lemma LoneFan.wakes (h : w.LoneFan t f) (he : f.current? = some e) (waiters : List Waiter) : ∃ f',
    Hums w (w.wake waiters) ∧ (w.wake waiters).LoneFan t f' ∧ f.Refits (some e) f' := by
  have hgo : ∀ (k : Nat) (waiters : List Waiter) (w : World) (f : Fan), w.LoneFan t f →
      f.current? = some e → ∃ f', Hums w (wakeWithin k waiters w) ∧
        (wakeWithin k waiters w).LoneFan t f' ∧ f.Refits (some e) f' := by
    intro k
    induction k with
    | zero => exact fun waiters w f h he => ⟨f, .refl w, h, Fan.refits_self he⟩
    | succ k ih =>
      intro waiters w f h he
      cases waiters with
      | nil => exact ⟨f, .refl w, h, Fan.refits_self he⟩
      | cons waiter rest =>
        cases waiter with
        | task i =>
          obtain ⟨hums, halone⟩ := h.enqueues i
          obtain ⟨f', hums', halone', hfit⟩ := ih rest _ f halone he
          exact ⟨f', hums.trans hums', halone', hfit⟩
        | branch i key =>
          obtain ⟨f₁, hums, halone, hfit⟩ := h.stirs he i key
          obtain ⟨f', hums', halone', hfit'⟩ := ih rest _ f₁ halone (hfit.current? (by rw [he]; rfl))
          exact ⟨f', hums.trans hums', halone', hfit.trans hfit'⟩
        | flight ticket =>
          have hrouse : Hums w (w.rouse ticket) ∧ (w.rouse ticket).LoneFan t f := by
            rcases w.rouse_cases ticket with ⟨f, -, heq⟩ | heq <;> rw [heq]
            · exact ⟨(Hums.refl w).goOn .., h.same rfl rfl rfl⟩
            · exact ⟨.refl w, h⟩
          obtain ⟨f', hums', halone', hfit⟩ := ih (w.waitersOf ticket ++ rest) _ f hrouse.2 he
          exact ⟨f', hrouse.1.trans hums', halone', hfit⟩
  exact hgo _ waiters w f h he

/-- What is about no pipeline changes nothing that the task is concerned with. -/
lemma LoneFan.performs (h : w.LoneFan t f) (he : f.current? = some e) {a : Action} (ha : a.Detached) :
    (∃ text, w.perform a = (w, .panic text)) ∨ ∃ v reply f', w.perform a = (v, .reply reply) ∧
      Hums w v ∧ v.LoneFan t f' ∧ f.Refits (some e) f' := by
  have hself := Fan.refits_self he
  cases a with
  | panic text => exact .inl ⟨text, rfl⟩
  | settle | setCell _ _ | dropSubscription _ | dropCallback _ | unknown _ =>
    exact .inr ⟨_, _, f, rfl, (Hums.refl w).goOn .., h.same rfl rfl rfl, hself⟩
  | resolve choice o =>
    refine .inr ?_
    show ∃ v reply f', w.resolve choice o = _ ∧ _
    unfold World.resolve
    cases w.chosen? choice with
    | none => exact ⟨w, _, f, rfl, .refl w, h, hself⟩
    | some i =>
      have hvalves : ({ w with valves := w.valves.set i { opened := some o } } : World).LoneFan t f :=
        h.same rfl rfl rfl
      obtain ⟨f', hums, halone, hfit⟩ := hvalves.wakes he ((w.valves[i]?).bind Valve.waiter).toList
      exact ⟨_, _, f', rfl, ((Hums.refl w).goOn ..).trans hums, halone, hfit⟩
  | _ => exact ha.elim

variable {slot : Slot} {callback : String} {queue : List Nat}

/-- A subscriber that acts on no pipeline comes to its end. -/
lemma LoneFan.acts {script : List Action} (hn : ∀ a ∈ script, a.Detached) (h : w.LoneFan t f)
    (hd : w.driving = []) (hf : w.focus = .emission)
    (hc : f.current? = some ⟨host, slot, .acting pass r queue callback script⟩) (hcalm : w.NeverPanics) :
    ∃ v f', RunsTo w v ∧ Talks w v ∧ (∀ c, v.callsTo c = w.callsTo c) ∧ v.LoneFan t f' ∧
      f.Refits (some ⟨host, slot, .calling pass r queue⟩) f' ∧ v.focus = .emission ∧
      v.driving = [] := by
  have hsome : f.current?.isSome = true := by rw [hc]; rfl
  have hgo : RunsTo w w.step := runsTo_step (by rw [hf]; rintro ⟨⟩)
  have hstep : w.step = w.actNext ⟨host, slot, .acting pass r queue callback script⟩ pass r queue callback
      script := by
    rw [step_of_emission hf]
    unfold goOn
    rw [h.party hd hc]
  induction script generalizing w f with
  | nil =>
    obtain ⟨tasks, hset, halone⟩ := h.setEmission ⟨host, slot, .calling pass r queue⟩
    have hact : w.step = { w with tasks } := hstep.trans hset
    refine ⟨w.step, f.setCurrent (some ⟨host, slot, .calling pass r queue⟩), hgo, ?_⟩
    rw [hact]
    exact ⟨⟨rfl, rfl, rfl, rfl, rfl, rfl, rfl⟩, fun c => rfl, halone _ rfl rfl rfl,
      Fan.refits_setCurrent f _, hf, hd⟩
  | cons a script ih =>
    rcases h.performs hc (hn a List.mem_cons_self) with ⟨text, ha⟩ | ⟨u, reply, f₁, ha, hums, halone,
      hfit₁⟩
    · have hpanic : w.step = w.breakDown .subscriber text := by
        rw [hstep]
        unfold actNext
        dsimp only
        rw [ha]
      exact absurd (by rw [hpanic]; rfl) ((hcalm.runsTo hgo).focus text)
    · have hlogged : (u.log (.acted callback reply)).LoneFan t f₁ := halone.same rfl rfl rfl
      obtain ⟨tasks, hset, hnext⟩ :=
        hlogged.setEmission ⟨host, slot, .acting pass r queue callback script⟩
      have hact : w.step = { u.log (.acted callback reply) with tasks } := by
        rw [hstep]
        unfold actNext
        dsimp only
        rw [ha]
        exact hset
      have hfit₂ := hfit₁.trans
        (Fan.refits_setCurrent f₁ (some ⟨host, slot, .acting pass r queue callback script⟩))
      have hc' := hfit₂.current? hsome
      have hstill : w.step.LoneFan t
          (f₁.setCurrent (some ⟨host, slot, .acting pass r queue callback script⟩)) := by
        rw [hact]
        exact hnext _ rfl rfl rfl
      have hfocus : w.step.focus = .emission := by rw [hact]; exact hums.focus.trans hf
      have hdriving : w.step.driving = [] := by rw [hact]; exact hums.driving.trans hd
      obtain ⟨v, f', hv, htalks, hcalls, hv', hfit, hlast⟩ := ih
        (fun a ha => hn a (List.mem_cons_of_mem _ ha)) hstill hdriving hfocus hc' (hcalm.runsTo hgo)
        (by rw [hc']; rfl) (runsTo_step (by rw [hfocus]; rintro ⟨⟩))
        (by
          rw [step_of_emission hfocus]
          unfold goOn
          rw [hstill.party hdriving hc'])
      refine ⟨v, f', hgo.trans hv, Talks.trans (hums.toTalks.trans ?_) htalks, fun c => ?_, hv',
        hfit₂.trans hfit, hlast⟩
      · rw [hact]
        exact ⟨rfl, rfl, rfl, rfl, rfl, (productions_log _ _).trans (List.append_nil _), rfl⟩
      · rw [hcalls, hact]
        exact (callsTo_log _ _ c).trans (hums.calls c)

/-- All who were selected are called. -/
lemma LoneFan.calls (ht : w.Told Action.Detached) (hb : ∀ c ∈ queue, c < w.subscribers.length)
    (h : w.LoneFan t f) (hd : w.driving = []) (hf : w.focus = .emission)
    (hc : f.current? = some ⟨host, slot, .calling pass r queue⟩) (hcalm : w.NeverPanics) :
    ∃ v f', RunsTo w v ∧ Talks w v ∧ (∀ c, v.callsTo c = w.callsTo c + queue.count c) ∧
      v.LoneFan t f' ∧ f.Refits (some ⟨host, slot, .calling pass r []⟩) f' ∧ v.focus = .emission ∧
      v.driving = [] := by
  induction queue generalizing w f with
  | nil => exact ⟨w, f, .refl w, .refl w, fun c => rfl, h, Fan.refits_self hc, hf, hd⟩
  | cons d queue ih =>
    have hsome : f.current?.isSome = true := by rw [hc]; rfl
    have hgo : RunsTo w w.step := runsTo_step (by rw [hf]; rintro ⟨⟩)
    obtain ⟨s, hs⟩ : ∃ s, w.subscribers[d]? = some s :=
      ⟨_, List.getElem?_eq_getElem (hb d List.mem_cons_self)⟩
    generalize hscript : (((w.scripts.get? s.callback).getD [])[s.calls]?).getD [] = script
    have hneutral : ∀ a ∈ script, a.Detached := by
      intro a ha
      rw [← hscript] at ha
      cases hl : w.scripts.get? s.callback with
      | none => simp [hl] at ha
      | some l =>
        rw [hl, Option.getD_some] at ha
        cases hg : l[s.calls]? with
        | none => simp [hg] at ha
        | some actions =>
          rw [hg, Option.getD_some] at ha
          exact ht s.callback l actions hl (List.mem_of_getElem? hg) a ha
    have halone : (({ w with subscribers := w.subscribers.set d { s with calls := s.calls + 1 } } :
        World).log (.called host slot d s.callback r)).LoneFan t f := h.same rfl rfl rfl
    obtain ⟨tasks, hset, hnext⟩ :=
      halone.setEmission ⟨host, slot, .acting pass r queue s.callback script⟩
    have hcall : w.step = { ({ w with
        subscribers := w.subscribers.set d { s with calls := s.calls + 1 } } : World).log
          (.called host slot d s.callback r) with tasks } := by
      rw [step_of_emission hf]
      unfold goOn
      rw [h.party hd hc]
      dsimp only
      unfold callNext
      dsimp only
      rw [hs]
      dsimp only
      rw [hscript]
      exact hset
    have hc' := Fan.current?_setCurrent hsome
      (some ⟨host, slot, .acting pass r queue s.callback script⟩)
    obtain ⟨v, f₁, hv, htalks, hcalls, hv', hfit, hfocus, hdriving⟩ := LoneFan.acts (w := w.step) hneutral
      (by rw [hcall]; exact hnext _ rfl rfl rfl) (by rw [hcall]; exact hd) (by rw [hcall]; exact hf) hc'
      (hcalm.runsTo hgo)
    have hfirst : Talks w w.step := by
      rw [hcall]
      exact ⟨rfl, rfl, rfl, rfl, List.length_set .., (productions_log _ _).trans (List.append_nil _), rfl⟩
    have hall := hfirst.trans htalks
    have hrun := hgo.trans hv
    obtain ⟨u, f₂, hu, htalks', hcalls', hu', hfit', hlast⟩ := ih (hall.told ht)
      (fun c hm => by rw [hall.subscribers]; exact hb c (List.mem_cons_of_mem _ hm)) hv' hdriving hfocus
      (hfit.current? (by rw [hc']; rfl)) (hcalm.runsTo hrun)
    refine ⟨u, f₂, hrun.trans hu, hall.trans htalks', fun c => ?_, hu',
      ((Fan.refits_setCurrent f _).trans hfit).trans hfit', hlast⟩
    have hone : w.step.callsTo c = w.callsTo c + if d = c then 1 else 0 := by
      rw [hcall]
      refine (callsTo_log _ _ c).trans ?_
      show w.callsTo c + (if (d == c) = true then 1 else 0) = _
      simp
    rw [hcalls', hcalls, hone, List.count_cons]
    simp only [beq_iff_eq]
    omega

/-- What the task holds of gates is what the branches of its fan hold. -/
lemma LoneFan.stake? (h : w.LoneFan t f) (i : Nat) :
    w.stake? t i = (f.branch? i).bind Emission.stake? := by
  obtain ⟨task, ht, hj, -⟩ := h.own
  unfold World.stake?
  rw [ht, Option.bind_some, hj]
  rfl

/-- Whoever is through the gate wakes the next in line. -/
lemma LoneFan.makesWay (h : w.LoneFan t f) (pass : Pass) (hc : f.current? = some e) {g : Gate}
    (hg : (w.engine e.host).gate? e.slot = some g) (hid : g.id = pass.gate)
    (hl : g.leads pass.number = true)
    (hw : ∀ p ∈ (w.engine e.host).lineAt e.slot, p.1 ≠ pass.number →
      ∃ i, (f.branch? i).isSome = true ∧ p.2 = f.seat t i) :
    ∃ tasks rewoken f', w.makeWay e pass =
        { w.setEngine e.host ((w.engine e.host).stepOut e.slot pass) with tasks, rewoken } ∧
      f.Refits (some e) f' ∧
      (∀ v : World, v.running = w.running → v.tasks = tasks → v.queue = w.queue → v.LoneFan t f') ∧
      (f.wide = true → ∀ p rest, ((w.engine e.host).lineAt e.slot).filter (·.1 != pass.number) =
        p :: rest → ∃ i, p.2 = f.seat t i ∧ i ∈ f'.ready) := by
  generalize hu : w.setEngine e.host ((w.engine e.host).stepOut e.slot pass) = u
  have hengine : u.engine e.host = (w.engine e.host).stepOut e.slot pass := by
    rw [← hu, engine_setEngine, if_pos rfl]
  have halone : u.LoneFan t f := by
    rw [← hu]
    exact h.same rfl rfl rfl
  have hline : (u.engine e.host).line e.slot pass =
      ((w.engine e.host).lineAt e.slot).filter (·.1 != pass.number) := by
    rw [hengine, Engine.line_eq_lineAt (Engine.gate?_stepOut hg hid) hid,
      Engine.lineAt_stepOut hg hid, if_pos rfl]
  have hway : w.makeWay e pass = u.wake
      ((((w.engine e.host).lineAt e.slot).filter (·.1 != pass.number)).head?.map (·.2)).toList := by
    unfold makeWay
    dsimp only
    rw [hu, if_pos (Engine.isFirst_iff.mpr ⟨g, hg, hid, hl⟩), hline]
  rw [hway]
  cases hfilter : ((w.engine e.host).lineAt e.slot).filter (·.1 != pass.number) with
  | nil =>
    refine ⟨u.tasks, u.rewoken, f, wake_nil u, Fan.refits_self hc, fun v hr ht hq => ?_, ?_⟩
    · rw [← hu] at ht
      exact h.same hr ht hq
    · rintro - p rest ⟨⟩
  | cons p rest =>
    have hp : p ∈ ((w.engine e.host).lineAt e.slot).filter (·.1 != pass.number) := by
      rw [hfilter]
      exact List.mem_cons_self
    rw [List.mem_filter] at hp
    obtain ⟨i, hi, hseat⟩ := hw p hp.1 (by simpa using hp.2)
    obtain ⟨tasks, rewoken, hwake, hnudged⟩ := halone.wake_frame i
    refine ⟨tasks, rewoken, f.nudge i, ?_, (Fan.refits_self hc).nudge i, fun v hr ht hq => ?_, ?_⟩
    · show u.wake [p.2] = _
      rw [hseat, hwake]
    · exact hnudged v (by rw [hr, ← hu]; rfl) ht (by rw [hq, ← hu]; rfl)
    · rintro hwide p' rest' ⟨⟩
      exact ⟨i, hseat, Fan.mem_ready_nudge hwide hi⟩

/-- Whoever leaves the gate is in line no more, and everybody else is as before. -/
lemma lineAt_left (hr : Reachable sc.opening w) {g : Gate}
    (hg : (w.engine host).gate? slot = some g) (hid : g.id = pass.gate) (s : Slot) :
    (((w.engine host).stepOut slot pass).leave slot pass).lineAt s =
      if slot = s then ((w.engine host).lineAt slot).filter (·.1 != pass.number)
      else (w.engine host).lineAt s := by
  rw [← Engine.lineAt_stepOut hg hid]
  rcases Engine.lineAt_leave ((w.engine host).stepOut slot pass) slot s pass with
    heq | ⟨rfl, hnil, g', hg', hholders⟩
  · exact heq
  · -- Whoever is left in line holds the gate, but the last holder has gone.
    rw [hnil, Engine.lineAt_stepOut hg hid, if_pos rfl]
    refine (List.eq_nil_iff_forall_not_mem.mpr fun p hp => ?_).symm
    rw [List.mem_filter] at hp
    obtain ⟨u', i, x, hx, rfl, rfl, hn⟩ := Scene.lined_of_reachable hr host _ p hp.1
    obtain ⟨g₂, hg₂, -, hm₂, -⟩ := (Scene.kept_of_reachable hr).held u' i x hx
    rw [Engine.gate?_stepOut hg hid] at hg'
    cases hg'
    cases hg.symm.trans hg₂
    rw [hholders, List.mem_singleton, hn] at hm₂
    simp [hm₂] at hp

/-- The emission that has called everybody leaves the gate, and its branch is over. -/
lemma LoneFan.leaves (h : w.LoneFan t f) (hr : Reachable sc.opening w) (hd : w.driving = [])
    (hf : w.focus = .emission) (hc : f.current? = some ⟨host, slot, .calling pass r []⟩)
    (hw : ∀ p ∈ (w.engine host).lineAt slot, p.1 ≠ pass.number →
      ∃ i, (f.branch? i).isSome = true ∧ p.2 = f.seat t i) :
    ∃ f', Delivers host w w.step ∧ w.step.LoneFan t f' ∧ f.Refits none f' ∧
      w.step.focus = .next true ∧ w.step.driving = [] ∧ w.step.deliveries = w.deliveries ∧
      (w.step.engine host).delivered = (w.engine host).delivered ∧
      (∀ c, w.step.callsTo c = w.callsTo c) ∧
      (∀ s, (w.step.engine host).lineAt s =
        if slot = s then ((w.engine host).lineAt slot).filter (·.1 != pass.number)
        else (w.engine host).lineAt s) ∧
      (f.wide = true → ∀ p rest, ((w.engine host).lineAt slot).filter (·.1 != pass.number) =
        p :: rest → ∃ i, p.2 = f.seat t i ∧ i ∈ f'.ready) := by
  have hstake : w.stake? t f.cursor = some ⟨host, slot, pass, true⟩ := by
    rw [h.stake?]
    unfold Fan.current? at hc
    rw [hc]
    rfl
  obtain ⟨g, hg, hid, hm, hlead⟩ := (Scene.kept_of_reachable hr).held t f.cursor _ hstake
  replace hg : (w.engine host).gate? slot = some g := hg
  replace hid : g.id = pass.gate := hid
  obtain ⟨tasks, rewoken, f', hway, hfit, halone, hnext⟩ :=
    h.makesWay pass hc hg hid (hlead rfl) hw
  dsimp only at hway hnext
  generalize hE : ((w.engine host).stepOut slot pass).leave slot pass = E
  generalize hu : ({ w.setEngine host ((w.engine host).stepOut slot pass) with tasks, rewoken } :
    World) = u at hway
  have hengine : u.engine host = (w.engine host).stepOut slot pass := by
    rw [← hu]
    exact (engine_setEngine _ _ _ _).trans (if_pos rfl)
  have hleft : ((u.setEngine host E).log (.left host slot pass)).LoneFan t f' := by
    rw [← hu]
    exact halone _ rfl rfl rfl
  obtain ⟨tasks', hset, hnext'⟩ := hleft.setFan (f'.setCurrent none)
  have hstep : w.step = { (u.setEngine host E).log (.left host slot pass) with
      tasks := tasks', focus := .next true } := by
    rw [step_of_emission hf]
    unfold goOn
    rw [h.party hd hc]
    dsimp only
    unfold callNext finishEmission
    dsimp only
    rw [hway, hengine, hE, hleft.job]
    dsimp only
    rw [hset]
    rfl
  have hdelivers : Delivers host w ((u.setEngine host E).log (.left host slot pass)) := by
    have hout : Delivers host w u := by
      rw [← hu]
      exact ((Delivers.refl host w).regate (Engine.regated_modifyGate _ _ _ _)).goOn ..
    refine (hout.regate ?_).log rfl
    rw [hengine, ← hE]
    exact Engine.regated_leave _ _ _
  have hafter : w.step.engine host = E := by
    rw [hstep]
    exact (engine_setEngine _ _ _ _).trans (if_pos rfl)
  refine ⟨f'.setCurrent none, ?_, ?_, hfit.trans (Fan.refits_setCurrent f' none), ?_, ?_, ?_, ?_,
    fun c => ?_, fun s => ?_, hnext⟩
  · rw [hstep]
    exact hdelivers.goOn ..
  · rw [hstep]
    exact hnext' _ rfl rfl rfl
  · rw [hstep]
  · rw [hstep, ← hu]
    exact hd
  · rw [hstep, ← hu]
    rfl
  · rw [hafter, ← hE]
    exact delivered_regated ((Engine.regated_modifyGate _ _ _ _).trans (Engine.regated_leave _ _ _))
  · rw [hstep]
    refine (callsTo_log _ _ c).trans ?_
    rw [← hu]
    rfl
  · rw [hafter, ← hE]
    exact lineAt_left hr hg hid s

end World

end Dataflow
