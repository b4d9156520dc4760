import Dataflow.Proofs.LoneTasks

/-!
# Productions that do not wait

An emission of a task that is left alone looks for the result of its slot. Where there is none and none
is in flight, a flight takes off, and if its node does not wait for anything the flight lands before
anything else is done. Either way the slot is cached when the emission comes to the gate.
-/

namespace Dataflow

/-- The recipe waits for nothing, whatever it reads. -/
inductive Recipe.Prompt : Recipe → Prop
  | finish (handed : Except Cause Payload) : Prompt (.finish handed)
  | crash (text : String) : Prompt (.crash text)
  | peek (cell : String) (rest : Option Outcome → Recipe) :
      (∀ found, Prompt (rest found)) → Prompt (.peek cell rest)
  | announce (what : Announcement) (rest : Recipe) : Prompt rest → Prompt (.announce what rest)

/-- What a node is asked for. -/
def Event.production? : Event → Option (String × Slot)
  | .begun host slot _ => some (host, slot)
  | _ => none

def Event.isCallTo (c : Nat) : Event → Bool
  | .called _ _ d _ _ => d == c
  | _ => false

namespace Fan

variable {f f' f'' : Fan} {b c : Option Emission}

/-- One branch has gone on. Others may have been woken. -/
structure Refits (f : Fan) (b : Option Emission) (f' : Fan) : Prop where
  branches : f'.branches = f.branches.set f.cursor b
  wide : f'.wide = f.wide
  cursor : f'.cursor = f.cursor
  ready : ∃ more, f'.ready = f.ready ++ more

lemma refits_setCurrent (f : Fan) (b : Option Emission) : f.Refits b (f.setCurrent b) :=
  ⟨rfl, rfl, rfl, [], (List.append_nil _).symm⟩

/-- A branch that has not gone on. -/
lemma refits_self {e : Emission} (h : f.current? = some e) : f.Refits (some e) f := by
  refine ⟨?_, rfl, rfl, [], (List.append_nil _).symm⟩
  obtain ⟨b, hb, heq⟩ := Option.bind_eq_some_iff.mp h
  obtain ⟨hlt, hget⟩ := List.getElem?_eq_some_iff.mp hb
  obtain rfl : b = some e := heq
  exact (hget ▸ List.set_getElem_self hlt).symm

lemma Refits.nudge (h : f.Refits b f') (i : Nat) : f.Refits b (f'.nudge i) := by
  obtain ⟨more, hmore⟩ := h.ready
  obtain ⟨more', hmore'⟩ := f'.ready_nudge i
  exact ⟨by rw [branches_nudge, h.branches], by rw [wide_nudge, h.wide],
    by rw [cursor_nudge, h.cursor], more ++ more', by rw [hmore', hmore, List.append_assoc]⟩

lemma Refits.current? (h : f.Refits b f') (hc : f.current?.isSome = true) : f'.current? = b := by
  rw [← current?_setCurrent hc b]
  unfold Fan.current? Fan.branch?
  rw [h.branches, h.cursor]
  rfl

lemma Refits.trans (h : f.Refits b f') (h' : f'.Refits c f'') : f.Refits c f'' := by
  obtain ⟨more, hmore⟩ := h.ready
  obtain ⟨more', hmore'⟩ := h'.ready
  exact ⟨by rw [h'.branches, h.branches, h.cursor, List.set_set], h'.wide.trans h.wide,
    h'.cursor.trans h.cursor, more ++ more', by rw [hmore', hmore, List.append_assoc]⟩

end Fan

lemma Engine.target_eq_ok {e : Engine} {s : Slot} {n : Node} {schema : Schema} :
    e.target s = .ok (n, schema) ↔
      e.nodes.get? s.node = some n ∧ n.outputs.get? s.output = some schema := by
  unfold target node
  cases hn : e.nodes.get? s.node with
  | none => simp
  | some n' =>
    dsimp only
    cases ho : n'.outputs.get? s.output with
    | none =>
      simp only [reduceCtorEq, false_iff, Option.some.injEq, not_and]
      rintro rfl
      rw [ho]
      rintro ⟨⟩
    | some schema' =>
      simp only [Except.ok.injEq, Prod.mk.injEq, Option.some.injEq]
      constructor
      · rintro ⟨rfl, rfl⟩
        exact ⟨rfl, ho⟩
      · rintro ⟨rfl, hs⟩
        rw [ho] at hs
        exact ⟨rfl, Option.some.inj hs⟩

namespace World

variable {sc : Scene} {t : Nat} {f : Fan} {u v w : World} {e : Emission} {host : String} {pass : Pass}

/-- What nodes were asked for so far, in order. -/
def productions (w : World) : List (String × Slot) := w.journal.reverse.filterMap Event.production?

/-- How often the subscriber was called so far. -/
def callsTo (w : World) (c : Nat) : Nat := w.journal.countP (Event.isCallTo c)

@[simp] lemma productions_log (w : World) (x : Event) :
    (w.log x).productions = w.productions ++ x.production?.toList := by
  show (x :: w.journal).reverse.filterMap _ = w.journal.reverse.filterMap _ ++ _
  rw [List.reverse_cons, List.filterMap_append]
  cases h : x.production? <;> simp [h]

lemma callsTo_log (w : World) (x : Event) (c : Nat) :
    (w.log x).callsTo c = w.callsTo c + if x.isCallTo c then 1 else 0 :=
  List.countP_cons

/-- Nobody is called meanwhile, and nobody comes to a gate or goes. -/
structure Produces (host : String) (w v : World) : Prop where
  runtime : v.runtime = w.runtime
  scripts : v.scripts = w.scripts
  deliveries : v.deliveries = w.deliveries
  policy : v.policy = w.policy
  subscribers : v.subscribers = w.subscribers
  nodes : (v.engine host).nodes = (w.engine host).nodes
  subscriptions : (v.engine host).subscriptions = (w.engine host).subscriptions
  delivered : (v.engine host).delivered = (w.engine host).delivered
  line : ∀ s, (v.engine host).lineAt s = (w.engine host).lineAt s
  results : w.nextResult ≤ v.nextResult
  calls : ∀ c, v.callsTo c = w.callsTo c

lemma Produces.refl (host : String) (w : World) : Produces host w w :=
  ⟨rfl, rfl, rfl, rfl, rfl, rfl, rfl, rfl, fun _ => rfl, Nat.le_refl _, fun _ => rfl⟩

lemma Produces.trans (h : Produces host u v) (h' : Produces host v w) : Produces host u w where
  runtime := h'.runtime.trans h.runtime
  scripts := h'.scripts.trans h.scripts
  deliveries := h'.deliveries.trans h.deliveries
  policy := h'.policy.trans h.policy
  subscribers := h'.subscribers.trans h.subscribers
  nodes := h'.nodes.trans h.nodes
  subscriptions := h'.subscriptions.trans h.subscriptions
  delivered := h'.delivered.trans h.delivered
  line := fun s => (h'.line s).trans (h.line s)
  results := Nat.le_trans h.results h'.results
  calls := fun c => (h'.calls c).trans (h.calls c)

/-- What the running task is concerned with may change. -/
lemma Produces.rest (h : Produces host u v) (tasks : List Task) (flights : List Flight)
    (rewoken : Bool) (driving : List Nat) (focus : Focus) :
    Produces host u { v with tasks, flights, rewoken, driving, focus } :=
  ⟨h.runtime, h.scripts, h.deliveries, h.policy, h.subscribers, h.nodes, h.subscriptions, h.delivered,
    h.line, h.results, h.calls⟩

lemma Produces.log (h : Produces host u v) {x : Event} (hx : ∀ c, x.isCallTo c = false) :
    Produces host u (v.log x) :=
  { h with calls := fun c => by rw [callsTo_log, hx c, if_neg Bool.false_ne_true]; exact h.calls c }

lemma Produces.setEngine (h : Produces host u v) {E : Engine}
    (hn : E.nodes = (v.engine host).nodes) (hs : E.subscriptions = (v.engine host).subscriptions)
    (hd : E.delivered = (v.engine host).delivered) (hl : ∀ s, E.lineAt s = (v.engine host).lineAt s) :
    Produces host u (v.setEngine host E) :=
  { h with
    policy := by
      funext i
      rw [policy_setEngine, h.policy]
    nodes := by
      rw [engine_setEngine, if_pos rfl, hn]
      exact h.nodes
    subscriptions := by
      rw [engine_setEngine, if_pos rfl, hs]
      exact h.subscriptions
    delivered := by
      rw [engine_setEngine, if_pos rfl, hd]
      exact h.delivered
    line := fun s => by
      rw [engine_setEngine, if_pos rfl, hl]
      exact h.line s }

/-- Besides, nothing takes off or lands, and no node is asked for anything. -/
structure ProducesNothing (host : String) (w v : World) : Prop extends Produces host w v where
  cached : ∀ s, (v.engine host).cached s = (w.engine host).cached s
  flying : ∀ s, (v.engine host).flying s = (w.engine host).flying s
  asked : v.productions = w.productions
  number : v.nextResult = w.nextResult

lemma ProducesNothing.refl (host : String) (w : World) : ProducesNothing host w w :=
  ⟨.refl host w, fun _ => rfl, fun _ => rfl, rfl, rfl⟩

lemma ProducesNothing.trans (h : ProducesNothing host u v) (h' : ProducesNothing host v w) :
    ProducesNothing host u w where
  toProduces := h.toProduces.trans h'.toProduces
  cached := fun s => (h'.cached s).trans (h.cached s)
  flying := fun s => (h'.flying s).trans (h.flying s)
  asked := h'.asked.trans h.asked
  number := h'.number.trans h.number

lemma ProducesNothing.rest (h : ProducesNothing host u v) (tasks : List Task)
    (flights : List Flight) (rewoken : Bool)
    (driving : List Nat) (focus : Focus) :
    ProducesNothing host u { v with tasks, flights, rewoken, driving, focus } where
  toProduces := h.toProduces.rest tasks flights rewoken driving focus
  cached := h.cached
  flying := h.flying
  asked := h.asked
  number := h.number

lemma ProducesNothing.log (h : ProducesNothing host u v) {x : Event} (hx : ∀ c, x.isCallTo c = false)
    (hp : x.production? = none) : ProducesNothing host u (v.log x) where
  toProduces := h.toProduces.log hx
  cached := h.cached
  flying := h.flying
  asked := by
    rw [productions_log, hp]
    exact (List.append_nil _).trans h.asked
  number := h.number

lemma step_of_emission (hf : w.focus = .emission) : w.step = w.goOn := by
  unfold World.step
  rw [hf]

/-- An emission takes hold of the gate of its slot. -/
lemma LoneFan.enters (h : w.LoneFan t f) (hd : w.driving = []) (hf : w.focus = .emission)
    (hc : f.current? = some e) (hp : e.progress = .fresh) : ∃ pass, ProducesNothing e.host w w.step ∧
      w.step.LoneFan t (f.setCurrent (some { e with progress := .looking pass })) ∧
      w.step.focus = .emission ∧ w.step.driving = [] := by
  have hstep : w.step = w.enter e := by
    rw [step_of_emission hf]
    unfold goOn
    rw [h.party hd hc]
    dsimp only
    rw [hp]
  have henter : w.enter e = ((w.setEngine e.host ((w.engine e.host).enter e.slot).2).log
      (.entered e.host e.slot ((w.engine e.host).enter e.slot).1)).setEmission
        { e with progress := .looking ((w.engine e.host).enter e.slot).1 } := rfl
  have hentered : ProducesNothing e.host w ((w.setEngine e.host ((w.engine e.host).enter e.slot).2).log
      (.entered e.host e.slot ((w.engine e.host).enter e.slot).1)) := by
    refine ProducesNothing.log ⟨(Produces.refl _ w).setEngine
      (E := ((w.engine e.host).enter e.slot).2) rfl rfl rfl
      fun s => Engine.lineAt_enter, fun s => ?_, fun s => ?_, rfl, rfl⟩ (fun _ => rfl) rfl
    · rw [engine_setEngine, if_pos rfl]
      rfl
    · rw [engine_setEngine, if_pos rfl]
      rfl
  obtain ⟨tasks, hset, halone⟩ := (h.same (v := (w.setEngine e.host
    ((w.engine e.host).enter e.slot).2).log (.entered e.host e.slot ((w.engine e.host).enter e.slot).1))
      rfl rfl rfl).setEmission { e with progress := .looking ((w.engine e.host).enter e.slot).1 }
  rw [hstep, henter, hset]
  exact ⟨_, hentered.rest tasks _ _ _ _, halone _ rfl rfl rfl, hf, hd⟩

section

variable (h : w.LoneFan t f) (hd : w.driving = []) (hf : w.focus = .emission)
  (hc : f.current? = some e) (hp : e.progress = .looking pass)

include h hd hf hc hp

lemma LoneFan.step_look : w.step = w.look e pass := by
  rw [step_of_emission hf]
  unfold goOn
  rw [h.party hd hc]
  dsimp only
  rw [hp]

/-- It goes on to the gate where there is a result. -/
lemma LoneFan.finds {r : Result} (hr : (w.engine e.host).cached e.slot = some r) :
    ∃ clears, ProducesNothing e.host w w.step ∧
      w.step.LoneFan t (f.setCurrent (some { e with progress := .ready pass clears })) ∧
      w.step.focus = .emission ∧ w.step.driving = [] := by
  have hlook : w.look e pass = (w.log (.looked e.host e.slot pass)).setEmission
      { e with progress := .ready pass (w.engine e.host).clears } := by
    unfold look
    dsimp only
    rw [hr]
  obtain ⟨tasks, hset, halone⟩ := (h.same (v := w.log (.looked e.host e.slot pass)) rfl rfl
    rfl).setEmission { e with progress := .ready pass (w.engine e.host).clears }
  rw [h.step_look hd hf hc hp, hlook, hset]
  exact ⟨_, ((ProducesNothing.refl _ w).log (fun _ => rfl) rfl).rest tasks _ _ _ _,
    halone _ rfl rfl rfl, hf, hd⟩

/-- Where there is none, and none is under way, a flight takes off. -/
lemma LoneFan.setsOff (hr : (w.engine e.host).cached e.slot = none)
    (hn : (w.engine e.host).flying e.slot = none) :
    ∃ clears, Produces e.host w w.step ∧
      w.step.LoneFan t (f.setCurrent (some { e with
        progress := .waiting pass clears { ticket := w.flights.length } })) ∧
      w.step.focus = .poll { ticket := w.flights.length } ∧ w.step.driving = [] ∧
      w.step.flights = w.flights ++ [({ work := w.workOf e.host e.slot } : Flight)] ∧
      (∀ s, (w.step.engine e.host).cached s = (w.engine e.host).cached s) ∧
      (∀ s, (w.step.engine e.host).flying s =
        if e.slot = s then some w.flights.length else (w.engine e.host).flying s) ∧
      w.step.productions = w.productions ∧ w.step.nextResult = w.nextResult := by
  have hlook : w.look e pass = (((w.log (.looked e.host e.slot pass)).setOff e.host e.slot).setEmission
      { e with progress := .waiting pass (w.engine e.host).clears { ticket := w.flights.length } }).aim
        (.poll { ticket := w.flights.length }) := by
    have hn' : ((w.log (.looked e.host e.slot pass)).engine e.host).flying e.slot = none := hn
    unfold look join
    dsimp only
    rw [hr]
    dsimp only
    rw [hn']
    rfl
  obtain ⟨tasks, hset, halone⟩ := (h.same (v := (w.log (.looked e.host e.slot pass)).setOff e.host e.slot)
    rfl rfl rfl).setEmission
      { e with progress := .waiting pass (w.engine e.host).clears { ticket := w.flights.length } }
  have hoff : Produces e.host w ((w.log (.looked e.host e.slot pass)).setOff e.host e.slot) := by
    have hflight : Produces e.host w { w.log (.looked e.host e.slot pass) with
        flights := w.flights ++ [({ work := w.workOf e.host e.slot } : Flight)] } :=
      ((Produces.refl e.host w).log fun _ => rfl).rest _ _ _ _ _
    exact (hflight.setEngine (E := (w.engine e.host).takeOff e.slot w.flights.length) rfl rfl rfl
      fun _ => rfl).log fun _ => rfl
  have hengine : ((w.log (.looked e.host e.slot pass)).setOff e.host e.slot).engine e.host =
      (w.engine e.host).takeOff e.slot w.flights.length := by
    show (World.setEngine _ _ _).engine e.host = _
    rw [engine_setEngine, if_pos rfl]
    rfl
  rw [h.step_look hd hf hc hp, hlook, hset]
  refine ⟨_, hoff.rest tasks _ _ _ _, halone _ rfl rfl rfl, rfl, hd, rfl, fun s => ?_, fun s => ?_, ?_,
    rfl⟩
  · show (World.engine ((w.log _).setOff e.host e.slot) e.host).cached s = _
    rw [hengine]
    rfl
  · show (World.engine ((w.log _).setOff e.host e.slot) e.host).flying s = _
    rw [hengine, Engine.flying_takeOff]
  · exact ((productions_log _ _).trans (List.append_nil _)).trans
      ((productions_log _ _).trans (List.append_nil _))

end

/-! ## The flight -/

/-- The task waits for a flight, and nothing else is being driven. -/
structure Brewing (w : World) (t : Nat) (f : Fan) (ticket : Nat) (fl : Flight) : Prop where
  alone : w.LoneFan t f
  driving : w.driving = [ticket]
  flight : w.flights[ticket]? = some fl

variable {ticket : Nat} {fl : Flight} {own : Handle} {clears : Nat}

/-- A flight that has taken off is driven by the emission that waits for it. -/
lemma LoneFan.drives (h : w.LoneFan t f) (host : String) (hd : w.driving = []) (hc : f.current? = some e)
    (hp : e.progress = .waiting pass clears { ticket }) (hf : w.focus = .poll { ticket })
    (hfl : w.flights[ticket]? = some fl) (hst : fl.status = .idle) (hs : fl.seats = {}) :
    ProducesNothing host w w.step ∧ w.step.focus = .work ∧ w.step.Brewing t
      (f.setCurrent (some { e with progress := .waiting pass clears { ticket, seat := some 0 } })) ticket
      { fl with status := .driven, seats := { rows := [some (f.seat t f.cursor)] } } := by
  obtain ⟨tasks, hset, halone⟩ := h.setEmission
    { e with progress := .waiting pass clears { ticket, seat := some 0 } }
  have hkeep : w.keep { ticket, seat := some 0 } = { w with tasks } := by
    unfold keep
    rw [h.party hd hc]
    dsimp only
    rw [hp]
    exact hset
  have hpoll : w.pollFlight { ticket } = ({ (w.keep { ticket, seat := some 0 }).setFlight ticket
      { ((w.keep { ticket, seat := some 0 }).flights[ticket]?).getD fl with
        status := .driven
        seats := { rows := [some w.self] } } with
      driving := ticket :: (w.keep { ticket, seat := some 0 }).driving } : World).aim .work := by
    unfold pollFlight
    dsimp only
    rw [hfl]
    dsimp only
    rw [hst, hs]
    rfl
  have hfl' : ({ w with tasks } : World).flights[ticket]? = some fl := hfl
  have hstep : w.step = { { w with tasks }.setFlight ticket { fl with
      status := .driven
      seats := { rows := [some (f.seat t f.cursor)] } } with
      driving := [ticket]
      focus := .work } := by
    unfold World.step
    rw [hf]
    dsimp only
    rw [hpoll, hkeep, hfl', Option.getD_some, h.self hd, hd]
    rfl
  rw [hstep]
  refine ⟨(ProducesNothing.refl host w).rest _ _ _ _ _, rfl, halone _ rfl rfl rfl, rfl, ?_⟩
  exact List.getElem?_set_self (List.getElem?_eq_some_iff.mp hfl).1

/-- The flight has landed, and those who wait for it are still to be woken. -/
def touchDown (w : World) (ticket : Nat) (fl : Flight) (r : Result) : World :=
  ((w.setEngine fl.work.host ((w.engine fl.work.host).land fl.work.slot ticket r)).log
    (.landed fl.work.host fl.work.slot ticket r
      ((w.engine fl.work.host).flying fl.work.slot = some ticket))).setFlight ticket
        { fl with status := .landed r, seats := {} }

lemma land_eq (w : World) (ticket : Nat) (fl : Flight) (r : Result) :
    w.land ticket fl r = (w.touchDown ticket fl r).wake fl.seats.waiters := rfl

lemma step_of_make {r : Recipe} (hf : w.focus = .make r) : w.step = w.makeRecipe r := by
  unfold World.step
  rw [hf]

namespace Brewing

lemma party (h : w.Brewing t f ticket fl) : w.party = .work fl.work := by
  unfold World.party
  rw [h.driving]
  dsimp only
  rw [h.flight]

lemma setWork (h : w.Brewing t f ticket fl) (k : Work) :
    w.setWork k = w.setFlight ticket { fl with work := k } := by
  unfold World.setWork
  rw [h.driving]
  dsimp only
  rw [h.flight]

lemma same (h : w.Brewing t f ticket fl) (hr : v.running = w.running) (ht : v.tasks = w.tasks)
    (hq : v.queue = w.queue) (hd : v.driving = w.driving) (hf : v.flights = w.flights) :
    v.Brewing t f ticket fl :=
  ⟨h.alone.same hr ht hq, hd.trans h.driving, by rw [hf]; exact h.flight⟩

lemma setFlight (h : w.Brewing t f ticket fl) (fl' : Flight) :
    (w.setFlight ticket fl').Brewing t f ticket fl' :=
  ⟨h.alone.same rfl rfl rfl, h.driving,
    List.getElem?_set_self (List.getElem?_eq_some_iff.mp h.flight).1⟩

/-- The node is asked for what the flight is for. -/
lemma begins (h : w.Brewing t f ticket fl) (host : String) (hf : w.focus = .work)
    (hs : fl.work.stage = .fresh)
    {n : Node} {schema : Schema} (ht : fl.work.target = .ok (n, schema)) :
    Produces host w w.step ∧
      w.step.Brewing t f ticket { fl with work := { fl.work with stage := .away } } ∧
      w.step.focus = .make (n.produce fl.work.slot.output) ∧
      w.step.engine = w.engine ∧ w.step.nextResult = w.nextResult ∧
      w.step.productions = w.productions ++ [(fl.work.host, fl.work.slot)] := by
  have hstep : w.step = ((w.setFlight ticket { fl with work := { fl.work with stage := .away } }).log
      (.begun fl.work.host fl.work.slot (some ticket))).aim (.make (n.produce fl.work.slot.output)) := by
    unfold World.step
    rw [hf]
    dsimp only
    unfold resumeWork
    rw [h.party]
    dsimp only
    rw [hs, ht, h.setWork]
    dsimp only
    unfold ticket?
    rw [h.driving]
    rfl
  rw [hstep]
  refine ⟨?_, (h.setFlight _).same rfl rfl rfl rfl rfl, rfl, rfl, rfl, productions_log _ _⟩
  exact Produces.rest (v := World.log _ _) (((Produces.refl host w).rest _ _ _ _ _).log fun _ => rfl) ..

/-- A flight for what is not declared has come to its content at once. -/
lemma misses (h : w.Brewing t f ticket fl) (host : String) (hf : w.focus = .work)
    (hs : fl.work.stage = .fresh)
    {failure : Failure} (ht : fl.work.target = .error failure) :
    ProducesNothing host w w.step ∧
      w.step.Brewing t f ticket { fl with work := { fl.work with stage := .away } } ∧
      w.step.focus = .made (.error failure) := by
  have hstep : w.step = (w.setFlight ticket { fl with work := { fl.work with stage := .away } }).aim
      (.made (.error failure)) := by
    unfold World.step
    rw [hf]
    dsimp only
    unfold resumeWork
    rw [h.party]
    dsimp only
    rw [hs, ht, h.setWork]
  rw [hstep]
  exact ⟨(ProducesNothing.refl host w).rest _ _ _ _ _, (h.setFlight _).same rfl rfl rfl rfl rfl, rfl⟩

/-- A recipe that waits for nothing comes to its content before anything else is done. -/
lemma makes {r : Recipe} (hr : r.Prompt) (h : w.Brewing t f ticket fl) (host : String)
    (hf : w.focus = .make r) (hcalm : w.NeverPanics) : ∃ v c,
      RunsTo w v ∧ ProducesNothing host w v ∧ v.Brewing t f ticket fl ∧
      v.focus = .made c := by
  induction hr generalizing w with
  | finish handed =>
    have hgo : RunsTo w w.step := runsTo_step (by rw [hf]; rintro ⟨⟩)
    have hquiet := (hcalm.runsTo hgo).focus
    have hlogged : ProducesNothing host w (w.log (.handed fl.work.host fl.work.slot w.ticket? handed)) :=
      (ProducesNothing.refl host w).log (fun _ => rfl) rfl
    have hstep := step_of_make hf
    unfold makeRecipe at hstep
    rw [h.party] at hstep
    dsimp only at hstep
    cases hj : fl.work.judge handed with
    | ok c =>
      rw [hj] at hstep
      refine ⟨w.step, c, hgo, ?_, ?_, ?_⟩
      · rw [hstep]
        exact hlogged.rest _ _ _ _ _
      · rw [hstep]
        exact h.same rfl rfl rfl rfl rfl
      · rw [hstep]
        rfl
    | error text =>
      rw [hj] at hstep
      exact absurd (by rw [hstep]; rfl) (hquiet text)
  | crash text =>
    have hgo : RunsTo w w.step := runsTo_step (by rw [hf]; rintro ⟨⟩)
    have hstep := step_of_make hf
    unfold makeRecipe at hstep
    rw [h.party] at hstep
    exact absurd (by rw [hstep]; rfl) ((hcalm.runsTo hgo).focus text)
  | peek cell rest _ ih =>
    have hgo : RunsTo w w.step := runsTo_step (by rw [hf]; rintro ⟨⟩)
    have hstep : w.step = w.aim (.make (rest (w.cells.get? cell))) := by
      rw [step_of_make hf]
      unfold makeRecipe
      rw [h.party]
    obtain ⟨v, c, hv, hstill, hbrew, hmade⟩ := ih (w.cells.get? cell) (w := w.step)
      (by rw [hstep]; exact h.same rfl rfl rfl rfl rfl) (by rw [hstep]; rfl) (hcalm.runsTo hgo)
    refine ⟨v, c, hgo.trans hv, ProducesNothing.trans ?_ hstill, hbrew, hmade⟩
    rw [hstep]
    exact (ProducesNothing.refl host w).rest _ _ _ _ _
  | announce what rest _ ih =>
    have hgo : RunsTo w w.step := runsTo_step (by rw [hf]; rintro ⟨⟩)
    have hstep : w.step = (w.log (.producing what none)).aim (.make rest) := by
      rw [step_of_make hf]
      unfold makeRecipe
      rw [h.party]
    obtain ⟨v, c, hv, hstill, hbrew, hmade⟩ := ih (w := w.step)
      (by rw [hstep]; exact h.same rfl rfl rfl rfl rfl) (by rw [hstep]; rfl) (hcalm.runsTo hgo)
    refine ⟨v, c, hgo.trans hv, ProducesNothing.trans ?_ hstill, hbrew, hmade⟩
    rw [hstep]
    exact ((ProducesNothing.refl host w).log (fun _ => rfl) rfl).rest _ _ _ _ _

/-- The flight lands, and its result is kept. -/
lemma lands (h : w.Brewing t f ticket fl) {c : Content} (hf : w.focus = .made c)
    (hs : fl.seats.waiters = [f.seat t f.cursor])
    (hfly : (w.engine fl.work.host).flying fl.work.slot = some ticket) :
    Produces fl.work.host w w.step ∧ w.step.LoneFan t (f.nudge f.cursor) ∧ w.step.driving = [] ∧
      w.step.focus = .answer ⟨w.nextResult, c⟩ ∧ w.step.nextResult = w.nextResult + 1 ∧
      w.step.productions = w.productions ∧
      (∀ s, (w.step.engine fl.work.host).cached s = if fl.work.slot = s then some ⟨w.nextResult, c⟩
        else (w.engine fl.work.host).cached s) ∧
      ∀ s, (w.step.engine fl.work.host).flying s = if fl.work.slot = s then none
        else (w.engine fl.work.host).flying s := by
  have hgates : ∀ s, ((w.engine fl.work.host).land fl.work.slot ticket ⟨w.nextResult, c⟩).lineAt s =
      (w.engine fl.work.host).lineAt s := by
    intro s
    refine Engine.lineAt_congr ?_
    unfold Engine.land
    by_cases hf : (w.engine fl.work.host).flying fl.work.slot = some ticket
    · rw [if_pos hf]
      rfl
    · rw [if_neg hf]
  obtain ⟨hnodes, -, hsubscriptions, hdelivered⟩ :=
    Engine.land_frame (w.engine fl.work.host) fl.work.slot ticket ⟨w.nextResult, c⟩
  obtain ⟨tasks, rewoken, hwake, halone⟩ := LoneFan.wake_frame (w := { w with
    nextResult := w.nextResult + 1 }.touchDown ticket fl ⟨w.nextResult, c⟩)
      (h.alone.same rfl rfl rfl) f.cursor
  have hstep : w.step = { { w with nextResult := w.nextResult + 1 }.touchDown ticket fl
      ⟨w.nextResult, c⟩ with tasks, rewoken, driving := [], focus := .answer ⟨w.nextResult, c⟩ } := by
    unfold World.step
    rw [hf]
    dsimp only
    rw [finishWork_cons h.driving h.flight, land_eq, hs, hwake]
    rfl
  have hengine : ({ w with nextResult := w.nextResult + 1 }.touchDown ticket fl
      ⟨w.nextResult, c⟩).engine fl.work.host =
        (w.engine fl.work.host).land fl.work.slot ticket ⟨w.nextResult, c⟩ :=
    (engine_setEngine _ _ _ _).trans (if_pos rfl)
  have hnumber : Produces fl.work.host w { w with nextResult := w.nextResult + 1 } :=
    { Produces.refl fl.work.host w with results := Nat.le_succ _ }
  rw [hstep]
  refine ⟨?_, halone _ rfl rfl rfl, rfl, rfl, rfl, ?_, fun s => ?_, fun s => ?_⟩
  · exact Produces.rest (v := World.log _ _) ((hnumber.setEngine hnodes hsubscriptions hdelivered
      hgates).log fun _ => rfl) ..
  · exact (productions_log _ _).trans (List.append_nil _)
  · refine (congrArg (Engine.cached · s) hengine).trans ?_
    rw [Engine.cached_land]
    simp only [hfly, true_and]
  · refine (congrArg (Engine.flying · s) hengine).trans ?_
    rw [Engine.flying_land]
    simp only [hfly, true_and]

end Brewing

/-- Whoever waits for a flight goes on to the gate when it has landed. -/
lemma LoneFan.answered (h : w.LoneFan t f) (host : String) (hd : w.driving = [])
    (hc : f.current? = some e) {r : Result} (hp : e.progress = .waiting pass clears own)
      (hf : w.focus = .answer r) :
    ProducesNothing host w w.step ∧
      w.step.LoneFan t (f.setCurrent (some { e with progress := .ready pass clears })) ∧
      w.step.focus = .emission ∧ w.step.driving = [] := by
  obtain ⟨tasks, hset, halone⟩ := h.setEmission { e with progress := .ready pass clears }
  have hstep : w.step = (w.setEmission { e with progress := .ready pass clears }).aim .emission := by
    unfold World.step
    rw [hf]
    dsimp only
    unfold handAnswer
    rw [h.party hd hc]
    dsimp only
    rw [hp]
  rw [hstep, hset]
  exact ⟨(ProducesNothing.refl host w).rest _ _ _ _ _, halone _ rfl rfl rfl, rfl, hd⟩

/-- A flight whose node does not wait lands before anything else is done. -/
lemma LoneFan.flies (h : w.LoneFan t f) (hd : w.driving = []) (hc : f.current? = some e)
    (hp : e.progress = .waiting pass clears { ticket }) (hf : w.focus = .poll { ticket }) {k : Work}
    (hfl : w.flights[ticket]? = some { work := k }) (hs : k.stage = .fresh)
    (hn : (w.engine k.host).flying k.slot = some ticket) (hcalm : w.NeverPanics)
    (hprompt : ∀ n schema, k.target = .ok (n, schema) → (n.produce k.slot.output).Prompt) :
    ∃ v f' c, RunsTo w v ∧ Produces k.host w v ∧ v.LoneFan t f' ∧
      f.Refits (some { e with progress := .waiting pass clears { ticket, seat := some 0 } }) f' ∧
      v.focus = .answer ⟨w.nextResult, c⟩ ∧ v.driving = [] ∧
      (v.productions = w.productions ++ if k.target.isOk then [(k.host, k.slot)] else []) ∧
      (∀ s, (v.engine k.host).cached s =
        if k.slot = s then some ⟨w.nextResult, c⟩ else (w.engine k.host).cached s) ∧
      ∀ s, (v.engine k.host).flying s = if k.slot = s then none else (w.engine k.host).flying s := by
  have hsome : f.current?.isSome = true := by rw [hc]; rfl
  obtain ⟨hdriven, hwork, hbrew⟩ := h.drives k.host hd hc hp hf hfl rfl rfl
  have hrun : RunsTo w w.step := runsTo_step (by rw [hf]; rintro ⟨⟩)
  have hfit := Fan.refits_setCurrent f
    (some { e with progress := .waiting pass clears { ticket, seat := some 0 } })
  -- The work comes to its content: at once for want of a node or an output, or else by its recipe.
  obtain ⟨u, c, hu, hmakes, hbrew', hmade, hcached, hflying, hnumber, hasked⟩ : ∃ u c,
      RunsTo w.step u ∧ Produces k.host w u ∧
      u.Brewing t (f.setCurrent (some { e with
        progress := .waiting pass clears { ticket, seat := some 0 } })) ticket
        { work := { k with stage := .away }, status := .driven
          seats := { rows := [some (f.seat t f.cursor)] } } ∧ u.focus = .made c ∧
      (∀ s, (u.engine k.host).cached s = (w.engine k.host).cached s) ∧
      (∀ s, (u.engine k.host).flying s = (w.engine k.host).flying s) ∧
      u.nextResult = w.nextResult ∧
      (u.productions = w.productions ++ if k.target.isOk then [(k.host, k.slot)] else []) := by
    have hrun' : RunsTo w.step w.step.step := runsTo_step (by rw [hwork]; rintro ⟨⟩)
    obtain ⟨failure, htarget⟩ | ⟨n, schema, htarget⟩ :
        (∃ failure, k.target = .error failure) ∨ ∃ n schema, k.target = .ok (n, schema) := by
      cases htarget : k.target with
      | error failure => exact .inl ⟨failure, rfl⟩
      | ok target => exact .inr ⟨target.1, target.2, rfl⟩
    · obtain ⟨hstill, hbrew', hmade⟩ := hbrew.misses k.host hwork hs htarget
      have hall := hdriven.trans hstill
      refine ⟨_, _, hrun', hall.toProduces, hbrew', hmade, hall.cached, hall.flying, hall.number, ?_⟩
      rw [hall.asked, htarget]
      exact (List.append_nil _).symm
    · obtain ⟨hbegun, hbrew', hmake, hengine, hnumber, hasked⟩ :=
        hbrew.begins k.host hwork hs htarget
      obtain ⟨u, c, hu, hstill, hbrew'', hmade⟩ := hbrew'.makes
        (hprompt n schema htarget) k.host hmake (hcalm.runsTo (hrun.trans hrun'))
      refine ⟨u, c, hrun'.trans hu, (hdriven.toProduces.trans hbegun).trans hstill.toProduces, hbrew'',
        hmade, fun s => ?_, fun s => ?_, hstill.number.trans (hnumber.trans hdriven.number), ?_⟩
      · rw [hstill.cached, hengine, hdriven.cached]
      · rw [hstill.flying, hengine, hdriven.flying]
      · rw [hstill.asked, hasked, hdriven.asked, htarget]
        rfl
  obtain ⟨hlands, halone, hdriving, hanswer, -, hasked', hcached', hflying'⟩ :=
    hbrew'.lands hmade rfl ((hflying k.slot).trans hn)
  have hrun' : RunsTo u u.step := runsTo_step (by rw [hmade]; rintro ⟨⟩)
  refine ⟨u.step, _, c, (hrun.trans hu).trans hrun', hmakes.trans hlands, halone, hfit.nudge _, ?_,
    hdriving, hasked'.trans hasked, fun s => ?_, fun s => ?_⟩
  · rw [hanswer, hnumber]
  · refine (hcached' s).trans ?_
    rw [hcached, hnumber]
  · refine (hflying' s).trans ?_
    rw [hflying]

/-- The emission that comes to the gate has made sure that the slot is cached. Its node was asked for
nothing if it was, or else once for a declared output. -/
lemma LoneFan.runsTo_ready (h : w.LoneFan t f) (hd : w.driving = []) (hf : w.focus = .emission)
    (hc : f.current? = some e) (hp : e.progress = .fresh)
    (hn : (w.engine e.host).flying e.slot = none) (hcalm : w.NeverPanics)
    (hprompt : ∀ n, (w.engine e.host).nodes.get? e.slot.node = some n →
      (n.produce e.slot.output).Prompt) :
    ∃ v f' pass clears, RunsTo w v ∧ Produces e.host w v ∧ v.LoneFan t f' ∧
      f.Refits (some { e with progress := .ready pass clears }) f' ∧ v.focus = .emission ∧
      v.driving = [] ∧ (∀ s, (v.engine e.host).flying s = (w.engine e.host).flying s) ∧
      ((∃ r, (w.engine e.host).cached e.slot = some r ∧ v.productions = w.productions ∧
          ∀ s, (v.engine e.host).cached s = (w.engine e.host).cached s) ∨
        (w.engine e.host).cached e.slot = none ∧
          (v.productions = w.productions ++
            if ((w.engine e.host).target e.slot).isOk then [(e.host, e.slot)] else []) ∧
          ∃ c, ∀ s, (v.engine e.host).cached s =
            if e.slot = s then some ⟨w.nextResult, c⟩ else (w.engine e.host).cached s) := by
  have hsome : f.current?.isSome = true := by rw [hc]; rfl
  have hwake : ∀ {v : World}, v.focus = .emission → RunsTo v v.step := fun hv =>
    runsTo_step (by rw [hv]; rintro ⟨⟩)
  obtain ⟨pass, hentered, halone, hfocus, hdriving⟩ := h.enters hd hf hc hp
  have hc₁ := Fan.current?_setCurrent hsome (some { e with progress := .looking pass })
  have hrun := hwake hf
  have hcached := hentered.cached e.slot
  cases hr : (w.engine e.host).cached e.slot with
  | some r =>
    obtain ⟨clears, hstill, halone₂, hfocus₂, hdriving₂⟩ :=
      halone.finds hdriving hfocus hc₁ rfl (hcached.trans hr)
    have hall := hentered.trans hstill
    exact ⟨_, _, pass, clears, hrun.trans (hwake hfocus), hall.toProduces, halone₂,
      (Fan.refits_setCurrent f _).trans (Fan.refits_setCurrent _ _), hfocus₂, hdriving₂, hall.flying,
      .inl ⟨r, rfl, hall.asked, hall.cached⟩⟩
  | none =>
    obtain ⟨clears, hoff, halone₂, hfocus₂, hdriving₂, hflights, hcached₂, hflying₂, hasked₂, hnumber₂⟩ :=
      halone.setsOff hdriving hfocus hc₁ rfl (hcached.trans hr) ((hentered.flying e.slot).trans hn)
    dsimp only at hoff hcached₂ hflying₂ hflights
    have hrun₂ := hrun.trans (hwake hfocus)
    have hc₂ := Fan.current?_setCurrent (f := f.setCurrent (some { e with progress := .looking pass }))
      (by rw [hc₁]; rfl) (some { e with
        progress := .waiting pass clears { ticket := w.step.flights.length } })
    have htarget : (w.step.engine e.host).target e.slot = (w.engine e.host).target e.slot := by
      unfold Engine.target Engine.node
      rw [hentered.nodes]
    obtain ⟨v, f', c, hv, hflies, halone₃, hfit, hanswer, hdriving₃, hasked, hcached₃, hflying₃⟩ :=
      halone₂.flies hdriving₂ hc₂ rfl hfocus₂ (k := w.step.workOf e.host e.slot)
        (by rw [hflights]; exact List.getElem?_concat_length) rfl
        ((hflying₂ e.slot).trans (if_pos rfl)) (hcalm.runsTo hrun₂) fun n schema hok =>
          hprompt n (Engine.target_eq_ok.mp (htarget.symm.trans hok)).1
    dsimp only [workOf] at hflies hasked hcached₃ hflying₃
    have hc₃ := hfit.current? (by rw [hc₂]; rfl)
    obtain ⟨hstill, halone₄, hfocus₄, hdriving₄⟩ :=
      halone₃.answered e.host hdriving₃ hc₃ rfl hanswer
    have hrun₄ : RunsTo v v.step := runsTo_step (by rw [hanswer]; rintro ⟨⟩)
    refine ⟨v.step, _, pass, clears, (hrun₂.trans hv).trans hrun₄,
      ((hentered.toProduces.trans hoff).trans hflies).trans hstill.toProduces, halone₄, ?_, hfocus₄,
      hdriving₄, fun s => ?_, .inr ⟨rfl, ?_, c, fun s => ?_⟩⟩
    · exact (((Fan.refits_setCurrent f _).trans (Fan.refits_setCurrent _ _)).trans hfit).trans
        (Fan.refits_setCurrent f' _)
    · rw [hstill.flying]
      refine (hflying₃ s).trans ?_
      rw [hflying₂, hentered.flying]
      by_cases hs : e.slot = s
      · subst hs
        exact (if_pos rfl).trans hn.symm
      · exact (if_neg hs).trans (if_neg hs)
    · rw [hstill.asked, hasked, hasked₂, hentered.asked]
      show _ ++ (if ((w.step.engine e.host).target e.slot).isOk then [(e.host, e.slot)] else []) = _
      rw [htarget]
    · rw [hstill.cached]
      refine (hcached₃ s).trans ?_
      rw [hnumber₂, hentered.number, hcached₂, hentered.cached]
      rfl

end World

end Dataflow
