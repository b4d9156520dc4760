import Dataflow.Proofs.ActionSteps
import Mathlib.Logic.Relation

/-!
# What actions touch

An action is performed at once, and all that it does to a world is of few kinds: it notes something,
changes what an engine has besides its gates, opens a valve, starts tasks that have nothing yet, marks
one as cancelled, or changes what neither flights nor tasks depend on. Every action is taken apart into
them once.
-/

namespace Dataflow

/-- The subscriber that an action is about, by its name. -/
def Action.callback? : Action → Option String
  | .subscribe _ _ _ callback | .unsubscribe _ _ callback => some callback
  | _ => none

/-- Whether the action cancels registrations. -/
def Action.withdraws : Action → Bool
  | .unsubscribe _ _ _ | .unsubscribeBy _ => true
  | _ => false

/-- What actions note, but for cancelled registrations and tasks that start. -/
def Event.isEntry : Event → Bool
  | .built _ | .registered _ _ _ | .postponed _ _ | .unregistered _ _ | .subscribed _ _ _ _ => true
  | _ => false

/-- Whether the job has no emissions of its own. -/
def Job.isPlain : Job → Bool
  | .fan _ | .emit _ => false
  | _ => true

lemma Job.emission?_of_isPlain {j : Job} (h : j.isPlain = true) (i : Nat) :
    j.emission? i = none := by
  cases j with
  | fan f => cases h
  | emit e => cases h
  | _ => rfl

lemma emission?_emit {e e' : Emission} {i : Nat} (h : (Job.emit e).emission? i = some e') :
    e' = e := by
  obtain ⟨-, h⟩ := Option.ite_none_right_eq_some.mp h
  exact (Option.some.inj h).symm

/-- Nothing has been done for the job yet: it is neither a fan nor a work, and its emission has yet to
begin. -/
structure Job.Unbegun (j : Job) : Prop where
  fan : ∀ f, j ≠ .fan f
  work : ∀ k, j ≠ .work k
  emission : ∀ i e, j.emission? i = some e → e.progress = .fresh

lemma Job.unbegun_emit {e : Emission} (h : e.progress = .fresh) : (Job.emit e).Unbegun where
  fan := by rintro f ⟨⟩
  work := by rintro k ⟨⟩
  emission := fun i e' he => by rw [emission?_emit he, h]

lemma Job.unbegun_of_isPlain {j : Job} (h : j.isPlain = true) (hw : ∀ k, j ≠ .work k) :
    j.Unbegun where
  fan := by
    rintro f rfl
    cases h
  work := hw
  emission := fun i e he => by
    rw [emission?_of_isPlain h i] at he
    cases he

/-- The gates are as they were. -/
def Engine.KeepsGates (e e' : Engine) : Prop := e'.gates = e.gates ∧ e'.passes = e.passes

namespace Engine

variable (e : Engine)

lemma keepsGates_register (n : Node) : e.KeepsGates (e.register n) := by
  unfold register KeepsGates
  by_cases hc : e.nodes.contains n.id <;> simp [hc, dropNode]

lemma keepsGates_unregister (id : String) : e.KeepsGates (e.unregister id) := by
  unfold unregister KeepsGates
  by_cases hc : e.nodes.contains id <;> simp [hc, dropNode]

lemma keepsGates_land (s : Slot) (ticket : Nat) (r : Result) :
    e.KeepsGates (e.land s ticket r) := by
  unfold land KeepsGates
  by_cases hf : e.flying s = some ticket <;> simp [hf]

lemma keepsGates_unsubscribe (s : Slot) (c : Nat) : e.KeepsGates (e.unsubscribe s c) := by
  obtain ⟨subscriptions, delivered, he⟩ := e.unsubscribe_frame s c
  rw [he]
  exact ⟨rfl, rfl⟩

end Engine

namespace World

variable {A : Action → Prop} {w w' w'' : World}

lemma keepsGates_setEngine {host : String} {e : Engine} (he : (w.engine host).KeepsGates e)
    (i : String) : (w.engine i).KeepsGates ((w.setEngine host e).engine i) := by
  rw [engine_setEngine]
  by_cases hi : host = i
  · subst hi
    rw [if_pos rfl]
    exact he
  · rw [if_neg hi]
    exact ⟨rfl, rfl⟩

/-- One thing that an action in `A` does. -/
inductive Touch (A : Action → Prop) (w : World) : World → Prop where
  /-- What neither flights nor tasks depend on. -/
  | aside {cells : Table String Outcome} {callbacks : Table String Nat}
      {handles : Table String (String × String)} {removed : Table String Node} :
      Touch A w { w with cells, callbacks, handles, removed }
  /-- A subscription is kept that nobody has waited for. -/
  | keeps {sub : String} {s : Subscription} (ht : s.delivery.isTaken = false)
      (hb : s.borrower = none) : Touch A w { w with subscriptions := w.subscriptions.insert sub s }
  | forgets {sub : String} : Touch A w { w with subscriptions := w.subscriptions.erase sub }
  /-- A task starts that waits for the first delivery of a subscription. -/
  | awaits {name sub : String} {s : Subscription} {lent : Bool}
      (hs : w.subscriptions.get? sub = some s) (hl : w.lent s = false) (hj : s.delivery.job.Unbegun) :
      Touch A w ((w.handOver sub s lent).spawn
        { name := some name
          job := s.delivery.job
          holding := some (sub, s.spent w.tasks.length) }).1
  | notes {e : Event} (he : e.isEntry = true) : Touch A w (w.log e)
  | engines {pipelines : Table String Pipeline}
      (hp : ∀ i, (w.engine i).KeepsGates (World.engine { w with pipelines } i)) :
      Touch A w { w with pipelines }
  | opens (i : Nat) (v : Valve) : Touch A w { w with valves := w.valves.set i v }
  /-- The subscriber that an action names comes up. -/
  | enrols {a : Action} {callback : String} (ha : A a) (hc : a.callback? = some callback) :
      Touch A w (w.subscriberOf callback).1
  | withdraws {a : Action} (ha : A a) (hw : a.withdraws = true) {host : String} {s : Slot} {c : Nat} :
      Touch A w (w.withdraw host s c)
  /-- Somebody is woken, or a share is given up. -/
  | fades {w' : World} (hk : FadingUnheld w w') : Touch A w w'
  | cancels {t : Nat} {task : Task} (ht : w.tasks[t]? = some task) :
      Touch A w { w with tasks := w.tasks.set t { task with cancelled := true } }
  | spawns {task : Task} (he : task.ended = none) (hj : task.job.Unbegun)
      (hh : task.holding = none) : Touch A w (w.spawn task).1

/-- All that is done in the course of an action. -/
def Touches (A : Action → Prop) : World → World → Prop := Relation.ReflTransGen (Touch A)

namespace Touches

lemma refl (w : World) : Touches A w w := Relation.ReflTransGen.refl

lemma trans (h : Touches A w w') (h' : Touches A w' w'') : Touches A w w'' :=
  Relation.ReflTransGen.trans h h'

lemma touch (h : Touches A w w') (ht : Touch A w' w'') : Touches A w w'' := h.tail ht

lemma aside (h : Touches A w w') {cells : Table String Outcome} {callbacks : Table String Nat}
    {handles : Table String (String × String)} {removed : Table String Node} :
    Touches A w { w' with cells, callbacks, handles, removed } :=
  h.touch .aside

lemma note (h : Touches A w w') {e : Event} (he : e.isEntry = true) : Touches A w (w'.log e) :=
  h.touch (.notes he)

lemma setEngine (h : Touches A w w') {host : String} {e : Engine}
    (he : (w'.engine host).KeepsGates e) : Touches A w (w'.setEngine host e) :=
  h.touch (.engines (keepsGates_setEngine he))

lemma fades (h : Touches A w w') (hk : FadingUnheld w' w'') : Touches A w w'' := h.touch (.fades hk)

/-- An emission that has yet to begin. -/
lemma spawnEmission (h : Touches A w w') (host : String) (s : Slot) :
    Touches A w (w'.spawnEmission host s).1 :=
  h.touch (.spawns rfl (Job.unbegun_emit rfl) rfl)

end Touches

lemma touches_use (w : World) (host : String) : Touches A w (w.use host) := by
  rcases use_cases w host with hw | hw
  · rw [hw]
    exact .refl w
  · have hbuilt : Touches A w { w with
        pipelines := w.pipelines.insert host { w.pipeline host with built := true } } := by
      refine (Touches.refl w).touch (.engines fun i => ?_)
      rw [(pipeline_built w host i).1]
      exact ⟨rfl, rfl⟩
    rw [hw]
    exact hbuilt.note rfl

lemma touches_enlist (w : World) (host : String) (n : Node) : Touches A w (w.enlist host n) := by
  have hset := (Touches.refl (A := A) w).setEngine ((w.engine host).keepsGates_register n)
  have hlog := hset.note (e := .registered host n ((w.engine host).nodes.contains n.id)) rfl
  rcases enlist_cases w host n with ⟨-, heq⟩ | heq <;> rw [heq]
  · exact hlog.fades (fadingUnheld_ground _ _ _)
  · exact hlog

lemma touches_spawnAll (w : World) (host node : String) (outputs : List String) :
    Touches A w (outputs.foldl (fun w o => (w.spawnEmission host ⟨node, o⟩).1) w) := by
  induction outputs generalizing w with
  | nil => exact .refl w
  | cons o outputs ih => exact ((Touches.refl w).spawnEmission host ⟨node, o⟩).trans (ih _)

lemma touches_register (w : World) (host : String) (n : Node) :
    Touches A w (w.register host n) := by
  have henlist := touches_enlist (A := A) w host n
  rcases register_cases w host n with ⟨-, heq⟩ | ⟨-, -, heq⟩ | ⟨-, -, heq⟩ <;> rw [heq]
  · exact henlist
  · exact henlist.trans (touches_spawnAll _ _ _ _)
  · exact henlist.note rfl

lemma touches_unregister (w : World) (host id : String) :
    Touches A w (w.unregister host id).1 := by
  have hset := (Touches.refl (A := A) w).setEngine ((w.engine host).keepsGates_unregister id)
  have hlog := hset.note (e := .unregistered host id) rfl
  unfold unregister
  dsimp only
  cases (w.engine host).nodes.get? id with
  | none => exact .refl w
  | some n => exact (hlog.fades (fadingUnheld_ground _ (w.engine host) id)).aside

lemma touches_start (w : World) (name : String) {j : Job} (hj : j.Unbegun) :
    Touches A w (w.start name j).1 := by
  rcases start_cases w name j with heq | ⟨-, heq⟩ <;> rw [heq]
  · exact .refl w
  · exact (Touches.refl w).touch (.spawns rfl hj rfl)

/-- The emission of a subscription has yet to begin when somebody waits for it. -/
lemma unbegun_delivery (h : w.Steady) {sub : String} {s : Subscription}
    (hs : w.subscriptions.get? sub = some s) : s.delivery.job.Unbegun := by
  cases hd : s.delivery with
  | spawned t => exact Job.unbegun_of_isPlain rfl (by rintro k ⟨⟩)
  | deferred e => exact Job.unbegun_emit (h.shelf sub s e hs hd)
  | taken t => exact Job.unbegun_of_isPlain rfl (by rintro k ⟨⟩)

lemma touches_await (h : w.Steady) (name sub : String) (lent : Bool) :
    Touches A w (w.await name sub lent).1 := by
  rcases w.await_cases name sub lent with ⟨why, heq⟩ | ⟨s, hs, hl, -, heq⟩
  · rw [heq]
    exact .refl w
  · rw [heq]
    exact (Touches.refl w).touch (.awaits hs hl (unbegun_delivery h hs))

lemma touches_cancel (w : World) (name : String) : Touches A w (w.cancel name).1 := by
  rcases cancel_cases w name with heq | ⟨t, task, ht, -, heq⟩ <;> rw [heq]
  · exact .refl w
  · exact ((Touches.refl w).touch (.cancels ht)).fades (fadingUnheld_enqueue _ t)

/-- What subscribing does once it is known who subscribes. -/
lemma Touches.subscribe {callback : String} (h : Touches A w (w'.subscriberOf callback).1)
    (host sub : String) (s : Slot) : Touches A w (w'.subscribe host sub s callback) := by
  unfold World.subscribe
  generalize w'.subscriberOf callback = p at h
  obtain ⟨v, c⟩ := p
  have hset : Touches A w (v.setEngine host ((v.engine host).subscribe s c)) :=
    h.setEngine ⟨rfl, rfl⟩
  have hlog := hset.note (e := .subscribed host s c sub) rfl
  dsimp only
  cases ((v.setEngine host ((v.engine host).subscribe s c)).log (.subscribed host s c sub)).runtime with
  | true => exact (hlog.spawnEmission host s).touch (.keeps rfl rfl)
  | false => exact hlog.touch (.keeps rfl rfl)

lemma touches_resolve (w : World) (choice : ValveChoice) (o : Option Outcome) :
    Touches A w (w.resolve choice o).1 := by
  rcases resolve_cases w choice o with heq | ⟨i, -, heq⟩ <;> rw [heq]
  · exact .refl w
  · exact ((Touches.refl w).touch (.opens _ _)).fades (fadingUnheld_wake _ _)

lemma touches_perform (h : w.Steady) {a : Action} (ha : A a) : Touches A w (w.perform a).1 := by
  have hu : ∀ host, Touches A w (w.use host) := touches_use w
  by_cases hl : a.isLookup = true
  · rcases looks_perform w a hl with heq | ⟨host, heq⟩ <;> rw [heq]
    · exact .refl w
    · exact hu host
  cases a with
  | settle | panic _ | unknown _ => exact .refl w
  | setCell _ _ | dropCallback _ => exact (Touches.refl w).aside
  | dropSubscription sub => exact (Touches.refl w).touch .forgets
  | register host n handle => exact ((hu host).trans (touches_register _ host n)).aside
  | unregister host id => exact (hu host).trans (touches_unregister _ host id)
  | restore host id =>
    simp only [perform]
    cases w.removed.get? id with
    | none => exact .refl w
    | some n => exact (hu host).trans (touches_register _ host n)
  | reregister host id =>
    simp only [perform]
    cases ((w.use host).engine host).node id with
    | error f => exact hu host
    | ok n => exact (hu host).trans (touches_register _ host n)
  | getNode _ _ | getSchema _ _ _ | cached _ _ | initialized _ | describe _ => exact absurd rfl hl
  | compute host name slot =>
    exact (hu host).trans (touches_start _ name (Job.unbegun_of_isPlain rfl (by rintro k ⟨⟩)))
  | output host name slot =>
    exact (hu host).trans (touches_start _ name (Job.unbegun_of_isPlain rfl (by rintro k ⟨⟩)))
  | invalidate host name node keys =>
    exact (hu host).trans (touches_start _ name (Job.unbegun_of_isPlain rfl (by rintro k ⟨⟩)))
  | invalidateBy host name handle keys =>
    simp only [perform]
    cases w.handles.get? handle with
    | none => exact .refl w
    | some found =>
      exact (hu host).trans (touches_start _ name (Job.unbegun_of_isPlain rfl (by rintro k ⟨⟩)))
  | subscribe host sub slot callback =>
    exact ((hu host).touch (.enrols ha rfl)).subscribe host sub slot
  | unsubscribe host slot callback =>
    exact ((hu host).touch (.enrols ha rfl)).touch (.withdraws ha rfl)
  | unsubscribeBy sub =>
    simp only [perform]
    cases w.subscriptions.get? sub with
    | none => exact .refl w
    | some s => exact (Touches.refl w).touch (.withdraws ha rfl)
  | await name sub lent => exact touches_await h name sub lent
  | resolve choice o => exact touches_resolve w choice o
  | cancel name => exact touches_cancel w name

end World

end Dataflow
