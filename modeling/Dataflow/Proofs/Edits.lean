import Dataflow.Proofs.Strides
import Mathlib.Logic.Relation

/-!
# What actions and steps are made of

Whatever a world does is made of few kinds of edits: the running task goes on with another job or is
over, another task comes up or is marked as cancelled, something is noted, or something changes that no
task depends on. Every function of the world is taken apart into them once, and what holds of each of
them holds of all actions and steps.

When a step ends the task that runs may be put aside, and others may be woken then.
-/

namespace Dataflow

def Event.isWithdrawal : Event → Bool
  | .unsubscribed _ _ _ => true
  | _ => false

/-- Whether the event neither cancels registrations nor starts or ends a task. -/
def Event.isRemark : Event → Bool
  | .unsubscribed _ _ _ | .started _ _ | .ended _ _ _ => false
  | _ => true

lemma Event.isWithdrawal_of_isRemark {e : Event} (h : e.isRemark = true) :
    e.isWithdrawal = false := by
  cases e with
  | unsubscribed host s c => cases h
  | _ => rfl

/-- What the subscriber that was called last is still to do. -/
def Progress.script : Progress → List Action
  | .acting _ _ _ _ script => script
  | _ => []

/-- The branches keep their number, and those that had to wait their places. -/
structure Fan.Continues (f f' : Fan) : Prop where
  length : f'.branches.length = f.branches.length
  wide : f'.wide = f.wide
  recent : ∀ i ∈ f.recent, i ∈ f'.recent

lemma Fan.Continues.refl (f : Fan) : f.Continues f := ⟨rfl, rfl, fun _ hi => hi⟩

lemma Fan.Continues.trans {f f' f'' : Fan} (h : f.Continues f') (h' : f'.Continues f'') :
    f.Continues f'' :=
  ⟨h'.length.trans h.length, h'.wide.trans h.wide, fun i hi => h'.recent i (h.recent i hi)⟩

lemma Fan.continues_setCurrent (f : Fan) (e : Option Emission) : f.Continues (f.setCurrent e) :=
  ⟨List.length_set .., rfl, fun _ hi => hi⟩

lemma Fan.continues_aimAt (f : Fan) (i : Nat) : f.Continues (f.aimAt i) :=
  ⟨rfl, rfl, fun _ hi => hi⟩

lemma Fan.Turns.continues {f g : Fan} (h : f.Turns g) : f.Continues g :=
  ⟨congrArg List.length h.branches, h.wide, h.recent⟩

/-- A subscriber that an emission of the job has called is still to do it. -/
def Job.Intends (j : Job) (a : Action) : Prop :=
  ∃ i e, j.emission? i = some e ∧ a ∈ e.progress.script

lemma emission?_setCurrent {f : Fan} {x : Option Emission} {i : Nat} {e : Emission}
    (h : (Job.fan (f.setCurrent x)).emission? i = some e) :
    x = some e ∨ (Job.fan f).emission? i = some e := by
  obtain ⟨y, hy, he⟩ := Option.bind_eq_some_iff.mp h
  rcases getElem?_set_cases hy with ⟨-, rfl⟩ | ⟨-, hy⟩
  · exact .inl he
  · exact .inr (Option.bind_eq_some_iff.mpr ⟨y, hy, he⟩)

lemma emission?_of {host node : String} {keys : List String} {i : Nat} {e : Emission}
    (h : (Job.fan (Fan.of host node keys)).emission? i = some e) : e.progress = .fresh := by
  obtain ⟨x, hx, he⟩ := Option.bind_eq_some_iff.mp h
  obtain ⟨k, -, rfl⟩ := List.mem_map.mp (List.mem_of_getElem? hx)
  cases he
  rfl

lemma not_intends_of_isPlain {j : Job} (h : j.isPlain = true) (a : Action) : ¬j.Intends a := by
  rintro ⟨i, e, he, -⟩
  rw [Job.emission?_of_isPlain h i] at he
  cases he

/-- Where nothing has been done yet nobody was called. -/
lemma Job.Unbegun.not_intends {j : Job} (h : j.Unbegun) (a : Action) : ¬j.Intends a := by
  rintro ⟨i, e, he, ha⟩
  rw [h.emission i e he] at ha
  cases ha

namespace World

/-- Some subscriber does it when it is called. -/
def Prescribes (w : World) (a : Action) : Prop :=
  ∃ callback l script, w.scripts.get? callback = some l ∧ script ∈ l ∧ a ∈ script

/-- A job may go on as another one. A fan goes on with its branches, or comes up with all of them, and
subscribers act as they did, or as their scripts say. -/
structure Develops (w : World) (j j' : Job) : Prop where
  fan : ∀ f', j' = .fan f' →
    ∃ f : Fan, (j = .fan f ∨ ∃ host node keys, f = Fan.of host node keys) ∧ f.Continues f'
  acts : ∀ a, j'.Intends a → j.Intends a ∨ w.Prescribes a

/-- One edit. Subscribers are named, and registrations cancelled, by actions in `A` alone. -/
inductive Edit (A : Action → Prop) (w : World) : World → Prop where
  /-- What no task depends on. -/
  | aside {cells : Table String Outcome} {rewoken : Bool} {driving : List Nat} {deliveries : Nat}
      {focus : Focus} {callbacks : Table String Nat} {handles : Table String (String × String)}
      {removed : Table String Node} :
      Edit A w { w with cells, rewoken, driving, deliveries, focus, callbacks, handles, removed }
  /-- A subscription is kept that nobody has waited for. -/
  | keeps {sub : String} {s : Subscription} (ht : s.delivery.isTaken = false)
      (hb : s.borrower = none) : Edit A w { w with subscriptions := w.subscriptions.insert sub s }
  | forgets {sub : String} : Edit A w { w with subscriptions := w.subscriptions.erase sub }
  /-- A task starts that waits for the first delivery of a subscription. -/
  | awaits {name sub : String} {s : Subscription} {lent : Bool}
      (hs : w.subscriptions.get? sub = some s) (hl : w.lent s = false) (hj : s.delivery.job.Unbegun) :
      Edit A w ((w.handOver sub s lent).spawn
        { name := some name
          job := s.delivery.job
          holding := some (sub, s.spent w.tasks.length) }).1
  | notes {e : Event} (he : e.isRemark = true) : Edit A w (w.log e)
  | withdraws {a : Action} (ha : A a) (hw : a.withdraws = true) {host : String} {s : Slot} {c : Nat} :
      Edit A w (w.withdraw host s c)
  | engines {pipelines : Table String Pipeline}
      (hp : ∀ i, (w.engine i).passes ≤ (World.engine { w with pipelines } i).passes) :
      Edit A w { w with pipelines }
  | flights {flights : List Flight} (hl : w.flights.length ≤ flights.length) :
      Edit A w { w with flights }
  | valves {valves : List Valve} (hl : w.valves.length ≤ valves.length) : Edit A w { w with valves }
  | results : Edit A w { w with nextResult := w.nextResult + 1 }
  | calls {subscribers : List Subscriber} (hl : subscribers.length = w.subscribers.length) :
      Edit A w { w with subscribers }
  /-- The subscriber that an action names comes up. -/
  | enrols {a : Action} {callback : String} (ha : A a) (hc : a.callback? = some callback) :
      Edit A w (w.subscriberOf callback).1
  /-- Somebody is woken, or a share is given up. -/
  | fades {w' : World} (hf : Fading w w') : Edit A w w'
  /-- The running task goes on with another job. -/
  | works {t : Nat} {task : Task} (hr : w.running = some t) (ht : w.tasks[t]? = some task) {j : Job}
      (hj : w.Develops task.job j) : Edit A w { w with tasks := w.tasks.set t { task with job := j } }
  /-- The running task is over. -/
  | ends {t : Nat} {task : Task} (hr : w.running = some t) (ht : w.tasks[t]? = some task) (how : End) :
      Edit A w ((World.log { w with
        tasks := w.tasks.set t { task with job := .nothing, ended := some how, holding := none } }
          (.ended t task.name how)).putBack task.holding how)
  | cancels {t : Nat} {task : Task} (ht : w.tasks[t]? = some task) :
      Edit A w { w with tasks := w.tasks.set t { task with cancelled := true } }
  | spawns {task : Task} (he : task.ended = none) (hj : task.job.Unbegun)
      (hh : task.holding = none) : Edit A w (w.spawn task).1

/-- One edit after the other. -/
def Edits (A : Action → Prop) : World → World → Prop := Relation.ReflTransGen (Edit A)

/-- One edit after the other, and then the running task may be put aside. -/
inductive EditsThenRests (A : Action → Prop) (w w' : World) : Prop where
  | goes (h : Edits A w w')
  | rests {v : World} {rewoken : Bool} (h : Edits A w v)
      (hf : Fading { v with running := none, rewoken, focus := .idle } w')

variable {A : Action → Prop} {w w' w'' : World}

lemma develops_of_isPlain {j j' : Job} (h : j'.isPlain = true) : w.Develops j j' where
  fan := by
    rintro f rfl
    cases h
  acts := fun a ha => absurd ha (not_intends_of_isPlain h a)

/-- A fan goes on with the emissions that it has. -/
lemma develops_fan {f f' : Fan} (hc : f.Continues f')
    (he : ∀ i e, (Job.fan f').emission? i = some e → (Job.fan f).emission? i = some e) :
    w.Develops (.fan f) (.fan f') where
  fan := by
    rintro _ ⟨⟩
    exact ⟨f, .inl rfl, hc⟩
  acts := by
    rintro a ⟨i, e, hi, ha⟩
    exact .inl ⟨i, e, he i e hi, ha⟩

lemma develops_of (j : Job) (host node : String) (keys : List String) :
    w.Develops j (.fan (Fan.of host node keys)) where
  fan := by
    rintro _ ⟨⟩
    exact ⟨_, .inr ⟨host, node, keys, rfl⟩, .refl _⟩
  acts := by
    rintro a ⟨i, e, he, ha⟩
    rw [emission?_of he] at ha
    cases ha

/-- Whatever becomes of a fan, its branches stay. -/
lemma Develops.turn {j : Job} {f f' : Fan} (h : w.Develops j (.fan f)) (ht : f.Turns f') :
    w.Develops j (.fan f') where
  fan := by
    rintro _ ⟨⟩
    obtain ⟨f₀, hf₀, hc₀⟩ := h.fan f rfl
    exact ⟨f₀, hf₀, hc₀.trans ht.continues⟩
  acts := by
    rintro a ⟨i, e, he, ha⟩
    have hi : (Job.fan f).emission? i = some e := by
      rw [← he]
      show (f.branches[i]?).bind id = (f'.branches[i]?).bind id
      rw [ht.branches]
    exact h.acts a ⟨i, e, hi, ha⟩

lemma develops_dropCurrent (f : Fan) : w.Develops (.fan f) (.fan (f.setCurrent none)) :=
  develops_fan (f.continues_setCurrent none) fun i e he => by
    rcases emission?_setCurrent he with heq | hold
    · cases heq
    · exact hold

/-! ## Edits -/

namespace Edits

lemma refl (w : World) : Edits A w w := Relation.ReflTransGen.refl

lemma trans (h : Edits A w w') (h' : Edits A w' w'') : Edits A w w'' :=
  Relation.ReflTransGen.trans h h'

lemma edit (h : Edits A w w') (he : Edit A w' w'') : Edits A w w'' := h.tail he

lemma aside (h : Edits A w w') {cells : Table String Outcome} {rewoken : Bool}
    {driving : List Nat} {deliveries : Nat} {focus : Focus} {callbacks : Table String Nat}
    {handles : Table String (String × String)} {removed : Table String Node} :
    Edits A w { w' with
      cells, rewoken, driving, deliveries, focus, callbacks, handles, removed } :=
  h.edit .aside

lemma aim (h : Edits A w w') (f : Focus) : Edits A w (w'.aim f) := h.aside

lemma note (h : Edits A w w') {e : Event} (he : e.isRemark = true) : Edits A w (w'.log e) :=
  h.edit (.notes he)

lemma setEngine (h : Edits A w w') {host : String} {e : Engine}
    (he : (w'.engine host).passes ≤ e.passes) : Edits A w (w'.setEngine host e) := by
  refine h.edit (.engines fun i => ?_)
  show _ ≤ ((w'.setEngine host e).engine i).passes
  rw [engine_setEngine]
  by_cases hi : host = i
  · rw [if_pos hi]
    exact hi ▸ he
  · exact Nat.le_of_eq (by rw [if_neg hi])

lemma regate (h : Edits A w w') {host : String} {e : Engine} (he : (w'.engine host).Regated e) :
    Edits A w (w'.setEngine host e) :=
  h.setEngine he.passes_le

lemma setFlight (h : Edits A w w') (ticket : Nat) (f : Flight) :
    Edits A w (w'.setFlight ticket f) :=
  h.edit (.flights (Nat.le_of_eq List.length_set.symm))

lemma setValve (h : Edits A w w') (i : Nat) (v : Valve) :
    Edits A w { w' with valves := w'.valves.set i v } :=
  h.edit (.valves (Nat.le_of_eq List.length_set.symm))

lemma breakDown (h : Edits A w w') (source : PanicSource) (text : String) :
    Edits A w (w'.breakDown source text) :=
  (h.note rfl).aim _

lemma fading (h : Edits A w w') (hf : Fading w' w'') : Edits A w w'' := h.edit (.fades hf)

lemma wake (h : Edits A w w') (l : List Waiter) : Edits A w (w'.wake l) :=
  h.fading (fadingUnheld_wake w' l).toFading

lemma release (h : Edits A w w') (kept : List Nat) (own : Handle) :
    Edits A w (w'.release kept own) :=
  h.fading (fadingUnheld_release w' kept own).toFading

lemma setJob (h : Edits A w w') {j : Job} (hj : w'.Develops w'.job j) : Edits A w (w'.setJob j) := by
  rcases setJob_cases w' j with ⟨t, task, hr, ht, heq⟩ | heq
  · rw [job_of_running hr ht] at hj
    rw [heq]
    exact h.edit (.works hr ht hj)
  · rw [heq]
    exact h

/-- A job without emissions of its own. -/
lemma setPlain (h : Edits A w w') {j : Job} (hj : j.isPlain = true) :
    Edits A w (w'.setJob j) :=
  h.setJob (develops_of_isPlain hj)

lemma setWork (h : Edits A w w') (k : Work) : Edits A w (w'.setWork k) := by
  rcases setWork_cases w' k with ⟨ticket, outer, f, -, -, heq⟩ | ⟨ticket, outer, -, -, heq⟩ | ⟨-, heq⟩
  · rw [heq]
    exact h.setFlight _ _
  · rw [heq]
    exact h
  · rw [heq]
    exact h.setPlain rfl

/-- The emission goes on, and whoever acts does what is left of a script. -/
lemma setActing (h : Edits A w w') {e : Emission}
    (he : ∀ a ∈ e.progress.script, w'.job.Intends a ∨ w'.Prescribes a) :
    Edits A w (w'.setEmission e) := by
  rcases setEmission_cases w' e with ⟨f, hf, heq⟩ | ⟨-, heq⟩
  · rw [heq]
    refine h.setJob ⟨?_, ?_⟩
    · rintro _ ⟨⟩
      exact ⟨f, .inl hf, f.continues_setCurrent _⟩
    · rintro a ⟨i, e', he', ha⟩
      rcases emission?_setCurrent he' with heq | hold
      · cases heq
        exact he a ha
      · exact .inl ⟨i, e', hf ▸ hold, ha⟩
  · rw [heq]
    refine h.setJob ⟨by rintro f ⟨⟩, ?_⟩
    rintro a ⟨i, e', he', ha⟩
    rw [emission?_emit he'] at ha
    exact he a ha

/-- The emission goes on, and nobody acts. -/
lemma setEmission (h : Edits A w w') {e : Emission} (he : e.progress.script = []) :
    Edits A w (w'.setEmission e) :=
  h.setActing fun a ha => by
    rw [he] at ha
    cases ha

/-- A fan goes on without the emission that is being polled. -/
lemma dropCurrent (h : Edits A w w') {f : Fan} (hf : w'.job = .fan f) :
    Edits A w (w'.setJob (.fan (f.setCurrent none))) := by
  refine h.setJob ?_
  rw [hf]
  exact develops_dropCurrent f

lemma join (h : Edits A w w') (host : String) (s : Slot) : Edits A w (w'.join host s).1 := by
  have hflight : Edits A w { w' with
      flights := w'.flights ++ [{ work := { host, slot := s, target := (w'.engine host).target s } }] } :=
    h.edit (.flights (by simp))
  rcases join_cases w' host s with ⟨ticket, -, heq⟩ | ⟨-, heq⟩
  · rw [heq]
    exact h
  · rw [heq]
    exact (hflight.setEngine (e := (w'.engine host).takeOff s w'.flights.length) (Nat.le_refl _)).note
      rfl

end Edits

lemma EditsThenRests.after (h : Edits A w w') (h' : EditsThenRests A w' w'') : EditsThenRests A w w'' := by
  cases h' with
  | goes h' => exact .goes (h.trans h')
  | rests h' hf => exact .rests (h.trans h') hf

lemma KeepsShare.edits {own : Handle} (hk : w.KeepsShare own w') : Edits A w w' := by
  cases hk with
  | work => exact (Edits.refl w).setWork _
  | emission => exact (Edits.refl w).setEmission rfl
  | output => exact (Edits.refl w).setPlain rfl
  | nothing => exact .refl w

lemma PollsFlight.edits {own : Handle} (hp : w.PollsFlight own w') : Edits A w w' := by
  have hset (h : Handle) (f : Flight) : Edits A w ((w.keep h).setFlight own.ticket f) :=
    (w.keepsShare h).edits.setFlight _ f
  cases hp with
  | misses | answers => exact (Edits.refl w).aim _
  | drives => exact (hset _ _).aside
  | breaks => exact (hset _ _).breakDown _ _
  | waits => exact (hset _ _).aim _

lemma ResumesWork.edits (hr : w.ResumesWork w') : Edits A w w' := by
  have hself := Edits.refl (A := A) w
  cases hr with
  | begins => exact ((hself.setWork _).note rfl).aim _
  | misses | opened => exact (hself.setWork _).aim _
  | waits => exact (hself.setValve _ _).aim _
  | polls | stalls => exact hself.aim _

lemma MakesRecipe.edits {r : Recipe} (hm : w.MakesRecipe r w') : Edits A w w' := by
  have hself := Edits.refl (A := A) w
  cases hm with
  | finishes | announces => exact (hself.note rfl).aim _
  | misfits => exact (hself.note rfl).breakDown _ _
  | crashes => exact hself.breakDown _ _
  | peeks | finds | stalls => exact hself.aim _
  | holds =>
    have hvalve : Edits A w { w with valves := w.valves ++ [({} : Valve)] } :=
      hself.edit (.valves (by simp))
    exact ((hvalve.note rfl).setWork _).aim _
  | asks => exact ((hself.join _ _).setWork _).aim _

lemma edits_land (w : World) (ticket : Nat) (f : Flight) (r : Result) :
    Edits A w (w.land ticket f r) := by
  unfold land
  have hlanded := (Edits.refl (A := A) w).setEngine
    (Nat.le_of_eq ((w.engine f.work.host).keepsGates_land f.work.slot ticket r).2.symm)
  exact ((hlanded.note rfl).setFlight _ _).wake _

lemma FinishesWork.edits {c : Content} (hf : w.FinishesWork c w') : Edits A w w' := by
  have hnumber : Edits A w { w with nextResult := w.nextResult + 1 } := (Edits.refl w).edit .results
  cases hf with
  | ends | misses => exact hnumber.aim _
  | lands => exact (hnumber.trans (edits_land _ _ _ _)).aside

lemma HandsAnswer.edits {r : Result} (ha : w.HandsAnswer r w') : Edits A w w' := by
  have hself := Edits.refl (A := A) w
  cases ha with
  | resumes => exact (hself.setWork _).aim _
  | readies => exact (hself.setEmission rfl).aim _
  | ends | stalls => exact hself.aim _

lemma isRemark_of_isEntry {e : Event} (h : e.isEntry = true) : e.isRemark = true := by
  cases e with
  | built | registered | postponed | unregistered | subscribed => rfl
  | _ => cases h

lemma Touch.edit (h : Touch A w w') : Edit A w w' := by
  cases h with
  | aside => exact .aside
  | keeps ht hb => exact .keeps ht hb
  | forgets => exact .forgets
  | awaits hs hl hj => exact .awaits hs hl hj
  | notes he => exact .notes (isRemark_of_isEntry he)
  | engines hp => exact .engines fun i => Nat.le_of_eq (hp i).2.symm
  | opens => exact .valves (Nat.le_of_eq List.length_set.symm)
  | enrols ha hc => exact .enrols ha hc
  | withdraws ha hw => exact .withdraws ha hw
  | fades hk => exact .fades hk.toFading
  | cancels ht => exact .cancels ht
  | spawns he hj hh => exact .spawns he hj hh

lemma Touches.edits (h : Touches A w w') : Edits A w w' := by
  induction h with
  | refl => exact .refl w
  | tail _ ht ih => exact ih.edit ht.edit

lemma edits_perform (h : w.Steady) {a : Action} (ha : A a) : Edits A w (w.perform a).1 :=
  (touches_perform h ha).edits

lemma edits_makeWay (w : World) (e : Emission) (pass : Pass) : Edits A w (w.makeWay e pass) := by
  obtain ⟨l, heq⟩ := makeWay_eq w e pass
  rw [heq]
  exact ((Edits.refl w).regate (Engine.regated_modifyGate _ _ _ _)).wake l

lemma Looks.edits {e : Emission} {pass : Pass} (hl : w.Looks e pass w') : Edits A w w' := by
  have hlooked := (Edits.refl (A := A) w).note (e := .looked e.host e.slot pass) rfl
  cases hl with
  | finds => exact hlooked.setEmission rfl
  | joins => exact ((hlooked.join _ _).setEmission rfl).aim _

lemma HandsOut.edits {e : Emission} {pass : Pass} {clears : Nat} (hd : w.HandsOut e pass clears w') :
    Edits A w w' := by
  cases hd with
  | @selects r =>
    have hselect := (Edits.refl (A := A) w).setEngine
      (e := ((w.engine e.host).select (w.policy e.host) e.slot r).2) (Nat.le_refl _)
    exact (hselect.note rfl).setEmission rfl
  | breaks => exact (Edits.refl w).breakDown _ _
  | retries => exact (((Edits.refl w).note rfl).trans (edits_makeWay _ _ _)).setEmission rfl

lemma Approaches.edits {e : Emission} {pass : Pass} {clears : Nat}
    (ha : w.Approaches e pass clears w') : Edits A w w' := by
  have hlined : Edits A w (w.takePlace e pass) :=
    (Edits.refl (A := A) w).regate (Engine.regated_lineUp (w.engine e.host) e.slot pass w.self)
  cases ha with
  | queues => exact hlined.aim _
  | yields => exact (hlined.wake _).aim _
  | delivers _ _ hd => exact hlined.aside.trans hd.edits

lemma FinishesEmission.edits {e : Emission} {pass : Pass} (hf : w.FinishesEmission e pass w') :
    Edits A w w' := by
  have hleft : Edits A w (w.leaveGate e pass) :=
    ((edits_makeWay (A := A) w e pass).regate (Engine.regated_leave
      ((w.makeWay e pass).engine e.host) e.slot pass)).note rfl
  cases hf with
  | branch hj => exact (hleft.dropCurrent hj).aim _
  | whole => exact (hleft.setPlain rfl).aim _

/-- What a subscriber that is called is to do its script says. -/
lemma prescribes_of_mem {callback : String} {calls : Nat} {a : Action}
    (ha : a ∈ (((w.scripts.get? callback).getD [])[calls]?).getD []) : w.Prescribes a := by
  cases hl : w.scripts.get? callback with
  | none =>
    rw [hl] at ha
    cases ha
  | some l =>
    rw [hl, Option.getD_some] at ha
    cases hs : l[calls]? with
    | none =>
      rw [hs] at ha
      cases ha
    | some script =>
      rw [hs] at ha
      exact ⟨callback, l, script, hl, List.mem_of_getElem? hs, ha⟩

lemma CallsNext.edits {e : Emission} {pass : Pass} {r : Result} {rest : List Nat}
    (hc : w.CallsNext e pass r rest w') : Edits A w w' := by
  cases hc with
  | ends hf => exact hf.edits
  | skips => exact (Edits.refl w).setEmission rfl
  | @calls c rest s =>
    have hcounted : Edits A w { w with
        subscribers := w.subscribers.set c { s with calls := s.calls + 1 } } :=
      (Edits.refl w).edit (.calls List.length_set)
    refine (hcounted.note ?_).setActing fun a ha => .inr (prescribes_of_mem ha)
    rfl

lemma ActsNext.edits {e : Emission} {pass : Pass} {r : Result} {rest : List Nat}
    {callback : String} {script : List Action} (hact : w.ActsNext e pass r rest callback script w')
    (h : w.Steady) (hp : w.party = .emission e)
    (hpr : e.progress = .acting pass r rest callback script) (hs : ∀ a ∈ script, A a) :
    Edits A w w' := by
  cases hact with
  | rests => exact (Edits.refl w).setEmission rfl
  | @acts a script v reply ha =>
    have hperform := edits_perform h (hs a List.mem_cons_self)
    have hparty := (carries_perform h a).party
    rw [ha] at hperform hparty
    refine Edits.setActing (hperform.note ?_) fun x hx => .inl ?_
    · rfl
    · have he := Job.emission?_of_party (job_party_of_emission (hparty.trans hp)).2
      refine ⟨_, e, he, ?_⟩
      rw [hpr]
      exact List.mem_cons_of_mem a hx
  | @panics a script v text ha =>
    have hperform := edits_perform h (hs a List.mem_cons_self)
    rw [ha] at hperform
    exact Edits.breakDown hperform _ _

/-- The running task goes on with its emission. The subscriber that acts does what its script says. -/
lemma GoesOn.edits (hg : w.GoesOn w') (h : w.Steady)
    (hs : ∀ e, w.party = .emission e → ∀ a ∈ e.progress.script, A a) : Edits A w w' := by
  have hself := Edits.refl (A := A) w
  cases hg with
  | enters => exact ((hself.regate (Engine.regated_enter _ _)).note rfl).setEmission rfl
  | looks _ _ hl => exact hl.edits
  | polls | stalls => exact hself.aim _
  | approaches _ _ ha => exact ha.edits
  | calls _ _ hc => exact hc.edits
  | @acts e pass r rest callback script v hp hpr ha =>
    refine ha.edits h hp hpr fun a hm => hs e hp a ?_
    rw [hpr]
    exact hm

lemma DropsEmission.edits {e : Emission} (hd : w.DropsEmission e w') : Edits A w w' := by
  have hgone (w : World) (pass : Pass) : Edits A w (w.abandonGate e pass) :=
    ((edits_makeWay w e pass).regate (Engine.regated_modifyGate _ _ _ _)).note rfl
  cases hd with
  | outside => exact .refl w
  | waiting => exact ((Edits.refl w).release _ _).trans (hgone _ _)
  | inside => exact hgone w _

lemma Pauses.editsThenRests (hp : w.Pauses w') : EditsThenRests A w w' := by
  cases hp with
  | idle | ends => exact .goes ((Edits.refl w).aim _)
  | returns => exact .rests (.refl w) (fadingUnheld_enqueue _ _).toFading
  | rests => exact .rests (.refl w) (.refl _)

lemma Stalls.editsThenRests (hst : w.Stalls w') : EditsThenRests A w w' := by
  cases hst with
  | flight => exact .goes ((Edits.refl w).setFlight _ _).aside
  | misses => exact .goes (Edits.refl w).aside
  | branch => exact .goes ((Edits.refl w).aim _)
  | task _ _ hp => exact hp.editsThenRests

lemma TurnsFan.editsThenRests {f : Fan} (ht : w.TurnsFan f w') (h : w.Develops w.job (.fan f)) :
    EditsThenRests A w w' := by
  have hset {g : Fan} (hg : f.Turns g) : Edits A w (w.setJob (.fan g)) :=
    (Edits.refl w).setJob (h.turn hg)
  cases ht with
  | @polls g i hg => exact .goes ((hset (hg.trans (g.turns_aimAt i))).aim _)
  | ends hg => exact .goes ((hset hg).aim _)
  | waits hg hp => exact .after (hset hg) hp.editsThenRests
  | yields hg hp => exact .after (hset hg).aside hp.editsThenRests

/-- The fan that the running task has may go on as it is. -/
lemma develops_job {f : Fan} (hf : w.job = .fan f) : w.Develops w.job (.fan f) := by
  rw [hf]
  exact develops_fan (.refl f) fun _ _ he => he

lemma TurnsToNext.editsThenRests (ht : w.TurnsToNext w') : EditsThenRests A w w' := by
  cases ht with
  | fan hj hf => exact hf.editsThenRests (develops_job hj)
  | pauses _ hp => exact hp.editsThenRests

lemma edits_clear (w : World) (host : String) (s : Slot) : Edits A w (w.clear host s) :=
  ((Edits.refl w).setEngine (e := (w.engine host).clear s) (Nat.le_refl _)).fading
    (fadingUnheld_releaseAll _ _).toFading

lemma edits_clearAll (w : World) (host node : String) (keys : List String) :
    Edits A w (keys.foldl (fun w k => w.clear host ⟨node, k⟩) w) := by
  induction keys generalizing w with
  | nil => exact .refl w
  | cons k keys ih => exact (edits_clear w host ⟨node, k⟩).trans (ih _)

lemma Invalidates.editsThenRests {host node : String} {keys : Option (List String)}
    (hi : w.Invalidates host node keys w') : EditsThenRests A w w' := by
  cases hi with
  | misses => exact .goes ((Edits.refl w).aim _)
  | starts _ hf =>
    exact .after (((Edits.refl w).note rfl).trans (edits_clearAll _ host node _))
      (hf.editsThenRests (develops_of _ host node _))

lemma ResumesTask.editsThenRests (hr : w.ResumesTask w') : EditsThenRests A w w' := by
  have hself := Edits.refl (A := A) w
  cases hr with
  | finds | polls | works | emits | ends | nothing => exact .goes (hself.aim _)
  | joins => exact .goes (((hself.join _ _).setPlain rfl).aim _)
  | computes => exact .goes ((hself.setPlain rfl).aim _)
  | invalidates _ hi => exact hi.editsThenRests
  | turns hj hf => exact hf.editsThenRests (develops_job hj)
  | panics => exact .goes (hself.breakDown _ _)
  | @follows t v hj he hp =>
    have hfollowed := fadingUnheld_modifyTask w t (fun task =>
      { task with follower := w.running }) fun _ _ => rfl
    exact .after (hself.fading hfollowed.toFading) hp.editsThenRests

lemma DropsBranch.edits {i : Nat} (hd : w.DropsBranch i w') : Edits A w w' := by
  cases hd with
  | @branch f e hj =>
    refine Edits.trans ((Edits.refl w).setJob ?_) (dropsEmission _ e).edits
    rw [hj]
    refine develops_fan ((f.continues_aimAt i).trans (Fan.continues_setCurrent _ none)) fun k e he => ?_
    rcases emission?_setCurrent he with heq | hold
    · cases heq
    · exact hold
  | nothing => exact .refl w

lemma edits_branches (w : World) (order : List Nat) : Edits A w (order.foldl dropBranch w) := by
  induction order generalizing w with
  | nil => exact .refl w
  | cons i order ih => exact (w.dropsBranch i).edits.trans (ih _)

lemma DropsJob.edits (hd : w.DropsJob w') : Edits A w w' := by
  have hplain : Edits A w (w.setJob .nothing) := (Edits.refl w).setPlain rfl
  cases hd with
  | output | work => exact hplain.release _ _
  | @emission e => exact hplain.trans (dropsEmission _ e).edits
  | @branches f => exact edits_branches w f.leaving
  | nothing => exact .refl w

lemma ForgetsParty.edits (hf : w.ForgetsParty w') : Edits A w w' := by
  have hself := Edits.refl (A := A) w
  cases hf with
  | work => exact hself.setWork _
  | @emission e =>
    refine Edits.trans ?_ (dropsEmission _ e.recalled).edits
    cases hj : w.job with
    | fan f => exact hself.dropCurrent hj
    | _ => exact hself.setPlain rfl
  | output => exact hself.setPlain rfl
  | nobody => exact hself

lemma Unwinds.edits {text : String} (hu : w.Unwinds text w') : Edits A w w' := by
  have hforget := w.forgetsParty.edits (A := A)
  cases hu with
  | breaks => exact (hforget.setFlight _ _).aside
  | misses => exact hforget.aside
  | ends => exact hforget.aim _

/-- Of every task the name, and what it owns. -/
def labels (w : World) : List (Option String × Option (String × Subscription)) :=
  w.tasks.map fun task => (task.name, task.holding)

@[simp] lemma labels_setJob (w : World) (j : Job) : (w.setJob j).labels = w.labels := by
  rcases setJob_cases w j with ⟨t, task, -, ht, heq⟩ | heq
  · rw [heq]
    exact map_set_of_eq ht rfl
  · rw [heq]

lemma labels_fades (h : FadingUnheld w w') : w'.labels = w.labels := by
  have hbare : ∀ v : World, v.labels =
      (v.tasks.map Task.bare).map fun task => (task.name, task.holding) := fun v => by
    rw [List.map_map]
    rfl
  rw [hbare, hbare, h.tasks]

@[simp] lemma labels_release (w : World) (kept : List Nat) (own : Handle) :
    (w.release kept own).labels = w.labels :=
  labels_fades (fadingUnheld_release w kept own)

@[simp] lemma labels_makeWay (w : World) (e : Emission) (pass : Pass) :
    (w.makeWay e pass).labels = w.labels := by
  obtain ⟨l, heq⟩ := makeWay_eq w e pass
  rw [heq]
  exact (labels_fades (fadingUnheld_wake _ l)).trans rfl

lemma DropsEmission.labels {e : Emission} (hd : w.DropsEmission e w') : w'.labels = w.labels := by
  cases hd with
  | outside => rfl
  | @waiting pass own => exact (labels_makeWay _ e pass).trans (labels_release w [] own)
  | inside => exact labels_makeWay w e _

lemma DropsBranch.labels {i : Nat} (hd : w.DropsBranch i w') : w'.labels = w.labels := by
  cases hd with
  | @branch f e => exact (dropsEmission _ e).labels.trans (labels_setJob w _)
  | nothing => rfl

@[simp] lemma labels_branches (w : World) (order : List Nat) :
    (order.foldl dropBranch w).labels = w.labels := by
  induction order generalizing w with
  | nil => rfl
  | cons i order ih => exact (ih _).trans (w.dropsBranch i).labels

lemma DropsJob.labels (hd : w.DropsJob w') : w'.labels = w.labels := by
  cases hd with
  | output | work => simp
  | @emission e => exact (dropsEmission _ e).labels.trans (labels_setJob w _)
  | @branches f => exact labels_branches w f.leaving
  | nothing => rfl

lemma task_dropJob {t : Nat} {task : Task} (ht : w.tasks[t]? = some task) :
    ∃ task', w.dropJob.tasks[t]? = some task' ∧ task'.name = task.name ∧
      task'.holding = task.holding := by
  have hlabel := congrArg (fun l : List (Option String × Option (String × Subscription)) => l[t]?)
    w.dropsJob.labels
  simp only [labels, List.getElem?_map, ht, Option.map_some] at hlabel
  obtain ⟨task', ht', heq⟩ := Option.map_eq_some_iff.mp hlabel
  exact ⟨task', ht', congrArg Prod.fst heq, congrArg Prod.snd heq⟩

lemma Edit.running (h : Edit A w w') : w'.running = w.running := by
  cases h with
  | enrols =>
    obtain ⟨_, _, heq⟩ := subscriberOf_frame w _
    rw [heq]
  | fades hf => exact hf.running
  | @ends t task _ _ how =>
    rcases putBack_cases (World.log { w with
      tasks := w.tasks.set t { task with job := .nothing, ended := some how, holding := none } }
        (.ended t task.name how)) task.holding how with heq | ⟨_, _, -, heq⟩ <;> rw [heq] <;> rfl
  | _ => rfl

/-- The task that runs goes on running. -/
lemma Edits.running (h : Edits A w w') : w'.running = w.running := by
  induction h with
  | refl => rfl
  | tail _ he ih => exact he.running.trans ih

lemma EndsTask.editsThenRests {how : End} (he : w.EndsTask how w') : EditsThenRests A w w' := by
  have hleave {t : Nat} {task : Task} (hr : w.running = some t) (ht : w.tasks[t]? = some task)
      (hfades : Fading (w.leaveTask t task how) w') : EditsThenRests A w w' := by
    obtain ⟨task', ht', hname, hholding⟩ := task_dropJob ht
    have hclose : w.closeTask t how = { w.dropJob with
        tasks := w.dropJob.tasks.set t
          { task' with job := .nothing, ended := some how, holding := none } } := by
      unfold closeTask modifyTask
      rw [ht']
    have hdrop := w.dropsJob.edits (A := A)
    unfold leaveTask at hfades
    rw [hclose, ← hname, ← hholding] at hfades
    exact .rests (hdrop.edit (.ends (hdrop.running.trans hr) ht' how)) hfades
  cases he with
  | idle => exact .goes ((Edits.refl w).aim _)
  | misses => exact .rests (.refl w) (.refl _)
  | leaves hr ht => exact hleave hr ht (.refl _)
  | calls hr ht => exact hleave hr ht (fadingUnheld_enqueue _ _).toFading

/-- A step is one edit after the other, in which subscribers do what their scripts say. -/
lemma editsThenRests_step (h : w.Steady) (hs : w.focus = .emission →
    ∀ e, w.party = .emission e → ∀ a ∈ e.progress.script, A a) : EditsThenRests A w w.step := by
  unfold World.step
  cases hf : w.focus with
  | idle => exact .goes (.refl w)
  | resume => exact w.resumesTask.editsThenRests
  | work => exact .goes w.resumesWork.edits
  | make r => exact .goes (w.makesRecipe r).edits
  | made c => exact .goes (w.finishesWork c).edits
  | poll own => exact .goes (w.pollsFlight own).edits
  | answer r => exact .goes (w.handsAnswer r).edits
  | stall => exact w.stalls.editsThenRests
  | emission => exact .goes (w.goesOn.edits h (hs hf))
  | next finished => exact (w.turnsToNext finished).editsThenRests
  | finish how => exact (w.endsTask how).editsThenRests
  | panic text => exact .goes (w.unwinds text).edits

end World

end Dataflow
