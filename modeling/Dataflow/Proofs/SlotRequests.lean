import Dataflow.Proofs.Provenance

/-!
# How a slot is asked for

A task that wants the result of a slot which is neither cached nor in flight has a flight take off, and
a task that computes the slot on its own starts a work of its own. Either way the node and the schema
are looked up at once and never again. So both come to what the same node hands over for the same
output, judged by the same schema, whatever is registered or cleared meanwhile.
-/

namespace Dataflow

/-- The two works are for the same slot, with the same node and schema. -/
structure Work.Alike (k k' : Work) : Prop where
  host : k'.host = k.host
  slot : k'.slot = k.slot
  target : k'.target = k.target

namespace World

variable {sc : Scene} {start u v w w' : World} {t ticket : Nat} {host : String} {slot : Slot} {j : Job}
  {k : Work} {name : Option String} {r : Result}

/-- No task runs, and this one has not begun to do what it is there for. -/
structure Ready (w : World) (t : Nat) (j : Job) : Prop where
  idle : w.focus = .idle
  waits : ∃ task, w.tasks[t]? = some task ∧ task.job = j ∧ task.ended = none ∧
    task.cancelled = false

/-- The task is taken up. -/
def takeUp (w : World) (t : Nat) : World := { w with queue := w.queue.erase t }.poll t

lemma reachable_takeUp (hf : w.focus = .idle) (t : Nat) : Reachable w (w.takeUp t) :=
  .poll t .refl hf

@[simp] lemma tasks_takeUp (w : World) (t : Nat) : (w.takeUp t).tasks = w.tasks := tasks_poll _ t

@[simp] lemma flights_takeUp (w : World) (t : Nat) : (w.takeUp t).flights = w.flights :=
  flights_poll _ t

@[simp] lemma pipelines_takeUp (w : World) (t : Nat) : (w.takeUp t).pipelines = w.pipelines :=
  pipelines_poll _ t

@[simp] lemma engine_takeUp (w : World) (t : Nat) : (w.takeUp t).engine = w.engine :=
  funext fun host => congrArg (fun p : Table String Pipeline => ((p.get? host).getD {}).engine)
    (pipelines_takeUp w t)

@[simp] lemma journal_takeUp (w : World) (t : Nat) : (w.takeUp t).journal = w.journal :=
  journal_poll _ t

namespace Ready

lemma takeUp_eq (h : w.Ready t j) : ∃ subscriptions, w.takeUp t = { w with
    queue := w.queue.erase t, running := some t, rewoken := false, deliveries := 0, subscriptions
    focus := .resume } := by
  obtain ⟨task, ht, -, he, hc⟩ := h.waits
  have hqueue : ({ w with queue := w.queue.erase t } : World).tasks[t]? = some task := ht
  exact poll_going hqueue he hc

lemma focus (h : w.Ready t j) : (w.takeUp t).focus = .resume := by
  obtain ⟨_, heq⟩ := h.takeUp_eq
  rw [heq]

lemma running (h : w.Ready t j) : (w.takeUp t).running = some t := by
  obtain ⟨_, heq⟩ := h.takeUp_eq
  rw [heq]

lemma job (h : w.Ready t j) : (w.takeUp t).job = j := by
  obtain ⟨task, ht, hj, -, -⟩ := h.waits
  have htask : (w.takeUp t).tasks[t]? = some task := (congrArg (·[t]?) (tasks_takeUp w t)).trans ht
  exact (job_of_running h.running htask).trans hj

lemma step_eq (h : w.Ready t j) : (w.takeUp t).step = (w.takeUp t).resumeTask := by
  unfold World.step
  rw [h.focus]

lemma driving (h : w.Ready t j) (hs : w.Sane) : (w.takeUp t).driving = [] := by
  have hidle := hs.poised.aimed
  rw [h.idle] at hidle
  exact (driving_poll _ t).trans hidle.2.1

/-- The task is not over. -/
lemma not_ended (h : w.Ready t j) (hs : w.Sane) (how : End) :
    .ended t name how ∉ (w.takeUp t).journal := by
  intro hm
  rw [journal_takeUp] at hm
  obtain ⟨task, how', ht, he⟩ := hs.over_of_ended hm
  obtain ⟨task', ht', -, he', -⟩ := h.waits
  rw [ht] at ht'
  cases ht'
  rw [he] at he'
  cases he'

end Ready

/-- The flight is one of a work like this. -/
def Bears (w : World) (ticket : Nat) (k : Work) : Prop :=
  ∃ f, w.flights[ticket]? = some f ∧ k.Alike f.work

/-- Flights keep the node and the schema that they took off with. -/
lemma Reachable.bears (h : Reachable start w) (hs : start.Sane) (hd : start.Due)
    (hb : start.Bears ticket k) : w.Bears ticket k := by
  refine h.through.maintains (P := fun w => w.Bears ticket k) hs hd hb
    (fun w w' hp hr _ => ?_) fun w hw hd _ hp => ?_
  · obtain ⟨f, hf, ha⟩ := hp
    obtain ⟨f', hf', hwears⟩ := hr.flights ticket f hf
    exact ⟨f', hf', hwears.work.host.trans ha.host, hwears.work.slot.trans ha.slot,
      hwears.work.target.trans ha.target⟩
  · obtain ⟨f, hf, ha⟩ := hp
    obtain ⟨f', hf', hcourse⟩ := (advances_step hw.poised hd).flights ticket f hf
    exact ⟨f', hf', hcourse.host.trans ha.host, hcourse.slot.trans ha.slot,
      hcourse.target.trans ha.target⟩

/-- While a task runs nothing can happen but its next step. -/
lemma Reachable.past (h : Reachable u v) (hf : u.focus ≠ .idle) : v = u ∨ Reachable u.step v := by
  induction h with
  | refl => exact .inl rfl
  | perform a w' reply _ hidle ha ih =>
    rcases ih with rfl | hr
    · exact absurd hidle hf
    · exact .inr (.perform a w' reply hr hidle ha)
  | poll t _ hidle ih =>
    rcases ih with rfl | hr
    · exact absurd hidle hf
    · exact .inr (.poll t hr hidle)
  | step _ ih =>
    rcases ih with rfl | hr
    · exact .inr .refl
    · exact .inr (.step hr)

/-- The work that a slot is computed by, with what is registered now. -/
def workOf (w : World) (host : String) (slot : Slot) : Work :=
  { host, slot, target := (w.engine host).target slot }

/-- The flight has taken off that the task waits for. -/
def setOff (w : World) (host : String) (slot : Slot) : World :=
  ({ w with flights := w.flights ++ [({ work := w.workOf host slot } : Flight)] }.setEngine host
    ((w.engine host).takeOff slot w.flights.length)).log (.takenOff host slot w.flights.length)

section

variable (h : w.Ready t (.output host slot none)) (hc : (w.engine host).cached slot = none)
  (hf : (w.engine host).flying slot = none)

include h hc hf

lemma Ready.step_output : (w.takeUp t).step =
    (((w.takeUp t).setOff host slot).setJob
      (.output host slot (some { ticket := w.flights.length }))).aim
        (.poll { ticket := w.flights.length }) := by
  have hflights := flights_takeUp w t
  have hengine := congrFun (engine_takeUp w t) host
  rw [h.step_eq]
  unfold resumeTask
  rw [h.job]
  dsimp only
  rw [hengine, hc]
  dsimp only
  unfold join
  dsimp only
  rw [hengine, hf]
  dsimp only
  unfold setOff workOf
  rw [hflights, hengine]

lemma Ready.flight_output :
    (w.takeUp t).step.flights[w.flights.length]? = some { work := w.workOf host slot } := by
  have hflights := flights_takeUp w t
  have hwork : (w.takeUp t).workOf host slot = w.workOf host slot := by
    unfold workOf
    rw [engine_takeUp]
  rw [h.step_output hc hf]
  show (((w.takeUp t).setOff host slot).setJob _).flights[w.flights.length]? = _
  rw [flights_setJob]
  show ((w.takeUp t).flights ++ [({ work := (w.takeUp t).workOf host slot } : Flight)])[_]? = _
  rw [hflights, hwork]
  exact List.getElem?_concat_length

lemma Ready.asks_output :
    (w.takeUp t).step.Asks t (.output host slot (some { ticket := w.flights.length })) := by
  obtain ⟨task, ht, -, he, -⟩ := h.waits
  have htask : ((w.takeUp t).setOff host slot).tasks[t]? = some task :=
    (congrArg (·[t]?) (tasks_takeUp w t)).trans ht
  have hrunning : ((w.takeUp t).setOff host slot).running = some t := h.running
  rw [h.step_output hc hf, setJob_of_running hrunning htask]
  exact ⟨_, List.getElem?_set_self (List.getElem?_eq_some_iff.mp htask).1, he, .output rfl⟩

end

lemma Ready.step_compute (h : w.Ready t (.compute host slot)) :
    (w.takeUp t).step = ((w.takeUp t).setJob (.work (w.workOf host slot))).aim .work := by
  rw [h.step_eq, resumeTask_compute h.job, engine_takeUp]
  rfl

lemma Ready.asks_compute (h : w.Ready t (.compute host slot)) :
    (w.takeUp t).step.Asks t (.work (w.workOf host slot)) := by
  obtain ⟨task, ht, -, he, -⟩ := h.waits
  have htask : (w.takeUp t).tasks[t]? = some task := by
    rw [tasks_takeUp]
    exact ht
  rw [h.step_compute, setJob_of_running h.running htask]
  exact ⟨_, List.getElem?_set_self (List.getElem?_eq_some_iff.mp htask).1, he, .work rfl rfl rfl⟩

/-- On the way from `u` to `v` there is the moment `m` at which a work like `k` was about to come to
`r`, for what its node handed over or else because there was no such node or output. -/
structure Originates (u v : World) (k : Work) (m : World) (x : Option (Except Cause Payload))
    (r : Result) : Prop where
  before : Reachable u m
  after : Reachable m v
  comes : ∃ k', m.ComesTo k' x r.content ∧ k.Alike k'
  number : r.id = m.nextResult

/-- A work that has come to its content has done so since the task was taken up. -/
lemma originates_of_made (hu : Reachable sc.opening u) (hf : u.focus = .resume)
    (hv : Reachable u.step v) {c : Content} (hm : v.focus = .made c) :
    ∃ m k x, Reachable u.step m ∧ m.step = v ∧ m.ComesTo k x c ∧ KeepsTurn m v := by
  have hopening : u.focus.isOpening = true := by
    rw [hf]
    rfl
  have hidle : u.focus ≠ .idle := by
    rw [hf]
    rintro ⟨⟩
  have hgoes : v.focus.isOpening = false := by
    rw [hm]
    rfl
  have huv : Reachable u v := (Reachable.step .refl).trans hv
  obtain ⟨m, hum, rfl⟩ := huv.stepped (Scene.sane_of_reachable hu) hopening hgoes
  obtain ⟨k, x, hcomes, hkeeps⟩ := comesTo_of_made (Scene.sane_of_reachable (hu.trans hum)) hm
  rcases hum.past hidle with rfl | hm'
  · exact absurd hf hcomes.ne_resume
  · exact ⟨m, k, x, hm', rfl, hcomes, hkeeps⟩

/-- A flight that has taken off since the task was taken up lands with what its work comes to. -/
lemma originates_of_landed (hu : Reachable sc.opening u) (hf : u.focus = .resume)
    (hb : u.step.Bears ticket k) {kept : Bool} (hn : .landed host slot ticket r kept ∉ u.step.journal)
    (hv : Reachable u.step v) (hl : .landed host slot ticket r kept ∈ v.journal) :
    ∃ m x, Originates u v k m x r ∧ m.ticket? = some ticket := by
  have hstep : Reachable sc.opening u.step := .step hu
  rcases hv.noted (Scene.sane_of_reachable hstep) rfl hl with hold | ⟨v', hv', hvv, hno, hyes⟩
  · exact absurd hold hn
  rcases (Scene.stride_of_reachable (hstep.trans hv')).landed hyes with hold | ⟨c, f, hm, ht, -, rfl⟩
  · exact absurd hold hno
  obtain ⟨m, k', x, hum, rfl, hcomes, hkeeps⟩ := originates_of_made hu hf hv' hm
  have hticket : m.ticket? = some ticket := by
    rw [ticket?, ← hkeeps.driving]
    exact ht
  obtain ⟨f, hflight, halike⟩ :=
    hum.bears (Scene.sane_of_reachable hstep) (Scene.due_of_reachable hstep) hb
  have hparty := (party_of_ticket hticket hflight).symm.trans hcomes.party
  cases hparty
  exact ⟨m, x, ⟨(Reachable.step .refl).trans hum, (Reachable.step (.step .refl)).trans hvv,
    ⟨f.work, hcomes, halike⟩, hkeeps.nextResult⟩, hticket⟩

/-- A task that runs and is not about to end goes on asking for what it asks for. -/
lemma Pursues.asks_of_running (h : w.Pursues t j) (hs : w.Steady) (hr : w.running = some t)
    (hf : w.focus.isFinish = false) : w.Asks t j := by
  cases h with
  | asks ha => exact ha
  | doomed _ hd =>
    obtain ⟨-, text, hf'⟩ := hd
    rw [hf'] at hf
    cases hf
  | finished ho => exact absurd hr (ho.waits hs)

/-- A task has ended with a result since it was taken up, so it has come by it. -/
lemma Ready.comesBy (h : w.Ready t j) (hw : Reachable sc.opening w)
    (hv : Reachable (w.takeUp t) v) (hm : .ended t name (.result r) ∈ v.journal) :
    ∃ m, Reachable (w.takeUp t) m ∧ Reachable m v ∧ m.running = some t ∧ m.AboutToEndWith r := by
  have hu : Reachable sc.opening (w.takeUp t) := hw.trans (reachable_takeUp h.idle t)
  have hopening : (w.takeUp t).focus.isOpening = true := by
    rw [h.focus]
    rfl
  rcases hv.noted (Scene.sane_of_reachable hu) rfl hm with hold | ⟨v', hv', hvv, hno, hyes⟩
  · exact absurd hold (h.not_ended (Scene.sane_of_reachable hw) _)
  rcases (Scene.stride_of_reachable (hu.trans hv')).ended hyes with hold | ⟨hr, hf⟩
  · exact absurd hold hno
  have hgoes : v'.focus.isOpening = false := by
    rw [hf]
    rfl
  obtain ⟨m, hum, rfl⟩ := hv'.stepped (Scene.sane_of_reachable hu) hopening hgoes
  have hsane := Scene.sane_of_reachable (hu.trans hum)
  refine ⟨m, hum, (Reachable.step (.step .refl)).trans hvv, ?_, aboutToEndWith_of_finish hsane hf⟩
  rcases (spares_step hsane.poised.steady).running with heq | hnone
  · exact heq.symm.trans hr
  · rw [hr] at hnone
    cases hnone

/-- A task that has computed the slot on its own ends with what its work came to. -/
lemma Ready.originates_compute (h : w.Ready t (.compute host slot)) (hw : Reachable sc.opening w)
    (hv : Reachable (w.takeUp t) v) (hm : .ended t name (.result r) ∈ v.journal) :
    ∃ m x, Originates (w.takeUp t) v (w.workOf host slot) m x r ∧ m.driving = [] ∧
      m.running = some t := by
  have hu : Reachable sc.opening (w.takeUp t) := hw.trans (reachable_takeUp h.idle t)
  have hstep : Reachable sc.opening (w.takeUp t).step := .step hu
  have hsane := Scene.sane_of_reachable hstep
  have hidle : (w.takeUp t).focus ≠ .idle := by
    rw [h.focus]
    rintro ⟨⟩
  obtain ⟨m, hum, hmv, hr, hcomes⟩ := h.comesBy hw hv hm
  rcases hum.past hidle with rfl | hum'
  · cases hcomes with
    | made hf _ _ =>
      rw [h.focus] at hf
      cases hf
    | answered hf _ =>
      rw [h.focus] at hf
      cases hf
    | found _ hj _ =>
      rw [h.job] at hj
      cases hj
  have hj := ((hum'.pursues hsane (.asks h.asks_compute)).asks_of_running
    (hum'.goes hsane).1.poised.steady hr hcomes.isFinish).job hr
  cases hcomes with
  | answered _ hp =>
    rw [job_of_party_output hp] at hj
    cases hj
  | found _ hj' _ =>
    rw [hj'] at hj
    cases hj
  | @made c hf hd heq =>
    subst heq
    obtain ⟨m', k, x, hum'', rfl, hcomes, hkeeps⟩ := originates_of_made hu h.focus hum' hf
    have hd' : m'.driving = [] := hkeeps.driving.symm.trans hd
    have hr' : m'.running = some t := hkeeps.running.symm.trans hr
    have hparty := hcomes.party
    rw [party_eq, hd'] at hparty
    have hasks := (hum''.pursues hsane (.asks h.asks_compute)).asks_of_running
      (hum''.goes hsane).1.poised.steady hr' hcomes.isFinish
    have hjob := hasks.job hr'
    rw [Job.eq_of_party_work hparty] at hjob
    cases hjob with
    | work hhost hslot htarget =>
      exact ⟨m', x, ⟨(Reachable.step .refl).trans hum'', (Reachable.step .refl).trans hmv,
        ⟨k, hcomes, hhost, hslot, htarget⟩, hkeeps.nextResult⟩, hd', hr'⟩

/-- What a task ends with that waits for a flight is what that flight has landed with. -/
lemma AboutToEndWith.landed {own : Handle} (h : w.AboutToEndWith r) (hs : w.Sane) (hr : w.running = some t)
    (ha : w.Asks t (.output host slot (some own))) (hb : w.Bears own.ticket k) :
    ∃ kept, .landed k.host k.slot own.ticket r kept ∈ w.journal := by
  have hj := ha.job hr
  have haim := hs.poised.aimed
  cases h with
  | made hf hd _ =>
    rw [hf] at haim
    obtain ⟨-, k', hp, -⟩ := haim
    rw [party_eq, hd] at hp
    rw [Job.eq_of_party_work hp] at hj
    cases hj
  | found _ hj' _ =>
    rw [hj'] at hj
    cases hj
  | answered hf hp =>
    rw [hf] at haim
    obtain ⟨-, ticket, f, hawaits, hflight, hlanded⟩ := haim
    rw [job_of_party_output hp] at hj
    rw [hp] at hawaits
    cases hj with
    | output ht =>
      have hticket := (Option.some.inj hawaits).symm.trans ht
      subst hticket
      obtain ⟨f', hflight', halike⟩ := hb
      rw [hflight] at hflight'
      cases hflight'
      rw [← halike.host, ← halike.slot]
      exact hs.landed_of_status hflight hlanded

/-- A task that has waited for the flight of the slot ends with what the work of the flight came to. -/
lemma Ready.originates_output (h : w.Ready t (.output host slot none))
    (hc : (w.engine host).cached slot = none) (hf : (w.engine host).flying slot = none)
    (hw : Reachable sc.opening w) (hv : Reachable (w.takeUp t) v)
    (hm : .ended t name (.result r) ∈ v.journal) :
    ∃ m x, Originates (w.takeUp t) v (w.workOf host slot) m x r ∧
      m.ticket? = some w.flights.length := by
  have hu : Reachable sc.opening (w.takeUp t) := hw.trans (reachable_takeUp h.idle t)
  have hstep : Reachable sc.opening (w.takeUp t).step := .step hu
  have hsane := Scene.sane_of_reachable hstep
  have hidle : (w.takeUp t).focus ≠ .idle := by
    rw [h.focus]
    rintro ⟨⟩
  have hflight := h.flight_output hc hf
  have hbears : (w.takeUp t).step.Bears w.flights.length (w.workOf host slot) :=
    ⟨_, hflight, rfl, rfl, rfl⟩
  obtain ⟨m, hum, hmv, hr, hcomes⟩ := h.comesBy hw hv hm
  rcases hum.past hidle with rfl | hum'
  · cases hcomes with
    | made hfocus _ _ =>
      rw [h.focus] at hfocus
      cases hfocus
    | answered hfocus _ =>
      rw [h.focus] at hfocus
      cases hfocus
    | found _ hj hcached =>
      rw [h.job] at hj
      cases hj
      rw [engine_takeUp] at hcached
      cases hc.symm.trans hcached
  have hsane' := (hum'.goes hsane).1
  have hasks := (hum'.pursues hsane (.asks (h.asks_output hc hf))).asks_of_running
    hsane'.poised.steady hr hcomes.isFinish
  obtain ⟨kept, hl⟩ := hcomes.landed hsane' hr hasks
    (hum'.bears hsane (Scene.due_of_reachable hstep) hbears)
  obtain ⟨m', x, ho, ht⟩ := originates_of_landed hu h.focus hbears
    (hsane.not_landed hflight rfl) hum' hl
  exact ⟨m', x, ⟨ho.before, ho.after.trans hmv, ho.comes, ho.number⟩, ht⟩

end World

end Dataflow
