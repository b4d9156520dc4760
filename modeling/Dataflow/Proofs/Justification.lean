import Dataflow.Proofs.Strides

/-!
# Why a result is what it is

Whatever is cached for a slot, delivered from it or handed to a task goes back to one computation of the
slot. It is what the node handed over that was registered when the computation started, as far as the
schema accepts it which that node declares; or it says that there was no such node then, or that the
node declares no such output. `Justifies` lists the cases.
-/

namespace Dataflow

namespace Journal

variable {host : String} {s : Slot} {ticket? : Option Nat} {l : List Event} {c : Content}

/-- A computation of the slot starts here; if it is shared, its flight has just taken off. -/
def Starts (host : String) (s : Slot) (ticket? : Option Nat) (l : List Event) : Prop :=
  ∀ ticket, ticket? = some ticket → ∃ past, l = .takenOff host s ticket :: past

/-- The node that was registered when the computation started was asked for the output, and has just
handed this over. The output has this schema. -/
def Handed (host : String) (s : Slot) (ticket? : Option Nat) (schema : Schema)
    (outcome : Except Cause Payload) (l : List Event) : Prop :=
  ∃ mid past n, l = .handed host s ticket? outcome :: (mid ++ .begun host s ticket? :: past) ∧
    Starts host s ticket? past ∧ node host s.node past = some n ∧
    n.outputs.get? s.output = some schema ∧ (n.produce s.output).Leads (.finish outcome)

/-- What a computation of the slot can come to, by the history up to that. -/
inductive Justifies (host : String) (s : Slot) (ticket? : Option Nat) (l : List Event) :
    Content → Prop where
  | value {schema : Schema} {p : Payload} : Handed host s ticket? schema (.ok p) l →
      schema.check p = .accepted → Justifies host s ticket? l (.ok p)
  | compute {schema : Schema} {cause : Cause} : Handed host s ticket? schema (.error cause) l →
      Justifies host s ticket? l (.error (.compute s.node s.output cause))
  | validation {schema : Schema} {p : Payload} {diagnostic : String} :
      Handed host s ticket? schema (.ok p) l → schema.check p = .rejected diagnostic →
      Justifies host s ticket? l (.error (.validation s.node s.output diagnostic))
  | outputNotFound {n : Node} : Starts host s ticket? l → node host s.node l = some n →
      n.outputs.get? s.output = none →
      Justifies host s ticket? l (.error (.outputNotFound s.node s.output))
  | nodeNotFound : Starts host s ticket? l → node host s.node l = none →
      Justifies host s ticket? l (.error (.nodeNotFound s.node))

/-- A failure is about the node of the slot. -/
lemma Justifies.node {f : Failure} (h : Justifies host s ticket? l (.error f)) :
    f.node = s.node := by
  cases h <;> rfl

lemma target_eq_ok {n : Node} {schema : Schema} :
    target host s l = .ok (n, schema) ↔
      Journal.node host s.node l = some n ∧ n.outputs.get? s.output = some schema := by
  unfold target
  cases Journal.node host s.node l with
  | none => simp
  | some m =>
    cases hs : m.outputs.get? s.output with
    | none =>
      simp only [hs, reduceCtorEq, false_iff, not_and]
      rintro ⟨⟩
      rw [hs]
      rintro ⟨⟩
    | some schema' =>
      simp only [hs, Except.ok.injEq, Prod.mk.injEq, Option.some.injEq]
      constructor
      · rintro ⟨rfl, rfl⟩
        exact ⟨rfl, hs⟩
      · rintro ⟨rfl, h⟩
        rw [hs] at h
        exact ⟨rfl, Option.some.inj h⟩

lemma justifies_of_error {f : Failure} (hs : Starts host s ticket? l)
    (ht : target host s l = .error f) : Justifies host s ticket? l (.error f) := by
  unfold target at ht
  cases hn : Journal.node host s.node l with
  | none =>
    rw [hn] at ht
    cases ht
    exact .nodeNotFound hs hn
  | some n =>
    rw [hn] at ht
    cases ho : n.outputs.get? s.output with
    | none =>
      simp only [ho] at ht
      cases ht
      exact .outputNotFound hs hn ho
    | some schema =>
      simp only [ho] at ht
      cases ht

/-- The result belongs to a computation of the slot, shared or not, that has come to it. -/
inductive Justified (host : String) (s : Slot) (r : Result) (l : List Event) : Prop where
  | shared {ticket : Nat} {kept : Bool} {later earlier : List Event} :
      l = later ++ .landed host s ticket r kept :: earlier →
      Justifies host s (some ticket) earlier r.content → Justified host s r l
  | alone {t : Nat} {name : Option String} {task : Task} {later earlier : List Event} :
      l = later ++ .ended t name (.result r) :: earlier → .started t task ∈ earlier →
      task.job = .compute host s → Justifies host s none earlier r.content → Justified host s r l

lemma Justified.node {r : Result} (h : Justified host s r l) {f : Failure}
    (hr : r.content = .error f) : f.node = s.node := by
  cases h with
  | shared _ hj =>
    rw [hr] at hj
    exact hj.node
  | alone _ _ _ hj =>
    rw [hr] at hj
    exact hj.node

end Journal

open Journal (Starts Justifies Throughout)

/-- What holds of an event by the history before it. -/
def Event.Founded (past : List Event) : Event → Prop
  | .begun host s ticket? =>
    Starts host s ticket? past ∧ ∃ n schema, Journal.target host s past = .ok (n, schema)
  | .landed host s ticket r _ => Justifies host s (some ticket) past r.content
  | .ended t _ (.result r) => ∀ task host s, .started t task ∈ past → task.job = .compute host s →
      Justifies host s none past r.content
  | _ => True

lemma Event.founded_of_isMilestone (past : List Event) {e : Event} (he : e.isMilestone = false) :
    e.Founded past := by
  cases e <;> first | exact True.intro | cases he

/-- The node of the work was asked for the output. -/
def Work.Begun (k : Work) (ticket? : Option Nat) (l : List Event) : Prop :=
  ∃ mid past, l = mid ++ .begun k.host k.slot ticket? :: past ∧ Starts k.host k.slot ticket? past ∧
    Journal.target k.host k.slot past = k.target

namespace Work

variable {k k' : Work} {ticket? : Option Nat} {l l' : List Event}

lemma Begun.mono (h : k.Begun ticket? l) (hl : l <:+ l') (hhost : k'.host = k.host)
    (hslot : k'.slot = k.slot) (htarget : k'.target = k.target) : k'.Begun ticket? l' := by
  obtain ⟨mid, past, rfl, hs, ht⟩ := h
  obtain ⟨new, rfl⟩ := hl
  unfold Begun
  rw [hhost, hslot, htarget]
  exact ⟨new ++ mid, past, (List.append_assoc _ _ _).symm, hs, ht⟩

lemma Begun.continues (h : k.Begun ticket? l) (hc : k.Continues k') (hl : l <:+ l') :
    k'.Begun ticket? l' :=
  h.mono hl hc.host hc.slot hc.target

/-- What the schema makes of what the node has handed over. -/
lemma Begun.justifies (h : k.Begun ticket? l) {outcome : Except Cause Payload}
    (hf : k.Follows (.finish outcome)) {c : Content} (hc : k.judge outcome = .ok c) :
    Justifies k.host k.slot ticket? (.handed k.host k.slot ticket? outcome :: l) c := by
  obtain ⟨mid, past, rfl, hs, ht⟩ := h
  obtain ⟨n, schema, hk, hl⟩ := hf
  rw [hk] at ht
  obtain ⟨hn, ho⟩ := Journal.target_eq_ok.mp ht
  have hh : Journal.Handed k.host k.slot ticket? schema outcome
      (.handed k.host k.slot ticket? outcome :: (mid ++ .begun k.host k.slot ticket? :: past)) :=
    ⟨mid, past, n, rfl, hs, hn, ho, hl⟩
  unfold judge at hc
  rw [hk] at hc
  cases outcome with
  | error cause =>
    cases hc
    exact .compute hh
  | ok p =>
    dsimp only at hc
    cases hcheck : schema.check p with
    | accepted =>
      rw [hcheck] at hc
      cases hc
      exact .value hh hcheck
    | rejected diagnostic =>
      rw [hcheck] at hc
      cases hc
      exact .validation hh hcheck
    | crashed =>
      rw [hcheck] at hc
      cases hc

/-- The work goes on with what its node was asked for, or has come to what that justifies. -/
def Earns (k : Work) (ticket? : Option Nat) (l : List Event) : Focus → Prop
  | .make _ => k.Begun ticket? l
  | .made c => Justifies k.host k.slot ticket? l c
  | _ => True

end Work

namespace World

variable {w w' : World} {k : Work}

/-- A task that is there to compute on its own is about to take up its work, with what is registered
now. -/
structure Commences (w : World) (t : Nat) (k : Work) : Prop where
  focus : w.focus = .work
  driving : w.driving = []
  running : w.running = some t
  stage : k.stage = .fresh
  target : Journal.target k.host k.slot w.journal = k.target

/-- The work of the task is about to be taken up, or was begun unless its target is missing. -/
def Proceeds (w : World) (t : Nat) (k : Work) : Prop :=
  w.Commences t k ∨ k.stage ≠ .fresh ∧ ((∃ f, k.target = .error f) ∨ k.Begun none w.journal)

/-- The innermost work goes on with what its node was asked for, or has come to what that justifies. -/
def Making (w : World) : Prop := ∀ k, w.party = .work k → k.Earns w.ticket? w.journal w.focus

/-- A task that has computed on its own ends with what is justified. -/
def Finishing (w : World) : Prop :=
  ∀ r host s, w.focus = .finish (.result r) → w.job.purpose = some (.computation host s) →
    (∃ k, w.job = .work k) ∧ Justifies host s none w.journal r.content

/-- All computations are those of the history. -/
structure Founded (w : World) : Prop where
  journal : Throughout Event.Founded w.journal
  flights : ∀ (ticket : Nat) f, w.flights[ticket]? = some f →
    (f.work.stage = .fresh ∨ f.work.stage = .away) ∨ f.work.Begun (some ticket) w.journal
  tasks : ∀ (t : Nat) task k, w.tasks[t]? = some task → task.job = .work k → w.Proceeds t k
  making : w.Making
  finishing : w.Finishing

lemma finishing_of_isResult (hf : w.focus.isResult = false) : w.Finishing := by
  intro r _ _ hfocus
  rw [hfocus] at hf
  cases hf

lemma making_of_isMaking (hf : w.focus.isMaking = false) : w.Making := by
  intro k _
  cases hfocus : w.focus with
  | make r =>
    rw [hfocus] at hf
    cases hf
  | made c =>
    rw [hfocus] at hf
    cases hf
  | _ => exact True.intro

lemma party_of_ticket {ticket : Nat} {f : Flight} (ht : w.ticket? = some ticket)
    (hf : w.flights[ticket]? = some f) : w.party = .work f.work := by
  obtain ⟨outer, hd⟩ := List.head?_eq_some_iff.mp ht
  rw [party_eq, hd]
  simp only [partyAt, hf]

/-- The innermost work is that of the flight driven last, or else that of the running task. -/
lemma Steady.party_cases (h : w.Steady) (hp : w.party = .work k) :
    (∃ ticket f, w.ticket? = some ticket ∧ w.flights[ticket]? = some f ∧ k = f.work) ∨
      w.driving = [] ∧ w.ticket? = none ∧ ∃ t task, w.running = some t ∧ w.tasks[t]? = some task ∧
        task.job = .work k := by
  cases hd : w.driving with
  | nil =>
    rw [party_eq, hd] at hp
    have hj : w.job = .work k := Job.eq_of_party_work hp
    obtain ⟨t, task, hr, ht, -, heq⟩ := running_of_job h (by rw [hj]; rintro ⟨⟩)
    exact .inr ⟨rfl, by rw [ticket?, hd]; rfl, t, task, hr, ht, heq.trans hj⟩
  | cons ticket outer =>
    have ht : w.ticket? = some ticket := by
      rw [ticket?, hd]
      rfl
    obtain ⟨f, hf, -⟩ := h.driven ticket (by rw [hd]; exact List.mem_cons_self)
    have hp' := party_of_ticket ht hf
    rw [hp] at hp'
    cases hp'
    exact .inl ⟨ticket, f, ht, hf, rfl⟩

lemma target_takenOff (host host' : String) (s s' : Slot) (ticket : Nat) (l : List Event) :
    Journal.target host s (.takenOff host' s' ticket :: l) = Journal.target host s l := rfl

/-- A work that is about to begin has what is registered now. -/
lemma Founded.starts (h : w.Founded) (hs : w.Sane) (hp : w.party = .work k)
    (hst : k.stage = .fresh) :
    Starts k.host k.slot w.ticket? w.journal ∧
      Journal.target k.host k.slot w.journal = k.target := by
  rcases hs.poised.steady.party_cases hp with ⟨ticket, f, ht, hfl, rfl⟩ | ⟨hd, ht, t, task, hr, hm, hj⟩
  · obtain ⟨⟨past, hj⟩, -⟩ := hs.freshDepart ticket f hfl (by rw [hst]; rfl)
    have hj' : w.journal = [] ++ .takenOff f.work.host f.work.slot ticket :: past := hj
    obtain ⟨f', hdep, -, -⟩ := hs.departed hj'
    have heq := hdep.flight
    rw [hfl] at heq
    cases heq
    refine ⟨fun ticket' ht' => ?_, ?_⟩
    · rw [ht] at ht'
      cases ht'
      exact ⟨past, hj⟩
    · rw [hj, target_takenOff]
      exact hdep.target.symm
  · rcases h.tasks t task k hm hj with hc | ⟨hn, -⟩
    · refine ⟨fun ticket' ht' => ?_, hc.target⟩
      rw [ht] at ht'
      cases ht'
    · exact absurd hst hn

/-- A work that waits was begun. -/
lemma Founded.begun (h : w.Founded) (hs : w.Sane) (hp : w.party = .work k)
    (hst : k.stage ≠ .fresh ∧ k.stage ≠ .away) {r : Recipe} (hf : k.Follows r) :
    k.Begun w.ticket? w.journal := by
  rcases hs.poised.steady.party_cases hp with ⟨ticket, f, ht, hfl, rfl⟩ | ⟨hd, ht, t, task, hr, hm, hj⟩
  · rw [ht]
    exact (h.flights ticket f hfl).resolve_left fun hr => hr.elim hst.1 hst.2
  · rw [ht]
    rcases h.tasks t task k hm hj with hc | ⟨-, ⟨f, herror⟩ | hb⟩
    · exact absurd hc.stage hst.1
    · obtain ⟨n, schema, htarget, -⟩ := hf
      rw [herror] at htarget
      cases htarget
    · exact hb

lemma setWork_same (w : World) (k : Work) : (w.setWork k).journal = w.journal ∧
    (w.setWork k).driving = w.driving := by
  obtain ⟨tasks, flights, heq⟩ := w.setWork_frame k
  rw [heq]
  exact ⟨rfl, rfl⟩

/-- Whoever goes on after it has waited does so with what it was begun for. -/
lemma making_setWork (h : w.Steady) (hp : w.party = .work k)
    (hw : w'.party = (w.setWork { k with stage := .away }).party) (hd : w'.driving = w.driving)
    (he : k.Earns w.ticket? w'.journal w'.focus) : w'.Making := by
  intro k' hp'
  rw [hw, (steady_setWork h hp .away True.intro fun own ho => by cases ho).2.1] at hp'
  cases hp'
  rw [ticket?, hd]
  cases hf : w'.focus <;> rw [hf] at he <;> exact he

lemma ResumesWork.making (hr : w.ResumesWork w') (h : w.Founded) (hs : w.Sane) : w'.Making := by
  have hsteady := hs.poised.steady
  have hsits : w.party.Sits w.flights := hsteady.sits
  cases hr with
  | @begins k n schema hp hst ht =>
    obtain ⟨hj, hd⟩ := w.setWork_same { k with stage := .away }
    obtain ⟨hstarts, htarget⟩ := h.starts hs hp hst
    exact making_setWork hsteady hp rfl hd ⟨[], w.journal, congrArg _ hj, hstarts, htarget⟩
  | @misses k f hp hst ht =>
    obtain ⟨hj, hd⟩ := w.setWork_same { k with stage := .away }
    obtain ⟨hstarts, htarget⟩ := h.starts hs hp hst
    have hjust := Journal.justifies_of_error hstarts (htarget.trans ht)
    rw [← hj] at hjust
    exact making_setWork hsteady hp rfl hd hjust
  | @opened k valve rest v o hp hst =>
    obtain ⟨hj, hd⟩ := w.setWork_same { k with stage := .away }
    rw [hp] at hsits
    have hfollows : k.Follows (rest none) := by
      have hall := hsits.1
      unfold Work.Sound at hall
      rw [hst] at hall
      exact hall none
    have hb := h.begun hs hp (by rw [hst]; exact ⟨by rintro ⟨⟩, by rintro ⟨⟩⟩) hfollows
    rw [← hj] at hb
    exact making_setWork hsteady hp rfl hd hb
  | waits | polls | stalls => exact making_of_isMaking rfl

lemma MakesRecipe.making {r : Recipe} (hm : w.MakesRecipe r w') (h : w.Founded) (hs : w.Sane)
    (hf : w.focus = .make r) : w'.Making := by
  have haim := hs.poised.aimed
  rw [hf] at haim
  obtain ⟨-, k, hp, hfollows⟩ := haim
  have hbegun := h.making k hp
  rw [hf] at hbegun
  have hstays : ∀ v : World, v.party = w.party → v.driving = w.driving →
      k.Earns w.ticket? v.journal v.focus → v.Making := fun v hv hd he k' hp' => by
    rw [hv, hp] at hp'
    cases hp'
    rw [ticket?, hd]
    exact he
  cases hm with
  | finishes hp' hc =>
    cases hp.symm.trans hp'
    exact hstays _ rfl rfl (hbegun.justifies hfollows hc)
  | peeks | finds => exact hstays _ rfl rfl hbegun
  | announces =>
    exact hstays _ rfl rfl (hbegun.mono (List.suffix_cons _ _) rfl rfl rfl)
  | misfits | crashes | holds | asks | stalls => exact making_of_isMaking rfl

lemma HandsAnswer.making {r : Result} (ha : w.HandsAnswer r w') (h : w.Founded) (hs : w.Sane) :
    w'.Making := by
  have hsteady := hs.poised.steady
  have hsits : w.party.Sits w.flights := hsteady.sits
  cases ha with
  | @resumes k own rest hp hst =>
    obtain ⟨hj, hd⟩ := w.setWork_same { k with stage := .away }
    rw [hp] at hsits
    have hfollows : k.Follows (rest r.content) := by
      have hall := hsits.1
      unfold Work.Sound at hall
      rw [hst] at hall
      exact hall r.content
    have hb := h.begun hs hp (by rw [hst]; exact ⟨by rintro ⟨⟩, by rintro ⟨⟩⟩) hfollows
    rw [← hj] at hb
    exact making_setWork hsteady hp rfl hd hb
  | readies | ends | stalls => exact making_of_isMaking rfl

lemma Founded.making_step (h : w.Founded) (hs : w.Sane) : w.step.Making := by
  have hsteady := hs.poised.steady
  have hno : ∀ w' : World, w'.focus.isYielding = false → w'.Making := fun w' hf =>
    making_of_isMaking (isMaking_of_isYielding hf)
  unfold World.step
  cases hf : w.focus with
  | idle => exact hno w (by rw [hf]; rfl)
  | resume => exact making_of_isMaking w.resumesTask.isMaking
  | work => exact w.resumesWork.making h hs
  | make r => exact (w.makesRecipe r).making h hs hf
  | made c => exact making_of_isMaking (w.finishesWork c).isMaking
  | poll own => exact hno _ (w.pollsFlight own).isYielding
  | answer r => exact (w.handsAnswer r).making h hs
  | stall => exact hno _ w.stalls.isYielding
  | emission => exact hno _ (w.goesOn.isYielding hsteady hf)
  | next finished => exact hno _ (w.turnsToNext finished).isYielding
  | finish how => exact hno _ (w.endsTask how).isYielding
  | panic text => exact hno _ ((w.unwinds text).isYielding hf)

lemma Founded.flights_advances (h : w.Founded) (ha : Advances w w') {ticket : Nat}
    {f' : Flight} (hf' : w'.flights[ticket]? = some f') :
    (f'.work.stage = .fresh ∨ f'.work.stage = .away) ∨
      f'.work.Begun (some ticket) w'.journal := by
  cases hf : w.flights[ticket]? with
  | none => exact .inl (ha.young ticket f' hf' hf).stage
  | some f =>
    obtain ⟨g, hg, hc⟩ := ha.flights ticket f hf
    rw [hf'] at hg
    cases hg
    have hmono : f.work.Begun (some ticket) w.journal → f'.work.Begun (some ticket) w'.journal :=
      fun hb => hb.mono ha.journal hc.host hc.slot hc.target
    rcases hc.stage with hst | ⟨ht, r, hmake, -⟩
    · rcases h.flights ticket f hf with hrest | hb
      · exact .inl (hst.rested hrest)
      · exact .inr (hmono hb)
    · have hb := h.making f.work (party_of_ticket ht hf)
      rw [hmake, ht] at hb
      exact .inr (hmono hb)

/-- A work of a task that does not begin just now goes on as it was. -/
lemma Proceeds.continues {t : Nat} {k' : Work} (h : w.Proceeds t k) (hn : ¬w.Commences t k)
    (hc : k.Continues k') (hj : w.journal <:+ w'.journal) : w'.Proceeds t k' := by
  rcases h with hcom | ⟨hst, herror | hb⟩
  · exact absurd hcom hn
  · refine .inr ⟨fun hf => hst (hc.fresh hf), .inl ?_⟩
    rw [hc.target]
    exact herror
  · exact .inr ⟨fun hf => hst (hc.fresh hf), .inr (hb.continues hc hj)⟩

lemma Founded.tasks_uneventful (h : w.Founded) (hn : ∀ t k, ¬w.Commences t k) (ht : Uneventful w w')
    {t : Nat} {task' : Task} {k' : Work} (hm : w'.tasks[t]? = some task')
    (hj : task'.job = .work k') : w'.Proceeds t k' := by
  obtain ⟨task, k, hm, hj, hc⟩ := ht.works t task' k' hm hj
  exact Proceeds.continues (h.tasks t task k hm hj) (hn t k) hc ht.suffix

lemma setWork_of_driving (hd : w.driving = []) (k : Work) :
    w.setWork k = w.setJob (.work k) := by
  rcases setWork_cases w k with ⟨ticket, outer, f, hd', -⟩ | ⟨ticket, outer, hd', -⟩ | ⟨-, heq⟩
  · cases hd.symm.trans hd'
  · cases hd.symm.trans hd'
  · exact heq

/-- The work of the running task begins. -/
lemma ResumesWork.proceeds (hw : w.ResumesWork w') (h : w.Founded) (hs : w.Sane)
    (hd : w.driving = []) (hp : w.party = .work k) (hst : k.stage = .fresh) {t : Nat}
    {task' : Task} {k' : Work} (hm : w'.tasks[t]? = some task') (hj : task'.job = .work k') :
    w'.Proceeds t k' := by
  rcases hs.poised.steady.party_cases hp with ⟨ticket, f, ht, -⟩ | ⟨-, hnone, t₀, task₀, hr, hm₀, -⟩
  · rw [ticket?, hd] at ht
    cases ht
  obtain ⟨hstarts, htarget⟩ := h.starts hs hp hst
  have hset : w.setWork { k with stage := .away } = { w with
      tasks := w.tasks.set t₀ { task₀ with job := .work { k with stage := .away } } } := by
    rw [setWork_of_driving hd]
    exact setJob_of_running hr hm₀ _
  have hfacts : w'.tasks = w.tasks.set t₀ { task₀ with job := .work { k with stage := .away } } ∧
      w.journal <:+ w'.journal ∧
      ((∃ f, k.target = .error f) ∨ k.Begun none w'.journal) := by
    cases hw with
    | @begins _ n schema hp' _ ht =>
      cases hp.symm.trans hp'
      rw [hset, hnone]
      rw [hnone] at hstarts
      exact ⟨rfl, List.suffix_cons _ _, .inr ⟨[], w.journal, rfl, hstarts, htarget⟩⟩
    | @misses _ f hp' _ ht =>
      cases hp.symm.trans hp'
      rw [hset]
      exact ⟨rfl, List.suffix_refl _, .inl ⟨f, ht⟩⟩
    | opened hp' hst' | waits hp' hst' | polls hp' hst' =>
      cases hp.symm.trans hp'
      cases hst.symm.trans hst'
    | stalls hn => exact absurd hst (hn k hp)
  obtain ⟨htasks, hsuffix, hbegun⟩ := hfacts
  rw [htasks] at hm
  rcases getElem?_set_cases hm with ⟨rfl, rfl⟩ | ⟨hne, hm⟩
  · cases hj
    exact .inr ⟨by rintro ⟨⟩, hbegun⟩
  · refine Proceeds.continues (h.tasks t task' k' hm hj) (fun hc => hne ?_) (.refl k') hsuffix
    exact Option.some.inj (hr.symm.trans hc.running)

/-- A task that is there to compute on its own takes up its work. -/
lemma Founded.tasks_compute (h : w.Founded) (hs : w.Sane) (hf : w.focus = .resume)
    (hd : w.driving = []) {host : String} {slot : Slot} (hj : w.job = .compute host slot)
    {t : Nat} {task' : Task} {k' : Work} (hm : w.resumeTask.tasks[t]? = some task')
    (hj' : task'.job = .work k') : w.resumeTask.Proceeds t k' := by
  obtain ⟨t₀, task₀, hr, hm₀, -, -⟩ := running_of_job hs.poised.steady (by rw [hj]; rintro ⟨⟩)
  have hstep : w.resumeTask = World.aim { w with
      tasks := w.tasks.set t₀ { task₀ with
        job := .work { host, slot, target := (w.engine host).target slot } } } .work := by
    rw [resumeTask_compute hj]
    exact congrArg (World.aim · .work) (setJob_of_running hr hm₀ _)
  rw [hstep] at hm ⊢
  rcases getElem?_set_cases hm with ⟨rfl, rfl⟩ | ⟨-, hm⟩
  · cases hj'
    exact .inl ⟨rfl, hd, hr, rfl, (hs.sound.mirrors.target host slot).symm⟩
  · refine Proceeds.continues (h.tasks t task' k' hm hj') (fun hc => ?_) (.refl k')
      (List.suffix_refl _)
    have hfocus := hc.focus
    rw [hf] at hfocus
    cases hfocus

lemma Stride.works (h : Stride w w') (hn : w.focus ≠ .resume ∨ ∀ host slot, w.job ≠ .compute host slot)
    {t : Nat} {task' : Task} {k' : Work} (hm : w'.tasks[t]? = some task')
    (hj : task'.job = .work k') :
    ∃ task k, w.tasks[t]? = some task ∧ task.job = .work k ∧ k.Continues k' := by
  have hthrough : ∀ (v : World) (e : Event), Uneventful w v → Uneventful (v.log e) w' →
      ∃ task k, w.tasks[t]? = some task ∧ task.job = .work k ∧ k.Continues k' := by
    intro v e hv ht
    obtain ⟨task, k, hm, hj, hc⟩ := ht.works t task' k' hm hj
    obtain ⟨task₀, k₀, hm₀, hj₀, hc₀⟩ := hv.works t task k hm hj
    exact ⟨task₀, k₀, hm₀, hj₀, hc₀.trans hc⟩
  cases h with
  | uneventful ht => exact ht.works t task' k' hm hj
  | marks hv _ ht => exact hthrough _ _ hv ht
  | takesOff hv ht _ => exact hthrough _ _ hv ht
  | @computes host slot hf _ hjob =>
    rcases hn with hn | hn
    · exact absurd hf hn
    · exact absurd hjob (hn host slot)

lemma Founded.tasks_step (h : w.Founded) (hs : w.Sane) (hst : Stride w w.step)
    (hg : w.journal <:+ w.step.journal) {t : Nat} {task' : Task} {k' : Work}
    (hm : w.step.tasks[t]? = some task') (hj : task'.job = .work k') : w.step.Proceeds t k' := by
  by_cases hc : w.focus = .resume ∧ ∃ host slot, w.job = .compute host slot
  · obtain ⟨hf, host, slot, hjob⟩ := hc
    have haim := hs.poised.aimed
    rw [hf] at haim
    simp only [World.step, hf] at hm ⊢
    exact h.tasks_compute hs hf haim.2 hjob hm hj
  by_cases hb : ∃ (t : Nat) (task : Task) (k : Work),
      w.tasks[t]? = some task ∧ task.job = .work k ∧ w.Commences t k
  · obtain ⟨t₀, task₀, k₀, hm₀, hj₀, hcom⟩ := hb
    have hp : w.party = .work k₀ := by
      rw [party_eq, hcom.driving, job_of_running hcom.running hm₀, hj₀]
      rfl
    have hf := hcom.focus
    simp only [World.step, hf] at hm ⊢
    exact w.resumesWork.proceeds h hs hcom.driving hp hcom.stage hm hj
  · have hn : w.focus ≠ .resume ∨ ∀ host slot, w.job ≠ .compute host slot := by
      by_cases hf : w.focus = .resume
      · exact .inr fun host slot hjob => hc ⟨hf, host, slot, hjob⟩
      · exact .inl hf
    obtain ⟨task, k, hm, hj, hcont⟩ := hst.works hn hm hj
    exact Proceeds.continues (h.tasks t task k hm hj) (fun hcom => hb ⟨t, task, k, hm, hj, hcom⟩) hcont hg

lemma ResumesTask.finishing (hr : w.ResumesTask w') : w'.Finishing := by
  have hno : ∀ v : World, v.focus.isYielding = false → v.Finishing := fun v hf =>
    finishing_of_isResult (isResult_of_isYielding hf)
  cases hr with
  | finds hj =>
    rintro r host' s' - hp
    have hp' : w.job.purpose = some (.computation host' s') := hp
    rw [hj] at hp'
    cases hp'
  | invalidates _ hi => exact hno _ hi.isYielding
  | turns _ hf => exact hno _ hf.isYielding
  | follows _ _ hp => exact hno _ hp.isYielding
  | ends | nothing => exact finishing_of_isResult rfl
  | joins | polls | computes | works | emits | panics => exact hno _ rfl

lemma FinishesWork.finishing {c : Content} (hw : w.FinishesWork c w') (h : w.Founded) (hs : w.Sane)
    (hf : w.focus = .made c) : w'.Finishing := by
  have haim := hs.poised.aimed
  rw [hf] at haim
  obtain ⟨-, k, hp, -⟩ := haim
  have hmade := h.making k hp
  rw [hf] at hmade
  cases hw with
  | ends hd =>
    have ht : w.ticket? = none := by
      rw [ticket?, hd]
      rfl
    rw [party_eq, hd] at hp
    have hj : w.job = .work k := Job.eq_of_party_work hp
    rintro r host s ⟨⟩ hpurpose
    have hpurpose' : w.job.purpose = some (.computation host s) := hpurpose
    rw [hj] at hpurpose'
    cases hpurpose'
    rw [ht] at hmade
    exact ⟨⟨k, hj⟩, hmade⟩
  | misses | lands => exact finishing_of_isResult rfl

lemma HandsAnswer.finishing {r : Result} (ha : w.HandsAnswer r w') : w'.Finishing := by
  cases ha with
  | ends hp =>
    rintro r' host' s' - hpurpose
    have hpurpose' : w.job.purpose = some (.computation host' s') := hpurpose
    rw [job_of_party_output hp] at hpurpose'
    cases hpurpose'
  | resumes | readies | stalls => exact finishing_of_isResult rfl

lemma Founded.finishing_step (h : w.Founded) (hs : w.Sane) : w.step.Finishing := by
  have hsteady := hs.poised.steady
  have hno : ∀ w' : World, w'.focus.isYielding = false → w'.Finishing := fun w' hf =>
    finishing_of_isResult (isResult_of_isYielding hf)
  unfold World.step
  cases hf : w.focus with
  | idle => exact hno w (by rw [hf]; rfl)
  | resume => exact w.resumesTask.finishing
  | work => exact finishing_of_isResult (isResult_of_isFinish w.resumesWork.isFinish)
  | make r => exact finishing_of_isResult (isResult_of_isFinish (w.makesRecipe r).isFinish)
  | made c => exact (w.finishesWork c).finishing h hs hf
  | poll own => exact hno _ (w.pollsFlight own).isYielding
  | answer r => exact (w.handsAnswer r).finishing
  | stall => exact hno _ w.stalls.isYielding
  | emission => exact hno _ (w.goesOn.isYielding hsteady hf)
  | next finished => exact hno _ (w.turnsToNext finished).isYielding
  | finish how => exact hno _ (w.endsTask how).isYielding
  | panic text => exact hno _ ((w.unwinds text).isYielding hf)

/-- A task that was started to compute on its own has come to the work that it ends with. -/
lemma Founded.founded_ended (h : w.Founded) {sc : Scene} (hr : Reachable sc.opening w)
    {t : Nat} {task : Task} {how : End} (hf : w.focus = .finish how) (hrun : w.running = some t)
    (ht : w.tasks[t]? = some task) {l : List Event} (hl : l <:+ w.step.journal)
    (hwl : w.journal <:+ l) (hj : ∀ k, w.job = .work k → l = w.journal) :
    (Event.ended t task.name how).Founded l := by
  cases how with
  | result r =>
    intro task₁ host s hstarted hjob
    obtain ⟨p, hp, -⟩ := Scene.due_of_reachable hr _ hf r rfl
    rw [job_of_running hrun ht] at hp
    obtain ⟨task₀, hemp, hbecomes⟩ := (Scene.grows_of_reachable hr).tasks t task ht
    have hstarted₀ : .started t task₀ ∈ w.journal := hemp.resolve_left (by rintro ⟨⟩)
    have hlaw : Lawful w.step.policy w.step.journal :=
      (Scene.sane_of_reachable hr.step).sound.lawful
    have heq := hlaw.started_once (hl.subset hstarted) (hl.subset (hwl.subset hstarted₀))
    subst heq
    have hpurpose : task.job.purpose = some (.computation host s) := by
      rcases hbecomes with hnone | hsame
      · rw [hnone] at hp
        cases hp
      · rw [hsame, hjob]
        rfl
    rw [← job_of_running hrun ht] at hpurpose
    obtain ⟨⟨k, hk⟩, hjust⟩ := h.finishing r host s hf hpurpose
    rw [hj k hk]
    exact hjust
  | _ => exact True.intro

lemma Founded.journal_step (h : w.Founded) {sc : Scene} (hr : Reachable sc.opening w) :
    Throughout Event.Founded w.step.journal := by
  have hs := Scene.sane_of_reachable hr
  refine (Scene.stride_of_reachable hr).throughout (fun past e => e.founded_of_isMilestone past)
    (fun _ _ _ _ => True.intro) (fun v e hv hm hsuffix => ?_) h.journal
  cases hm with
  | @begun k n schema hf hp hst ht hgoing =>
    rw [hgoing, (w.setWork_same _).1]
    obtain ⟨hstarts, htarget⟩ := h.starts hs hp hst
    exact ⟨hstarts, n, schema, htarget.trans ht⟩
  | @landed c ticket f kept hf ht hfl hj =>
    have hmade := h.making f.work (party_of_ticket ht hfl)
    rw [hf, ht] at hmade
    rw [hj]
    exact hmade
  | left => exact True.intro
  | ended hf hrun ht hj => exact h.founded_ended hr hf hrun ht hsuffix hv.suffix hj

/-! ## Runs -/

lemma Founded.step (h : w.Founded) {sc : Scene} (hr : Reachable sc.opening w) :
    w.step.Founded := by
  have hs := Scene.sane_of_reachable hr
  have ha := advances_step hs.poised (Scene.due_of_reachable hr)
  exact {
    journal := h.journal_step hr
    flights := fun ticket f' hf' => h.flights_advances ha hf'
    tasks := fun t task' k' hm hj =>
      h.tasks_step hs (Scene.stride_of_reachable hr) ha.journal hm hj
    making := h.making_step hs
    finishing := h.finishing_step hs }

lemma Founded.opens (h : w.Founded) (hf : w.focus = .idle) (hr : KeepsDriving w w')
    (ht : RoutineChange w w')
    (hf' : w'.focus.isOpening = true) : w'.Founded where
  journal := ht.toUneventful.throughout (fun past e => e.founded_of_isMilestone past) h.journal
  flights := fun ticket f' hfl => h.flights_advances hr.toNoFurther.advances hfl
  tasks := fun t task' k' hm hj => by
    refine h.tasks_uneventful (fun t k hc => ?_) ht.toUneventful hm hj
    have hfocus := hc.focus
    rw [hf] at hfocus
    cases hfocus
  making := making_of_isMaking (isMaking_of_isOpening hf')
  finishing := by
    refine finishing_of_isResult ?_
    cases hfocus : w'.focus with
    | finish how =>
      rw [hfocus] at hf'
      cases how with
      | cancelled => rfl
      | _ => cases hf'
    | _ => rfl

end World

namespace Scene

theorem founded_of_reachable {s : Scene} {w : World} (h : World.Reachable s.opening w) :
    w.Founded := by
  refine keeps (P := World.Founded) h ?_ (fun w w' _ hw hf hr ht hf' => hw.opens hf hr ht hf')
    fun w hr hw => hw.step hr
  exact {
    journal := True.intro
    flights := by rintro _ _ ⟨⟩
    tasks := by rintro _ _ _ ⟨⟩
    making := World.making_of_isMaking rfl
    finishing := World.finishing_of_isResult rfl }

end Scene

namespace World

variable {w : World} {host : String} {s : Slot} {r : Result}

/-- A task that was there to compute the slot on its own has ended with the result. -/
def Computes (w : World) (host : String) (s : Slot) (r : Result) : Prop :=
  ∃ t task name, .started t task ∈ w.journal ∧ task.job = .compute host s ∧
    .ended t name (.result r) ∈ w.journal

lemma Founded.of_landed (h : w.Founded) (hl : Journal.Landed host s r w.journal) :
    Journal.Justified host s r w.journal := by
  obtain ⟨ticket, kept, hm⟩ := hl
  obtain ⟨later, earlier, hj⟩ := List.append_of_mem hm
  have hall := h.journal
  rw [hj] at hall
  exact .shared hj hall.fits

lemma Founded.of_computes (h : w.Founded) (hs : w.Sane) (hc : w.Computes host s r) :
    Journal.Justified host s r w.journal := by
  obtain ⟨t, task, name, hm, hjob, he⟩ := hc
  have hlaw : Lawful w.policy w.journal := hs.sound.lawful
  obtain ⟨later, earlier, hj⟩ := List.append_of_mem he
  have hall := h.journal
  have hsplit := hlaw
  rw [hj] at hall hsplit
  obtain ⟨-, -, ⟨task', hm', -⟩, -⟩ := hsplit.fits
  have hmem : .started t task' ∈ w.journal := by
    rw [hj]
    exact List.mem_append_right _ (List.mem_cons_of_mem _ hm')
  have heq := hlaw.started_once hm hmem
  subst heq
  exact .alone hj hm' hjob (hall.fits task host s hm' hjob)

/-- Every result that is given out goes back to one computation, and is what the node that was registered
then made of the slot. -/
theorem results_justified {sc : Scene} {w : World} (h : Reachable sc.opening w) :
    (∀ host s r, w.Gives host s r ∨ w.Computes host s r →
      Journal.Justified host s r w.journal ∧ ∀ f, r.content = .error f → f.node = s.node) ∧
    ∀ later earlier host s ticket?, w.journal = later ++ .begun host s ticket? :: earlier →
      ∃ n schema, Journal.node host s.node earlier = some n ∧
        n.outputs.get? s.output = some schema := by
  have hs := Scene.sane_of_reachable h
  have ha := Scene.founded_of_reachable h
  have hjust : ∀ host s r, w.Gives host s r ∨ w.Computes host s r →
      Journal.Justified host s r w.journal := by
    rintro host s r (hg | hc)
    · exact ha.of_landed (landed_of_gives h hg)
    · exact ha.of_computes hs hc
  refine ⟨?_, ?_⟩
  · intro host s r hg
    have hj := hjust host s r hg
    exact ⟨hj, fun f hf => hj.node hf⟩
  · intro later earlier host s ticket? hj
    have hall := ha.journal
    rw [hj] at hall
    obtain ⟨-, n, schema, ht⟩ := hall.fits
    exact ⟨n, schema, Journal.target_eq_ok.mp ht⟩

/-- One output is produced, and another one is asked for that nobody declares. -/
def partlyMissing : List (Action × Nat) := [
  (.register "p" (heldNode "n" ["o"]) "n", 0),
  (.output "p" "found" ⟨"n", "o"⟩, 30),
  (.resolve .first (some (.value (.text "a"))), 30),
  (.output "p" "missing" ⟨"n", "other"⟩, 30)]

theorem results_justified_missing : ∃ w r r' f, Reachable ({} : Scene).opening w ∧
    r.isOk = true ∧ w.Gives "p" ⟨"n", "o"⟩ r ∧ Journal.Justified "p" ⟨"n", "o"⟩ r w.journal ∧
    r'.content = .error f ∧ w.Gives "p" ⟨"n", "other"⟩ r' ∧ f.node = "n" ∧
    ∃ later earlier ticket? n schema,
      w.journal = later ++ .begun "p" ⟨"n", "o"⟩ ticket? :: earlier ∧
      Journal.node "p" "n" earlier = some n ∧ n.outputs.get? "o" = some schema := by
  have hfacts : (({} : Scene).opening.rehearse partlyMissing).any (fun w =>
      ((w.engine "p").cached ⟨"n", "o"⟩).any Result.isOk &&
        ((w.engine "p").cached ⟨"n", "other"⟩).any (fun r => !r.isOk) &&
          w.journal.any (Event.isBeginning "p" ⟨"n", "o"⟩)) = true := by decide +kernel
  obtain ⟨w, hw, hall⟩ := (Option.any_eq_true _ _).mp hfacts
  rw [Bool.and_eq_true, Bool.and_eq_true] at hall
  obtain ⟨⟨hok, herror⟩, hbegun⟩ := hall
  obtain ⟨r, hr, hok⟩ := (Option.any_eq_true _ _).mp hok
  obtain ⟨r', hr', herror⟩ := (Option.any_eq_true _ _).mp herror
  obtain ⟨e, hm, he⟩ := List.any_eq_true.mp hbegun
  obtain ⟨ticket, rfl⟩ := Event.isBeginning_iff.mp he
  obtain ⟨later, earlier, hj⟩ := List.append_of_mem hm
  obtain ⟨f, hf⟩ : ∃ f, r'.content = .error f := by
    unfold Result.isOk at herror
    cases hc : r'.content with
    | ok p =>
      rw [hc] at herror
      cases herror
    | error f => exact ⟨f, rfl⟩
  have hreach := reachable_rehearse .refl hw
  obtain ⟨hgives, hasked⟩ := results_justified hreach
  obtain ⟨n, schema, hn, ho⟩ := hasked later earlier "p" ⟨"n", "o"⟩ (some ticket) hj
  exact ⟨w, r, r', f, hreach, hok, .cached hr, (hgives _ _ r (.inl (.cached hr))).1, hf, .cached hr',
    (hgives _ _ r' (.inl (.cached hr'))).2 f hf, later, earlier, some ticket, n, schema, hj, hn, ho⟩

end World

end Dataflow
