import Dataflow.Proofs.TaskSteps

/-!
# How tasks end

A task that ends gives up what it holds. A panic first breaks the flights that are being driven, the
innermost first, and then ends the task.
-/

namespace Dataflow

/-- What is reported of an emission that does not come to its end. -/
def Emission.farewell (e : Emission) : List Event :=
  match e.progress.pass? with
  | some pass => [.abandoned e.host e.slot pass]
  | none => []

lemma Emission.pass?_errand (e : Emission) : e.errand.phase.pass? = e.progress.pass? := by
  unfold errand
  cases e.progress <;> rfl

namespace World

open Ledger (Move Moves Quiet)

variable {w w' : World}

lemma keeps_abandonGate (h : w.Steady) (e : Emission) (pass : Pass) :
    Keeps w (w.abandonGate e pass) ∧
    ∃ engine, (∀ host, (w.engine host).Regated (engine host)) ∧ (w.abandonGate e pass).ledger =
      { w.ledger with engine, journal := .abandoned e.host e.slot pass :: w.journal } := by
  have hc := carries_makeWay h e pass
  have hl := ledger_makeWay w e pass
  have hengine : (w.makeWay e pass).engine e.host = (w.engine e.host).stepOut e.slot pass := by
    show (w.makeWay e pass).ledger.engine e.host = _
    rw [hl]
    exact if_pos rfl
  have hreg : ((w.makeWay e pass).engine e.host).Regated
      (((w.makeWay e pass).engine e.host).abandon e.slot pass) := Engine.regated_modifyGate _ _ _ _
  have hc₂ := hc.trans (carries_regate hc.steady hreg)
  refine ⟨hc₂.toKeeps.trans (keeps_log hc₂.steady _), fun host =>
    if e.host = host then ((w.engine e.host).stepOut e.slot pass).abandon e.slot pass
    else w.engine host, fun host => ?_, ?_⟩
  · show (w.engine host).Regated (if e.host = host then _ else _)
    by_cases hh : e.host = host
    · rw [if_pos hh, ← hh]
      exact (Engine.regated_modifyGate _ _ _ _).trans (Engine.regated_modifyGate _ _ _ _)
    · rw [if_neg hh]
      exact .refl _
  · unfold abandonGate
    rw [ledger_log, ledger_setEngine, hl, hengine, setEngine_setEngine]
    rfl

/-- Giving up an emission touches the gates and the journal. -/
lemma DropsEmission.keeps {e : Emission} (hdrop : w.DropsEmission e w') (h : w.Steady) :
    Keeps w w' ∧ ∃ engine, (∀ host, (w.engine host).Regated (engine host)) ∧
      w'.ledger = { w.ledger with engine, journal := e.farewell ++ w.journal } := by
  unfold Emission.farewell
  cases hdrop with
  | outside hp =>
    rw [hp]
    exact ⟨.refl h, w.engine, fun host => .refl _, rfl⟩
  | @waiting pass own hp =>
    have hk := fadingUnheld_release w [] own
    obtain ⟨hkeep, engine, hreg, hl⟩ := keeps_abandonGate (h.fades hk) e pass
    rw [hk.engine] at hreg
    rw [hk.journal, ledger_fades hk.toFading] at hl
    rw [hp]
    exact ⟨(keeps_fades h hk).trans hkeep, engine, hreg, hl⟩
  | @inside pass hp =>
    rw [hp]
    exact keeps_abandonGate h e pass

/-- What is left when a panic has taken from the innermost party what it held. -/
structure Forgets (w w' : World) : Prop where
  steady : w'.Steady
  silent : w'.Silent
  moves : Moves w.ledger w'.ledger
  driving : w'.driving = w.driving
  focus : w'.focus = w.focus
  panicked : Journal.Panicked w'.journal
  journal : w.driving ≠ [] → w'.journal = w.journal

/-- What is given up was that of no emission, and the ledger stays as it is. -/
lemma forgets_of_frame (h : w'.Steady) (hs : w'.Silent) (hl : w'.ledger = w.ledger)
    (hw : ∃ tasks flights, w' = { w with tasks, flights }) (hp : Journal.Panicked w.journal) :
    Forgets w w' := by
  obtain ⟨tasks, flights, rfl⟩ := hw
  exact ⟨h, hs, by rw [hl]; exact .refl _, rfl, rfl, hp, fun _ => rfl⟩

lemma forgets_work (h : w.Steady) (hs : w.Silent) (hj : Journal.Panicked w.journal) {k : Work}
    (hp : w.party = .work k) : Forgets w (w.setWork { k with stage := .away }) := by
  have hsucc : (Party.work { k with stage := .away }).Succeeds w.party := by
    rw [hp]
    exact ⟨rfl, rfl, rfl⟩
  obtain ⟨hsteady, -, hl⟩ := steady_setWork h hp .away True.intro fun own ho => by cases ho
  obtain ⟨-, -, -, tasks, flights, heq⟩ := setParty_frame h hsucc
  exact forgets_of_frame hsteady (silent_setWork h hs hp .away) hl ⟨tasks, flights, heq⟩ hj

lemma forgets_output (h : w.Steady) (hs : w.Silent) (hj : Journal.Panicked w.journal)
    {host : String} {s : Slot} {own : Option Handle} (hp : w.party = .output host s own) :
    Forgets w (w.setJob (.output host s none)) := by
  have hsucc : (Party.output host s none).Succeeds w.party := by
    rw [hp]
    exact ⟨rfl, rfl⟩
  obtain ⟨-, -, -, tasks, flights, heq⟩ := setParty_frame h hsucc
  exact forgets_of_frame (h.setParty hsucc fun own ho => by cases ho)
    (silent_setParty h hs.hushed hsucc (by rintro _ ⟨⟩)) (ledger_setParty h hsucc (by rintro _ ⟨⟩))
    ⟨tasks, flights, heq⟩ hj

/-- While somebody panics, the emission that is dropped may be one that calls subscribers. -/
lemma move_drop (h : w.Steady) (hh : w.Hushed) {source : PanicSource} {text : String}
    {past : List Event} (hj : w.journal = .panicked source text :: past) {e : Emission}
    (hp : w.party = .emission e) : ∃ t, w.Loses e t (w.setJob w.job.clear) ∧
      Move w.ledger
        { w.ledger.setErrand t w.job.cursor none with journal := e.farewell ++ w.journal } := by
  obtain ⟨t, hl⟩ := loses h hh hp
  have hsole : w.ledger.Sole t w.job.cursor := by
    intro t' i x hx ho
    rw [errand?_ledger, Option.map_eq_some_iff] at hx
    obtain ⟨e', he', rfl⟩ := hx
    obtain ⟨-, hr, hi⟩ := hh t' i e' he' ho
    exact ⟨Option.some.inj (hr.symm.trans hl.running), hi⟩
  have hdrop : w.ledger.drop t w.job.cursor e.errand =
      { w.ledger.setErrand t w.job.cursor none with journal := e.farewell ++ w.journal } := by
    unfold Ledger.drop Emission.farewell
    rw [Emission.pass?_errand]
    cases e.progress.pass? <;> rfl
  exact ⟨t, hl, hdrop ▸ Move.drop t w.job.cursor e.errand hl.errand ⟨source, text, past, hj⟩ hsole⟩

@[simp] lemma farewell_recalled (e : Emission) : e.recalled.farewell = e.farewell := by
  obtain ⟨host, slot, progress⟩ := e
  cases progress <;> rfl

lemma forgets_emission (h : w.Steady) (hh : w.Hushed) {source : PanicSource} {text : String}
    {past : List Event} (hj : w.journal = .panicked source text :: past) {e : Emission}
    (hp : w.party = .emission e) : Forgets w ((w.setJob w.job.clear).dropEmission e.recalled) := by
  obtain ⟨t, hl, hm⟩ := move_drop h hh hj hp
  obtain ⟨hk, engine, hreg, hlast⟩ := (dropsEmission _ e.recalled).keeps hl.steady
  obtain ⟨tasks, heq⟩ := hl.rest
  have hjournal : (w.setJob w.job.clear).journal = w.journal := by rw [heq]
  have hdrive : (w.setJob w.job.clear).driving = w.driving := by rw [heq]
  have hfocus : (w.setJob w.job.clear).focus = w.focus := by rw [heq]
  have hengine : (w.setJob w.job.clear).engine = w.engine := by rw [heq]; rfl
  rw [farewell_recalled, hjournal, hl.ledger] at hlast
  rw [hengine] at hreg
  have hq := Ledger.quiet_engine (b := { w.ledger.setErrand t w.job.cursor none with
    journal := e.farewell ++ w.journal }) engine hreg
  have hjournal' := congrArg Ledger.journal hlast
  refine ⟨hk.steady, hk.silent hl.silent, ?_, hk.driving.trans hdrive, hk.focus.trans hfocus, ?_,
    fun hd => absurd hl.driving hd⟩
  · rw [hlast]
    exact .head hm (.single (.quiet hq))
  · have hjl : (World.dropEmission _ _).journal = e.farewell ++ w.journal := hjournal'
    rw [hjl]
    exact ⟨source, text, List.mem_append_right _ (by rw [hj]; exact List.mem_cons_self)⟩

lemma ForgetsParty.forgets (hforget : w.ForgetsParty w') (h : w.Steady) {text : String}
    (ha : w.Aimed (.panic text)) : Forgets w w' := by
  obtain ⟨hh, source, text', past, hj⟩ := ha
  have hpanic : Journal.Panicked w.journal := ⟨source, text', by rw [hj]; exact List.mem_cons_self⟩
  have hs (hn : ∀ e, w.party ≠ .emission e) : w.Silent :=
    hh.silent fun e he => absurd he (hn e)
  cases hforget with
  | work hp => exact forgets_work h (hs (by simp [hp])) hpanic hp
  | emission hp => exact forgets_emission h hh hj hp
  | output hp => exact forgets_output h (hs (by simp [hp])) hpanic hp
  | nobody hp => exact ⟨h, hs (by simp [hp]), .refl _, rfl, rfl, hpanic, fun _ => rfl⟩

lemma Unwinds.goes {text : String} (hu : w.Unwinds text w') (h : w.Steady)
    (hf : w.focus = .panic text) (ha : w.Aimed (.panic text)) : Goes w w' := by
  have hg := w.forgetsParty.forgets h ha
  cases hu with
  | ends hd =>
    have hend : w.forget.MayEnd (.panicked text) :=
      ⟨by rintro ⟨⟩, fun _ _ => hg.panicked, by rintro ⟨⟩, by rintro ⟨⟩⟩
    exact ⟨hg.steady.poised (f := .finish _) ⟨hg.silent, hd, hend⟩, hg.moves⟩
  | @misses ticket outer hd hfl =>
    obtain ⟨g, hg', -⟩ := hg.steady.driven ticket (by simp [hd])
    cases hfl.symm.trans hg'
  | @breaks ticket outer f hd hfl =>
    obtain ⟨g, hg', hst⟩ := hg.steady.driven ticket (by simp [hd])
    cases hfl.symm.trans hg'
    have htidy := hg.steady.flights ticket f hfl
    have hn := hg.steady.nodup
    have hl := hg.steady.linked
    rw [hd] at hl
    rw [hd, List.nodup_cons] at hn
    have hbroken : { w.forget.setFlight ticket { f with status := .broken } with
        driving := outer }.Steady := by
      refine hg.steady.setFlight _ hfl rfl rfl
        ⟨fun _ => hg.panicked, htidy.sound, by rintro _ ⟨⟩⟩ ?_ hn.2
        (linked_set (fun hm => hn.1 (List.mem_of_mem_tail hm)) hl.2) (by rintro ⟨⟩) ?_
      · intro i hi
        refine .inr ⟨?_, by rw [hd]; exact List.mem_cons_of_mem _ hi⟩
        rintro rfl
        exact hn.1 hi
      · intro own ho
        exact hg.steady.safe _ (.inr (.inr ⟨f, List.mem_of_getElem? hfl, own, ho, rfl⟩))
    refine ⟨⟨hbroken, ?_⟩, ?_⟩
    · have hfocus : (w.forget.setFlight ticket { f with status := .broken }).focus = .panic text :=
        hg.focus.trans hf
      show World.Aimed _ (w.forget.setFlight ticket { f with status := .broken }).focus
      rw [hfocus]
      obtain ⟨-, source, text', past, hj⟩ := ha
      have hsilent : World.Silent { w.forget.setFlight ticket { f with status := .broken } with
        driving := outer } := hg.silent
      refine ⟨hsilent.hushed, source, text', past, ?_⟩
      exact (hg.journal (by rw [← hg.driving, hd]; rintro ⟨⟩)).trans hj
    · have hlf : (w.forget.setFlight ticket { f with status := .broken }).ledger =
          w.forget.ledger := by
        refine ledger_setFlight hfl ?_
        unfold Flight.departure
        rw [hst]
        rfl
      show Moves w.ledger (w.forget.setFlight ticket { f with status := .broken }).ledger
      rw [hlf]
      exact hg.moves

/-- The running task gives up some of what it holds. -/
structure Drops (w : World) (t : Nat) (d : Duty) (w' : World) : Prop where
  steady : w'.Steady
  silent : w'.Silent
  running : w'.running = some t
  driving : w'.driving = []
  ledger : ∃ engine extra errands follows, (∀ host, (w.engine host).Regated (engine host)) ∧
    (∀ e ∈ extra, ∃ host s pass, e = Event.abandoned host s pass) ∧
      w'.ledger = { w.ledger with
        engine
        duties := w.ledger.duties.set t { d with errands, follows }
        journal := extra ++ w.journal }

lemma Drops.refl (h : w.Steady) (hs : w.Silent) (hd : w.driving = []) {t : Nat} {task : Task}
    (hr : w.running = some t) (ht : w.tasks[t]? = some task) : Drops w t task.duty w := by
  refine ⟨h, hs, hr, hd, w.engine, [], task.duty.errands, task.duty.follows, fun _ => .refl _,
    by simp, ?_⟩
  have hset : w.ledger.duties.set t task.duty = w.ledger.duties := by
    show (w.tasks.map Task.duty).set t task.duty = w.tasks.map Task.duty
    rw [← List.map_set]
    exact map_set_of_eq ht rfl
  rw [hset]
  rfl

lemma Drops.trans {w'' : World} {t : Nat} {d d' : Duty} (h : Drops w t d w')
    (h' : Drops w' t d' w'') (hd : d'.name = d.name ∧ d'.ended = d.ended) : Drops w t d w'' := by
  obtain ⟨engine, extra, errands, follows, hreg, hextra, hl⟩ := h.ledger
  obtain ⟨engine', extra', errands', follows', hreg', hextra', hl'⟩ := h'.ledger
  refine ⟨h'.steady, h'.silent, h'.running, h'.driving, engine', extra' ++ extra, errands', follows',
    fun host => ?_, ?_, ?_⟩
  · have he : w'.engine host = engine host := congrFun (congrArg Ledger.engine hl) host
    have hr := hreg' host
    rw [he] at hr
    exact (hreg host).trans hr
  · intro e he
    rcases List.mem_append.mp he with he | he
    · exact hextra' e he
    · exact hextra e he
  · have hj : w'.journal = extra ++ w.journal := congrArg Ledger.journal hl
    rw [hl', hl, hj, List.append_assoc]
    obtain ⟨hname, hended⟩ := hd
    cases d
    cases d'
    simp only at hname hended
    subst hname hended
    simp only [List.set_set]

/-- The running task may let go of emissions and shares. -/
lemma drops_setJob (h : w.Steady) (hs : w.Silent) (hd : w.driving = []) {t : Nat} {task : Task}
    (hr : w.running = some t) (ht : w.tasks[t]? = some task) {j : Job}
    (hem : ∀ i e, j.emission? i = some e → task.job.emission? i = some e)
    (hw : ∀ k, j ≠ .work k) (ho : ∀ host s own, j ≠ .output host s (some own)) :
    Drops w t task.duty (w.setJob j) := by
  have hshares : ∀ own ∈ j.shares, own ∈ task.job.shares := by
    intro own hm
    rcases Job.mem_shares.mp hm with ⟨host, s, hx⟩ | ⟨k, hx, -⟩ | ⟨i, e, hi, hx⟩
    · exact absurd hx (ho host s own)
    · exact absurd hx (hw k)
    · exact Job.mem_shares.mpr (.inr (.inr ⟨i, e, hem i e hi, hx⟩))
  have htidy := (h.tasks t task ht).job
  refine ⟨h.setJob hr ht hd ⟨fun k hk => absurd hk (hw k), fun host s own hj => absurd hj (ho host s own),
    fun i e own hi => htidy.emission i e own (hem i e hi)⟩ fun own hm => ?_, ?_, ?_, ?_,
    w.engine, [], j.errands, j.follows, fun _ => .refl _, by simp, ?_⟩
  · exact h.safe _ (.inr (.inl ⟨task, List.mem_of_getElem? ht, own, hshares own hm, rfl⟩))
  · intro u i e he
    rw [setJob_of_running hr ht] at he
    obtain ⟨task', ht', hi⟩ := Option.bind_eq_some_iff.mp he
    rcases getElem?_set_cases ht' with ⟨rfl, rfl⟩ | ⟨-, ht'⟩
    · exact hs t i e (Option.bind_eq_some_iff.mpr ⟨task, ht, hem i e hi⟩)
    · exact hs u i e (Option.bind_eq_some_iff.mpr ⟨task', ht', hi⟩)
  · rw [setJob_of_running hr ht]
    exact hr
  · rw [setJob_of_running hr ht]
    exact hd
  · rw [setJob_of_running hr ht]
    unfold ledger
    simp only [List.map_set]
    rfl

/-- What does not show in the ledger may follow. -/
lemma Drops.fades {t : Nat} {d : Duty} {w'' : World} (h : Drops w t d w') (hk : FadingUnheld w' w'') :
    Drops w t d w'' := by
  obtain ⟨engine, extra, errands, follows, hreg, hextra, hl⟩ := h.ledger
  exact ⟨h.steady.fades hk, silent_fades hk.toFading h.silent, hk.running.trans h.running,
    hk.driving.trans h.driving, engine, extra, errands, follows, hreg, hextra,
    (ledger_fades hk.toFading).trans hl⟩

lemma Drops.dropEmission {t : Nat} {d : Duty} (h : Drops w t d w') (e : Emission) :
    Drops w t d (w'.dropEmission e) := by
  obtain ⟨engine, extra, errands, follows, hreg, hextra, hl⟩ := h.ledger
  obtain ⟨hk, engine', hreg', hl'⟩ := (w'.dropsEmission e).keeps h.steady
  refine ⟨hk.steady, hk.silent h.silent, hk.running.trans h.running, hk.driving.trans h.driving,
    engine', e.farewell ++ extra, errands, follows, fun host => ?_, ?_, ?_⟩
  · have he : w'.engine host = engine host := congrFun (congrArg Ledger.engine hl) host
    have hr := hreg' host
    rw [he] at hr
    exact (hreg host).trans hr
  · intro x hx
    rcases List.mem_append.mp hx with hx | hx
    · unfold Emission.farewell at hx
      cases hpass : e.progress.pass? with
      | some pass =>
        rw [hpass] at hx
        exact ⟨_, _, _, List.mem_singleton.mp hx⟩
      | none =>
        rw [hpass] at hx
        cases hx
    · exact hextra x hx
  · have hj : w'.journal = extra ++ w.journal := congrArg Ledger.journal hl
    rw [hl', hj, hl, List.append_assoc]

lemma emission?_of_dropped {f : Fan} {i j : Nat} {e : Emission}
    (h : (Job.fan ((f.aimAt i).setCurrent none)).emission? j = some e) :
    (Job.fan f).emission? j = some e := by
  unfold Job.emission? Fan.branch? Fan.setCurrent Fan.aimAt at h
  obtain ⟨b, hb, he⟩ := Option.bind_eq_some_iff.mp h
  rcases getElem?_set_cases hb with ⟨-, rfl⟩ | ⟨-, hb⟩
  · cases he
  · exact Option.bind_eq_some_iff.mpr ⟨b, hb, he⟩

/-- The running task, whose duty was `d`, is still the one that runs. -/
lemma Drops.task {t : Nat} {d : Duty} (h : Drops w t d w') (ht : t < w.tasks.length) :
    ∃ task, w'.tasks[t]? = some task ∧ task.name = d.name ∧ task.ended = d.ended := by
  obtain ⟨engine, extra, errands, follows, -, -, hl⟩ := h.ledger
  have hd := congrArg (fun b : Ledger => b.duties[t]?) hl
  have hlt : t < w.ledger.duties.length := by
    show t < (w.tasks.map Task.duty).length
    rw [List.length_map]
    exact ht
  simp only [List.getElem?_set_self hlt] at hd
  have hd' : (w'.tasks.map Task.duty)[t]? = some { d with errands, follows } := hd
  rw [List.getElem?_map, Option.map_eq_some_iff] at hd'
  obtain ⟨task, hm, heq⟩ := hd'
  exact ⟨task, hm, congrArg Duty.name heq, congrArg Duty.ended heq⟩

lemma DropsBranch.drops {i : Nat} (hb : w.DropsBranch i w') (h : w.Steady) (hs : w.Silent)
    (hd : w.driving = []) {t : Nat} {task : Task} (hr : w.running = some t)
    (ht : w.tasks[t]? = some task) : Drops w t task.duty w' := by
  cases hb with
  | @branch f e hj =>
    have htj : task.job = .fan f := (job_of_running hr ht).symm.trans hj
    exact (drops_setJob h hs hd hr ht (fun j e he => by rw [htj]; exact emission?_of_dropped he)
      (by rintro k ⟨⟩) (by rintro host s own ⟨⟩)).dropEmission e
  | nothing => exact .refl h hs hd hr ht

lemma drops_branches (h : w.Steady) (hs : w.Silent) (hd : w.driving = []) {t : Nat}
    {task : Task} (hr : w.running = some t) (ht : w.tasks[t]? = some task) (order : List Nat) :
    Drops w t task.duty (order.foldl dropBranch w) := by
  induction order generalizing w task with
  | nil => exact .refl h hs hd hr ht
  | cons i order ih =>
    have hi := (w.dropsBranch i).drops h hs hd hr ht
    obtain ⟨task', ht', hname, hended⟩ := hi.task (List.getElem?_eq_some_iff.mp ht).1
    exact hi.trans (ih hi.steady hi.silent hi.driving hi.running ht') ⟨hname, hended⟩

lemma DropsJob.drops (hdrop : w.DropsJob w') (h : w.Steady) (hs : w.Silent) (hd : w.driving = [])
    {t : Nat} {task : Task} (hr : w.running = some t) (ht : w.tasks[t]? = some task) :
    Drops w t task.duty w' := by
  have hnothing : Drops w t task.duty (w.setJob .nothing) :=
    drops_setJob h hs hd hr ht (by rintro i e ⟨⟩) (by rintro k ⟨⟩) (by rintro host s own ⟨⟩)
  cases hdrop with
  | output => exact hnothing.fades (fadingUnheld_release _ _ _)
  | work => exact hnothing.fades (fadingUnheld_release _ _ _)
  | @emission e => exact hnothing.dropEmission e
  | @branches f => exact drops_branches h hs hd hr ht f.leaving
  | nothing => exact .refl h hs hd hr ht

/-- A task that may end does, whatever it gives up on the way. -/
lemma move_finish (h : w.Steady) (hs : w.Silent) {how : End} (hend : w.MayEnd how) {t : Nat}
    {task : Task} (hr : w.running = some t) (ht : w.tasks[t]? = some task)
    {engine : String → Engine} {extra : List Event}
    (hreg : ∀ host, (w.engine host).Regated (engine host))
    (hextra : ∀ e ∈ extra, ∃ host s pass, e = Event.abandoned host s pass) :
    Move w.ledger (w.ledger.finish t task.duty how engine extra) := by
  obtain ⟨task₀, ht₀, hgoing⟩ := h.runs t hr
  rw [ht] at ht₀
  cases ht₀
  have hduty : ∀ {u : Nat} {x : Task}, w.tasks[u]? = some x → w.ledger.duties[u]? = some x.duty := by
    intro u x hu
    show (w.tasks.map Task.duty)[u]? = _
    rw [List.getElem?_map, hu]
    rfl
  have herrand : ∀ i, w.ledger.errand? t i = (w.job.emission? i).map Emission.errand := by
    intro i
    rw [errand?_ledger, job_of_running hr ht]
    unfold emission?
    rw [ht]
    rfl
  refine .finish t task.duty how engine extra ⟨hduty ht, hgoing, silent_ledger hs, fun hp =>
    ⟨fun i => ?_, fun t' hf => ?_⟩, fun hc => hend.cancelled hc t task hr ht, hend.panicked, hreg,
      hextra⟩
  · rw [herrand, hend.finished hp i]
    rfl
  · have hf' : w.job.follows = some t' := by
      rw [job_of_running hr ht]
      exact hf
    obtain ⟨task', how', hm, he, hne⟩ := hend.followed hp t' hf'
    exact ⟨task'.duty, how', hduty hm, he, hne⟩

/-- Of a task that is over the ledger keeps the name and the way it ended. -/
lemma ledger_over {v : World} {t : Nat} {task task' : Task} (hname : task'.name = task.name)
    (how : End) {engine : String → Engine} {extra : List Event} {errands : Nat → Option Errand}
    {follows : Option Nat} (hl : v.ledger = { w.ledger with
      engine
      duties := w.ledger.duties.set t { task.duty with errands, follows }
      journal := extra ++ w.journal }) :
    World.ledger { v with
      tasks := v.tasks.set t { task' with job := .nothing, ended := some how, holding := none }
      journal := .ended t task.name how :: v.journal
      running := none
      rewoken := false
      focus := .idle } = w.ledger.finish t task.duty how engine extra := by
  have hduties : (v.tasks.set t
      { task' with job := .nothing, ended := some how, holding := none }).map Task.duty =
        w.ledger.duties.set t
          { task.duty with errands := fun _ => none, follows := none, ended := some how } := by
    have hd : v.tasks.map Task.duty = w.ledger.duties.set t { task.duty with errands, follows } :=
      congrArg Ledger.duties hl
    have hduty : Task.duty { task' with job := .nothing, ended := some how, holding := none } =
        { task.duty with errands := fun _ => none, follows := none, ended := some how } := by
      unfold Task.duty
      rw [hname]
      rfl
    rw [List.map_set, hd, List.set_set, hduty]
  have hjournal : v.journal = extra ++ w.journal := congrArg Ledger.journal hl
  show { v.ledger with
    duties := (v.tasks.set t
      { task' with job := .nothing, ended := some how, holding := none }).map Task.duty
    journal := .ended t task.name how :: v.journal } = _
  rw [hduties, hjournal, hl]
  rfl

/-- The running task has given up what it held, and is over. -/
lemma goes_over (h : w.Steady) {how : End} (ha : w.Aimed (.finish how)) {t : Nat} {task : Task}
    (hr : w.running = some t) (ht : w.tasks[t]? = some task) :
    ∃ task', w.dropJob.tasks[t]? = some task' ∧
      Goes w
        { w.dropJob with
          tasks := w.dropJob.tasks.set t
            { task' with job := .nothing, ended := some how, holding := none }
          journal := .ended t task.name how :: w.dropJob.journal
          running := none
          rewoken := false
          focus := .idle } := by
  obtain ⟨hs, hd, hend⟩ := ha
  have hdrop := w.dropsJob.drops h hs hd hr ht
  obtain ⟨task', ht', hname, -⟩ := hdrop.task (List.getElem?_eq_some_iff.mp ht).1
  obtain ⟨engine, extra, errands, follows, hreg, hextra, hl⟩ := hdrop.ledger
  have hjournal : w.dropJob.journal = extra ++ w.journal := congrArg Ledger.journal hl
  have htidy := hdrop.steady.tasks t task' ht'
  have hover : Task.Tidy w.dropJob.journal w.dropJob.flights
      { task' with job := .nothing, ended := some how, holding := none } := by
    refine ⟨htidy.named, by rintro _ _ ⟨⟩, fun text he => ?_, by rintro _ ⟨⟩, by rintro _ _ _ ⟨⟩,
      by rintro _ _ _ ⟨⟩⟩
    rw [hjournal]
    exact (hend.panicked text (Option.some.inj he)).mono fun x hx => List.mem_append_right _ hx
  have hlinked : ∀ j : Job, Linked w.dropJob.flights j w.dropJob.driving := by
    intro j
    rw [hdrop.driving]
    exact True.intro
  have hsteady := ((hdrop.steady.rests hdrop.driving false .idle).setTask ht' hover (by rintro ⟨⟩)
    (hlinked _) (by rintro _ ⟨⟩)).log (.ended t task.name how)
  refine ⟨task', ht', ⟨⟨hsteady, ?_, hdrop.driving, rfl⟩, ?_⟩⟩
  · intro u i e he
    obtain ⟨task'', hu, hi⟩ := Option.bind_eq_some_iff.mp he
    rcases getElem?_set_cases hu with ⟨rfl, rfl⟩ | ⟨-, hu⟩
    · cases hi
    · exact hdrop.silent u i e (Option.bind_eq_some_iff.mpr ⟨task'', hu, hi⟩)
  · rw [ledger_over hname how hl]
    exact .single (move_finish h hs hend hr ht hreg hextra)

/-- Whoever waits for the task that ended is woken. -/
lemma Goes.follow {w' : World} (h : Goes w w') (hf : w'.focus = .idle) (follower : Nat) :
    Goes w (w'.enqueue follower) := by
  have hk := fadingUnheld_enqueue w' follower
  have hp := h.poised.aimed
  rw [hf] at hp
  obtain ⟨hs, hd, hr⟩ := hp
  refine ⟨⟨h.poised.steady.fades hk, ?_⟩, h.moves.trans (moves_fades hk.toFading)⟩
  rw [hk.focus, hf]
  exact ⟨silent_fades hk.toFading hs, hk.driving.trans hd, hk.running.trans hr⟩

/-- The task leaves the world, and what it owned goes back on the shelf. -/
lemma goes_leaveTask (h : w.Steady) {how : End} (ha : w.Aimed (.finish how)) {t : Nat}
    {task : Task} (hr : w.running = some t) (ht : w.tasks[t]? = some task) :
    Goes w (w.leaveTask t task how) := by
  obtain ⟨task', ht', hg⟩ := goes_over h ha hr ht
  have hclose : w.closeTask t how = { w.dropJob with
      tasks := w.dropJob.tasks.set t
        { task' with job := .nothing, ended := some how, holding := none } } := by
    unfold closeTask modifyTask
    rw [ht']
  unfold leaveTask
  rw [hclose]
  rcases putBack_cases (World.log { w.dropJob with
      tasks := w.dropJob.tasks.set t
        { task' with job := .nothing, ended := some how, holding := none } }
          (.ended t task.name how)) task.holding how with heq | ⟨name, s, hh, heq⟩
  · rw [heq]
    exact hg
  · rw [heq]
    have htaken := (h.tasks t task ht).taken name s hh
    have hk := carries_shelve hg.poised.steady (@shelves_insert _ name s htaken)
    exact ⟨⟨hk.steady, hg.poised.aimed⟩, hg.moves.trans hk.moves⟩

lemma EndsTask.goes {how : End} (he : w.EndsTask how w') (h : w.Steady)
    (ha : w.Aimed (.finish how)) : Goes w w' := by
  cases he with
  | idle hr =>
    obtain ⟨hs, hd, -⟩ := ha
    exact ⟨h.poised (f := .idle) ⟨hs, hd, hr⟩, .refl _⟩
  | @misses t hr ht =>
    obtain ⟨task, ht', -⟩ := h.runs t hr
    cases ht.symm.trans ht'
  | leaves hr ht => exact goes_leaveTask h ha hr ht
  | @calls t follower task hr ht => exact (goes_leaveTask h ha hr ht).follow rfl follower

/-- Every step of a poised world leads to a poised world, and its ledger moves along. -/
theorem goes_step (h : w.Poised)
    (hk : ∀ e pass r rest, w.party = .emission e → e.progress = .calling pass r rest →
      ∀ c ∈ rest, c < w.subscribers.length)
    (hb : w.Begins) : Goes w w.step := by
  obtain ⟨hs, ha⟩ := h
  unfold step
  cases hf : w.focus with
  | idle => exact ⟨⟨hs, ha⟩, .refl _⟩
  | resume => exact w.resumesTask.goes hs (by rw [hf] at ha; exact ha)
  | work => exact w.resumesWork.goes hs (by rw [hf] at ha; exact ha) hb
  | make r => exact (w.makesRecipe r).goes hs (by rw [hf] at ha; exact ha)
  | made c => exact (w.finishesWork c).goes hs (by rw [hf] at ha; exact ha)
  | poll own => exact (w.pollsFlight own).goes hs (by rw [hf] at ha; exact ha)
  | answer r => exact (w.handsAnswer r).goes hs (by rw [hf] at ha; exact ha)
  | stall => exact (w.stalls.settles hs (by rw [hf] at ha; exact ha)).goes
  | emission => exact w.goesOn.goes hs hf (by rw [hf] at ha; exact ha) hk
  | next finished =>
    rw [hf] at ha
    exact (w.turnsToNext finished).goes hs ha.1 ha.2
  | finish how => exact (w.endsTask how).goes hs (by rw [hf] at ha; exact ha)
  | panic text => exact (w.unwinds text).goes hs hf (by rw [hf] at ha; exact ha)

end World

end Dataflow
