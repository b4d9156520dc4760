import Dataflow.Proofs.ActionSteps
import Dataflow.Proofs.EmissionCases
import Dataflow.Proofs.Errands
import Dataflow.Proofs.WorkSteps

/-!
# The steps of emissions

An emission selects subscribers when something is cached, and calls them before anything else is
selected.
-/

namespace Dataflow

namespace World

open Ledger (Move Moves Quiet)

variable {w w' : World}

lemma flying_regated {e e' : Engine} (h : e.Regated e') (s : Slot) : e'.flying s = e.flying s := by
  obtain ⟨gates, passes, -, rfl⟩ := h
  rfl

lemma cached_regated {e e' : Engine} (h : e.Regated e') (s : Slot) : e'.cached s = e.cached s := by
  obtain ⟨gates, passes, -, rfl⟩ := h
  rfl

lemma delivered_regated {e e' : Engine} (h : e.Regated e') : e'.delivered = e.delivered := by
  obtain ⟨gates, passes, -, rfl⟩ := h
  rfl

/-- Gates have no say in whom a delivery selects. -/
lemma select_regated {e e' : Engine} (h : e.Regated e') (p : Policy) (s : Slot) (r : Result) :
    (e'.select p s r).1 = (e.select p s r).1 ∧
      (e'.select p s r).2.delivered = (e.select p s r).2.delivered := by
  obtain ⟨gates, passes, -, rfl⟩ := h
  exact ⟨rfl, rfl⟩

lemma carries_regate (h : w.Steady) {i : String} {e : Engine}
    (he : (w.engine i).Regated e) : Carries w (w.setEngine i e) := by
  refine ⟨keeps_setEngine h fun s ticket hf => by rw [flying_regated he] at hf; exact hf, ?_⟩
  rw [ledger_setEngine]
  exact .single (.quiet (Ledger.quiet_setEngine he))

lemma carries_makeWay (h : w.Steady) (e : Emission) (pass : Pass) :
    Carries w (w.makeWay e pass) := by
  obtain ⟨l, heq⟩ := makeWay_eq w e pass
  have hr := carries_regate (i := e.host) h (Engine.regated_modifyGate (w.engine e.host) e.slot
    pass fun g => { g with line := g.line.filter (·.1 != pass.number) })
  rw [heq]
  exact hr.trans (carries_fades hr.steady (fadingUnheld_wake _ l))

lemma ledger_makeWay (w : World) (e : Emission) (pass : Pass) :
    (w.makeWay e pass).ledger =
      w.ledger.setEngine e.host ((w.engine e.host).stepOut e.slot pass) := by
  obtain ⟨l, heq⟩ := makeWay_eq w e pass
  rw [heq, ledger_fades (fadingUnheld_wake _ l).toFading, ledger_setEngine]

lemma cached_makeWay (w : World) (e : Emission) (pass : Pass) :
    ((w.makeWay e pass).engine e.host).cached e.slot = (w.engine e.host).cached e.slot := by
  have he : (w.makeWay e pass).engine e.host = (w.engine e.host).stepOut e.slot pass := by
    show (w.makeWay e pass).ledger.engine e.host = _
    rw [ledger_makeWay]
    exact if_pos rfl
  rw [he]
  exact cached_regated (Engine.regated_modifyGate _ _ _ _) e.slot

lemma poised_setEmission (h : w.Steady) (hh : w.Hushed) (hf : w.focus = .emission)
    {e e' : Emission} (hp : w.party = .emission e) (hhost : e'.host = e.host)
    (hslot : e'.slot = e.slot) (hs : e'.share? = none) : (w.setEmission e').Poised := by
  have hsucc : (Party.emission e').Succeeds w.party := by
    rw [hp]
    exact ⟨hhost, hslot⟩
  have h₁ : (w.setEmission e').Steady := h.setParty hsucc fun own ho => by
    rw [hs] at ho
    cases ho
  have hh₁ : (w.setEmission e').Hushed := hushed_setParty h hh hsucc
  obtain ⟨-, -, -, _, _, heq⟩ := setParty_frame h hsucc
  have heq' : w.setEmission e' = _ := heq
  have hf₁ : (w.setEmission e').focus = .emission := by
    rw [heq']
    exact hf
  refine ⟨h₁, ?_⟩
  rw [hf₁]
  refine ⟨hh₁, ?_⟩
  rw [heq']
  exact (emission?_of_party h hp).1

lemma ledger_emission (h : w.Steady) {e : Emission} (hp : w.party = .emission e) (e' : Emission)
    (hhost : e'.host = e.host) (hslot : e'.slot = e.slot) :
    ∃ t, w.running = some t ∧ w.ledger.errand? t w.job.cursor = some e.errand ∧
      (w.setEmission e').ledger = w.ledger.setErrand t w.job.cursor (some e'.errand) := by
  have hsucc : (Party.emission e').Succeeds w.party := by
    rw [hp]
    exact ⟨hhost, hslot⟩
  obtain ⟨-, t, hr, he⟩ := emission?_of_party h hp
  obtain ⟨t', hr', hl⟩ := ledger_setEmission h hsucc
  rw [hr] at hr'
  cases hr'
  exact ⟨t, hr, errand?_of_emission? he, hl⟩

/-- Where the emission comes to, the ledger follows. -/
lemma goes_setEmission (h : w.Steady) (hh : w.Hushed) (hf : w.focus = .emission) {e e' : Emission}
    (hp : w.party = .emission e) (hhost : e'.host = e.host) (hslot : e'.slot = e.slot)
    (hs : e'.share? = none)
    (hm : ∀ t, w.ledger.errand? t w.job.cursor = some e.errand →
      Moves w.ledger (w.ledger.setErrand t w.job.cursor (some e'.errand))) :
    Goes w (w.setEmission e') := by
  obtain ⟨t, -, hx, hl⟩ := ledger_emission h hp e' hhost hslot
  refine ⟨poised_setEmission h hh hf hp hhost hslot hs, ?_⟩
  rw [hl]
  exact hm t hx

lemma Carries.goes {w'' : World} (h : Carries w w') (h' : Goes w' w'') : Goes w w'' :=
  ⟨h'.poised, h.moves.trans h'.moves⟩

lemma goes_enter (h : w.Steady) (hh : w.Hushed) (hf : w.focus = .emission) {e : Emission}
    (hp : w.party = .emission e) (hpr : e.progress = .fresh) : Goes w (w.enter e) := by
  unfold enter
  rcases hen : (w.engine e.host).enter e.slot with ⟨pass, engine⟩
  have hreg : (w.engine e.host).Regated engine := by
    have hr := Engine.regated_enter (w.engine e.host) e.slot
    rw [hen] at hr
    exact hr
  simp only
  have hc := carries_regate h hreg
  have hc₂ := hc.trans (carries_log (e := .entered e.host e.slot pass) hc.steady rfl)
  have hph : e.errand.phase = .fresh := congrArg Progress.phase hpr
  refine ⟨poised_setEmission hc₂.steady (hc₂.hushed hh) (hc₂.focus.trans hf) (hc₂.party.trans hp)
    rfl rfl rfl, ?_⟩
  obtain ⟨t, hr, hx, -⟩ := ledger_emission h hp e rfl rfl
  obtain ⟨t₂, hr₂, -, hl⟩ := ledger_emission hc₂.steady (hc₂.party.trans hp)
    ⟨e.host, e.slot, .looking pass⟩ rfl rfl
  rw [hc₂.running, hr] at hr₂
  cases hr₂
  rw [hl, hc₂.cursor, ledger_log, ledger_setEngine]
  have hm := Move.enter t w.job.cursor e.errand hx hph
  have hen' : (w.ledger.engine e.host).enter e.slot = (pass, engine) := hen
  unfold Ledger.enter Ledger.takePass at hm
  simp only [Emission.errand, hen'] at hm
  exact .single hm

/-- While the emission that the task is concerned with is open, nothing is being delivered. -/
lemma Hushed.silent_of_open (hh : w.Hushed) {e : Emission} (hp : w.party = .emission e)
    (ho : e.progress.phase.isOpen = true) : w.Silent :=
  hh.silent fun e' he' => by
    rw [hp] at he'
    cases he'
    exact ho

lemma Looks.goes {e : Emission} {pass : Pass} (hlooks : w.Looks e pass w') (h : w.Steady)
    (hh : w.Hushed) (hf : w.focus = .emission) (hp : w.party = .emission e)
    (hpr : e.progress = .looking pass) : Goes w w' := by
  have hph : e.errand.phase = .looking pass := congrArg Progress.phase hpr
  have hsilent : w.Silent := hh.silent_of_open hp (by rw [hpr]; rfl)
  obtain ⟨t, hr, hx, -⟩ := ledger_emission h hp e rfl rfl
  -- The ledger takes two moves, since what was there decides how the emission goes on.
  have hlook := Move.look t w.job.cursor e.errand pass hx hph
  have hx₁ := Ledger.errand?_setErrand (b := w.ledger.log (.looked e.host e.slot pass)) hx
    (some { e.errand with phase := .looked pass }) t w.job.cursor
  rw [if_pos ⟨rfl, rfl⟩] at hx₁
  unfold Ledger.look at hlook
  have h₁ : (w.log (.looked e.host e.slot pass)).Steady := h.log _
  cases hlooks with
  | finds hca =>
    refine ⟨poised_setEmission (w := w.log (.looked e.host e.slot pass)) h₁ hh hf hp rfl rfl rfl, ?_⟩
    obtain ⟨t₁, hr₁, -, hl⟩ := ledger_emission h₁ hp
      ⟨e.host, e.slot, .ready pass (w.engine e.host).clears⟩ rfl rfl
    have ht : t₁ = t := Option.some.inj (hr₁.symm.trans hr)
    have hm := Move.advance t _ _ _ hx₁ (.found pass _ rfl hca)
    rw [Ledger.setErrand_setErrand] at hm
    rw [hl, ht]
    exact .head hlook (.single hm)
  | joins hca =>
    have hca₁ : ((w.log (.looked e.host e.slot pass)).engine e.host).cached e.slot = none := hca
    have hj := World.joins h₁ hca₁
    rcases hjoin : (w.log (.looked e.host e.slot pass)).join e.host e.slot with ⟨w₂, own⟩
    rw [hjoin] at hj
    have hp₂ : w₂.party = .emission e := hj.party.trans hp
    obtain ⟨hs₂, hrun, hcursor⟩ :
        w₂.Silent ∧ w₂.running = w.running ∧ w₂.job.cursor = w.job.cursor := by
      obtain ⟨_, _, _, rfl⟩ := hj.rest
      exact ⟨hsilent, rfl, rfl⟩
    have hsucc : (Party.emission { e with
        progress := .waiting pass (w.engine e.host).clears own }).Succeeds w₂.party := by
      rw [hp₂]
      exact ⟨rfl, rfl⟩
    have h₃ := hj.steady.setParty hsucc fun own' ho => by
      cases ho
      exact ⟨hj.alive, hj.serves⟩
    have hs₃ := silent_setParty hj.steady hs₂.hushed hsucc fun e' he' => by cases he'; rfl
    have hparty := (setParty_frame hj.steady hsucc).1
    refine ⟨h₃.poised (f := .poll own) ⟨hs₃, by rw [hparty]; rfl⟩, ?_⟩
    obtain ⟨t₂, hr₂, hx₂, hl⟩ := ledger_emission hj.steady hp₂ { e with
      progress := .waiting pass (w.engine e.host).clears own } rfl rfl
    rw [hrun, hr] at hr₂
    cases hr₂
    rw [hcursor] at hx₂ hl
    have hx₃ := Ledger.errand?_setErrand hx₂ (some { e.errand with phase := .looked pass }) t
      w.job.cursor
    rw [if_pos ⟨rfl, rfl⟩] at hx₃
    have hclears : (w₂.ledger.engine e.host).clears = (w.engine e.host).clears := hj.clears
    have hm := Move.advance t _ _ _ hx₃ (.wait pass own.ticket rfl hj.flying)
    rw [Ledger.setErrand_setErrand] at hm
    have hwait : Move (w₂.ledger.setErrand t w.job.cursor
          (some { e.errand with phase := .looked pass }))
        (w₂.ledger.setErrand t w.job.cursor
          (some ⟨e.host, e.slot, .waiting pass (w.engine e.host).clears own.ticket⟩)) := by
      rw [← hclears]
      exact hm
    rw [ledger_aim, hl]
    exact .head hlook ((hj.aside t w.job.cursor _).trans (.single hwait))

lemma HandsOut.goes {e : Emission} {pass : Pass} {clears : Nat}
    (hd : w.HandsOut e pass clears w') (h : w.Steady) (hh : w.Hushed) (hf : w.focus = .emission)
    (hp : w.party = .emission e) (hpr : e.progress = .ready pass clears) : Goes w w' := by
  have hph : e.errand.phase = .ready pass clears := congrArg Progress.phase hpr
  have hsilent : w.Silent := hh.silent_of_open hp (by rw [hpr]; rfl)
  obtain ⟨t, hr, hx, -⟩ := ledger_emission h hp e rfl rfl
  cases hd with
  | @selects r hca =>
    have hk := keeps_setEngine (i := e.host)
      (e := ((w.engine e.host).select (w.policy e.host) e.slot r).2) h fun s ticket hfl => hfl
    have hk₂ := hk.trans (keeps_log hk.steady (.delivering e.host e.slot pass r
      ((w.engine e.host).select (w.policy e.host) e.slot r).1))
    have hp₂ := hk₂.party.trans hp
    refine ⟨poised_setEmission hk₂.steady (hk₂.hushed hh) (hk₂.focus.trans hf) hp₂ rfl rfl rfl, ?_⟩
    obtain ⟨t₂, hr₂, -, hl⟩ := ledger_emission hk₂.steady hp₂ ⟨e.host, e.slot,
      .calling pass r ((w.engine e.host).select (w.policy e.host) e.slot r).1⟩ rfl rfl
    rw [hk₂.running, hr] at hr₂
    cases hr₂
    rw [hl, hk₂.cursor, ledger_log, ledger_setEngine]
    exact .single (.select t w.job.cursor e.errand pass clears r hx hph (silent_ledger hsilent) hca)
  | breaks hca hcl =>
    refine goes_breakDown h hh _ _ (by rintro ⟨⟩) (fun _ => ⟨t, _, e.errand, pass, hx, ?_, hca⟩)
      fun _ => hsilent
    rw [hph, ← hcl]
    rfl
  | retries hca hcl =>
    have hc := carries_log (e := .retrying e.host e.slot pass) h rfl
    have hc₂ := hc.trans (carries_makeWay hc.steady e pass)
    refine hc₂.goes (goes_setEmission hc₂.steady (hc₂.hushed hh) (hc₂.focus.trans hf)
      (hc₂.party.trans hp) rfl rfl rfl fun t he => ?_)
    refine .single (.advance t _ _ _ he (.retry pass clears hph ?_))
    exact (cached_makeWay (w.log (.retrying e.host e.slot pass)) e pass).trans hca

lemma carries_takePlace (h : w.Steady) (e : Emission) (pass : Pass) :
    Carries w (w.takePlace e pass) :=
  carries_regate h (Engine.regated_lineUp (w.engine e.host) e.slot pass w.self)

lemma Approaches.goes {e : Emission} {pass : Pass} {clears : Nat}
    (ha : w.Approaches e pass clears w') (h : w.Steady) (hh : w.Hushed)
    (hf : w.focus = .emission) (hp : w.party = .emission e)
    (hpr : e.progress = .ready pass clears) : Goes w w' := by
  have hsilent : w.Silent := hh.silent_of_open hp (by rw [hpr]; rfl)
  have hc := carries_takePlace h e pass
  cases ha with
  | queues => exact hc.goes ⟨hc.steady.poised (f := .stall) (hc.silent hsilent), .refl _⟩
  | yields =>
    have hc₂ := hc.trans (carries_fades hc.steady (fadingUnheld_wake _ [(w.takePlace e pass).self]))
    exact hc₂.goes ⟨hc₂.steady.poised (f := .stall) (hc₂.silent hsilent), .refl _⟩
  | delivers _ _ hd =>
    have hg := hd.goes hc.steady.rest (hc.hushed hh) (hc.focus.trans hf) (hc.party.trans hp) hpr
    exact ⟨hg.poised, hc.moves.trans hg.moves⟩

/-- What is left when the running task loses the emission that it is concerned with. -/
structure Loses (w : World) (e : Emission) (t : Nat) (w' : World) : Prop where
  running : w.running = some t
  driving : w.driving = []
  errand : w.ledger.errand? t w.job.cursor = some e.errand
  steady : w'.Steady
  silent : w'.Silent
  job : w'.job = w.job.clear
  ledger : w'.ledger = w.ledger.setErrand t w.job.cursor none
  rest : ∃ tasks, w' = { w with tasks }

lemma loses (h : w.Steady) (hh : w.Hushed) {e : Emission} (hp : w.party = .emission e) :
    ∃ t, Loses w e t (w.setJob w.job.clear) := by
  obtain ⟨hd, t, hr, he⟩ := emission?_of_party h hp
  obtain ⟨task, ht, -⟩ := Option.bind_eq_some_iff.mp he
  have hj := job_of_running hr ht
  have hlt := (List.getElem?_eq_some_iff.mp ht).1
  have hjp : task.job.party = .emission e := by
    rw [party_eq, hd, hj] at hp
    exact hp
  have htidy := h.tasks t task ht
  have hx := errand?_of_emission? he
  rw [hj] at hx ⊢
  refine ⟨t, hr, hd, by rw [hj]; exact hx, ?_, ?_, ?_, ?_, ?_⟩
  · refine h.setJob hr ht hd (Job.tidy_clear htidy.job hjp) ?_
    intro own ho
    exact h.safe _ (.inr (.inl ⟨task, List.mem_of_getElem? ht, own,
      Job.mem_shares_clear hjp ho, rfl⟩))
  · intro u i e' hm
    rw [setJob_of_running hr ht] at hm
    obtain ⟨task', ht', hi⟩ := Option.bind_eq_some_iff.mp hm
    cases ho : e'.progress.phase.isOpen with
    | true => rfl
    | false =>
      rcases getElem?_set_cases ht' with ⟨rfl, rfl⟩ | ⟨hne, ht'⟩
      · rw [Job.emission?_clear hjp, Option.ite_none_left_eq_some] at hi
        obtain ⟨-, -, hcur⟩ := hh t i e' (Option.bind_eq_some_iff.mpr ⟨task, ht, hi.2⟩) ho
        rw [hj] at hcur
        exact absurd hcur.symm hi.1
      · obtain ⟨-, hr', -⟩ := hh u i e' (Option.bind_eq_some_iff.mpr ⟨task', ht', hi⟩) ho
        rw [hr] at hr'
        cases hr'
        exact absurd rfl hne
  · rw [setJob_of_running hr ht, hj]
    exact job_of_running (w := { w with tasks := w.tasks.set t { task with job := task.job.clear } })
      hr (List.getElem?_set_self hlt)
  · rw [setJob_of_running hr ht, hj]
    refine ledger_setErrand ht ?_ (Job.follows_clear hjp)
    funext i
    unfold Job.errands
    rw [Job.emission?_clear hjp]
    by_cases hi : task.job.cursor = i
    · rw [if_pos hi, if_pos hi]
      rfl
    · rw [if_neg hi, if_neg hi]
  · rw [setJob_of_running hr ht]
    exact ⟨_, rfl⟩

lemma mayEnd_nothing (hj : w.job = .nothing) {how : End} (hc : how ≠ .cancelled)
    (hp : ∀ text, how ≠ .panicked text) : w.MayEnd how where
  cancelled := fun he => absurd he hc
  panicked := fun text he => absurd he (hp text)
  finished := fun _ i => by rw [hj]; rfl
  followed := fun _ t ht => by rw [hj] at ht; cases ht

/-- An emission that has called all its subscribers makes room for what comes next. -/
lemma Loses.leaves {e : Emission} {t : Nat} {j : Job} (hl : Loses w e t (w.setJob w.job.clear))
    {pass : Pass} {r : Result} (hpr : e.progress = .calling pass r []) (hj : w.job.clear = j) :
    (w.setJob j).Steady ∧ (w.setJob j).Silent ∧ (w.setJob j).driving = [] ∧ (w.setJob j).job = j ∧
      Moves w.ledger (w.setJob j).ledger := by
  subst hj
  have hm := Move.leave t _ e.errand pass r hl.errand (congrArg Progress.phase hpr)
  rw [← hl.ledger] at hm
  refine ⟨hl.steady, hl.silent, ?_, hl.job, .single hm⟩
  obtain ⟨tasks, heq⟩ := hl.rest
  rw [heq]
  exact hl.driving

lemma carries_leaveGate (h : w.Steady) (e : Emission) (pass : Pass) :
    Carries w (w.leaveGate e pass) := by
  have hc := carries_makeWay h e pass
  have hc₂ := hc.trans (carries_regate hc.steady (Engine.regated_leave
    ((w.makeWay e pass).engine e.host) e.slot pass))
  exact hc₂.trans (carries_log (e := .left e.host e.slot pass) hc₂.steady rfl)

lemma FinishesEmission.goes {e : Emission} {pass : Pass} (hfin : w.FinishesEmission e pass w')
    (h : w.Steady) (hh : w.Hushed) (hp : w.party = .emission e) {r : Result}
    (hpr : e.progress = .calling pass r []) : Goes w w' := by
  have hc := carries_leaveGate h e pass
  obtain ⟨t, hl⟩ := loses hc.steady (hc.hushed hh) (hc.party.trans hp)
  refine hc.goes ?_
  cases hfin with
  | @branch f hj =>
    have hclear : (w.leaveGate e pass).job.clear = .fan (f.setCurrent none) := by
      rw [hj]
      rfl
    obtain ⟨hs, hsi, hd, -, hm⟩ := hl.leaves hpr hclear
    exact ⟨hs.poised (f := .next true) ⟨hsi, hd⟩, hm⟩
  | whole hj =>
    have hclear : (w.leaveGate e pass).job.clear = .nothing := by
      cases hjob : (w.leaveGate e pass).job with
      | fan f => exact absurd hjob (hj f)
      | _ => rfl
    obtain ⟨hs, hsi, hd, hjob, hm⟩ := hl.leaves hpr hclear
    exact ⟨hs.poised (f := .finish .ok)
      ⟨hsi, hd, mayEnd_nothing hjob (by rintro ⟨⟩) (by rintro _ ⟨⟩)⟩, hm⟩

lemma keeps_count (h : w.Steady) {c : Nat} {s : Subscriber} :
    Keeps w { w with subscribers := w.subscribers.set c s } := by
  refine ⟨⟨h.tasks, h.flights, h.runs, ?_, h.shelf, h.driven, h.nodup, h.linked, h.flying,
    h.safe⟩, rfl, rfl, rfl, rfl, rfl, fun _ _ _ => .inl, fun hb => hb⟩
  intro name i hi
  rw [List.length_set]
  exact h.callbacks name i hi

lemma CallsNext.goes {e : Emission} {pass : Pass} {r : Result} {rest : List Nat}
    (hc : w.CallsNext e pass r rest w') (h : w.Steady) (hh : w.Hushed) (hf : w.focus = .emission)
    (hp : w.party = .emission e) (hpr : e.progress = .calling pass r rest)
    (hk : ∀ c ∈ rest, c < w.subscribers.length) : Goes w w' := by
  cases hc with
  | ends hfin => exact hfin.goes h hh hp hpr
  | @skips c rest hs =>
    rw [List.getElem?_eq_none_iff] at hs
    exact absurd (hk c List.mem_cons_self) (Nat.not_lt.mpr hs)
  | @calls c rest s hs =>
    have hph : e.errand.phase = .calling pass r (c :: rest) := congrArg Progress.phase hpr
    have hc := (keeps_count h (c := c) (s := { s with calls := s.calls + 1 })).trans
      (keeps_log (keeps_count h).steady (.called e.host e.slot c s.callback r))
    have hp₁ := hc.party.trans hp
    refine ⟨poised_setEmission hc.steady (hc.hushed hh) (hc.focus.trans hf) hp₁ rfl rfl rfl, ?_⟩
    obtain ⟨t, hr, hx, hl⟩ := ledger_emission hc.steady hp₁ ⟨e.host, e.slot, .acting pass r rest
      s.callback (((w.scripts.get? s.callback).getD [])[s.calls]?.getD [])⟩ rfl rfl
    rw [hl, ledger_log]
    have hcount : World.ledger { w with subscribers := w.subscribers.set c { s with
        calls := s.calls + 1 } } = w.ledger := by
      unfold ledger
      simp only [List.length_set]
      rfl
    rw [ledger_log, hcount] at hx
    rw [hcount]
    exact .single (.call t _ e.errand pass r c rest s.callback hx hph)

lemma ActsNext.goes {e : Emission} {pass : Pass} {r : Result} {rest : List Nat}
    {callback : String} {script : List Action} (ha : w.ActsNext e pass r rest callback script w')
    (h : w.Steady) (hh : w.Hushed) (hf : w.focus = .emission) (hp : w.party = .emission e)
    (hpr : e.progress = .acting pass r rest callback script) : Goes w w' := by
  have hsame : ∀ e' : Emission, e'.errand = e.errand → ∀ {v : World} t,
      v.ledger.errand? t v.job.cursor = some e.errand →
        Moves v.ledger (v.ledger.setErrand t v.job.cursor (some e'.errand)) := by
    intro e' heq v t hx
    rw [heq, Ledger.setErrand_self hx]
    exact .refl _
  cases ha with
  | rests =>
    exact goes_setEmission h hh hf hp rfl rfl rfl fun t => hsame ⟨e.host, e.slot, _⟩
      (by simp [Emission.errand, hpr, Progress.phase]) t
  | @acts a script v reply hperf =>
    have hc := carries_perform h a
    rw [hperf] at hc
    have hc₂ := hc.trans (carries_log (e := .acted callback reply) hc.steady rfl)
    exact hc₂.goes (goes_setEmission hc₂.steady (hc₂.hushed hh) (hc₂.focus.trans hf)
      (hc₂.party.trans hp) rfl rfl rfl fun t => hsame ⟨e.host, e.slot, _⟩
        (by simp [Emission.errand, hpr, Progress.phase]) t)
  | @panics a script v text hperf =>
    have hc := carries_perform h a
    rw [hperf] at hc
    exact Carries.goes hc (goes_breakDown hc.steady (hc.hushed hh) .subscriber text
      (by rintro ⟨⟩) (by rintro ⟨⟩) fun hn => absurd rfl hn)

/-- One step of the emission of the running task. -/
lemma GoesOn.goes (hg : w.GoesOn w') (h : w.Steady) (hf : w.focus = .emission)
    (ha : w.Aimed .emission)
    (hk : ∀ e pass r rest, w.party = .emission e → e.progress = .calling pass r rest →
      ∀ c ∈ rest, c < w.subscribers.length) : Goes w w' := by
  obtain ⟨hh, -⟩ := ha
  cases hg with
  | enters hp hpr => exact goes_enter h hh hf hp hpr
  | looks hp hpr hlooks => exact hlooks.goes h hh hf hp hpr
  | @polls e pass clears own hp hpr =>
    have hsilent : w.Silent := hh.silent_of_open hp (by rw [hpr]; rfl)
    refine ⟨h.poised (f := .poll own) ⟨hsilent, ?_⟩, .refl _⟩
    rw [hp]
    simp [Party.awaits, Party.share?, Emission.share?, hpr]
  | approaches hp hpr happ => exact happ.goes h hh hf hp hpr
  | @calls e pass r rest v hp hpr hc => exact hc.goes h hh hf hp hpr (hk e pass r rest hp hpr)
  | acts hp hpr hact => exact hact.goes h hh hf hp hpr
  | stalls hp =>
    exact ⟨h.poised (f := .stall) (hh.silent fun e he => absurd he (hp e)), .refl _⟩

end World

end Dataflow
