import Dataflow.Proofs.Goes
import Dataflow.Proofs.WorkCases

/-!
# The steps of works and flights

A flight that is polled is driven by whoever polled it, until it lands or has to wait. All of this
keeps the world poised.
-/

namespace Dataflow

namespace World

open Ledger (Move Moves)

variable {w w' : World}

/-- What taking a share in the computation of a slot leads to. -/
structure Joins (w : World) (host : String) (s : Slot) (w' : World) (own : Handle) : Prop where
  steady : w'.Steady
  moves : Moves w.ledger w'.ledger
  aside : ∀ t i x, Moves (w.ledger.setErrand t i x) (w'.ledger.setErrand t i x)
  alive : Alive w'.flights own.ticket
  serves : Serves w'.flights own.ticket host s
  flying : (w'.engine host).flying s = some own.ticket
  clears : (w'.engine host).clears = (w.engine host).clears
  party : w'.party = w.party
  rest : ∃ pipelines flights journal, w' = { w with pipelines, flights, journal }

lemma steady_takeOff (h : w.Steady) (host : String) (s : Slot) :
    let flight : Flight := { work := { host, slot := s, target := (w.engine host).target s } }
    ({ w with flights := w.flights ++ [flight] }.setEngine host
      ((w.engine host).takeOff s w.flights.length)).Steady := by
  intro flight
  have hstay := stays_append w.flights [flight]
  have hnew : (w.flights ++ [flight])[w.flights.length]? = some flight := by simp
  have halive : ∀ i, Alive w.flights i → Alive (w.flights ++ [flight]) i := by
    rintro i ⟨g, hg, hs⟩
    exact ⟨g, (List.getElem?_append_left (List.getElem?_eq_some_iff.mp hg).1).trans hg, hs⟩
  have hengine : ∀ host' s' i,
      (({ w with flights := w.flights ++ [flight] }.setEngine host
        ((w.engine host).takeOff s w.flights.length)).engine host').flying s' = some i →
      (host' = host ∧ s' = s ∧ i = w.flights.length) ∨ (w.engine host').flying s' = some i := by
    intro host' s' i hf
    rw [engine_setEngine] at hf
    by_cases hh : host = host'
    · rw [if_pos hh, Engine.flying_takeOff] at hf
      by_cases hs : s = s'
      · rw [if_pos hs] at hf
        exact .inl ⟨hh.symm, hs.symm, (Option.some.inj hf).symm⟩
      · rw [if_neg hs] at hf
        rw [← hh]
        exact .inr hf
    · rw [if_neg hh] at hf
      exact .inr hf
  exact {
    tasks := fun t task ht => (h.tasks t task ht).mono (fun _ he => he) hstay
    flights := by
      intro i g hg
      rcases getElem?_concat_cases hg with hg | ⟨-, rfl⟩
      · exact h.flights i g hg
      · exact { broken := by rintro ⟨⟩, sound := True.intro, yields := (by rintro _ ⟨⟩) }
    runs := h.runs
    callbacks := h.callbacks
    shelf := h.shelf
    driven := by
      intro i hi
      obtain ⟨g, hg, hs⟩ := h.driven i hi
      exact ⟨g, (List.getElem?_append_left (List.getElem?_eq_some_iff.mp hg).1).trans hg, hs⟩
    nodup := h.nodup
    linked := by
      refine linked_congr (j := w.job) rfl ?_ h.linked
      intro i hi
      obtain ⟨g, hg, -⟩ := h.driven i hi
      exact ⟨g, g, hg,
        (List.getElem?_append_left (List.getElem?_eq_some_iff.mp hg).1).trans hg, rfl⟩
    flying := by
      intro host' s' i hi
      rcases hengine host' s' i hi with ⟨rfl, rfl, rfl⟩ | hold
      · exact ⟨flight, hnew, rfl, rfl⟩
      · exact (h.flying host' s' i hold).stays hstay
    safe := by
      rintro i (⟨g, hg, hfly⟩ | hh | ⟨g, hm, own, ho, rfl⟩)
      · rcases getElem?_concat_cases hg with hg | ⟨rfl, rfl⟩
        · rcases hengine _ _ i hfly with ⟨-, -, rfl⟩ | hold
          · exact ⟨flight, hnew, by rintro ⟨⟩⟩
          · exact halive i (h.safe i (.inl ⟨g, hg, hold⟩))
        · exact ⟨flight, hnew, by rintro ⟨⟩⟩
      · exact halive i (h.safe i (.inr (.inl hh)))
      · rcases List.mem_append.mp hm with hm | hm
        · exact halive _ (h.safe _ (.inr (.inr ⟨g, hm, own, ho, rfl⟩)))
        · rw [List.mem_singleton] at hm
          subst hm
          cases ho }

lemma joins (h : w.Steady) {host : String} {s : Slot} (hc : (w.engine host).cached s = none) :
    Joins w host s (w.join host s).1 (w.join host s).2 := by
  unfold join
  cases hf : (w.engine host).flying s with
  | some ticket =>
    simp only [hf]
    obtain ⟨f, hm, hhost, hslot⟩ := h.flying host s ticket hf
    refine ⟨h, .refl _, fun _ _ _ => .refl _, h.safe ticket (.inl ⟨f, hm, ?_⟩),
      ⟨f, hm, hhost, hslot⟩, hf, rfl, rfl, _, _, _, rfl⟩
    rw [hhost, hslot]
    exact hf
  | none =>
    simp only [hf]
    have hsteady := steady_takeOff h host s
    have hnew : (w.flights ++ [({ work := { host, slot := s, target := (w.engine host).target s } } :
        Flight)])[w.flights.length]? =
          some { work := { host, slot := s, target := (w.engine host).target s } } := by simp
    have hl : (({ w with flights := w.flights ++ [({ work :=
          { host, slot := s, target := (w.engine host).target s } } : Flight)] }.setEngine host
          ((w.engine host).takeOff s w.flights.length)).log
          (.takenOff host s w.flights.length)).ledger = w.ledger.takeOff host s := by
      rw [ledger_log, ledger_setEngine]
      unfold Ledger.takeOff
      simp only [ledger, List.map_append, List.map_cons, List.map_nil, List.length_map]
      rfl
    refine ⟨hsteady.log _, ?_, fun t i x => ?_, ⟨_, hnew, by rintro ⟨⟩⟩, ⟨_, hnew, rfl, rfl⟩,
      ?_, ?_, ?_, _, _, _, rfl⟩
    · rw [hl]
      exact .single (.takeOff host s hc hf)
    · rw [hl]
      exact .single (.takeOff (b := w.ledger.setErrand t i x) host s hc hf)
    · show (engine (setEngine _ _ _) host).flying s = _
      rw [engine_setEngine, if_pos rfl, Engine.flying_takeOff, if_pos rfl]
    · show (engine (setEngine _ _ _) host).clears = _
      rw [engine_setEngine, if_pos rfl]
      rfl
    · rw [party_eq, party_eq]
      show partyAt (w.flights ++ _) w.job w.driving = _
      cases hd : w.driving with
      | nil => rfl
      | cons i outer =>
        obtain ⟨g, hg, -⟩ := h.driven i (by simp [hd])
        simp only [partyAt,
          List.getElem?_append_left (List.getElem?_eq_some_iff.mp hg).1]

/-- The party that waits for a flight keeps its seat there. -/
lemma keep_spec (h : w.Steady) (own' : Handle) {own : Handle}
    (ha : w.party.awaits = some own.ticket) (ht : own'.ticket = own.ticket) :
    ∃ p, w.keep own' = w.setParty p ∧ p.Succeeds w.party ∧ p.Sits w.flights ∧
      p.awaits = some own.ticket ∧ ∀ e, p = .emission e → ∃ e', w.party = .emission e' ∧
        e.errand = e'.errand ∧ e.progress.phase.isOpen = true := by
  have hs := h.sits
  unfold keep
  cases hp : w.party with
  | work k =>
    rw [hp] at ha hs
    obtain ⟨hsound, halive⟩ := hs
    cases hst : k.stage with
    | asking own₀ rest =>
      simp only [Party.awaits, Party.share?, Work.share?, hst, Option.map_some,
        Option.some.injEq] at ha
      simp only [Work.Sound, hst] at hsound
      refine ⟨.work { k with stage := .asking own' rest }, by simp only [hst]; rfl, ⟨rfl, rfl, rfl⟩,
        ⟨hsound, ?_⟩, by simp [Party.awaits, Party.share?, Work.share?, ht], by rintro _ ⟨⟩⟩
      rintro own'' heq
      cases heq
      rw [ht, ← ha]
      exact halive own₀ (by simp [Work.share?, hst])
    | _ => simp [Party.awaits, Party.share?, Work.share?, hst] at ha
  | emission e =>
    rw [hp] at ha hs
    cases hpr : e.progress with
    | waiting pass clears own₀ =>
      simp only [Party.awaits, Party.share?, Emission.share?, hpr, Option.map_some,
        Option.some.injEq] at ha
      refine ⟨.emission { e with progress := .waiting pass clears own' }, by simp only [hpr]; rfl,
        ⟨rfl, rfl⟩, ?_, by simp [Party.awaits, Party.share?, Emission.share?, ht], ?_⟩
      · rintro own'' heq
        cases heq
        rw [ht, ← ha]
        exact hs own₀ (by simp [Emission.share?, hpr])
      · intro e' he'
        cases he'
        exact ⟨e, rfl, by simp [Emission.errand, hpr, Progress.phase, ht, ha], rfl⟩
    | _ => simp [Party.awaits, Party.share?, Emission.share?, hpr] at ha
  | output host s own₀ =>
    rw [hp] at ha hs
    simp only [Party.awaits, Party.share?, Option.map_eq_some_iff] at ha
    obtain ⟨own₁, rfl, ha⟩ := ha
    refine ⟨.output host s (some own'), rfl, ⟨rfl, rfl⟩, ?_,
      by simp [Party.awaits, Party.share?, ht], by rintro _ ⟨⟩⟩
    rintro own'' heq
    cases heq
    rw [ht, ← ha]
    exact hs own₁ rfl
  | nobody =>
    rw [hp] at ha
    cases ha

/-- The innermost party drives an idle flight that it waits for. -/
lemma steady_drive (h : w.Steady) (seats : Seats) {ticket : Nat} {f : Flight}
    (ha : w.party.awaits = some ticket) (hf : w.flights[ticket]? = some f)
    (hs : f.status = .idle) :
    { w.setFlight ticket { f with seats, status := .driven } with
      driving := ticket :: w.driving }.Steady := by
  have htidy := h.flights ticket f hf
  have hnew : ticket ∉ w.driving := by
    intro hm
    obtain ⟨g, hg, hd⟩ := h.driven ticket hm
    rw [hf] at hg
    cases hg
    rw [hs] at hd
    cases hd
  refine h.setFlight _ hf rfl rfl ⟨by rintro ⟨⟩, htidy.sound, by rintro _ ⟨⟩⟩ ?_
    (List.nodup_cons.mpr ⟨hnew, h.nodup⟩)
    ⟨?_, linked_set (fun hm => hnew (List.mem_of_mem_tail hm)) h.linked⟩ (by rintro ⟨⟩) ?_
  · intro i hi
    rcases List.mem_cons.mp hi with rfl | hi
    · exact .inl ⟨rfl, rfl⟩
    · exact .inr ⟨fun heq => hnew (heq ▸ hi), hi⟩
  · rw [partyAt_set, ← party_eq]
    · exact ha
    · intro hh
      exact hnew (List.mem_of_mem_head? hh)
  · intro own ho
    exact h.safe _ (.inr (.inr ⟨f, List.mem_of_getElem? hf, own, ho, rfl⟩))

/-- To keep a share changes nothing but the party that waits. -/
lemma keep_seated (h : w.Steady) (hs : w.Silent) {own : Handle} (seat : Option Nat)
    (ha : w.party.awaits = some own.ticket) {f g : Flight} (hf : w.flights[own.ticket]? = some f)
    (hg : (w.keep { own with seat }).flights[own.ticket]? = some g) :
    (w.keep { own with seat }).Steady ∧ (w.keep { own with seat }).Silent ∧
      (w.keep { own with seat }).ledger = w.ledger ∧
      (w.keep { own with seat }).party.awaits = some own.ticket ∧ g.status = f.status := by
  obtain ⟨p, hkeep, hsucc, hsits, hpa, hem⟩ := keep_spec h { own with seat } ha rfl
  obtain ⟨f₁, hf₁, hst₁, -⟩ := flight_setParty h hsucc hf
  rw [hkeep] at hg ⊢
  rw [hf₁] at hg
  cases hg
  have hparty := (setParty_frame h hsucc).1
  refine ⟨h.setParty hsucc hsits, ?_, ?_, by rw [hparty, hpa], hst₁⟩
  · exact silent_setParty h hs.hushed hsucc fun e he => (hem e he).elim fun _ hx => hx.2.2
  · exact ledger_setParty_same h hsucc fun e he => (hem e he).elim fun e' hx => ⟨e', hx.1, hx.2.1⟩

lemma PollsFlight.goes {own : Handle} (hp : w.PollsFlight own w') (h : w.Steady)
    (ha : w.Aimed (.poll own)) : Goes w w' := by
  obtain ⟨hsilent, hawaits⟩ := ha
  cases hp with
  | misses => exact ⟨h.poised (f := .stall) hsilent, .refl _⟩
  | answers hf hs =>
    exact ⟨h.poised (f := .answer _) ⟨hsilent, own.ticket, _, hawaits, hf, hs⟩, .refl _⟩
  | @drives f g seat seats hf hs hsit hg =>
    obtain ⟨h₁, hsilent₁, hl₁, hpa, hst⟩ := keep_seated h hsilent (some seat) hawaits hf hg
    have hdrive := steady_drive h₁ seats hpa hg (hst.trans hs)
    refine ⟨hdrive.poised (f := .work) hsilent₁, ?_⟩
    show Moves w.ledger ((w.keep _).setFlight own.ticket _).ledger
    rw [ledger_setFlight hg, hl₁]
    · exact .refl _
    · unfold Flight.departure
      rw [hst, hs]
      rfl
  | @breaks f g seat seats hf hs hsit hg =>
    obtain ⟨h₁, hsilent₁, hl₁, -, -⟩ := keep_seated h hsilent (some seat) hawaits hf hg
    have hseats := fadingUnheld_setFlight (w.keep _) own.ticket hg (.inl ⟨seats, rfl⟩) .inl
    refine ⟨((h₁.fades hseats).log _).poised (f := .panic _)
      ⟨(silent_fades hseats.toFading hsilent₁).hushed, _, _, _, rfl⟩, ?_⟩
    show Moves w.ledger (((w.keep _).setFlight own.ticket { g with seats }).log _).ledger
    rw [ledger_log, ledger_fades hseats.toFading, hl₁]
    exact .single (.panic .former _ (fun _ => (h.flights own.ticket f hf).broken hs) (by rintro ⟨⟩)
      fun _ => silent_ledger hsilent)
  | @waits f g seat seats hf hs hsit hg =>
    obtain ⟨h₁, hsilent₁, hl₁, -, -⟩ := keep_seated h hsilent (some seat) hawaits hf hg
    have hseats := fadingUnheld_setFlight (w.keep _) own.ticket hg (.inl ⟨seats, rfl⟩) .inl
    refine ⟨(h₁.fades hseats).poised (f := .stall) (silent_fades hseats.toFading hsilent₁), ?_⟩
    rw [ledger_aim, ledger_fades hseats.toFading, hl₁]
    exact .refl _

/-- The innermost work goes to another stage. -/
lemma steady_setWork (h : w.Steady) {k : Work} (hp : w.party = .work k) (stage : Stage)
    (hsound : Work.Sound { k with stage })
    (halive : ∀ own, Work.share? { k with stage } = some own → Alive w.flights own.ticket) :
    (w.setWork { k with stage }).Steady ∧
      (w.setWork { k with stage }).party = .work { k with stage } ∧
      (w.setWork { k with stage }).ledger = w.ledger := by
  have hsucc : (Party.work { k with stage }).Succeeds w.party := by
    rw [hp]
    exact ⟨rfl, rfl, rfl⟩
  exact ⟨h.setParty hsucc ⟨hsound, halive⟩, (setParty_frame h hsucc).1,
    ledger_setParty h hsucc (by rintro _ ⟨⟩)⟩

lemma silent_setWork (h : w.Steady) (hs : w.Silent) {k : Work} (hp : w.party = .work k)
    (stage : Stage) : (w.setWork { k with stage }).Silent := by
  have hsucc : (Party.work { k with stage }).Succeeds w.party := by
    rw [hp]
    exact ⟨rfl, rfl, rfl⟩
  exact silent_setParty h hs.hushed hsucc (by rintro _ ⟨⟩)

lemma ResumesWork.goes (hr : w.ResumesWork w') (h : w.Steady) (ha : w.Aimed .work)
    (hb : w.Begins) : Goes w w' := by
  have haway : ∀ k, w.party = .work k → (w.setWork { k with stage := .away }).Steady ∧
      (w.setWork { k with stage := .away }).party = .work { k with stage := .away } ∧
      (w.setWork { k with stage := .away }).ledger = w.ledger := fun k hp =>
    steady_setWork h hp .away True.intro fun own ho => by cases ho
  cases hr with
  | @begins k n schema hp hs ht =>
    obtain ⟨h₁, hparty, hl₁⟩ := haway k hp
    have hs₁ := silent_setWork h ha hp .away
    refine ⟨(h₁.log _).poised (f := .make _) ⟨hs₁, _, hparty, n, schema, ht, .refl _⟩, ?_⟩
    have hlog : ((w.setWork { k with stage := .away }).log (.begun k.host k.slot w.ticket?)).ledger =
        w.ledger.log (.begun k.host k.slot w.ticket?) := by
      rw [ledger_log, hl₁]
    show Moves w.ledger ((w.setWork { k with stage := .away }).log _).ledger
    rw [hlog]
    cases htick : w.ticket? with
    | none => exact moves_log (w := w) rfl
    | some ticket =>
      obtain ⟨past, hj⟩ := hb k ticket hp hs htick
      exact .single (Move.begin (b := w.ledger) k.host k.slot ticket ⟨past, hj⟩)
  | @misses k f hp hs ht =>
    obtain ⟨h₁, hparty, hl₁⟩ := haway k hp
    have hs₁ := silent_setWork h ha hp .away
    refine ⟨h₁.poised (f := .made _) ⟨hs₁, _, hparty, .inl ⟨f, ht, rfl⟩⟩, ?_⟩
    rw [ledger_aim, hl₁]
    exact .refl _
  | @opened k valve rest v o hp hs hv ho =>
    obtain ⟨h₁, hparty, hl₁⟩ := haway k hp
    have hs₁ := silent_setWork h ha hp .away
    have hsound : k.Sound := by
      have hsits := h.sits
      rw [hp] at hsits
      exact hsits.1
    unfold Work.Sound at hsound
    rw [hs] at hsound
    refine ⟨h₁.poised (f := .make _) ⟨hs₁, _, hparty, hsound o⟩, ?_⟩
    rw [ledger_aim, hl₁]
    exact .refl _
  | waits => exact ⟨h.rest.poised (f := .stall) ha, .refl _⟩
  | @polls k own rest hp hs =>
    have hawaits : w.party.awaits = some own.ticket := by
      rw [hp]
      simp [Party.awaits, Party.share?, Work.share?, hs]
    exact ⟨h.poised (f := .poll own) ⟨ha, hawaits⟩, .refl _⟩
  | stalls => exact ⟨h.poised (f := .stall) ha, .refl _⟩

lemma goes_breakDown (h : w.Steady) (hh : w.Hushed) (source : PanicSource) (text : String)
    (hformer : source = .former → Journal.Panicked w.journal)
    (hengine : source = .engine → ∃ t i x pass, w.ledger.errand? t i = some x ∧
      x.phase = .ready pass (w.engine x.host).clears ∧ (w.engine x.host).cached x.slot = none)
    (hsilent : source ≠ .subscriber → w.Silent) : Goes w (w.breakDown source text) :=
  ⟨(h.log _).poised (f := .panic text) ⟨hh, source, text, w.journal, rfl⟩,
    .single (.panic source text hformer hengine fun hs => silent_ledger (hsilent hs))⟩

lemma MakesRecipe.goes {r : Recipe} (hr : w.MakesRecipe r w') (h : w.Steady)
    (ha : w.Aimed (.make r)) : Goes w w' := by
  obtain ⟨hs, k, hp, n, schema, ht, hleads⟩ := ha
  have hwork : ∀ k', w.party = .work k' → k' = k := fun k' hp' => by
    rw [hp] at hp'
    cases hp'
    rfl
  cases hr with
  | @finishes k' handed c hp' hj =>
    cases hwork k' hp'
    exact ⟨(h.log _).poised (f := .made c) ⟨hs, k, hp, .inr ⟨handed, ⟨n, schema, ht, hleads⟩, hj⟩⟩,
      moves_log rfl⟩
  | @misfits k' handed text hp' hj =>
    have hlog : Moves w.ledger (w.log (.handed k'.host k'.slot w.ticket? handed)).ledger :=
      moves_log rfl
    have hg := goes_breakDown (h.log (.handed k'.host k'.slot w.ticket? handed)) hs.hushed
      .node text (by rintro ⟨⟩) (by rintro ⟨⟩) fun _ => hs
    exact ⟨hg.poised, hlog.trans hg.moves⟩
  | crashes =>
    exact goes_breakDown h hs.hushed .node _ (by rintro ⟨⟩) (by rintro ⟨⟩) fun _ => hs
  | peeks => exact ⟨h.poised (f := .make _) ⟨hs, k, hp, n, schema, ht, .peek _ hleads⟩, .refl _⟩
  | announces =>
    exact ⟨(h.log _).poised (f := .make _) ⟨hs, k, hp, n, schema, ht, .announce hleads⟩,
      moves_log rfl⟩
  | @holds k' what rest hp' =>
    cases hwork k' hp'
    have h₁ : ({ w with valves := w.valves ++ [({} : Valve)] }.log
        (.producing what (some w.valves.length))).Steady := h.rest.log _
    obtain ⟨h₂, hparty, hl⟩ := steady_setWork h₁ hp (.held w.valves.length rest)
      (fun o => ⟨n, schema, ht, .hold o hleads⟩) fun own ho => by cases ho
    have hs₂ := silent_setWork h₁ hs hp (.held w.valves.length rest)
    refine ⟨h₂.poised (f := .work) hs₂, ?_⟩
    rw [ledger_aim, hl]
    exact moves_log rfl
  | finds => exact ⟨h.poised (f := .make _) ⟨hs, k, hp, n, schema, ht, .ask _ hleads⟩, .refl _⟩
  | @asks k' host slot rest hp' hc =>
    cases hwork k' hp'
    have hj := joins h hc
    rcases hjoin : w.join host slot with ⟨v, own⟩
    rw [hjoin] at hj
    have hpv : v.party = .work k := hj.party.trans hp
    have hsv : v.Silent := by
      obtain ⟨_, _, _, rfl⟩ := hj.rest
      exact hs
    obtain ⟨h₂, hparty, hl⟩ := steady_setWork hj.steady hpv (.asking own rest)
      (fun c => ⟨n, schema, ht, .ask c hleads⟩) fun own' ho => by cases ho; exact hj.alive
    have hs₂ := silent_setWork hj.steady hsv hpv (.asking own rest)
    refine ⟨h₂.poised (f := .poll own) ⟨hs₂, by rw [hparty]; rfl⟩, ?_⟩
    rw [ledger_aim, hl]
    exact hj.moves
  | stalls hn => exact absurd hp (hn k)

lemma FadingUnheld.redrive (h : FadingUnheld w w') (driving : List Nat) :
    FadingUnheld { w with driving } { w' with driving } where
  rest := by
    obtain ⟨_, _, _, _, rfl⟩ := h.rest
    exact ⟨_, _, _, _, rfl⟩
  tasks := h.tasks
  length := h.length
  flights := h.flights
  queue := fun hq => (h.queue (hq.same rfl rfl rfl)).same rfl rfl rfl
  lost := h.lost

lemma steady_land (h : w.Steady) {ticket : Nat} {outer : List Nat} {f : Flight} {r : Result}
    (hd : w.driving = ticket :: outer) (hf : w.flights[ticket]? = some f)
    (hy : f.work.Yields r.content) :
    { w.setFlight ticket { f with status := .landed r, seats := {} } with
      driving := outer }.Steady := by
  have hn := h.nodup
  have hl := h.linked
  rw [hd] at hl
  rw [hd, List.nodup_cons] at hn
  have htidy := h.flights ticket f hf
  refine h.setFlight _ hf rfl rfl ⟨by rintro ⟨⟩, htidy.sound, ?_⟩ ?_ hn.2
    (linked_set (fun hm => hn.1 (List.mem_of_mem_tail hm)) hl.2) (by rintro ⟨⟩) ?_
  · rintro r' hr
    cases hr
    exact hy
  · intro i hi
    refine .inr ⟨?_, by rw [hd]; exact List.mem_cons_of_mem _ hi⟩
    rintro rfl
    exact hn.1 hi
  · intro own ho
    exact h.safe _ (.inr (.inr ⟨f, List.mem_of_getElem? hf, own, ho, rfl⟩))

/-- The flight being driven lands, and its result goes to whoever drove it. -/
lemma lands (h : w.Steady) (hs : w.Silent) {ticket : Nat} {outer : List Nat} {f : Flight}
    {r : Result} (hd : w.driving = ticket :: outer) (hf : w.flights[ticket]? = some f)
    (hy : f.work.Yields r.content) :
    { w.land ticket f r with driving := outer }.Steady ∧
      { w.land ticket f r with driving := outer }.Aimed (.answer r) := by
  have hl := h.linked
  rw [hd] at hl
  have h₁ := (h.setEngine (i := f.work.host)
    (e := (w.engine f.work.host).land f.work.slot ticket r) fun s i hi => by
      rw [Engine.flying_land, Option.ite_none_left_eq_some] at hi
      exact hi.2).log (.landed f.work.host f.work.slot ticket r
        ((w.engine f.work.host).flying f.work.slot = some ticket))
  have h₂ := steady_land h₁ hd hf hy
  have hkin := (fadingUnheld_wake (((w.setEngine f.work.host ((w.engine f.work.host).land f.work.slot ticket
    r)).log (.landed f.work.host f.work.slot ticket r
      ((w.engine f.work.host).flying f.work.slot = some ticket))).setFlight ticket
        { f with status := .landed r, seats := {} }) f.seats.waiters).redrive outer
  refine ⟨h₂.fades hkin, silent_fades hkin.toFading hs, ?_⟩
  have hnew : (w.flights.set ticket { f with status := .landed r, seats := {} })[ticket]? =
      some { f with status := .landed r, seats := {} } :=
    List.getElem?_set_self (List.getElem?_eq_some_iff.mp hf).1
  obtain ⟨f', hf', -⟩ := stays_of_fading hkin.toFading ticket _ hnew
  refine ⟨ticket, f', ?_, hf', ?_⟩
  · refine (congrArg Party.awaits (party_fades h₂ hkin.toFading)).trans ?_
    rw [party_eq]
    show (partyAt (w.flights.set ticket _) w.job outer).awaits = _
    rw [partyAt_set]
    · exact hl.1
    · intro hh
      have hn := h.nodup
      rw [hd, List.nodup_cons] at hn
      exact hn.1 (List.mem_of_mem_head? hh)
  · rcases hkin.flights ticket _ f' hnew hf' with ⟨seats, rfl⟩ | ⟨hi, -⟩
    · rfl
    · cases hi

lemma ledger_land {ticket : Nat} {f : Flight} (c : Content) :
    ({ w with nextResult := w.nextResult + 1 }.land ticket f ⟨w.nextResult, c⟩).ledger =
      w.ledger.land ticket f.departure c := by
  unfold land
  rw [ledger_fades (fadingUnheld_wake _ _).toFading]
  have hlast : ∀ w₁ : World, (w₁.setFlight ticket
      { f with status := .landed ⟨w.nextResult, c⟩, seats := {} }).ledger =
        { w₁.ledger with flights := (w₁.flights.set ticket
            { f with status := .landed ⟨w.nextResult, c⟩, seats := {} }).map Flight.departure } :=
    fun _ => rfl
  rw [hlast, ledger_log, ledger_setEngine, List.map_set]
  rfl

lemma FinishesWork.goes {c : Content} (hw : w.FinishesWork c w') (h : w.Steady)
    (ha : w.Aimed (.made c)) : Goes w w' := by
  obtain ⟨hs, k, hp, hy⟩ := ha
  have hnext : ({ w with nextResult := w.nextResult + 1 } : World).Steady := h.rest
  cases hw with
  | ends hd =>
    have hj : w.job = .work k := by
      rw [party_eq, hd] at hp
      exact Job.eq_of_party_work hp
    have hend : w.MayEnd (.result ⟨w.nextResult, c⟩) := by
      refine ⟨by rintro ⟨⟩, by rintro _ ⟨⟩, fun _ i => ?_, fun _ t ht => ?_⟩
      · rw [hj]
        rfl
      · rw [hj] at ht
        cases ht
    refine ⟨hnext.poised (f := .finish _) ⟨hs, hd, hend.cancelled, hend.panicked, hend.finished,
      hend.followed⟩, ?_⟩
    exact .single (.quiet ⟨rfl, rfl, fun host => .refl _, rfl, rfl, fun _ _ hm => .inl hm,
      Nat.le_refl _, Nat.le_succ _, [], rfl, by simp⟩)
  | @misses ticket outer hd hn =>
    obtain ⟨f, hf, -⟩ := h.driven ticket (by simp [hd])
    rw [hn] at hf
    cases hf
  | @lands ticket outer f hd hf =>
    obtain ⟨f', hf', hst⟩ := h.driven ticket (by simp [hd])
    rw [hf] at hf'
    cases hf'
    have hpf : f.work = k := by
      rw [party_eq, hd] at hp
      simp only [partyAt, hf] at hp
      exact Party.work.inj hp
    obtain ⟨h₁, ha₁⟩ :=
      World.lands (r := ⟨w.nextResult, c⟩) hnext hs hd hf (by rw [hpf]; exact hy)
    refine ⟨h₁.poised ha₁, ?_⟩
    have hl : ({ { w with nextResult := w.nextResult + 1 }.land ticket f ⟨w.nextResult, c⟩ with
        driving := outer }.aim (.answer ⟨w.nextResult, c⟩)).ledger =
          w.ledger.land ticket f.departure c := ledger_land c
    rw [hl]
    refine .single (.land ticket f.departure c (flights_ledger hf) ?_)
    unfold Flight.departure
    rw [hst]
    rfl

lemma HandsAnswer.goes {r : Result} (hw : w.HandsAnswer r w') (h : w.Steady)
    (ha : w.Aimed (.answer r)) : Goes w w' := by
  obtain ⟨hs, ticket, f, hawaits, hf, hst⟩ := ha
  have hsits := h.sits
  cases hw with
  | @resumes k own rest hp hstage =>
    rw [hp] at hsits
    obtain ⟨h₁, hparty, hl⟩ :=
      steady_setWork h hp .away True.intro fun own ho => by cases ho
    have hs₁ := silent_setWork h hs hp .away
    have hsound := hsits.1
    unfold Work.Sound at hsound
    rw [hstage] at hsound
    refine ⟨h₁.poised (f := .make _) ⟨hs₁, _, hparty, hsound r.content⟩, ?_⟩
    rw [ledger_aim, hl]
    exact .refl _
  | @readies e pass clears own hp hpr =>
    rw [hp] at hawaits
    obtain ⟨host, slot, progress⟩ := e
    cases hpr
    have hsucc : (Party.emission ⟨host, slot, .ready pass clears⟩).Succeeds w.party := by
      rw [hp]
      exact ⟨rfl, rfl⟩
    have h₁ := h.setParty hsucc fun own ho => by cases ho
    have hs₁ := silent_setParty h hs.hushed hsucc fun e he => by cases he; rfl
    obtain ⟨hd, t, hr, hm⟩ := emission?_of_party h hp
    have hd₁ : (w.setParty (.emission ⟨host, slot, .ready pass clears⟩)).driving = [] := by
      obtain ⟨-, -, -, _, _, heq⟩ := setParty_frame h hsucc
      rw [heq]
      exact hd
    refine ⟨h₁.poised (f := .emission) ⟨hs₁.hushed, hd₁⟩, ?_⟩
    obtain ⟨t', hr', hl⟩ := ledger_setEmission h hsucc
    rw [hr] at hr'
    cases hr'
    show Moves w.ledger (w.setEmission ⟨host, slot, .ready pass clears⟩).ledger
    rw [hl]
    have hx : w.ledger.errand? t w.job.cursor =
        some ⟨host, slot, .waiting pass clears own.ticket⟩ := by
      rw [errand?_ledger, hm]
      rfl
    have hown : own.ticket = ticket := Option.some.inj hawaits
    refine .single (.advance t _ _ (.ready pass clears) hx
      (.answer pass clears own.ticket f.departure r rfl ?_ ?_))
    · rw [hown]
      exact flights_ledger hf
    · unfold Flight.departure
      rw [hst]
      rfl
  | @ends host s own hp =>
    have hd : w.driving = [] ∧ w.job = .output host s own := by
      rw [party_eq] at hp
      cases hd : w.driving with
      | nil =>
        rw [hd] at hp
        exact ⟨rfl, Job.eq_of_party_output hp⟩
      | cons i outer =>
        obtain ⟨g, hg, -⟩ := h.driven i (by simp [hd])
        rw [hd] at hp
        simp only [partyAt, hg] at hp
        cases hp
    have hend : w.MayEnd (.result r) := by
      refine ⟨by rintro ⟨⟩, by rintro _ ⟨⟩, fun _ i => ?_, fun _ t ht => ?_⟩
      · rw [hd.2]
        rfl
      · rw [hd.2] at ht
        cases ht
    exact ⟨h.poised (f := .finish _) ⟨hs, hd.1, hend⟩, .refl _⟩
  | stalls => exact ⟨h.poised (f := .stall) hs, .refl _⟩

end World

end Dataflow
