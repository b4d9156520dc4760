import Dataflow.Proofs.Returns

/-!
# Flights that break

A flight leaves the table of those in flight when it lands, in code that runs after its node has handed
something over. A panic of the node gets past that code: the flight is broken, and it stays in the
table until the slot is cleared. Whoever wants the slot meanwhile shares in the broken flight.
-/

namespace Dataflow

def Focus.isPanic : Focus → Bool
  | .panic _ => true
  | _ => false

def Outcome.isValue : Outcome → Bool
  | .value _ => true
  | _ => false

lemma Outcome.eq_of_isValue {o : Outcome} (h : o.isValue = true) : ∃ p, o = .value p := by
  cases o with
  | value p => exact ⟨p, rfl⟩
  | _ => cases h

namespace Event

def isPanickedEnd (t : Nat) (name : Option String) (text : String) : Event → Bool
  | .ended u n (.panicked message) => u == t && n == name && message == text
  | _ => false

lemma eq_of_isPanickedEnd {t : Nat} {name : Option String} {text : String} {e : Event}
    (h : e.isPanickedEnd t name text = true) : e = .ended t name (.panicked text) := by
  cases e with
  | ended u n how =>
    cases how with
    | panicked message =>
      simp only [isPanickedEnd, Bool.and_eq_true, beq_iff_eq] at h
      obtain ⟨⟨rfl, rfl⟩, rfl⟩ := h
      rfl
    | _ => cases h
  | _ => cases h

end Event

namespace Journal

/-- A node has panicked, or the schema that its output was held against. -/
def Crashed (l : List Event) : Prop := ∃ text, .panicked .node text ∈ l

lemma Crashed.mono {l l' : List Event} (h : Crashed l) (hl : l <:+ l') : Crashed l' := by
  obtain ⟨text, hm⟩ := h
  exact ⟨text, hl.subset hm⟩

end Journal

open Journal

namespace World

variable {w w' : World} {host : String} {slot : Slot} {ticket : Nat}

/-- What is broken, or about to break, goes back to the panic of a node. -/
structure Accounted (w : World) : Prop where
  broken : ∀ (ticket : Nat) f, w.flights[ticket]? = some f → f.status = .broken → Crashed w.journal
  panicking : w.focus.isPanic = true → w.driving ≠ [] → Crashed w.journal

lemma Accounted.advances (h : w.Accounted) (ha : Advances w w')
    (hp : w'.focus.isPanic = true → w'.driving ≠ [] → Crashed w'.journal) : w'.Accounted := by
  refine ⟨fun ticket f' hf' hb => ?_, hp⟩
  cases hf : w.flights[ticket]? with
  | none => exact absurd hb (ha.young ticket f' hf' hf).broken
  | some f =>
    obtain ⟨g, hg, hc⟩ := ha.flights ticket f hf
    rw [hf'] at hg
    cases hg
    rcases hc.breaks hb with hb | ⟨ht, text, hpanic⟩
    · exact (h.broken ticket f hf hb).mono ha.journal
    · refine (h.panicking (by rw [hpanic]; rfl) fun hd => ?_).mono ha.journal
      rw [ticket?, hd] at ht
      cases ht

lemma ResumesWork.isPanic (hr : w.ResumesWork w') : w'.focus.isPanic = false := by
  cases hr <;> rfl

lemma FinishesWork.isPanic {c : Content} (hf : w.FinishesWork c w') : w'.focus.isPanic = false := by
  cases hf <;> rfl

lemma HandsAnswer.isPanic {r : Result} (ha : w.HandsAnswer r w') : w'.focus.isPanic = false := by
  cases ha <;> rfl

lemma Stalls.isPanic (hs : w.Stalls w') : w'.focus.isPanic = false := by
  cases hs with
  | flight | misses | branch => rfl
  | task _ _ hp => rcases hp.focus with hf | hf <;> rw [hf] <;> rfl

/-- A recipe that breaks down is the panic of a node. -/
lemma MakesRecipe.crashed {r : Recipe} (hm : w.MakesRecipe r w') (hp : w'.focus.isPanic = true) :
    Crashed w'.journal := by
  cases hm with
  | misfits | crashes => exact ⟨_, List.mem_cons_self⟩
  | finishes | peeks | announces | holds | finds | asks | stalls => cases hp

/-- A flight panics again when it is polled after it broke. -/
lemma PollsFlight.crashed {own : Handle} (hpoll : w.PollsFlight own w') (h : w.Accounted)
    (hp : w'.focus.isPanic = true) : Crashed w.journal := by
  cases hpoll with
  | breaks hf hs => exact h.broken own.ticket _ hf hs
  | misses | answers | drives | waits => cases hp

/-- Flights are driven no longer when the panic has gone through all of them. -/
lemma Unwinds.driving {text : String} (hu : w.Unwinds text w') (hd : w.driving = []) :
    w'.driving = [] := by
  have hforget := w.forgetsParty.keepsDriving.driving.trans hd
  cases hu with
  | breaks hd' => cases hforget.symm.trans hd'
  | misses hd' => cases hforget.symm.trans hd'
  | ends => exact hforget

/-- Wherever flights are about to break, a node has panicked. -/
lemma crashed_step (h : w.Accounted) (hs : w.Sane) (hd : w.Due)
    (hp : w.step.focus.isPanic = true) (hne : w.step.driving ≠ []) : Crashed w.step.journal := by
  have ha := hs.poised.aimed
  cases hf : w.focus with
  | work =>
    simp only [World.step, hf, w.resumesWork.isPanic] at hp
    cases hp
  | make r =>
    simp only [World.step, hf] at hp ⊢
    exact (w.makesRecipe r).crashed hp
  | made c =>
    simp only [World.step, hf, (w.finishesWork c).isPanic] at hp
    cases hp
  | poll own =>
    simp only [World.step, hf] at hp ha ⊢
    exact ((w.pollsFlight own).crashed h hp).mono ((w.pollsFlight own).noFurther ha.2).journal
  | answer r =>
    simp only [World.step, hf, (w.handsAnswer r).isPanic] at hp
    cases hp
  | stall =>
    simp only [World.step, hf, w.stalls.isPanic] at hp
    cases hp
  | panic text =>
    have hj := (advances_step hs.poised hd).journal
    simp only [World.step, hf] at hne hj ⊢
    cases hdr : w.driving with
    | nil => exact (hne ((w.unwinds text).driving hdr)).elim
    | cons ticket outer =>
      exact (h.panicking (by rw [hf]; rfl) (by rw [hdr]; exact List.cons_ne_nil _ _)).mono hj
  | _ => exact (hne (grounded_step hs hd (by rw [hf]; rfl))).elim

lemma Accounted.step (h : w.Accounted) (hs : w.Sane) (hd : w.Due) : w.step.Accounted :=
  h.advances (advances_step hs.poised hd) (crashed_step h hs hd)

/-- The flight is broken for good. -/
def Broken (w : World) (ticket : Nat) : Prop :=
  ∃ f, w.flights[ticket]? = some f ∧ f.status = .broken

lemma Broken.advances (h : w.Broken ticket) (ha : Advances w w') : w'.Broken ticket := by
  obtain ⟨f, hf, hb⟩ := h
  obtain ⟨f', hf', hc⟩ := ha.flights ticket f hf
  exact ⟨f', hf', hc.stays hb⟩

lemma Reachable.broken {start : World} (h : Reachable start w) (hs : start.Sane) (hd : start.Due)
    (hb : start.Broken ticket) : w.Broken ticket := by
  refine h.through.maintains (P := fun w => w.Broken ticket) hs hd hb (fun w w' hp hr _ => ?_)
    fun w hw hd _ hp => ?_
  · exact hp.advances hr.toNoFurther.advances
  · exact hp.advances (advances_step hw.poised hd)

/-- The slot is given up to a broken flight: nothing is cached, no other computation starts, and
whoever comes to share in this one panics in turn. -/
structure Wedged (w : World) (host : String) (slot : Slot) (ticket : Nat) : Prop where
  flying : (w.engine host).flying slot = some ticket
  cached : (w.engine host).cached slot = none
  broken : w.Broken ticket
  polled : ∀ own : Handle, own.ticket = ticket → w.focus = .poll own →
    w.step.focus = .panic "inner future panicked during poll"
  requested : w.focus = .resume → w.job = .output host slot none →
    w.step.step.focus = .panic "inner future panicked during poll"

lemma focus_pollFlight_of_broken (h : w.Broken ticket) (own : Handle) (ht : own.ticket = ticket) :
    (w.pollFlight own).focus = .panic "inner future panicked during poll" := by
  obtain ⟨f, hf, hb⟩ := h
  subst ht
  unfold pollFlight
  simp only [hf, hb]
  rfl

lemma wedged_of_broken (hf : (w.engine host).flying slot = some ticket)
    (hc : (w.engine host).cached slot = none) (hb : w.Broken ticket) : w.Wedged host slot ticket := by
  refine ⟨hf, hc, hb, fun own ht hp => ?_, fun hr hj => ?_⟩
  · unfold step
    simp only [hp]
    exact focus_pollFlight_of_broken hb own ht
  · have hstep : w.step = (w.setJob (.output host slot (some { ticket }))).aim (.poll { ticket }) := by
      unfold step resumeTask join
      simp only [hr, hj, hc, hf]
    obtain ⟨f, hfl, hs⟩ := hb
    have hb' : ((w.setJob (.output host slot (some { ticket }))).aim (.poll { ticket })).Broken
        ticket := ⟨f, (congrArg (·[ticket]?) (flights_setJob w _)).trans hfl, hs⟩
    rw [hstep]
    exact focus_pollFlight_of_broken hb' { ticket } rfl

/-- Until the slot is cleared, it stays given up to the broken flight. -/
lemma Sane.wedged (h : w.Sane) (hd : w.Due) (hf : (w.engine host).flying slot = some ticket)
    (hb : w.Broken ticket) (hr : Reachable w w') {later : List Event}
    (hj : w'.journal = later ++ w.journal) (hn : ∀ e ∈ later, e.clears host slot = false) :
    w'.Wedged host slot ticket := by
  have hb' := hr.broken h hd hb
  obtain ⟨h', -⟩ := hr.goes h
  have hflying : Journal.flying host slot w.journal = some ticket :=
    (h.sound.mirrors.flying host slot).symm.trans hf
  obtain ⟨mid, earlier, hsplit, hmid⟩ := Journal.flying_eq_some hflying
  have hlaw : Lawful w'.policy w'.journal := h'.sound.lawful
  have hwhole : w'.journal = (later ++ mid) ++ .takenOff host slot ticket :: earlier := by
    rw [hj, hsplit, List.append_assoc]
  rw [hwhole] at hlaw
  have hclear : ∀ e ∈ later ++ mid, e.clears host slot = false := fun e he =>
    (List.mem_append.mp he).elim (hn e) (hmid e)
  rcases hlaw.flying_or_landed hclear with hfl | ⟨r, -, hm⟩
  · have hfl' : (w'.engine host).flying slot = some ticket := by
      refine (h'.sound.mirrors.flying host slot).trans ?_
      show Journal.flying host slot w'.journal = _
      rw [hwhole]
      exact hfl
    have hc' : (w'.engine host).cached slot = none := by
      refine (h'.sound.mirrors.cached host slot).trans ?_
      show Journal.cached host slot w'.journal = _
      rw [hwhole]
      exact hlaw.cached_none_of_flying hfl
    exact wedged_of_broken hfl' hc' hb'
  · -- It cannot have landed, broken as it is.
    obtain ⟨f, hfl, hs⟩ := hb'
    obtain ⟨f', hfl', hs', -⟩ := h'.landed (by rw [hwhole]; exact List.mem_append_left _ hm)
    rw [hfl] at hfl'
    cases hfl'
    rw [hs] at hs'
    cases hs'

end World

namespace Scene

theorem accounted_of_reachable {s : Scene} {w : World} (h : World.Reachable s.opening w) :
    w.Accounted := by
  refine h.through.maintains (P := World.Accounted) s.sane_opening (World.due_of_isResult rfl)
    ⟨by rintro _ _ ⟨⟩, by rintro ⟨⟩⟩ (fun w w' hp hr hf => ?_) fun w hw hd _ hp => hp.step hw hd
  refine hp.advances hr.toNoFurther.advances fun hpanic => ?_
  cases hw : w'.focus with
  | panic text =>
    rw [hw] at hf
    cases hf
  | _ =>
    rw [hw] at hpanic
    cases hpanic

end Scene

namespace World

variable {w : World}

/-- What is in flight for a slot can still land, or a node has panicked and it keeps the slot until that
is cleared. -/
theorem entry_pending_or_wedged {sc : Scene} (h : Reachable sc.opening w) {host : String}
    {slot : Slot} {ticket : Nat} (hf : (w.engine host).flying slot = some ticket) :
    ∃ f, w.flights[ticket]? = some f ∧ f.work.host = host ∧ f.work.slot = slot ∧
      (f.status = .idle ∨ f.status = .driven ∨
        f.status = .broken ∧ Crashed w.journal ∧
          ∀ w' later, Reachable w w' → w'.journal = later ++ w.journal →
            (∀ e ∈ later, e.clears host slot = false) → w'.Wedged host slot ticket) := by
  have hs := Scene.sane_of_reachable h
  obtain ⟨f, hfl, hhost, hslot⟩ := hs.poised.steady.flying host slot ticket hf
  refine ⟨f, hfl, hhost, hslot, ?_⟩
  cases hst : f.status with
  | idle => exact .inl rfl
  | driven => exact .inr (.inl rfl)
  | broken =>
    exact .inr (.inr ⟨rfl, (Scene.accounted_of_reachable h).broken ticket f hfl hst,
      fun w' later hr hj hn => hs.wedged (Scene.due_of_reachable h) hf ⟨f, hfl, hst⟩ hr hj hn⟩)
  | lost =>
    have halive := hs.poised.steady.safe ticket (.inl ⟨f, hfl, by rw [hhost, hslot]; exact hf⟩)
    obtain ⟨g, hg, hlost⟩ := halive
    rw [hfl] at hg
    cases hg
    exact absurd hst hlost
  | landed r =>
    obtain ⟨d, hd, hnone, -⟩ := hs.sound.logged.flying host slot ticket hf
    obtain ⟨g, hg, rfl⟩ := departure_of_ledger hd
    rw [hfl] at hg
    cases hg
    have hsome : f.departure.landed = some r := Status.landed_iff.mp hst
    rw [hnone] at hsome
    cases hsome

/-- A node that panics until its cell holds a value. -/
def moodyNode : Node where
  id := "n"
  name := "n"
  outputs := NameMap.ofList [("o", ⟨fun _ => .accepted⟩)]
  produce _ := .peek "mood" fun
    | some (.value p) => .finish (.ok p)
    | _ => .crash "boom"

/-- A request that the node panics at, and another one when the node is well again. -/
def moody : List (Action × Nat) := [
  (.register "p" moodyNode "n", 0),
  (.output "p" "first" ⟨"n", "o"⟩, 30),
  (.setCell "mood" (.value (.text "a")), 0),
  (.output "p" "second" ⟨"n", "o"⟩, 30)]

def isBroken (w : World) (ticket : Nat) : Bool :=
  match w.flights[ticket]? with
  | some { status := .broken, .. } => true
  | _ => false

lemma broken_of_isBroken {ticket : Nat} (h : w.isBroken ticket = true) : w.Broken ticket := by
  unfold isBroken at h
  split at h
  · rename_i hf
    exact ⟨_, hf, rfl⟩
  · cases h

/-- The flight of the first request is in the way of the second one. -/
theorem entry_pending_or_wedged_moody : ∃ w, Reachable ({} : Scene).opening w ∧
    (w.engine "p").flying ⟨"n", "o"⟩ = some 0 ∧ ∃ f, w.flights[0]? = some f ∧
      f.work.host = "p" ∧ f.work.slot = ⟨"n", "o"⟩ ∧
      (f.status = .idle ∨ f.status = .driven ∨
        f.status = .broken ∧ Crashed w.journal ∧
          ∀ w' later, Reachable w w' → w'.journal = later ++ w.journal →
            (∀ e ∈ later, e.clears "p" ⟨"n", "o"⟩ = false) → w'.Wedged "p" ⟨"n", "o"⟩ 0) := by
  have hfacts : (({} : Scene).opening.rehearse moody).any
      (fun w => (w.engine "p").flying ⟨"n", "o"⟩ == some 0) = true := by decide +kernel
  obtain ⟨w, hw, hf⟩ := (Option.any_eq_true _ _).mp hfacts
  have hreach := reachable_rehearse .refl hw
  exact ⟨w, hreach, eq_of_beq hf, entry_pending_or_wedged hreach (eq_of_beq hf)⟩

/-- After a panic of its node what is in flight for a slot need not be able to complete: it is broken,
and a request panics that is made when the node is well again, without the node being asked. -/
theorem slot_wedged_by_panic : ∃ w p, Reachable ({} : Scene).opening w ∧ w.settled = true ∧
    (w.engine "p").flying ⟨"n", "o"⟩ = some 0 ∧ w.Broken 0 ∧
    w.cells.get? "mood" = some (.value p) ∧
    .ended 1 (some "second") (.panicked "inner future panicked during poll") ∈ w.journal ∧
    w.journal.countP (Event.isBeginning "p" ⟨"n", "o"⟩) = 1 ∧
    ∀ e ∈ w.journal, e.clears "p" ⟨"n", "o"⟩ = false := by
  have hfacts : (({} : Scene).opening.rehearse moody).any (fun w => w.settled &&
      (w.engine "p").flying ⟨"n", "o"⟩ == some 0 && w.isBroken 0 &&
      (w.cells.get? "mood").any Outcome.isValue &&
      w.journal.any (Event.isPanickedEnd 1 (some "second") "inner future panicked during poll") &&
      w.journal.countP (Event.isBeginning "p" ⟨"n", "o"⟩) == 1 &&
      w.journal.all fun e => !e.clears "p" ⟨"n", "o"⟩) = true := by decide +kernel
  obtain ⟨w, hw, hall⟩ := (Option.any_eq_true _ _).mp hfacts
  simp only [Bool.and_eq_true, beq_iff_eq, List.all_eq_true, Bool.not_eq_true'] at hall
  obtain ⟨⟨⟨⟨⟨⟨hidle, hf⟩, hb⟩, hc⟩, he⟩, hcount⟩, hclear⟩ := hall
  obtain ⟨o, ho, hv⟩ := (Option.any_eq_true _ _).mp hc
  obtain ⟨p, rfl⟩ := Outcome.eq_of_isValue hv
  obtain ⟨e, hm, hend⟩ := List.any_eq_true.mp he
  rw [Event.eq_of_isPanickedEnd hend] at hm
  exact ⟨w, p, reachable_rehearse .refl hw, hidle, hf, broken_of_isBroken hb, ho, hm, hcount,
    hclear⟩

end World

end Dataflow
