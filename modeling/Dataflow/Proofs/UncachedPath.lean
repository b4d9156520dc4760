import Dataflow.Proofs.Fulfilment

/-!
# Computing on one's own

A task that computes a slot on its own comes to the same content as one that asks for the shared
result at the same moment, and touches nothing that anybody else could see.
-/

namespace Dataflow

/-- A subscriber is called. -/
def Event.isCallback : Event → Bool
  | .called _ _ _ _ _ => true
  | _ => false

/-- What an event tells that a flight or a task has come to. -/
def Event.outcome? : Event → Option Result
  | .landed _ _ _ r _ => some r
  | .ended _ _ (.result r) => some r
  | _ => none

lemma Event.outcome?_eq_some {e : Event} {r : Result} (h : e.outcome? = some r) :
    (∃ host slot ticket kept, e = .landed host slot ticket r kept) ∨
      ∃ t name, e = .ended t name (.result r) := by
  cases e with
  | landed host slot ticket r' kept =>
    cases h
    exact .inl ⟨host, slot, ticket, kept, rfl⟩
  | ended t name how =>
    cases how with
    | result r' =>
      cases h
      exact .inr ⟨t, name, rfl⟩
    | _ => cases h
  | _ => cases h

namespace World

variable {sc : Scene} {u v w w' w'' : World} {t t' : Nat} {host : String} {slot : Slot} {k : Work}

/-- Pipelines and subscribers are as they were, no flight has taken off and nobody was called. -/
structure Discreet (w w' : World) : Prop where
  pipelines : w'.pipelines = w.pipelines
  subscribers : w'.subscribers = w.subscribers
  flights : w'.flights.length = w.flights.length
  journal : ∃ new, w'.journal = new ++ w.journal ∧ ∀ e ∈ new, e.isCallback = false

namespace Discreet

lemma of_eq (hp : w'.pipelines = w.pipelines) (hs : w'.subscribers = w.subscribers)
    (hf : w'.flights.length = w.flights.length) (hj : w'.journal = w.journal) : Discreet w w' :=
  ⟨hp, hs, hf, [], hj, by rintro e ⟨⟩⟩

lemma refl (w : World) : Discreet w w := of_eq rfl rfl rfl rfl

lemma trans (h : Discreet w w') (h' : Discreet w' w'') : Discreet w w'' := by
  obtain ⟨new, hj, hn⟩ := h.journal
  obtain ⟨new', hj', hn'⟩ := h'.journal
  refine ⟨h'.pipelines.trans h.pipelines, h'.subscribers.trans h.subscribers,
    h'.flights.trans h.flights, new' ++ new, by rw [hj', hj, List.append_assoc], fun e he => ?_⟩
  exact (List.mem_append.mp he).elim (hn' e) (hn e)

lemma same (h : Discreet w w') (hp : w''.pipelines = w'.pipelines)
    (hs : w''.subscribers = w'.subscribers) (hf : w''.flights.length = w'.flights.length)
    (hj : w''.journal = w'.journal) : Discreet w w'' :=
  h.trans (of_eq hp hs hf hj)

lemma aim (h : Discreet w w') (f : Focus) : Discreet w (w'.aim f) := h.same rfl rfl rfl rfl

lemma log (h : Discreet w w') {e : Event} (he : e.isCallback = false) : Discreet w (w'.log e) :=
  h.trans ⟨rfl, rfl, rfl, [e], rfl, fun e' he' => by rw [List.mem_singleton.mp he']; exact he⟩

lemma fading (h : Discreet w w') (hf : Fading w' w'') : Discreet w w'' := by
  obtain ⟨tasks, flights, queue, rewoken, heq⟩ := hf.rest
  exact h.same (by rw [heq]) (by rw [heq]) hf.length (by rw [heq])

end Discreet

lemma discreet_setJob (w : World) (j : Job) : Discreet w (w.setJob j) := by
  obtain ⟨tasks, heq⟩ := setJob_frame w j
  rw [heq]
  exact .of_eq rfl rfl rfl rfl

lemma discreet_setFlight (w : World) (ticket : Nat) (f : Flight) :
    Discreet w (w.setFlight ticket f) :=
  .of_eq rfl rfl List.length_set rfl

lemma discreet_setWork (w : World) (k : Work) : Discreet w (w.setWork k) := by
  rcases setWork_cases w k with ⟨ticket, outer, f, -, -, heq⟩ | ⟨ticket, outer, -, -, heq⟩ | ⟨-, heq⟩ <;>
    rw [heq]
  · exact discreet_setFlight w _ _
  · exact .refl w
  · exact discreet_setJob w _

lemma discreet_breakDown (w : World) (source : PanicSource) (text : String) :
    Discreet w (w.breakDown source text) :=
  ((Discreet.refl w).log rfl).aim _

lemma ResumesWork.discreet (hr : w.ResumesWork w') : Discreet w w' := by
  cases hr with
  | begins => exact ((discreet_setWork w _).log rfl).aim _
  | misses | opened => exact (discreet_setWork w _).aim _
  | waits => exact (Discreet.refl w).same rfl rfl rfl rfl
  | polls | stalls => exact (Discreet.refl w).aim _

lemma MakesRecipe.discreet {recipe : Recipe} (hm : w.MakesRecipe recipe w')
    (hr : ∀ host slot rest, recipe ≠ .ask host slot rest) : Discreet w w' := by
  cases hm with
  | finishes | announces => exact ((Discreet.refl w).log rfl).aim _
  | misfits => exact ((Discreet.refl w).log rfl).trans (discreet_breakDown _ _ _)
  | crashes => exact discreet_breakDown w _ _
  | peeks | stalls => exact (Discreet.refl w).aim _
  | holds =>
    refine Discreet.aim (Discreet.trans (Discreet.log ?_ rfl) (discreet_setWork _ _)) _
    exact .of_eq rfl rfl rfl rfl
  | finds | asks => exact absurd rfl (hr _ _ _)

lemma KeepsShare.discreet {own : Handle} (hk : w.KeepsShare own w') (hp : w.party = .work k) :
    Discreet w w' := by
  cases hk with
  | work => exact discreet_setWork w _
  | emission hp' | output hp' => cases hp.symm.trans hp'
  | nothing => exact .refl w

lemma PollsFlight.discreet {own : Handle} (hpoll : w.PollsFlight own w') (hp : w.party = .work k) :
    Discreet w w' := by
  have hseat (seat : Nat) (g : Flight) : Discreet w
      ((w.keep { own with seat := some seat }).setFlight own.ticket g) :=
    ((w.keepsShare { own with seat := some seat }).discreet hp).trans (discreet_setFlight _ _ _)
  cases hpoll with
  | misses | answers => exact (Discreet.refl w).aim _
  | drives => exact (hseat _ _).same rfl rfl rfl rfl
  | breaks => exact (hseat _ _).trans (discreet_breakDown _ _ _)
  | waits => exact (hseat _ _).aim _

lemma HandsAnswer.discreet {r : Result} (ha : w.HandsAnswer r w') (hp : w.party = .work k) :
    Discreet w w' := by
  cases ha with
  | resumes => exact (discreet_setWork w _).aim _
  | readies hp' => cases hp.symm.trans hp'
  | ends | stalls => exact (Discreet.refl w).aim _

lemma Pauses.discreet (hp : w.Pauses w') : Discreet w w' := by
  cases hp with
  | idle | ends => exact (Discreet.refl w).aim _
  | returns =>
    refine Discreet.fading ?_ (fadingUnheld_enqueue _ _).toFading
    exact .of_eq rfl rfl rfl rfl
  | rests => exact .of_eq rfl rfl rfl rfl

lemma Stalls.discreet (hs : w.Stalls w') (hd : w.driving = []) : Discreet w w' := by
  cases hs with
  | flight hd' | misses hd' => cases hd.symm.trans hd'
  | branch => exact (Discreet.refl w).aim _
  | task _ _ hp => exact hp.discreet

section

variable (hj : w.job = .work k)
include hj

lemma DropsJob.discreet (hd : w.DropsJob w') : Discreet w w' := by
  cases hd with
  | work => exact (discreet_setJob w _).fading (fadingUnheld_release _ _ _).toFading
  | output hj' | emission hj' | branches hj' => cases hj.symm.trans hj'
  | nothing => exact .refl w

lemma discreet_leaveTask (t : Nat) (task : Task) (how : End) :
    Discreet w (w.leaveTask t task how) := by
  obtain ⟨tasks, hclose⟩ := w.closeTask_eq t how
  have hdrop : Discreet w (w.closeTask t how) := by
    rw [hclose]
    exact (w.dropsJob.discreet hj).same rfl rfl rfl rfl
  obtain ⟨subscriptions, heq⟩ := w.leaveTask_eq t task how
  rw [heq]
  exact (hdrop.log (e := .ended t task.name how) rfl).same rfl rfl rfl rfl

lemma EndsTask.discreet {how : End} (he : w.EndsTask how w') : Discreet w w' := by
  cases he with
  | idle => exact (Discreet.refl w).aim _
  | misses => exact .of_eq rfl rfl rfl rfl
  | leaves => exact discreet_leaveTask hj _ _ how
  | calls => exact (discreet_leaveTask hj _ _ how).fading (fadingUnheld_enqueue _ _).toFading

lemma ResumesTask.discreet (hr : w.ResumesTask w') : Discreet w w' := by
  cases hr with
  | works => exact (Discreet.refl w).aim _
  | finds hj' | joins hj' | polls hj' | computes hj' | invalidates hj' | turns hj' | emits hj'
  | panics hj' | ends hj' | follows hj' | nothing hj' => cases hj.symm.trans hj'

lemma TurnsToNext.discreet (ht : w.TurnsToNext w') : Discreet w w' := by
  cases ht with
  | fan hj' => cases hj.symm.trans hj'
  | pauses _ hp => exact hp.discreet

end

section

variable (hp : w.party = .work k)
include hp

lemma ForgetsParty.discreet (hf : w.ForgetsParty w') : Discreet w w' := by
  cases hf with
  | work => exact discreet_setWork w _
  | emission hp' | output hp' | nobody hp' => cases hp.symm.trans hp'

lemma Unwinds.discreet {text : String} (hu : w.Unwinds text w') : Discreet w w' := by
  have hforget := w.forgetsParty.discreet hp
  cases hu with
  | breaks => exact (hforget.trans (discreet_setFlight _ _ _)).same rfl rfl rfl rfl
  | misses => exact hforget.same rfl rfl rfl rfl
  | ends => exact hforget.aim _

lemma GoesOn.discreet (hg : w.GoesOn w') : Discreet w w' := by
  cases hg with
  | stalls => exact (Discreet.refl w).aim _
  | enters hp' | looks hp' | polls hp' | approaches hp' | calls hp' | acts hp' =>
    cases hp.symm.trans hp'

end

/-- A task that works alone does nothing that anybody could see, unless its node asks for a slot. -/
lemma discreet_step (hd : w.driving = []) (hj : w.job = .work k)
    (ha : ∀ host slot rest, w.focus ≠ .make (.ask host slot rest)) : Discreet w w.step := by
  have hp : w.party = .work k := by
    rw [party_eq, hd, hj]
    rfl
  unfold step
  cases hf : w.focus with
  | idle => exact .refl w
  | resume => exact w.resumesTask.discreet hj
  | work => exact w.resumesWork.discreet
  | make recipe =>
    refine (w.makesRecipe recipe).discreet fun host slot rest hr => ha host slot rest ?_
    rw [hf, hr]
  | made c =>
    show Discreet w (w.finishWork c)
    rw [finishWork_nil hd]
    exact .of_eq rfl rfl rfl rfl
  | poll own => exact (w.pollsFlight own).discreet hp
  | answer r => exact (w.handsAnswer r).discreet hp
  | stall => exact w.stalls.discreet hd
  | emission => exact w.goesOn.discreet hp
  | next finished => exact (w.turnsToNext finished).discreet hj
  | finish how => exact (w.endsTask how).discreet hj
  | panic text => exact (w.unwinds text).discreet hp

lemma Ready.discreet (h : w.Ready t (.compute host slot)) (hw : Reachable sc.opening w)
    (hv : Reachable (w.takeUp t) v) (hr : v.running = some t) (hd : v.driving = [])
    (ha : ∀ host slot rest, v.focus ≠ .make (.ask host slot rest)) : Discreet v v.step := by
  have hu : Reachable sc.opening (w.takeUp t) := hw.trans (reachable_takeUp h.idle t)
  have hsane := Scene.sane_of_reachable (.step hu)
  have hidle : (w.takeUp t).focus ≠ .idle := by
    rw [h.focus]
    rintro ⟨⟩
  rcases hv.past hidle with rfl | hv'
  · rw [h.step_compute]
    exact (discreet_setJob _ _).aim _
  · cases hv'.pursues hsane (.asks h.asks_compute) with
    | asks hasks =>
      have hj := hasks.job hr
      generalize hjob : v.job = j at hj
      cases hj with
      | work _ _ _ => exact discreet_step hd hjob ha
    | doomed ho _ => cases ho
    | finished ho => exact absurd hr (ho.waits (hv'.goes hsane).1.poised.steady)

/-- Every result that has come up has a number that was given out. -/
lemma outcome_lt (h : Reachable sc.opening w) {e : Event} {r : Result} (hm : e ∈ w.journal)
    (hr : e.outcome? = some r) : r.id < w.nextResult := by
  have hs := Scene.sane_of_reachable h
  rcases Event.outcome?_eq_some hr with ⟨host, slot, ticket, kept, rfl⟩ | ⟨t, name, rfl⟩
  · exact (hs.sound.logged.landing _ _ _ _ _ hm).1
  · rcases h.noted sc.sane_opening rfl hm with hold | ⟨v, hv, hvw, hno, hyes⟩
    · cases hold
    rcases (Scene.stride_of_reachable hv).ended hyes with hold | ⟨-, hf⟩
    · exact absurd hold hno
    have hgoes : v.focus.isOpening = false := by
      rw [hf]
      rfl
    obtain ⟨m, hm', rfl⟩ := hv.stepped sc.sane_opening rfl hgoes
    have hsane := Scene.sane_of_reachable hm'
    have hle : m.step.nextResult ≤ w.nextResult :=
      ((Reachable.step .refl).trans hvw).nextResult_le hsane.after
    refine Nat.lt_of_lt_of_le ?_ hle
    have hmono : m.nextResult ≤ m.step.nextResult := (Reachable.step .refl).nextResult_le hsane
    cases aboutToEndWith_of_finish hsane hf with
    | @made c hfocus hd heq =>
      subst heq
      have hstep : m.step = m.finishWork c := by
        unfold World.step
        rw [hfocus]
      rw [hstep, finishWork_nil hd]
      exact Nat.lt_succ_self _
    | answered hfocus _ =>
      have haim := hsane.poised.aimed
      rw [hfocus] at haim
      obtain ⟨-, ticket, f, -, hflight, hlanded⟩ := haim
      obtain ⟨kept, hl⟩ := hsane.landed_of_status hflight hlanded
      exact Nat.lt_of_lt_of_le (hsane.sound.logged.landing _ _ _ _ _ hl).1 hmono
    | found _ _ hcached =>
      obtain ⟨ticket, kept, hl⟩ := hsane.landed_of_cached hcached
      exact Nat.lt_of_lt_of_le (hsane.sound.logged.landing _ _ _ _ _ hl).1 hmono

lemma Originates.fresh {m : World} {x : Option (Except Cause Payload)} {r : Result}
    (h : Originates u v k m x r) (hu : Reachable sc.opening u) {e : Event} {r₀ : Result}
    (hm : e ∈ m.journal) (hr : e.outcome? = some r₀) : r₀.id < r.id := by
  rw [h.number]
  exact outcome_lt (hu.trans h.before) hm hr

/-- What becomes of two tasks that are taken up for a slot, the first for the shared result and the
second on its own. -/
structure UncachedAgreement (w : World) (host : String) (slot : Slot) (t t' : Nat) : Prop where
  begins : (w.takeUp t).step.step.step.focus = (w.workOf host slot).beginning
  begins_alone : (w.takeUp t').step.step.focus = (w.workOf host slot).beginning
  pursues : ∀ v, Reachable (w.takeUp t).step v →
    v.Pursues t (.output host slot (some { ticket := w.flights.length })) ∧
    ∃ f, v.flights[w.flights.length]? = some f ∧ (w.workOf host slot).Alike f.work
  pursues_alone : ∀ v, Reachable (w.takeUp t').step v → v.Pursues t' (.work (w.workOf host slot))
  /-- Both results are new and come from what the node handed over, so if that was the same, then so
  are the contents. -/
  originates : ∀ v v' name name' r r', Reachable (w.takeUp t) v → Reachable (w.takeUp t') v' →
    .ended t name (.result r) ∈ v.journal → .ended t' name' (.result r') ∈ v'.journal →
    ∃ m m' x x', Originates (w.takeUp t) v (w.workOf host slot) m x r ∧
      m.ticket? = some w.flights.length ∧
      Originates (w.takeUp t') v' (w.workOf host slot) m' x' r' ∧
      m'.driving = [] ∧ m'.running = some t' ∧ (x = x' → r.content = r'.content) ∧
      (∀ e ∈ m.journal, ∀ r₀, e.outcome? = some r₀ → r₀.id < r.id) ∧
      ∀ e ∈ m'.journal, ∀ r₀, e.outcome? = some r₀ → r₀.id < r'.id
  ends_alone : ∀ v k x c, Reachable (w.takeUp t') v → v.driving = [] → v.running = some t' →
    v.ComesTo k x c → ∃ name,
      .ended t' name (.result ⟨v.nextResult, c⟩) ∈ v.step.step.step.journal
  lands : ∀ v k x c, Reachable (w.takeUp t) v → v.ticket? = some w.flights.length →
    v.ComesTo k x c →
    ∃ kept, .landed host slot w.flights.length ⟨v.nextResult, c⟩ kept ∈ v.step.step.journal
  ends : ∀ v k x c, Reachable (w.takeUp t) v → v.driving = [w.flights.length] →
    v.running = some t → v.ComesTo k x c → ∃ name,
      .ended t name (.result ⟨v.nextResult, c⟩) ∈ v.step.step.step.step.journal
  answers : ∀ v own kept r, Reachable (w.takeUp t) v →
    .landed host slot w.flights.length r kept ∈ v.journal →
    v.Ready t (.output host slot (some own)) → ∃ name,
      .ended t name (.result r) ∈ (v.takeUp t).step.step.step.step.journal
  /-- The task on its own changes no pipeline and calls nobody, unless its node asks for a slot. -/
  discreet : ∀ v, Reachable (w.takeUp t') v → v.running = some t' → v.driving = [] →
    (∀ host slot rest, v.focus ≠ .make (.ask host slot rest)) → Discreet v v.step

/-- Asking for the shared result of a slot that is neither cached nor in flight, and computing it alone,
come to the same. -/
theorem uncached_agrees {sc : Scene} {w : World} {host : String} {slot : Slot} {t t' : Nat}
    (hw : Reachable sc.opening w) (hcached : (w.engine host).cached slot = none)
    (hflying : (w.engine host).flying slot = none) (h : w.Ready t (.output host slot none))
    (h' : w.Ready t' (.compute host slot)) : w.UncachedAgreement host slot t t' := by
  have hs := Scene.sane_of_reachable hw
  have hu : Reachable sc.opening (w.takeUp t) := hw.trans (reachable_takeUp h.idle t)
  have hu' : Reachable sc.opening (w.takeUp t') := hw.trans (reachable_takeUp h'.idle t')
  constructor
  case begins => exact h.begins_output hs hcached hflying
  case begins_alone => exact h'.begins_compute hs
  case pursues =>
    intro v hv
    exact ⟨h.pursues_output hw hcached hflying hv, h.bears_output hw hcached hflying hv⟩
  case pursues_alone =>
    intro v hv
    exact hv.pursues (Scene.sane_of_reachable (.step hu')) (.asks h'.asks_compute)
  case originates =>
    intro v v' name name' r r' hv hv' hm hm'
    obtain ⟨m, x, ho, ht⟩ := h.originates_output hcached hflying hw hv hm
    obtain ⟨m', x', ho', hd', hr'⟩ := h'.originates_compute hw hv' hm'
    obtain ⟨k, hcomes, halike⟩ := ho.comes
    obtain ⟨k', hcomes', halike'⟩ := ho'.comes
    have hcontent : x = x' → r.content = r'.content :=
      hcomes.unique hcomes' (halike.slot.trans halike'.slot.symm)
        (halike.target.trans halike'.target.symm)
    have hfresh : ∀ e ∈ m.journal, ∀ r₀, e.outcome? = some r₀ → r₀.id < r.id :=
      fun e he r₀ hr₀ => ho.fresh hu he hr₀
    have hfresh' : ∀ e ∈ m'.journal, ∀ r₀, e.outcome? = some r₀ → r₀.id < r'.id :=
      fun e he r₀ hr₀ => ho'.fresh hu' he hr₀
    exact ⟨m, m', x, x', ho, ht, ho', hd', hr', hcontent, hfresh, hfresh'⟩
  case ends_alone =>
    intro v k x c hv hd hr hc
    exact h'.fulfils_compute hw hv hd hr hc
  case lands =>
    intro v k x c hv ht hc
    exact h.lands_output hw hcached hflying hv ht hc
  case ends =>
    intro v k x c hv hd hr hc
    exact h.fulfils_output hw hcached hflying hv hd hr hc
  case answers =>
    intro v own kept r hv hl hready
    exact h.answers_output hw hcached hflying hv hl hready
  case discreet =>
    intro v hv hr hd ha
    exact h'.discreet hw hv hr hd ha

/-- Whether the task has not been taken up that is there for the slot, alone or not, while no task
runs. -/
def isReady (w : World) (t : Nat) (host : String) (slot : Slot) (alone : Bool) : Bool :=
  match w.focus, w.tasks[t]? with
  | .idle, some { job := .output h s none, cancelled := false, ended := none, .. } =>
    !alone && h == host && decide (s = slot)
  | .idle, some { job := .compute h s, cancelled := false, ended := none, .. } =>
    alone && h == host && decide (s = slot)
  | _, _ => false

lemma ready_of_isReady {alone : Bool} (h : w.isReady t host slot alone = true) :
    w.Ready t (if alone then .compute host slot else .output host slot none) := by
  unfold isReady at h
  split at h
  · rename_i hf ht
    rw [Bool.and_eq_true, Bool.and_eq_true, beq_iff_eq, decide_eq_true_eq] at h
    obtain ⟨⟨halone, rfl⟩, rfl⟩ := h
    rw [Bool.not_eq_true'] at halone
    subst halone
    exact ⟨hf, _, ht, rfl, rfl, rfl⟩
  · rename_i hf ht
    rw [Bool.and_eq_true, Bool.and_eq_true, beq_iff_eq, decide_eq_true_eq] at h
    obtain ⟨⟨rfl, rfl⟩, rfl⟩ := h
    exact ⟨hf, _, ht, rfl, rfl, rfl⟩
  · cases h

/-- One task is there for the shared result of the output, and another one to compute it. -/
def askedBoth : List (Action × Nat) := [
  (.register "p" (heldNode "n" ["o"]) "n", 0),
  (.output "p" "shared" ⟨"n", "o"⟩, 0),
  (.compute "p" "alone" ⟨"n", "o"⟩, 0)]

/-- The node is removed before it hands over what it does. -/
def removedMeanwhile : List (Action × Nat) := [
  (.unregister "p" "n", 0),
  (.resolve .first (some (.value (.text "a"))), 30)]

/-- Whether the task has ended with that text. -/
def endsWithText (w : World) (t : Nat) (text : String) : Bool :=
  w.journal.any fun
    | .ended i _ (.result ⟨_, .ok (.text s)⟩) => i == t && s == text
    | _ => false

lemma ended_of_endsWithText {text : String} (h : w.endsWithText t text = true) : ∃ name r,
    .ended t name (.result r) ∈ w.journal ∧ r.content = .ok (.text text) := by
  obtain ⟨e, hm, he⟩ := List.any_eq_true.mp h
  split at he
  · rename_i i name id s
    rw [Bool.and_eq_true, beq_iff_eq, beq_iff_eq] at he
    obtain ⟨rfl, rfl⟩ := he
    exact ⟨name, _, hm, rfl⟩
  · cases he

theorem uncached_agrees_removed : ∃ w v v' name name' r r' m m' x x',
    Reachable ({} : Scene).opening w ∧ (w.engine "p").cached ⟨"n", "o"⟩ = none ∧
    (w.engine "p").flying ⟨"n", "o"⟩ = none ∧ w.Ready 0 (.output "p" ⟨"n", "o"⟩ none) ∧
    w.Ready 1 (.compute "p" ⟨"n", "o"⟩) ∧
    .ended 0 name (.result r) ∈ v.journal ∧ .ended 1 name' (.result r') ∈ v'.journal ∧
    r.content = .ok (.text "a") ∧ r'.content = .ok (.text "a") ∧
    Originates (w.takeUp 0) v (w.workOf "p" ⟨"n", "o"⟩) m x r ∧
    Originates (w.takeUp 1) v' (w.workOf "p" ⟨"n", "o"⟩) m' x' r' ∧
    (x = x' → r.content = r'.content) := by
  have hfacts : (({} : Scene).opening.rehearse askedBoth).any (fun w =>
      (((w.engine "p").cached ⟨"n", "o"⟩).isNone && ((w.engine "p").flying ⟨"n", "o"⟩).isNone) &&
        (w.isReady 0 "p" ⟨"n", "o"⟩ false && w.isReady 1 "p" ⟨"n", "o"⟩ true) &&
          ((((w.takeUp 0).run 7).rehearse removedMeanwhile).any (fun v => v.endsWithText 0 "a") &&
            (((w.takeUp 1).run 5).rehearse removedMeanwhile).any fun v =>
              v.endsWithText 1 "a")) = true := by decide +kernel
  obtain ⟨w, hw, hall⟩ := (Option.any_eq_true _ _).mp hfacts
  simp only [Bool.and_eq_true, Option.isNone_iff_eq_none] at hall
  obtain ⟨⟨⟨hc, hf⟩, hr, hr'⟩, hv, hv'⟩ := hall
  obtain ⟨v, hv, hends⟩ := (Option.any_eq_true _ _).mp hv
  obtain ⟨v', hv', hends'⟩ := (Option.any_eq_true _ _).mp hv'
  obtain ⟨name, r, hm, htext⟩ := ended_of_endsWithText hends
  obtain ⟨name', r', hm', htext'⟩ := ended_of_endsWithText hends'
  have hreach : Reachable ({} : Scene).opening w := reachable_rehearse .refl hw
  have hready : w.Ready 0 (.output "p" ⟨"n", "o"⟩ none) := ready_of_isReady hr
  have hready' : w.Ready 1 (.compute "p" ⟨"n", "o"⟩) := ready_of_isReady hr'
  have hagree := uncached_agrees hreach hc hf hready hready'
  have hreached : Reachable (w.takeUp 0) v := reachable_rehearse (Reachable.run .refl 7) hv
  have hreached' : Reachable (w.takeUp 1) v' := reachable_rehearse (Reachable.run .refl 5) hv'
  obtain ⟨m, m', x, x', ho, -, ho', -, -, heq, -, -⟩ :=
    hagree.originates v v' name name' r r' hreached hreached' hm hm'
  exact ⟨w, v, v', name, name', r, r', m, m', x, x', hreach, hc, hf, hready, hready', hm, hm', htext,
    htext', ho, ho', heq⟩

end World

end Dataflow
