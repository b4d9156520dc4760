import Dataflow.Proofs.EndSteps

/-!
# How flights start

Whoever takes off with a flight polls it at once, and a flight begins when it is first polled. So one
flight at most has not begun, nothing has happened since it took off, and it is what comes next.
-/

namespace Dataflow

/-- A flight is polled or driven on. -/
def Focus.isFlying : Focus → Bool
  | .poll _ | .work => true
  | _ => false

namespace World

variable {w w' : World}

/-- The flight has just taken off, and is what comes next. -/
def Departs (w : World) (ticket : Nat) (f : Flight) : Prop :=
  (∃ past, w.journal = .takenOff f.work.host f.work.slot ticket :: past) ∧
    match w.focus with
    | .poll own => own.ticket = ticket ∧ f.status = .idle
    | .work => w.ticket? = some ticket
    | _ => False

/-- A flight that has not begun is about to. -/
def FreshDepart (w : World) : Prop :=
  ∀ (ticket : Nat) f, w.flights[ticket]? = some f → f.work.stage.isFresh = true →
    w.Departs ticket f

/-- Every flight but this one has begun, and this one has just taken off. -/
def JustOff (w : World) (ticket : Nat) : Prop :=
  ∀ (i : Nat) f, w.flights[i]? = some f → f.work.stage.isFresh = true →
    i = ticket ∧ f.status = .idle ∧
      ∃ past, w.journal = .takenOff f.work.host f.work.slot i :: past

/-- No flight comes up that has not begun. -/
structure Ages (w w' : World) : Prop where
  journal : w'.journal = w.journal
  flights : ∀ (i : Nat) f, w'.flights[i]? = some f → f.work.stage.isFresh = true →
    w.flights[i]? = some f

lemma AllBegun.at (h : w.AllBegun) {i : Nat} {f : Flight} (hf : w.flights[i]? = some f) :
    f.work.stage.isFresh ≠ true := by
  rw [h f (List.mem_of_getElem? hf)]
  rintro ⟨⟩

lemma allBegun_iff :
    w.AllBegun ↔ ∀ (i : Nat) f, w.flights[i]? = some f → f.work.stage.isFresh ≠ true := by
  refine ⟨fun h i f => h.at, fun h f hm => ?_⟩
  obtain ⟨i, hf⟩ := List.mem_iff_getElem?.mp hm
  exact Bool.eq_false_iff.mpr (h i f hf)

lemma AllBegun.freshDepart (h : w.AllBegun) : w.FreshDepart := fun _ _ hf hs => absurd hs (h.at hf)

lemma AllBegun.aim (h : w.AllBegun) (f : Focus) : (w.aim f).AllBegun := h

lemma AllBegun.log (h : w.AllBegun) (e : Event) : (w.log e).AllBegun := h

lemma AllBegun.setEngine (h : w.AllBegun) (host : String) (e : Engine) :
    (w.setEngine host e).AllBegun := h

lemma FreshDepart.allBegun (h : w.FreshDepart) (hf : w.focus.isFlying = false) : w.AllBegun := by
  rw [allBegun_iff]
  intro i f hi hs
  have hd := (h i f hi hs).2
  cases hfocus : w.focus with
  | poll own =>
    rw [hfocus] at hf
    cases hf
  | work =>
    rw [hfocus] at hf
    cases hf
  | _ =>
    rw [hfocus] at hd
    exact hd

lemma AllBegun.justOff (h : w.AllBegun) (ticket : Nat) : w.JustOff ticket :=
  fun _ _ hf hs => absurd hs (h.at hf)

lemma JustOff.freshDepart {own : Handle} (h : w.JustOff own.ticket) : (w.aim (.poll own)).FreshDepart := by
  intro i f hf hs
  obtain ⟨hi, hst, hj⟩ := h i f hf hs
  exact ⟨hj, hi.symm, hst⟩

lemma AllBegun.of_flights (h : w.AllBegun) (hf : w'.flights = w.flights) : w'.AllBegun := by
  unfold AllBegun
  rw [hf]
  exact h

lemma AllBegun.ages (h : w.AllBegun) (ha : Ages w w') : w'.AllBegun :=
  allBegun_iff.mpr fun i f hf hs => h.at (ha.flights i f hf hs) hs

lemma JustOff.ages {ticket : Nat} (h : w.JustOff ticket) (ha : Ages w w') : w'.JustOff ticket := by
  intro i f hf hs
  rw [ha.journal]
  exact h i f (ha.flights i f hf hs) hs

/-- The work of the flight that is driven next is what has not begun. -/
lemma FreshDepart.begins (h : w.FreshDepart) : w.Begins := by
  intro k ticket hp hs ht
  obtain ⟨outer, hd⟩ : ∃ outer, w.driving = ticket :: outer := List.head?_eq_some_iff.mp ht
  unfold party at hp
  simp only [hd] at hp
  cases hm : w.flights[ticket]? with
  | some f =>
    rw [hm] at hp
    cases hp
    exact (h ticket f hm (by rw [hs]; rfl)).1
  | none =>
    rw [hm] at hp
    cases hp

lemma ages_setJob (w : World) (j : Job) : Ages w (w.setJob j) :=
  ⟨journal_setJob w j, fun i f hf _ => by rwa [flights_setJob] at hf⟩

lemma ages_setEmission (w : World) (e : Emission) : Ages w (w.setEmission e) := by
  rcases setEmission_cases w e with ⟨f, -, heq⟩ | ⟨-, heq⟩ <;> exact heq ▸ ages_setJob w _

/-- The flight that is driven innermost has the work, and the others are as before. -/
lemma flight_setWork {k : Work} {i : Nat} {f : Flight}
    (hf : (w.setWork k).flights[i]? = some f) :
    f.work = k ∨ w.ticket? ≠ some i ∧ w.flights[i]? = some f := by
  unfold ticket?
  rcases setWork_cases w k with ⟨ticket, outer, g, hd, -, heq⟩ | ⟨ticket, outer, hd, hn, heq⟩ |
    ⟨hd, heq⟩
  · rw [heq] at hf
    rw [hd, List.head?_cons]
    rcases getElem?_set_cases hf with ⟨-, rfl⟩ | ⟨hne, hf⟩
    · exact .inl rfl
    · exact .inr ⟨fun he => hne (Option.some.inj he), hf⟩
  · rw [heq] at hf
    rw [hd, List.head?_cons]
    refine .inr ⟨fun he => ?_, hf⟩
    cases he
    cases hn.symm.trans hf
  · rw [heq, flights_setJob] at hf
    rw [hd]
    exact .inr ⟨by rintro ⟨⟩, hf⟩

lemma ages_setWork {k : Work} (hk : k.stage.isFresh = false) : Ages w (w.setWork k) := by
  obtain ⟨tasks, flights, heq⟩ := w.setWork_frame k
  refine ⟨by rw [heq], fun i f hf hs => ?_⟩
  rcases flight_setWork hf with rfl | ⟨-, hf⟩
  · rw [hk] at hs
    cases hs
  · exact hf

lemma KeepsShare.ages {own : Handle} (hk : w.KeepsShare own w') : Ages w w' := by
  cases hk with
  | work => exact ages_setWork rfl
  | emission => exact ages_setEmission w _
  | output => exact ages_setJob w _
  | nothing => exact ⟨rfl, fun _ _ hf _ => hf⟩

/-- Whoever joins a computation that is not under way has just taken off with it. -/
lemma AllBegun.join (h : w.AllBegun) (host : String) (s : Slot) :
    (w.join host s).1.JustOff (w.join host s).2.ticket := by
  rcases join_cases w host s with ⟨ticket, -, heq⟩ | ⟨-, heq⟩
  · rw [heq]
    exact h.justOff ticket
  · rw [heq]
    intro i f hm hs
    rcases getElem?_concat_cases hm with hm | ⟨rfl, rfl⟩
    · exact absurd hs (h.at hm)
    · exact ⟨rfl, rfl, w.journal, rfl⟩

lemma PollsFlight.freshDepart {own : Handle} (hp : w.PollsFlight own w') (h : w.FreshDepart)
    (hfocus : w.focus = .poll own) : w'.FreshDepart := by
  have hown : ∀ (i : Nat) f, w.flights[i]? = some f → f.work.stage.isFresh = true →
      (∃ past, w.journal = .takenOff f.work.host f.work.slot i :: past) ∧
        own.ticket = i ∧ f.status = .idle := by
    intro i f hm hs
    have hd := h i f hm hs
    unfold Departs at hd
    rw [hfocus] at hd
    exact hd
  -- What is put in the place of the flight has the work of the flight itself if it is fresh.
  have hset {f g p : Flight} {seat : Nat} (hf : w.flights[own.ticket]? = some f)
      (hg : (w.keep { own with seat := some seat }).flights[own.ticket]? = some g)
      (hw : p.work = g.work) (i : Nat) (x : Flight)
      (hi : ((w.keep { own with seat := some seat }).setFlight own.ticket p).flights[i]? = some x)
      (hs : x.work.stage.isFresh = true) : i = own.ticket ∧ x = p ∧ f.status = .idle ∧
        ∃ past, (w.keep { own with seat := some seat }).journal =
          .takenOff x.work.host x.work.slot i :: past := by
    have ha := (w.keepsShare { own with seat := some seat }).ages
    rw [ha.journal]
    rcases getElem?_set_cases hi with ⟨rfl, rfl⟩ | ⟨hne, hi⟩
    · rw [hw] at hs
      cases hf.symm.trans (ha.flights _ g hg hs)
      obtain ⟨hj, -, hst⟩ := hown _ f hf hs
      rw [hw]
      exact ⟨rfl, rfl, hst, hj⟩
    · obtain ⟨-, ht, -⟩ := hown i x (ha.flights i x hi hs) hs
      exact absurd ht hne
  cases hp with
  | misses hf =>
    refine AllBegun.freshDepart (allBegun_iff.mpr fun i f hi hs => ?_)
    obtain ⟨-, rfl, -⟩ := hown i f hi hs
    cases hf.symm.trans hi
  | answers hf hst =>
    refine AllBegun.freshDepart (allBegun_iff.mpr fun i g hi hs => ?_)
    obtain ⟨-, rfl, hidle⟩ := hown i g hi hs
    cases hf.symm.trans hi
    cases hst.symm.trans hidle
  | @drives f g seat seats hf hst hsit hg =>
    intro i x hi hs
    obtain ⟨rfl, rfl, -, hj⟩ :=
      hset (p := { g with seats, status := .driven }) hf hg rfl i x hi hs
    exact ⟨hj, rfl⟩
  | @breaks f g seat seats hf hst hsit hg =>
    refine AllBegun.freshDepart (allBegun_iff.mpr fun i x hi hs => ?_)
    obtain ⟨-, -, hidle, -⟩ := hset (p := { g with seats }) hf hg rfl i x hi hs
    cases hst.symm.trans hidle
  | @waits f g seat seats hf hst hsit hg =>
    refine AllBegun.freshDepart (allBegun_iff.mpr fun i x hi hs => ?_)
    obtain ⟨-, -, hidle, -⟩ := hset (p := { g with seats }) hf hg rfl i x hi hs
    rcases hst with hst | hst <;> cases hst.symm.trans hidle

lemma ResumesWork.freshDepart (hr : w.ResumesWork w') (h : w.FreshDepart) (hfocus : w.focus = .work) :
    w'.FreshDepart := by
  have hhead : ∀ (i : Nat) f, w.flights[i]? = some f → f.work.stage.isFresh = true →
      w.ticket? = some i := by
    intro i f hm hs
    have hd := (h i f hm hs).2
    rw [hfocus] at hd
    exact hd
  have hgoing (k : Work) : (w.setWork { k with stage := .away }).AllBegun := by
    refine allBegun_iff.mpr fun i f hm hs => ?_
    rcases flight_setWork hm with heq | ⟨hne, hm⟩
    · rw [heq] at hs
      cases hs
    · exact hne (hhead i f hm hs)
  -- A work that is not fresh itself leaves no flight that is.
  have hbegun (hfresh : ∀ k, w.party = .work k → k.stage ≠ .fresh) : w.AllBegun := by
    refine allBegun_iff.mpr fun i f hm hs => ?_
    obtain ⟨outer, hd⟩ := List.head?_eq_some_iff.mp (hhead i f hm hs)
    refine hfresh f.work (by simp only [party, hd, hm]) ?_
    cases hst : f.work.stage with
    | fresh => rfl
    | _ =>
      rw [hst] at hs
      cases hs
  have hwaits {k : Work} (hp : w.party = .work k) (hs : k.stage ≠ .fresh) : w.AllBegun :=
    hbegun fun k' hp' => by
      cases hp.symm.trans hp'
      exact hs
  cases hr with
  | begins | misses | opened => exact AllBegun.freshDepart ((hgoing _).of_flights rfl)
  | waits hp hs => exact AllBegun.freshDepart ((hwaits hp (by rw [hs]; rintro ⟨⟩)).of_flights rfl)
  | polls hp hs => exact AllBegun.freshDepart ((hwaits hp (by rw [hs]; rintro ⟨⟩)).of_flights rfl)
  | stalls hs => exact AllBegun.freshDepart ((hbegun hs).of_flights rfl)

lemma MakesRecipe.freshDepart {r : Recipe} (hm : w.MakesRecipe r w') (h : w.AllBegun) :
    w'.FreshDepart := by
  cases hm with
  | holds =>
    exact ((AllBegun.ages (w := World.log { w with valves := _ } _) h
      (ages_setWork rfl)).aim .work).freshDepart
  | asks => exact ((h.join _ _).ages (ages_setWork rfl)).freshDepart
  | finishes | misfits | crashes | peeks | announces | finds | stalls =>
    exact AllBegun.freshDepart (h.of_flights rfl)

/-- A flight may come to another status. -/
lemma AllBegun.setFlight (h : w.AllBegun) {ticket : Nat} {f f' : Flight}
    (hf : w.flights[ticket]? = some f) (hw : f'.work = f.work) :
    (w.setFlight ticket f').AllBegun := by
  refine allBegun_iff.mpr fun i g hi hs => ?_
  rcases getElem?_set_cases hi with ⟨-, rfl⟩ | ⟨-, hi⟩
  · rw [hw] at hs
    exact h.at hf hs
  · exact h.at hi hs

lemma AllBegun.land (h : w.AllBegun) {ticket : Nat} {f : Flight}
    (hf : w.flights[ticket]? = some f) (r : Result) : (w.land ticket f r).AllBegun := by
  unfold World.land
  refine AllBegun.fades ?_ (fadingUnheld_wake _ _).toFading
  exact AllBegun.setFlight (w := (w.setEngine _ _).log _) h hf rfl

lemma FinishesWork.allBegun {c : Content} (hf : w.FinishesWork c w') (h : w.AllBegun) :
    w'.AllBegun := by
  cases hf with
  | ends | misses => exact h
  | lands hd hf =>
    exact (AllBegun.land (w := { w with nextResult := w.nextResult + 1 }) h hf _).of_flights rfl

lemma HandsAnswer.allBegun {r : Result} (ha : w.HandsAnswer r w') (h : w.AllBegun) :
    w'.AllBegun := by
  cases ha with
  | resumes => exact (h.ages (ages_setWork rfl)).aim _
  | readies => exact (h.ages (ages_setEmission w _)).aim _
  | ends | stalls => exact h

lemma AllBegun.makeWay (h : w.AllBegun) (e : Emission) (pass : Pass) :
    (w.makeWay e pass).AllBegun := by
  obtain ⟨l, heq⟩ := makeWay_eq w e pass
  rw [heq]
  exact (h.setEngine _ _).fades (fadingUnheld_wake _ l).toFading

lemma Looks.freshDepart {e : Emission} {pass : Pass} (hl : w.Looks e pass w') (h : w.AllBegun) :
    w'.FreshDepart := by
  cases hl with
  | finds => exact AllBegun.freshDepart ((h.log _).ages (ages_setEmission _ _))
  | joins => exact (((h.log _).join _ _).ages (ages_setEmission _ _)).freshDepart

lemma HandsOut.allBegun {e : Emission} {pass : Pass} {clears : Nat}
    (hd : w.HandsOut e pass clears w') (h : w.AllBegun) : w'.AllBegun := by
  cases hd with
  | selects => exact ((h.setEngine _ _).log _).ages (ages_setEmission _ _)
  | breaks => exact h
  | retries => exact ((h.log _).makeWay _ _).ages (ages_setEmission _ _)

lemma Approaches.allBegun {e : Emission} {pass : Pass} {clears : Nat}
    (ha : w.Approaches e pass clears w') (h : w.AllBegun) : w'.AllBegun := by
  have hplace : (w.takePlace e pass).AllBegun := h
  cases ha with
  | queues => exact hplace
  | yields => exact (hplace.fades (fadingUnheld_wake _ _).toFading).aim _
  | delivers _ _ hd => exact hd.allBegun hplace

lemma FinishesEmission.allBegun {e : Emission} {pass : Pass} (hf : w.FinishesEmission e pass w')
    (h : w.AllBegun) : w'.AllBegun := by
  have hleft : (w.leaveGate e pass).AllBegun := ((h.makeWay e pass).setEngine _ _).log _
  cases hf with
  | branch | whole => exact (hleft.of_flights (flights_setJob _ _)).aim _

lemma CallsNext.allBegun {e : Emission} {pass : Pass} {r : Result} {rest : List Nat}
    (hc : w.CallsNext e pass r rest w') (h : w.AllBegun) : w'.AllBegun := by
  cases hc with
  | ends hf => exact hf.allBegun h
  | skips => exact h.ages (ages_setEmission _ _)
  | calls =>
    exact AllBegun.ages (w := World.log { w with subscribers := _ } _) h (ages_setEmission _ _)

lemma ActsNext.allBegun {e : Emission} {pass : Pass} {r : Result} {rest : List Nat}
    {callback : String} {script : List Action} (ha : w.ActsNext e pass r rest callback script w')
    (h : w.AllBegun) (hs : w.Steady) : w'.AllBegun := by
  cases ha with
  | rests => exact h.ages (ages_setEmission _ _)
  | @acts a script v reply hp =>
    have hc := (carries_perform hs a).begun h
    rw [hp] at hc
    exact AllBegun.ages (w := World.log _ _) hc (ages_setEmission _ _)
  | @panics a script v text hp =>
    have hc := (carries_perform hs a).begun h
    rw [hp] at hc
    exact hc

lemma GoesOn.freshDepart (hg : w.GoesOn w') (h : w.AllBegun) (hs : w.Steady) : w'.FreshDepart := by
  cases hg with
  | enters => exact (((h.setEngine _ _).log _).ages (ages_setEmission _ _)).freshDepart
  | looks _ _ hl => exact hl.freshDepart h
  | polls | stalls => exact AllBegun.freshDepart (h.of_flights rfl)
  | approaches _ _ ha => exact (ha.allBegun h).freshDepart
  | calls _ _ hc => exact (hc.allBegun h).freshDepart
  | acts _ _ ha => exact (ha.allBegun h hs).freshDepart

lemma DropsEmission.allBegun {e : Emission} (hd : w.DropsEmission e w') (h : w.AllBegun) :
    w'.AllBegun := by
  cases hd with
  | outside => exact h
  | waiting =>
    exact (((h.fades (fadingUnheld_release _ _ _).toFading).makeWay e _).setEngine _ _).log _
  | inside => exact ((h.makeWay e _).setEngine _ _).log _

lemma AllBegun.setJob (h : w.AllBegun) (j : Job) : (w.setJob j).AllBegun :=
  h.of_flights (flights_setJob w j)

lemma Pauses.allBegun (hp : w.Pauses w') (h : w.AllBegun) : w'.AllBegun := by
  cases hp with
  | idle | ends | rests => exact h
  | returns =>
    exact AllBegun.fades (w := { w with running := none, rewoken := false, focus := .idle }) h
      (fadingUnheld_enqueue _ _).toFading

lemma Stalls.allBegun (hst : w.Stalls w') (h : w.AllBegun) : w'.AllBegun := by
  cases hst with
  | flight hd hf => exact h.setFlight hf rfl
  | misses | branch => exact h
  | task _ _ hp => exact hp.allBegun h

lemma TurnsFan.allBegun {f : Fan} (ht : w.TurnsFan f w') (h : w.AllBegun) : w'.AllBegun := by
  cases ht with
  | polls | ends => exact (h.setJob _).aim _
  | waits _ hp => exact hp.allBegun (h.setJob _)
  | yields _ hp => exact hp.allBegun (h.setJob _)

lemma TurnsToNext.allBegun (ht : w.TurnsToNext w') (h : w.AllBegun) : w'.AllBegun := by
  cases ht with
  | fan _ hf => exact hf.allBegun h
  | pauses _ hp => exact hp.allBegun h

lemma AllBegun.clearAll (h : w.AllBegun) (host node : String) (keys : List String) :
    (keys.foldl (fun w k => w.clear host ⟨node, k⟩) w).AllBegun := by
  induction keys generalizing w with
  | nil => exact h
  | cons k keys ih =>
    exact ih (AllBegun.fades (w := w.setEngine host _) h (fadingUnheld_releaseAll _ _).toFading)

lemma Invalidates.allBegun {host node : String} {keys : Option (List String)}
    (hi : w.Invalidates host node keys w') (h : w.AllBegun) : w'.AllBegun := by
  cases hi with
  | misses => exact h
  | starts _ hf => exact hf.allBegun (AllBegun.clearAll (w := w.log _) h host node _)

lemma ResumesTask.freshDepart (hr : w.ResumesTask w') (h : w.AllBegun) : w'.FreshDepart := by
  cases hr with
  | finds | polls | works | emits | panics | ends | nothing =>
    exact AllBegun.freshDepart (h.of_flights rfl)
  | joins => exact ((h.join _ _).ages (ages_setJob _ _)).freshDepart
  | computes => exact AllBegun.freshDepart ((h.setJob _).of_flights rfl)
  | invalidates _ hi => exact (hi.allBegun h).freshDepart
  | turns _ hf => exact (hf.allBegun h).freshDepart
  | @follows t v hj he hp =>
    have hk := fadingUnheld_modifyTask w t (fun task => { task with follower := w.running })
      fun _ _ => rfl
    exact (hp.allBegun (h.fades hk.toFading)).freshDepart

lemma ForgetsParty.allBegun (hf : w.ForgetsParty w') (h : w.AllBegun) : w'.AllBegun := by
  cases hf with
  | work => exact h.ages (ages_setWork rfl)
  | @emission e => exact (dropsEmission _ e.recalled).allBegun (h.setJob _)
  | output => exact h.setJob _
  | nobody => exact h

lemma Unwinds.allBegun {text : String} (hu : w.Unwinds text w') (h : w.AllBegun) : w'.AllBegun := by
  have hforget := w.forgetsParty.allBegun h
  cases hu with
  | breaks hd hf => exact hforget.setFlight hf rfl
  | misses | ends => exact hforget

lemma DropsBranch.allBegun {i : Nat} (hd : w.DropsBranch i w') (h : w.AllBegun) : w'.AllBegun := by
  cases hd with
  | @branch f e => exact (dropsEmission _ e).allBegun (h.setJob _)
  | nothing => exact h

lemma AllBegun.branches (h : w.AllBegun) (order : List Nat) :
    (order.foldl World.dropBranch w).AllBegun := by
  induction order generalizing w with
  | nil => exact h
  | cons i order ih => exact ih ((w.dropsBranch i).allBegun h)

lemma DropsJob.allBegun (hd : w.DropsJob w') (h : w.AllBegun) : w'.AllBegun := by
  cases hd with
  | output | work => exact (h.setJob _).fades (fadingUnheld_release _ _ _).toFading
  | @emission e => exact (dropsEmission _ e).allBegun (h.setJob _)
  | @branches f => exact h.branches f.leaving
  | nothing => exact h

lemma EndsTask.allBegun {how : End} (he : w.EndsTask how w') (h : w.AllBegun) : w'.AllBegun := by
  have hleave (t : Nat) (task : Task) : (w.leaveTask t task how).AllBegun := by
    have hdrop := w.dropsJob.allBegun h
    obtain ⟨tasks, hclose⟩ := w.closeTask_eq t how
    obtain ⟨subscriptions, hleave⟩ := w.leaveTask_eq t task how
    rw [hleave, hclose]
    exact hdrop.of_flights rfl
  cases he with
  | idle | misses => exact h
  | leaves => exact hleave _ _
  | calls => exact (hleave _ _).fades (fadingUnheld_enqueue _ _).toFading

lemma freshDepart_step (h : w.Steady) (hb : w.FreshDepart) : w.step.FreshDepart := by
  unfold step
  have hall : w.focus.isFlying = false → w.AllBegun := hb.allBegun
  generalize hf : w.focus = focus at hall ⊢
  cases focus with
  | idle => exact hb
  | poll own => exact (w.pollsFlight own).freshDepart hb hf
  | work => exact w.resumesWork.freshDepart hb hf
  | resume => exact w.resumesTask.freshDepart (hall rfl)
  | make r => exact (w.makesRecipe r).freshDepart (hall rfl)
  | made c => exact ((w.finishesWork c).allBegun (hall rfl)).freshDepart
  | answer r => exact ((w.handsAnswer r).allBegun (hall rfl)).freshDepart
  | stall => exact (w.stalls.allBegun (hall rfl)).freshDepart
  | emission => exact w.goesOn.freshDepart (hall rfl) h
  | next finished => exact ((w.turnsToNext finished).allBegun (hall rfl)).freshDepart
  | finish how => exact ((w.endsTask how).allBegun (hall rfl)).freshDepart
  | panic text => exact ((w.unwinds text).allBegun (hall rfl)).freshDepart

/-- Whatever is done while no task runs finds all flights begun. -/
lemma FreshDepart.of_idle (h : w.FreshDepart) (hf : w.focus = .idle) : w.AllBegun :=
  h.allBegun (by rw [hf]; rfl)

lemma AllBegun.poll (h : w.AllBegun) (t : Nat) : (w.poll t).AllBegun :=
  h.of_flights (flights_poll w t)

end World

end Dataflow
