import Dataflow.Proofs.SlotRequests

/-!
# How a slot is answered

As soon as the work of a slot comes to its content, the task that did it alone is about to end with
that, and the flight lands that did it for others. A task that waits for the flight ends with what it
has landed with as soon as it is polled again, or at once if it drives the flight itself.
-/

namespace Dataflow

/-- What a work turns to when it is taken up for the first time. -/
def Work.beginning (k : Work) : Focus :=
  match k.target with
  | .ok (n, _) => .make (n.produce k.slot.output)
  | .error f => .made (.error f)

namespace World

variable {sc : Scene} {u v w : World} {t : Nat} {host : String} {slot : Slot} {own : Handle}
  {j : Job} {k : Work} {r : Result} {x : Option (Except Cause Payload)} {c : Content}

lemma Sane.after (h : w.Sane) : w.step.Sane := ((Reachable.step .refl).goes h).1

lemma ended_of_finish (hs : w.Steady) (hr : w.running = some t) {how : End}
    (hf : w.focus = .finish how) : ∃ name, .ended t name how ∈ w.step.journal := by
  obtain ⟨task, ht, -⟩ := hs.runs t hr
  obtain ⟨v, -, -, hend⟩ := (w.endsTask how).ends hr ht
  have hstep : w.step = w.endTask how := by
    unfold World.step
    rw [hf]
  rw [hstep]
  exact ⟨task.name, hend.suffix.subset List.mem_cons_self⟩

lemma ended_of_made (hs : w.Sane) (hr : w.running = some t) (hd : w.driving = [])
    (hf : w.focus = .made c) :
    ∃ name, .ended t name (.result ⟨w.nextResult, c⟩) ∈ w.step.step.journal := by
  have hstep : w.step = w.finishWork c := by
    unfold World.step
    rw [hf]
  refine ended_of_finish hs.step.poised.steady ?_ ?_
  · rw [hstep, finishWork_nil hd]
    exact hr
  · rw [hstep, finishWork_nil hd]
    rfl

lemma ended_of_answer (hs : w.Sane) (hr : w.running = some t) (hf : w.focus = .answer r)
    {share : Option Handle} (hp : w.party = .output host slot share) :
    ∃ name, .ended t name (.result r) ∈ w.step.step.journal := by
  have hstep : w.step = w.aim (.finish (.result r)) := by
    unfold World.step handAnswer
    rw [hf]
    dsimp only
    rw [hp]
  refine ended_of_finish hs.step.poised.steady ?_ ?_
  · rw [hstep]
    exact hr
  · rw [hstep]
    rfl

/-- Whoever waits for a flight and drives nothing is concerned with that. -/
lemma Asks.party_output (h : w.Asks t (.output host slot (some own))) (hr : w.running = some t)
    (hd : w.driving = []) : ∃ share, w.party = .output host slot share := by
  have hj := h.job hr
  rw [party_eq, hd]
  unfold partyAt
  dsimp only
  generalize w.job = j at hj
  cases hj with
  | output _ => exact ⟨_, rfl⟩

/-- The task drives the flight itself that it waits for. -/
lemma ended_of_driving (hs : w.Sane) (hr : w.running = some t) {ticket : Nat}
    (hd : w.driving = [ticket]) (ha : w.Asks t (.output host slot (some own)))
    (hf : w.focus = .made c) :
    ∃ name, .ended t name (.result ⟨w.nextResult, c⟩) ∈ w.step.step.step.journal := by
  obtain ⟨f, hfl, -⟩ := hs.poised.steady.driven ticket (by rw [hd]; exact List.mem_cons_self)
  have hstep : w.step = w.finishWork c := by
    unfold World.step
    rw [hf]
  have hasks : w.step.Asks t (.output host slot (some own)) := by
    rw [hstep]
    exact (w.finishesWork c).keepsAsking ha
  have hland : w.step = { { w with nextResult := w.nextResult + 1 }.land ticket f
      ⟨w.nextResult, c⟩ with driving := [] }.aim (.answer ⟨w.nextResult, c⟩) := by
    rw [hstep]
    exact finishWork_cons hd hfl c
  have hrunning : w.step.running = some t := by
    rw [hland]
    show ({ w with nextResult := w.nextResult + 1 }.land ticket f ⟨w.nextResult, c⟩).running = _
    exact (fadingUnheld_wake _ _).running.trans hr
  obtain ⟨share, hparty⟩ := hasks.party_output hrunning (by rw [hland]; rfl)
  refine ended_of_answer hs.after hrunning ?_ hparty
  rw [hland]
  rfl

lemma landed_of_made {ticket : Nat} (ht : w.ticket? = some ticket)
    (hb : w.Bears ticket k) (hf : w.focus = .made c) :
    ∃ kept, .landed k.host k.slot ticket ⟨w.nextResult, c⟩ kept ∈ w.step.journal := by
  obtain ⟨f, hfl, halike⟩ := hb
  obtain ⟨outer, hd⟩ := List.head?_eq_some_iff.mp ht
  have hstep : w.step = w.finishWork c := by
    unfold World.step
    rw [hf]
  have hland : w.step.journal = ({ w with nextResult := w.nextResult + 1 }.land ticket f
      ⟨w.nextResult, c⟩).journal := by
    rw [hstep, finishWork_cons hd hfl]
    rfl
  rw [journal_land, halike.host, halike.slot] at hland
  exact ⟨_, by rw [hland]; exact List.mem_cons_self⟩

/-- The task is polled again after the flight has landed. -/
lemma ended_of_landed (hs : w.Sane) (hw : w.Ready t (.output host slot (some own))) {f : Flight}
    (hf : w.flights[own.ticket]? = some f) (hl : f.status = .landed r) :
    ∃ name, .ended t name (.result r) ∈ (w.takeUp t).step.step.step.step.journal := by
  have hsane : (w.takeUp t).Sane := ((reachable_takeUp hw.idle t).goes hs).1
  have hpolls : (w.takeUp t).step = (w.takeUp t).aim (.poll own) := by
    rw [hw.step_eq]
    unfold resumeTask
    rw [hw.job]
  have hanswers : (w.takeUp t).step.step = (w.takeUp t).aim (.answer r) := by
    rw [hpolls]
    unfold World.step
    dsimp only [World.aim]
    have hflight : (w.takeUp t).flights[own.ticket]? = some f := by
      rw [flights_takeUp]
      exact hf
    unfold pollFlight
    dsimp only
    rw [hflight]
    dsimp only
    rw [hl]
    rfl
  have hparty : (w.takeUp t).step.step.party = .output host slot (some own) := by
    rw [hanswers, party_eq]
    show partyAt (w.takeUp t).flights (w.takeUp t).job (w.takeUp t).driving = _
    rw [hw.driving hs, hw.job]
    rfl
  refine ended_of_answer hsane.after.after ?_ ?_ hparty
  · rw [hanswers]
    exact hw.running
  · rw [hanswers]
    rfl

lemma ResumesWork.beginning (hw : w.ResumesWork v) (hp : w.party = .work k) (hst : k.stage = .fresh) :
    v.focus = k.beginning := by
  unfold Work.beginning
  cases hw with
  | begins hp' _ ht | misses hp' _ ht =>
    cases hp.symm.trans hp'
    rw [ht]
    rfl
  | opened hp' hst' | waits hp' hst' | polls hp' hst' =>
    cases hp.symm.trans hp'
    cases hst.symm.trans hst'
  | stalls hn => exact absurd hst (hn k hp)

lemma beginning_of_party (hp : w.party = .work k) (hst : k.stage = .fresh) (hf : w.focus = .work) :
    w.step.focus = k.beginning := by
  have hstep : w.step = w.resumeWork := by
    unfold World.step
    rw [hf]
  rw [hstep]
  exact w.resumesWork.beginning hp hst

lemma Ready.begins_compute (h : w.Ready t (.compute host slot)) (hs : w.Sane) :
    (w.takeUp t).step.step.focus = (w.workOf host slot).beginning := by
  obtain ⟨task, ht, -, -, -⟩ := h.waits
  have htask : (w.takeUp t).tasks[t]? = some task := by
    rw [tasks_takeUp]
    exact ht
  have hstep := h.step_compute
  have hfocus : (w.takeUp t).step.focus = .work := by
    rw [hstep]
    rfl
  refine beginning_of_party ?_ rfl hfocus
  rw [hstep, party_eq]
  show partyAt _ ((w.takeUp t).setJob (.work (w.workOf host slot))).job
    ((w.takeUp t).setJob (.work (w.workOf host slot))).driving = _
  obtain ⟨tasks, hset⟩ := setJob_frame (w.takeUp t) (.work (w.workOf host slot))
  rw [job_setJob_of_running h.running htask, hset, h.driving hs]
  rfl

lemma step_of_poll (hf : w.focus = .poll own) : w.step = w.pollFlight own := by
  unfold World.step
  rw [hf]

lemma KeepsShare.flights_output {share : Option Handle} (hk : w.KeepsShare own v)
    (hp : w.party = .output host slot share) : v.flights = w.flights := by
  cases hk with
  | work hp' | emission hp' => cases hp.symm.trans hp'
  | output => exact flights_setJob w _
  | nothing => rfl

/-- A task that polls an idle flight drives it. -/
lemma PollsFlight.drives_idle {share : Option Handle} {f : Flight} (hpoll : w.PollsFlight own v)
    (hp : w.party = .output host slot share) (hf : w.flights[own.ticket]? = some f)
    (hi : f.status = .idle) : v.focus = .work ∧ v.party = .work f.work := by
  cases hpoll with
  | @drives f' g seat seats hf' _ _ hg =>
    cases hf.symm.trans hf'
    have hkeep := (w.keepsShare { own with seat := some seat }).flights_output hp
    rw [hkeep] at hg
    cases hf.symm.trans hg
    refine ⟨rfl, ?_⟩
    rw [party_eq]
    show partyAt ((w.keep _).flights.set _ _) _ (own.ticket :: _) = _
    rw [hkeep]
    unfold partyAt
    dsimp only
    rw [List.getElem?_set_self (List.getElem?_eq_some_iff.mp hf).1]
  | misses hf' => cases hf.symm.trans hf'
  | answers hf' hs | breaks hf' hs =>
    cases hf.symm.trans hf'
    cases hi.symm.trans hs
  | waits hf' hs =>
    cases hf.symm.trans hf'
    rcases hs with hs | hs <;> cases hi.symm.trans hs

lemma Ready.begins_output (h : w.Ready t (.output host slot none)) (hs : w.Sane)
    (hc : (w.engine host).cached slot = none) (hf : (w.engine host).flying slot = none) :
    (w.takeUp t).step.step.step.focus = (w.workOf host slot).beginning := by
  have hasks := h.asks_output hc hf
  have hflight := h.flight_output hc hf
  have hstep := h.step_output hc hf
  have hrests := (w.takeUp t).resumesTask.keepsDriving
  rw [← h.step_eq] at hrests
  have hrunning : (w.takeUp t).step.running = some t := by
    obtain ⟨tasks, hset⟩ := setJob_frame ((w.takeUp t).setOff host slot)
      (.output host slot (some { ticket := w.flights.length }))
    rw [hstep, hset]
    exact h.running
  obtain ⟨share, hparty⟩ := hasks.party_output hrunning (hrests.driving.trans (h.driving hs))
  have hpolls : (w.takeUp t).step.step =
      (w.takeUp t).step.pollFlight { ticket := w.flights.length } := by
    have hfocus : (w.takeUp t).step.focus = .poll { ticket := w.flights.length } := by
      rw [hstep]
      rfl
    exact step_of_poll hfocus
  obtain ⟨hfocus, hparty⟩ :=
    ((w.takeUp t).step.pollsFlight { ticket := w.flights.length }).drives_idle hparty hflight rfl
  rw [← hpolls] at hfocus hparty
  exact beginning_of_party hparty rfl hfocus

lemma Ready.fulfils_compute (h : w.Ready t (.compute host slot)) (hw : Reachable sc.opening w)
    (hm : Reachable (w.takeUp t) v) (hd : v.driving = []) (hr : v.running = some t)
    (hc : v.ComesTo k x c) :
    ∃ name, .ended t name (.result ⟨v.nextResult, c⟩) ∈ v.step.step.step.journal := by
  have hsane := Scene.sane_of_reachable ((hw.trans (reachable_takeUp h.idle t)).trans hm)
  obtain ⟨hf, hkeeps⟩ := hc.step
  have hends := ended_of_made hsane.after (hkeeps.running.trans hr) (hkeeps.driving.trans hd) hf
  rw [hkeeps.nextResult] at hends
  exact hends

section

variable (h : w.Ready t (.output host slot none)) (hw : Reachable sc.opening w)
  (hcached : (w.engine host).cached slot = none) (hflying : (w.engine host).flying slot = none)

include h hw hcached hflying

/-- The flight is that of the slot from the first step on. -/
lemma Ready.bears_output (hv : Reachable (w.takeUp t).step v) :
    v.Bears w.flights.length (w.workOf host slot) := by
  have hstep : Reachable sc.opening (w.takeUp t).step :=
    .step (hw.trans (reachable_takeUp h.idle t))
  exact hv.bears (Scene.sane_of_reachable hstep) (Scene.due_of_reachable hstep)
    ⟨_, h.flight_output hcached hflying, rfl, rfl, rfl⟩

lemma Ready.pursues_output (hv : Reachable (w.takeUp t).step v) :
    v.Pursues t (.output host slot (some { ticket := w.flights.length })) := by
  have hstep : Reachable sc.opening (w.takeUp t).step :=
    .step (hw.trans (reachable_takeUp h.idle t))
  exact hv.pursues (Scene.sane_of_reachable hstep) (.asks (h.asks_output hcached hflying))

lemma Ready.lands_output (hv : Reachable (w.takeUp t) v)
    (ht : v.ticket? = some w.flights.length) (hc : v.ComesTo k x c) :
    ∃ kept, .landed host slot w.flights.length ⟨v.nextResult, c⟩ kept ∈ v.step.step.journal := by
  have hidle : (w.takeUp t).focus ≠ .idle := by
    rw [h.focus]
    rintro ⟨⟩
  obtain ⟨hf, hkeeps⟩ := hc.step
  rcases hv.past hidle with rfl | hv'
  · exact absurd h.focus hc.ne_resume
  have hticket : v.step.ticket? = some w.flights.length := by
    rw [ticket?, hkeeps.driving]
    exact ht
  have hlands := landed_of_made hticket
    (h.bears_output hw hcached hflying (.step hv')) hf
  rw [hkeeps.nextResult] at hlands
  exact hlands

/-- The task drives the flight itself. -/
lemma Ready.fulfils_output (hv : Reachable (w.takeUp t) v) (hd : v.driving = [w.flights.length])
    (hr : v.running = some t) (hc : v.ComesTo k x c) :
    ∃ name, .ended t name (.result ⟨v.nextResult, c⟩) ∈ v.step.step.step.step.journal := by
  have hidle : (w.takeUp t).focus ≠ .idle := by
    rw [h.focus]
    rintro ⟨⟩
  obtain ⟨hf, hkeeps⟩ := hc.step
  rcases hv.past hidle with rfl | hv'
  · exact absurd h.focus hc.ne_resume
  have hsane := Scene.sane_of_reachable ((hw.trans (reachable_takeUp h.idle t)).trans hv)
  have hrunning := hkeeps.running.trans hr
  have hasks := (h.pursues_output hw hcached hflying (.step hv')).asks_of_running
    hsane.after.poised.steady hrunning (congrArg Focus.isFinish hf)
  have hends := ended_of_driving hsane.after hrunning (hkeeps.driving.trans hd) hasks hf
  rw [hkeeps.nextResult] at hends
  exact hends

/-- The flight has landed, and the task is polled again. -/
lemma Ready.answers_output (hv : Reachable (w.takeUp t) v) {kept : Bool}
    (hl : .landed host slot w.flights.length r kept ∈ v.journal)
    (hready : v.Ready t (.output host slot (some own))) :
    ∃ name, .ended t name (.result r) ∈ (v.takeUp t).step.step.step.step.journal := by
  have hidle : (w.takeUp t).focus ≠ .idle := by
    rw [h.focus]
    rintro ⟨⟩
  rcases hv.past hidle with rfl | hv'
  · exact absurd hready.idle hidle
  have hsane := Scene.sane_of_reachable ((hw.trans (reachable_takeUp h.idle t)).trans hv)
  obtain ⟨task, ht, hjob, he, -⟩ := hready.waits
  have hticket : own.ticket = w.flights.length := by
    cases h.pursues_output hw hcached hflying hv' with
    | asks ha =>
      obtain ⟨task', ht', -, hpersists⟩ := ha
      rw [ht] at ht'
      cases ht'
      rw [hjob] at hpersists
      cases hpersists with
      | output heq => exact heq
    | doomed _ hd =>
      have haim := hsane.poised.aimed
      rw [hready.idle] at haim
      cases haim.2.2.symm.trans hd.1
    | finished ho =>
      obtain ⟨task', how, ht', he'⟩ := ho
      rw [ht] at ht'
      cases ht'
      cases he.symm.trans he'
  obtain ⟨-, d, hd, hlanded, -, -⟩ := hsane.sound.logged.landing _ _ _ _ _ hl
  have hd' : (v.flights.map Flight.departure)[w.flights.length]? = some d := hd
  rw [List.getElem?_map, Option.map_eq_some_iff] at hd'
  obtain ⟨f, hf, rfl⟩ := hd'
  exact ended_of_landed hsane hready (by rw [hticket]; exact hf) (Status.landed_iff.mpr hlanded)

end

end World

end Dataflow
