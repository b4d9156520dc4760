import Dataflow.World.Works
import Mathlib.Tactic.Lemma

/-!
# What works and flights come to

The functions that drive works and flights, taken apart once. Each of them comes to one of few worlds,
and a relation between the world before and the world after is read off the cases.
-/

namespace Dataflow

namespace World

variable {w : World}

/-- Nothing comes of a change to a task that there is not. -/
lemma modifyTask_cases (w : World) (t : Nat) (g : Task → Task) :
    (∃ task, w.tasks[t]? = some task ∧
      w.modifyTask t g = { w with tasks := w.tasks.set t (g task) }) ∨ w.modifyTask t g = w := by
  unfold modifyTask
  cases ht : w.tasks[t]? with
  | some task => exact .inl ⟨task, rfl, rfl⟩
  | none => exact .inr rfl

lemma setJob_cases (w : World) (j : Job) :
    (∃ t task, w.running = some t ∧ w.tasks[t]? = some task ∧
      w.setJob j = { w with tasks := w.tasks.set t { task with job := j } }) ∨ w.setJob j = w := by
  unfold setJob
  cases w.running with
  | none => exact .inr rfl
  | some t =>
    cases ht : w.tasks[t]? with
    | none => exact .inr (by simp [ht])
    | some task => exact .inl ⟨t, task, rfl, ht, by simp [ht]⟩

@[simp] lemma flights_aim (w : World) (f : Focus) : (w.aim f).flights = w.flights := rfl

@[simp] lemma flights_setJob (w : World) (j : Job) : (w.setJob j).flights = w.flights := by
  rcases setJob_cases w j with ⟨t, task, -, -, heq⟩ | heq <;> rw [heq]

@[simp] lemma journal_setJob (w : World) (j : Job) : (w.setJob j).journal = w.journal := by
  rcases setJob_cases w j with ⟨t, task, -, -, heq⟩ | heq <;> rw [heq]

@[simp] lemma focus_setJob (w : World) (j : Job) : (w.setJob j).focus = w.focus := by
  rcases setJob_cases w j with ⟨t, task, -, -, heq⟩ | heq <;> rw [heq]

lemma setWork_cases (w : World) (k : Work) :
    (∃ ticket outer f, w.driving = ticket :: outer ∧ w.flights[ticket]? = some f ∧
      w.setWork k = w.setFlight ticket { f with work := k }) ∨
    (∃ ticket outer, w.driving = ticket :: outer ∧ w.flights[ticket]? = none ∧ w.setWork k = w) ∨
    w.driving = [] ∧ w.setWork k = w.setJob (.work k) := by
  unfold setWork
  cases w.driving with
  | nil => exact .inr (.inr ⟨rfl, rfl⟩)
  | cons ticket outer =>
    cases hf : w.flights[ticket]? with
    | none => exact .inr (.inl ⟨ticket, outer, rfl, hf, by simp [hf]⟩)
    | some f => exact .inl ⟨ticket, outer, f, rfl, hf, by simp [hf]⟩

lemma setWork_frame (w : World) (k : Work) :
    ∃ tasks flights, w.setWork k = { w with tasks, flights } := by
  rcases setWork_cases w k with ⟨ticket, outer, f, -, -, heq⟩ | ⟨ticket, outer, -, -, heq⟩ | ⟨-, heq⟩
  · exact ⟨_, _, heq⟩
  · exact ⟨_, _, heq⟩
  · rcases setJob_cases w (.work k) with ⟨t, task, -, -, hset⟩ | hset <;>
      exact ⟨_, _, heq.trans hset⟩

@[simp] lemma focus_setWork (w : World) (k : Work) : (w.setWork k).focus = w.focus := by
  obtain ⟨tasks, flights, heq⟩ := w.setWork_frame k
  rw [heq]

@[simp] lemma driving_setWork (w : World) (k : Work) : (w.setWork k).driving = w.driving := by
  obtain ⟨tasks, flights, heq⟩ := w.setWork_frame k
  rw [heq]

lemma setEmission_cases (w : World) (e : Emission) :
    (∃ f, w.job = .fan f ∧ w.setEmission e = w.setJob (.fan (f.setCurrent (some e)))) ∨
    (∀ f, w.job ≠ .fan f) ∧ w.setEmission e = w.setJob (.emit e) := by
  unfold setEmission
  cases w.job with
  | fan f => exact .inl ⟨f, rfl, rfl⟩
  | _ => exact .inr ⟨by rintro f ⟨⟩, rfl⟩

@[simp] lemma focus_setEmission (w : World) (e : Emission) : (w.setEmission e).focus = w.focus := by
  rcases setEmission_cases w e with ⟨f, -, heq⟩ | ⟨-, heq⟩ <;> rw [heq, focus_setJob]

/-- A share in what is in flight, or in a flight that takes off for it. -/
lemma join_cases (w : World) (host : String) (s : Slot) :
    (∃ ticket, (w.engine host).flying s = some ticket ∧ w.join host s = (w, { ticket })) ∨
    (w.engine host).flying s = none ∧ w.join host s =
      (({ w with
        flights := w.flights ++
          [({ work := { host, slot := s, target := (w.engine host).target s } } : Flight)] }.setEngine
        host ((w.engine host).takeOff s w.flights.length)).log (.takenOff host s w.flights.length),
        { ticket := w.flights.length }) := by
  unfold join
  cases hf : (w.engine host).flying s with
  | some ticket => exact .inl ⟨ticket, rfl, by simp [hf]⟩
  | none => exact .inr ⟨rfl, by simp [hf]⟩

@[simp] lemma job_join (w : World) (host : String) (s : Slot) : (w.join host s).1.job = w.job := by
  rcases join_cases w host s with ⟨ticket, -, heq⟩ | ⟨-, heq⟩ <;> rw [heq]
  rfl

/-- Whoever waits for a flight keeps the share that it polls with. -/
inductive KeepsShare (w : World) (own : Handle) : World → Prop where
  | work {k : Work} {held : Handle} {rest : Content → Recipe} (hp : w.party = .work k)
      (hs : k.stage = .asking held rest) :
      KeepsShare w own (w.setWork { k with stage := .asking own rest })
  | emission {e : Emission} {pass : Pass} {clears : Nat} {held : Handle}
      (hp : w.party = .emission e) (hs : e.progress = .waiting pass clears held) :
      KeepsShare w own (w.setEmission { e with progress := .waiting pass clears own })
  | output {host : String} {slot : Slot} {held : Option Handle}
      (hp : w.party = .output host slot held) :
      KeepsShare w own (w.setJob (.output host slot (some own)))
  | nothing : KeepsShare w own w

lemma keepsShare (w : World) (own : Handle) : w.KeepsShare own (w.keep own) := by
  unfold keep
  cases hp : w.party with
  | work k =>
    cases hs : k.stage with
    | asking held rest => simpa [hs] using .work hp hs
    | _ => simpa [hs] using .nothing
  | emission e =>
    cases hs : e.progress with
    | waiting pass clears held => simpa [hs] using .emission hp hs
    | _ => simpa [hs] using .nothing
  | output host slot held => exact .output hp
  | nobody => exact .nothing

lemma length_flights_setWork (w : World) (k : Work) :
    (w.setWork k).flights.length = w.flights.length := by
  rcases setWork_cases w k with ⟨ticket, outer, f, -, -, heq⟩ | ⟨ticket, outer, -, -, heq⟩ | ⟨-, heq⟩
  · rw [heq]
    exact List.length_set
  · rw [heq]
  · rw [heq, flights_setJob]

/-- No flight is gone once the share was noted. -/
lemma KeepsShare.flight {own : Handle} {v : World} (h : w.KeepsShare own v) {i : Nat} {f : Flight}
    (hf : w.flights[i]? = some f) : ∃ g, v.flights[i]? = some g := by
  have hlength : v.flights.length = w.flights.length := by
    cases h with
    | work => exact length_flights_setWork w _
    | emission =>
      rcases setEmission_cases w _ with ⟨f, -, heq⟩ | ⟨-, heq⟩ <;> rw [heq, flights_setJob]
    | output => rw [flights_setJob]
    | nothing => rfl
  have hi := (List.getElem?_eq_some_iff.mp hf).1
  exact ⟨_, List.getElem?_eq_getElem (hlength ▸ hi)⟩

/-- What comes of a poll. Who polls a flight that has not landed takes a seat there. -/
inductive PollsFlight (w : World) (own : Handle) : World → Prop where
  | misses (hf : w.flights[own.ticket]? = none) : PollsFlight w own (w.aim .stall)
  | answers {f : Flight} {r : Result} (hf : w.flights[own.ticket]? = some f)
      (hs : f.status = .landed r) : PollsFlight w own (w.aim (.answer r))
  | drives {f g : Flight} {seat : Nat} {seats : Seats} (hf : w.flights[own.ticket]? = some f)
      (hs : f.status = .idle) (hsit : f.seats.sit own.seat w.self = (seat, seats))
      (hg : (w.keep { own with seat := some seat }).flights[own.ticket]? = some g) :
      PollsFlight w own
        ({ (w.keep { own with seat := some seat }).setFlight own.ticket
            { g with seats, status := .driven } with
          driving := own.ticket :: (w.keep { own with seat := some seat }).driving }.aim .work)
  | breaks {f g : Flight} {seat : Nat} {seats : Seats} (hf : w.flights[own.ticket]? = some f)
      (hs : f.status = .broken) (hsit : f.seats.sit own.seat w.self = (seat, seats))
      (hg : (w.keep { own with seat := some seat }).flights[own.ticket]? = some g) :
      PollsFlight w own
        (((w.keep { own with seat := some seat }).setFlight own.ticket { g with seats }).breakDown
          .former "inner future panicked during poll")
  | waits {f g : Flight} {seat : Nat} {seats : Seats} (hf : w.flights[own.ticket]? = some f)
      (hs : f.status = .driven ∨ f.status = .lost) (hsit : f.seats.sit own.seat w.self = (seat, seats))
      (hg : (w.keep { own with seat := some seat }).flights[own.ticket]? = some g) :
      PollsFlight w own
        (((w.keep { own with seat := some seat }).setFlight own.ticket { g with seats }).aim .stall)

lemma pollsFlight (w : World) (own : Handle) : w.PollsFlight own (w.pollFlight own) := by
  unfold pollFlight
  cases hf : w.flights[own.ticket]? with
  | none => exact .misses hf
  | some f =>
    rcases hsit : f.seats.sit own.seat w.self with ⟨seat, seats⟩
    obtain ⟨g, hg⟩ := (w.keepsShare { own with seat := some seat }).flight hf
    cases hs : f.status with
    | landed r => simpa [hs] using PollsFlight.answers hf hs
    | idle => simpa [hs, hsit, hg] using PollsFlight.drives hf hs hsit hg
    | broken => simpa [hs, hsit, hg] using PollsFlight.breaks hf hs hsit hg
    | driven => simpa [hs, hsit, hg] using PollsFlight.waits hf (.inl hs) hsit hg
    | lost => simpa [hs, hsit, hg] using PollsFlight.waits hf (.inr hs) hsit hg

/-- What comes of a work that is taken up. -/
inductive ResumesWork (w : World) : World → Prop where
  | begins {k : Work} {n : Node} {schema : Schema} (hp : w.party = .work k) (hs : k.stage = .fresh)
      (ht : k.target = .ok (n, schema)) :
      ResumesWork w (((w.setWork { k with stage := .away }).log
        (.begun k.host k.slot w.ticket?)).aim (.make (n.produce k.slot.output)))
  | misses {k : Work} {f : Failure} (hp : w.party = .work k) (hs : k.stage = .fresh)
      (ht : k.target = .error f) :
      ResumesWork w ((w.setWork { k with stage := .away }).aim (.made (.error f)))
  | opened {k : Work} {valve : Nat} {rest : Option Outcome → Recipe} {v : Valve}
      {o : Option Outcome} (hp : w.party = .work k) (hs : k.stage = .held valve rest)
      (hv : w.valves[valve]? = some v) (ho : v.opened = some o) :
      ResumesWork w ((w.setWork { k with stage := .away }).aim (.make (rest o)))
  | waits {k : Work} {valve : Nat} {rest : Option Outcome → Recipe} {v : Valve}
      (hp : w.party = .work k) (hs : k.stage = .held valve rest)
      (hv : w.valves[valve]? = some v) (ho : v.opened = none) :
      ResumesWork w
        ({ w with valves := w.valves.set valve { v with waiter := some w.self } }.aim .stall)
  | polls {k : Work} {own : Handle} {rest : Content → Recipe} (hp : w.party = .work k)
      (hs : k.stage = .asking own rest) : ResumesWork w (w.aim (.poll own))
  | stalls (hs : ∀ k, w.party = .work k → k.stage ≠ .fresh) : ResumesWork w (w.aim .stall)

lemma resumesWork (w : World) : w.ResumesWork w.resumeWork := by
  unfold resumeWork
  cases hp : w.party with
  | work k =>
    have hstalls (hs : k.stage ≠ .fresh) : w.ResumesWork (w.aim .stall) :=
      .stalls (by simpa [hp] using hs)
    cases hs : k.stage with
    | fresh =>
      cases ht : k.target with
      | ok target => simpa [hs, ht] using ResumesWork.begins hp hs ht
      | error f => simpa [hs, ht] using ResumesWork.misses hp hs ht
    | held valve rest =>
      cases hv : w.valves[valve]? with
      | none => simpa [hs, hv] using hstalls
      | some v =>
        obtain ⟨opened, waiter⟩ := v
        cases opened with
        | none => simpa [hs, hv] using ResumesWork.waits hp hs hv rfl
        | some o => simpa [hs, hv] using ResumesWork.opened hp hs hv rfl
    | asking own rest => simpa [hs] using ResumesWork.polls hp hs
    | away => simpa [hs] using hstalls
  | _ => exact .stalls (by simp [hp])

/-- What comes of a recipe. -/
inductive MakesRecipe (w : World) : Recipe → World → Prop where
  | finishes {k : Work} {handed : Except Cause Payload} {c : Content} (hp : w.party = .work k)
      (hj : k.judge handed = .ok c) :
      MakesRecipe w (.finish handed)
        ((w.log (.handed k.host k.slot w.ticket? handed)).aim (.made c))
  | misfits {k : Work} {handed : Except Cause Payload} {text : String} (hp : w.party = .work k)
      (hj : k.judge handed = .error text) :
      MakesRecipe w (.finish handed)
        ((w.log (.handed k.host k.slot w.ticket? handed)).breakDown .node text)
  | crashes {k : Work} {text : String} (hp : w.party = .work k) :
      MakesRecipe w (.crash text) (w.breakDown .node text)
  | peeks {k : Work} {cell : String} {rest : Option Outcome → Recipe} (hp : w.party = .work k) :
      MakesRecipe w (.peek cell rest) (w.aim (.make (rest (w.cells.get? cell))))
  | announces {k : Work} {what : Announcement} {rest : Recipe} (hp : w.party = .work k) :
      MakesRecipe w (.announce what rest) ((w.log (.producing what none)).aim (.make rest))
  | holds {k : Work} {what : Announcement} {rest : Option Outcome → Recipe} (hp : w.party = .work k) :
      MakesRecipe w (.hold what rest)
        ((({ w with valves := w.valves ++ [({} : Valve)] }.log
          (.producing what (some w.valves.length))).setWork
            { k with stage := .held w.valves.length rest }).aim .work)
  | finds {k : Work} {host : String} {slot : Slot} {rest : Content → Recipe} {r : Result}
      (hp : w.party = .work k) (hc : (w.engine host).cached slot = some r) :
      MakesRecipe w (.ask host slot rest) (w.aim (.make (rest r.content)))
  | asks {k : Work} {host : String} {slot : Slot} {rest : Content → Recipe}
      (hp : w.party = .work k) (hc : (w.engine host).cached slot = none) :
      MakesRecipe w (.ask host slot rest)
        (((w.join host slot).1.setWork { k with stage := .asking (w.join host slot).2 rest }).aim
          (.poll (w.join host slot).2))
  | stalls {r : Recipe} (hp : ∀ k, w.party ≠ .work k) : MakesRecipe w r (w.aim .stall)

lemma makesRecipe (w : World) (r : Recipe) : w.MakesRecipe r (w.makeRecipe r) := by
  unfold makeRecipe
  cases hp : w.party with
  | work k =>
    cases r with
    | finish handed =>
      cases hj : k.judge handed with
      | ok c => simpa [hj] using MakesRecipe.finishes hp hj
      | error text => simpa [hj] using MakesRecipe.misfits hp hj
    | crash text => exact .crashes hp
    | peek cell rest => exact .peeks hp
    | announce what rest => exact .announces hp
    | hold what rest => exact .holds hp
    | ask host slot rest =>
      cases hc : (w.engine host).cached slot with
      | some r => simpa [hc] using MakesRecipe.finds hp hc
      | none => simpa [hc] using MakesRecipe.asks hp hc
  | _ => exact .stalls (by simp [hp])

/-- What comes of a work that has come to its content. -/
inductive FinishesWork (w : World) (c : Content) : World → Prop where
  | ends (hd : w.driving = []) : FinishesWork w c
      ({ w with nextResult := w.nextResult + 1 }.aim (.finish (.result ⟨w.nextResult, c⟩)))
  | misses {ticket : Nat} {outer : List Nat} (hd : w.driving = ticket :: outer)
      (hf : w.flights[ticket]? = none) :
      FinishesWork w c ({ w with nextResult := w.nextResult + 1 }.aim .stall)
  | lands {ticket : Nat} {outer : List Nat} {f : Flight} (hd : w.driving = ticket :: outer)
      (hf : w.flights[ticket]? = some f) : FinishesWork w c
      ({ { w with nextResult := w.nextResult + 1 }.land ticket f ⟨w.nextResult, c⟩ with
        driving := outer }.aim (.answer ⟨w.nextResult, c⟩))

lemma finishesWork (w : World) (c : Content) : w.FinishesWork c (w.finishWork c) := by
  unfold finishWork
  cases hd : w.driving with
  | nil => simpa [hd] using FinishesWork.ends hd
  | cons ticket outer =>
    cases hf : w.flights[ticket]? with
    | none => simpa [hd, hf] using FinishesWork.misses hd hf
    | some f => simpa [hd, hf] using FinishesWork.lands hd hf

lemma finishWork_nil (hd : w.driving = []) (c : Content) :
    w.finishWork c =
      { w with nextResult := w.nextResult + 1 }.aim (.finish (.result ⟨w.nextResult, c⟩)) := by
  unfold finishWork
  simp only [hd]

lemma finishWork_cons {ticket : Nat} {outer : List Nat} {f : Flight}
    (hd : w.driving = ticket :: outer) (hf : w.flights[ticket]? = some f) (c : Content) :
    w.finishWork c =
      { { w with nextResult := w.nextResult + 1 }.land ticket f ⟨w.nextResult, c⟩ with
        driving := outer }.aim (.answer ⟨w.nextResult, c⟩) := by
  unfold finishWork
  simp only [hd, hf]

/-- What comes of an answer. -/
inductive HandsAnswer (w : World) (r : Result) : World → Prop where
  | resumes {k : Work} {own : Handle} {rest : Content → Recipe} (hp : w.party = .work k)
      (hs : k.stage = .asking own rest) :
      HandsAnswer w r ((w.setWork { k with stage := .away }).aim (.make (rest r.content)))
  | readies {e : Emission} {pass : Pass} {clears : Nat} {own : Handle} (hp : w.party = .emission e)
      (hs : e.progress = .waiting pass clears own) :
      HandsAnswer w r ((w.setEmission { e with progress := .ready pass clears }).aim .emission)
  | ends {host : String} {slot : Slot} {own : Option Handle} (hp : w.party = .output host slot own) :
      HandsAnswer w r (w.aim (.finish (.result r)))
  | stalls : HandsAnswer w r (w.aim .stall)

lemma handsAnswer (w : World) (r : Result) : w.HandsAnswer r (w.handAnswer r) := by
  unfold handAnswer
  cases hp : w.party with
  | work k =>
    cases hs : k.stage with
    | asking own rest => simpa [hs] using HandsAnswer.resumes hp hs
    | _ => simpa [hs] using HandsAnswer.stalls
  | emission e =>
    cases hs : e.progress with
    | waiting pass clears own => simpa [hs] using HandsAnswer.readies hp hs
    | _ => simpa [hs] using HandsAnswer.stalls
  | output host slot own => exact .ends hp
  | nobody => exact .stalls

end World

end Dataflow
