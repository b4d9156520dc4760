import Dataflow.Proofs.Leading

/-!
# Works of the leading strand

A flight is polled, a work goes on and a result lands in the whole as they do in the strand that
leads.
-/

namespace Dataflow

namespace World

namespace Lead

variable {S T : Side} {v u w : World}

lemma pollFlight (h : Lead S T v u w) (hr : v.running ≠ none) (own : Handle) :
    Lead S T (v.pollFlight own) u (w.pollFlight (own.rename S)) := by
  have hself := h.self hr
  obtain ⟨i, seat⟩ := own
  unfold World.pollFlight
  simp only [Handle.rename]
  cases hf : v.flights[i]? with
  | none =>
    rw [h.own.flights.get_none hf]
    exact h.shift .stall rfl
  | some f' =>
    obtain ⟨f, hf, rfl, ho, ha⟩ := h.own.flights.get hf
    rw [hf]
    obtain ⟨work, status, seats⟩ := f'
    have hsit := seats.sit_rename (S := S) seat v.self
    have hkeep := h.keep ⟨i, some (seats.sit seat v.self).1⟩
    -- whoever polls takes a seat in what is left of the flight once the seat was noted
    have hleft := hkeep.own.flights.getD (show Flight.Resembles S _ ⟨work, status, seats⟩ from
      ⟨rfl, ho, ha⟩) i
    have hseat : ∀ {g g' : Flight} (seats : Seats), g.Resembles S g' →
        Flight.Resembles S { g with seats := seats.rename S } { g' with seats } :=
      fun _ hg => ⟨by rw [hg.eq]; rfl, hg.own, hg.alone⟩
    have hdrive : ∀ {g g' : Flight} (seats : Seats), g.Resembles S g' →
        Flight.Resembles S { g with seats := seats.rename S, status := .driven }
          { g' with seats, status := .driven } :=
      fun _ hg => ⟨by rw [hg.eq]; rfl, hg.own, hg.alone⟩
    cases status with
    | landed r => exact h.shift (.answer r) rfl
    | idle =>
      simp only [Flight.rename, Status.rename, Handle.rename, hself, hsit] at hkeep hleft ⊢
      have hset := hkeep.setFlight i (hdrive (seats.sit seat v.self).2 hleft)
      exact (hset.drive i).shift .work rfl
    | broken =>
      simp only [Flight.rename, Status.rename, Handle.rename, hself, hsit] at hkeep hleft ⊢
      exact (hkeep.setFlight i (hseat _ hleft)).breakDown .former _
    | _ =>
      simp only [Flight.rename, Status.rename, Handle.rename, hself, hsit] at hkeep hleft ⊢
      exact (hkeep.setFlight i (hseat _ hleft)).shift .stall rfl

lemma ticket? (h : Lead S T v u w) : w.ticket? = v.ticket?.map (S .flight) := by
  unfold World.ticket?
  rw [h.driving]
  cases v.driving <;> rfl

lemma resumeWork (h : Lead S T v u w) (hr : v.running ≠ none) :
    Lead S T v.resumeWork u w.resumeWork := by
  have hp := h.party
  have hself := h.self hr
  have hstall := h.shift .stall rfl
  unfold World.resumeWork
  generalize w.party = p at hp
  generalize v.party = p' at hp
  cases hp with
  | @work k ho ha =>
    have hgoing := h.setWork (k := { k with stage := .away }) ho ha.away
    obtain ⟨host, slot, target, stage⟩ := k
    cases stage with
    | fresh =>
      cases target with
      | error f => exact hgoing.shift (.made (.error f)) rfl
      | ok found =>
        have hlog := hgoing.log (.begun host slot v.ticket?) ho
        have hgo := hlog.aim (.make (found.1.produce slot.output))
          (by rintro r ⟨⟩; exact ha.target found.1 found.2 rfl slot.output)
        simp only [Event.rename, ← h.ticket?] at hgo
        exact hgo
    | held valve rest =>
      have halone := ha.held valve rest rfl
      simp only [Work.rename, Stage.rename]
      cases hx : v.valves[valve]? with
      | none =>
        rw [h.own.valves.get_none hx]
        exact hstall
      | some x' =>
        obtain ⟨x, hx, rfl⟩ := h.own.valves.get hx
        rw [hx]
        obtain ⟨opened, waiter⟩ := x'
        cases opened with
        | some o => exact hgoing.aim (.make (rest o)) (by rintro r ⟨⟩; exact halone o)
        | none =>
          have hset := (h.setValve valve { waiter := some v.self }).shift .stall rfl
          simp only [Valve.rename, Option.map_some, ← hself] at hset
          exact hset
    | asking own rest => exact absurd rfl (ha.asking own rest)
    | away => exact hstall
  | _ => exact hstall

lemma makeRecipe (h : Lead S T v u w) {recipe : Recipe} (hr : recipe.AsksNothing)
    (hn : ∀ k what rest, w.party = .work k → recipe = .hold what rest →
      S .valve v.valves.length = w.valves.length) :
    Lead S T (v.makeRecipe recipe) u (w.makeRecipe recipe) := by
  have hp := h.party
  have hstall := h.shift .stall rfl
  unfold World.makeRecipe
  generalize w.party = p at hp hn
  generalize v.party = p' at hp
  cases hp with
  | @work k ho ha =>
    cases recipe with
    | finish handed =>
      have hlog := h.log (.handed k.host k.slot v.ticket? handed) ho
      simp only [Event.rename, ← h.ticket?] at hlog
      simp only [Work.judge_rename]
      cases k.judge handed with
      | ok c => exact hlog.shift (.made c) rfl
      | error text => exact hlog.breakDown .node text
    | crash text => exact h.breakDown .node text
    | peek cell rest =>
      simp only [h.own.cells]
      exact h.aim (.make (rest (v.cells.get? cell))) (by rintro r ⟨⟩; exact hr _)
    | announce what rest =>
      exact (h.log (.producing what none) rfl).aim (.make rest)
        (by rintro r ⟨⟩; exact hr)
    | hold what rest =>
      have hnext := hn _ what rest rfl rfl
      have hlog := (h.addValve hnext).log (.producing what (some v.valves.length)) rfl
      have hset := hlog.setWork (k := { k with stage := .held v.valves.length rest }) ho
        ⟨ha.target, by rintro _ _ ⟨⟩; exact hr, by rintro _ _ ⟨⟩⟩
      have hgo := hset.shift .work rfl
      simp only [Event.rename, Work.rename, Stage.rename, Option.map_some, hnext] at hgo
      exact hgo
    | ask host slot rest => exact hr.elim
  | _ => exact hstall

lemma land (h : Lead S T v u w) (i : Nat) {f' : Flight} (ho : S.nodes f'.work.slot.node = true)
    (ha : f'.work.AsksNothing) (r : Result) :
    Lead S T (v.land i f' r) u (w.land (S .flight i) (f'.rename S) (r.rename S)) := by
  obtain ⟨⟨host, slot, target, stage⟩, status, seats⟩ := f'
  have he := h.own.engine host
  have hset := h.setEngine (he.land ho i r)
    ((h.other.engine host).land_other (h.opposite.other ho) _ _)
  have hlog := hset.log
    (.landed host slot i r ((v.engine host).flying slot = some i)) ho
  have hflight := hlog.setFlight i
    (show Flight.Resembles S _ ⟨⟨host, slot, target, stage⟩, .landed r, {}⟩ from ⟨rfl, ho, ha⟩)
  have hwake := hflight.wake seats.waiters
  unfold World.land
  simp only [Flight.rename, Work.rename, he.flying_iff ho i, Seats.waiters_rename]
  exact hwake

lemma finishWork (h : Lead S T v u w) (hn : S .result v.nextResult = w.nextResult)
    (c : Content) : Lead S T (v.finishWork c) u (w.finishWork c) := by
  have hcount := h.countResult hn
  have hresult : (⟨w.nextResult, c⟩ : Result) = Result.rename S ⟨v.nextResult, c⟩ := by
    rw [Result.rename, hn]
  have hdriving := h.driving
  unfold World.finishWork
  dsimp only
  generalize ({ v with nextResult := v.nextResult + 1 } : World) = v' at hcount ⊢
  generalize ({ w with nextResult := w.nextResult + 1 } : World) = w' at hcount ⊢
  cases hd : v.driving with
  | nil =>
    rw [hd] at hdriving
    rw [hdriving, hresult]
    exact hcount.shift (.finish (.result ⟨v.nextResult, c⟩)) rfl
  | cons i outer =>
    rw [hd] at hdriving
    rw [hdriving]
    simp only [List.map_cons]
    cases hf : v.flights[i]? with
    | none =>
      rw [h.own.flights.get_none hf]
      exact hcount.shift .stall rfl
    | some f' =>
      obtain ⟨f, hf, rfl, ho, ha⟩ := h.own.flights.get hf
      rw [hf, hresult]
      exact ((hcount.land i ho ha ⟨v.nextResult, c⟩).withDriving outer).shift
        (.answer ⟨v.nextResult, c⟩) rfl

lemma handAnswer (h : Lead S T v u w) (r : Result) :
    Lead S T (v.handAnswer r) u (w.handAnswer (r.rename S)) := by
  have hp := h.party
  have hstall := h.shift .stall rfl
  unfold World.handAnswer
  generalize w.party = p at hp
  generalize v.party = p' at hp
  cases hp with
  | @work k ho ha =>
    obtain ⟨host, slot, target, stage⟩ := k
    cases stage with
    | asking own rest => exact absurd rfl (ha.asking own rest)
    | _ => exact hstall
  | emission he =>
    obtain ⟨ho, hp⟩ := he
    cases hp with
    | waiting pass clears clears' own =>
      exact (h.setEmission (.of ho (.ready pass clears clears'))).shift .emission rfl
    | _ => exact hstall
  | output ho own => exact h.shift (.finish (.result r)) rfl
  | nobody => exact hstall

end Lead

end World

end Dataflow
