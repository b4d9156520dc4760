import Dataflow.World.Party
import Dataflow.World.Shares
import Dataflow.World.Waking

/-!
# Works and flights

A work follows the recipe of its node until it has to wait or comes to its content. A flight is
only ever moved on by `pollFlight`: whoever polls an idle flight drives it, and a flight may in turn
poll another one. When its work is done the flight lands, still within that poll.
-/

namespace Dataflow

namespace World

/-- The innermost party polls a flight. It takes a seat there, and drives the flight if nobody else
does. -/
def pollFlight (w : World) (h : Handle) : World :=
  match w.flights[h.ticket]? with
  | none => w.aim .stall
  | some f =>
    match f.status with
    | .landed r => w.aim (.answer r)
    | status =>
      let (seat, seats) := f.seats.sit h.seat w.self
      let w := w.keep { h with seat := some seat }
      let f := { (w.flights[h.ticket]?).getD f with seats }
      match status with
      | .idle =>
        { w.setFlight h.ticket { f with status := .driven } with
          driving := h.ticket :: w.driving }.aim .work
      | .broken =>
        (w.setFlight h.ticket f).breakDown .former "inner future panicked during poll"
      | _ => (w.setFlight h.ticket f).aim .stall

/-- The ticket of the flight that the innermost work belongs to. -/
def ticket? (w : World) : Option Nat := w.driving.head?

/-- Takes the innermost work up where it was left. -/
def resumeWork (w : World) : World :=
  match w.party with
  | .work k =>
    let going := w.setWork { k with stage := .away }
    match k.stage, k.target with
    | .fresh, .ok (n, _) =>
      (going.log (.begun k.host k.slot w.ticket?)).aim (.make (n.produce k.slot.output))
    | .fresh, .error f => going.aim (.made (.error f))
    | .held valve rest, _ =>
      match w.valves[valve]? with
      | some { opened := some o, .. } => going.aim (.make (rest o))
      | some v =>
        { w with valves := w.valves.set valve { v with waiter := some w.self } }.aim .stall
      | none => w.aim .stall
    | .asking h _, _ => w.aim (.poll h)
    | .away, _ => w.aim .stall
  | _ => w.aim .stall

/-- Goes on with a recipe. -/
def makeRecipe (w : World) (recipe : Recipe) : World :=
  match w.party with
  | .work k =>
    match recipe with
    | .finish handed =>
      let w := w.log (.handed k.host k.slot w.ticket? handed)
      match k.judge handed with
      | .ok c => w.aim (.made c)
      | .error text => w.breakDown .node text
    | .crash text => w.breakDown .node text
    | .peek cell rest => w.aim (.make (rest (w.cells.get? cell)))
    | .announce what rest => (w.log (.producing what none)).aim (.make rest)
    | .hold what rest =>
      let valve := w.valves.length
      let w := { w with valves := w.valves ++ [({} : Valve)] }.log (.producing what (some valve))
      (w.setWork { k with stage := .held valve rest }).aim .work
    | .ask host slot rest =>
      match (w.engine host).cached slot with
      | some r => w.aim (.make (rest r.content))
      | none =>
        let (w, h) := w.join host slot
        (w.setWork { k with stage := .asking h rest }).aim (.poll h)
  | _ => w.aim .stall

/-- A flight has come to its result, which wakes those who wait for it. -/
def land (w : World) (ticket : Nat) (f : Flight) (r : Result) : World :=
  let host := f.work.host
  let slot := f.work.slot
  let e := w.engine host
  let w := (w.setEngine host (e.land slot ticket r)).log
    (.landed host slot ticket r (e.flying slot = some ticket))
  (w.setFlight ticket { f with status := .landed r, seats := {} }).wake f.seats.waiters

/-- The innermost work has come to its content: the flight lands, or the task that did the work
ends. -/
def finishWork (w : World) (c : Content) : World :=
  let r : Result := ⟨w.nextResult, c⟩
  let w := { w with nextResult := w.nextResult + 1 }
  match w.driving with
  | [] => w.aim (.finish (.result r))
  | ticket :: outer =>
    match w.flights[ticket]? with
    | none => w.aim .stall
    | some f => { w.land ticket f r with driving := outer }.aim (.answer r)

/-- Hands the result of the flight that was polled to the innermost party. -/
def handAnswer (w : World) (r : Result) : World :=
  match w.party with
  | .work k =>
    match k.stage with
    | .asking _ rest => (w.setWork { k with stage := .away }).aim (.make (rest r.content))
    | _ => w.aim .stall
  | .emission e =>
    match e.progress with
    | .waiting pass clears _ =>
      (w.setEmission { e with progress := .ready pass clears }).aim .emission
    | _ => w.aim .stall
  | .output _ _ _ => w.aim (.finish (.result r))
  | .nobody => w.aim .stall

end World

end Dataflow
