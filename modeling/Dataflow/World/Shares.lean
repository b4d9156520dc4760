import Dataflow.World.Basic

/-!
# Shares in flights

A flight lasts as long as somebody holds a share in it: the engine while it is in flight there, a
task that waits for it, or another flight that does. With the last share the flight is lost, and its
own share in the flight that it waits for is given up as well.
-/

namespace Dataflow

namespace World

/-- Whether somebody holds a share in the flight. -/
def held (w : World) (ticket : Nat) : Bool :=
  let flying := match w.flights[ticket]? with
    | some f => decide ((w.engine f.work.host).flying f.work.slot = some ticket)
    | none => false
  flying || w.tasks.any (fun task => task.job.shares.any (·.ticket == ticket)) ||
    w.flights.any (fun f => f.work.share?.any (·.ticket == ticket))

/-- Gives up the seat that belongs to a share. -/
def vacate (w : World) (h : Handle) : World :=
  match w.flights[h.ticket]?, h.seat with
  | some f, some seat =>
    match f.status with
    | .landed _ => w
    | _ => w.setFlight h.ticket { f with seats := f.seats.giveUp seat }
  | _, _ => w

/-- Gives up a share, and on and on those of the flights that are lost by it. -/
def releaseWithin : Nat → List Nat → Handle → World → World
  | 0, _, _, w => w
  | k + 1, kept, h, w =>
    let w := w.vacate h
    match w.flights[h.ticket]? with
    | none => w
    | some f =>
      match f.status with
      | .idle =>
        if kept.contains h.ticket || w.held h.ticket then w
        else
          let w := w.setFlight h.ticket
            { f with work := { f.work with stage := .away }, status := .lost }
          match f.work.share? with
          | some own => releaseWithin k kept own w
          | none => w
      | _ => w

/-- Gives up a share that nothing in the world holds any more. The flights in `kept` are not lost.
Every step but the first loses a flight, so there are no more of them than flights. -/
def release (w : World) (kept : List Nat) (h : Handle) : World :=
  releaseWithin (w.flights.length + 1) kept h w

/-- Gives up the shares in flights that an engine had, one after the other. -/
def releaseAll : List Nat → World → World
  | [], w => w
  | ticket :: rest, w => releaseAll rest (w.release rest { ticket })

/-- A share in the computation in flight for the slot, which is begun if there is none. -/
def join (w : World) (host : String) (s : Slot) : World × Handle :=
  let e := w.engine host
  match e.flying s with
  | some ticket => (w, { ticket })
  | none =>
    let ticket := w.flights.length
    let flight : Flight := { work := { host, slot := s, target := e.target s } }
    let w := { w with flights := w.flights ++ [flight] }.setEngine host (e.takeOff s ticket)
    (w.log (.takenOff host s ticket), { ticket })

/-- Drops what is cached or in flight for a slot. -/
def clear (w : World) (host : String) (s : Slot) : World :=
  let e := w.engine host
  releaseAll (e.flying s).toList (w.setEngine host (e.clear s))

/-- Gives up the shares that the engine had in flights of a node before it was replaced or removed,
in the order of the outputs. -/
def ground (w : World) (before : Engine) (id : String) : World :=
  releaseAll ((before.inFlight.entries id).map (·.2)) w

end World

end Dataflow
