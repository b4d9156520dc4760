import Dataflow.Action
import Dataflow.Engine.Gates
import Dataflow.Flight

/-!
# Emissions

An emission makes sure that a slot holds a result, and delivers it to the subscribers of the slot
that have not seen it.
-/

namespace Dataflow

/-- How far an emission has come. -/
inductive Progress where
  | fresh
  /-- It is about to look for a cached result. -/
  | looking (pass : Pass)
  /-- It waits for a flight; `clears` were counted before. -/
  | waiting (pass : Pass) (clears : Nat) (h : Handle)
  /-- It is about to deliver; `clears` were counted when it looked. -/
  | ready (pass : Pass) (clears : Nat)
  /-- The delivery was made, and the subscribers in `rest` are still to be called. -/
  | calling (pass : Pass) (r : Result) (rest : List Nat)
  /-- A subscriber that was called is acting. -/
  | acting (pass : Pass) (r : Result) (rest : List Nat) (callback : String) (script : List Action)

def Progress.pass? : Progress → Option Pass
  | .fresh => none
  | .looking pass | .waiting pass _ _ | .ready pass _ | .calling pass _ _ | .acting pass _ _ _ _ =>
    some pass

structure Emission where
  host : String
  slot : Slot
  progress : Progress := .fresh

/-- The share in a flight that the emission waits for. -/
def Emission.share? (e : Emission) : Option Handle :=
  match e.progress with
  | .waiting _ _ h => some h
  | _ => none

end Dataflow
