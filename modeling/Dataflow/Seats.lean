/-!
# Seats

Those who wait for a flight sit in its seats, and are woken in the order of the seats. A seat
without a waiter to wake stays taken until it is given up; of the seats given up the latest is
taken first.
-/

namespace Dataflow

/-- Whom to wake when something that was waited for is there. -/
inductive Waiter where
  | task (t : Nat)
  /-- One branch of a wide fan. -/
  | branch (t : Nat) (key : Nat)
  | flight (ticket : Nat)
deriving DecidableEq, Repr

structure Seats where
  rows : List (Option Waiter) := []
  vacant : List Nat := []
deriving Repr

namespace Seats

/-- Has `w` wait in `seat`, or in a new one. -/
def sit (s : Seats) (seat : Option Nat) (w : Waiter) : Nat × Seats :=
  match seat with
  | some i => (i, { s with rows := s.rows.set i (some w) })
  | none =>
    match s.vacant with
    | i :: rest => (i, ⟨s.rows.set i (some w), rest⟩)
    | [] => (s.rows.length, { s with rows := s.rows ++ [some w] })

def giveUp (s : Seats) (i : Nat) : Seats := ⟨s.rows.set i none, i :: s.vacant⟩

/-- The waiters in the order of their seats. -/
def waiters (s : Seats) : List Waiter := s.rows.filterMap id

/-- Nobody is left to wake, and all seats are kept. -/
def roused (s : Seats) : Seats := { s with rows := s.rows.map fun _ => none }

end Seats

end Dataflow
