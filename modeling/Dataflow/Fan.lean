import Dataflow.Emission

/-!
# Fans

A fan holds the emissions of an invalidation, one branch for every key. Its branches are polled in
turn, in the order of the keys. A wide fan polls only those of them that were woken, in the order in
which they were.
-/

namespace Dataflow

structure Fan where
  /-- Nothing stands for an emission that is over. -/
  branches : List (Option Emission)
  wide : Bool
  /-- The branches of a wide fan that are to be polled, in this order. -/
  ready : List Nat
  /-- The branches of a wide fan in the order in which they had to wait last, latest first. -/
  recent : List Nat
  /-- The branch that is being polled. -/
  cursor : Nat := 0
  /-- Whether that branch was woken since. -/
  stirred : Bool := false
  /-- How many branches there were when this turn began, how many of them were polled since, and how
  many of those were woken while being polled. -/
  turn : Nat := 0
  polled : Nat := 0
  yielded : Nat := 0

namespace Fan

/-- A fan with this many branches or more is wide. -/
def wideFrom : Nat := 31

def of (host node : String) (keys : List String) : Fan :=
  { branches := keys.map fun k => some { host, slot := ⟨node, k⟩ }
    wide := decide (wideFrom ≤ keys.length)
    ready := List.range keys.length
    recent := (List.range keys.length).reverse }

def branch? (f : Fan) (i : Nat) : Option Emission := (f.branches[i]?).bind id

/-- The emission that is being polled. -/
def current? (f : Fan) : Option Emission := f.branch? f.cursor

def setCurrent (f : Fan) (e : Option Emission) : Fan :=
  { f with branches := f.branches.set f.cursor e }

/-- The emissions that are not over. -/
def emissions (f : Fan) : List Emission := f.branches.filterMap id

def unfinished (f : Fan) : List Nat :=
  (List.range f.branches.length).filter fun i => (f.branch? i).isSome

/-- The order in which the branches are given up. -/
def leaving (f : Fan) : List Nat := if f.wide then f.recent else List.range f.branches.length

def aimAt (f : Fan) (i : Nat) : Fan := { f with cursor := i, stirred := false }

/-- Whether the branch is not over and not to be polled yet. -/
def asleep (f : Fan) (i : Nat) : Bool := (f.branch? i).isSome && !f.ready.contains i

/-- Wakes one branch. -/
def stir (f : Fan) (i : Nat) : Fan :=
  { f with
    stirred := f.stirred || f.cursor == i
    ready := if f.asleep i then f.ready ++ [i] else f.ready }

def beginTurn (f : Fan) : Fan :=
  { f with turn := f.unfinished.length, polled := 0, yielded := 0 }

/-- Counts the branch that was polled and has to wait. -/
def countWait (f : Fan) : Fan :=
  { f with
    recent := f.cursor :: f.recent.erase f.cursor
    polled := f.polled + 1
    yielded := f.yielded + (if f.stirred then 1 else 0) }

/-- Whether other tasks go first: when all branches were polled in this turn, or two of them were
woken while being polled. -/
def yields (f : Fan) : Bool := f.polled == f.turn || decide (2 ≤ f.yielded)

end Fan

end Dataflow
