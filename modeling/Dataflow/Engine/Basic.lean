import Dataflow.Node
import Dataflow.Policy
import Dataflow.Seats
import Dataflow.Slot
import Dataflow.Store

/-!
# The tables of an engine

An engine keeps the registered nodes, the cached results, the computations in flight, the
subscriptions in the order of registration, for every subscriber the result delivered to it last,
and the delivery gates. This file holds the operations on nodes, cached results and computations in
flight. None of them takes time; when they happen is up to the tasks.
-/

namespace Dataflow

/-- The last delivery made to a subscriber, and how often it is registered. -/
structure Delivered where
  result : Option Result
  registrations : Nat

/-- What an emission holds while it is under way: the gate it came through, and a number of its
own. -/
structure Pass where
  gate : Nat
  number : Nat
deriving DecidableEq, Repr

/-- The gate that the emissions of one slot share, with the numbers of those that hold it. -/
structure Gate where
  id : Nat
  holders : List Nat := []
  /-- The numbers of those that have come to the gate, in that order, each with whom to wake when it
  is first in line. -/
  line : List (Nat × Waiter) := []
deriving DecidableEq, Repr

structure Engine where
  nodes : Table String Node := ∅
  outputs : Store Result := ∅
  inFlight : Store Nat := ∅
  subscriptions : Store (List Nat) := ∅
  delivered : Table Nat Delivered := ∅
  gates : Store Gate := ∅
  /-- How many passes were handed out. -/
  passes : Nat := 0
  /-- Grows whenever cached results are dropped. -/
  clears : Nat := 0

namespace Engine

def node (e : Engine) (id : String) : Except Failure Node :=
  match e.nodes.get? id with
  | some n => .ok n
  | none => .error (.nodeNotFound id)

/-- The schema that the node of the slot declares for it. -/
def outputSchema (e : Engine) (s : Slot) : Except Failure Schema :=
  match e.node s.node with
  | .error f => .error f
  | .ok n =>
    match n.outputs.get? s.output with
    | some schema => .ok schema
    | none => .error (.outputNotFound s.node s.output)

/-- The node and the schema of the slot, found one after the other. -/
def lookUp (e : Engine) (s : Slot) : Except Failure (Node × Schema) :=
  match e.node s.node with
  | .error f => .error f
  | .ok n =>
    match e.outputSchema s with
    | .error f => .error f
    | .ok schema => .ok (n, schema)

/-- The node and the schema that a computation of the slot works with. -/
def target (e : Engine) (s : Slot) : Except Failure (Node × Schema) :=
  match e.node s.node with
  | .error f => .error f
  | .ok n =>
    match n.outputs.get? s.output with
    | some schema => .ok (n, schema)
    | none => .error (.outputNotFound s.node s.output)

theorem outputSchema_eq (e : Engine) (s : Slot) : e.outputSchema s = (e.target s).map Prod.snd := by
  unfold outputSchema target
  cases e.node s.node with
  | error f => rfl
  | ok n => cases hn : n.outputs.get? s.output <;> simp [hn, Except.map]

/-- Nothing can come between the two look-ups. -/
@[simp] theorem lookUp_eq_target (e : Engine) (s : Slot) : e.lookUp s = e.target s := by
  unfold lookUp outputSchema target
  cases hn : e.node s.node with
  | error f => rfl
  | ok n =>
    dsimp only
    cases hs : n.outputs.get? s.output with
    | none => rfl
    | some schema => rfl

/-- Drops everything that is cached or in flight for a node. -/
def dropNode (e : Engine) (id : String) : Engine :=
  { e with
    outputs := e.outputs.eraseAll id
    inFlight := e.inFlight.eraseAll id
    clears := e.clears + 1 }

/-- Registers a node under its id. Only a node that was there before leaves something to drop. -/
def register (e : Engine) (n : Node) : Engine :=
  let e' := { e with nodes := e.nodes.insert n.id n }
  if e.nodes.contains n.id then e'.dropNode n.id else e'

def unregister (e : Engine) (id : String) : Engine :=
  if e.nodes.contains id then { e with nodes := e.nodes.erase id }.dropNode id else e

def cached (e : Engine) (s : Slot) : Option Result := e.outputs.get? s.node s.output

/-- The ticket of the computation in flight. -/
def flying (e : Engine) (s : Slot) : Option Nat := e.inFlight.get? s.node s.output

def clear (e : Engine) (s : Slot) : Engine :=
  { e with
    outputs := e.outputs.erase s.node s.output
    inFlight := e.inFlight.erase s.node s.output
    clears := e.clears + 1 }

def takeOff (e : Engine) (s : Slot) (ticket : Nat) : Engine :=
  { e with inFlight := e.inFlight.set s.node s.output ticket }

/-- Caches the result of a computation, if it is still the one in flight. -/
def land (e : Engine) (s : Slot) (ticket : Nat) (r : Result) : Engine :=
  if e.flying s = some ticket then
    { e with
      inFlight := e.inFlight.erase s.node s.output
      outputs := e.outputs.set s.node s.output r }
  else e

@[simp] theorem cached_clear (e : Engine) (s j : Slot) :
    (e.clear s).cached j = if s = j then none else e.cached j := by
  simp [cached, clear, Slot.eq_iff]

@[simp] theorem flying_clear (e : Engine) (s j : Slot) :
    (e.clear s).flying j = if s = j then none else e.flying j := by
  simp [flying, clear, Slot.eq_iff]

@[simp] theorem flying_takeOff (e : Engine) (s j : Slot) (ticket : Nat) :
    (e.takeOff s ticket).flying j = if s = j then some ticket else e.flying j := by
  simp [flying, takeOff, Slot.eq_iff]

theorem cached_land (e : Engine) (s j : Slot) (ticket : Nat) (r : Result) :
    (e.land s ticket r).cached j =
      if e.flying s = some ticket ∧ s = j then some r else e.cached j := by
  unfold land
  by_cases h : e.flying s = some ticket <;> simp [h, cached, Slot.eq_iff]

theorem flying_land (e : Engine) (s j : Slot) (ticket : Nat) (r : Result) :
    (e.land s ticket r).flying j =
      if e.flying s = some ticket ∧ s = j then none else e.flying j := by
  unfold land
  by_cases h : e.flying s = some ticket
  · simp only [h, if_true, true_and]
    simp [flying, Slot.eq_iff]
  · simp [h]

theorem land_frame (e : Engine) (s : Slot) (ticket : Nat) (r : Result) :
    (e.land s ticket r).nodes = e.nodes ∧ (e.land s ticket r).clears = e.clears ∧
      (e.land s ticket r).subscriptions = e.subscriptions ∧
      (e.land s ticket r).delivered = e.delivered := by
  unfold land
  by_cases hf : e.flying s = some ticket <;> simp [hf]

theorem cached_register (e : Engine) (n : Node) (j : Slot) :
    (e.register n).cached j =
      if e.nodes.contains n.id ∧ n.id = j.node then none else e.cached j := by
  unfold register
  by_cases h : e.nodes.contains n.id <;> simp [h, cached, dropNode]

theorem flying_register (e : Engine) (n : Node) (j : Slot) :
    (e.register n).flying j =
      if e.nodes.contains n.id ∧ n.id = j.node then none else e.flying j := by
  unfold register
  by_cases h : e.nodes.contains n.id <;> simp [h, flying, dropNode]

theorem register_frame (e : Engine) (n : Node) :
    (e.register n).nodes = e.nodes.insert n.id n ∧
      (e.register n).clears = e.clears + (if e.nodes.contains n.id then 1 else 0) ∧
      (e.register n).subscriptions = e.subscriptions ∧
      (e.register n).delivered = e.delivered := by
  unfold register
  by_cases h : e.nodes.contains n.id <;> simp [h, dropNode]

theorem cached_unregister (e : Engine) (id : String) (j : Slot) (h : e.nodes.contains id) :
    (e.unregister id).cached j = if id = j.node then none else e.cached j := by
  simp [unregister, h, cached, dropNode]

theorem flying_unregister (e : Engine) (id : String) (j : Slot) (h : e.nodes.contains id) :
    (e.unregister id).flying j = if id = j.node then none else e.flying j := by
  simp [unregister, h, flying, dropNode]

theorem unregister_frame (e : Engine) (id : String) (h : e.nodes.contains id) :
    (e.unregister id).nodes = e.nodes.erase id ∧ (e.unregister id).clears = e.clears + 1 ∧
      (e.unregister id).subscriptions = e.subscriptions ∧
      (e.unregister id).delivered = e.delivered := by
  simp [unregister, h, dropNode]

end Engine

end Dataflow
