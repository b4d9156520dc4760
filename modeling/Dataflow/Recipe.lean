import Dataflow.Result
import Dataflow.Slot

/-!
# Recipes

A recipe is what a node does to produce one output: a tree of the things it reads and waits for,
with what it does next for every answer.
-/

namespace Dataflow

/-- What a cell holds for the nodes that read it. -/
inductive Outcome where
  | value (p : Payload)
  | failed (c : Cause)
  | crash (text : String)
  | absent
  /-- The result of another slot, passed on. -/
  | relay (slot : Slot)
  /-- The results of several slots, joined into one text. -/
  | gather (slots : List Slot)

/-- Which output of which node is being produced. -/
structure Announcement where
  node : String
  name : String
  output : String
deriving DecidableEq, Repr

inductive Recipe where
  | finish (outcome : Except Cause Payload)
  | crash (text : String)
  /-- Reads the cell. -/
  | peek (cell : String) (rest : Option Outcome → Recipe)
  /-- Makes it known that the production has begun. -/
  | announce (what : Announcement) (rest : Recipe)
  /-- Makes the same known, and waits behind a new valve. Opening the valve may bring an outcome. -/
  | hold (what : Announcement) (rest : Option Outcome → Recipe)
  /-- Waits for the result of a slot of the pipeline `host`. -/
  | ask (host : String) (slot : Slot) (rest : Content → Recipe)

end Dataflow
