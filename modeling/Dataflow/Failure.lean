/-!
# Failures

A producer fails with a cause, a chain of messages from the outermost context to the root. The
engine fails with a `Failure`, which names the slot. A failure can in turn be the cause of another
one: it then brings its message, and after it the text of what it was caused by.
-/

namespace Dataflow

structure Cause where
  top : String
  below : List String := []
deriving DecidableEq, Repr

namespace Cause

/-- The messages, outermost first and the root last. -/
def chain (c : Cause) : List String := c.top :: c.below

/-- All messages on one line. -/
def text (c : Cause) : String := ": ".intercalate c.chain

/-- Wraps a cause into one more context. -/
def within (c : Cause) (context : String) : Cause := ⟨context, c.chain⟩

end Cause

inductive Failure where
  | nodeNotFound (node : String)
  | outputNotFound (node output : String)
  | validation (node output diagnostic : String)
  | compute (node output : String) (cause : Cause)
deriving DecidableEq, Repr

namespace Failure

/-- The node that the failure is about. -/
def node : Failure → String
  | .nodeNotFound node => node
  | .outputNotFound node _ => node
  | .validation node _ _ => node
  | .compute node _ _ => node

/-- The text of what a failure was caused by. -/
def source? : Failure → Option String
  | .nodeNotFound _ => none
  | .outputNotFound _ _ => none
  | .validation _ _ diagnostic => some diagnostic
  | .compute _ _ cause => some cause.text

def message : Failure → String
  | .nodeNotFound node => "Node '" ++ node ++ "' not found"
  | .outputNotFound node output => "Node '" ++ node ++ "' has no output '" ++ output ++ "'"
  | .validation _ _ diagnostic => diagnostic
  | .compute node output cause =>
    "Node '" ++ node ++ "' failed to compute output '" ++ output ++ "':\n" ++ cause.text

/-- A failure that a producer passes on as its own. -/
def cause (f : Failure) : Cause := ⟨f.message, f.source?.toList⟩

end Failure

end Dataflow
