import Dataflow.Scene

/-!
# Trials

A trial calls the recipes of a node directly, without an engine that judges what they hand over.
The slots that the node asks for are those of another pipeline, which is empty.
-/

namespace Dataflow

/-- The node on trial, with an output for every call. -/
def Node.bench (n : Node) (calls : List String) : Node :=
  { n with outputs := NameMap.ofList (calls.map fun o => (o, Schema.any)) }

/-- The scene of a trial, on a pipeline of its own that is named `bench`. -/
def Node.trial (n : Node) (cells : Table String Outcome) (calls : List String) : Scene :=
  { cells
    cues := ⟨.register "bench" (n.bench calls) n.id, true⟩ ::
      calls.map fun o => ⟨.compute "bench" o ⟨n.id, o⟩, true⟩ }

/-- Has the node produce the outputs one after the other. The takes tell how each call ended and
what happened meanwhile. -/
def Node.tryOut (n : Node) (cells : Table String Outcome) (calls : List String) :
    List (List Event) :=
  match (n.trial cells calls).play with
  | .ok t => t.takes.tail.map Take.events
  | .error _ => []

end Dataflow
