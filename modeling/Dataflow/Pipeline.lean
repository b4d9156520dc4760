import Dataflow.Engine.Gates
import Dataflow.Engine.Subscriptions

/-!
# Pipelines

A pipeline is an engine under a label and an equality policy. One that belongs to a context is built
on first use.
-/

namespace Dataflow

structure Setup where
  label : String := "pipeline"
  policy : Policy := .identity
  inContext : Bool := true

structure Pipeline where
  setup : Setup := {}
  built : Bool := false
  engine : Engine := {}

/-- The text that shows a pipeline with its label, its policy and its nodes. -/
def Pipeline.describe (p : Pipeline) : String :=
  let policy := match p.setup.policy with
    | .identity => "Identity"
    | .json => "Json"
    | .custom _ => "Custom(*)"
  "Pipeline \x7b name: " ++ Text.quote p.setup.label ++ ", equality: Equality::" ++ policy ++
    ", nodes: [" ++ Text.quoteAll p.engine.nodes.keys ++ "] \x7d"

end Dataflow
