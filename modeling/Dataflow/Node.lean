import Dataflow.NameMap
import Dataflow.Recipe
import Dataflow.Schema
import Dataflow.Text.Quoted

/-!
# Nodes

A node declares outputs, each with a schema, and has a recipe for every output. The engine asks it
for no more than that.
-/

namespace Dataflow

structure Node where
  id : String
  name : String
  outputs : NameMap Schema
  produce : String → Recipe

/-- The text that shows a node with its id, its name and its outputs. -/
def Node.describe (n : Node) : String :=
  "SourceNode \x7b id: " ++ Text.quote n.id ++ ", name: " ++ Text.quote n.name ++
    ", outputs: [" ++ Text.quoteAll n.outputs.names ++ "] \x7d"

end Dataflow
