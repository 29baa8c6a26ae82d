/-
Putting a graph together from declarations.

Model: declarations are taken one after another. The first tensor whose name is taken already is remembered as the
fault, and tensors after it are ignored; operations are always taken. `Graph.build` reports that fault, or else what
validation finds.
-/
import TensorGraph.Graph.Validation

namespace TensorGraph

/-- one thing that is declared -/
inductive Declaration
  | tensor (t : Tensor)
  | operation (op : Operation)
deriving DecidableEq, Repr

/-- a graph in the making and the first fault met so far -/
structure Draft where
  graph : Graph
  fault : Option GraphError
deriving Repr

namespace Draft

def start (name : String) : Draft := ⟨.empty name, none⟩

/-- take one declaration -/
def step (d : Draft) : Declaration → Draft
  | .tensor t =>
    match d.fault with
    | some _ => d
    | none =>
      match d.graph.declare t with
      | .ok g => { d with graph := g }
      | .error e => { d with fault := some e }
  | .operation op => { d with graph := d.graph.append op }

/-- the finished graph, if it is sound -/
def finish (d : Draft) : Except GraphError Graph :=
  match d.fault with
  | some e => .error e
  | none =>
    match d.graph.validate with
    | .ok () => .ok d.graph
    | .error e => .error e

end Draft

namespace Graph

/-- the sound graph that consists of the declarations -/
def build (name : String) (declarations : List Declaration) : Except GraphError Graph :=
  (declarations.foldl Draft.step (.start name)).finish

/-- the graph of the declarations without any check of soundness; a name may still not be declared twice -/
def assemble (name : String) (declarations : List Declaration) : Except GraphError Graph :=
  declarations.foldlM (fun g d => match d with
    | .tensor t => g.declare t
    | .operation op => .ok (g.append op)) (.empty name)

end Graph

end TensorGraph
