/-
An engine that refuses one primitive, counted from its first.

Model: primitives are passed on to an inner engine and counted, failing ones too; the one with number `refuseAt` is
refused before it is passed on. Releasing is neither counted nor passed on, so storage stays as it is.
-/
import TensorGraph.Engine.Basic

namespace TensorGraph

/-- an inner engine, how many primitives were counted, and which one is refused -/
structure Refusing (σ : Type) where
  inner : σ
  count : Nat
  refuseAt : Nat
deriving Repr

namespace Refusing

variable {σ τ α : Type}

/-- count a primitive and pass it on, or refuse it -/
def pass (p : Primitive) (act : EStateM String σ α) : EStateM String (Refusing σ) α := fun e =>
  let e := { e with count := e.count + 1 }
  if e.count = e.refuseAt then .error s!"call #{e.count} refused: {p.name}" e
  else
    match act e.inner with
    | .ok a inner => .ok a { e with inner }
    | .error why inner => .error why { e with inner }

instance [Engine σ τ] : Engine (Refusing σ) τ where
  name _ := "nth"
  allocate kind shape := pass .allocate (Engine.allocate kind shape)
  fill t p := pass .fill (Engine.fill t p)
  read t := pass .read (Engine.read t)
  copy x y := pass .copy (Engine.copy x y)
  compute k := pass k.primitive (Engine.compute k)

end Refusing

end TensorGraph
