/-
Which graphs keep their tensors under their own names.

Model: `Graph.Assembled` are the graphs that come about by building, declaring and appending, and by changing a tensor
in place without changing its name. Validation looks for names among the names under which tensors are kept, while
preparing binds tensors under their own names.

Main results:
- `own_names_by_assembly`: an assembled graph keeps its own names, so the names that validation accepts get bound;
- `renamed_tensor_is_accepted`: a tensor that is given another name in place passes validation, and the run fails over
  a name. Validation never looks at the names of tensors.
-/
import TensorGraph.Proofs.Coupling
import TensorGraph.Proofs.Materialization

namespace TensorGraph

/-- a tensor is as sound under any other name -/
theorem Tensor.sound_rename {t : Tensor} {name : String} : Tensor.Sound { t with name } ↔ t.Sound :=
  ⟨fun h => ⟨h.rank, h.payload⟩, fun h => ⟨h.rank, h.payload⟩⟩

namespace Graph

/-! ## Model -/

/-- graphs put together step by step, by changes that leave the names of tensors alone -/
inductive Assembled : Graph → Prop
  | empty (name : String) : Assembled (.empty name)
  | build {name : String} {declarations : List Declaration} {g : Graph} (h : build name declarations = .ok g) :
    Assembled g
  | declare {g g' : Graph} {t : Tensor} (h : Assembled g) (hd : g.declare t = .ok g') : Assembled g'
  | append {g : Graph} (h : Assembled g) (op : Operation) : Assembled (g.append op)
  | modify {g : Graph} (h : Assembled g) (name : String) {f : Tensor → Tensor} (hf : ∀ t, (f t).name = t.name) :
    Assembled (g.modifyTensor name f)

/-! ## Steps -/

theorem Assembled.keepsOwnNames {g : Graph} (h : g.Assembled) : g.KeepsOwnNames := by
  induction h with
  | empty name => exact fun e he => nomatch he
  | build h => exact keepsOwnNames_of_build h
  | @declare g g' t h hd ih =>
    unfold Graph.declare at hd
    split at hd
    · cases hd
    · cases hd
      exact keepsOwnNames_insert ih rfl rfl
  | append h op ih => exact ih
  | @modify g h name f hf ih =>
    unfold modifyTensor NameMap.modify
    cases hfind : g.tensors.find? name with
    | none => exact ih
    | some t => exact keepsOwnNames_insert ih ((hf t).trans (ih _ (NameMap.mem_entries_iff.2 hfind))) rfl

/-! ## Names of tensors in validation -/

/-- validation accepts a graph whatever its tensors are called -/
theorem validate_rename (g : Graph) (rename : Tensor → String) :
    validate { g with tensors := g.tensors.map fun t => { t with name := rename t } } = .ok () ↔
      g.validate = .ok () := by
  rw [validate_eq_ok_iff, validate_eq_ok_iff]
  constructor
  · intro h
    refine ⟨fun key t ht => ?_, fun op hop name hname => ?_⟩
    · exact Tensor.sound_rename.1 (h.tensors key { t with name := rename t } (by simp_all [tensor?]))
    · simpa using h.references op hop name hname
  · intro h
    refine ⟨fun key t ht => ?_, fun op hop name hname => ?_⟩
    · rw [tensor?, NameMap.find?_map, Option.map_eq_some_iff] at ht
      obtain ⟨t, ht, rfl⟩ := ht
      exact Tensor.sound_rename.2 (h.tensors key t ht)
    · simpa using h.references op hop name hname

/-! ## Main result -/

open Session in
/-- **Own names are kept by assembly, not by validation.** A graph that was put together step by step, with changes that
leave the names of tensors alone, keeps every tensor under its own name. So a name that an operation of such a graph
mentions and that validation accepts is the name of its tensor, and preparing that goes well binds it, on any engine.

Validation has no part in this: it accepts a graph or not whatever its tensors are called. -/
theorem own_names_by_assembly {g : Graph} (h : g.Assembled) :
    g.KeepsOwnNames ∧
    (g.validate = .ok () → ∀ op ∈ g.operations, ∀ name ∈ op.identifiers,
      (∃ t, g.tensor? name = some t ∧ t.name = name) ∧
      ∀ {σ τ : Type} [Engine σ τ] (s s' : Session σ τ), materialize g.tensors.entries s = .ok () s' →
        s'.isBound name = true) ∧
    ∀ rename : Tensor → String,
      validate { g with tensors := g.tensors.map fun t => { t with name := rename t } } = .ok () ↔
        g.validate = .ok () := by
  have hown := h.keepsOwnNames
  refine ⟨hown, fun hvalid op hop name hname => ?_, g.validate_rename⟩
  have hcontains := (validate_eq_ok_iff.1 hvalid).references op hop name hname
  obtain ⟨t, ht⟩ := Option.isSome_iff_exists.1 hcontains
  have hentry := NameMap.mem_entries_iff.2 ht
  exact ⟨⟨t, ht, hown _ hentry⟩, fun s s' hs' => bound_of_materialize hown hs' _ hentry⟩

/-- a graph of two declared tensors, one of which was read back, and an operation on them -/
theorem own_names_by_assembly_of_relu :
    let op := ((Operation.named "relu" .float).withInput "x" (.identifier "b")).withOutput "y" (.identifier "a")
    let g₂ : Graph := ⟨"g", [op], .ofList [("a", ⟨"a", .float, [1], none⟩), ("b", ⟨"b", .float, [1], none⟩)]⟩
    let g := g₂.modifyTensor "b" fun t => { t with data := some (.float [.zero]) }
    g.Assembled ∧ g.KeepsOwnNames ∧ g.validate = .ok () ∧
      ∀ op ∈ g.operations, ∀ name ∈ op.identifiers, ∃ t, g.tensor? name = some t ∧ t.name = name := by
  intro op g₂ g
  have hbuild : build "g" [.tensor ⟨"b", .float, [1], none⟩, .operation op, .tensor ⟨"a", .float, [1], none⟩] =
      .ok g₂ := by decide +kernel
  have hassembled : g.Assembled := .modify (.build hbuild) "b" fun t => rfl
  have hvalid : g.validate = .ok () := by decide +kernel
  obtain ⟨hown, hnames, -⟩ := own_names_by_assembly hassembled
  exact ⟨hassembled, hown, hvalid, fun op hop name hname => (hnames hvalid op hop name hname).1⟩

open Session in
/-- two graphs with a tensor that was declared as `b` and then given another name in place; both pass validation. If the
other name is the one of another tensor, that one is created twice; if it is new, an operation misses the tensor that
validation found for it -/
theorem renamed_tensor_is_accepted :
    let op := ((Operation.named "relu" .float).withInput "x" (.identifier "b")).withOutput "y" (.identifier "a")
    let g₁ : Graph := ⟨"g", [op], .ofList [("a", ⟨"a", .float, [1], none⟩), ("b", ⟨"b", .float, [1], none⟩)]⟩
    let taken := g₁.modifyTensor "b" fun t => { t with name := "a" }
    let other := g₁.modifyTensor "b" fun t => { t with name := "c" }
    (g₁.Assembled ∧ g₁.validate = .ok ()) ∧
    (taken.validate = .ok () ∧ ¬ taken.KeepsOwnNames ∧
      fault? (runGraph default Clock.still taken (fresh none)) = some (.duplicateTensor "a")) ∧
    (other.validate = .ok () ∧ ¬ other.KeepsOwnNames ∧
      fault? (runGraph default Clock.still other (fresh none)) = some (.operation 0 "relu" (.unboundTensor "b"))) := by
  intro op g₁ taken other
  have hbuild : build "g" [.tensor ⟨"a", .float, [1], none⟩, .tensor ⟨"b", .float, [1], none⟩, .operation op] =
      .ok g₁ := by decide +kernel
  exact ⟨⟨.build hbuild, by decide +kernel⟩, ⟨by decide +kernel, by decide +kernel, by decide +kernel⟩,
    by decide +kernel, by decide +kernel, by decide +kernel⟩

end Graph

end TensorGraph
