/-
What is written in the exchange format is read back.

Model: floating point numbers are left out, since how they are written is open (`FloatForm`). What an object without
them consists of is integers, truth values, strings and names, and each of these is read back from what is written for
it. Lists and maps carry this over from their items, records from their fields.

Results:
- `readValue_writeValue`: values, however deep their arrays and tuples are nested;
- `readOperation_without`, `readTensor_without`: records with some of the fields left out that may be missing;
- `exchange_round_trip`: values, payloads, tensors, operations and graphs, with the tensors of a graph in any order.
-/
import Mathlib.Tactic
import TensorGraph.Exchange.Graph
import TensorGraph.Proofs.Names

namespace TensorGraph

/-! ## Model -/

namespace Value

mutual

/-- no floating point number is in the value -/
def scalarFree : Value → Bool
  | .scalar _ => false
  | .array items => scalarFreeItems items
  | .tuple items => scalarFreeItems items
  | .identifier _ | .integer _ | .logical _ | .string _ => true

def scalarFreeItems : List Value → Bool
  | [] => true
  | v :: rest => scalarFree v && scalarFreeItems rest

end

end Value

/-- no floating point number is in the payload -/
def Payload.scalarFree : Payload → Bool
  | .float l => l.isEmpty
  | .bool _ | .integer _ => true

/-- the sizes of the axes are words, and the payload has no floating point numbers -/
structure Tensor.Exchangeable (t : Tensor) : Prop where
  sizes : ∀ d ∈ t.shape, d < UInt64.size
  data : ∀ p, t.data = some p → p.scalarFree = true

/-- no operand and no attribute has floating point numbers -/
structure Operation.Exchangeable (op : Operation) : Prop where
  inputs : ∀ v ∈ op.inputs.values, v.scalarFree = true
  outputs : ∀ v ∈ op.outputs.values, v.scalarFree = true
  attributes : ∀ v ∈ op.attributes.values, v.scalarFree = true

structure Graph.Exchangeable (g : Graph) : Prop where
  operations : ∀ op ∈ g.operations, op.Exchangeable
  tensors : ∀ t ∈ g.tensors.values, t.Exchangeable

/-- an operation without the operands or attributes that the keys are for -/
def Operation.cleared (op : Operation) (keys : List String) : Operation :=
  { op with
    inputs := if "inputs" ∈ keys then .empty else op.inputs
    outputs := if "outputs" ∈ keys then .empty else op.outputs
    attributes := if "attribs" ∈ keys then .empty else op.attributes }

/-- a record without the fields under some keys -/
def Json.without (keys : List String) : Json → Json
  | .object members => .object (members.filter fun e => e.1 ∉ keys)
  | j => j

/-- a graph with its tensors listed in some order -/
def Exchange.writeListing (f : FloatForm) (g : Graph) (listing : List (String × Tensor)) : Json := .object [
  ("name", .string g.name),
  ("operations", .list (writeOperation f) g.operations),
  ("tensors", .object (listing.map fun e => (e.1, writeTensor f e.2)))]

/-! ## Words and names -/

theorem Json.int64?_writeInt64 (n : Int64) : (Exchange.writeInt64 n).int64? = some n := by
  rw [Exchange.writeInt64, int64?, if_pos ⟨Int64.minValue_le_toInt n, Int64.toInt_le n⟩, Int64.ofInt_toInt]

theorem Json.nat?_nat {n : Nat} (h : n < UInt64.size) : (nat n).nat? = some n := by
  have hbound : (n : Int) < (UInt64.size : Nat) := Int.ofNat_lt.2 h
  simp only [nat, nat?]
  rw [if_pos ⟨Int.natCast_nonneg n, hbound⟩, Int.toNat_natCast]

theorem ElementKind.read_write (k : ElementKind) : Named.read (Named.write k) = some k := by
  cases k <;> decide

/-! ## Lists and maps -/

namespace Json

variable {α : Type} {w : α → Json} {r : Json → Option α}

theorem list?_list {l : List α} (h : ∀ x ∈ l, r (w x) = some x) : (list w l).list? r = some l := by
  induction l with
  | nil => rfl
  | cons x rest ih =>
    have hrest := ih fun y hy => h y (List.mem_cons_of_mem _ hy)
    simp only [list, list?] at hrest
    simp [list, list?, readAll, h x List.mem_cons_self, hrest]

theorem readMembers_map {l : List (String × α)} (h : ∀ e ∈ l, r (w e.2) = some e.2) :
    readMembers r (l.map fun e => (e.1, w e.2)) = some l := by
  induction l with
  | nil => rfl
  | cons e rest ih =>
    simp [readMembers, h e List.mem_cons_self, ih fun e' he' => h e' (List.mem_cons_of_mem _ he')]

/-- a map is read back from its entries in any order -/
theorem map?_listing {m : NameMap α} (h : ∀ x ∈ m.values, r (w x) = some x) {listing : List (String × α)}
    (hperm : listing.Perm m.entries) : (object (listing.map fun e => (e.1, w e.2))).map? r = some m := by
  have hread : ∀ e ∈ listing, r (w e.2) = some e.2 := fun e he =>
    h e.2 (List.mem_map_of_mem (hperm.mem_iff.1 he))
  rw [map?, readMembers_map hread, Option.map_some, NameMap.ofList_perm hperm.symm m.nodup_keys, NameMap.ofList_entries]

theorem map?_map {m : NameMap α} (h : ∀ x ∈ m.values, r (w x) = some x) : (map w m).map? r = some m :=
  map?_listing h (List.Perm.refl _)

/-! ## Fields that are left out -/

theorem lookup_filter (keys : List String) (key : String) (members : List (String × Json)) :
    lookup key (members.filter fun e => e.1 ∉ keys) = if key ∈ keys then none else lookup key members := by
  induction members with
  | nil => simp [lookup]
  | cons e rest ih =>
    by_cases he : e.1 ∈ keys
    · rw [List.filter_cons_of_neg (by simpa using he), ih, lookup]
      split_ifs with hkey heq
      · rfl
      · exact absurd (heq ▸ he) hkey
      · rfl
    · rw [List.filter_cons_of_pos (by simpa using he), lookup, lookup, ih]
      split_ifs with heq hkey
      · exact absurd (heq ▸ hkey) he
      · rfl
      · rfl
      · rfl

theorem lookup_append_of_ne {key name : String} (h : name ≠ key) (members : List (String × Json)) (j : Json) :
    lookup name (members ++ [(key, j)]) = lookup name members := by
  induction members with
  | nil => simp [lookup, h]
  | cons e rest ih => simp only [List.cons_append, lookup, ih]

theorem lookup_append_self {key : String} {members : List (String × Json)} (h : lookup key members = none) (j : Json) :
    lookup key (members ++ [(key, j)]) = some j := by
  induction members with
  | nil => simp [lookup]
  | cons e rest ih =>
    simp only [lookup] at h
    split_ifs at h with hkey
    rw [List.cons_append, lookup, if_neg hkey]
    exact ih h

end Json

namespace Exchange

variable (f : FloatForm)

/-! ## Values and payloads -/

mutual

theorem readValue_writeValue : ∀ v : Value, v.scalarFree = true → readValue f (writeValue f v) = some v
  | .identifier name, _ => rfl
  | .scalar x, h => by cases h
  | .integer n, _ => by
    simp only [writeValue, Json.tagged, readValue, readVariant, readMember]
    rw [writeInt64, readBody, readPlain, ← writeInt64, Json.int64?_writeInt64]
    · rfl
    · simp
  | .logical b, _ => rfl
  | .string text, _ => rfl
  | .array items, h => by
    have hitems := readValues_writeValues items h
    simp [writeValue, Json.tagged, readValue, readVariant, readMember, readBody, hitems]
  | .tuple items, h => by
    have hitems := readValues_writeValues items h
    simp [writeValue, Json.tagged, readValue, readVariant, readMember, readBody, hitems]

theorem readValues_writeValues : ∀ items : List Value, Value.scalarFreeItems items = true →
    readValues f (writeValues f items) = some items
  | [], _ => rfl
  | v :: rest, h => by
    obtain ⟨hv, hrest⟩ := Bool.and_eq_true_iff.1 h
    rw [writeValues, readValues, readValue_writeValue v hv, readValues_writeValues rest hrest]

end

theorem readPayload_writePayload {p : Payload} (h : p.scalarFree = true) :
    readPayload f (writePayload f p) = some p := by
  cases p with
  | bool l =>
    have hl : (Json.list Json.bool l).list? Json.bool? = some l := Json.list?_list fun b _ => rfl
    simp [writePayload, Json.tagged, readPayload, hl]
  | integer l =>
    have hl : (Json.list writeInt64 l).list? Json.int64? = some l := Json.list?_list fun n _ => Json.int64?_writeInt64 n
    simp [writePayload, Json.tagged, readPayload, hl]
  | float l =>
    obtain rfl := List.isEmpty_iff.1 h
    rfl

variable {f}

/-! ## Records -/

theorem readOptionalValues_map {m : NameMap Value} (h : ∀ v ∈ m.values, v.scalarFree = true) :
    readOptionalValues f (some (.map (writeValue f) m)) = some m :=
  Json.map?_map fun v hv => readValue_writeValue f v (h v hv)

theorem readOptionalPayload_writePayload {p : Payload} (h : p.scalarFree = true) :
    readOptionalPayload f (some (writePayload f p)) = some (some p) := by
  have hread := readPayload_writePayload f h
  cases p <;> simpa [readOptionalPayload, writePayload, Json.tagged] using hread

/-- the fields of an operation are read one by one -/
theorem readOperation_object (members : List (String × Json)) :
    readOperation f (.object members) = (do
      let name ← (Json.lookup "name" members).bind Json.string?
      let dtype ← (Json.lookup "dtype" members).bind Named.read
      let inputs ← readOptionalValues f (Json.lookup "inputs" members)
      let outputs ← readOptionalValues f (Json.lookup "outputs" members)
      let attributes ← readOptionalValues f (Json.lookup "attribs" members)
      some { name, dtype, inputs, outputs, attributes }) := by
  simp only [readOperation, Json.fields?, List.map_cons, List.map_nil, Option.bind_eq_bind, Option.bind_some]
  cases Json.lookup "name" members with
  | none => rfl
  | some name =>
    cases Json.lookup "dtype" members with
    | none => simp
    | some dtype => rfl

/-- a map of an operation that is missing is as good as an empty one, whatever else is in the record -/
theorem readOperation_of_missing {key : String} (hkey : key ∈ ["inputs", "outputs", "attribs"])
    {members : List (String × Json)} (h : Json.lookup key members = none) :
    readOperation f (.object members) = readOperation f (.object (members ++ [(key, .object [])])) := by
  have hempty : readOptionalValues f (some (.object [])) = readOptionalValues f none := rfl
  simp only [List.mem_cons, List.not_mem_nil, or_false] at hkey
  rcases hkey with rfl | rfl | rfl <;>
    simp [readOperation_object, Json.lookup_append_of_ne, Json.lookup_append_self h, h, hempty]

/-- an operation is read back, without the operands or attributes that are left out -/
theorem readOperation_without {op : Operation} {keys : List String} (hkeys : keys ⊆ ["inputs", "outputs", "attribs"])
    (h : (op.cleared keys).Exchangeable) :
    readOperation f ((writeOperation f op).without keys) = some (op.cleared keys) := by
  have hname : "name" ∉ keys := fun hmem => by simpa using hkeys hmem
  have hdtype : "dtype" ∉ keys := fun hmem => by simpa using hkeys hmem
  -- a map that is left out is read as what clearing leaves of it
  have hmap : ∀ (key : String) (m : NameMap Value),
      (∀ v ∈ (if key ∈ keys then .empty else m : NameMap Value).values, v.scalarFree = true) →
      readOptionalValues f (if key ∈ keys then none else some (.map (writeValue f) m)) =
        some (if key ∈ keys then .empty else m) := by
    intro key m hm
    split_ifs at hm ⊢
    · rfl
    · exact readOptionalValues_map hm
  rw [writeOperation, Json.without, readOperation_object]
  simp only [Json.lookup_filter]
  simp [hname, hdtype, Json.lookup, Json.string?, ElementKind.read_write, hmap _ _ h.inputs, hmap _ _ h.outputs,
    hmap _ _ h.attributes, Operation.cleared]

theorem readOperation_writeOperation {op : Operation} (h : op.Exchangeable) :
    readOperation f (writeOperation f op) = some op :=
  readOperation_without (List.nil_subset _) h

/-- the fields of a tensor are read one by one -/
theorem readTensor_object (members : List (String × Json)) :
    readTensor f (.object members) = (do
      let name ← (Json.lookup "name" members).bind Json.string?
      let kind ← (Json.lookup "kind" members).bind Named.read
      let shape ← (Json.lookup "shape" members).bind (Json.list? Json.nat?)
      let data ← readOptionalPayload f (Json.lookup "data" members)
      some { name, kind, shape, data }) := by
  simp only [readTensor, Json.fields?, List.map_cons, List.map_nil, Option.bind_eq_bind, Option.bind_some]
  cases Json.lookup "name" members with
  | none => rfl
  | some name =>
    cases Json.lookup "kind" members with
    | none => simp
    | some kind =>
      cases Json.lookup "shape" members with
      | none => simp
      | some shape => rfl

/-- a payload that is missing is as good as none, whatever else is in the record -/
theorem readTensor_of_missing {members : List (String × Json)} (h : Json.lookup "data" members = none) :
    readTensor f (.object members) = readTensor f (.object (members ++ [("data", .null)])) := by
  simp [readTensor_object, Json.lookup_append_of_ne, Json.lookup_append_self h, h, readOptionalPayload]

theorem readTensor_writeTensor {t : Tensor} (h : t.Exchangeable) : readTensor f (writeTensor f t) = some t := by
  have hshape : (Json.list Json.nat t.shape).list? Json.nat? = some t.shape :=
    Json.list?_list fun d hd => Json.nat?_nat (h.sizes d hd)
  rw [writeTensor, readTensor_object]
  obtain ⟨name, kind, shape, data⟩ := t
  cases data with
  | none => simp [Json.lookup, Json.string?, ElementKind.read_write, hshape, readOptionalPayload]
  | some p =>
    simp [Json.lookup, Json.string?, ElementKind.read_write, hshape, readOptionalPayload_writePayload (h.data p rfl)]

/-- a tensor is read back without its payload, if that is left out -/
theorem readTensor_without {t : Tensor} (h : ∀ d ∈ t.shape, d < UInt64.size) :
    readTensor f ((writeTensor f t).without ["data"]) = some { t with data := none } := by
  have hbare : ({ t with data := none } : Tensor).Exchangeable := ⟨h, fun p hp => by cases hp⟩
  rw [← readTensor_writeTensor (f := f) hbare, writeTensor, writeTensor, Json.without]
  exact readTensor_of_missing rfl

/-- a graph is read back, in whichever order its tensors are listed -/
theorem readGraph_writeListing {g : Graph} (h : g.Exchangeable) {listing : List (String × Tensor)}
    (hperm : listing.Perm g.tensors.entries) : readGraph f (writeListing f g listing) = some g := by
  have hoperations : (Json.list (writeOperation f) g.operations).list? (readOperation f) = some g.operations :=
    Json.list?_list fun op hop => readOperation_writeOperation (h.operations op hop)
  have htensors : (Json.object (listing.map fun e => (e.1, writeTensor f e.2))).map? (readTensor f) = some g.tensors :=
    Json.map?_listing (fun t ht => readTensor_writeTensor (h.tensors t ht)) hperm
  simp [readGraph, writeListing, Json.fields?, Json.lookup, Json.string?, hoperations, htensors]

/-! ## Main result -/

/-- **Round trip.** Whatever the form of floating point numbers, what has none of them is read back from what is
written for it: values, payloads, tensors, operations, and graphs, in which tensors may be listed in any order and kept
under other names than their own.

The maps of an operation and the payload of a tensor may be left out. Then they are read as empty maps and as no
payload, also from records that were not written from an operation or a tensor. -/
theorem exchange_round_trip (f : FloatForm) :
    (∀ v : Value, v.scalarFree = true → readValue f (writeValue f v) = some v) ∧
    (∀ p : Payload, p.scalarFree = true → readPayload f (writePayload f p) = some p) ∧
    (∀ t : Tensor, t.Exchangeable → readTensor f (writeTensor f t) = some t) ∧
    (∀ op : Operation, op.Exchangeable → readOperation f (writeOperation f op) = some op) ∧
    (∀ g : Graph, g.Exchangeable → readGraph f (writeGraph f g) = some g ∧
      ∀ listing, listing.Perm g.tensors.entries → readGraph f (writeListing f g listing) = some g) ∧
    (∀ (op : Operation) (keys : List String), keys ⊆ ["inputs", "outputs", "attribs"] →
      (op.cleared keys).Exchangeable → readOperation f ((writeOperation f op).without keys) = some (op.cleared keys)) ∧
    (∀ t : Tensor, (∀ d ∈ t.shape, d < UInt64.size) →
      readTensor f ((writeTensor f t).without ["data"]) = some { t with data := none }) ∧
    (∀ key ∈ ["inputs", "outputs", "attribs"], ∀ members, Json.lookup key members = none →
      readOperation f (.object members) = readOperation f (.object (members ++ [(key, .object [])]))) ∧
    ∀ members, Json.lookup "data" members = none →
      readTensor f (.object members) = readTensor f (.object (members ++ [("data", .null)])) := by
  refine ⟨readValue_writeValue f, fun p => readPayload_writePayload f, fun t => readTensor_writeTensor,
    fun op => readOperation_writeOperation, fun g hg => ⟨?_, fun listing => readGraph_writeListing hg⟩,
    fun op keys => readOperation_without, fun t => readTensor_without, fun key hkey members => ?_,
    fun members => readTensor_of_missing⟩
  · exact readGraph_writeListing hg (List.Perm.refl _)
  · exact readOperation_of_missing hkey

/-- pairs in an array, the least and the greatest integer, an axis as long as words allow, an empty list of floating
point numbers, and a tensor that is kept under another name than its own -/
def nested : Graph where
  name := "\"nested\""
  operations := [⟨"pad", .generic, .ofList [("input", .array [.identifier "x", .array []])],
    .ofList [("output", .identifier "y")],
    .ofList [("padding", .array [.tuple [.integer Int64.minValue, .integer Int64.maxValue], .tuple [.logical true]]),
      ("border", .string "reflect")]⟩]
  tensors := .ofList [("x", ⟨"x", .float, [0, UInt64.size - 1], some (.float [])⟩),
    ("y", ⟨"other", .integer, [], some (.integer [-1])⟩)]

theorem nested_exchangeable : nested.Exchangeable where
  operations := by
    intro op hop
    obtain rfl := List.mem_singleton.1 hop
    exact ⟨by decide, by decide, by decide⟩
  tensors := by
    intro t ht
    have hvalues : nested.tensors.values = [⟨"x", .float, [0, UInt64.size - 1], some (.float [])⟩,
        ⟨"other", .integer, [], some (.integer [-1])⟩] := by decide
    rw [hvalues, List.mem_cons, List.mem_singleton] at ht
    rcases ht with rfl | rfl
    · exact ⟨by decide, by simp [Payload.scalarFree]⟩
    · exact ⟨by decide, by simp [Payload.scalarFree]⟩

theorem exchange_round_trip_nested :
    readGraph .numbers (writeGraph .numbers nested) = some nested ∧
      (nested.tensor? "y").map Tensor.name = some "other" ∧
      (nested.operations.map fun op => readOperation .numbers ((writeOperation .numbers op).without ["attribs"])) =
        nested.operations.map fun op => some { op with attributes := .empty } := by
  have hround := exchange_round_trip .numbers
  obtain ⟨-, -, -, -, hgraph, hwithout, -⟩ := hround
  refine ⟨(hgraph nested nested_exchangeable).1, by decide, List.map_congr_left fun op hop => ?_⟩
  have hop' := nested_exchangeable.operations op hop
  exact hwithout op ["attribs"] (by simp) ⟨hop'.inputs, hop'.outputs, fun v hv => absurd hv List.not_mem_nil⟩

end Exchange

end TensorGraph
