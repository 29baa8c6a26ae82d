/-
Which fault validation reports.

Model: a name is mentioned at a `Place` of an operation: in an operand of some side and key, and there at an item of an
item of it, given by numbers (`Value.part?`). Places are in the order in which they are read: inputs come before
outputs, then keys are in order, and then paths. A tensor that is not sound is to be blamed for a fault (`Blames`).

Main result: `validate_reports_first_offender`, validation accepts the sound graphs; of others, it blames an unsound
tensor if there is one, and otherwise the first place at which a name without a tensor is mentioned.
-/
import TensorGraph.Proofs.Validation

namespace TensorGraph

/-! ## Model -/

namespace Value

/-- what is in an array or a tuple; nothing is in any other value -/
def items : Value → List Value
  | .array items => items
  | .tuple items => items
  | _ => []

/-- the item of the item … of a value, by numbers from the outside in -/
def part? : Value → List Nat → Option Value
  | v, [] => some v
  | v, i :: path => v.items[i]?.bind fun item => item.part? path

end Value

/-- the sides of an operation -/
inductive Side
  | input
  | output
deriving DecidableEq, Repr

/-- where something is mentioned in the operands of an operation -/
structure Place where
  side : Side
  key : String
  /-- numbers of items, from the outside in -/
  path : List Nat
deriving DecidableEq, Repr

/-- what is read before what: inputs before outputs, then by key, and then depth first and from left to right -/
inductive Place.Before : Place → Place → Prop
  | side {key key' : String} {path path' : List Nat} : Before ⟨.input, key, path⟩ ⟨.output, key', path'⟩
  | key {side : Side} {key key' : String} {path path' : List Nat} (h : key < key') :
    Before ⟨side, key, path⟩ ⟨side, key', path'⟩
  | path {side : Side} {key : String} {path path' : List Nat} (h : path < path') :
    Before ⟨side, key, path⟩ ⟨side, key, path'⟩

namespace Operation

/-- an operand -/
def operand? (op : Operation) : Side → String → Option Value
  | .input, key => op.input? key
  | .output, key => op.output? key

/-- a name is mentioned at a place -/
def MentionsAt (op : Operation) (place : Place) (name : String) : Prop :=
  ∃ v, op.operand? place.side place.key = some v ∧ v.part? place.path = some (.identifier name)

end Operation

/-- a fault that a tensor is to be blamed for -/
inductive Tensor.Blames (t : Tensor) : GraphError → Prop
  | rank (h : maxRank < t.rank) : Blames t (.rankTooLarge t.name t.rank maxRank)
  | kind {p : Payload} (hrank : t.rank ≤ maxRank) (hp : t.data = some p) (h : p.kind ≠ t.kind) :
    Blames t (.invalidPayload t.name s!"payload is {p.kind.label}, tensor is {t.kind.label}")
  | size {p : Payload} (hrank : t.rank ≤ maxRank) (hp : t.data = some p) (hkind : p.kind = t.kind)
    (h : p.length ≠ t.volume) : Blames t (.invalidPayload t.name
      s!"payload has {p.length} elements, shape {Text.sizes t.shape} needs {t.volume}")

namespace Graph

/-- sound tensors, whatever the operations mention -/
def SoundTensors (g : Graph) : Prop := ∀ key t, g.tensor? key = some t → t.Sound

/-- operation number `index` mentions a name without a tensor -/
def Undeclared (tensors : NameMap Tensor) (ops : List Operation) (index : Nat) (place : Place) (name : String) : Prop :=
  ∃ op, ops[index]? = some op ∧ op.MentionsAt place name ∧ tensors.contains name = false

/-- validation that looks at the tensors in another order -/
def validateIn (g : Graph) (order : List Tensor) : Except GraphError Unit :=
  match checkTensors order with
  | .ok () => checkOperations g.tensors 0 g.operations
  | .error e => .error e

end Graph

/-! ## Names in a value -/

namespace Value

mutual

/-- every name in the value with the path to it, in the order of `identifiers` -/
def mentions : Value → List (List Nat × String)
  | .identifier name => [([], name)]
  | .array items => mentionsOfItems 0 items
  | .tuple items => mentionsOfItems 0 items
  | .scalar _ | .integer _ | .logical _ | .string _ => []

/-- the same for items, the first of which has number `i` -/
def mentionsOfItems (i : Nat) : List Value → List (List Nat × String)
  | [] => []
  | v :: rest => (mentions v).map (fun m => (i :: m.1, m.2)) ++ mentionsOfItems (i + 1) rest

end

mutual

theorem names_mentions : ∀ v : Value, v.mentions.map Prod.snd = v.identifiers
  | .identifier _ => rfl
  | .array items => names_mentionsOfItems 0 items
  | .tuple items => names_mentionsOfItems 0 items
  | .scalar _ => rfl
  | .integer _ => rfl
  | .logical _ => rfl
  | .string _ => rfl

theorem names_mentionsOfItems (i : Nat) :
    ∀ items : List Value, (mentionsOfItems i items).map Prod.snd = identifiersOfItems items
  | [] => rfl
  | v :: rest => by
    rw [mentionsOfItems, identifiersOfItems, List.map_append, List.map_map, ← names_mentions v,
      names_mentionsOfItems (i + 1) rest]
    rfl

end

mutual

/-- the names in a value are at its parts -/
theorem mem_mentions_iff {path : List Nat} {name : String} :
    ∀ v : Value, (path, name) ∈ v.mentions ↔ v.part? path = some (.identifier name)
  | .identifier _ => by cases path <;> simp [mentions, part?, items, eq_comm]
  | .array items => by
    rw [mentions, mem_mentionsOfItems_iff 0 items]
    cases path <;> simp [part?, Value.items, Option.bind_eq_some_iff]
  | .tuple items => by
    rw [mentions, mem_mentionsOfItems_iff 0 items]
    cases path <;> simp [part?, Value.items, Option.bind_eq_some_iff]
  | .scalar _ => by cases path <;> simp [mentions, part?, items]
  | .integer _ => by cases path <;> simp [mentions, part?, items]
  | .logical _ => by cases path <;> simp [mentions, part?, items]
  | .string _ => by cases path <;> simp [mentions, part?, items]

theorem mem_mentionsOfItems_iff {path : List Nat} {name : String} (i : Nat) :
    ∀ items : List Value, (path, name) ∈ mentionsOfItems i items ↔
      ∃ k rest v, path = (i + k) :: rest ∧ items[k]? = some v ∧ v.part? rest = some (.identifier name)
  | [] => by simp [mentionsOfItems]
  | v :: items => by
    rw [mentionsOfItems, List.mem_append, mem_mentionsOfItems_iff (i + 1) items]
    constructor
    · rintro (hfirst | ⟨k, rest, w, rfl, hw, hpart⟩)
      · obtain ⟨⟨rest, _⟩, hm, heq⟩ := List.mem_map.1 hfirst
        cases heq
        exact ⟨0, rest, v, rfl, rfl, (mem_mentions_iff v).1 hm⟩
      · exact ⟨k + 1, rest, w, by rw [Nat.add_right_comm, Nat.add_assoc], hw, hpart⟩
    · rintro ⟨k, rest, w, rfl, hw, hpart⟩
      cases k with
      | zero =>
        cases hw
        exact Or.inl (List.mem_map.2 ⟨(rest, name), (mem_mentions_iff v).2 hpart, rfl⟩)
      | succ k => exact Or.inr ⟨k, rest, w, by rw [Nat.add_right_comm, Nat.add_assoc], hw, hpart⟩

end

mutual

/-- paths are in order -/
theorem sorted_mentions : ∀ v : Value, v.mentions.Pairwise fun a b => a.1 < b.1
  | .identifier _ => List.pairwise_singleton _ _
  | .array items => sorted_mentionsOfItems 0 items
  | .tuple items => sorted_mentionsOfItems 0 items
  | .scalar _ => .nil
  | .integer _ => .nil
  | .logical _ => .nil
  | .string _ => .nil

theorem sorted_mentionsOfItems (i : Nat) :
    ∀ items : List Value, (mentionsOfItems i items).Pairwise fun a b => a.1 < b.1
  | [] => .nil
  | v :: items => by
    rw [mentionsOfItems, List.pairwise_append, List.pairwise_map]
    refine ⟨(sorted_mentions v).imp fun h => List.cons_lt_cons_iff.2 (Or.inr ⟨rfl, h⟩),
      sorted_mentionsOfItems (i + 1) items, fun a ha b hb => ?_⟩
    obtain ⟨m, -, rfl⟩ := List.mem_map.1 ha
    obtain ⟨path, name⟩ := b
    obtain ⟨k, rest, w, rfl, -⟩ := (mem_mentionsOfItems_iff (i + 1) items).1 hb
    exact List.cons_lt_cons_iff.2 (Or.inl (by omega))

end

end Value

/-! ## Names in an operation -/

/-- of two places only one is read before the other -/
theorem Place.Before.asymm {a b : Place} (h : a.Before b) : ¬ b.Before a := by
  cases h with
  | side => nofun
  | key h =>
    rintro (_ | h' | h')
    · exact String.lt_irrefl _ (String.lt_trans h h')
    · exact String.lt_irrefl _ h
  | path h =>
    rintro (_ | h' | h')
    · exact String.lt_irrefl _ h'
    · exact List.lt_asymm h h'

namespace Operation

/-- every name in the operands of a side with its place -/
def mentionsOf (side : Side) (operands : NameMap Value) : List (Place × String) :=
  operands.entries.flatMap fun e => e.2.mentions.map fun m => (⟨side, e.1, m.1⟩, m.2)

/-- every name in the operands with its place, in the order of `identifiers` -/
def mentions (op : Operation) : List (Place × String) := mentionsOf .input op.inputs ++ mentionsOf .output op.outputs

theorem names_mentionsOf (side : Side) (operands : NameMap Value) :
    (mentionsOf side operands).map Prod.snd = operands.entries.flatMap fun e => e.2.identifiers := by
  rw [mentionsOf, List.map_flatMap]
  refine List.flatMap_congr fun e _ => ?_
  rw [List.map_map, ← Value.names_mentions]
  rfl

theorem names_mentions (op : Operation) : op.mentions.map Prod.snd = op.identifiers := by
  rw [mentions, List.map_append, names_mentionsOf, names_mentionsOf, identifiers, operands, List.flatMap_append]

theorem mem_mentionsOf_iff {side : Side} {operands : NameMap Value} {place : Place} {name : String} :
    (place, name) ∈ mentionsOf side operands ↔
      place.side = side ∧ ∃ v, operands.find? place.key = some v ∧ v.part? place.path = some (.identifier name) := by
  simp only [mentionsOf, List.mem_flatMap, List.mem_map]
  constructor
  · rintro ⟨⟨key, v⟩, he, ⟨path, _⟩, hm, h⟩
    cases h
    exact ⟨rfl, v, NameMap.mem_entries_iff.1 he, (Value.mem_mentions_iff v).1 hm⟩
  · rintro ⟨rfl, v, hv, hpart⟩
    exact ⟨(place.key, v), NameMap.mem_entries_iff.2 hv, (place.path, name), (Value.mem_mentions_iff v).2 hpart, rfl⟩

theorem mem_mentions_iff {op : Operation} {place : Place} {name : String} :
    (place, name) ∈ op.mentions ↔ op.MentionsAt place name := by
  rw [mentions, List.mem_append, mem_mentionsOf_iff, mem_mentionsOf_iff]
  obtain ⟨side, key, path⟩ := place
  cases side <;> simp [MentionsAt, operand?, input?, output?]

theorem sorted_mentionsOf (side : Side) (operands : NameMap Value) :
    (mentionsOf side operands).Pairwise fun a b => a.1.Before b.1 := by
  rw [mentionsOf, List.pairwise_flatMap]
  refine ⟨fun e _ => ?_, operands.sorted.imp fun {d e} hlt a ha b hb => ?_⟩
  · rw [List.pairwise_map]
    exact (Value.sorted_mentions e.2).imp fun h => .path h
  · obtain ⟨m, -, rfl⟩ := List.mem_map.1 ha
    obtain ⟨n, -, rfl⟩ := List.mem_map.1 hb
    exact .key hlt

theorem sorted_mentions (op : Operation) : op.mentions.Pairwise fun a b => a.1.Before b.1 := by
  rw [mentions, List.pairwise_append]
  refine ⟨sorted_mentionsOf _ _, sorted_mentionsOf _ _, ?_⟩
  rintro ⟨⟨side, key, path⟩, name⟩ ha ⟨⟨side', key', path'⟩, name'⟩ hb
  obtain ⟨rfl, -⟩ := mem_mentionsOf_iff.1 ha
  obtain ⟨rfl, -⟩ := mem_mentionsOf_iff.1 hb
  exact .side

/-- the name that is found first is mentioned before all others that could be found -/
theorem first_of_find? {op : Operation} {p : String → Bool} {name : String} (h : op.identifiers.find? p = some name) :
    ∃ place, op.MentionsAt place name ∧ ∀ place' name', op.MentionsAt place' name' → p name' = true →
      place' = place ∨ place.Before place' := by
  rw [← names_mentions, List.find?_map, Option.map_eq_some_iff] at h
  obtain ⟨⟨place, _⟩, hfind, rfl⟩ := h
  obtain ⟨hmem, -, hfirst⟩ := (find?_eq_some_iff_of_pairwise (fun _ _ => Place.Before.asymm) op.sorted_mentions).1 hfind
  refine ⟨place, mem_mentions_iff.1 hmem, fun place' name' hat hp => ?_⟩
  exact (hfirst (place', name') (mem_mentions_iff.2 hat) hp).imp (congrArg Prod.fst) id

/-- a name is mentioned at some place if it is among the names of the operation -/
theorem mem_identifiers_iff {op : Operation} {name : String} :
    name ∈ op.identifiers ↔ ∃ place, op.MentionsAt place name := by
  rw [← names_mentions, List.mem_map]
  constructor
  · rintro ⟨⟨place, _⟩, hmem, rfl⟩
    exact ⟨place, mem_mentions_iff.1 hmem⟩
  · rintro ⟨place, hat⟩
    exact ⟨(place, name), mem_mentions_iff.2 hat, rfl⟩

end Operation

/-! ## Tensors -/

/-- a tensor is blamed for the fault that its check reports -/
theorem Tensor.blames_of_check {t : Tensor} {e : GraphError} (h : t.check = .error e) : t.Blames e := by
  unfold check at h
  split at h
  · rename_i hrank
    cases h
    exact .rank hrank
  · rename_i hrank
    have hle := Nat.le_of_not_lt hrank
    split at h
    · cases h
    · rename_i p hp
      split at h
      · rename_i hkind
        cases h
        exact .kind hle hp hkind
      · rename_i hkind
        split at h
        · rename_i hlength
          cases h
          exact .size hle hp (not_not.1 hkind) hlength
        · cases h

namespace Graph

/-- some unsound tensor is blamed if there is one -/
theorem blames_of_checkTensors {ts : List Tensor} (h : ∃ t ∈ ts, ¬ t.Sound) :
    ∃ t ∈ ts, ∃ e, t.Blames e ∧ checkTensors ts = .error e := by
  induction ts with
  | nil =>
    obtain ⟨t, ht, -⟩ := h
    cases ht
  | cons t rest ih =>
    rw [checkTensors]
    cases hcheck : t.check with
    | error e => exact ⟨t, List.mem_cons_self, e, Tensor.blames_of_check hcheck, rfl⟩
    | ok u =>
      obtain ⟨t', ht', hunsound⟩ := h
      rcases List.mem_cons.1 ht' with rfl | ht'
      · exact absurd (Tensor.check_eq_ok_iff.1 hcheck) hunsound
      · obtain ⟨t', ht', e, hblames, he⟩ := ih ⟨t', ht', hunsound⟩
        exact ⟨t', List.mem_cons_of_mem _ ht', e, hblames, he⟩

/-! ## Operations -/

section

variable {tensors : NameMap Tensor} {op : Operation} {ops : List Operation} {place : Place} {name : String}

theorem undeclared_zero_iff : Undeclared tensors (op :: ops) 0 place name ↔
    op.MentionsAt place name ∧ tensors.contains name = false := by
  simp [Undeclared]

theorem undeclared_succ_iff {index : Nat} :
    Undeclared tensors (op :: ops) (index + 1) place name ↔ Undeclared tensors ops index place name := by
  simp [Undeclared]

/-- the first place at which a name without a tensor is mentioned is the one that is reported -/
theorem first_of_checkOperations (first : Nat) (h : ∃ index place name, Undeclared tensors ops index place name) :
    ∃ index op place name, ops[index]? = some op ∧ Undeclared tensors ops index place name ∧
      checkOperations tensors first ops = .error (.undeclaredTensor (first + index) op.name name) ∧
      ∀ index' place' name', Undeclared tensors ops index' place' name' →
        index < index' ∨ index' = index ∧ (place' = place ∨ place.Before place') := by
  induction ops generalizing first with
  | nil =>
    obtain ⟨index, place, name, op, hop, -⟩ := h
    cases hop
  | cons op rest ih =>
    rw [checkOperations]
    cases hfind : op.identifiers.find? fun name => !tensors.contains name with
    | some name =>
      obtain ⟨place, hat, hfirst⟩ := Operation.first_of_find? hfind
      have hmissing : tensors.contains name = false := by simpa using List.find?_some hfind
      refine ⟨0, op, place, name, rfl, undeclared_zero_iff.2 ⟨hat, hmissing⟩, rfl, fun index' place' name' h' => ?_⟩
      cases index' with
      | zero =>
        obtain ⟨hat', hmissing'⟩ := undeclared_zero_iff.1 h'
        exact Or.inr ⟨rfl, hfirst place' name' hat' (by rw [hmissing']; rfl)⟩
      | succ index' => exact Or.inl (Nat.succ_pos _)
    | none =>
      -- every name of this operation has a tensor, so all that is undeclared is further on
      have hdeclared : ∀ place name, ¬ Undeclared tensors (op :: rest) 0 place name := fun place name h' => by
        obtain ⟨hat, hmissing⟩ := undeclared_zero_iff.1 h'
        have hall := List.find?_eq_none.1 hfind name (Operation.mem_identifiers_iff.2 ⟨place, hat⟩)
        rw [hmissing] at hall
        exact hall rfl
      have hrest : ∃ index place name, Undeclared tensors rest index place name := by
        obtain ⟨index, place, name, h'⟩ := h
        cases index with
        | zero => exact absurd h' (hdeclared place name)
        | succ index => exact ⟨index, place, name, undeclared_succ_iff.1 h'⟩
      obtain ⟨index, op', place, name, hop', hundeclared, he, hfirst⟩ := ih (first + 1) hrest
      refine ⟨index + 1, op', place, name, hop', undeclared_succ_iff.2 hundeclared, ?_,
        fun index' place' name' h' => ?_⟩
      · rw [Nat.add_right_comm] at he
        exact he
      · cases index' with
        | zero => exact absurd h' (hdeclared place' name')
        | succ index' =>
          have hleast := hfirst index' place' name' (undeclared_succ_iff.1 h')
          exact hleast.imp Nat.succ_lt_succ (And.imp_left (congrArg Nat.succ))

end

/-- only the names of operations and the names that they mention are looked at -/
theorem checkOperations_map {tensors : NameMap Tensor} (f : Operation → Operation) (first : Nat) (ops : List Operation)
    (hname : ∀ op, (f op).name = op.name) (hidentifiers : ∀ op, (f op).identifiers = op.identifiers) :
    checkOperations tensors first (ops.map f) = checkOperations tensors first ops := by
  induction ops generalizing first with
  | nil => rfl
  | cons op rest ih => rw [List.map_cons, checkOperations, checkOperations, hname, hidentifiers, ih (first + 1)]

/-! ## Orders -/

theorem soundTensors_iff {g : Graph} : g.SoundTensors ↔ ∀ t ∈ g.tensors.values, t.Sound := by
  constructor
  · intro h t ht
    obtain ⟨⟨key, t⟩, he, rfl⟩ := List.mem_map.1 ht
    exact h key t (NameMap.mem_entries_iff.1 he)
  · exact fun h key t ht => h t (NameMap.mem_values_of_find? ht)

/-- with sound tensors, only operations can be reported -/
theorem validateIn_of_sound {g : Graph} {order : List Tensor} (horder : order.Perm g.tensors.values)
    (hsound : g.SoundTensors) : g.validateIn order = checkOperations g.tensors 0 g.operations := by
  have hall : checkTensors order = .ok () :=
    checkTensors_eq_ok_iff.2 fun t ht => soundTensors_iff.1 hsound t (horder.mem_iff.1 ht)
  rw [validateIn, hall]

/-- without, one of the unsound ones is reported, whatever the operations are -/
theorem validateIn_of_unsound {g : Graph} {order : List Tensor} (horder : order.Perm g.tensors.values)
    (hunsound : ¬ g.SoundTensors) :
    ∃ key t e, g.tensor? key = some t ∧ t.Blames e ∧ g.validateIn order = .error e := by
  have hsome : ∃ t ∈ order, ¬ t.Sound := by
    by_contra hnone
    push Not at hnone
    exact hunsound (soundTensors_iff.2 fun t ht => hnone t (horder.mem_iff.2 ht))
  obtain ⟨t, ht, e, hblames, he⟩ := blames_of_checkTensors hsome
  obtain ⟨⟨key, t⟩, hentry, rfl⟩ := List.mem_map.1 (horder.mem_iff.1 ht)
  exact ⟨key, t, e, NameMap.mem_entries_iff.1 hentry, hblames, by rw [validateIn, he]⟩

/-! ## Main result -/

/-- **Validation reports the first offender.** It accepts a graph exactly if its tensors are sound and every name that
is mentioned at any place of any operand has a tensor; attributes are not looked at.

If the tensors are sound and some name has no tensor, what is reported is the first place at which such a name is
mentioned: the least operation, and in it the first place in the order of reading. If some tensor is unsound, one that
is unsound is blamed, whatever the operations are. In which order the tensors are looked at makes no other
difference. -/
theorem validate_reports_first_offender (g : Graph) :
    (g.validate = .ok () ↔ g.SoundTensors ∧
      ∀ op ∈ g.operations, ∀ place name, op.MentionsAt place name → g.tensors.contains name = true) ∧
    (∀ attributes : Operation → NameMap Value, validate { g with
      operations := g.operations.map fun op => { op with attributes := attributes op } } = g.validate) ∧
    (g.SoundTensors → (∃ index place name, Undeclared g.tensors g.operations index place name) →
      ∃ index op place name, g.operations[index]? = some op ∧ Undeclared g.tensors g.operations index place name ∧
        g.validate = .error (.undeclaredTensor index op.name name) ∧
        ∀ index' place' name', Undeclared g.tensors g.operations index' place' name' →
          index < index' ∨ index' = index ∧ (place' = place ∨ place.Before place')) ∧
    (¬ g.SoundTensors → ∃ key t e, g.tensor? key = some t ∧ t.Blames e ∧ g.validate = .error e) ∧
    ∀ order : List Tensor, order.Perm g.tensors.values →
      (g.SoundTensors → g.validateIn order = g.validate) ∧
      (¬ g.SoundTensors → ∃ key t e, g.tensor? key = some t ∧ t.Blames e ∧ g.validateIn order = .error e) := by
  have hnamed : g.validate = g.validateIn g.tensors.values := rfl
  have hsame := List.Perm.refl g.tensors.values
  refine ⟨?_, fun attributes => ?_, fun hsound hsome => ?_, fun hunsound => ?_, fun order horder =>
    ⟨fun hsound => ?_, ?_⟩⟩
  · rw [validate_eq_ok_iff]
    constructor
    · intro h
      exact ⟨h.tensors, fun op hop place name hat =>
        h.references op hop name (Operation.mem_identifiers_iff.2 ⟨place, hat⟩)⟩
    · rintro ⟨htensors, hall⟩
      refine ⟨htensors, fun op hop name hname => ?_⟩
      obtain ⟨place, hat⟩ := Operation.mem_identifiers_iff.1 hname
      exact hall op hop place name hat
  · have hops : checkOperations g.tensors 0 (g.operations.map fun op => { op with attributes := attributes op }) =
        checkOperations g.tensors 0 g.operations := checkOperations_map _ 0 _ (fun _ => rfl) fun _ => rfl
    unfold validate
    dsimp only
    rw [hops]
  · obtain ⟨index, op, place, name, hop, hundeclared, he, hfirst⟩ := first_of_checkOperations 0 hsome
    rw [Nat.zero_add] at he
    exact ⟨index, op, place, name, hop, hundeclared, (validateIn_of_sound hsame hsound).trans he, hfirst⟩
  · exact validateIn_of_unsound hsame hunsound
  · rw [hnamed, validateIn_of_sound horder hsound, validateIn_of_sound hsame hsound]
  · exact validateIn_of_unsound horder

/-- the second operation mentions two names without a tensor, one of them inside a tuple inside an array, which is read
first; with a tensor of too many axes in addition, this one is reported instead -/
theorem validate_reports_first_offender_nested :
    let op := ((Operation.named "f" .float).withInput "y" (.identifier "c")).withInput "x"
      (.array [.identifier "a", .tuple [.integer 1, .identifier "b"]])
    let operations := [(Operation.named "g" .float).withAttribute "z" (.identifier "d"), op]
    let tensors : NameMap Tensor := .ofList [("a", ⟨"a", .float, [2], none⟩)]
    let g : Graph := ⟨"", operations, tensors⟩
    let g' : Graph := ⟨"", operations, tensors.insert "e" ⟨"e", .float, [1, 1, 1, 1, 1, 1, 1, 1, 1], none⟩⟩
    (g.SoundTensors ∧ Undeclared g.tensors g.operations 1 ⟨.input, "x", [1, 1]⟩ "b") ∧
    g.validate = .error (.undeclaredTensor 1 "f" "b") ∧
    (∃ index op place name, g.operations[index]? = some op ∧
      g.validate = .error (.undeclaredTensor index op.name name) ∧
      ∀ index' place' name', Undeclared g.tensors g.operations index' place' name' →
        index < index' ∨ index' = index ∧ (place' = place ∨ place.Before place')) ∧
    ¬ g'.SoundTensors ∧ g'.validate = .error (.rankTooLarge "e" 9 8) := by
  intro op operations tensors g g'
  have hsound : g.SoundTensors := soundTensors_iff.2 (checkTensors_eq_ok_iff.1 (by decide +kernel))
  have hundeclared : Undeclared g.tensors g.operations 1 ⟨.input, "x", [1, 1]⟩ "b" :=
    ⟨op, rfl, ⟨.array [.identifier "a", .tuple [.integer 1, .identifier "b"]], by decide +kernel, by decide +kernel⟩,
      by decide +kernel⟩
  have hunsound : ¬ g'.SoundTensors := fun h =>
    absurd (checkTensors_eq_ok_iff.2 (soundTensors_iff.1 h)) (by decide +kernel)
  obtain ⟨-, -, hfirst, -⟩ := validate_reports_first_offender g
  obtain ⟨index, op', place, name, hop', -, he, hleast⟩ := hfirst hsound ⟨_, _, _, hundeclared⟩
  exact ⟨⟨hsound, hundeclared⟩, by decide +kernel, ⟨index, op', place, name, hop', he, hleast⟩, hunsound,
    by decide +kernel⟩

end Graph

end TensorGraph
