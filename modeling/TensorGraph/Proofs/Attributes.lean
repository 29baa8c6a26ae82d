/-
Which attributes the readers accept, and what they read.

Model: `Lacks`, `ListsSizes` and `ListsPairs` say what an attribute looks like from outside: missing, a list of integers
none of which is negative, a list of pairs of such. Nothing else is accepted, and what is read is what is written.

Main results: `string_eq_ok_iff`, `integer_eq_ok_iff`, `logical_eq_ok_iff`, `sizes_eq_ok_iff`, `padding_eq_ok_iff`.
-/
import Mathlib.Tactic
import TensorGraph.Operator.Attribute

namespace TensorGraph

theorem except_bind_of_ok {ε α β : Type} {x : Except ε α} {a : α} (h : x = .ok a) (k : α → Except ε β) :
    (x >>= k) = k a := by
  rw [h]
  rfl

theorem except_bind_of_error {ε α β : Type} {x : Except ε α} {e : ε} (h : x = .error e) (k : α → Except ε β) :
    (x >>= k) = .error e := by
  rw [h]
  rfl

/-- a sequence comes to a value if both of its parts do -/
theorem except_bind_eq_ok_iff {ε α β : Type} {x : Except ε α} {k : α → Except ε β} {b : β} :
    x >>= k = .ok b ↔ ∃ a, x = .ok a ∧ k a = .ok b := by
  cases x with
  | error e =>
    refine ⟨nofun, ?_⟩
    rintro ⟨a, h, -⟩
    cases h
  | ok a =>
    refine ⟨fun h => ⟨a, rfl, h⟩, ?_⟩
    rintro ⟨a', ha, h⟩
    cases ha
    exact h

/-- a list is seen through if each of its items is -/
theorem mapM_eq_some_iff {α β : Type} {view : α → Option β} {l : List α} {l' : List β} :
    l.mapM view = some l' ↔ l.map view = l'.map some := by
  induction l generalizing l' with
  | nil => cases l' <;> simp
  | cons a rest ih =>
    rw [List.mapM_cons]
    cases l' with
    | nil => simp [Option.bind_eq_some_iff]
    | cons b l' => simp [Option.bind_eq_some_iff, ih]

/-- items that are made from what is seen in them -/
theorem mapM_eq_some_iff_of_view {α β : Type} {view : α → Option β} {make : β → α}
    (h : ∀ a b, view a = some b ↔ a = make b) {l : List α} {l' : List β} :
    l.mapM view = some l' ↔ l = l'.map make := by
  rw [mapM_eq_some_iff]
  constructor
  · intro hl
    induction l generalizing l' with
    | nil =>
      obtain rfl := List.map_eq_nil_iff.1 hl.symm
      rfl
    | cons a rest ih =>
      cases l' with
      | nil => cases hl
      | cons b l' =>
        obtain ⟨hb, hrest⟩ := List.cons.inj hl
        exact congrArg₂ _ ((h a b).1 hb) (ih hrest)
  · rintro rfl
    rw [List.map_map]
    exact List.map_congr_left fun b _ => (h _ _).2 rfl

namespace Operation

/-! ## Model -/

/-- an attribute that is missing; an empty list counts as missing -/
def Lacks (op : Operation) (key : String) : Prop := op.attribute? key = none ∨ op.attribute? key = some (.array [])

/-- an attribute that is the array of the integers `l` -/
def ListsSizes (op : Operation) (key : String) (l : List Nat) : Prop :=
  ∃ ns : List Int64, op.attribute? key = some (.ofIntegers ns) ∧ (∀ n ∈ ns, 0 ≤ n.toInt) ∧
    l = ns.map fun n => n.toInt.toNat

/-- an attribute that is the array of the pairs `l`, each a tuple of two integers -/
def ListsPairs (op : Operation) (key : String) (l : List (Nat × Nat)) : Prop :=
  ∃ ps : List (Int64 × Int64), op.attribute? key = some (.ofPairs ps) ∧
    (∀ p ∈ ps, 0 ≤ p.1.toInt ∧ 0 ≤ p.2.toInt) ∧ l = ps.map fun p => (p.1.toInt.toNat, p.2.toInt.toNat)

variable {op : Operation} {key : String}

/-- an empty list of integers is missing -/
theorem ListsSizes.lacks (h : op.ListsSizes key []) : op.Lacks key := by
  obtain ⟨ns, hns, -, hnil⟩ := h
  obtain rfl := List.map_eq_nil_iff.1 hnil.symm
  exact Or.inr hns

/-- an empty list of pairs is missing -/
theorem ListsPairs.lacks (h : op.ListsPairs key []) : op.Lacks key := by
  obtain ⟨ps, hps, -, hnil⟩ := h
  obtain rfl := List.map_eq_nil_iff.1 hnil.symm
  exact Or.inr hps

/-! ## Single values -/

theorem single_eq_ok_iff {α : Type} {expected : String} {view : Value → Option α} {default x : α} :
    op.single key expected view default = .ok x ↔
      (op.attribute? key = none ∧ x = default) ∨ ∃ v, op.attribute? key = some v ∧ view v = some x := by
  unfold single
  cases op.attribute? key with
  | none => simp [eq_comm]
  | some v =>
    dsimp only
    cases hv : view v <;> simp [hv]

theorem integer_eq_ok_iff {default n : Int64} : op.integer key default = .ok n ↔
    (op.attribute? key = none ∧ n = default) ∨ op.attribute? key = some (.integer n) := by
  rw [integer, single_eq_ok_iff]
  refine or_congr Iff.rfl ⟨?_, fun h => ⟨_, h, rfl⟩⟩
  rintro ⟨v, h, hv⟩
  cases v <;> cases hv
  exact h

theorem logical_eq_ok_iff {default b : Bool} : op.logical key default = .ok b ↔
    (op.attribute? key = none ∧ b = default) ∨ op.attribute? key = some (.logical b) := by
  rw [logical, single_eq_ok_iff]
  refine or_congr Iff.rfl ⟨?_, fun h => ⟨_, h, rfl⟩⟩
  rintro ⟨v, h, hv⟩
  cases v <;> cases hv
  exact h

theorem string_eq_ok_iff {default text : String} : op.string key default = .ok text ↔
    (op.attribute? key = none ∧ text = default) ∨ op.attribute? key = some (.string text) := by
  rw [string, single_eq_ok_iff]
  refine or_congr Iff.rfl ⟨?_, fun h => ⟨_, h, rfl⟩⟩
  rintro ⟨v, h, hv⟩
  cases v <;> cases hv
  exact h

/-! ## Lists -/

theorem items_eq_ok_iff {expected : String} {found : Option (Value × List Value)} :
    op.items key expected = .ok found ↔ (op.Lacks key ∧ found = none) ∨
      ∃ l, l ≠ [] ∧ op.attribute? key = some (.array l) ∧ found = some (.array l, l) := by
  unfold items Lacks
  cases hv : op.attribute? key with
  | none => simp [eq_comm]
  | some v =>
    cases v with
    | array l => cases l <;> simp [Value.array?, eq_comm]
    | _ => simp [Value.array?]

/-- values that are all integers -/
theorem mapM_integer?_eq_some_iff {l : List Value} {ns : List Int64} :
    l.mapM Value.integer? = some ns ↔ l = ns.map .integer := by
  refine mapM_eq_some_iff_of_view fun v n => ?_
  cases v <;> simp [Value.integer?]

theorem integers_eq_ok_iff {found : Option (List Int)} :
    op.integers key = .ok found ↔ (op.Lacks key ∧ found = none) ∨
      ∃ ns : List Int64, ns ≠ [] ∧ op.attribute? key = some (.ofIntegers ns) ∧ found = some (ns.map Int64.toInt) := by
  rw [integers, except_bind_eq_ok_iff]
  constructor
  · rintro ⟨found', hitems, h⟩
    rcases items_eq_ok_iff.1 hitems with ⟨hlacks, rfl⟩ | ⟨l, hne, hl, rfl⟩
    · cases h
      exact Or.inl ⟨hlacks, rfl⟩
    · dsimp only at h
      cases hns : l.mapM Value.integer? with
      | none => rw [hns] at h; cases h
      | some ns =>
        rw [hns] at h
        cases h
        obtain rfl := mapM_integer?_eq_some_iff.1 hns
        exact Or.inr ⟨ns, fun hnil => hne (by rw [hnil]; rfl), hl, rfl⟩
  · rintro (⟨hlacks, rfl⟩ | ⟨ns, hne, hns, rfl⟩)
    · exact ⟨none, items_eq_ok_iff.2 (Or.inl ⟨hlacks, rfl⟩), rfl⟩
    · refine ⟨_, items_eq_ok_iff.2 (Or.inr ⟨ns.map .integer, by simpa using hne, hns, rfl⟩), ?_⟩
      dsimp only
      rw [mapM_integer?_eq_some_iff.2 rfl]

theorem sizes_eq_ok_iff {found : Option (List Nat)} :
    op.sizes key = .ok found ↔ (op.Lacks key ∧ found = none) ∨
      ∃ l, l ≠ [] ∧ op.ListsSizes key l ∧ found = some l := by
  have hnonneg : ∀ ns : List Int64, (ns.map Int64.toInt).find? (· < 0) = none ↔ ∀ n ∈ ns, 0 ≤ n.toInt := fun ns => by
    simp
  rw [sizes, except_bind_eq_ok_iff]
  constructor
  · rintro ⟨found', hintegers, h⟩
    rcases integers_eq_ok_iff.1 hintegers with ⟨hlacks, rfl⟩ | ⟨ns, hne, hns, rfl⟩
    · cases h
      exact Or.inl ⟨hlacks, rfl⟩
    · dsimp only at h
      cases hneg : (ns.map Int64.toInt).find? (· < 0) with
      | some n => rw [hneg] at h; cases h
      | none =>
        rw [hneg] at h
        cases h
        refine Or.inr ⟨_, by simpa using hne, ⟨ns, hns, (hnonneg ns).1 hneg, rfl⟩, ?_⟩
        rw [List.map_map]
        rfl
  · rintro (⟨hlacks, rfl⟩ | ⟨l, hne, ⟨ns, hns, hpos, rfl⟩, rfl⟩)
    · exact ⟨none, integers_eq_ok_iff.2 (Or.inl ⟨hlacks, rfl⟩), rfl⟩
    · refine ⟨_, integers_eq_ok_iff.2 (Or.inr ⟨ns, by simpa using hne, hns, rfl⟩), ?_⟩
      dsimp only
      rw [(hnonneg ns).2 hpos, List.map_map]
      rfl

/-! ## Pairs -/

theorem pairEntry_eq_ok_iff {v : Value} {n : Nat} :
    op.pairEntry key v = .ok n ↔ ∃ m : Int64, v = .integer m ∧ 0 ≤ m.toInt ∧ n = m.toInt.toNat := by
  unfold pairEntry
  cases v with
  | integer m =>
    dsimp only [Value.integer?]
    by_cases hneg : m.toInt < 0
    · rw [if_pos hneg]
      refine ⟨nofun, ?_⟩
      rintro ⟨m', h, hpos, -⟩
      cases h
      exact absurd hneg (Int.not_lt.2 hpos)
    · rw [if_neg hneg]
      refine ⟨fun h => ⟨m, rfl, Int.not_lt.1 hneg, by cases h; rfl⟩, ?_⟩
      rintro ⟨m', h, -, rfl⟩
      cases h
      rfl
  | _ => simp [Value.integer?]

theorem pairs_eq_ok_iff {whole : Value} {l : List Value} {found : List (Nat × Nat)} :
    op.pairs key whole l = .ok found ↔ ∃ ps : List (Int64 × Int64),
      l = ps.map (fun p => .tuple [.integer p.1, .integer p.2]) ∧ (∀ p ∈ ps, 0 ≤ p.1.toInt ∧ 0 ≤ p.2.toInt) ∧
        found = ps.map fun p => (p.1.toInt.toNat, p.2.toInt.toNat) := by
  induction l generalizing found with
  | nil =>
    rw [pairs]
    constructor
    · intro h
      cases h
      exact ⟨[], rfl, by simp, rfl⟩
    · rintro ⟨ps, hps, -, rfl⟩
      obtain rfl := List.map_eq_nil_iff.1 hps.symm
      rfl
  | cons v rest ih =>
    rw [pairs]
    constructor
    · intro h
      split at h
      · rename_i a b hv
        simp only [except_bind_eq_ok_iff, pairEntry_eq_ok_iff, ih] at h
        obtain ⟨_, ⟨m, rfl, hm, rfl⟩, _, ⟨n, rfl, hn, rfl⟩, _, ⟨ps, rfl, hps, rfl⟩, h⟩ := h
        cases h
        cases v <;> cases hv
        exact ⟨(m, n) :: ps, rfl, List.forall_mem_cons.2 ⟨⟨hm, hn⟩, hps⟩, rfl⟩
      · cases h
    · rintro ⟨_ | ⟨⟨m, n⟩, ps⟩, hps, hpos, rfl⟩
      · cases hps
      · cases hps
        obtain ⟨⟨hm, hn⟩, hrest⟩ := List.forall_mem_cons.1 hpos
        simp only [Value.tuple?, except_bind_eq_ok_iff, pairEntry_eq_ok_iff, ih]
        exact ⟨_, ⟨m, rfl, hm, rfl⟩, _, ⟨n, rfl, hn, rfl⟩, _, ⟨ps, rfl, hrest, rfl⟩, rfl⟩

theorem padding_eq_ok_iff {found : Option (List (Nat × Nat))} :
    op.padding key = .ok found ↔ (op.Lacks key ∧ found = none) ∨
      ∃ l, l ≠ [] ∧ op.ListsPairs key l ∧ found = some l := by
  rw [padding, except_bind_eq_ok_iff]
  constructor
  · rintro ⟨found', hitems, h⟩
    rcases items_eq_ok_iff.1 hitems with ⟨hlacks, rfl⟩ | ⟨l, hne, hl, rfl⟩
    · cases h
      exact Or.inl ⟨hlacks, rfl⟩
    · dsimp only at h
      rw [except_bind_eq_ok_iff] at h
      obtain ⟨l', hpairs, h⟩ := h
      cases h
      obtain ⟨ps, rfl, hpos, rfl⟩ := pairs_eq_ok_iff.1 hpairs
      exact Or.inr ⟨_, by simpa using hne, ⟨ps, hl, hpos, rfl⟩, rfl⟩
  · rintro (⟨hlacks, rfl⟩ | ⟨l, hne, ⟨ps, hps, hpos, rfl⟩, rfl⟩)
    · exact ⟨none, items_eq_ok_iff.2 (Or.inl ⟨hlacks, rfl⟩), rfl⟩
    · refine ⟨_, items_eq_ok_iff.2 (Or.inr ⟨_, by simpa using hne, hps, rfl⟩), ?_⟩
      dsimp only
      rw [except_bind_eq_ok_iff]
      exact ⟨_, pairs_eq_ok_iff.2 ⟨ps, rfl, hpos, rfl⟩, rfl⟩

end Operation

end TensorGraph
