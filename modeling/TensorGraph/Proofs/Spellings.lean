/-
Equivalent spellings of an operation do the same.

Model: `Respells` relates an operation to the same one with an axis, or the start of a slice, counted from the front and
not from the end. What an axis is counted against depends on the operator (`Operator.bounding?`), and what a start is
counted against on the axis at its place in the list of axes. `Operator.averaging?` pairs a summing operator with the
one that it is on request.

Results:
- `Replaces.integers_cases`: a list of integers with another entry is read with another entry;
- `plan_of_respells`: a request is planned if and only if it is planned for the other spelling;
- `perform_of_spellings`.
-/
import TensorGraph.Operator.Registry
import TensorGraph.Proofs.Defaults

namespace TensorGraph

/-! ## Model -/

/-- the shape of the tensor that a value stands for, if it stands for one -/
def Value.shape? {τ : Type} [Handle τ] (env : String → Option τ) : Value → Option (List Nat)
  | .identifier name => (env name).map Handle.shape
  | v => v.literal?.map fun _ => []

namespace Operator

/-- the operand that bounds the axes of an operation -/
def bounding? (o : Operator) (op : Operation) : Option Value :=
  match o with
  | .reduce _ _ => op.input? "input"
  | .argReduce _ => op.input? "input"
  | .softmax => op.input? "x"
  | .slice => op.input? "input"
  | .concat _ => op.output? "value"
  | .split _ => op.input? "value"
  | _ => none

/-- the shape that the axes of an operation are counted against -/
def bounds? {τ : Type} [Handle τ] (o : Operator) (env : String → Option τ) (op : Operation) : Option (List Nat) :=
  (o.bounding? op).bind (Value.shape? env)

/-- whether an operator has a list of axes -/
def listsAxes : Operator → Bool
  | .reduce _ _ => true
  | .argReduce _ => true
  | .softmax => true
  | .slice => true
  | _ => false

/-- whether an operator has a single axis -/
def takesAxis : Operator → Bool
  | .concat _ => true
  | .split _ => true
  | _ => false

/-- the operator that a summing one is on request -/
def averaging? : Operator → Option Operator
  | .reduce kind .sum => some (.reduce kind .mean)
  | .pool .box transposed => some (.pool .avg transposed)
  | _ => none

end Operator

/-- a place counted from the end, among so many, and the same place counted from the front -/
structure FromEnd (count : Nat) (a n : Int64) : Prop where
  negative : a.toInt < 0
  inRange : 0 ≤ n.toInt
  same : n.toInt = a.toInt + count

/-- one place of an operation is counted from the front -/
inductive Respells {τ : Type} [Handle τ] (env : String → Option τ) (o : Operator) (op : Operation) : Operation → Prop
  | listed {shape : List Nat} {items : List Value} {i : Nat} {a n : Int64} (ho : o.listsAxes = true)
    (hshape : o.bounds? env op = some shape) (hitems : op.attribute? "axes" = some (.array items))
    (hi : items[i]? = some (.integer a)) (hn : FromEnd shape.length a n) :
    Respells env o op (op.withAttribute "axes" (.array (items.set i (.integer n))))
  | single {shape : List Nat} {a n : Int64} (ho : o.takesAxis = true) (hshape : o.bounds? env op = some shape)
    (ha : op.attribute? "axis" = some (.integer a)) (hn : FromEnd shape.length a n) :
    Respells env o op (op.withAttribute "axis" (.integer n))
  /-- a start is counted against the extent of the axis at the same place -/
  | start {shape : List Nat} {axes items : List Value} {i j extent : Nat} {a b n : Int64} (ho : o = .slice)
    (hshape : o.bounds? env op = some shape) (haxes : op.attribute? "axes" = some (.array axes))
    (ha : axes[i]? = some (.integer a)) (hj : axisIndex? a.toInt shape.length = some j)
    (hextent : shape[j]? = some extent) (hitems : op.attribute? "begin" = some (.array items))
    (hi : items[i]? = some (.integer b)) (hn : FromEnd extent b n) :
    Respells env o op (op.withAttribute "begin" (.array (items.set i (.integer n))))

/-- the other operation has another entry at a place of a list -/
structure Operation.Replaces (op op' : Operation) (key : String) (i : Nat) (a n : Int64) : Prop where
  name : op'.name = op.name
  others : ∀ k, k ≠ key → op'.attribute? k = op.attribute? k
  entry : ∃ items, op.attribute? key = some (.array items) ∧ items[i]? = some (.integer a) ∧
    op'.attribute? key = some (.array (items.set i (.integer n)))

/-- whether a kernel averages -/
def Kernel.averages {τ : Type} : Kernel τ → Bool
  | .reduce .mean _ _ _ _ => true
  | .pool .avg _ _ _ _ => true
  | _ => false

/-! ## Places from either end -/

/-- a place counted from the front is a signed word, so its limit is either what it is or negative -/
theorem FromEnd.asSigned {count : Nat} {a n : Int64} (h : FromEnd count a n) :
    TensorGraph.asSigned count = count ∨ TensorGraph.asSigned count < 0 := by
  have hlow := Int64.le_toInt a
  have hhigh := Int64.toInt_lt n
  have hsame := h.same
  rw [TensorGraph.asSigned, show wordSize = 2 ^ 64 from rfl, Int.bmod_def]
  omega

/-- both spellings are the same axis, or both are none -/
theorem FromEnd.axisIndex? {rank : Nat} {a n : Int64} (h : FromEnd rank a n) :
    TensorGraph.axisIndex? n.toInt rank = TensorGraph.axisIndex? a.toInt rank := by
  have hlimit := h.asSigned
  obtain ⟨hneg, hrange, hsame⟩ := h
  simp only [TensorGraph.axisIndex?, if_pos hneg, if_neg (Int.not_lt.2 hrange)]
  rcases hlimit with hlimit | hlimit
  · rw [hlimit, hsame]
  · rw [if_neg (by omega), if_neg (by omega)]

/-- both spellings are the same start, or both are none -/
theorem FromEnd.startIndex? {extent : Nat} {b n : Int64} (h : FromEnd extent b n) :
    TensorGraph.startIndex? n.toInt extent = TensorGraph.startIndex? b.toInt extent := by
  have hlimit := h.asSigned
  obtain ⟨hneg, hrange, hsame⟩ := h
  simp only [TensorGraph.startIndex?, if_pos hneg, if_neg (Int.not_lt.2 hrange)]
  rcases hlimit with hlimit | hlimit
  · rw [hlimit, hsame]
  · rw [if_neg (by omega), if_neg (by omega)]

/-! ## Slices -/

section

variable {shape : List Nat} {axes begins steps : List Int} {i : Nat} {a n : Int}

theorem setStarts_setAxis (hi : axes[i]? = some a) (hsame : axisIndex? n shape.length = axisIndex? a shape.length)
    (starts : List Nat) :
    setStarts shape ((axes.set i n).zip begins) starts = setStarts shape (axes.zip begins) starts := by
  induction axes generalizing i begins starts with
  | nil => rfl
  | cons axis rest ih =>
    cases begins with
    | nil => simp
    | cons b bs =>
      cases i with
      | zero =>
        obtain rfl := Option.some.inj hi
        simp only [List.set_cons_zero, List.zip_cons_cons, setStarts, hsame]
      | succ i =>
        simp only [List.set_cons_succ, List.zip_cons_cons, setStarts, ih (i := i) hi]

theorem setSteps_setAxis {rank : Nat} (hi : axes[i]? = some a) (hsame : axisIndex? n rank = axisIndex? a rank)
    (result : List Nat) :
    setSteps rank ((axes.set i n).zip steps) result = setSteps rank (axes.zip steps) result := by
  induction axes generalizing i steps result with
  | nil => rfl
  | cons axis rest ih =>
    cases steps with
    | nil => simp
    | cons step more =>
      cases i with
      | zero =>
        obtain rfl := Option.some.inj hi
        simp only [List.set_cons_zero, List.zip_cons_cons, setSteps, hsame]
      | succ i =>
        simp only [List.set_cons_succ, List.zip_cons_cons, setSteps, ih (i := i) hi]

theorem setStarts_setStart {b : Int} {j extent : Nat} (ha : axes[i]? = some a)
    (hj : axisIndex? a shape.length = some j) (hextent : shape[j]? = some extent) (hi : begins[i]? = some b)
    (hsame : startIndex? n extent = startIndex? b extent) (starts : List Nat) :
    setStarts shape (axes.zip (begins.set i n)) starts = setStarts shape (axes.zip begins) starts := by
  induction axes generalizing i begins starts with
  | nil => rfl
  | cons axis rest ih =>
    cases begins with
    | nil => simp
    | cons b' bs =>
      cases i with
      | zero =>
        obtain rfl := Option.some.inj ha
        obtain rfl := Option.some.inj hi
        simp only [List.set_cons_zero, List.zip_cons_cons, setStarts, hj, Option.bind_eq_bind, Option.bind_some,
          hextent, hsame]
      | succ i =>
        simp only [List.set_cons_succ, List.zip_cons_cons, setStarts, ih (i := i) ha hi]

theorem sliceStarts?_setAxis (hi : axes[i]? = some a)
    (hsame : axisIndex? n shape.length = axisIndex? a shape.length) :
    sliceStarts? shape (axes.set i n) begins = sliceStarts? shape axes begins := by
  rw [sliceStarts?, sliceStarts?, List.length_set, setStarts_setAxis hi hsame]

theorem sliceSteps?_setAxis {rank : Nat} (hi : axes[i]? = some a) (hsame : axisIndex? n rank = axisIndex? a rank) :
    sliceSteps? rank (axes.set i n) steps = sliceSteps? rank axes steps := by
  rw [sliceSteps?, sliceSteps?, List.length_set, setSteps_setAxis hi hsame]

theorem sliceStarts?_setStart {b : Int} {j extent : Nat} (ha : axes[i]? = some a)
    (hj : axisIndex? a shape.length = some j) (hextent : shape[j]? = some extent) (hi : begins[i]? = some b)
    (hsame : startIndex? n extent = startIndex? b extent) :
    sliceStarts? shape axes (begins.set i n) = sliceStarts? shape axes begins := by
  rw [sliceStarts?, sliceStarts?, List.length_set, setStarts_setStart ha hj hextent hi hsame]

end

/-! ## What comes out, whatever the faults say -/

section

variable {ε α β : Type}

theorem toOption_bind (x : Except ε α) (k : α → Except ε β) :
    (x >>= k).toOption = x.toOption.bind fun a => (k a).toOption := by
  cases x <;> rfl

theorem toOption_mapM (f : α → Except ε β) (l : List α) :
    (l.mapM f).toOption = l.mapM fun a => (f a).toOption := by
  induction l with
  | nil => rfl
  | cons a rest ih =>
    rw [List.mapM_cons, List.mapM_cons, toOption_bind]
    simp only [toOption_bind, ih]
    rfl

theorem toOption_eq_some_iff {x : Except ε α} {a : α} : x.toOption = some a ↔ x = .ok a := by
  cases x <;> simp [Except.toOption]

/-- an entry that comes to the same can take the place of another -/
theorem mapM_set_of_eq {f : α → Option β} {l : List α} {i : Nat} {a n : α} (hi : l[i]? = some a) (hsame : f n = f a) :
    (l.set i n).mapM f = l.mapM f := by
  induction l generalizing i with
  | nil => rfl
  | cons x rest ih =>
    cases i with
    | zero =>
      obtain rfl := Option.some.inj hi
      rw [List.set_cons_zero, List.mapM_cons, List.mapM_cons, hsame]
    | succ i => rw [List.set_cons_succ, List.mapM_cons, List.mapM_cons, ih hi]

end

/-! ## Axes and slices, whatever the faults say -/

namespace Operation

theorem toOption_axisIndex (op : Operation) (key : String) (axis : Int) (rank : Nat) :
    (op.axisIndex key axis rank).toOption = axisIndex? axis rank := by
  rw [axisIndex]
  cases axisIndex? axis rank <;> rfl

theorem toOption_axisList (op : Operation) (key : String) (rank : Nat) :
    (op.axisList key rank).toOption =
      (op.integers key).toOption.bind fun l => (l.getD []).mapM fun axis => axisIndex? axis rank := by
  simp only [axisList, toOption_bind, toOption_mapM, toOption_axisIndex]

theorem toOption_singleAxis (op : Operation) (key : String) (default : List Int) (rank : Nat) :
    (op.singleAxis key default rank).toOption =
      (op.integers key).toOption.bind fun l => match l.getD default with
        | [axis] => axisIndex? axis rank
        | _ => none := by
  rw [singleAxis, toOption_bind]
  refine Option.bind_congr fun l _ => ?_
  cases l.getD default with
  | nil => rfl
  | cons axis rest =>
    cases rest with
    | nil => exact op.toOption_axisIndex key axis rank
    | cons axis' rest => rfl

theorem toOption_planSlice {τ : Type} [Handle τ] (op : Operation) (x y : τ) :
    (op.planSlice x y).toOption =
      (op.checkRank (Handle.rank x) maxLayoutRank).toOption.bind fun _ =>
      (op.integers "axes").toOption.bind fun axes =>
      (op.integers "begin").toOption.bind fun begins =>
      (op.integers "stride").toOption.bind fun strides =>
      (sliceStarts? (Handle.shape x) (axes.getD []) (begins.getD [])).bind fun starts =>
      (sliceSteps? (Handle.rank x) (axes.getD []) (strides.getD [])).map fun steps =>
      .compute .slice (.slice x y starts steps) := by
  rw [planSlice]
  simp only [toOption_bind]
  refine Option.bind_congr fun _ _ => Option.bind_congr fun axes _ => Option.bind_congr fun begins _ =>
    Option.bind_congr fun strides _ => ?_
  cases sliceStarts? (Handle.shape x) (axes.getD []) (begins.getD []) with
  | none => rfl
  | some starts =>
    dsimp only [Handle.rank]
    cases sliceSteps? (Handle.shape x).length (axes.getD []) (strides.getD []) <;> rfl

end Operation

/-! ## Reading a list with another entry -/

namespace Operation.Replaces

variable {op op' : Operation} {key : String} {i : Nat} {a n : Int64}

/-- a list that is no list of integers is none with another integer either -/
theorem integers_cases (h : op.Replaces op' key i a n) :
    (∃ e, op.integers key = .error e ∧ op'.integers key = .error e) ∨
    ∃ l, l[i]? = some a.toInt ∧ op.integers key = .ok (some l) ∧ op'.integers key = .ok (some (l.set i n.toInt)) := by
  obtain ⟨items, hitems, hi, hitems'⟩ := h.entry
  have hne : items ≠ [] := fun hnil => by
    rw [hnil] at hi
    cases hi
  have hne' : items.set i (.integer n) ≠ [] := by simpa using hne
  have hread : op.items key "an integer array" = .ok (some (.array items, items)) :=
    items_eq_ok_iff.2 (Or.inr ⟨items, hne, hitems, rfl⟩)
  have hread' : op'.items key "an integer array" =
      .ok (some (.array (items.set i (.integer n)), items.set i (.integer n))) :=
    items_eq_ok_iff.2 (Or.inr ⟨_, hne', hitems', rfl⟩)
  rw [integers, integers, hread, hread']
  cases hall : items.mapM Value.integer? with
  | some ns =>
    obtain rfl := mapM_integer?_eq_some_iff.1 hall
    right
    have hset : ((ns.map Value.integer).set i (.integer n)).mapM Value.integer? = some (ns.set i n) :=
      mapM_integer?_eq_some_iff.2 List.map_set.symm
    refine ⟨ns.map Int64.toInt, ?_, ?_, ?_⟩
    · rw [List.getElem?_map, Option.map_eq_some_iff] at hi ⊢
      obtain ⟨m, hm, heq⟩ := hi
      cases heq
      exact ⟨a, hm, rfl⟩
    · simp [bind, Except.bind, hall]
    · simp only [bind, Except.bind, hset, List.map_set]
  | none =>
    left
    -- if the entry that is put in were the only integer that was missing, the one that it replaces would be no integer
    have hnone : (items.set i (.integer n)).mapM Value.integer? = none := by
      rw [Option.eq_none_iff_forall_ne_some]
      intro ns hns
      have hback : items = (ns.set i a).map .integer := by
        rw [List.map_set, ← mapM_integer?_eq_some_iff.1 hns, List.set_set]
        obtain ⟨hlt, heq⟩ := List.getElem?_eq_some_iff.1 hi
        rw [← heq, List.set_getElem_self]
      rw [mapM_integer?_eq_some_iff.2 hback] at hall
      cases hall
    refine ⟨op.mismatch key "an integer array" (.array items), ?_, ?_⟩
    · simp [bind, Except.bind, hall]
    · simp only [bind, Except.bind, hnone, mismatch_congr h.name]
      rfl

theorem integers_of_ne (h : op.Replaces op' key i a n) {k : String} (hk : k ≠ key) :
    op'.integers k = op.integers k := by
  simp only [integers, items, h.others k hk, mismatch_congr h.name]

/-- what does not tell an entry from the other one does not tell the lists apart -/
theorem bind_integers {β : Type} {k k' : Option (List Int) → Option β} (h : op.Replaces op' key i a n)
    (hk : ∀ l : List Int, l[i]? = some a.toInt → k' (some (l.set i n.toInt)) = k (some l)) :
    (op'.integers key).toOption.bind k' = (op.integers key).toOption.bind k := by
  rcases h.integers_cases with ⟨e, hread, hread'⟩ | ⟨l, hi, hread, hread'⟩
  · rw [hread, hread']
    rfl
  · rw [hread, hread']
    exact hk l hi

section

variable {rank : Nat} (h : op.Replaces op' key i a n) (hsame : axisIndex? n.toInt rank = axisIndex? a.toInt rank)
include h hsame

theorem axisList : (op'.axisList key rank).toOption = (op.axisList key rank).toOption := by
  rw [toOption_axisList, toOption_axisList]
  exact h.bind_integers fun l hi => mapM_set_of_eq hi hsame

theorem singleAxis (default : List Int) :
    (op'.singleAxis key default rank).toOption = (op.singleAxis key default rank).toOption := by
  rw [toOption_singleAxis, toOption_singleAxis]
  refine h.bind_integers fun l hi => ?_
  match l, i with
  | [axis], 0 =>
    obtain rfl := Option.some.inj hi
    exact hsame
  | _ :: _ :: _, 0 => rfl
  | _ :: _ :: _, i + 1 =>
    simp only [Option.getD_some, List.set_cons_succ]
    cases i <;> rfl

end

variable {τ : Type} [Handle τ] {x y : τ}

theorem planReduce (h : op.Replaces op' "axes" i a n)
    (hsame : axisIndex? n.toInt (Handle.rank x) = axisIndex? a.toInt (Handle.rank x)) (kind : ElementKind)
    (f : ReduceOp) : (op'.planReduce kind f x y).toOption = (op.planReduce kind f x y).toOption := by
  have hreduce : op'.reduceOp f = op.reduceOp f := by
    simp only [reduceOp, logical, single, h.others "normalize" (by decide), mismatch_congr h.name]
  simp only [Operation.planReduce, toOption_bind, h.axisList hsame, hreduce]

theorem planSlice_of_axes (h : op.Replaces op' "axes" i a n)
    (hsame : axisIndex? n.toInt (Handle.rank x) = axisIndex? a.toInt (Handle.rank x)) :
    (op'.planSlice x y).toOption = (op.planSlice x y).toOption := by
  rw [toOption_planSlice, toOption_planSlice, checkRank_congr h.name, h.integers_of_ne (k := "begin") (by decide),
    h.integers_of_ne (k := "stride") (by decide)]
  refine Option.bind_congr fun _ _ => h.bind_integers fun l hi => ?_
  simp only [Option.getD_some, sliceStarts?_setAxis hi hsame, sliceSteps?_setAxis hi hsame]

theorem planSlice_of_begin {axes : List Value} {m : Int64} {j extent : Nat} (h : op.Replaces op' "begin" i a n)
    (haxes : op.attribute? "axes" = some (.array axes)) (hm : axes[i]? = some (.integer m))
    (hj : axisIndex? m.toInt (Handle.rank x) = some j) (hextent : (Handle.shape x)[j]? = some extent)
    (hsame : startIndex? n.toInt extent = startIndex? a.toInt extent) :
    (op'.planSlice x y).toOption = (op.planSlice x y).toOption := by
  rw [toOption_planSlice, toOption_planSlice, checkRank_congr h.name, h.integers_of_ne (k := "axes") (by decide),
    h.integers_of_ne (k := "stride") (by decide)]
  refine Option.bind_congr fun _ _ => Option.bind_congr fun found hfound => h.bind_integers fun l hi => ?_
  -- the axes that are read are those of the array
  rcases integers_eq_ok_iff.1 (toOption_eq_some_iff.1 hfound) with ⟨hnone | hnil, -⟩ | ⟨ns, -, hns, rfl⟩
  · rw [haxes] at hnone
    cases hnone
  · rw [haxes] at hnil
    cases hnil
    cases hm
  · rw [haxes] at hns
    cases hns
    have hm' : (ns.map Int64.toInt)[i]? = some m.toInt := by
      rw [List.getElem?_map, Option.map_eq_some_iff] at hm ⊢
      obtain ⟨m', hm', heq⟩ := hm
      cases heq
      exact ⟨m, hm', rfl⟩
    simp only [Option.getD_some, sliceStarts?_setStart hm' hj hextent hi hsame]

end Operation.Replaces

/-! ## The operand that bounds the axes -/

section

variable {τ : Type} [Handle τ] {env : String → Option τ} {o : Operator} {op op' : Operation}

/-- an operand has the shape of the tensor that its value stands for -/
theorem Operand.StandsFor.shape {seen : List Literal} {v : Value} {x : Operand τ} {shape : List Nat}
    (h : x.StandsFor env seen v) (hv : v.shape? env = some shape) : Handle.shape x = shape := by
  cases x with
  | bound t =>
    obtain ⟨name, rfl, hname⟩ := h
    rw [Value.shape?, hname] at hv
    exact Option.some.inj hv
  | literal number l =>
    obtain ⟨hl, -⟩ := h
    cases v <;> first | cases hl; exact Option.some.inj hv | cases hl

theorem Lookup.shape_of_input {key : String} {rest : List Slot} {shape : List Nat} {seen all : List Literal}
    {xs : Operands (Operand τ) (.input key :: rest)}
    (h : (supply env).fillSlots op (.input key :: rest) seen = .ok xs all)
    (hshape : (op.input? key).bind (Value.shape? env) = some shape) : Handle.shape xs.1 = shape := by
  obtain ⟨mid, hx, -, -⟩ := fillSlots_cons_ok h
  obtain ⟨v, hv, hstands⟩ := fillSlot_input_ok hx
  rw [hv] at hshape
  exact hstands.shape hshape

theorem Lookup.shape_of_output {key : String} {rest : List Slot} {shape : List Nat} {seen all : List Literal}
    {xs : Operands (Operand τ) (.output key :: rest)}
    (h : (supply env).fillSlots op (.output key :: rest) seen = .ok xs all)
    (hshape : (op.output? key).bind (Value.shape? env) = some shape) : Handle.shape xs.1 = shape := by
  obtain ⟨mid, hx, -, -⟩ := fillSlots_cons_ok h
  obtain ⟨v, hv, hstands⟩ := fillSlot_output_ok hx
  rw [hv] at hshape
  exact hstands.shape hshape

/-! ## Plans of other spellings -/

namespace Operation

/-- a single axis is read alike from either end -/
theorem listAxis_withAxis {rank : Nat} {a n : Int64} (ha : op.attribute? "axis" = some (.integer a))
    (hn : FromEnd rank a n) :
    ((op.withAttribute "axis" (.integer n)).listAxis rank).toOption = (op.listAxis rank).toOption := by
  have hread : op.integer "axis" 0 = .ok a := integer_eq_ok_iff.2 (Or.inr ha)
  have hread' : (op.withAttribute "axis" (.integer n)).integer "axis" 0 = .ok n :=
    integer_eq_ok_iff.2 (Or.inr (op.attribute?_withAttribute_self ..))
  rw [listAxis, listAxis, hread, hread']
  change ((op.withAttribute "axis" (.integer n)).axisIndex "axis" n.toInt rank).toOption =
    (op.axisIndex "axis" a.toInt rank).toOption
  rw [toOption_axisIndex, toOption_axisIndex, hn.axisIndex?]

theorem replaces_withAttribute {key : String} {items : List Value} {i : Nat} {a n : Int64}
    (hitems : op.attribute? key = some (.array items)) (hi : items[i]? = some (.integer a)) :
    op.Replaces (op.withAttribute key (.array (items.set i (.integer n)))) key i a n :=
  ⟨rfl, fun _ hk => op.attribute?_withAttribute_of_ne _ hk, items, hitems, hi, op.attribute?_withAttribute_self ..⟩

end Operation

/-- **Plans of other spellings.** What is planned on the operands of an operation does not depend on the spelling,
unless nothing is planned. -/
theorem plan_of_respells (h : Respells env o op op') {xs : Operands (Operand τ) o.signature} {all : List Literal}
    (hxs : (Lookup.supply env).fillSlots op o.signature [] = .ok xs all) :
    (o.plan op' xs).toOption = (o.plan op xs).toOption := by
  cases h with
  | @listed shape items i a n ho hshape hitems hi hn =>
    have hreplaces := Operation.replaces_withAttribute (n := n) hitems hi
    cases o with
    | reduce kind f =>
      obtain rfl := Lookup.shape_of_input hxs hshape
      exact hreplaces.planReduce hn.axisIndex? kind f
    | argReduce f =>
      obtain rfl := Lookup.shape_of_input hxs hshape
      have hrank : FromEnd (Handle.rank xs.1) a n := hn
      simp only [Operator.plan, Operation.planArgReduce, toOption_bind, hreplaces.singleAxis hrank.axisIndex?]
    | softmax =>
      obtain rfl := Lookup.shape_of_input hxs hshape
      have hrank : FromEnd (Handle.rank xs.1) a n := hn
      simp only [Operator.plan, Operation.planSoftmax, toOption_bind, hreplaces.singleAxis hrank.axisIndex?]
    | slice =>
      obtain rfl := Lookup.shape_of_input hxs hshape
      exact hreplaces.planSlice_of_axes hn.axisIndex?
    | _ => cases ho
  | @single shape a n ho hshape ha hn =>
    cases o with
    | concat singular =>
      obtain ⟨mid, -, -, hrest⟩ := Lookup.fillSlots_cons_ok hxs
      obtain rfl := Lookup.shape_of_output hrest hshape
      have hrank : FromEnd (Handle.rank xs.2.1) a n := hn
      simp only [Operator.plan, Operation.planConcat, toOption_bind, Operation.listAxis_withAxis ha hrank]
    | split singular =>
      obtain rfl := Lookup.shape_of_input hxs hshape
      have hrank : FromEnd (Handle.rank xs.1) a n := hn
      simp only [Operator.plan, Operation.planSplit, toOption_bind, Operation.listAxis_withAxis ha hrank]
    | _ => cases ho
  | @start shape axes items i j extent a b n ho hshape haxes ha hj hextent hitems hi hn =>
    subst ho
    obtain rfl := Lookup.shape_of_input hxs hshape
    exact (Operation.replaces_withAttribute (n := n) hitems hi).planSlice_of_begin haxes ha hj hextent hn.startIndex?

/-- the border is not respelled -/
theorem Respells.withAttribute (h : Respells env o op op') :
    ∃ key v, "border" ≠ key ∧ op' = op.withAttribute key v := by
  cases h with
  | listed => exact ⟨_, _, by decide, rfl⟩
  | single => exact ⟨_, _, by decide, rfl⟩
  | start => exact ⟨_, _, by decide, rfl⟩

/-- an operation comes to the same request in another spelling -/
theorem decision_of_respells (h : Respells env o op op') :
    (o.decision env op').outcome.toOption = (o.decision env op).outcome.toOption := by
  obtain ⟨key, v, hkey, heq⟩ := h.withAttribute
  have hname : op'.name = op.name := by rw [heq, op.name_withAttribute]
  have hcheck : o.precheck op' = o.precheck op := by
    rw [heq]
    have hname := op.name_withAttribute key v
    exact Operation.precheck_congr hname (Operation.string_of_meant hname (op.meant?_withAttribute_of_ne v hkey) rfl) o
  have hslots : ∀ slot ∈ o.signature, slot.SameIn op op' := fun slot _ => heq ▸ slot.sameIn_withAttribute op key v
  unfold Operator.decision
  rw [hcheck, Supply.fillSlots_congr hname hslots]
  cases o.precheck op with
  | error e => rfl
  | ok u =>
    dsimp only
    cases hxs : (Lookup.supply env).fillSlots op o.signature [] with
    | error e seen => rfl
    | ok xs seen => exact plan_of_respells h hxs

/-- the literals of an operation are the same in another spelling -/
theorem Respells.literals (h : Respells env o op op') : o.literals op' = o.literals op := by
  obtain ⟨key, v, -, rfl⟩ := h.withAttribute
  have hvalues : Slot.values (op.withAttribute key v) = Slot.values op := by
    funext slot
    cases slot <;> rfl
  rw [Operator.literals, Operator.literals, hvalues]

end

/-! ## Requests on request -/

section

variable {τ : Type} [Handle τ] {env : String → Option τ} {o o' : Operator} {op : Operation}

/-- operators that are checked alike, find the same operands, and are planned alike on them are decided alike -/
theorem decision_eq_of_alike (hcheck : o'.precheck op = o.precheck op)
    (hfound : ∀ xs seen, (Lookup.supply env).fillSlots op o.signature [] = .ok xs seen →
      ∃ xs', (Lookup.supply env).fillSlots op o'.signature [] = .ok xs' seen ∧ o'.plan op xs' = o.plan op xs)
    (hmissed : ∀ e seen, (Lookup.supply env).fillSlots op o.signature [] = .error e seen →
      (Lookup.supply env).fillSlots op o'.signature [] = .error e seen) :
    o.decision env op = o'.decision env op := by
  unfold Operator.decision
  rw [hcheck]
  cases o.precheck op with
  | error e => rfl
  | ok u =>
    dsimp only
    cases hxs : (Lookup.supply env).fillSlots op o.signature [] with
    | error e seen => rw [hmissed e seen hxs]
    | ok xs seen =>
      obtain ⟨xs', hxs', hplan⟩ := hfound xs seen hxs
      rw [hxs']
      dsimp only
      rw [hplan]

/-- a summing operator that averages on request is decided like the one that always does -/
theorem decision_of_averaging (h : o.averaging? = some o') (hon : op.attribute? "normalize" = some (.logical true)) :
    o.decision env op = o'.decision env op := by
  have hread : op.logical "normalize" false = .ok true := Operation.logical_eq_ok_iff.2 (Or.inr hon)
  cases o with
  | reduce kind f =>
    cases f with
    | sum =>
      cases h
      refine decision_eq_of_alike rfl (fun xs seen hxs => ⟨xs, hxs, ?_⟩) fun _ _ hxs => hxs
      simp only [Operator.plan, Operation.planReduce, Operation.reduceOp, hread]
      rfl
    | _ => cases h
  | pool family transposed =>
    cases family with
    | box =>
      cases h
      refine decision_eq_of_alike rfl (fun xs seen hxs => ⟨xs, hxs, ?_⟩) fun _ _ hxs => hxs
      simp only [Operator.plan, Operation.planPool, Operation.poolOp, hread]
      rfl
    | _ => cases h
  | _ => cases h

/-- a summing operator averages on request only -/
theorem averages_of_decision {request : Primitive} {k : Kernel (Operand τ)} (ho : o.averaging?.isSome)
    (hoff : op.attribute? "normalize" = none ∨ op.attribute? "normalize" = some (.logical false))
    (h : (o.decision env op).outcome = .ok (.compute request k)) : k.averages = false := by
  have hread : op.logical "normalize" false = .ok false :=
    Operation.logical_eq_ok_iff.2 (hoff.imp (fun hnone => ⟨hnone, rfl⟩) id)
  obtain ⟨xs, -, hplan⟩ := plan_of_decision h
  cases o with
  | reduce kind f =>
    cases f with
    | sum =>
      simp only [Operator.plan, Operation.planReduce, Operation.reduceOp, hread, except_bind_eq_ok_iff] at hplan
      obtain ⟨axes, -, f, ⟨b, hb, hf⟩, hk⟩ := hplan
      cases hb
      cases hf
      cases hk
      rfl
    | _ => cases ho
  | pool family transposed =>
    cases family with
    | box =>
      obtain ⟨pool, geometry, hgives, hk⟩ := Operation.planPool_eq_ok_iff.1 hplan
      have hpool := Operation.poolOp_eq_ok_iff.2 hgives.pool
      rw [Operation.poolOp, hread] at hpool
      cases hpool
      cases hk
      rfl
    | _ => cases ho
  | _ => cases ho

end

/-! ## Sessions -/

theorem Kernel.averages_map {τ υ : Type} (f : τ → υ) (k : Kernel τ) : (k.map f).averages = k.averages := by
  cases k with
  | reduce op => cases op <;> rfl
  | pool op => cases op <;> rfl
  | _ => rfl

namespace Session

variable {s s' : Session Recorder BufferRef} {o : Operator} {op op' : Operation}

/-- an operation that goes well comes to a request -/
theorem decision_of_perform (h : perform o op s = .ok () s') :
    ∃ i, (o.decision s.bindings.find? op).outcome = .ok i := by
  have hok : fault? (perform o op s) = none := by rw [h, fault?_ok]
  unfold perform at hok
  split at hok
  · rw [fault?_both] at hok
    rcases dispatch_result o op s with ⟨i, hd, -, -⟩ | ⟨e, s₁, stored, hdispatch, -⟩
    · exact ⟨i, hd⟩
    · rw [hdispatch, fault?_error] at hok
      cases hok
  · cases hok

/-- an operation that goes well goes as well if it comes to the same request with the same literals -/
theorem perform_ok_of_decision (hname : op'.name = op.name) (hdtype : op'.dtype = op.dtype)
    (hliterals : o.literals op' = o.literals op)
    (h : (o.decision s.bindings.find? op').outcome.toOption = (o.decision s.bindings.find? op).outcome.toOption)
    (hok : perform o op s = .ok () s') : perform o op' s = .ok () s' := by
  obtain ⟨i, hd⟩ := decision_of_perform hok
  have hd' : (o.decision s.bindings.find? op').outcome = .ok i :=
    toOption_eq_some_iff.1 (h.trans (toOption_eq_some_iff.2 hd))
  have hsame : o.decision s.bindings.find? op' = o.decision s.bindings.find? op := by
    have hseen := (literals_of_decision hd').trans (hliterals.trans (literals_of_decision hd).symm)
    revert hseen hd hd'
    cases o.decision s.bindings.find? op'
    cases o.decision s.bindings.find? op
    rintro rfl rfl rfl
    rfl
  rw [perform_eq_of_decision hname hdtype hsame, hok]

theorem perform_of_respells (h : Relation.ReflTransGen (Respells s.bindings.find? o) op op') :
    perform o op' s = .ok () s' ↔ perform o op s = .ok () s' := by
  induction h with
  | refl => rfl
  | @tail op₁ op₂ _ hstep ih =>
    obtain ⟨key, v, -, heq⟩ := hstep.withAttribute
    have hname : op₂.name = op₁.name := by rw [heq, op₁.name_withAttribute]
    have hdtype : op₂.dtype = op₁.dtype := by rw [heq]; rfl
    have hdecision := decision_of_respells hstep
    refine Iff.trans ⟨fun hok => ?_, fun hok => ?_⟩ ih
    · exact perform_ok_of_decision hname.symm hdtype.symm hstep.literals.symm hdecision.symm hok
    · exact perform_ok_of_decision hname hdtype hstep.literals hdecision hok

end Session

/-! ## Main result -/

open Session in
/-- **Equivalent spellings.** Take any session on a recorder, whatever is bound in it and whichever primitive always
fails.

An operation goes well if and only if it does with any number of its axes and starts counted from the front instead of
from the end, and then both leave the same session, so they made the same requests.

A sum over axes that is asked to normalize is the mean over them, and a box that is asked to is the average pool: they
have the same outcome and leave the same session. If they are not asked to, no kernel that they add to the log averages,
whatever comes of the operation. -/
theorem perform_of_spellings (s : Session Recorder BufferRef) (op : Operation) :
    (∀ o op', Relation.ReflTransGen (Respells s.bindings.find? o) op op' →
      ∀ s', perform o op' s = .ok () s' ↔ perform o op s = .ok () s') ∧
    (∀ o o', o.averaging? = some o' → op.attribute? "normalize" = some (.logical true) →
      perform o op s = perform o' op s) ∧
    (∀ o, o.averaging?.isSome →
      (op.attribute? "normalize" = none ∨ op.attribute? "normalize" = some (.logical false)) →
      ∀ calls, (reached (perform o op s)).engine.log.toList = s.engine.log.toList ++ calls →
      ∀ k, .compute k ∈ calls → k.averages = false) ∧
    ∀ names ∈ [("sum_reduce", "mean_reduce"), ("box", "avg_pool")], ∃ o o', o.averaging? = some o' ∧
      Operator.named? names.1 = some ⟨names.1, o⟩ ∧ Operator.named? names.2 = some ⟨names.2, o'⟩ := by
  refine ⟨fun o op' h s' => perform_of_respells h, fun o o' h hon => ?_, fun o ho hoff calls hlog k hk => ?_, ?_⟩
  · exact perform_eq_of_decision rfl rfl (decision_of_averaging h hon)
  · obtain ⟨request, k, hd, rfl⟩ := compute_of_perform hlog hk
    rw [Kernel.averages_map, Kernel.averages_map]
    exact averages_of_decision ho hoff hd
  · simp only [List.forall_mem_cons]
    exact ⟨⟨.reduce .float .sum, .reduce .float .mean, rfl, by decide +kernel, by decide +kernel⟩,
      ⟨.pool .box false, .pool .avg false, rfl, by decide +kernel, by decide +kernel⟩, nofun⟩

open Session in
/-- the last two columns, counted from the end and from the front -/
theorem perform_of_spellings_columns :
    let s := (fresh none).after [.create ⟨"x", .float, [2, 3], none⟩, .create ⟨"y", .float, [2, 2], none⟩]
    let op := ((((Operation.named "slice" .float).withInput "input" (.identifier "x")).withOutput "output"
      (.identifier "y")).withAttribute "axes" (.array [.integer (-1)])).withAttribute "begin" (.array [.integer (-2)])
    let turned := op.withAttribute "axes" (.array [.integer 1])
    let front := turned.withAttribute "begin" (.array [.integer 1])
    Relation.ReflTransGen (Respells s.bindings.find? .slice) op front ∧
      ∃ s', perform .slice op s = .ok () s' ∧ perform .slice front s = .ok () s' ∧
        s'.engine.log.toList = s.engine.log.toList ++ [.compute (.slice 0 1 [0, 1] [1, 1])] := by
  intro s op turned front
  have hshape : Operator.slice.bounds? s.bindings.find? op = some [2, 3] := by decide +kernel
  have hshape' : Operator.slice.bounds? s.bindings.find? turned = some [2, 3] := by decide +kernel
  have hlist : op.attribute? "axes" = some (.array [.integer (-1)]) := by decide +kernel
  have hlist' : turned.attribute? "axes" = some (.array [.integer 1]) := by decide +kernel
  have hstarts : turned.attribute? "begin" = some (.array [.integer (-2)]) := by decide +kernel
  have haxes : Respells s.bindings.find? .slice op turned :=
    Respells.listed (i := 0) (n := 1) rfl hshape hlist rfl ⟨by decide, by decide, by decide⟩
  have hbegin : Respells s.bindings.find? .slice turned front :=
    Respells.start (i := 0) (j := 1) (n := 1) rfl hshape' hlist' rfl (by decide) rfl hstarts rfl
      ⟨by decide, by decide, rfl⟩
  have hall : Relation.ReflTransGen (Respells s.bindings.find? .slice) op front :=
    (Relation.ReflTransGen.single haxes).tail hbegin
  have hok : fault? (perform .slice op s) = none := by decide +kernel
  have hlog : (reached (perform .slice op s)).engine.log.toList =
      s.engine.log.toList ++ [.compute (.slice 0 1 [0, 1] [1, 1])] := by decide +kernel
  cases h : perform .slice op s with
  | error e s' =>
    rw [h] at hok
    cases hok
  | ok u s' =>
    rw [h] at hlog
    exact ⟨hall, s', rfl, ((perform_of_spellings s op).1 .slice front hall s').2 h, hlog⟩

end TensorGraph
