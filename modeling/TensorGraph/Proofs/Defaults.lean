/-
Writing a default out changes nothing.

Model: `SpellsOut` relates an operation to the same one with a default written out. Some defaults are the same wherever
they are read (`Operation.default?`), others depend on the operator, on the rank of its input, or on the window as a
whole, such as the padding that was worked out for it. Sessions are those on a recorder, whatever is bound in them and
whichever primitive always fails.

Main results:
- `compute_of_perform`: a kernel that an operation adds to the log is the one that was decided;
- `perform_of_spelledOut`: an operation does the same with any of its defaults written out.
-/
import Mathlib.Logic.Relation
import TensorGraph.Proofs.Atomicity
import TensorGraph.Proofs.Readings
import TensorGraph.Proofs.Requests
import TensorGraph.Proofs.Transfer

namespace TensorGraph

/-! ## Model -/

/-- how many axes the window of an operator has, by the rank of its input -/
def Operator.windowAxes? : Operator → Option (Nat → Nat)
  | .conv _ => some (· - 2)
  | .pool _ _ => some id
  | _ => none

/-- the padding of a window -/
def Kernel.padding? {τ : Type} : Kernel τ → Option (List (Nat × Nat))
  | .conv _ _ _ _ _ _ geometry => some geometry.padding
  | .pool _ _ _ _ geometry => some geometry.padding
  | _ => none

/-- a list of pairs, as it is written -/
def Value.ofPadding (padding : List (Nat × Nat)) : Value :=
  .ofPairs (padding.map fun p => (Int64.ofNat p.1, Int64.ofNat p.2))

/-- pairs of zeros, as they are written -/
def Value.zeroPairs (k : Nat) : List Value := List.replicate k (.tuple [.integer 0, .integer 0])

/-- a list of ones, as it is written -/
def Value.ones (n : Nat) : Value := .ofIntegers (List.replicate n 1)

/-- the rank of the tensor that a value stands for, if it stands for one -/
def Value.rank? {τ : Type} [Handle τ] (env : String → Option τ) : Value → Option Nat
  | .identifier name => (env name).map Handle.rank
  | v => v.literal?.map fun _ => 0

/-- the rank of the input of an operation -/
def Operation.inputRank? {τ : Type} [Handle τ] (env : String → Option τ) (op : Operation) : Option Nat :=
  (op.input? "input").bind (Value.rank? env)

open Operation Session in
/-- one default of an operation is written out -/
inductive SpellsOut (s : Session Recorder BufferRef) (o : Operator) (op : Operation) : Operation → Prop
  /-- a default that does not depend on the operator -/
  | common {key : String} {v : Value} (hv : default? key = some v) (hmissing : op.attribute? key = none) :
    SpellsOut s o op (op.withAttribute key v)
  /-- the axis of a softmax is that of the channels -/
  | channels (ho : o = .softmax) (hmissing : op.attribute? "axes" = none) :
    SpellsOut s o op (op.withAttribute "axes" (.ofIntegers [1]))
  /-- the border of a padded tensor is zero -/
  | zero (ho : o = .pad) (hmissing : op.attribute? "value" = none) :
    SpellsOut s o op (op.withAttribute "value" (.scalar .zero))
  | bias (ho : .bias ∈ o.signature) (hmissing : op.input? "bias" = none) :
    SpellsOut s o op (op.withInput "bias" (.scalar .zero))
  /-- a window steps by ones, one for each of its axes; if the input has no rank, nothing of this is read -/
  | windowSteps {key : String} {axes : Nat → Nat} {n : Nat} (ho : o.windowAxes? = some axes)
    (hkey : key = "stride" ∨ key = "dilation") (hmissing : op.attribute? key = none)
    (hn : ∀ rank, op.inputRank? s.bindings.find? = some rank → n = axes rank) :
    SpellsOut s o op (op.withAttribute key (.ones n))
  /-- a slice steps by ones, one for each of its listed axes -/
  | sliceSteps {key : String} (ho : o = .slice) (hkey : key = "stride" ∨ key = "dilation")
    (hmissing : op.attribute? key = none) :
    SpellsOut s o op (op.withAttribute key (.ones ((op.attribute? "axes").elim 0 Value.length)))
  /-- a window is padded as the kernel in the log shows it -/
  | windowPadding {calls : List Call} {kernel : Kernel Nat} {padding : List (Nat × Nat)} (ho : o.windowAxes?.isSome)
    (hmissing : op.attribute? "padding" = none) (hok : fault? (perform o op s) = none)
    (hlog : (reached (perform o op s)).engine.log.toList = s.engine.log.toList ++ calls)
    (hkernel : .compute kernel ∈ calls) (hpadding : kernel.padding? = some padding) :
    SpellsOut s o op (op.withAttribute "padding" (.ofPadding padding))
  /-- axes that are not listed are not padded -/
  | padding {items : List Value} {k : Nat} (ho : o = .pad) (hitems : op.attribute? "padding" = some (.array items))
    (hk : ∀ rank, op.inputRank? s.bindings.find? = some rank → items.length + k ≤ rank) :
    SpellsOut s o op (op.withAttribute "padding" (.array (items ++ Value.zeroPairs k)))

/-! ## The rank of the input -/

/-- the first operand that is found for an input has the rank of the input -/
theorem Lookup.inputRank?_of_fillSlots {τ : Type} [Handle τ] {env : String → Option τ} {op : Operation}
    {rest : List Slot} {xs : Operands (Operand τ) (.input "input" :: rest)} {seen all : List Literal}
    (h : (supply env).fillSlots op (.input "input" :: rest) seen = .ok xs all) :
    op.inputRank? env = some (Handle.rank xs.1) := by
  obtain ⟨mid, hx, -, -⟩ := fillSlots_cons_ok h
  obtain ⟨v, hv, hstands⟩ := fillSlot_input_ok hx
  rw [Operation.inputRank?, hv, Option.bind_some]
  cases hfound : xs.1 with
  | bound t =>
    rw [hfound] at hstands
    obtain ⟨name, rfl, hname⟩ := hstands
    rw [Value.rank?, hname]
    rfl
  | literal number l =>
    rw [hfound] at hstands
    obtain ⟨hl, -⟩ := hstands
    cases v <;> first | cases hl; rfl | cases hl

/-! ## The bias -/

/-- a bias of zero is looked up anyway -/
theorem Slot.sameIn_withBias {op : Operation} (hmissing : op.input? "bias" = none) :
    ∀ slot ∈ [.input "input", .input "filter", .bias, .output "output"],
      Slot.SameIn op (op.withInput "bias" (.scalar .zero)) slot := by
  have hother : ∀ key, key ≠ "bias" → (op.withInput "bias" (.scalar .zero)).input? key = op.input? key :=
    fun key hkey => by rw [Operation.input?_withInput, if_neg hkey]
  simp only [List.forall_mem_cons, Slot.bias, Slot.SameIn]
  refine ⟨hother _ (by decide), hother _ (by decide), ?_, rfl, List.forall_mem_nil _⟩
  rw [Operation.input?_withInput, if_pos rfl, hmissing]
  rfl

/-! ## The axis of the channels -/

namespace Operation

variable {op op' : Operation}

/-- a list of axes that is the default is read as no list -/
theorem singleAxis_of_default (hname : op'.name = op.name) {key : String} {l : List Int}
    (hwritten : op'.integers key = .ok (some l)) (hnone : op.integers key = .ok none) (rank : Nat) :
    op'.singleAxis key l rank = op.singleAxis key l rank := by
  rw [singleAxis, singleAxis, hwritten, hnone, axisIndex_congr hname, malformed_congr hname, unsupported_congr hname]
  rfl

theorem planSoftmax_withChannels {τ : Type} [Handle τ] {x y : τ} (hmissing : op.attribute? "axes" = none) :
    (op.withAttribute "axes" (.ofIntegers [1])).planSoftmax x y = op.planSoftmax x y := by
  have hone : ([1] : List Int64).map Int64.toInt = [1] := by decide
  have hwritten : (op.withAttribute "axes" (.ofIntegers [1])).integers "axes" = .ok (some [1]) :=
    integers_eq_ok_iff.2 (Or.inr ⟨[1], List.cons_ne_nil _ _, op.attribute?_withAttribute_self .., by rw [hone]⟩)
  have hnone : op.integers "axes" = .ok none := integers_eq_ok_iff.2 (Or.inl ⟨Or.inl hmissing, rfl⟩)
  rw [planSoftmax, planSoftmax, singleAxis_of_default (op.name_withAttribute ..) hwritten hnone]

end Operation

/-! ## Steps -/

namespace Operation

variable {op : Operation} {key : String}

theorem ne_stepKey (hkey : key = "stride" ∨ key = "dilation") {k : String} (hstride : k ≠ "stride")
    (hdilation : k ≠ "dilation") : k ≠ key := by
  rcases hkey with rfl | rfl
  · exact hstride
  · exact hdilation

/-- a list of ones and no list at all are the same steps -/
theorem stepsOrOnes_of_ones {n : Nat} (h : op.attribute? key = none ∨ op.attribute? key = some (.ones n)) :
    op.stepsOrOnes key n = .ok (List.replicate n 1) := by
  have hlacks : op.Lacks key → op.stepsOrOnes key n = .ok (List.replicate n 1) := fun hl => by
    rw [stepsOrOnes, sizes_eq_ok_iff.2 (Or.inl ⟨hl, rfl⟩)]
    rfl
  rcases h with hnone | hones
  · exact hlacks (Or.inl hnone)
  · cases n with
    | zero => exact hlacks (Or.inr hones)
    | succ n =>
      have hlists : op.ListsSizes key (List.replicate (n + 1) 1) :=
        ⟨List.replicate (n + 1) 1, hones, fun m hm => by rw [List.eq_of_mem_replicate hm]; decide,
          by rw [List.map_replicate]; rfl⟩
      rw [stepsOrOnes, sizes_eq_ok_iff.2 (Or.inr ⟨_, by simp, hlists, rfl⟩)]
      rfl

/-- a window of as many axes as there are ones steps the same -/
theorem geometry_withOnes (hkey : key = "stride" ∨ key = "dilation") (hmissing : op.attribute? key = none)
    {source : List Nat} (target window : List Nat) :
    (op.withAttribute key (.ones source.length)).geometry source target window = op.geometry source target window := by
  have hsteps : ∀ k, default? k = some (.array []) →
      (op.withAttribute key (.ones source.length)).stepsOrOnes k source.length =
        op.stepsOrOnes k source.length := fun k hk => by
    by_cases hsame : k = key
    · subst hsame
      rw [stepsOrOnes_of_ones (Or.inl hmissing), stepsOrOnes_of_ones (Or.inr (attribute?_withAttribute_self ..))]
    · have hmeant := op.meant?_withAttribute_of_ne (.ones source.length) hsame
      rw [stepsOrOnes, sizes_of_meant (op.name_withAttribute ..) hmeant hk, stepsOrOnes]
  have hpadding : "padding" ≠ key := ne_stepKey hkey (by decide) (by decide)
  exact geometry_congr (op.name_withAttribute ..) (hsteps "stride" rfl) (hsteps "dilation" rfl)
    (padding_of_meant (op.name_withAttribute ..) (op.meant?_withAttribute_of_ne _ hpadding) rfl)

section

variable {τ : Type} [Handle τ] {transposed : Bool} {input filter bias output : τ}

theorem planConv_withOnes (hkey : key = "stride" ∨ key = "dilation") (hmissing : op.attribute? key = none) :
    (op.withAttribute key (.ones (Handle.rank input - 2))).planConv transposed input filter bias output =
      op.planConv transposed input filter bias output := by
  have hgroups : "groups" ≠ key := ne_stepKey hkey (by decide) (by decide)
  have hname := op.name_withAttribute key (.ones (Handle.rank input - 2))
  refine planConv_congr hname (integer_of_meant hname (op.meant?_withAttribute_of_ne _ hgroups) rfl) ?_
  intro source target window hsource
  rw [← hsource]
  exact geometry_withOnes hkey hmissing target window

theorem planPool_withOnes {family : PoolFamily} (hkey : key = "stride" ∨ key = "dilation")
    (hmissing : op.attribute? key = none) :
    (op.withAttribute key (.ones (Handle.rank input))).planPool family transposed input output =
      op.planPool family transposed input output := by
  have hname := op.name_withAttribute key (.ones (Handle.rank input))
  have hmeant := fun k hstride hdilation =>
    op.meant?_withAttribute_of_ne (.ones (Handle.rank input)) (ne_stepKey hkey (k := k) hstride hdilation)
  refine planPool_congr hname (sizes_of_meant hname (hmeant "size" (by decide) (by decide)) rfl)
    (logical_of_meant hname (hmeant "normalize" (by decide) (by decide)) rfl)
    (attribute?_iff_of_meant (hmeant "border" (by decide) (by decide)) rfl (by decide)) ?_
  intro source target window hsource
  rw [← hsource]
  exact geometry_withOnes hkey hmissing target window

end

/-- a list of ones is read as such, an empty one as no list -/
theorem integers_of_ones {n : Nat} (h : op.attribute? key = some (.ones n)) :
    ∃ found, op.integers key = .ok found ∧ found.getD [] = List.replicate n 1 := by
  cases n with
  | zero => exact ⟨none, integers_eq_ok_iff.2 (Or.inl ⟨Or.inr h, rfl⟩), rfl⟩
  | succ n => exact ⟨_, integers_eq_ok_iff.2 (Or.inr ⟨_, by simp, h, rfl⟩), by simp⟩

/-- lists of integers have as many entries as the array that they are read from -/
theorem length_of_integers {found : Option (List Int)} (h : op.integers key = .ok found) :
    (op.attribute? key).elim 0 Value.length = (found.getD []).length := by
  rcases integers_eq_ok_iff.1 h with ⟨hnone | hnil, rfl⟩ | ⟨ns, -, hns, rfl⟩
  · rw [hnone]
    rfl
  · rw [hnil]
    rfl
  · rw [hns]
    simp [Value.ofIntegers, Value.length]

end Operation

/-! ## Slices -/

/-- starts are only found for axes that there are -/
theorem axisIndex?_of_setStarts {shape : List Nat} {axes begins : List Int} {starts result : List Nat}
    (hlength : axes.length = begins.length) (h : setStarts shape (axes.zip begins) starts = some result) :
    ∀ axis ∈ axes, ∃ i, axisIndex? axis shape.length = some i := by
  induction axes generalizing begins starts with
  | nil => exact nofun
  | cons axis rest ih =>
    obtain ⟨b, bs, rfl⟩ := List.exists_cons_of_length_eq_add_one hlength.symm
    simp only [List.zip_cons_cons, setStarts, Option.bind_eq_bind, Option.bind_eq_some_iff] at h
    obtain ⟨i, hi, extent, -, start, -, hrest⟩ := h
    exact List.forall_mem_cons.2 ⟨⟨i, hi⟩, ih (Nat.succ.inj hlength) hrest⟩

/-- steps of one on axes that there are change nothing -/
theorem setSteps_ones {rank : Nat} {axes : List Int} (h : ∀ axis ∈ axes, ∃ i, axisIndex? axis rank = some i) :
    setSteps rank (axes.zip (List.replicate axes.length 1)) (List.replicate rank 1) = some (List.replicate rank 1) := by
  induction axes with
  | nil => rfl
  | cons axis rest ih =>
    obtain ⟨⟨i, hi⟩, hrest⟩ := List.forall_mem_cons.1 h
    have hset : (List.replicate rank 1).set i (1 : Int).toNat = List.replicate rank 1 := List.set_replicate_self
    simp only [List.length_cons, List.replicate_succ, List.zip_cons_cons, setSteps, hi, Option.bind_eq_bind,
      Option.bind_some, hset, ih hrest]
    rfl

/-- where a slice starts on its axes, ones step as no steps do -/
theorem sliceSteps?_ones {shape : List Nat} {axes begins : List Int} {starts : List Nat}
    (h : sliceStarts? shape axes begins = some starts) :
    sliceSteps? shape.length axes (List.replicate axes.length 1) = some (List.replicate shape.length 1) := by
  unfold sliceStarts? at h
  split at h
  · cases h
  · rename_i hlength
    have haxes := axisIndex?_of_setStarts (not_not.1 hlength) h
    unfold sliceSteps?
    split_ifs with hnil hne
    · rfl
    · exact absurd List.length_replicate.symm hne
    · exact setSteps_ones haxes

namespace Operation

variable {op : Operation} {key : String} {τ : Type} [Handle τ]

theorem planSlice_withOnes {input output : τ} (hkey : key = "stride" ∨ key = "dilation")
    (hmissing : op.attribute? key = none) :
    (op.withAttribute key (.ones ((op.attribute? "axes").elim 0 Value.length))).planSlice input output =
      op.planSlice input output := by
  set n := (op.attribute? "axes").elim 0 Value.length with hn
  have hname := op.name_withAttribute key (.ones n)
  have hother : ∀ k, k ≠ key → default? k = some (.array []) →
      (op.withAttribute key (.ones n)).integers k = op.integers k := fun k hk =>
    integers_of_meant hname (op.meant?_withAttribute_of_ne _ hk)
  have haxes : "axes" ≠ key := ne_stepKey hkey (by decide) (by decide)
  have hbegin : "begin" ≠ key := ne_stepKey hkey (by decide) (by decide)
  rw [planSlice, planSlice, checkRank_congr hname, hother _ haxes rfl, hother _ hbegin rfl, malformed_congr hname]
  refine except_bind_congr fun _ _ => except_bind_congr fun axes hfound => except_bind_congr fun begins _ => ?_
  rcases hkey with rfl | rfl
  · -- steps only count once the starts are found, and then every listed axis is one of the tensor
    obtain ⟨ones, hones, hlist⟩ := integers_of_ones (op.attribute?_withAttribute_self "stride" (.ones n))
    have hnone : op.integers "stride" = .ok none := integers_eq_ok_iff.2 (Or.inl ⟨Or.inl hmissing, rfl⟩)
    rw [hones, hnone]
    dsimp only [bind, Except.bind]
    cases hstarts : sliceStarts? (Handle.shape input) (axes.getD []) (begins.getD []) with
    | none => rfl
    | some starts =>
      have hsteps := sliceSteps?_ones hstarts
      rw [← length_of_integers hfound, ← hn, ← hlist] at hsteps
      dsimp only
      rw [hsteps]
      rfl
  · rw [hother "stride" (by decide) rfl]

/-! ## Padding -/

theorem paddingPerAxis_eq (op : Operation) (rank : Nat) :
    op.paddingPerAxis rank = ((op.padding "padding").map (·.getD []) >>= fun padding =>
      if rank < padding.length then .error (op.malformed "padding" s!"{padding.length} pairs for rank {rank}")
      else .ok (padding ++ List.replicate (rank - padding.length) (0, 0))) := by
  rw [paddingPerAxis]
  cases op.padding "padding" <;> rfl

/-- an array of pairs is read pair by pair, also if it is empty -/
theorem padding_eq_pairs {items : List Value} (h : op.attribute? key = some (.array items)) :
    (op.padding key).map (·.getD []) = op.pairs key (.array items) items := by
  unfold padding Operation.items
  rw [h]
  cases items with
  | nil => rfl
  | cons v rest =>
    dsimp only [Value.array?, bind, Except.bind]
    cases op.pairs key (.array (v :: rest)) (v :: rest) <;> rfl

/-- pairs of zeros are read after all others -/
theorem pairs_append_zeros (op : Operation) (key : String) (whole : Value) (items : List Value) (k : Nat) :
    op.pairs key whole (items ++ Value.zeroPairs k) =
      (op.pairs key whole items).map (· ++ List.replicate k (0, 0)) := by
  induction items with
  | nil =>
    refine pairs_eq_ok_iff.2 ⟨List.replicate k (0, 0), by simp [Value.zeroPairs], fun p hp => ?_, by simp⟩
    rw [List.eq_of_mem_replicate hp]
    decide
  | cons v rest ih =>
    rw [List.cons_append, pairs, pairs, ih]
    split
    · rename_i a b _
      cases op.pairEntry key a with
      | error e => rfl
      | ok before =>
        cases op.pairEntry key b with
        | error e => rfl
        | ok after => cases op.pairs key whole rest <;> rfl
    · rfl

theorem length_of_pairs {whole : Value} {items : List Value} {found : List (Nat × Nat)}
    (h : op.pairs key whole items = .ok found) : found.length = items.length := by
  obtain ⟨ps, rfl, -, rfl⟩ := pairs_eq_ok_iff.1 h
  rw [List.length_map, List.length_map]

/-- pairs of zeros up to the rank are there anyway -/
theorem paddingPerAxis_withZeros {items : List Value} (hitems : op.attribute? "padding" = some (.array items))
    {rank k : Nat} (hk : items.length + k ≤ rank) :
    (op.withAttribute "padding" (.array (items ++ Value.zeroPairs k))).paddingPerAxis rank =
      op.paddingPerAxis rank := by
  have hname := op.name_withAttribute "padding" (.array (items ++ Value.zeroPairs k))
  have hsort : (Value.array (items ++ Value.zeroPairs k)).sortName = (Value.array items).sortName := rfl
  rw [paddingPerAxis_eq, paddingPerAxis_eq, padding_eq_pairs hitems,
    padding_eq_pairs (attribute?_withAttribute_self ..), pairs_congr hname _ hsort, pairs_append_zeros,
    malformed_congr hname]
  cases hpairs : op.pairs "padding" (.array items) items with
  | error e => rfl
  | ok padding =>
    have hlength := length_of_pairs hpairs
    dsimp only [Except.map, bind, Except.bind]
    rw [List.length_append, List.length_replicate, if_neg (by omega), if_neg (by omega), List.append_assoc,
      List.replicate_append_replicate]
    congr 3
    omega

theorem planPad_withAttribute {input output : τ} {v : Value} (hkey : "border" ≠ key)
    (hpadding : (op.withAttribute key v).paddingPerAxis (Handle.rank input) = op.paddingPerAxis (Handle.rank input))
    (hvalue : ((op.withAttribute key v).attribute? "value").getD (.scalar .zero) =
      (op.attribute? "value").getD (.scalar .zero)) :
    (op.withAttribute key v).planPad input output = op.planPad input output :=
  planPad_congr (op.name_withAttribute ..) rfl hpadding
    (string_of_meant (op.name_withAttribute ..) (op.meant?_withAttribute_of_ne v hkey) rfl) hvalue

/-! ## Padding that was worked out -/

/-- padding that is worked out is small enough to be written -/
theorem listsPairs_of_missing {source target window stride dilation : List Nat} {padding : List (Nat × Nat)}
    (hmissing : op.attribute? "padding" = none) (h : op.GivesPadding source target window stride dilation padding) :
    (op.withAttribute "padding" (.ofPadding padding)).ListsPairs "padding" padding := by
  refine ⟨_, op.attribute?_withAttribute_self .., ?_⟩
  have hwords : ∀ p ∈ padding, p.1 < 2 ^ 63 ∧ p.2 < 2 ^ 63 := by
    cases h with
    | given hl hlength =>
      obtain ⟨ps, hps, -⟩ := hl
      cases hmissing.symm.trans hps
    | missing hl hreach =>
      intro p hp
      obtain ⟨axis, haxis, rfl⟩ := List.mem_map.1 hp
      have hword := hreach axis (List.mem_range.1 haxis)
      constructor <;> dsimp only <;> omega
  have hread : ∀ n, n < 2 ^ 63 → (Int64.ofNat n).toInt = n := fun n hn => Int64.toInt_ofNat_of_lt hn
  refine ⟨fun q hq => ?_, ?_⟩
  · obtain ⟨p, hp, rfl⟩ := List.mem_map.1 hq
    obtain ⟨hbefore, hafter⟩ := hwords p hp
    dsimp only
    rw [hread _ hbefore, hread _ hafter]
    omega
  · calc padding = padding.map id := (List.map_id padding).symm
      _ = (padding.map fun p => (Int64.ofNat p.1, Int64.ofNat p.2)).map fun q =>
          (q.1.toInt.toNat, q.2.toInt.toNat) := by
        rw [List.map_map]
        refine List.map_congr_left fun p hp => ?_
        obtain ⟨hbefore, hafter⟩ := hwords p hp
        simp only [Function.comp_apply, hread _ hbefore, hread _ hafter, Int.toNat_natCast, id]

theorem GivesPadding.length_eq {source target window stride dilation : List Nat} {padding : List (Nat × Nat)}
    (h : op.GivesPadding source target window stride dilation padding) : padding.length = source.length := by
  cases h with
  | given hl hlength => exact hlength
  | missing hl hreach => rw [evenPadding, List.length_map, List.length_range]

/-- a window stays what it is if its padding is written out -/
theorem GivesWindow.withPadding {source target window : List Nat} {geometry : ConvGeometry}
    (hmissing : op.attribute? "padding" = none) (h : op.GivesWindow source target window geometry) :
    (op.withAttribute "padding" (.ofPadding geometry.padding)).GivesWindow source target window geometry := by
  have hsteps : ∀ k l, k ≠ "padding" → default? k = some (.array []) → op.GivesSteps k source.length l →
      (op.withAttribute "padding" (.ofPadding geometry.padding)).GivesSteps k source.length l := fun k l hk hd hl => by
    have hname := op.name_withAttribute "padding" (.ofPadding geometry.padding)
    rwa [givesSteps_iff, sizes_of_meant hname (op.meant?_withAttribute_of_ne _ hk) hd, checkSteps_congr hname,
      ← givesSteps_iff]
  exact ⟨hsteps _ _ (by decide) rfl h.stride, hsteps _ _ (by decide) rfl h.dilation,
    .given (listsPairs_of_missing hmissing h.padding) h.padding.length_eq⟩

/-- a convolution or a pooling that was planned is planned again if its padding is written out -/
theorem plan_withPadding {o : Operator} {xs : Operands τ o.signature} {request : Primitive} {k : Kernel τ}
    {padding : List (Nat × Nat)} (ho : o.windowAxes?.isSome) (hmissing : op.attribute? "padding" = none)
    (hplan : o.plan op xs = .ok (.compute request k)) (hpadding : k.padding? = some padding) :
    o.plan (op.withAttribute "padding" (.ofPadding padding)) xs = .ok (.compute request k) := by
  have hname := op.name_withAttribute "padding" (.ofPadding padding)
  have hmeant : ∀ key, key ≠ "padding" → (op.withAttribute "padding" (.ofPadding padding)).meant? key = op.meant? key :=
    fun key hkey => op.meant?_withAttribute_of_ne _ hkey
  cases o with
  | conv transposed =>
    obtain ⟨strategy, geometry, hgives, hk⟩ := planConv_eq_ok_iff.1 hplan
    cases hk
    cases hpadding
    refine planConv_eq_ok_iff.2 ⟨strategy, geometry, ⟨hgives.rank, hgives.window.withPadding hmissing, ?_⟩, rfl⟩
    rw [← strategy_eq_ok_iff, strategy_congr hname (integer_of_meant hname (hmeant "groups" (by decide)) rfl)]
    exact strategy_eq_ok_iff.2 hgives.strategy
  | pool family transposed =>
    obtain ⟨pool, geometry, hgives, hk⟩ := planPool_eq_ok_iff.1 hplan
    cases hk
    cases hpadding
    refine planPool_eq_ok_iff.2 ⟨pool, geometry, ⟨hgives.rank, ⟨?_, hgives.size.2⟩,
      hgives.window.withPadding hmissing, ?_, ?_⟩, rfl⟩
    · rw [ListsSizes, attribute?_withAttribute_of_ne op _ (by decide)]
      exact hgives.size.1
    · rw [← poolOp_eq_ok_iff, poolOp_congr (logical_of_meant hname (hmeant "normalize" (by decide)) rfl)]
      exact poolOp_eq_ok_iff.2 hgives.pool
    · rw [attribute?_withAttribute_of_ne op _ (by decide)]
      exact hgives.includeBorder
  | _ => cases ho

end Operation

/-! ## The kernel in the log -/

theorem Kernel.padding?_map {τ υ : Type} (f : τ → υ) (k : Kernel τ) : (k.map f).padding? = k.padding? := by
  cases k <;> rfl

theorem isCompute_literalCalls (first : Nat) (ls : List Literal) :
    ∀ c ∈ literalCalls first ls, c.isCompute = false := by
  induction ls generalizing first with
  | nil => exact nofun
  | cons l rest ih => exact List.forall_mem_cons.2 ⟨rfl, List.forall_mem_cons.2 ⟨rfl, ih _⟩⟩

namespace Session

variable {s : Session Recorder BufferRef} {o : Operator} {op : Operation}

/-- whatever comes of an operation, it logs what was decided, if anything, between requests that compute nothing -/
theorem log_of_perform (o : Operator) (op : Operation) (s : Session Recorder BufferRef) :
    ∃ stored core released, (∀ c ∈ stored, c.isCompute = false) ∧ (∀ c ∈ released, c.isCompute = false) ∧
      (core = [] ∨ ∃ i, (o.decision s.bindings.find? op).outcome = .ok i ∧
        core = (i.map (Operand.ref s.engine.buffers.size)).calls) ∧
      (reached (perform o op s)).engine.log.toList = s.engine.log.toList ++ (stored ++ (core ++ released)) := by
  unfold perform
  split
  · rw [reached_both]
    rcases dispatch_result o op s with ⟨i, hd, -, hdispatch⟩ | ⟨e, s', stored, hdispatch, -, hstarts, hstored⟩
    · obtain ⟨released, hreleased, hquiet⟩ := Elementary.releaseScratch (M := quiet) |>.moves
        (s.following (o.literals op) (i.map (Operand.ref s.engine.buffers.size)))
      refine ⟨literalCalls s.engine.buffers.size (o.literals op), _, released, isCompute_literalCalls _ _, hquiet,
        Or.inr ⟨i, hd, rfl⟩, ?_⟩
      rw [hdispatch, reached_ok, hreleased, log_following, List.append_assoc, List.append_assoc]
    · obtain ⟨released, hreleased, hquiet⟩ := Elementary.releaseScratch (M := quiet) |>.moves s'
      refine ⟨stored, [], released, fun c hc => isCompute_literalCalls _ _ c (hstarts.subset hc), hquiet,
        Or.inl rfl, ?_⟩
      rw [hdispatch, reached_error, hreleased, hstored.log, List.append_assoc, List.nil_append]
  · exact ⟨[], [], [], nofun, nofun, Or.inl rfl, by simp⟩

/-- a kernel that an operation added to the log is what it was decided to compute -/
theorem compute_of_perform {calls : List Call} {kernel : Kernel Nat}
    (hlog : (reached (perform o op s)).engine.log.toList = s.engine.log.toList ++ calls)
    (hkernel : .compute kernel ∈ calls) :
    ∃ request k, (o.decision s.bindings.find? op).outcome = .ok (.compute request k) ∧
      kernel = (k.map (Operand.ref s.engine.buffers.size)).map BufferRef.id := by
  obtain ⟨stored, core, released, hstored, hreleased, hcore, hall⟩ := log_of_perform o op s
  obtain rfl := List.append_cancel_left (hlog.symm.trans hall)
  rw [List.mem_append, List.mem_append] at hkernel
  -- storage computes nothing, so the kernel is that of the instruction
  rcases hkernel with hliteral | hinstruction | hrelease
  · cases hstored _ hliteral
  · rcases hcore with rfl | ⟨i, hd, rfl⟩
    · cases hinstruction
    · cases i with
      | compute request k => exact ⟨request, k, hd, Call.compute.inj (List.mem_singleton.1 hinstruction)⟩
      | idle => cases hinstruction
      | fill target payload => cases List.mem_singleton.1 hinstruction
      | copy source target => cases List.mem_singleton.1 hinstruction
  · cases hreleased _ hrelease

end Session

/-! ## Every default -/

namespace SpellsOut

variable {s : Session Recorder BufferRef} {o : Operator} {op op' : Operation}

theorem name (h : SpellsOut s o op op') : op'.name = op.name := by
  cases h <;> rfl

theorem dtype (h : SpellsOut s o op op') : op'.dtype = op.dtype := by
  cases h <;> rfl

/-- an operation is decided alike with a default written out -/
theorem decision (h : SpellsOut s o op op') : o.decision s.bindings.find? op' = o.decision s.bindings.find? op := by
  cases h with
  | common hv hmissing =>
    have hsame := Operation.sayTheSame_withAttribute hv hmissing
    exact decision_eq_of_plan rfl (fun slot _ => slot.sameIn_withAttribute ..) (hsame.precheck o)
      fun xs _ _ => hsame.plan o xs
  | channels ho hmissing =>
    subst ho
    exact decision_withAttribute (by decide) fun xs _ _ => Operation.planSoftmax_withChannels hmissing
  | zero ho hmissing =>
    subst ho
    refine decision_withAttribute (by decide) fun xs _ _ => Operation.planPad_withAttribute (by decide) ?_ ?_
    · exact Operation.paddingPerAxis_congr (op.name_withAttribute ..)
        (Operation.padding_of_meant (op.name_withAttribute ..) (op.meant?_withAttribute_of_ne _ (by decide)) rfl) _
    · rw [Operation.attribute?_withAttribute_self, hmissing]
      rfl
  | bias ho hmissing =>
    have hsame := op.sayTheSame_withInput "bias" (.scalar .zero)
    refine decision_eq_of_plan rfl ?_ (hsame.precheck o) fun xs _ _ => hsame.plan o xs
    cases o with
    | conv transposed => exact Slot.sameIn_withBias hmissing
    | linear => exact Slot.sameIn_withBias hmissing
    | _ => simp [Operator.signature, Slot.bias] at ho
  | windowSteps ho hkey hmissing hn =>
    refine decision_withAttribute (Operation.ne_stepKey hkey (by decide) (by decide)) fun xs _ hxs => ?_
    cases o with
    | conv transposed =>
      cases ho
      obtain rfl := hn _ (Lookup.inputRank?_of_fillSlots hxs)
      exact Operation.planConv_withOnes hkey hmissing
    | pool family transposed =>
      cases ho
      obtain rfl := hn _ (Lookup.inputRank?_of_fillSlots hxs)
      exact Operation.planPool_withOnes hkey hmissing
    | _ => cases ho
  | sliceSteps ho hkey hmissing =>
    subst ho
    exact decision_withAttribute (Operation.ne_stepKey hkey (by decide) (by decide)) fun xs _ _ =>
      Operation.planSlice_withOnes hkey hmissing
  | windowPadding ho hmissing _ hlog hkernel hpadding =>
    obtain ⟨request, k, hk, rfl⟩ := Session.compute_of_perform hlog hkernel
    rw [Kernel.padding?_map, Kernel.padding?_map] at hpadding
    obtain ⟨xs, hxs, hplan⟩ := plan_of_decision hk
    refine decision_withAttribute (by decide) fun ys _ hys => ?_
    cases hxs.symm.trans hys
    rw [hplan, Operation.plan_withPadding ho hmissing hplan hpadding]
  | padding ho hitems hk =>
    subst ho
    refine decision_withAttribute (by decide) fun xs _ hxs => Operation.planPad_withAttribute (by decide) ?_ ?_
    · exact Operation.paddingPerAxis_withZeros hitems (hk _ (Lookup.inputRank?_of_fillSlots hxs))
    · rw [Operation.attribute?_withAttribute_of_ne op _ (by decide)]

end SpellsOut

/-! ## Main result -/

/-- **Writing a default out changes nothing.** Take any session on a recorder, whatever is bound in it and whichever
primitive always fails. An operation with any number of its defaults written out, one after another, has the same
outcome, makes the same requests and leaves the same session, as any operator. -/
theorem Session.perform_of_spelledOut {s : Session Recorder BufferRef} {o : Operator} {op op' : Operation}
    (h : Relation.ReflTransGen (SpellsOut s o) op op') : perform o op' s = perform o op s := by
  induction h with
  | refl => rfl
  | tail _ hstep ih => exact (perform_eq_of_decision hstep.name hstep.dtype hstep.decision).trans ih

open Session in
/-- a convolution that only names its operands, and the same with a bias, a group, steps and the padding that was worked
out for it -/
theorem perform_of_spelledOut_bare :
    let s := (fresh none).after [.create ⟨"x", .float, [1, 2, 3], none⟩, .create ⟨"y", .float, [1, 4, 4], none⟩,
      .create ⟨"w", .float, [4, 2, 2], none⟩]
    let op := (((Operation.named "conv" .float).withInput "input" (.identifier "x")).withInput "filter"
      (.identifier "w")).withOutput "output" (.identifier "y")
    let biased := op.withInput "bias" (.scalar .zero)
    let grouped := biased.withAttribute "groups" (.integer 1)
    let stepped := grouped.withAttribute "stride" (.ones 1)
    let padded := stepped.withAttribute "padding" (.ofPadding [(1, 1)])
    Relation.ReflTransGen (SpellsOut s (.conv false)) op padded ∧
      perform (.conv false) padded s = perform (.conv false) op s ∧
      (reached (perform (.conv false) op s)).engine.log.toList = s.engine.log.toList ++
        [.allocate 3 .float [], .fill 3, .compute (.conv .direct false 0 2 3 1 ⟨[(1, 1)], [1], [1]⟩), .release 3] := by
  intro s op biased grouped stepped padded
  have hrank : grouped.inputRank? s.bindings.find? = some 3 := by decide +kernel
  have hbias : SpellsOut s (.conv false) op biased := .bias (by simp [Operator.signature]) (by decide +kernel)
  have hgroups : SpellsOut s (.conv false) biased grouped := .common rfl (by decide +kernel)
  have hstride : SpellsOut s (.conv false) grouped stepped :=
    .windowSteps rfl (Or.inl rfl) (by decide +kernel) fun rank h => by cases hrank.symm.trans h; rfl
  have hlog : (reached (perform (.conv false) stepped s)).engine.log.toList = s.engine.log.toList ++
      [.allocate 3 .float [], .fill 3, .compute (.conv .direct false 0 2 3 1 ⟨[(1, 1)], [1], [1]⟩), .release 3] := by
    decide +kernel
  have hpadding : SpellsOut s (.conv false) stepped padded :=
    .windowPadding rfl (by decide +kernel) (by decide +kernel) hlog
      (List.mem_cons_of_mem _ (List.mem_cons_of_mem _ List.mem_cons_self)) rfl
  have hall : Relation.ReflTransGen (SpellsOut s (.conv false)) op padded :=
    (((Relation.ReflTransGen.single hbias).tail hgroups).tail hstride).tail hpadding
  exact ⟨hall, perform_of_spelledOut hall, by decide +kernel⟩

end TensorGraph
