/-
What convolution and pooling do with their attributes.

Model: `GivesSteps`, `GivesPadding`, `GivesStrategy` and the like are the reference: what has to be written in the
attributes of an operation for a window to be what it is. Steps that are not given are ones. Padding that is not given
is half of what the window lacks to fit (`evenPadding`), provided that the reach of the window is a word.

Main results:
- `samePaddings_eq_some_iff`: defaulted padding, axis by axis;
- `planConv_eq_ok_iff`, `planPool_eq_ok_iff`: a window operation is planned exactly as its attributes say.
-/
import TensorGraph.Operator.Window
import TensorGraph.Proofs.Attributes

namespace TensorGraph

/-! ## Model -/

/-- how many elements a window reaches over on an axis, if it is put down at as many places as `target` has there -/
def windowReach (target window stride dilation : List Nat) (axis : Nat) : Nat :=
  (target.getD axis 0 - 1) * stride.getD axis 0 + (window.getD axis 0 - 1) * dilation.getD axis 0 + 1

/-- half of what `source` lacks for the window on either side of each axis -/
def evenPadding (source target window stride dilation : List Nat) : List (Nat × Nat) :=
  (List.range source.length).map fun axis =>
    ((windowReach target window stride dilation axis - source.getD axis 0) / 2,
      (windowReach target window stride dilation axis - source.getD axis 0) / 2)

namespace Operation

/-- a positive entry for each axis; ones if there is no list -/
inductive GivesSteps (op : Operation) (key : String) (axes : Nat) : List Nat → Prop
  | given {l : List Nat} (h : op.ListsSizes key l) (hlength : l.length = axes) (hpos : ∀ n ∈ l, 1 ≤ n) :
    GivesSteps op key axes l
  | missing (h : op.Lacks key) : GivesSteps op key axes (List.replicate axes 1)

/-- a pair for each axis of `source`; even padding if there is no list and no reach is too large -/
inductive GivesPadding (op : Operation) (source target window stride dilation : List Nat) : List (Nat × Nat) → Prop
  | given {l : List (Nat × Nat)} (h : op.ListsPairs "padding" l) (hlength : l.length = source.length) :
    GivesPadding op source target window stride dilation l
  | missing (h : op.Lacks "padding")
    (hreach : ∀ axis < source.length, windowReach target window stride dilation axis < 2 ^ 64) :
    GivesPadding op source target window stride dilation (evenPadding source target window stride dilation)

/-- the steps and the padding of a window -/
structure GivesWindow (op : Operation) (source target window : List Nat) (geometry : ConvGeometry) : Prop where
  stride : op.GivesSteps "stride" source.length geometry.stride
  dilation : op.GivesSteps "dilation" source.length geometry.dilation
  padding : op.GivesPadding source target window geometry.stride geometry.dilation geometry.padding

/-- one group by default; none, or as many as there are channels, is one filter for each channel -/
inductive GivesStrategy (op : Operation) (channels : Nat) : ConvStrategy → Prop
  | missing (h : op.attribute? "groups" = none) : GivesStrategy op channels .direct
  | one {n : Int64} (h : op.attribute? "groups" = some (.integer n)) (hn : n.toInt = 1) :
    GivesStrategy op channels .direct
  | channels {n : Int64} (h : op.attribute? "groups" = some (.integer n)) (hn : n.toInt = 0 ∨ n.toInt = channels)
    (hone : n.toInt ≠ 1) : GivesStrategy op channels .depthwise
  | groups {n : Int64} (h : op.attribute? "groups" = some (.integer n)) (hn : 0 < n.toInt) (hone : n.toInt ≠ 1)
    (hchannels : n.toInt ≠ channels) : GivesStrategy op channels (.grouped n.toInt.toNat)

/-- a box sums, or averages if it is normalized -/
inductive GivesPool (op : Operation) : PoolFamily → PoolOp → Prop
  | avg : GivesPool op .avg .avg
  | max : GivesPool op .max .max
  | missing (h : op.attribute? "normalize" = none) : GivesPool op .box .sum
  | normalize {b : Bool} (h : op.attribute? "normalize" = some (.logical b)) :
    GivesPool op .box (if b then .avg else .sum)

/-- a convolution of tensors of the given shapes, as its attributes describe it -/
structure GivesConv (op : Operation) (transposed : Bool) (input filter output : List Nat) (strategy : ConvStrategy)
    (geometry : ConvGeometry) : Prop where
  rank : 3 ≤ input.length ∧ input.length ≤ 5 ∧ filter.length = input.length ∧ output.length = input.length
  window : op.GivesWindow ((if transposed then output else input).drop 2) ((if transposed then input else output).drop 2)
    (filter.drop 2) geometry
  strategy : op.GivesStrategy (input.getD 1 0) strategy

/-- pooling of tensors of the given shapes, as its attributes describe it -/
structure GivesPooling (op : Operation) (family : PoolFamily) (transposed : Bool) (input output : List Nat)
    (pool : PoolOp) (geometry : PoolGeometry) : Prop where
  rank : 1 ≤ input.length ∧ input.length ≤ 5 ∧ output.length = input.length
  size : op.ListsSizes "size" geometry.size ∧ geometry.size.length = input.length
  window : op.GivesWindow (if transposed then output else input) (if transposed then input else output) geometry.size
    ⟨geometry.padding, geometry.stride, geometry.dilation⟩
  pool : op.GivesPool family pool
  includeBorder : geometry.includeBorder = true ↔ op.attribute? "border" ≠ some (.string "ignore")

end Operation

/-! ## Padding -/

theorem word?_eq_some_iff {n m : Nat} : word? n = some m ↔ n < 2 ^ 64 ∧ m = n := by
  have hword : wordSize = 2 ^ 64 := rfl
  unfold word?
  rw [hword]
  split
  · simp_all [eq_comm]
  · simp_all

/-- all steps of the computation are words if the last one is -/
theorem samePadding_eq_some_iff {input output window stride dilation p : Nat} :
    samePadding input output window stride dilation = some p ↔
      (output - 1) * stride + (window - 1) * dilation + 1 < 2 ^ 64 ∧
        p = ((output - 1) * stride + (window - 1) * dilation + 1 - input) / 2 := by
  simp only [samePadding, Option.bind_eq_bind, Option.bind_eq_some_iff, word?_eq_some_iff, Option.some.injEq]
  constructor
  · rintro ⟨_, ⟨-, rfl⟩, _, ⟨-, rfl⟩, _, ⟨-, rfl⟩, _, ⟨h, rfl⟩, rfl⟩
    exact ⟨h, rfl⟩
  · rintro ⟨h, rfl⟩
    exact ⟨_, ⟨by omega, rfl⟩, _, ⟨by omega, rfl⟩, _, ⟨by omega, rfl⟩, _, ⟨h, rfl⟩, rfl⟩

theorem evenPadding_cons (i o w s d : Nat) (is os ws ss ds : List Nat) :
    evenPadding (i :: is) (o :: os) (w :: ws) (s :: ss) (d :: ds) =
      (((o - 1) * s + (w - 1) * d + 1 - i) / 2, ((o - 1) * s + (w - 1) * d + 1 - i) / 2) ::
        evenPadding is os ws ss ds := by
  rw [evenPadding, List.length_cons, List.range_succ_eq_map, List.map_cons, List.map_map]
  rfl

/-- defaulted padding is even on every axis, and there is one if every reach is a word -/
theorem samePaddings_eq_some_iff {source target window stride dilation : List Nat} {l : List (Nat × Nat)}
    (htarget : target.length = source.length) (hwindow : window.length = source.length)
    (hstride : stride.length = source.length) (hdilation : dilation.length = source.length) :
    samePaddings source target window stride dilation = some l ↔
      (∀ axis < source.length, windowReach target window stride dilation axis < 2 ^ 64) ∧
        l = evenPadding source target window stride dilation := by
  induction source generalizing target window stride dilation l with
  | nil => simp [samePaddings, evenPadding, eq_comm]
  | cons i is ih =>
    obtain ⟨o, os, rfl⟩ := List.exists_cons_of_length_eq_add_one htarget
    obtain ⟨w, ws, rfl⟩ := List.exists_cons_of_length_eq_add_one hwindow
    obtain ⟨s, ss, rfl⟩ := List.exists_cons_of_length_eq_add_one hstride
    obtain ⟨d, ds, rfl⟩ := List.exists_cons_of_length_eq_add_one hdilation
    simp only [List.length_cons, Nat.add_right_cancel_iff] at htarget hwindow hstride hdilation
    simp only [samePaddings, Option.bind_eq_bind, Option.bind_eq_some_iff, samePadding_eq_some_iff,
      ih htarget hwindow hstride hdilation, Option.some.injEq, evenPadding_cons, List.length_cons]
    constructor
    · rintro ⟨_, ⟨hfirst, rfl⟩, _, ⟨hrest, rfl⟩, rfl⟩
      refine ⟨fun axis haxis => ?_, rfl⟩
      cases axis with
      | zero => exact hfirst
      | succ axis => exact hrest axis (Nat.lt_of_succ_lt_succ haxis)
    · rintro ⟨hall, rfl⟩
      have hrest : ∀ axis < is.length, windowReach os ws ss ds axis < 2 ^ 64 := fun axis haxis =>
        hall (axis + 1) (Nat.succ_lt_succ haxis)
      exact ⟨_, ⟨hall 0 (Nat.succ_pos _), rfl⟩, _, ⟨hrest, rfl⟩, rfl⟩

namespace Operation

variable {op : Operation}

/-! ## Steps -/

theorem checkSteps_eq_ok_iff {key : String} {axes : Nat} {l : List Nat} {u : Unit} :
    op.checkSteps key axes l = .ok u ↔ l.length = axes ∧ ∀ n ∈ l, 1 ≤ n := by
  unfold checkSteps
  by_cases hlength : l.length = axes
  · rw [if_neg (not_not.2 hlength)]
    have hzero : l.contains 0 = true ↔ ¬ ∀ n ∈ l, 1 ≤ n := by
      simp [Nat.one_le_iff_ne_zero]
    by_cases hz : l.contains 0 = true
    · rw [if_pos hz]
      exact ⟨nofun, fun h => absurd h.2 (hzero.1 hz)⟩
    · rw [if_neg hz]
      exact ⟨fun _ => ⟨hlength, not_not.1 fun h => hz (hzero.2 h)⟩, fun _ => rfl⟩
  · rw [if_pos hlength]
    exact ⟨nofun, fun h => absurd h.1 hlength⟩

/-- what is read as steps and passes the check -/
theorem givesSteps_iff {key : String} {axes : Nat} {l : List Nat} :
    op.GivesSteps key axes l ↔ ∃ found, op.sizes key = .ok found ∧ found.getD (List.replicate axes 1) = l ∧
      op.checkSteps key axes l = .ok () := by
  constructor
  · rintro (⟨hl, hlength, hpos⟩ | hlacks)
    · by_cases hnil : l = []
      · -- an empty list counts as missing, and then there is no axis
        subst hnil
        subst hlength
        exact ⟨none, sizes_eq_ok_iff.2 (Or.inl ⟨hl.lacks, rfl⟩), rfl, checkSteps_eq_ok_iff.2 ⟨rfl, hpos⟩⟩
      · exact ⟨some l, sizes_eq_ok_iff.2 (Or.inr ⟨l, hnil, hl, rfl⟩), rfl, checkSteps_eq_ok_iff.2 ⟨hlength, hpos⟩⟩
    · refine ⟨none, sizes_eq_ok_iff.2 (Or.inl ⟨hlacks, rfl⟩), rfl, checkSteps_eq_ok_iff.2 ⟨List.length_replicate, ?_⟩⟩
      intro n hn
      exact Nat.le_of_eq (List.eq_of_mem_replicate hn).symm
  · rintro ⟨found, hfound, rfl, hcheck⟩
    rcases sizes_eq_ok_iff.1 hfound with ⟨hlacks, rfl⟩ | ⟨l, -, hl, rfl⟩
    · exact .missing hlacks
    · obtain ⟨hlength, hpos⟩ := checkSteps_eq_ok_iff.1 hcheck
      exact .given hl hlength hpos

theorem GivesSteps.length_eq {key : String} {axes : Nat} {l : List Nat} (h : op.GivesSteps key axes l) :
    l.length = axes := by
  cases h with
  | given h hlength hpos => exact hlength
  | missing h => exact List.length_replicate

/-! ## Geometry -/

section

variable {source target window stride dilation : List Nat}

theorem paddingOrSame_eq_ok_iff {l : List (Nat × Nat)} (htarget : target.length = source.length)
    (hwindow : window.length = source.length) (hstride : stride.length = source.length)
    (hdilation : dilation.length = source.length) :
    op.paddingOrSame source target window stride dilation = .ok l ↔
      op.GivesPadding source target window stride dilation l := by
  have hsame := fun l => samePaddings_eq_some_iff (l := l) htarget hwindow hstride hdilation
  rw [paddingOrSame, except_bind_eq_ok_iff]
  constructor
  · rintro ⟨found, hfound, h⟩
    rcases padding_eq_ok_iff.1 hfound with ⟨hlacks, rfl⟩ | ⟨l', -, hl', rfl⟩
    · dsimp only at h
      cases hp : samePaddings source target window stride dilation with
      | none => rw [hp] at h; cases h
      | some l' =>
        rw [hp] at h
        cases h
        obtain ⟨hreach, rfl⟩ := (hsame l).1 hp
        exact .missing hlacks hreach
    · dsimp only at h
      split at h
      · cases h
      · rename_i hlength
        cases h
        exact .given hl' (not_not.1 hlength)
  · rintro (⟨hl, hlength⟩ | ⟨hlacks, hreach⟩)
    · by_cases hnil : l = []
      · -- an empty list counts as missing, and then there is no axis to pad
        subst hnil
        obtain rfl := List.length_eq_zero_iff.1 hlength.symm
        exact ⟨none, padding_eq_ok_iff.2 (Or.inl ⟨hl.lacks, rfl⟩), rfl⟩
      · refine ⟨some l, padding_eq_ok_iff.2 (Or.inr ⟨l, hnil, hl, rfl⟩), ?_⟩
        dsimp only
        rw [if_neg (not_not.2 hlength)]
    · refine ⟨none, padding_eq_ok_iff.2 (Or.inl ⟨hlacks, rfl⟩), ?_⟩
      dsimp only
      rw [(hsame _).2 ⟨hreach, rfl⟩]

/-- the steps and the padding are read, or one of them is not what it should be -/
theorem geometry_eq_ok_iff {geometry : ConvGeometry} (htarget : target.length = source.length)
    (hwindow : window.length = source.length) :
    op.geometry source target window = .ok geometry ↔ op.GivesWindow source target window geometry := by
  simp only [Operation.geometry, except_bind_eq_ok_iff]
  constructor
  · rintro ⟨stride, hstride, dilation, hdilation, u, hcheck, v, hcheck', padding, hpadding, h⟩
    cases h
    have hs : op.GivesSteps "stride" source.length _ := givesSteps_iff.2 ⟨stride, hstride, rfl, hcheck⟩
    have hd : op.GivesSteps "dilation" source.length _ := givesSteps_iff.2 ⟨dilation, hdilation, rfl, hcheck'⟩
    exact ⟨hs, hd, (paddingOrSame_eq_ok_iff htarget hwindow hs.length_eq hd.length_eq).1 hpadding⟩
  · rintro ⟨hs, hd, hp⟩
    have hpadding := (paddingOrSame_eq_ok_iff htarget hwindow hs.length_eq hd.length_eq).2 hp
    obtain ⟨stride, hstride, hseq, hcheck⟩ := givesSteps_iff.1 hs
    obtain ⟨dilation, hdilation, hdeq, hcheck'⟩ := givesSteps_iff.1 hd
    refine ⟨stride, hstride, dilation, hdilation, (), ?_, (), ?_, geometry.padding, ?_, ?_⟩
    · rwa [hseq]
    · rwa [hdeq]
    · rwa [hseq, hdeq]
    · rw [hseq, hdeq]

end

/-! ## Convolution -/

theorem checkRank_eq_ok_iff {rank max : Nat} {u : Unit} : op.checkRank rank max = .ok u ↔ rank ≤ max := by
  unfold checkRank
  split
  · rename_i h
    exact ⟨nofun, fun hle => absurd h (Nat.not_lt.2 hle)⟩
  · rename_i h
    exact ⟨fun _ => Nat.le_of_not_lt h, fun _ => rfl⟩

theorem checkConvRanks_eq_ok_iff {input filter output : Nat} {u : Unit} :
    op.checkConvRanks input filter output = .ok u ↔ 3 ≤ input ∧ input ≤ 5 ∧ filter = input ∧ output = input := by
  have hmax : maxConvRank = 5 := rfl
  simp only [checkConvRanks, except_bind_eq_ok_iff, checkRank_eq_ok_iff, hmax]
  constructor
  · rintro ⟨u, hinput, v, hfilter, w, houtput, h⟩
    split at h
    · cases h
    · omega
  · rintro ⟨hthree, hfive, rfl, rfl⟩
    refine ⟨(), hfive, (), hfive, (), hfive, if_neg ?_⟩
    omega

theorem strategy_eq_ok_iff {channels : Nat} {strategy : ConvStrategy} :
    op.strategy channels = .ok strategy ↔ op.GivesStrategy channels strategy := by
  have hone : (1 : Int64).toInt = 1 := rfl
  rw [Operation.strategy, except_bind_eq_ok_iff]
  constructor
  · rintro ⟨n, hn, h⟩
    split at h
    · cases h
    · rename_i hneg
      cases h
      unfold ConvStrategy.ofGroups
      rcases integer_eq_ok_iff.1 hn with ⟨hnone, rfl⟩ | hsome
      · exact .missing hnone
      · split_ifs with h₁ h₂
        · exact .one hsome (by omega)
        · exact .channels hsome (by omega) (by omega)
        · exact .groups hsome (by omega) (by omega) (by omega)
  · intro h
    cases h with
    | missing h => exact ⟨1, integer_eq_ok_iff.2 (Or.inl ⟨h, rfl⟩), rfl⟩
    | one h hn =>
      refine ⟨_, integer_eq_ok_iff.2 (Or.inr h), ?_⟩
      rw [if_neg (by omega), ConvStrategy.ofGroups, if_pos (by omega)]
    | channels h hn hone =>
      refine ⟨_, integer_eq_ok_iff.2 (Or.inr h), ?_⟩
      rw [if_neg (by omega), ConvStrategy.ofGroups, if_neg (by omega), if_pos (by omega)]
    | groups h hn hone hchannels =>
      refine ⟨_, integer_eq_ok_iff.2 (Or.inr h), ?_⟩
      rw [if_neg (by omega), ConvStrategy.ofGroups, if_neg (by omega), if_neg (by omega)]

section

variable {τ : Type} [Handle τ] {transposed : Bool} {input filter bias output : τ}

/-- the shapes of a convolution agree axis by axis, so its window is what its attributes say -/
theorem convGeometry_eq_ok_iff {geometry : ConvGeometry} {source target filter : List Nat}
    (htarget : target.length = source.length) (hfilter : filter.length = source.length) :
    op.geometry (source.drop 2) (target.drop 2) (filter.drop 2) = .ok geometry ↔
      op.GivesWindow (source.drop 2) (target.drop 2) (filter.drop 2) geometry :=
  geometry_eq_ok_iff (by rw [List.length_drop, List.length_drop, htarget])
    (by rw [List.length_drop, List.length_drop, hfilter])

/-- **A convolution is planned as its attributes say.** There is a plan if the attributes describe a convolution of
tensors of these shapes, and the plan is this convolution, from source to target. -/
theorem planConv_eq_ok_iff {i : Instruction τ} :
    op.planConv transposed input filter bias output = .ok i ↔ ∃ strategy geometry,
      op.GivesConv transposed (Handle.shape input) (Handle.shape filter) (Handle.shape output) strategy geometry ∧
        i = .compute strategy.request (.conv strategy transposed (if transposed then output else input) filter bias
          (if transposed then input else output) geometry) := by
  simp only [planConv, except_bind_eq_ok_iff, checkConvRanks_eq_ok_iff, strategy_eq_ok_iff]
  constructor
  · rintro ⟨u, ⟨hthree, hfive, hfilter, houtput⟩, geometry, hgeometry, strategy, hstrategy, h⟩
    cases h
    cases transposed with
    | false =>
      exact ⟨strategy, geometry, ⟨⟨hthree, hfive, hfilter, houtput⟩,
        (convGeometry_eq_ok_iff houtput hfilter).1 hgeometry, hstrategy⟩, rfl⟩
    | true =>
      exact ⟨strategy, geometry, ⟨⟨hthree, hfive, hfilter, houtput⟩,
        (convGeometry_eq_ok_iff houtput.symm (hfilter.trans houtput.symm)).1 hgeometry, hstrategy⟩, rfl⟩
  · rintro ⟨strategy, geometry, ⟨⟨hthree, hfive, hfilter, houtput⟩, hwindow, hstrategy⟩, rfl⟩
    cases transposed with
    | false =>
      exact ⟨(), ⟨hthree, hfive, hfilter, houtput⟩, geometry, (convGeometry_eq_ok_iff houtput hfilter).2 hwindow,
        strategy, hstrategy, rfl⟩
    | true =>
      exact ⟨(), ⟨hthree, hfive, hfilter, houtput⟩, geometry,
        (convGeometry_eq_ok_iff houtput.symm (hfilter.trans houtput.symm)).2 hwindow, strategy, hstrategy, rfl⟩

end

/-! ## Pooling -/

theorem poolOp_eq_ok_iff {family : PoolFamily} {pool : PoolOp} :
    op.poolOp family = .ok pool ↔ op.GivesPool family pool := by
  cases family with
  | box =>
    rw [poolOp, except_bind_eq_ok_iff]
    constructor
    · rintro ⟨b, hb, h⟩
      cases h
      rcases logical_eq_ok_iff.1 hb with ⟨hnone, rfl⟩ | hsome
      · exact .missing hnone
      · exact .normalize hsome
    · intro h
      cases h with
      | missing h => exact ⟨false, logical_eq_ok_iff.2 (Or.inl ⟨h, rfl⟩), rfl⟩
      | normalize h => exact ⟨_, logical_eq_ok_iff.2 (Or.inr h), rfl⟩
  | avg => exact ⟨fun h => by cases h; exact .avg, fun h => by cases h; rfl⟩
  | max => exact ⟨fun h => by cases h; exact .max, fun h => by cases h; rfl⟩

/-- a window has an extent for each axis, and there is an axis -/
theorem windowSize_eq_ok_iff {source target : Nat} {size : List Nat} :
    op.windowSize source target = .ok size ↔
      1 ≤ source ∧ target = source ∧ op.ListsSizes "size" size ∧ size.length = source := by
  rw [windowSize, except_bind_eq_ok_iff]
  constructor
  · rintro ⟨found, hfound, h⟩
    rcases sizes_eq_ok_iff.1 hfound with ⟨-, rfl⟩ | ⟨l, hne, hl, rfl⟩
    · cases h
    · dsimp only at h
      split at h
      · cases h
      · rename_i hranks
        cases h
        have hpos := List.length_pos_iff.2 hne
        refine ⟨?_, ?_, hl, ?_⟩ <;> omega
  · rintro ⟨hpos, rfl, hl, hlength⟩
    refine ⟨some size, sizes_eq_ok_iff.2 (Or.inr ⟨size, ?_, hl, rfl⟩), ?_⟩
    · exact List.length_pos_iff.1 (by omega)
    · exact if_neg (by omega)

section

variable {τ : Type} [Handle τ] {family : PoolFamily} {transposed : Bool} {input output : τ}

/-- **Pooling is planned as its attributes say.** There is a plan if the attributes describe pooling of tensors of these
shapes, and the plan is this pooling, from source to target. -/
theorem planPool_eq_ok_iff {i : Instruction τ} :
    op.planPool family transposed input output = .ok i ↔ ∃ pool geometry,
      op.GivesPooling family transposed (Handle.shape input) (Handle.shape output) pool geometry ∧
        i = .compute .pool (.pool pool transposed (if transposed then output else input)
          (if transposed then input else output) geometry) := by
  have hmax : maxPoolRank = 5 := rfl
  simp only [planPool, except_bind_eq_ok_iff, checkRank_eq_ok_iff, windowSize_eq_ok_iff, poolOp_eq_ok_iff, hmax]
  constructor
  · rintro ⟨u, hinput, v, houtput, size, ⟨hpos, hranks, hsize, hlength⟩, geometry, hgeometry, pool, hpool, h⟩
    cases h
    have hwindow := (geometry_eq_ok_iff hranks hlength).1 hgeometry
    refine ⟨pool, ⟨size, geometry.padding, geometry.stride, geometry.dilation,
      decide (op.attribute? "border" ≠ some (.string "ignore"))⟩, ?_, by cases transposed <;> rfl⟩
    cases transposed with
    | false => exact ⟨⟨hpos, hinput, hranks⟩, ⟨hsize, hlength⟩, hwindow, hpool, decide_eq_true_iff⟩
    | true =>
      exact ⟨⟨hpos.trans_eq hranks.symm, hinput, hranks.symm⟩, ⟨hsize, hlength.trans hranks.symm⟩, hwindow, hpool,
        decide_eq_true_iff⟩
  · rintro ⟨pool, geometry, ⟨⟨hpos, hfive, hranks⟩, ⟨hsize, hlength⟩, hwindow, hpool, hborder⟩, rfl⟩
    have hinclude : decide (op.attribute? "border" ≠ some (.string "ignore")) = geometry.includeBorder :=
      Bool.eq_iff_iff.2 (decide_eq_true_iff.trans hborder.symm)
    rw [hinclude]
    cases transposed with
    | false =>
      exact ⟨(), hfive, (), hranks.trans_le hfive, geometry.size, ⟨hpos, hranks, hsize, hlength⟩, _,
        (geometry_eq_ok_iff hranks hlength).2 hwindow, pool, hpool, rfl⟩
    | true =>
      exact ⟨(), hfive, (), hranks.trans_le hfive, geometry.size,
        ⟨hpos.trans_eq hranks.symm, hranks.symm, hsize, hlength.trans hranks.symm⟩, _,
        (geometry_eq_ok_iff hranks.symm (hlength.trans hranks.symm)).2 hwindow, pool, hpool, rfl⟩

end

/-! ## Border -/

theorem checkBorder_eq_ok_iff {known : List String} {u : Unit} (h : "constant" ∈ known) :
    op.checkBorder known = .ok u ↔
      op.attribute? "border" = none ∨ ∃ border ∈ known, op.attribute? "border" = some (.string border) := by
  rw [checkBorder, except_bind_eq_ok_iff]
  constructor
  · rintro ⟨border, hborder, hknown⟩
    split at hknown
    · rename_i hmem
      rcases string_eq_ok_iff.1 hborder with ⟨hnone, -⟩ | hsome
      · exact Or.inl hnone
      · exact Or.inr ⟨border, List.contains_iff_mem.1 hmem, hsome⟩
    · cases hknown
  · rintro (hnone | ⟨border, hmem, hsome⟩)
    · exact ⟨"constant", string_eq_ok_iff.2 (Or.inl ⟨hnone, rfl⟩), if_pos (List.contains_iff_mem.2 h)⟩
    · exact ⟨border, string_eq_ok_iff.2 (Or.inr hsome), if_pos (List.contains_iff_mem.2 hmem)⟩

end Operation

end TensorGraph
