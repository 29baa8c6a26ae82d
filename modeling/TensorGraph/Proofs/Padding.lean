/-
Padding that is not given is exact, and no wider than the window.

Model: `reachOver` is how many elements a window reaches over on one axis if it is put down at so many places, at least
at one, and has so many elements, at least one. It is a whole number of any size, so that a reach that is no word can be
told from one that is. `Pads` says what half of the missing elements is, where differences stop at zero, and `paddingAt`
reads one axis out of the five lists that describe a window.

Main result: `padding_is_exact`, on one axis and on all of them.
-/
import Mathlib.Algebra.Order.Floor.Div
import TensorGraph.Proofs.Windows

namespace TensorGraph

/-! ## Model -/

/-- how many elements a window reaches over on an axis where it is put down at `output` places -/
def reachOver (output window stride dilation : Nat) : Nat := (output - 1) * stride + (window - 1) * dilation + 1

/-- `p` elements on either side are what `input` lacks of a reach, but for an odd one -/
structure Pads (input reach p : Nat) : Prop where
  eq_half : p = (reach - input) / 2
  le_lack : 2 * p ≤ reach - input
  lack_le : reach - input ≤ 2 * p + 1

/-- the padding of one axis of five lists -/
def paddingAt (inputs outputs windows strides dilations : List Nat) (axis : Nat) : Option Nat :=
  samePadding (inputs.getD axis 0) (outputs.getD axis 0) (windows.getD axis 0) (strides.getD axis 0)
    (dilations.getD axis 0)

/-- how many axes all of five lists have -/
def commonAxes (inputs outputs windows strides dilations : List Nat) : Nat :=
  min inputs.length (min outputs.length (min windows.length (min strides.length dilations.length)))

/-! ## One axis -/

section

variable {input output window stride dilation : Nat}

/-- there is no padding exactly if the reach is no word -/
theorem samePadding_eq_none_iff :
    samePadding input output window stride dilation = none ↔ 2 ^ 64 ≤ reachOver output window stride dilation := by
  rw [Option.eq_none_iff_forall_ne_some]
  simp only [ne_eq, samePadding_eq_some_iff, not_and, reachOver]
  constructor
  · intro h
    exact Nat.le_of_not_lt fun hlt => h _ hlt rfl
  · intro hle p hlt
    exact absurd hlt (Nat.not_lt.2 hle)

theorem pads_half (input reach : Nat) : Pads input reach ((reach - input) / 2) where
  eq_half := rfl
  le_lack := Nat.mul_div_le _ 2
  lack_le := by omega

theorem samePadding_of_word (input : Nat) (h : reachOver output window stride dilation < 2 ^ 64) :
    ∃ p, samePadding input output window stride dilation = some p ∧
      Pads input (reachOver output window stride dilation) p :=
  ⟨_, samePadding_eq_some_iff.2 ⟨h, rfl⟩, pads_half _ _⟩

/-- as many places as a stride allows begin within the input -/
theorem lt_of_ceilDiv (hinput : 1 ≤ input) (hstride : 1 ≤ stride) : (input ⌈/⌉ stride - 1) * stride < input := by
  have hpos : input ⌈/⌉ stride - 1 < input ⌈/⌉ stride := by
    have hplaces : 0 < input ⌈/⌉ stride := Nat.pos_of_ne_zero fun hzero => by
      have hle : input ≤ stride * 0 := (ceilDiv_le_iff_le_mul hstride).1 (Nat.le_of_eq hzero)
      omega
    omega
  rw [Nat.mul_comm]
  exact Nat.lt_of_not_le fun hle => Nat.not_lt.2 ((ceilDiv_le_iff_le_mul hstride).2 hle) hpos

/-- what the input lacks is no more than what the window spans beyond its first element -/
theorem lack_le_of_ceilDiv (hinput : 1 ≤ input) (hstride : 1 ≤ stride) (houtput : output = input ⌈/⌉ stride) :
    reachOver output window stride dilation - input ≤ (window - 1) * dilation := by
  have hspan : (output - 1) * stride < input := houtput ▸ lt_of_ceilDiv hinput hstride
  rw [reachOver]
  omega

end

/-! ## All axes -/

section

variable {inputs outputs windows strides dilations : List Nat}

/-- every common axis is padded on its own, and there are no other entries -/
theorem samePaddings_eq_some_iff_paddingAt {l : List (Nat × Nat)} :
    samePaddings inputs outputs windows strides dilations = some l ↔
      l.length = commonAxes inputs outputs windows strides dilations ∧
        ∀ axis < commonAxes inputs outputs windows strides dilations,
          ∃ p, paddingAt inputs outputs windows strides dilations axis = some p ∧ l[axis]? = some (p, p) := by
  fun_induction samePaddings inputs outputs windows strides dilations generalizing l with
  | case1 i is o os w ws s ss d ds ih =>
    have haxes : commonAxes (i :: is) (o :: os) (w :: ws) (s :: ss) (d :: ds) = commonAxes is os ws ss ds + 1 := by
      simp only [commonAxes, List.length_cons]
      omega
    rw [haxes]
    simp only [Option.bind_eq_bind, Option.bind_eq_some_iff, ih, Option.some.injEq]
    constructor
    · rintro ⟨p, hp, rest, ⟨hlength, hrest⟩, rfl⟩
      refine ⟨by rw [List.length_cons, hlength], fun axis haxis => ?_⟩
      cases axis with
      | zero => exact ⟨p, hp, rfl⟩
      | succ axis => exact hrest axis (Nat.lt_of_succ_lt_succ haxis)
    · rintro ⟨hlength, hall⟩
      obtain ⟨first, rest, rfl⟩ := List.exists_cons_of_length_eq_add_one hlength
      obtain ⟨p, hp, hfirst⟩ := hall 0 (Nat.succ_pos _)
      obtain rfl := Option.some.inj hfirst
      exact ⟨p, hp, rest, ⟨Nat.succ.inj hlength, fun axis haxis => hall (axis + 1) (Nat.succ_lt_succ haxis)⟩, rfl⟩
  | case2 inputs outputs windows strides dilations hshort =>
    have haxes : commonAxes inputs outputs windows strides dilations = 0 := by
      by_contra hne
      obtain ⟨hi, ho, hw, hs, hd⟩ : 0 < inputs.length ∧ 0 < outputs.length ∧ 0 < windows.length ∧
          0 < strides.length ∧ 0 < dilations.length := by
        rw [commonAxes] at hne
        omega
      obtain ⟨i, is, rfl⟩ := List.exists_cons_of_length_pos hi
      obtain ⟨o, os, rfl⟩ := List.exists_cons_of_length_pos ho
      obtain ⟨w, ws, rfl⟩ := List.exists_cons_of_length_pos hw
      obtain ⟨s, ss, rfl⟩ := List.exists_cons_of_length_pos hs
      obtain ⟨d, ds, rfl⟩ := List.exists_cons_of_length_pos hd
      exact hshort i is o os w ws s ss d ds rfl rfl rfl rfl rfl
    simp [haxes, eq_comm]

/-- there is no padding exactly if a common axis has none -/
theorem samePaddings_eq_none_iff : samePaddings inputs outputs windows strides dilations = none ↔
    ∃ axis < commonAxes inputs outputs windows strides dilations,
      paddingAt inputs outputs windows strides dilations axis = none := by
  constructor
  · intro hnone
    by_contra hall
    push Not at hall
    have hsome : ∀ axis : Fin (commonAxes inputs outputs windows strides dilations),
        ∃ p, paddingAt inputs outputs windows strides dilations axis = some p := fun axis =>
      Option.ne_none_iff_exists'.1 (hall axis axis.2)
    choose p hp using hsome
    have hfound : samePaddings inputs outputs windows strides dilations =
        some (List.ofFn fun axis => (p axis, p axis)) :=
      samePaddings_eq_some_iff_paddingAt.2 ⟨List.length_ofFn, fun axis haxis =>
        ⟨p ⟨axis, haxis⟩, hp ⟨axis, haxis⟩, by simp [haxis]⟩⟩
    rw [hfound] at hnone
    cases hnone
  · rintro ⟨axis, haxis, hnone⟩
    rw [Option.eq_none_iff_forall_ne_some]
    intro l hl
    obtain ⟨p, hp, -⟩ := (samePaddings_eq_some_iff_paddingAt.1 hl).2 axis haxis
    rw [hnone] at hp
    cases hp

end

/-! ## Main result -/

/-- **Padding is exact.** On one axis there is padding exactly if the reach of the window is a word, and then it is half
of what the input lacks, an odd element being dropped. If the window is put down as often as its stride allows on an
input that has elements, the two sides together are no wider than what the window spans beyond its first element.

For lists there is padding exactly if there is on every axis that all of them have, and then it is that of each of these
axes, the same on both sides, and nothing more. -/
theorem padding_is_exact :
    (∀ input output window stride dilation : Nat,
      (samePadding input output window stride dilation = none ↔ 2 ^ 64 ≤ reachOver output window stride dilation) ∧
      (reachOver output window stride dilation < 2 ^ 64 → ∃ p,
        samePadding input output window stride dilation = some p ∧
        Pads input (reachOver output window stride dilation) p ∧
        (1 ≤ input → 1 ≤ stride → output = input ⌈/⌉ stride → 2 * p ≤ (window - 1) * dilation))) ∧
    ∀ inputs outputs windows strides dilations : List Nat,
      let axes := commonAxes inputs outputs windows strides dilations
      (samePaddings inputs outputs windows strides dilations = none ↔
        ∃ axis < axes, paddingAt inputs outputs windows strides dilations axis = none) ∧
      ∀ l, samePaddings inputs outputs windows strides dilations = some l ↔ l.length = axes ∧
        ∀ axis < axes, ∃ p, paddingAt inputs outputs windows strides dilations axis = some p ∧
          l[axis]? = some (p, p) := by
  refine ⟨fun input output window stride dilation => ⟨samePadding_eq_none_iff, fun hword => ?_⟩,
    fun _ _ _ _ _ => ⟨samePaddings_eq_none_iff, fun l => samePaddings_eq_some_iff_paddingAt⟩⟩
  obtain ⟨p, hp, hpads⟩ := samePadding_of_word input hword
  exact ⟨p, hp, hpads, fun hinput hstride houtput =>
    hpads.le_lack.trans (lack_le_of_ceilDiv hinput hstride houtput)⟩

/-- the largest word that is a reach, the next number, which is none, and a window put down at every other element -/
theorem padding_is_exact_at_the_limit :
    (reachOver 2 1 (2 ^ 64 - 2) 1 < 2 ^ 64 ∧ samePadding 5 2 1 (2 ^ 64 - 2) 1 = some (2 ^ 63 - 3)) ∧
    (2 ^ 64 ≤ reachOver 2 1 (2 ^ 64 - 1) 1 ∧ samePadding 5 2 1 (2 ^ 64 - 1) 1 = none) ∧
    112 = 223 ⌈/⌉ 2 ∧ ∃ p, samePadding 223 112 7 2 1 = some p ∧ 2 * p ≤ (7 - 1) * 1 := by
  have hwide : reachOver 2 1 (2 ^ 64 - 2) 1 < 2 ^ 64 := by decide
  have htoowide : 2 ^ 64 ≤ reachOver 2 1 (2 ^ 64 - 1) 1 := by decide
  have hplaces : 112 = 223 ⌈/⌉ 2 := by decide
  refine ⟨⟨hwide, ?_⟩, ⟨htoowide, (padding_is_exact.1 5 2 1 (2 ^ 64 - 1) 1).1.2 htoowide⟩, hplaces, ?_⟩
  · obtain ⟨p, hp, hpads, -⟩ := (padding_is_exact.1 5 2 1 (2 ^ 64 - 2) 1).2 hwide
    rw [hp, hpads.eq_half]
    decide
  · obtain ⟨p, hp, -, htight⟩ := (padding_is_exact.1 223 112 7 2 1).2 (by decide)
    exact ⟨p, hp, htight (by decide) (by decide) hplaces⟩

end TensorGraph
