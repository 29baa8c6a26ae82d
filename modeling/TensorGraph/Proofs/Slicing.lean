/-
Slices start and step exactly where they are said to.

Model: `fromEitherEnd` is a position among so many, a negative one counted from the end, and `lastListed?` the last
entry of a list of pairs under an axis. Starts and steps are both set one listed axis after the other; `setEntries` is
what they have in common, for any way to read an entry.

Main results:
- `exists_setEntries_iff`, `getElem?_of_setEntries`: if all entries can be read, each axis gets what its last one is
  read as;
- `slices_are_exact`: where a slice starts and how it steps.
-/
import TensorGraph.Proofs.Geometry

namespace TensorGraph

/-! ## Model -/

/-- a position among `count`, a negative one being counted from the end -/
def fromEitherEnd (count : Nat) (position : Int) : Int := if position < 0 then position + count else position

/-- what the last pair holds whose axis is one of those meant -/
def lastListed? (meant : Int → Bool) (pairs : List (Int × Int)) : Option Int :=
  (pairs.reverse.find? fun p => meant p.1).map Prod.snd

/-- an axis of a shape and a start on it, both counted from either end; a start may be just behind the last element -/
structure StartsWithin (shape : List Nat) (axis start : Int) : Prop where
  axis_lies : -(shape.length : Int) ≤ axis ∧ axis < shape.length
  start_lies : ∃ extent, shape[(fromEitherEnd shape.length axis).toNat]? = some extent ∧
    -(extent : Int) ≤ start ∧ start ≤ extent

/-- set the entry of each listed axis in turn, as it is read for that axis -/
def setEntries (rank : Nat) (read : Nat → Int → Option Nat) :
    (pairs : List (Int × Int)) → (entries : List Nat) → Option (List Nat)
  | [], entries => some entries
  | (axis, n) :: rest, entries => do
    let i ← axisIndex? axis rank
    let entry ← read i n
    setEntries rank read rest (entries.set i entry)

/-- how a start is read on an axis of a shape -/
def readStart (shape : List Nat) (i : Nat) (start : Int) : Option Nat := shape[i]?.bind (startIndex? start)

/-- how a step is read on any axis -/
def readStep (step : Int) : Option Nat := if step ≤ 0 then none else some step.toNat

/-! ## Positions -/

section

variable {count i : Nat} {position : Int}

theorem asSigned_of_lt (h : count < 2 ^ 63) : asSigned count = count := by
  have hword : wordSize = 2 ^ 64 := rfl
  rw [asSigned, hword, Int.bmod_def]
  omega

/-- the upper half of the words is negative -/
theorem asSigned_neg (hle : 2 ^ 63 ≤ count) (hlt : count < 2 ^ 64) : asSigned count < 0 := by
  have hword : wordSize = 2 ^ 64 := rfl
  rw [asSigned, hword, Int.bmod_def]
  omega

theorem axisIndex?_eq_some_iff (h : count < 2 ^ 63) :
    axisIndex? position count = some i ↔ i < count ∧ fromEitherEnd count position = i := by
  have hread : axisIndex? position count = if 0 ≤ fromEitherEnd count position ∧ fromEitherEnd count position < count
      then some (fromEitherEnd count position).toNat else none := by
    rw [axisIndex?, asSigned_of_lt h]
    rfl
  rw [hread, Option.ite_none_right_eq_some, Option.some.injEq]
  omega

theorem startIndex?_eq_some_iff (h : count < 2 ^ 63) :
    startIndex? position count = some i ↔ i ≤ count ∧ fromEitherEnd count position = i := by
  have hread : startIndex? position count = if 0 ≤ fromEitherEnd count position ∧ fromEitherEnd count position ≤ count
      then some (fromEitherEnd count position).toNat else none := by
    rw [startIndex?, asSigned_of_lt h]
    rfl
  rw [hread, Option.ite_none_right_eq_some, Option.some.injEq]
  omega

/-- positions from the end reach back to the first one, others up to a bound -/
theorem exists_fromEitherEnd_iff {bound : Nat} (h : count ≤ bound) :
    (∃ i < bound, fromEitherEnd count position = i) ↔ -(count : Int) ≤ position ∧ position < bound := by
  constructor
  · rintro ⟨i, hi, hposition⟩
    rw [fromEitherEnd] at hposition
    split at hposition <;> omega
  · rintro ⟨hle, hlt⟩
    refine ⟨(fromEitherEnd count position).toNat, ?_⟩
    rw [fromEitherEnd]
    split <;> omega

theorem exists_axisIndex?_iff (h : count < 2 ^ 63) :
    (∃ i, axisIndex? position count = some i) ↔ -(count : Int) ≤ position ∧ position < count := by
  simp only [axisIndex?_eq_some_iff h]
  exact exists_fromEitherEnd_iff le_rfl

theorem exists_startIndex?_iff (h : count < 2 ^ 63) :
    (∃ i, startIndex? position count = some i) ↔ -(count : Int) ≤ position ∧ position ≤ count := by
  simp only [startIndex?_eq_some_iff h, ← Nat.lt_succ_iff]
  rw [exists_fromEitherEnd_iff (Nat.le_succ count)]
  omega

/-- nothing starts on an axis whose extent is negative as a signed word -/
theorem startIndex?_of_negative (hle : 2 ^ 63 ≤ count) (hlt : count < 2 ^ 64) : startIndex? position count = none := by
  have hneg := asSigned_neg hle hlt
  rw [startIndex?]
  exact if_neg fun h => absurd (h.1.trans h.2) (Int.not_le.2 hneg)

end

/-! ## Entries set in turn -/

section

variable {rank : Nat} {read : Nat → Int → Option Nat} {pairs : List (Int × Int)} {entries : List Nat}

theorem lastListed?_cons (meant : Int → Bool) (p : Int × Int) (rest : List (Int × Int)) :
    lastListed? meant (p :: rest) = (lastListed? meant rest).or (if meant p.1 then some p.2 else none) := by
  simp only [lastListed?, List.reverse_cons, List.find?_append, List.find?_singleton]
  cases rest.reverse.find? fun p => meant p.1 <;> cases meant p.1 <;> rfl

/-- entries that can all be read are all set -/
theorem exists_setEntries_iff : (∃ result, setEntries rank read pairs entries = some result) ↔
    ∀ p ∈ pairs, ∃ i, axisIndex? p.1 rank = some i ∧ ∃ entry, read i p.2 = some entry := by
  induction pairs generalizing entries with
  | nil => exact ⟨fun _ => nofun, fun _ => ⟨entries, rfl⟩⟩
  | cons p rest ih =>
    simp only [setEntries, Option.bind_eq_bind, Option.bind_eq_some_iff, List.forall_mem_cons]
    constructor
    · rintro ⟨result, i, hi, entry, hentry, hrest⟩
      exact ⟨⟨i, hi, entry, hentry⟩, ih.1 ⟨result, hrest⟩⟩
    · rintro ⟨⟨i, hi, entry, hentry⟩, hread⟩
      obtain ⟨result, hrest⟩ := ih.2 hread
      exact ⟨result, i, hi, entry, hentry, hrest⟩

/-- **Entries set in turn.** Each axis has what its last entry is read as, and axes that are not listed are as they
were. -/
theorem getElem?_of_setEntries (hlength : entries.length = rank) {result : List Nat}
    (h : setEntries rank read pairs entries = some result) : result.length = rank ∧ ∀ i < rank,
      result[i]? = (lastListed? (fun axis => axisIndex? axis rank = some i) pairs).elim entries[i]? (read i) := by
  induction pairs generalizing entries with
  | nil =>
    cases h
    exact ⟨hlength, fun i _ => rfl⟩
  | cons p rest ih =>
    obtain ⟨axis, n⟩ := p
    simp only [setEntries, Option.bind_eq_bind, Option.bind_eq_some_iff] at h
    obtain ⟨i, hi, entry, hentry, hrest⟩ := h
    obtain ⟨hresult, hall⟩ := ih (by rw [List.length_set, hlength]) hrest
    refine ⟨hresult, fun j hj => ?_⟩
    rw [hall j hj, lastListed?_cons]
    -- later entries count before the first one, and the first one before what was there
    cases lastListed? (fun axis => axisIndex? axis rank = some j) rest with
    | some later => rfl
    | none =>
      by_cases hij : i = j
      · subst hij
        simp [hi, hentry, hlength, hj]
      · simp [hi, hij]

/-- an axis is meant by what counts to it from either end -/
theorem lastListed?_eq_fromEitherEnd (hrank : rank < 2 ^ 63) {i : Nat} (hi : i < rank) (pairs : List (Int × Int)) :
    lastListed? (fun axis => axisIndex? axis rank = some i) pairs =
      lastListed? (fun axis => fromEitherEnd rank axis = i) pairs := by
  refine congrArg (lastListed? · pairs) (funext fun axis => decide_eq_decide.2 ?_)
  rw [axisIndex?_eq_some_iff hrank, and_iff_right hi]

end

/-! ## Starts -/

section

variable {shape : List Nat} {axes begins : List Int} {starts : List Nat}

theorem setStarts_eq (shape : List Nat) (pairs : List (Int × Int)) (starts : List Nat) :
    setStarts shape pairs starts = setEntries shape.length (readStart shape) pairs starts := by
  induction pairs generalizing starts with
  | nil => rfl
  | cons p rest ih =>
    simp only [setStarts, setEntries, readStart, Option.bind_eq_bind, Option.bind_assoc, ih]

theorem sliceStarts?_eq_some_iff : sliceStarts? shape axes begins = some starts ↔
    axes.length = begins.length ∧
      setEntries shape.length (readStart shape) (axes.zip begins) (List.replicate shape.length 0) = some starts := by
  unfold sliceStarts?
  rw [setStarts_eq, Option.ite_none_left_eq_some, not_not]

/-- an entry is read for its axis if it starts within it -/
theorem startsWithin_iff (hrank : shape.length < 2 ^ 63) (hextents : ∀ extent ∈ shape, extent < 2 ^ 63)
    {axis start : Int} : (∃ i, axisIndex? axis shape.length = some i ∧ ∃ entry, readStart shape i start = some entry) ↔
      StartsWithin shape axis start := by
  have hread : ∀ {i entry}, readStart shape i start = some entry ↔
      ∃ extent, shape[i]? = some extent ∧ startIndex? start extent = some entry := Option.bind_eq_some_iff
  constructor
  · rintro ⟨i, hi, entry, hentry⟩
    obtain ⟨extent, hextent, hstart⟩ := hread.1 hentry
    have hmeant := ((axisIndex?_eq_some_iff hrank).1 hi).2
    refine ⟨(exists_axisIndex?_iff hrank).1 ⟨i, hi⟩, extent, ?_,
      (exists_startIndex?_iff (hextents _ (List.mem_of_getElem? hextent))).1 ⟨entry, hstart⟩⟩
    rwa [hmeant, Int.toNat_natCast]
  · rintro ⟨haxis, extent, hextent, hstart⟩
    obtain ⟨i, hi⟩ := (exists_axisIndex?_iff hrank).2 haxis
    obtain ⟨entry, hentry⟩ := (exists_startIndex?_iff (hextents _ (List.mem_of_getElem? hextent))).2 hstart
    rw [((axisIndex?_eq_some_iff hrank).1 hi).2, Int.toNat_natCast] at hextent
    exact ⟨i, hi, entry, hread.2 ⟨extent, hextent, hentry⟩⟩

theorem exists_sliceStarts?_iff (hrank : shape.length < 2 ^ 63) (hextents : ∀ extent ∈ shape, extent < 2 ^ 63) :
    (∃ starts, sliceStarts? shape axes begins = some starts) ↔
      axes.length = begins.length ∧ ∀ p ∈ axes.zip begins, StartsWithin shape p.1 p.2 := by
  simp only [sliceStarts?_eq_some_iff, exists_and_left, exists_setEntries_iff, startsWithin_iff hrank hextents]

/-- each axis starts where its last entry says, and an axis that is not listed at its first element -/
theorem getElem?_sliceStarts? (h : sliceStarts? shape axes begins = some starts) :
    starts.length = shape.length ∧ ∀ i < shape.length, starts[i]? =
      (lastListed? (fun axis => axisIndex? axis shape.length = some i) (axes.zip begins)).elim (some 0)
        (readStart shape i) := by
  obtain ⟨-, hset⟩ := sliceStarts?_eq_some_iff.1 h
  obtain ⟨hlength, hall⟩ := getElem?_of_setEntries List.length_replicate hset
  refine ⟨hlength, fun i hi => ?_⟩
  rw [hall i hi, List.getElem?_replicate_of_lt hi]

theorem start_of_sliceStarts? (hrank : shape.length < 2 ^ 63) (h : sliceStarts? shape axes begins = some starts)
    {i extent : Nat} (hextent : shape[i]? = some extent) (hword : extent < 2 ^ 63) :
    ∃ start ≤ extent, starts[i]? = some start ∧ (start : Int) =
      (lastListed? (fun axis => fromEitherEnd shape.length axis = i) (axes.zip begins)).elim 0
        (fromEitherEnd extent) := by
  obtain ⟨hi, -⟩ := List.getElem?_eq_some_iff.1 hextent
  obtain ⟨hlength, hall⟩ := getElem?_sliceStarts? h
  have hfound := hall i hi
  rw [lastListed?_eq_fromEitherEnd hrank hi] at hfound
  cases hlast : lastListed? (fun axis => fromEitherEnd shape.length axis = i) (axes.zip begins) with
  | none =>
    rw [hlast] at hfound
    exact ⟨0, Nat.zero_le _, hfound, rfl⟩
  | some start =>
    rw [hlast] at hfound
    have hstart : starts[i]? = startIndex? start extent := by
      rw [hfound, Option.elim_some, readStart, hextent, Option.bind_some]
    obtain ⟨n, hn⟩ : ∃ n, starts[i]? = some n := ⟨_, List.getElem?_eq_getElem (hlength ▸ hi)⟩
    obtain ⟨hle, heq⟩ := (startIndex?_eq_some_iff hword).1 (hstart ▸ hn)
    exact ⟨n, hle, hn, heq.symm⟩

/-- an axis that is too long to be counted as a signed word can only be left alone -/
theorem start_of_long (h : sliceStarts? shape axes begins = some starts) {i extent : Nat}
    (hextent : shape[i]? = some extent) (hle : 2 ^ 63 ≤ extent) (hlt : extent < 2 ^ 64) : starts[i]? = some 0 := by
  obtain ⟨hi, -⟩ := List.getElem?_eq_some_iff.1 hextent
  obtain ⟨hlength, hall⟩ := getElem?_sliceStarts? h
  have hfound := hall i hi
  cases hlast : lastListed? (fun axis => axisIndex? axis shape.length = some i) (axes.zip begins) with
  | none => rwa [hlast] at hfound
  | some start =>
    rw [hlast, Option.elim_some, readStart, hextent, Option.bind_some, startIndex?_of_negative hle hlt] at hfound
    exact absurd (hlength ▸ hi) (Nat.not_lt.2 (List.getElem?_eq_none_iff.1 hfound))

end

/-! ## Steps -/

/-- what holds of all pairs of two lists of one length holds of their entries -/
theorem forall_mem_zip_iff {α β : Type} {P : α → Prop} {Q : β → Prop} {as : List α} {bs : List β}
    (h : as.length = bs.length) : (∀ p ∈ as.zip bs, P p.1 ∧ Q p.2) ↔ (∀ a ∈ as, P a) ∧ ∀ b ∈ bs, Q b := by
  constructor
  · intro hall
    have hfst : (as.zip bs).map Prod.fst = as := List.map_fst_zip (Nat.le_of_eq h)
    have hsnd : (as.zip bs).map Prod.snd = bs := List.map_snd_zip (Nat.le_of_eq h.symm)
    refine ⟨fun a ha => ?_, fun b hb => ?_⟩
    · rw [← hfst] at ha
      obtain ⟨p, hp, rfl⟩ := List.mem_map.1 ha
      exact (hall p hp).1
    · rw [← hsnd] at hb
      obtain ⟨p, hp, rfl⟩ := List.mem_map.1 hb
      exact (hall p hp).2
  · rintro ⟨hP, hQ⟩ p hp
    obtain ⟨ha, hb⟩ := List.of_mem_zip hp
    exact ⟨hP _ ha, hQ _ hb⟩

section

variable {rank : Nat} {axes steps : List Int} {result : List Nat}

theorem setSteps_eq (rank : Nat) (pairs : List (Int × Int)) (entries : List Nat) :
    setSteps rank pairs entries = setEntries rank (fun _ => readStep) pairs entries := by
  induction pairs generalizing entries with
  | nil => rfl
  | cons p rest ih =>
    obtain ⟨axis, step⟩ := p
    by_cases hstep : step ≤ 0
    · simp [setSteps, setEntries, readStep, hstep]
    · simp [setSteps, setEntries, readStep, hstep, ih]

theorem readStep_eq_some_iff {step : Int} {n : Nat} : readStep step = some n ↔ 1 ≤ step ∧ (n : Int) = step := by
  rw [readStep, Option.ite_none_left_eq_some, Option.some.injEq]
  omega

/-- without steps all are one; otherwise they are set in turn -/
theorem sliceSteps?_eq_some_iff : sliceSteps? rank axes steps = some result ↔
    (steps = [] ∨ axes.length = steps.length) ∧
      setEntries rank (fun _ => readStep) (axes.zip steps) (List.replicate rank 1) = some result := by
  unfold sliceSteps?
  cases steps with
  | nil => simp [setEntries]
  | cons step rest => rw [if_neg (by simp), setSteps_eq, Option.ite_none_left_eq_some, not_not]; simp

theorem readsStep_iff (hrank : rank < 2 ^ 63) {axis step : Int} :
    (∃ i, axisIndex? axis rank = some i ∧ ∃ n, readStep step = some n) ↔
      (-(rank : Int) ≤ axis ∧ axis < rank) ∧ 1 ≤ step := by
  have hstep : (∃ n, readStep step = some n) ↔ 1 ≤ step := by
    simp only [readStep_eq_some_iff]
    exact ⟨fun ⟨_, h, _⟩ => h, fun h => ⟨step.toNat, h, by omega⟩⟩
  rw [exists_and_right, exists_axisIndex?_iff hrank, hstep]

theorem exists_sliceSteps?_iff (hrank : rank < 2 ^ 63) : (∃ result, sliceSteps? rank axes steps = some result) ↔
    steps = [] ∨ (axes.length = steps.length ∧ (∀ axis ∈ axes, -(rank : Int) ≤ axis ∧ axis < rank) ∧
      ∀ step ∈ steps, 1 ≤ step) := by
  simp only [sliceSteps?_eq_some_iff, exists_and_left, exists_setEntries_iff, readsStep_iff hrank]
  by_cases hnil : steps = []
  · subst hnil
    simp
  · rw [or_iff_right hnil, or_iff_right hnil]
    exact and_congr_right fun hlength =>
      forall_mem_zip_iff (P := fun axis => -(rank : Int) ≤ axis ∧ axis < rank) (Q := fun step => 1 ≤ step) hlength

theorem step_of_sliceSteps? (hrank : rank < 2 ^ 63) (h : sliceSteps? rank axes steps = some result) :
    result.length = rank ∧ ∀ i < rank, ∃ step, result[i]? = some step ∧ (step : Int) =
      (lastListed? (fun axis => fromEitherEnd rank axis = i) (axes.zip steps)).getD 1 := by
  obtain ⟨-, hset⟩ := sliceSteps?_eq_some_iff.1 h
  obtain ⟨hlength, hall⟩ := getElem?_of_setEntries List.length_replicate hset
  refine ⟨hlength, fun i hi => ?_⟩
  have hfound := hall i hi
  rw [lastListed?_eq_fromEitherEnd hrank hi, List.getElem?_replicate_of_lt hi] at hfound
  obtain ⟨n, hn⟩ : ∃ n, result[i]? = some n := ⟨_, List.getElem?_eq_getElem (hlength ▸ hi)⟩
  refine ⟨n, hn, ?_⟩
  rw [hn] at hfound
  cases hlast : lastListed? (fun axis => fromEitherEnd rank axis = i) (axes.zip steps) with
  | none =>
    rw [hlast] at hfound
    obtain rfl := Option.some.inj hfound
    rfl
  | some step =>
    rw [hlast] at hfound
    exact (readStep_eq_some_iff.1 hfound.symm).2

end

/-! ## Main result -/

/-- **Slices are exact.** Take a shape whose rank and extents all fit into a signed word. There is a start for every
axis exactly if the lists pair up, every listed axis is one of the shape, and every start lies within its axis or just
behind it. Each axis then starts where the last entry that names it says, and an axis that is not listed at its first
element.

There is a step for every axis exactly if there are no steps given, or if they pair up with axes that there are and are
all positive. Each axis then has the last step given for it, and an axis that is not listed a step of one.

In any shape, an axis whose extent is a word, but no signed one, starts at its first element, if there are starts. -/
theorem slices_are_exact :
    (∀ (shape : List Nat) (axes begins : List Int), shape.length < 2 ^ 63 → (∀ extent ∈ shape, extent < 2 ^ 63) →
      ((∃ starts, sliceStarts? shape axes begins = some starts) ↔
        axes.length = begins.length ∧ ∀ p ∈ axes.zip begins, StartsWithin shape p.1 p.2) ∧
      ∀ starts, sliceStarts? shape axes begins = some starts → starts.length = shape.length ∧
        ∀ i extent : Nat, shape[i]? = some extent → ∃ start ≤ extent, starts[i]? = some start ∧ (start : Int) =
          (lastListed? (fun axis => fromEitherEnd shape.length axis = i) (axes.zip begins)).elim 0
            (fromEitherEnd extent)) ∧
    (∀ (rank : Nat) (axes steps : List Int), rank < 2 ^ 63 →
      ((∃ result, sliceSteps? rank axes steps = some result) ↔
        steps = [] ∨ (axes.length = steps.length ∧ (∀ axis ∈ axes, -(rank : Int) ≤ axis ∧ axis < rank) ∧
          ∀ step ∈ steps, 1 ≤ step)) ∧
      ∀ result, sliceSteps? rank axes steps = some result → result.length = rank ∧
        ∀ i < rank, ∃ step, result[i]? = some step ∧ (step : Int) =
          (lastListed? (fun axis => fromEitherEnd rank axis = i) (axes.zip steps)).getD 1) ∧
    ∀ (shape : List Nat) (axes begins : List Int) (i extent : Nat), shape[i]? = some extent → 2 ^ 63 ≤ extent →
      extent < 2 ^ 64 → ∀ starts, sliceStarts? shape axes begins = some starts → starts[i]? = some 0 := by
  refine ⟨fun shape axes begins hrank hextents => ⟨exists_sliceStarts?_iff hrank hextents, fun starts h => ?_⟩,
    fun rank axes steps hrank => ⟨exists_sliceSteps?_iff hrank, fun result => step_of_sliceSteps? hrank⟩,
    fun shape axes begins i extent hextent hle hlt starts h => start_of_long h hextent hle hlt⟩
  refine ⟨(getElem?_sliceStarts? h).1, fun i extent hextent => ?_⟩
  exact start_of_sliceStarts? hrank h hextent (hextents _ (List.mem_of_getElem? hextent))

/-- an axis that is listed twice, one from the end, a start just behind an axis, and an axis that is too long -/
theorem slices_are_exact_on_two_axes :
    sliceStarts? [4, 5] [1, -2, -1] [2, 4, -1] = some [4, 4] ∧
      (∀ p ∈ ([1, -2, -1] : List Int).zip [2, 4, -1], StartsWithin [4, 5] p.1 p.2) ∧
      (∃ start : Nat, start ≤ 5 ∧ ([4, 4] : List Nat)[1]? = some start ∧ (start : Int) = fromEitherEnd 5 (-1)) ∧
      sliceSteps? 2 [1, -2, -1] [2, 1, 3] = some [1, 3] ∧
      (∃ step : Nat, ([1, 3] : List Nat)[1]? = some step ∧ (step : Int) = 3) ∧
      sliceStarts? [2 ^ 63, 5] [1] [-2] = some [0, 3] ∧ ([0, 3] : List Nat)[0]? = some 0 := by
  have hstarts : sliceStarts? [4, 5] [1, -2, -1] [2, 4, -1] = some [4, 4] := by decide
  have hsteps : sliceSteps? 2 [1, -2, -1] [2, 1, 3] = some [1, 3] := by decide
  have hlong : sliceStarts? [2 ^ 63, 5] [1] [-2] = some [0, 3] := by decide
  obtain ⟨hstart, hstep, hzero⟩ := slices_are_exact
  obtain ⟨hiff, hvalues⟩ := hstart [4, 5] [1, -2, -1] [2, 4, -1] (by decide) (by decide)
  refine ⟨hstarts, (hiff.1 ⟨_, hstarts⟩).2, ?_, hsteps, ?_, hlong, hzero [2 ^ 63, 5] [1] [-2] 0 (2 ^ 63) rfl le_rfl
    (by decide) _ hlong⟩
  · exact (hvalues _ hstarts).2 1 5 rfl
  · exact ((hstep 2 [1, -2, -1] [2, 1, 3] (by decide)).2 _ hsteps).2 1 (by decide)

end TensorGraph
