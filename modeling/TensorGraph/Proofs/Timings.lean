/-
What the figures of a run say about times.

Model: the times of an operation are those of its first run with those of later runs recorded one by one
(`OperationTimes.ofDurations`), and `Summarizes` says what they should be. A listing of entries has each of them once
(`Lists`), and is in order if every entry `Precedes` those after it.

Main results:
- `average_within_range`: counts, sums and extremes are right, and when the mean is, and when it is between the extremes;
- `slowest_is_sorted_listing`: there is one listing in order, and sorting finds it.
-/
import Mathlib.Data.String.Basic
import Mathlib.Tactic
import TensorGraph.Proofs.Composition

namespace TensorGraph

/-! ## Model -/

/-- what times should be of the durations that they are about -/
structure OperationTimes.Summarizes (durations : List Duration) (t : OperationTimes) : Prop where
  count : t.count = durations.length
  total : t.total = durations.sum
  /-- the least duration is one of them -/
  min_mem : t.min ∈ durations
  min_le : ∀ d ∈ durations, t.min ≤ d
  /-- and so is the greatest -/
  max_mem : t.max ∈ durations
  le_max : ∀ d ∈ durations, d ≤ t.max

/-- the times of a first duration and of later ones -/
def OperationTimes.ofDurations (d : Duration) (later : List Duration) : OperationTimes := later.foldl record (first d)

/-- the times of any number of durations -/
def OperationTimes.ofDurations? : List Duration → Option OperationTimes
  | [] => none
  | d :: later => some (ofDurations d later)

/-- how long the operations of a name took, the first of all operations having number `index` -/
def Clock.durations (clock : Clock) (name : String) (index : Nat) : List Operation → List Duration
  | [] => []
  | op :: rest =>
    if op.name = name then clock.operation index :: clock.durations name (index + 1) rest
    else clock.durations name (index + 1) rest

namespace RunStatistics

/-- every entry of the figures, and nothing else, once and in any order -/
structure Lists (figures : RunStatistics) (entries : List (String × OperationTimes)) : Prop where
  nodup : entries.Nodup
  mem_iff : ∀ name t, (name, t) ∈ entries ↔ figures.perOperation.find? name = some t

/-- more time comes first; of entries with the same time, the smaller name does -/
def Precedes (a b : String × OperationTimes) : Prop :=
  b.2.total < a.2.total ∨ (a.2.total = b.2.total ∧ a.1 < b.1)

instance (a b : String × OperationTimes) : Decidable (Precedes a b) := by
  unfold Precedes
  infer_instance

end RunStatistics

/-! ## The times of one operation -/

namespace OperationTimes

/-- as long as the count has no more than 32 bits, the mean is the total divided by it, rounded down -/
theorem le_average_iff {t : OperationTimes} (hpos : 1 ≤ t.count) (hlt : t.count < UInt32.size) (n : Nat) :
    n ≤ t.average ↔ n * t.count ≤ t.total := by
  rw [average, if_pos hlt]
  exact Nat.le_div_iff_mul_le hpos

theorem average_of_large {t : OperationTimes} (hle : UInt32.size ≤ t.count) : t.average = 0 :=
  if_neg (Nat.not_lt.2 hle)

/-- a larger count is right only by accident: if the total is not even as large as it -/
theorem average_eq_div_iff (t : OperationTimes) :
    t.average = t.total / t.count ↔ t.count < UInt32.size ∨ t.total < t.count := by
  rcases Nat.lt_or_ge t.count UInt32.size with hlt | hle
  · rw [average, if_pos hlt]
    exact iff_of_true rfl (Or.inl hlt)
  · have hpos : 0 < t.count := (by decide : 0 < UInt32.size).trans_le hle
    rw [average_of_large hle, eq_comm, Nat.div_eq_zero_iff_lt hpos]
    exact (or_iff_right (Nat.not_lt.2 hle)).symm

/-- the same duration over and over -/
theorem ofDurations_replicate (d n : Nat) : ofDurations d (List.replicate n d) = ⟨n + 1, (n + 1) * d, d, d⟩ := by
  induction n with
  | zero => rw [Nat.zero_add, Nat.one_mul]; rfl
  | succ n ih =>
    rw [List.replicate_succ', ofDurations, List.foldl_concat]
    rw [ofDurations] at ih
    rw [ih]
    simp [record, Nat.add_mul]

namespace Summarizes

variable {durations : List Duration} {t : OperationTimes}

theorem first (d : Duration) : Summarizes [d] (first d) where
  count := rfl
  total := List.sum_singleton.symm
  min_mem := List.mem_singleton_self d
  min_le := fun _ hd => Nat.le_of_eq (List.mem_singleton.1 hd).symm
  max_mem := List.mem_singleton_self d
  le_max := fun _ hd => Nat.le_of_eq (List.mem_singleton.1 hd)

/-- recording one more duration keeps times right -/
theorem record (h : t.Summarizes durations) (d : Duration) : (t.record d).Summarizes (durations ++ [d]) where
  count := by rw [List.length_append, List.length_singleton, ← h.count]; rfl
  total := by rw [List.sum_append, List.sum_singleton, ← h.total]; rfl
  min_mem := by
    rcases Nat.le_total t.min d with hle | hle
    · have hmin : (t.record d).min = t.min := Nat.min_eq_left hle
      exact List.mem_append_left _ (hmin ▸ h.min_mem)
    · exact List.mem_append_right _ (List.mem_singleton.2 (Nat.min_eq_right hle))
  min_le := by
    intro d' hd'
    rcases List.mem_append.1 hd' with hd' | hd'
    · exact (Nat.min_le_left t.min d).trans (h.min_le d' hd')
    · exact (List.mem_singleton.1 hd').symm ▸ Nat.min_le_right t.min d
  max_mem := by
    rcases Nat.le_total t.max d with hle | hle
    · exact List.mem_append_right _ (List.mem_singleton.2 (Nat.max_eq_right hle))
    · have hmax : (t.record d).max = t.max := Nat.max_eq_left hle
      exact List.mem_append_left _ (hmax ▸ h.max_mem)
  le_max := by
    intro d' hd'
    rcases List.mem_append.1 hd' with hd' | hd'
    · exact (h.le_max d' hd').trans (Nat.le_max_left t.max d)
    · exact (List.mem_singleton.1 hd').symm ▸ Nat.le_max_right t.max d

theorem foldl (h : t.Summarizes durations) (later : List Duration) :
    (later.foldl OperationTimes.record t).Summarizes (durations ++ later) := by
  induction later generalizing t durations with
  | nil => rwa [List.append_nil]
  | cons d rest ih =>
    rw [List.append_cons]
    exact ih (h.record d)

theorem ofDurations (d : Duration) (later : List Duration) : (ofDurations d later).Summarizes (d :: later) :=
  (first d).foldl later

theorem count_pos (h : t.Summarizes durations) : 1 ≤ t.count := by
  rw [h.count]
  exact List.length_pos_of_mem h.min_mem

/-- each duration is at least the least one, so together they are at least as many times that much -/
theorem min_mul_count_le (h : t.Summarizes durations) : t.min * t.count ≤ t.total := by
  rw [h.count, h.total, Nat.mul_comm]
  exact List.card_nsmul_le_sum durations t.min h.min_le

theorem total_le_max_mul_count (h : t.Summarizes durations) : t.total ≤ t.max * t.count := by
  rw [h.count, h.total, Nat.mul_comm]
  exact List.sum_le_card_nsmul durations t.max h.le_max

theorem average_le_max (h : t.Summarizes durations) : t.average ≤ t.max := by
  rcases Nat.lt_or_ge t.count UInt32.size with hlt | hle
  · rw [average, if_pos hlt]
    exact Nat.div_le_of_le_mul (Nat.mul_comm t.max t.count ▸ h.total_le_max_mul_count)
  · rw [average_of_large hle]
    exact Nat.zero_le t.max

/-- the least duration is zero exactly if some duration is -/
theorem min_le_zero_iff (h : t.Summarizes durations) : t.min ≤ 0 ↔ 0 ∈ durations :=
  ⟨fun hzero => Nat.le_zero.1 hzero ▸ h.min_mem, fun hmem => h.min_le 0 hmem⟩

theorem min_le_average_iff (h : t.Summarizes durations) :
    t.min ≤ t.average ↔ t.count < UInt32.size ∨ 0 ∈ durations := by
  rcases Nat.lt_or_ge t.count UInt32.size with hlt | hle
  · exact iff_of_true ((le_average_iff h.count_pos hlt t.min).2 h.min_mul_count_le) (Or.inl hlt)
  · rw [average_of_large hle, h.min_le_zero_iff]
    exact (or_iff_right (Nat.not_lt.2 hle)).symm

end Summarizes

end OperationTimes

/-! ## The times of a run -/

namespace RunStatistics

/-- what is kept under a name is what was kept there before, with the durations of the operations of that name recorded -/
theorem perOperation_tally_of_timed (materialize : Bool) (clock : Clock) (index : Nat) (figures : RunStatistics)
    (ops : List Operation) (name : String) :
    (figures.tally ⟨true, materialize⟩ clock index ops).perOperation.find? name =
      match figures.perOperation.find? name with
      | some t => some ((clock.durations name index ops).foldl .record t)
      | none => OperationTimes.ofDurations? (clock.durations name index ops) := by
  induction ops generalizing index figures with
  | nil => rw [tally]; cases figures.perOperation.find? name <;> rfl
  | cons op rest ih =>
    rw [tally, ih, Clock.durations]
    dsimp only
    rw [if_pos rfl, NameMap.upsert, NameMap.find?_insert]
    by_cases hname : name = op.name
    · rw [if_pos hname, if_pos hname.symm, ← hname]
      cases figures.perOperation.find? name <;> rfl
    · rw [if_neg hname, if_neg (Ne.symm hname)]

end RunStatistics

namespace OperationTimes

open Session in
/-- **The mean is between the extremes.** The mean is the total divided by the count, rounded down, exactly if the count
has at most 32 bits or is larger than the total: of a count that has more bits, it is zero. Of a first duration with any
number of others recorded after it, the times have the count, the sum and both extremes. The mean is never above the
greatest of them; it is not below the least exactly if there are few enough for 32 bits, or if one of them is zero. What a
timed run that went well keeps under a name are the times of the operations of that name, in order. -/
theorem average_within_range (t : OperationTimes) (d : Duration) (later : List Duration) :
    (t.average = t.total / t.count ↔ t.count < UInt32.size ∨ t.total < t.count) ∧
    (let durations := d :: later
      let recorded := ofDurations d later
      recorded.Summarizes durations ∧ recorded.average ≤ recorded.max ∧
        (recorded.min ≤ recorded.average ↔ durations.length < UInt32.size ∨ 0 ∈ durations)) ∧
    ∀ {σ τ : Type} [Engine σ τ] [Handle τ] (materialize : Bool) (clock : Clock) (g : Graph) (s s' : Session σ τ)
      (figures : RunStatistics), runGraph ⟨true, materialize⟩ clock g s = .ok figures s' →
      ∀ name, figures.perOperation.find? name = ofDurations? (clock.durations name 0 g.operations) := by
  refine ⟨average_eq_div_iff t, ?_, ?_⟩
  · intro durations recorded
    have h : recorded.Summarizes durations := .ofDurations d later
    refine ⟨h, h.average_le_max, ?_⟩
    rw [← h.count]
    exact h.min_le_average_iff
  · intro σ τ _ _ materialize clock g s s' figures hrun name
    obtain ⟨s₁, -, -, rfl⟩ := runGraph_ok hrun
    exact RunStatistics.perOperation_tally_of_timed materialize clock 0 ⟨0, 0, 0, .empty⟩ g.operations name

open Session in
/-- three durations, the mean of which is rounded down, and a run in which two of the three operations have one name -/
theorem average_within_range_of_three :
    let t := ofDurations 4 [2, 7]
    let op (name : String) : Operation :=
      ((Operation.named name .float).withInput "x" (.identifier "x")).withOutput "y" (.identifier "y")
    let g : Graph := ⟨"g", [op "copy", op "neg", op "copy"],
      .ofList [("x", ⟨"x", .float, [2], none⟩), ("y", ⟨"y", .float, [2], none⟩)]⟩
    t = ⟨3, 13, 2, 7⟩ ∧ t.average = 4 ∧ t.min ≤ t.average ∧ t.average ≤ t.max ∧
      ∃ figures s', runGraph default ⟨fun index => 10 * index + 3, 50⟩ g (start Recorder.fresh) = .ok figures s' ∧
        figures.perOperation.find? "copy" = some ⟨2, 26, 3, 23⟩ := by
  intro t op g
  obtain ⟨hmean, ⟨-, hmax, hmin⟩, hruns⟩ := average_within_range t 4 [2, 7]
  have hquotient : t.total / t.count = 4 := by decide
  refine ⟨rfl, (hmean.2 (Or.inl (by decide))).trans hquotient, hmin.2 (Or.inl (by decide)), hmax, ?_⟩
  have hok : fault? (runGraph default ⟨fun index => 10 * index + 3, 50⟩ g (start Recorder.fresh)) = none := by
    decide +kernel
  cases hrun : runGraph default ⟨fun index => 10 * index + 3, 50⟩ g (start Recorder.fresh) with
  | error e s' => rw [hrun] at hok; cases hok
  | ok figures s' => exact ⟨figures, s', rfl, hruns true _ g _ s' figures hrun "copy"⟩

/-- 2 ^ 32 durations of one nanosecond: the total divided by the count is one, but the mean is said to be zero -/
theorem average_of_long_run_is_zero :
    let t := ofDurations 1 (List.replicate 4294967295 1)
    t.count = 2 ^ 32 ∧ t.total / t.count = 1 ∧ t.min = 1 ∧ t.average = 0 ∧ ¬ t.min ≤ t.average := by
  intro t
  have ht : t = ⟨4294967295 + 1, (4294967295 + 1) * 1, 1, 1⟩ := ofDurations_replicate 1 4294967295
  rw [ht]
  decide

end OperationTimes

/-! ## The slowest operations -/

namespace RunStatistics

namespace Precedes

variable {a b c : String × OperationTimes}

theorem irrefl (a : String × OperationTimes) : ¬ Precedes a a := by
  rintro (h | ⟨-, h⟩)
  · exact Nat.lt_irrefl _ h
  · exact String.lt_irrefl _ h

theorem trans (hab : Precedes a b) (hbc : Precedes b c) : Precedes a c := by
  rcases hab with hab | ⟨hab, hnames⟩
  · exact Or.inl (hbc.elim (fun hbc => hbc.trans hab) fun hbc => hbc.1 ▸ hab)
  · rcases hbc with hbc | ⟨hbc, hnames'⟩
    · exact Or.inl (hab ▸ hbc)
    · exact Or.inr ⟨hab.trans hbc, String.lt_trans hnames hnames'⟩

theorem asymm (hab : Precedes a b) : ¬ Precedes b a := fun hba => irrefl a (hab.trans hba)

/-- entries of different names are never tied -/
theorem total_of_ne (h : a.1 ≠ b.1) : Precedes a b ∨ Precedes b a := by
  rcases Nat.lt_trichotomy a.2.total b.2.total with hlt | heq | hgt
  · exact Or.inr (Or.inl hlt)
  · rcases lt_trichotomy a.1 b.1 with hlt | hsame | hgt
    · exact Or.inl (Or.inr ⟨heq, hlt⟩)
    · exact absurd hsame h
    · exact Or.inr (Or.inr ⟨heq.symm, hgt⟩)
  · exact Or.inl (Or.inl hgt)

end Precedes

/-- what sorting compares by is the order, or equality of what is compared -/
theorem slower_eq_true_iff {a b : String × OperationTimes} :
    slower a b = true ↔ Precedes a b ∨ (a.2.total = b.2.total ∧ a.1 = b.1) := by
  simp only [slower, Precedes, Bool.or_eq_true, Bool.and_eq_true, decide_eq_true_eq, beq_iff_eq, le_iff_lt_or_eq]
  tauto

theorem slower_trans (a b c : String × OperationTimes) (hab : slower a b = true) (hbc : slower b c = true) :
    slower a c = true := by
  rw [slower_eq_true_iff] at *
  rcases hab with hab | ⟨htotal, hname⟩
  · rcases hbc with hbc | ⟨htotal', hname'⟩
    · exact Or.inl (hab.trans hbc)
    · refine Or.inl ?_
      unfold Precedes at *
      rwa [← htotal', ← hname']
  · unfold Precedes at *
    rwa [htotal, hname]

theorem slower_total (a b : String × OperationTimes) : (slower a b || slower b a) = true := by
  rw [Bool.or_eq_true, slower_eq_true_iff, slower_eq_true_iff]
  by_cases h : a.1 = b.1
  · rcases Nat.lt_trichotomy a.2.total b.2.total with hlt | heq | hgt
    · exact Or.inr (Or.inl (Or.inl hlt))
    · exact Or.inl (Or.inr ⟨heq, h⟩)
    · exact Or.inl (Or.inl (Or.inl hgt))
  · exact (Precedes.total_of_ne h).imp Or.inl Or.inl

namespace Lists

variable {figures : RunStatistics} {entries entries' : List (String × OperationTimes)}

theorem own (figures : RunStatistics) : figures.Lists figures.perOperation.entries where
  nodup := figures.perOperation.nodup_keys.of_map _
  mem_iff _ _ := NameMap.mem_entries_iff

theorem of_perm (h : figures.Lists entries) (hperm : entries'.Perm entries) : figures.Lists entries' where
  nodup := hperm.nodup_iff.2 h.nodup
  mem_iff name t := hperm.mem_iff.trans (h.mem_iff name t)

theorem perm (h : figures.Lists entries) (h' : figures.Lists entries') : entries.Perm entries' :=
  (List.perm_ext_iff_of_nodup h.nodup h'.nodup).2 fun ⟨name, t⟩ => (h.mem_iff name t).trans (h'.mem_iff name t).symm

/-- entries of one name are one entry -/
theorem eq_of_name (h : figures.Lists entries) {a b : String × OperationTimes} (ha : a ∈ entries) (hb : b ∈ entries)
    (hname : a.1 = b.1) : a = b := by
  have ha' := (h.mem_iff a.1 a.2).1 ha
  have hb' := (h.mem_iff b.1 b.2).1 hb
  rw [hname, hb'] at ha'
  exact Prod.ext hname (Option.some.inj ha').symm

/-- sorting a listing puts it in order: no two of its entries are tied -/
theorem sorted_slowestFirst (h : figures.Lists entries) : (slowestFirst entries).Pairwise Precedes := by
  have hperm : (slowestFirst entries).Perm entries := List.mergeSort_perm entries slower
  have hsorted : (slowestFirst entries).Pairwise fun a b => slower a b = true :=
    List.pairwise_mergeSort slower_trans slower_total entries
  have hdistinct : (slowestFirst entries).Nodup := hperm.nodup_iff.2 h.nodup
  refine (hsorted.and hdistinct).imp_of_mem fun {a b} ha hb ⟨hslower, hne⟩ => ?_
  rcases slower_eq_true_iff.1 hslower with hprecedes | ⟨-, hname⟩
  · exact hprecedes
  · exact absurd (h.eq_of_name (hperm.mem_iff.1 ha) (hperm.mem_iff.1 hb) hname) hne

/-- there is only one listing in order -/
theorem eq_of_sorted (h : figures.Lists entries) (h' : figures.Lists entries') (hsorted : entries.Pairwise Precedes)
    (hsorted' : entries'.Pairwise Precedes) : entries = entries' :=
  (h.perm h').eq_of_pairwise (fun _ _ _ _ hab hba => absurd hba hab.asymm) hsorted hsorted'

end Lists

/-- **The slowest operations.** They are listed with every entry of the figures once, those with more time first and, of
entries with the same time, those with smaller names. No other listing is in this order, so it does not matter in which
order the entries are come by before they are sorted, and figures that keep the same under every name have the same
listing. -/
theorem slowest_is_sorted_listing (figures : RunStatistics) :
    figures.Lists figures.slowest ∧ figures.slowest.Pairwise Precedes ∧
    (∀ listing, figures.Lists listing → listing.Pairwise Precedes → listing = figures.slowest) ∧
    (∀ entries, figures.Lists entries → slowestFirst entries = figures.slowest) ∧
    ∀ figures' : RunStatistics, (∀ name, figures'.perOperation.find? name = figures.perOperation.find? name) →
      figures'.slowest = figures.slowest := by
  have hentries : figures.Lists figures.perOperation.entries := .own figures
  have hlists : figures.Lists figures.slowest := hentries.of_perm (List.mergeSort_perm _ slower)
  have hsorted : figures.slowest.Pairwise Precedes := hentries.sorted_slowestFirst
  refine ⟨hlists, hsorted, fun listing h hs => h.eq_of_sorted hlists hs hsorted, fun entries h => ?_,
    fun figures' hsame => ?_⟩
  · have hsort : figures.Lists (slowestFirst entries) := h.of_perm (List.mergeSort_perm _ slower)
    exact hsort.eq_of_sorted hlists h.sorted_slowestFirst hsorted
  · rw [slowest, slowest, NameMap.ext_find? hsame]

/-- three operations, two of which took the same time, come by in an order of no meaning -/
theorem slowest_is_sorted_listing_of_tie :
    let relu : String × OperationTimes := ("relu", ⟨1, 5, 5, 5⟩)
    let conv : String × OperationTimes := ("conv", ⟨2, 50, 20, 30⟩)
    let add : String × OperationTimes := ("add", ⟨1, 5, 5, 5⟩)
    let figures : RunStatistics := ⟨4, 9, 70, .ofList [relu, conv, add]⟩
    figures.slowest = [conv, add, relu] ∧ slowestFirst [relu, conv, add] = [conv, add, relu] := by
  intro relu conv add figures
  have hlists : figures.Lists [relu, conv, add] :=
    ⟨by decide +kernel, fun _ _ => (NameMap.find?_ofList_eq_some_iff (by decide +kernel)).symm⟩
  have hperm : [conv, add, relu].Perm [relu, conv, add] := by decide +kernel
  obtain ⟨-, -, hunique, hany, -⟩ := slowest_is_sorted_listing figures
  have hslowest : [conv, add, relu] = figures.slowest :=
    hunique _ (hlists.of_perm hperm) (by decide +kernel)
  exact ⟨hslowest.symm, (hany _ hlists).trans hslowest.symm⟩

end RunStatistics

end TensorGraph
