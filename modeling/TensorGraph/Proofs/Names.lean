/-
More about name maps: their values, and maps over them.

Main results: `values_insert_perm`, a new name adds one value; `values_insert_perm_of_some`, another value for a name
takes the place of the one that it had; `eq_of_nodup_values`, distinct values tell names apart;
`find?_eq_some_iff_of_pairwise`, what is found first in a list in order; `map_insert`, a map over all values commutes
with an insertion; `ofList_entries` and `ofList_perm`, a map is what it lists, in whichever order.
-/
import Mathlib.Tactic
import TensorGraph.NameMap

namespace TensorGraph

/-! ## What is found first -/

/-- in a list in some strict order, what is found first comes before everything else that could be found -/
theorem find?_eq_some_iff_of_pairwise {α : Type} {r : α → α → Prop} (hr : ∀ a b, r a b → ¬ r b a) {l : List α}
    (h : l.Pairwise r) {p : α → Bool} {a : α} :
    l.find? p = some a ↔ a ∈ l ∧ p a = true ∧ ∀ b ∈ l, p b = true → b = a ∨ r a b := by
  constructor
  · intro hfind
    obtain ⟨hp, before, after, rfl, hbefore⟩ := List.find?_eq_some_iff_append.1 hfind
    refine ⟨List.mem_of_find?_eq_some hfind, hp, fun b hb hpb => ?_⟩
    rcases List.mem_append.1 hb with hb | hb
    · have hnot := hbefore b hb
      rw [hpb] at hnot
      cases hnot
    · rcases List.mem_cons.1 hb with rfl | hb
      · exact Or.inl rfl
      · exact Or.inr ((List.pairwise_cons.1 (List.pairwise_append.1 h).2.1).1 b hb)
  · rintro ⟨ha, hp, hfirst⟩
    obtain ⟨b, hfind⟩ := Option.isSome_iff_exists.1 (List.find?_isSome.2 ⟨a, ha, hp⟩)
    obtain ⟨hpb, before, after, rfl, hbefore⟩ := List.find?_eq_some_iff_append.1 hfind
    rw [hfind]
    rcases List.mem_append.1 ha with ha | ha
    · have hnot := hbefore a ha
      rw [hp] at hnot
      cases hnot
    · rcases List.mem_cons.1 ha with rfl | ha
      · rfl
      · -- what was found is before `a`, so it is not after it
        have hba := (List.pairwise_cons.1 (List.pairwise_append.1 h).2.1).1 a ha
        rcases hfirst b (List.mem_of_find?_eq_some hfind) hpb with rfl | hab
        · rfl
        · exact absurd hba (hr a b hab)

namespace NameMap

variable {α β : Type}

/-! ## Values -/

theorem insertEntry_perm {name : String} {x : α} {l : List (String × α)} (h : findEntry name l = none) :
    (insertEntry name x l).Perm ((name, x) :: l) := by
  induction l with
  | nil => exact List.Perm.refl _
  | cons e rest ih =>
    unfold findEntry at h
    split at h
    · cases h
    · rename_i hne
      unfold insertEntry
      split_ifs
      · exact List.Perm.refl _
      · exact ((ih h).cons e).trans (List.Perm.swap _ _ _)

/-- a new name adds its value to the values -/
theorem values_insert_perm {m : NameMap α} {name : String} (x : α) (h : m.find? name = none) :
    (m.insert name x).values.Perm (x :: m.values) :=
  (insertEntry_perm h).map _

theorem insertEntry_perm_of_some {name : String} {x y : α} {l : List (String × α)}
    (hs : l.Pairwise (fun a b => a.1 < b.1)) (h : findEntry name l = some x) :
    ((name, x) :: insertEntry name y l).Perm ((name, y) :: l) := by
  induction l with
  | nil => cases h
  | cons e rest ih =>
    have hp := List.pairwise_cons.1 hs
    unfold findEntry at h
    unfold insertEntry
    split at h
    · -- the entry that is replaced is the first one
      rename_i heq
      obtain rfl := Option.some.inj h
      rw [if_neg (heq ▸ String.lt_irrefl e.1), if_pos heq, heq]
      exact List.Perm.swap _ _ _
    · rename_i hne
      have hlt : ¬ name < e.1 := fun hlt =>
        String.lt_irrefl _ (String.lt_trans hlt (hp.1 _ (mem_of_findEntry_eq_some h)))
      rw [if_neg hlt, if_neg hne]
      exact (List.Perm.swap _ _ _).trans (((ih hp.2 h).cons e).trans (List.Perm.swap _ _ _))

/-- another value for a name takes the place of the one that it had -/
theorem values_insert_perm_of_some {m : NameMap α} {name : String} {x : α} (y : α) (h : m.find? name = some x) :
    (x :: (m.insert name y).values).Perm (y :: m.values) :=
  (insertEntry_perm_of_some (y := y) m.sorted h).map Prod.snd

theorem mem_values_of_find? {m : NameMap α} {name : String} {x : α} (h : m.find? name = some x) : x ∈ m.values :=
  List.mem_map.2 ⟨(name, x), mem_entries_iff.2 h, rfl⟩

/-- names with the same value are one name, if the values are distinct -/
theorem eq_of_nodup_values {m : NameMap α} {f : α → β} (h : (m.values.map f).Nodup)
    {name name' : String} {x x' : α} (hx : m.find? name = some x) (hx' : m.find? name' = some x') (hf : f x = f x') :
    name = name' := by
  have hmap : (m.entries.map fun e => f e.2).Nodup := by
    rwa [values, List.map_map] at h
  have heq := List.inj_on_of_nodup_map hmap (mem_entries_iff.2 hx) (mem_entries_iff.2 hx') hf
  exact congrArg Prod.fst heq

/-- a name that has a value gets another one -/
theorem insert_eq_modify {m : NameMap α} {name : String} {x : α} (h : m.find? name = some x) (f : α → α) :
    m.insert name (f x) = m.modify name f := by
  rw [modify, h]

/-! ## The first entry with a property -/

/-- the entry that is found first has the least name -/
theorem find?_entries_eq_some_iff {m : NameMap α} {p : String × α → Bool} {e : String × α} :
    m.entries.find? p = some e ↔ e ∈ m.entries ∧ p e = true ∧ ∀ e' ∈ m.entries, p e' = true → ¬ e'.1 < e.1 := by
  have hasymm : ∀ a b : String × α, a.1 < b.1 → ¬ b.1 < a.1 := fun a b hab hba =>
    String.lt_irrefl _ (String.lt_trans hab hba)
  rw [find?_eq_some_iff_of_pairwise hasymm m.sorted]
  refine and_congr_right fun he => and_congr_right fun _ => forall₃_congr fun e' he' _ => ?_
  constructor
  · rintro (rfl | hlt)
    · exact String.lt_irrefl _
    · exact hasymm _ _ hlt
  · intro hnot
    by_cases heq : e'.1 = e.1
    · -- one name has one entry
      have hsame := mem_entries_iff.1 (show (e.1, e'.2) ∈ m.entries from heq ▸ he')
      exact Or.inl (Prod.ext heq (Option.some.inj (hsame.symm.trans (mem_entries_iff.1 he))))
    · exact Or.inr (lt_of_not_lt_of_ne hnot heq)

/-! ## Maps from lists -/

theorem nodup_keys (m : NameMap α) : m.keys.Nodup := by
  refine List.Pairwise.imp (fun {a b} (hlt : a < b) (heq : a = b) => ?_) m.sorted_keys
  rw [heq] at hlt
  exact String.lt_irrefl _ hlt

theorem ofList_concat (l : List (String × α)) (e : String × α) : ofList (l ++ [e]) = (ofList l).insert e.1 e.2 := by
  rw [ofList, List.foldl_append]
  rfl

/-- a list with distinct names is a map of exactly its entries -/
theorem find?_ofList_eq_some_iff {l : List (String × α)} (h : (l.map Prod.fst).Nodup) {name : String} {x : α} :
    (ofList l).find? name = some x ↔ (name, x) ∈ l := by
  induction l using List.reverseRecOn with
  | nil => simp [ofList]
  | append_singleton l e ih =>
    rw [List.map_append, List.nodup_append'] at h
    obtain ⟨hl, -, hdisjoint⟩ := h
    rw [ofList_concat, find?_insert, List.mem_append, List.mem_singleton]
    split
    · -- the name is that of the last entry, so no other entry has it
      rename_i hname
      have hnot : (name, x) ∉ l := fun hmem =>
        hdisjoint (List.mem_map_of_mem hmem) (List.mem_singleton.2 hname)
      rw [hname] at hnot ⊢
      simp [hnot, Prod.ext_iff, eq_comm]
    · rename_i hname
      simp [ih hl, Prod.ext_iff, hname]

/-- the order of a list with distinct names does not matter -/
theorem ofList_perm {l l' : List (String × α)} (hperm : l.Perm l') (h : (l.map Prod.fst).Nodup) :
    ofList l' = ofList l := by
  have h' : (l'.map Prod.fst).Nodup := (hperm.map _).nodup_iff.1 h
  refine ext_find? fun name => Option.ext fun x => ?_
  rw [find?_ofList_eq_some_iff h', find?_ofList_eq_some_iff h, hperm.mem_iff]

/-- a map is what it lists -/
theorem ofList_entries (m : NameMap α) : ofList m.entries = m := by
  refine ext_find? fun name => Option.ext fun x => ?_
  rw [find?_ofList_eq_some_iff m.nodup_keys, mem_entries_iff]

/-! ## Maps over values -/

theorem findEntry_map (f : α → β) (name : String) (l : List (String × α)) :
    findEntry name (l.map fun e => (e.1, f e.2)) = (findEntry name l).map f := by
  induction l with
  | nil => rfl
  | cons e rest ih =>
    simp only [List.map_cons, findEntry]
    split
    · rfl
    · exact ih

@[simp] theorem find?_map (f : α → β) (m : NameMap α) (name : String) : (m.map f).find? name = (m.find? name).map f :=
  findEntry_map f name m.entries

@[simp] theorem contains_map (f : α → β) (m : NameMap α) (name : String) :
    (m.map f).contains name = m.contains name := by
  simp [contains]

@[simp] theorem values_map (f : α → β) (m : NameMap α) : (m.map f).values = m.values.map f := by
  simp [values, map, Function.comp_def]

@[simp] theorem keys_map (f : α → β) (m : NameMap α) : (m.map f).keys = m.keys := by
  simp [keys, map, Function.comp_def]

theorem map_insert (f : α → β) (m : NameMap α) (name : String) (x : α) :
    (m.insert name x).map f = (m.map f).insert name (f x) := by
  refine ext_find? fun key => ?_
  simp only [find?_map, find?_insert]
  split <;> rfl

theorem map_upsert {f : α → β} {g : α → α} {k : β → β} (h : ∀ x, f (g x) = k (f x)) (m : NameMap α) (name : String)
    (first : α) : (m.upsert name first g).map f = (m.map f).upsert name (f first) k := by
  rw [upsert, map_insert, upsert, find?_map]
  cases m.find? name with
  | none => rfl
  | some x => exact congrArg _ (h x)

@[simp] theorem map_empty (f : α → β) : (empty : NameMap α).map f = empty := rfl

theorem map_congr {m : NameMap α} {f g : α → β} (h : ∀ x ∈ m.values, f x = g x) : m.map f = m.map g := by
  refine ext_find? fun name => ?_
  rw [find?_map, find?_map]
  cases hx : m.find? name with
  | none => rfl
  | some x => exact congrArg some (h x (mem_values_of_find? hx))

end NameMap

end TensorGraph
