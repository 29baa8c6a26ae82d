/-
Finite maps from names, kept in the order of the names.

Model: a list of entries with strictly increasing names (order by code point), so that two maps with the same entries
are the same value and every listing is sorted.

Main results: `find?_insert` says what a look-up sees after an insertion, `mem_entries_iff` that look-up and listing
agree, and `ext_find?` that a map is what its look-ups say.
-/

namespace TensorGraph

/-- a finite map from names, in ascending order of name -/
structure NameMap (α : Type) where
  entries : List (String × α)
  sorted : entries.Pairwise (fun a b => a.1 < b.1)
deriving DecidableEq, Repr

namespace NameMap

variable {α β : Type}

/-! ## Model -/

def empty : NameMap α := ⟨[], .nil⟩

instance : Inhabited (NameMap α) := ⟨empty⟩

/-- place an entry before the first larger name, replacing an entry of the same name -/
def insertEntry (name : String) (x : α) : List (String × α) → List (String × α)
  | [] => [(name, x)]
  | e :: rest =>
    if name < e.1 then (name, x) :: e :: rest
    else if name = e.1 then (name, x) :: rest
    else e :: insertEntry name x rest

theorem mem_insertEntry {name : String} {x : α} {e : String × α} :
    ∀ {l : List (String × α)}, e ∈ insertEntry name x l → e = (name, x) ∨ e ∈ l
  | [], h => by simpa [insertEntry] using h
  | hd :: rest, h => by
    unfold insertEntry at h
    split at h
    · simpa using h
    · split at h
      · rcases List.mem_cons.1 h with h | h
        · exact Or.inl h
        · exact Or.inr (List.mem_cons_of_mem _ h)
      · rcases List.mem_cons.1 h with h | h
        · exact Or.inr (h ▸ List.mem_cons_self)
        · exact (mem_insertEntry h).imp id (List.mem_cons_of_mem _)

theorem lt_of_not_lt_of_ne {a b : String} (h : ¬ a < b) (hne : a ≠ b) : b < a := by
  rcases Std.Trichotomous.rel_or_eq_or_rel_swap (r := fun x y : String => x < y) (a := a) (b := b) with h1 | h1 | h1
  · exact absurd h1 h
  · exact absurd h1 hne
  · exact h1

theorem sorted_insertEntry (name : String) (x : α) :
    ∀ {l : List (String × α)}, l.Pairwise (fun a b => a.1 < b.1) →
      (insertEntry name x l).Pairwise (fun a b => a.1 < b.1)
  | [], _ => by simp [insertEntry]
  | hd :: rest, h => by
    have hp := List.pairwise_cons.1 h
    unfold insertEntry
    split
    · rename_i hlt
      refine List.pairwise_cons.2 ⟨fun e he => ?_, h⟩
      rcases List.mem_cons.1 he with rfl | he
      · exact hlt
      · exact String.lt_trans hlt (hp.1 e he)
    · split
      · rename_i heq
        exact List.pairwise_cons.2 ⟨fun e he => by simpa [heq] using hp.1 e he, hp.2⟩
      · rename_i hlt heq
        refine List.pairwise_cons.2 ⟨fun e he => ?_, sorted_insertEntry name x hp.2⟩
        rcases mem_insertEntry he with rfl | he
        · exact lt_of_not_lt_of_ne hlt heq
        · exact hp.1 e he

/-- set the value of a name -/
def insert (m : NameMap α) (name : String) (x : α) : NameMap α :=
  ⟨insertEntry name x m.entries, sorted_insertEntry name x m.sorted⟩

/-- the value of the first entry of a name -/
def findEntry (name : String) : List (String × α) → Option α
  | [] => none
  | e :: rest => if name = e.1 then some e.2 else findEntry name rest

/-- the value of a name -/
def find? (m : NameMap α) (name : String) : Option α := findEntry name m.entries

def contains (m : NameMap α) (name : String) : Bool := (m.find? name).isSome

/-- the names, in order -/
def keys (m : NameMap α) : List String := m.entries.map (·.1)

/-- the values, in order of their names -/
def values (m : NameMap α) : List α := m.entries.map (·.2)

def size (m : NameMap α) : Nat := m.entries.length

/-- later entries replace earlier ones of the same name -/
def ofList (l : List (String × α)) : NameMap α := l.foldl (fun m e => m.insert e.1 e.2) empty

/-- change every value, keeping the names -/
def map (f : α → β) (m : NameMap α) : NameMap β :=
  ⟨m.entries.map fun e => (e.1, f e.2), List.pairwise_map.2 m.sorted⟩

/-- change the value of a name, if it has one -/
def modify (m : NameMap α) (name : String) (f : α → α) : NameMap α :=
  match m.find? name with
  | some x => m.insert name (f x)
  | none => m

/-- change the value of a name, or give it a first one -/
def upsert (m : NameMap α) (name : String) (first : α) (f : α → α) : NameMap α :=
  m.insert name (match m.find? name with
    | some x => f x
    | none => first)

/-! ## Main results -/

@[simp] theorem find?_empty (name : String) : (empty : NameMap α).find? name = none := rfl

theorem findEntry_insertEntry (name key : String) (x : α) (l : List (String × α)) :
    findEntry key (insertEntry name x l) = if key = name then some x else findEntry key l := by
  induction l with
  | nil => rfl
  | cons e rest ih =>
    by_cases h1 : name < e.1
    · simp [insertEntry, findEntry, h1]
    · by_cases h2 : name = e.1
      · by_cases h3 : key = name <;> simp [insertEntry, findEntry, ← h2, h3]
      · by_cases h3 : key = e.1
        · have h4 : e.1 ≠ name := Ne.symm h2
          simp [insertEntry, findEntry, h1, h2, h3, h4]
        · simp [insertEntry, findEntry, h1, h2, h3, ih]

/-- an insertion is seen under its own name only -/
@[simp] theorem find?_insert (m : NameMap α) (name key : String) (x : α) :
    (m.insert name x).find? key = if key = name then some x else m.find? key :=
  findEntry_insertEntry name key x m.entries

theorem findEntry_eq_some_of_mem {l : List (String × α)} (hs : l.Pairwise (fun a b => a.1 < b.1)) {e : String × α}
    (he : e ∈ l) : findEntry e.1 l = some e.2 := by
  induction l with
  | nil => cases he
  | cons hd rest ih =>
    have hp := List.pairwise_cons.1 hs
    rcases List.mem_cons.1 he with rfl | he
    · simp [findEntry]
    · have hne : e.1 ≠ hd.1 := fun heq => String.lt_irrefl e.1 (by simpa [heq] using hp.1 e he)
      simp [findEntry, hne, ih hp.2 he]

theorem mem_of_findEntry_eq_some {l : List (String × α)} {name : String} {x : α} (h : findEntry name l = some x) :
    (name, x) ∈ l := by
  induction l with
  | nil => cases h
  | cons hd rest ih =>
    obtain ⟨k, y⟩ := hd
    by_cases hk : name = k
    · subst hk
      simp [findEntry] at h
      exact h ▸ List.mem_cons_self
    · exact List.mem_cons_of_mem _ (ih (by simpa [findEntry, hk] using h))

/-- look-up and listing agree -/
theorem mem_entries_iff {m : NameMap α} {name : String} {x : α} : (name, x) ∈ m.entries ↔ m.find? name = some x :=
  ⟨fun h => findEntry_eq_some_of_mem m.sorted h, mem_of_findEntry_eq_some⟩

theorem mem_keys_iff {m : NameMap α} {name : String} : name ∈ m.keys ↔ m.contains name = true := by
  simp only [keys, contains, List.mem_map, Option.isSome_iff_exists]
  constructor
  · rintro ⟨⟨k, x⟩, h, rfl⟩
    exact ⟨x, mem_entries_iff.1 h⟩
  · rintro ⟨x, h⟩
    exact ⟨(name, x), mem_entries_iff.2 h, rfl⟩

theorem sorted_keys (m : NameMap α) : m.keys.Pairwise (· < ·) := List.pairwise_map.2 m.sorted

theorem entries_ext {l₁ l₂ : List (String × α)} (h₁ : l₁.Pairwise (fun a b => a.1 < b.1))
    (h₂ : l₂.Pairwise (fun a b => a.1 < b.1)) (h : ∀ e, e ∈ l₁ ↔ e ∈ l₂) : l₁ = l₂ := by
  induction l₁ generalizing l₂ with
  | nil =>
    cases l₂ with
    | nil => rfl
    | cons b r => exact absurd ((h b).2 List.mem_cons_self) (by simp)
  | cons a r ih =>
    cases l₂ with
    | nil => exact absurd ((h a).1 List.mem_cons_self) (by simp)
    | cons b s =>
      have p₁ := List.pairwise_cons.1 h₁
      have p₂ := List.pairwise_cons.1 h₂
      have hab : a = b := by
        rcases List.mem_cons.1 ((h a).1 List.mem_cons_self) with hab | ha
        · exact hab
        · rcases List.mem_cons.1 ((h b).2 List.mem_cons_self) with hba | hb
          · exact hba.symm
          · exact absurd (String.lt_trans (p₁.1 b hb) (p₂.1 a ha)) (String.lt_irrefl _)
      subst hab
      congr 1
      refine ih p₁.2 p₂.2 fun e => ?_
      constructor
      · intro he
        rcases List.mem_cons.1 ((h e).1 (List.mem_cons_of_mem _ he)) with rfl | hs
        · exact absurd (p₁.1 _ he) (String.lt_irrefl _)
        · exact hs
      · intro he
        rcases List.mem_cons.1 ((h e).2 (List.mem_cons_of_mem _ he)) with rfl | hr
        · exact absurd (p₂.1 _ he) (String.lt_irrefl _)
        · exact hr

/-- a map is what its look-ups say -/
theorem ext_find? {m₁ m₂ : NameMap α} (h : ∀ name, m₁.find? name = m₂.find? name) : m₁ = m₂ := by
  have he : m₁.entries = m₂.entries :=
    entries_ext m₁.sorted m₂.sorted fun e => by
      obtain ⟨k, x⟩ := e
      rw [mem_entries_iff, mem_entries_iff, h]
  cases m₁
  cases m₂
  simpa using he

end NameMap

end TensorGraph
