/-
The name of a tensor in place of a literal, as far as deciding goes.

Model: `Value.Substitutes` puts a name where an operand, or an item of one, is a literal. What is looked up there is
then bound and has no number, and the literals after it are numbered one lower (`Operand.standIn`). Looking up goes
through three stretches: the literals before that place are few enough to keep their numbers, at the place itself the
two look-ups part (`Turns`), and from there on one of them has seen a literal more than the other. `Passes` covers the
first and the last stretch, and is a translation.

Main result: `exists_standsIn`, an operation with a name in place of a literal is decided as before, but for the literal
and the numbers of the later ones.
-/
import TensorGraph.Proofs.Elements
import TensorGraph.Proofs.Execution
import TensorGraph.Proofs.Readings

namespace TensorGraph

/-! ## Model -/

/-- a value and the same with a name in place of a literal: the value itself, or an item of a container -/
inductive Value.Substitutes (name : String) (l : Literal) : Value → Value → Prop
  | self {v : Value} (h : v.Spells l) : Substitutes name l v (.identifier name)
  | arrayItem {before after : List Value} {v : Value} (h : v.Spells l) :
    Substitutes name l (.array (before ++ v :: after)) (.array (before ++ .identifier name :: after))
  | tupleItem {before after : List Value} {v : Value} (h : v.Spells l) :
    Substitutes name l (.tuple (before ++ v :: after)) (.tuple (before ++ .identifier name :: after))

/-- whether a slot looks up the input under a key -/
def Slot.Takes (key : String) : Slot → Prop
  | .input k => k = key
  | .optional k _ => k = key
  | .inputList k => k = key
  | .everything => True
  | .output _ => False
  | .outputList _ => False

/-- an operand once a tensor stands in for the literal of a number -/
def Operand.standIn {τ : Type} (number : Nat) (l : Literal) (t : τ) : Operand τ → Operand τ
  | .bound u => .bound u
  | .literal n m =>
    if n = number ∧ m = l then .bound t
    else if number < n then .literal (n - 1) m
    else .literal n m

/-- a decision once a tensor stands in for the literal of a number -/
def Decision.standIn {τ : Type} (number : Nat) (l : Literal) (t : τ) (d : Decision τ) : Decision τ :=
  ⟨d.literals.eraseIdx number, d.outcome.map (Instruction.map (Operand.standIn number l t))⟩

/-- operations that are decided alike, but that a tensor stands in for the literal of a number -/
structure Operator.StandsIn {τ : Type} [Handle τ] (o : Operator) (env : String → Option τ) (number : Nat) (l : Literal)
    (t : τ) (op op' : Operation) : Prop where
  name : op'.name = op.name
  dtype : op'.dtype = op.dtype
  outputs : op'.outputs = op.outputs
  decision : o.decision env op' = (o.decision env op).standIn number l t
  /-- the literal is there, unless the operation fails -/
  sees : ∀ i, (o.decision env op).outcome = .ok i → (o.decision env op).literals[number]? = some l

namespace Lookup

variable {τ α α' : Type}

/-- look-ups that differ by the literal of a number, which was seen before or is not seen yet at the end -/
def Passes (number : Nat) (g : α → α') (x : Lookup α) (x' : Lookup α') : Prop := ∀ seen,
  seen <+: reached (x seen) ∧ (number < seen.length ∨ (reached (x seen)).length ≤ number →
    x' (seen.eraseIdx number) = mapResult g (·.eraseIdx number) (x seen))

/-- look-ups of which one sees the literal of a number after `count` others, and the other one does not -/
structure Turns (number count : Nat) (l : Literal) (g : α → α') (x : Lookup α) (x' : Lookup α') : Prop where
  apart : ∀ seen, seen.length + count = number → x' seen = mapResult g (·.eraseIdx number) (x seen)
  sees : ∀ seen a all, seen.length + count = number → x seen = .ok a all → all[number]? = some l

end Lookup

/-! ## Operands -/

namespace Operand

variable {τ : Type} {number : Nat} {l : Literal} {t : τ}

theorem standIn_self : (literal number l).standIn number l t = .bound t := if_pos ⟨rfl, rfl⟩

theorem standIn_of_lt {n : Nat} (h : n < number) (m : Literal) : (literal n m).standIn number l t = .literal n m := by
  rw [standIn, if_neg fun hn => Nat.ne_of_lt h hn.1, if_neg (Nat.not_lt.2 (Nat.le_of_lt h))]

theorem standIn_of_gt {n : Nat} (h : number < n) (m : Literal) :
    (literal n m).standIn number l t = .literal (n - 1) m := by
  rw [standIn, if_neg fun hn => Nat.ne_of_gt h hn.1, if_pos h]

/-- a scalar tensor of its kind cannot be told from a literal -/
theorem sameView_standIn [Handle τ] (number : Nat) (hkind : Handle.kind t = l.kind) (hshape : Handle.shape t = []) :
    SameView (standIn number l t) := by
  refine ⟨fun x => ?_, fun x => ?_⟩
  · cases x with
    | bound u => rfl
    | literal n m =>
      rw [standIn]
      split_ifs with h
      · exact hkind.trans (congrArg Literal.kind h.2.symm)
      · rfl
      · rfl
  · cases x with
    | bound u => rfl
    | literal n m =>
      rw [standIn]
      split_ifs
      · exact hshape
      · rfl
      · rfl

end Operand

/-! ## Before and after the literal -/

namespace Lookup

variable {τ : Type} {env : String → Option τ} {number : Nat} {l : Literal} {t : τ}

/-- nothing but the numbers of later literals changes before and after the literal -/
def passing (env : String → Option τ) (number : Nat) (l : Literal) (t : τ) :
    Translation (supply env) (supply env) (Operand.standIn number l t) where
  Rel := Passes number
  pure _ _ _ := ⟨List.prefix_refl _, fun _ => rfl⟩
  throw _ _ _ _ := ⟨List.prefix_refl _, fun _ => rfl⟩
  bind {_ _ _ _ g h x x' k k'} hx hk seen := by
    obtain ⟨hgrows, hsame⟩ := hx seen
    rw [bind_apply, bind_apply]
    cases hxs : x seen with
    | error e all =>
      rw [hxs] at hgrows hsame
      exact ⟨hgrows, fun hn => by rw [hsame hn]; rfl⟩
    | ok a all =>
      rw [hxs] at hgrows hsame
      obtain ⟨hgrows', hsame'⟩ := hk a all
      refine ⟨hgrows.trans hgrows', fun hn => ?_⟩
      have hfirst : number < seen.length ∨ all.length ≤ number := hn.imp_right (Nat.le_trans hgrows'.length_le)
      have hsecond : number < all.length ∨ (reached (k a all)).length ≤ number :=
        hn.imp_left fun hlt => Nat.lt_of_lt_of_le hlt hgrows.length_le
      rw [hsame hfirst, ← hsame' hsecond]
      rfl
  named name seen := by
    rw [supply_named, supply_named]
    cases env name <;> exact ⟨List.prefix_refl _, fun _ => rfl⟩
  literal m seen := by
    refine ⟨List.prefix_append _ _, fun hn => ?_⟩
    change EStateM.Result.ok _ _ =
      EStateM.Result.ok (Operand.standIn number l t (.literal seen.length m)) ((seen ++ [m]).eraseIdx number)
    rcases hn with hlt | hle
    · rw [Operand.standIn_of_gt hlt, List.length_eraseIdx_of_lt hlt, List.eraseIdx_append_of_lt_length hlt]
    · have hlen : (seen ++ [m]).length ≤ number := hle
      rw [List.length_append, List.length_singleton] at hlen
      rw [Operand.standIn_of_lt hlen, List.eraseIdx_of_length_le (by omega), List.eraseIdx_of_length_le (by simpa)]

/-! ## At the literal -/

namespace Sees

variable {α : Type} {x : Lookup α} {ls seen all : List Literal}

theorem length_of_ok (h : Sees x ls) {a : α} (hx : x seen = .ok a all) : all.length = seen.length + ls.length := by
  have hs := h seen
  rw [hx] at hs
  rw [show all = seen ++ ls from hs, List.length_append]

theorem length_le (h : Sees x ls) (seen : List Literal) : (reached (x seen)).length ≤ seen.length + ls.length := by
  have hs := h seen
  cases hx : x seen with
  | ok a all => exact Nat.le_of_eq (h.length_of_ok hx)
  | error e all =>
    rw [hx] at hs
    obtain ⟨part, hpart, rfl⟩ := hs
    rw [reached_error, List.length_append]
    exact Nat.add_le_add_left hpart.length_le _

end Sees

namespace Turns

variable {α α' β β' : Type} {count : Nat} {g : α → α'} {h : β → β'}

/-- what comes before sees the literals before -/
theorem before {x : Lookup α} {x' : Lookup α'} {k : α → Lookup β} {k' : α' → Lookup β'} {ls : List Literal}
    (hx : Passes number g x x') (hsees : Sees x ls) (hk : ∀ a, Turns number count l h (k a) (k' (g a))) :
    Turns number (ls.length + count) l h (x >>= k) (x' >>= k') := by
  have hok : ∀ {seen a all}, seen.length + (ls.length + count) = number → x seen = .ok a all →
      all.length + count = number := fun hn hxs => by rw [hsees.length_of_ok hxs, Nat.add_assoc, hn]
  refine ⟨fun seen hn => ?_, fun seen b all hn hb => ?_⟩
  · -- so few literals have been seen that leaving one out makes no difference
    have hsame := (hx seen).2 (Or.inr ((hsees.length_le seen).trans (by omega)))
    rw [List.eraseIdx_of_length_le (by omega)] at hsame
    rw [bind_apply, bind_apply, hsame]
    cases hxs : x seen with
    | error e all => rfl
    | ok a all =>
      have hall := hok hn hxs
      dsimp only [mapResult_ok]
      rw [List.eraseIdx_of_length_le (by omega)]
      exact (hk a).apart all hall
  · rw [bind_apply] at hb
    cases hxs : x seen with
    | error e all => rw [hxs] at hb; cases hb
    | ok a mid =>
      rw [hxs] at hb
      exact (hk a).sees mid b all (hok hn hxs) hb

/-- what comes after goes on with one literal less -/
theorem after {x : Lookup α} {x' : Lookup α'} {k : α → Lookup β} {k' : α' → Lookup β'}
    (hx : Turns number count l g x x') (hk : ∀ a, Passes number h (k a) (k' (g a))) :
    Turns number count l h (x >>= k) (x' >>= k') := by
  refine ⟨fun seen hn => ?_, fun seen b all hn hb => ?_⟩
  · rw [bind_apply, bind_apply, hx.apart seen hn]
    cases hxs : x seen with
    | error e all => rfl
    | ok a all =>
      obtain ⟨hlt, -⟩ := List.getElem?_eq_some_iff.1 (hx.sees seen a all hn hxs)
      exact (hk a all).2 (Or.inl hlt)
  · rw [bind_apply] at hb
    cases hxs : x seen with
    | error e mid => rw [hxs] at hb; cases hb
    | ok a mid =>
      rw [hxs] at hb
      have hmid := hx.sees seen a mid hn hxs
      obtain ⟨hlt, -⟩ := List.getElem?_eq_some_iff.1 hmid
      obtain ⟨rest, hrest⟩ := (hk a mid).1
      rw [show k a mid = .ok b all from hb, reached_ok] at hrest
      rw [← hrest, List.getElem?_append_left hlt, hmid]

/-- where both complain alike nothing more is seen -/
theorem throw (number count : Nat) (l : Literal) (g : α → α') (e : RunError) :
    Turns number count l g (throw e) (throw e) := by
  refine ⟨fun seen hn => ?_, fun seen a all _ h => nomatch h⟩
  rw [throw_apply, throw_apply, mapResult_error, List.eraseIdx_of_length_le (by omega)]

/-- the literal itself -/
theorem resolve (op : Operation) (key : String) {name : String} {v : Value} (hv : v.Spells l)
    (ht : env name = some t) (number : Nat) :
    Turns number 0 l (Operand.standIn number l t) ((supply env).resolve op key v)
      ((supply env).resolve op key (.identifier name)) := by
  have hliteral := Value.literal?_eq_some_iff.2 hv
  refine ⟨fun seen hn => ?_, fun seen a all hn h => ?_⟩
  · rw [resolve_of_literal hliteral, resolve_of_bound ht, mapResult_ok, ← hn, Nat.add_zero, Operand.standIn_self,
      List.eraseIdx_append_of_length_le (Nat.le_refl _), Nat.sub_self, List.eraseIdx_cons_zero, List.append_nil]
  · rw [resolve_of_literal hliteral] at h
    cases h
    rw [← hn]
    exact List.getElem?_concat_length

end Turns

/-! ## Operands in a list -/

section

variable {name : String} {v : Value}

/-- among the items of a list -/
theorem exists_turns_resolveItems (op : Operation) (key : String) (hv : v.Spells l) (ht : env name = some t)
    (before after : List Value) : ∃ count, ∀ number,
      Turns number count l (List.map (Operand.standIn number l t))
        ((supply env).resolveItems op key (before ++ v :: after))
        ((supply env).resolveItems op key (before ++ .identifier name :: after)) := by
  induction before with
  | nil =>
    refine ⟨0, fun number => (Turns.resolve op key hv ht number).after fun x => ?_⟩
    exact (passing env number l t).bind ((passing env number l t).resolveItems op key after)
      fun xs => (passing env number l t).pure (List.map _) (x :: xs)
  | cons w before ih =>
    obtain ⟨count, h⟩ := ih
    refine ⟨_, fun number => Turns.before ((passing env number l t).resolve op key w) (sees_resolve env op key w)
      fun x => (h number).after fun xs => ?_⟩
    exact (passing env number l t).pure (List.map _) (x :: xs)

/-- among the operands of an operation, under a key of its own -/
theorem exists_turns_resolveOperands (op : Operation) (key : String) {v' : Value} (hsub : v.Substitutes name l v')
    (ht : env name = some t) (before after : List (String × Value)) : ∃ count, ∀ number,
      Turns number count l (List.map (Operand.standIn number l t))
        ((supply env).resolveOperands op (before ++ (key, v) :: after))
        ((supply env).resolveOperands op (before ++ (key, v') :: after)) := by
  induction before with
  | nil =>
    have hitems : ∃ count, ∀ number, Turns number count l (List.map (Operand.standIn number l t))
        ((supply env).resolveItems op key (Supply.itemsOrSelf v))
        ((supply env).resolveItems op key (Supply.itemsOrSelf v')) := by
      cases hsub with
      | self hv =>
        have hself : Supply.itemsOrSelf v = [] ++ v :: [] := by cases hv <;> rfl
        rw [hself]
        exact exists_turns_resolveItems op key hv ht [] []
      | arrayItem hv => exact exists_turns_resolveItems op key hv ht _ _
      | tupleItem hv => exact exists_turns_resolveItems op key hv ht _ _
    obtain ⟨count, h⟩ := hitems
    refine ⟨count, fun number => (h number).after fun xs => ?_⟩
    refine (passing env number l t).bind ((passing env number l t).resolveOperands op after) fun ys => ?_
    rw [← List.map_append]
    exact (passing env number l t).pure (List.map _) (xs ++ ys)
  | cons e before ih =>
    obtain ⟨count, h⟩ := ih
    refine ⟨_, fun number => Turns.before ((passing env number l t).resolveItems op e.1 _)
      (sees_resolveItems env op e.1 _) fun xs => (h number).after fun ys => ?_⟩
    rw [← List.map_append]
    exact (passing env number l t).pure (List.map _) (xs ++ ys)

end

end Lookup

/-! ## Slots -/

/-- replacing the entry of a name leaves it where it is -/
theorem NameMap.entries_insert_of_find? {α : Type} {m : NameMap α} {name : String} {x : α} (h : m.find? name = some x)
    (y : α) : ∃ before after, m.entries = before ++ (name, x) :: after ∧
      (m.insert name y).entries = before ++ (name, y) :: after := by
  obtain ⟨entries, hsorted⟩ := m
  change ∃ before after, entries = _ ∧ insertEntry name y entries = _
  have hmem : (name, x) ∈ entries := mem_of_findEntry_eq_some h
  clear h
  induction entries with
  | nil => cases hmem
  | cons e rest ih =>
    obtain ⟨hfirst, hrest⟩ := List.pairwise_cons.1 hsorted
    rcases List.mem_cons.1 hmem with rfl | hmem
    · refine ⟨[], rest, rfl, ?_⟩
      rw [insertEntry, if_neg (String.lt_irrefl _), if_pos rfl]
      rfl
    · obtain ⟨before, after, hentries, hinsert⟩ := ih hrest hmem
      have hlt := hfirst _ hmem
      refine ⟨e :: before, after, by rw [hentries]; rfl, ?_⟩
      rw [insertEntry, if_neg fun h => String.lt_irrefl _ (String.lt_trans h hlt),
        if_neg fun h => String.lt_irrefl _ (h ▸ hlt), hinsert]
      rfl

theorem Slot.sameIn_withInput (op : Operation) {key : String} {slot : Slot} (v : Value) (h : ¬ slot.Takes key) :
    slot.SameIn op (op.withInput key v) := by
  cases slot with
  | input k => exact (op.input?_withInput key k v).trans (if_neg h)
  | output k => rfl
  | «optional» k fallback => exact congrArg (·.getD fallback) ((op.input?_withInput key k v).trans (if_neg h))
  | inputList k => exact (op.input?_withInput key k v).trans (if_neg h)
  | outputList k => rfl
  | everything => exact absurd trivial h

/-- no two slots of an operator take the same input -/
theorem Operator.signature_apart (o : Operator) (key : String) :
    o.signature.Pairwise fun slot slot' => ¬ (slot.Takes key ∧ slot'.Takes key) := by
  cases o <;> simp [signature, Slot.Takes, Slot.bias] <;> grind

/-- the slot that takes an input is the only one for which another input is looked up -/
theorem Operator.exists_slot (o : Operator) {key : String} (hkey : ∃ slot ∈ o.signature, slot.Takes key)
    (op : Operation) (v : Value) : ∃ before slot after, o.signature = before ++ slot :: after ∧ slot.Takes key ∧
      ∀ slot' ∈ before ++ after, slot'.SameIn op (op.withInput key v) := by
  obtain ⟨slot, hmem, htakes⟩ := hkey
  obtain ⟨before, after, hsplit⟩ := List.append_of_mem hmem
  refine ⟨before, slot, after, hsplit, htakes, fun slot' hmem' => Slot.sameIn_withInput op v fun htakes' => ?_⟩
  have hapart := o.signature_apart key
  rw [hsplit, List.pairwise_append] at hapart
  obtain ⟨-, hafter, hbefore⟩ := hapart
  rcases List.mem_append.1 hmem' with hmem' | hmem'
  · exact hbefore slot' hmem' slot List.mem_cons_self ⟨htakes', htakes⟩
  · exact (List.pairwise_cons.1 hafter).1 slot' hmem' ⟨htakes, htakes'⟩

namespace Lookup

section

variable {τ : Type} {env : String → Option τ} {l : Literal} {t : τ} {op : Operation} {key name : String} {v v' : Value}

/-- where one tensor or literal is expected -/
theorem exists_turns_resolve (hsub : v.Substitutes name l v') (ht : env name = some t) : ∃ count, ∀ number,
    Turns number count l (Operand.standIn number l t) ((supply env).resolve op key v)
      ((supply env).resolve op key v') := by
  refine ⟨0, fun number => ?_⟩
  cases hsub with
  | self hv => exact Turns.resolve op key hv ht number
  | arrayItem hv => exact Turns.throw ..
  | tupleItem hv => exact Turns.throw ..

/-- where an array is expected -/
theorem exists_turns_resolveList (hsub : v.Substitutes name l v') (ht : env name = some t) : ∃ count, ∀ number,
    Turns number count l (List.map (Operand.standIn number l t)) ((supply env).resolveList op key v)
      ((supply env).resolveList op key v') := by
  cases hsub with
  | self hv =>
    have hv' : v.array? = none := by cases hv <;> rfl
    refine ⟨0, fun number => ?_⟩
    rw [Supply.resolveList, hv']
    exact Turns.throw ..
  | arrayItem hv => exact exists_turns_resolveItems op key hv ht _ _
  | tupleItem hv => exact ⟨0, fun number => Turns.throw ..⟩

/-- in a slot that takes the input -/
theorem exists_turns_fillSlot (hv : op.input? key = some v) (hsub : v.Substitutes name l v') (ht : env name = some t)
    {slot : Slot} (hslot : slot.Takes key) : ∃ count, ∀ number,
      Turns number count l (Slot.Filling.map (Operand.standIn number l t) slot) ((supply env).fillSlot op slot)
        ((supply env).fillSlot (op.withInput key v') slot) := by
  have hname : (op.withInput key v').name = op.name := rfl
  have hv' : (op.withInput key v').input? key = some v' := (op.input?_withInput key key v').trans (if_pos rfl)
  cases slot with
  | input k =>
    obtain rfl : k = key := hslot
    simp only [Supply.fillSlot, hv, hv', Supply.required, pure_bind, Supply.resolve_congr hname]
    exact exists_turns_resolve hsub ht
  | output k => exact hslot.elim
  | «optional» k fallback =>
    obtain rfl : k = key := hslot
    simp only [Supply.fillSlot, hv, hv', Option.getD_some, Supply.resolve_congr hname]
    exact exists_turns_resolve hsub ht
  | inputList k =>
    obtain rfl : k = key := hslot
    simp only [Supply.fillSlot, hv, hv', Supply.required, pure_bind, Supply.resolveList_congr hname]
    exact exists_turns_resolveList hsub ht
  | outputList k => exact hslot.elim
  | everything =>
    obtain ⟨before, after, hentries, hinsert⟩ := NameMap.entries_insert_of_find? (m := op.inputs) hv v'
    have hoperands : op.operands = before ++ (key, v) :: (after ++ op.outputs.entries) := by
      rw [Operation.operands, hentries, List.append_assoc, List.cons_append]
    have hoperands' : (op.withInput key v').operands = before ++ (key, v') :: (after ++ op.outputs.entries) := by
      rw [Operation.operands, Operation.withInput]
      dsimp only
      rw [hinsert, List.append_assoc, List.cons_append]
    simp only [Supply.fillSlot, hoperands, hoperands', Supply.resolveOperands_congr hname]
    exact exists_turns_resolveOperands op key hsub ht before _

/-- in a signature in which the same is looked up for all other slots -/
theorem exists_turns_fillSlots (hv : op.input? key = some v) (hsub : v.Substitutes name l v') (ht : env name = some t)
    {slot : Slot} (hslot : slot.Takes key) (before after : List Slot)
    (hsame : ∀ slot' ∈ before ++ after, slot'.SameIn op (op.withInput key v')) : ∃ count, ∀ number,
      Turns number count l (Operands.map (Operand.standIn number l t) (before ++ slot :: after))
        ((supply env).fillSlots op (before ++ slot :: after))
        ((supply env).fillSlots (op.withInput key v') (before ++ slot :: after)) := by
  have hname : (op.withInput key v').name = op.name := rfl
  induction before with
  | nil =>
    obtain ⟨count, h⟩ := exists_turns_fillSlot hv hsub ht hslot
    have hafter : (supply env).fillSlots (op.withInput key v') after = (supply env).fillSlots op after :=
      Supply.fillSlots_congr hname hsame
    refine ⟨count, fun number => (h number).after fun x => ?_⟩
    rw [hafter]
    exact (passing env number l t).bind ((passing env number l t).fillSlots op after)
      fun xs => (passing env number l t).pure (Operands.map _ (slot :: after)) (x, xs)
  | cons first before ih =>
    obtain ⟨hfirst, hrest⟩ := List.forall_mem_cons.1 hsame
    obtain ⟨count, h⟩ := ih hrest
    refine ⟨(literalsOf (first.values op)).length + count, fun number => ?_⟩
    rw [List.cons_append, Supply.fillSlots, Supply.fillSlots, Supply.fillSlot_congr hname hfirst]
    refine Turns.before ((passing env number l t).fillSlot op first) (sees_fillSlot env op first) fun x =>
      (h number).after fun xs => ?_
    exact (passing env number l t).pure (Operands.map _ (first :: (before ++ slot :: after))) (x, xs)

end

end Lookup

/-! ## Decisions -/

/-- **Deciding with a name in place of a literal.** Put the name of a scalar tensor in place of a literal of its kind,
in an input that an operator takes. The operation is decided as before: if it fails it does so for the same reason, and
if it comes to a request, this is the same with the tensor in place of the literal and later literals numbered one
lower. -/
theorem exists_standsIn {τ : Type} [Handle τ] {o : Operator} {env : String → Option τ} {op : Operation}
    {key name : String} {v v' : Value} {l : Literal} {t : τ} (hkey : ∃ slot ∈ o.signature, slot.Takes key)
    (hv : op.input? key = some v) (hsub : v.Substitutes name l v') (ht : env name = some t)
    (hkind : Handle.kind t = l.kind) (hshape : Handle.shape t = []) :
    ∃ number, o.StandsIn env number l t op (op.withInput key v') := by
  have hsame := op.sayTheSame_withInput key v'
  obtain ⟨before, slot, after, hsplit, hslot, hothers⟩ := o.exists_slot hkey op v'
  obtain ⟨number, hturns⟩ := Lookup.exists_turns_fillSlots hv hsub ht hslot before after hothers
  rw [← hsplit] at hturns
  have happart := (hturns number).apart [] (Nat.zero_add _)
  refine ⟨number, rfl, rfl, rfl, ?_, fun i hi => ?_⟩
  · unfold Operator.decision
    rw [hsame.precheck]
    cases o.precheck op with
    | error e =>
      dsimp only [Decision.standIn]
      rw [List.eraseIdx_nil]
      rfl
    | ok u =>
      dsimp only
      rw [happart]
      cases (Lookup.supply env).fillSlots op o.signature [] with
      | error e seen => rfl
      | ok xs seen =>
        rw [mapResult_ok, Decision.standIn]
        dsimp only
        rw [hsame.plan, plan_map (Operand.sameView_standIn number hkind hshape)]
  · obtain ⟨xs, hxs, -⟩ := plan_of_decision hi
    exact (hturns number).sees [] xs _ (Nat.zero_add _) hxs

end TensorGraph
