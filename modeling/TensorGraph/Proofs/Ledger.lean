/-
Every tensor that an engine hands out is given back once.

Model: a `Ledger` is an engine that numbers its successful allocations and writes down, in order, to which primitive
each numbered handle was passed. It passes everything on, so a session on a ledger is the session on the engine inside
(`map_after`), for any engine: one on which any primitive fails at any time, releasing included.

Main result: `released_exactly_once`.
-/
import TensorGraph.Proofs.Custody
import TensorGraph.Proofs.Erasure

namespace TensorGraph

/-! ## Model -/

/-- a handle with the number of the allocation that it came from -/
structure Ticketed (τ : Type) where
  handle : τ
  ticket : Nat

instance {τ : Type} [Handle τ] : Handle (Ticketed τ) where
  kind t := Handle.kind t.handle
  shape t := Handle.shape t.handle

/-- one request that was given handles -/
inductive LedgerEntry
  /-- a release, and why it failed if it did -/
  | release (ticket : Nat) (failure : Option String)
  /-- any other primitive, whether or not it failed -/
  | use (tickets : List Nat)
deriving DecidableEq, Repr

namespace LedgerEntry

/-- every handle that was passed -/
def tickets : LedgerEntry → List Nat
  | .release ticket _ => [ticket]
  | .use tickets => tickets

/-- the handle that was passed to be released -/
def released : LedgerEntry → List Nat
  | .release ticket _ => [ticket]
  | .use _ => []

end LedgerEntry

/-- an engine with what it was asked to do with the handles that it made -/
structure Ledger (σ : Type) where
  inner : σ
  /-- allocations that succeeded, which are numbered from zero -/
  issued : Nat
  /-- oldest first -/
  entries : List LedgerEntry

namespace Ledger

variable {σ τ α : Type}

/-- an engine on which nothing has happened -/
def around (engine : σ) : Ledger σ := ⟨engine, 0, []⟩

/-- every handle that was passed to be released, oldest first -/
def released (l : Ledger σ) : List Nat := l.entries.flatMap LedgerEntry.released

/-- pass a request on, and write down what came of it -/
def passing (entry : Option String → LedgerEntry) (act : EStateM String σ α) : EStateM String (Ledger σ) α := fun l =>
  match act l.inner with
  | .ok a inner => .ok a { l with inner, entries := l.entries ++ [entry none] }
  | .error why inner => .error why { l with inner, entries := l.entries ++ [entry (some why)] }

/-- pass a request on that uses handles -/
def lend (ts : List (Ticketed τ)) (act : EStateM String σ α) : EStateM String (Ledger σ) α :=
  passing (fun _ => .use (ts.map Ticketed.ticket)) act

/-- pass an allocation on, and number the handle that came back -/
def issue (act : EStateM String σ τ) : EStateM String (Ledger σ) (Ticketed τ) := fun l =>
  match act l.inner with
  | .ok t inner => .ok ⟨t, l.issued⟩ { l with inner, issued := l.issued + 1 }
  | .error why inner => .error why { l with inner }

instance [Engine σ τ] : Engine (Ledger σ) (Ticketed τ) where
  name l := Engine.name l.inner
  allocate kind shape := issue (Engine.allocate kind shape)
  release t := passing (.release t.ticket) (Engine.release t.handle)
  fill t p := lend [t] (Engine.fill t.handle p)
  read t := lend [t] (Engine.read t.handle)
  copy x y := lend [x, y] (Engine.copy x.handle y.handle)
  compute k := lend k.handles (Engine.compute (k.map Ticketed.handle))

/-! ## A ledger is the engine inside -/

theorem mapResult_passing (entry : Option String → LedgerEntry) (act : EStateM String σ α) (l : Ledger σ) :
    mapResult id Ledger.inner (passing entry act l) = act l.inner := by
  unfold passing
  cases act l.inner <;> rfl

theorem mapResult_lend (ts : List (Ticketed τ)) (act : EStateM String σ α) (l : Ledger σ) :
    mapResult id Ledger.inner (lend ts act l) = act l.inner := mapResult_passing _ act l

theorem mapResult_issue (act : EStateM String σ τ) (l : Ledger σ) :
    mapResult Ticketed.handle Ledger.inner (issue act l) = act l.inner := by
  unfold issue
  cases act l.inner <;> rfl

/-- forget everything but the engine -/
def forget [Engine σ τ] : EngineMap (Ledger σ) (Ticketed τ) σ τ where
  state := Ledger.inner
  handle := Ticketed.handle
  allocate _ _ l := mapResult_issue _ l
  release _ l := mapResult_passing _ _ l
  fill t _ l := mapResult_lend [t] _ l
  read t l := mapResult_lend [t] _ l
  copy x y l := mapResult_lend [x, y] _ l
  compute k l := mapResult_lend k.handles _ l

theorem sameView_forget [Engine σ τ] [Handle τ] : SameView (forget : EngineMap (Ledger σ) (Ticketed τ) σ τ).handle :=
  { kind := fun _ => rfl, shape := fun t => by unfold forget; rfl }

/-! ## The balance -/

/-- a balanced ledger: every handle that was issued is either held or was released, and none is both or either twice;
and no handle was passed on after it was passed to be released -/
structure Balanced (held : List (Ticketed τ)) (l : Ledger σ) : Prop where
  balance : (held.map Ticketed.ticket ++ l.released).Perm (List.range l.issued)
  orderly : l.entries.Pairwise fun earlier later => ∀ n ∈ earlier.released, n ∉ later.tickets

theorem Balanced.nodup {held : List (Ticketed τ)} {l : Ledger σ} (h : Balanced held l) :
    (held.map Ticketed.ticket ++ l.released).Nodup :=
  h.balance.nodup_iff.2 List.nodup_range

/-- a held handle was not released -/
theorem Balanced.not_released {held : List (Ticketed τ)} {l : Ledger σ} (h : Balanced held l) {t : Ticketed τ}
    (ht : t ∈ held) : t.ticket ∉ l.released := fun hr =>
  (List.disjoint_of_nodup_append h.nodup) (List.mem_map_of_mem ht) hr

theorem reached_passing (entry : Option String → LedgerEntry) (act : EStateM String σ α) (l : Ledger σ) :
    reached (passing entry act l) =
      { l with inner := reached (act l.inner), entries := l.entries ++ [entry (fault? (act l.inner))] } := by
  unfold passing
  cases act l.inner <;> rfl

/-- one more entry is in order if none of its handles was released before -/
theorem orderly_snoc {entries : List LedgerEntry} {entry : LedgerEntry}
    (h : entries.Pairwise fun earlier later => ∀ n ∈ earlier.released, n ∉ later.tickets)
    (hnew : ∀ n ∈ entry.tickets, n ∉ entries.flatMap LedgerEntry.released) :
    (entries ++ [entry]).Pairwise fun earlier later => ∀ n ∈ earlier.released, n ∉ later.tickets := by
  refine List.pairwise_append.2 ⟨h, List.pairwise_singleton _ _, fun earlier he later hl n hn hlater => ?_⟩
  rw [List.mem_singleton.1 hl] at hlater
  exact hnew n hlater (List.mem_flatMap.2 ⟨earlier, he, hn⟩)

/-- using held handles keeps the balance -/
theorem Balanced.lend {held ts : List (Ticketed τ)} {l : Ledger σ} (h : Balanced held l) (hts : ∀ t ∈ ts, t ∈ held)
    (act : EStateM String σ α) : Balanced held (reached (lend ts act l)) := by
  unfold Ledger.lend
  rw [reached_passing]
  refine ⟨?_, orderly_snoc h.orderly fun n hn => ?_⟩
  · simpa [released, LedgerEntry.released] using h.balance
  · obtain ⟨t, ht, rfl⟩ := List.mem_map.1 hn
    exact h.not_released (hts t ht)

/-- giving a held handle up keeps the balance, even if the engine fails to release it -/
theorem Balanced.release {held : List (Ticketed τ)} {l : Ledger σ} {t : Ticketed τ} (h : Balanced (t :: held) l)
    (act : EStateM String σ α) : Balanced held (reached (passing (.release t.ticket) act l)) := by
  rw [reached_passing]
  refine ⟨?_, orderly_snoc h.orderly fun n hn => ?_⟩
  · have hperm : (held.map Ticketed.ticket ++ (l.released ++ [t.ticket])).Perm
        ((t :: held).map Ticketed.ticket ++ l.released) := by
      rw [← List.append_assoc]
      exact List.perm_append_singleton _ _
    simpa [released, LedgerEntry.released] using hperm.trans h.balance
  · rw [List.mem_singleton.1 hn]
    exact h.not_released List.mem_cons_self

/-- a new handle is held, and no other handle has its number -/
theorem Balanced.issue {held : List (Ticketed τ)} {l : Ledger σ} (h : Balanced held l) (act : EStateM String σ τ) :
    Balanced (granted (issue act l) ++ held) (reached (issue act l)) := by
  unfold Ledger.issue
  cases act l.inner with
  | error why inner => exact ⟨h.balance, h.orderly⟩
  | ok t inner =>
    refine ⟨?_, h.orderly⟩
    have hrange : (l.issued :: List.range l.issued).Perm (List.range (l.issued + 1)) := by
      rw [List.range_succ]
      exact (List.perm_append_singleton _ _).symm
    exact (h.balance.cons l.issued).trans hrange

theorem balanced_around (engine : σ) : Balanced ([] : List (Ticketed τ)) (around engine) :=
  ⟨List.Perm.refl _, List.Pairwise.nil⟩

/-- a balanced ledger stays balanced, whatever is done with held handles -/
def custody (σ τ : Type) [Engine σ τ] : Custody (Ledger σ) (Ticketed τ) where
  Holds := Balanced
  of_perm hperm h := ⟨((hperm.map _).append_right _).symm.trans h.balance, h.orderly⟩
  allocate kind shape h := h.issue _
  release t h := h.release _
  fill p ht h := h.lend (by simpa using ht) _
  read ht h := h.lend (by simpa using ht) _
  copy hx hy h := h.lend (by simp [hx, hy]) _
  compute hk h := h.lend hk _

/-- releasing many handles tries each of them once and reports the first failure -/
theorem releaseAll_entries [Engine σ τ] (ts : List (Ticketed τ)) (s : Session (Ledger σ) (Ticketed τ)) :
    ∃ failures : List (Option String), failures.length = ts.length ∧
      (reached (Session.releaseAll ts s)).engine.entries =
        s.engine.entries ++ List.zipWith (fun t failure => .release t.ticket failure) ts failures ∧
      (reached (Session.releaseAll ts s)).engine.issued = s.engine.issued ∧
      fault? (Session.releaseAll ts s) = (failures.findSome? id).map (RunError.engine .release) := by
  induction ts generalizing s with
  | nil => exact ⟨[], rfl, (List.append_nil _).symm, rfl, rfl⟩
  | cons t rest ih =>
    rw [Session.releaseAll, Session.reached_both, Session.fault?_both]
    obtain ⟨failures, hlen, hentries, hissued, hfault⟩ :=
      ih (reached (Session.invoke .release (Engine.release t) s))
    rw [hentries, hissued, hfault, Session.reached_invoke, Session.fault?_invoke]
    refine ⟨fault? ((Engine.release t.handle : EStateM String σ Unit) s.engine.inner) :: failures, ?_, ?_, ?_, ?_⟩
    · simp [hlen]
    · change (reached (passing _ _ s.engine)).entries ++ _ = _
      rw [reached_passing]
      simp
    · change (reached (passing _ _ s.engine)).issued = _
      rw [reached_passing]
    · change ((fault? (passing _ _ s.engine)).map _).or _ = _
      unfold passing
      cases (Engine.release t.handle : EStateM String σ Unit) s.engine.inner <;> simp

end Ledger

/-! ## Main result -/

open Session in
/-- **Released exactly once.** Take any engine, on which any primitive may fail at any time, and any history of a
session on it, going on after faults. Keeping a ledger changes nothing: the session and the answer of every further
step are those without one. Over the whole history no handle is passed on again after it was passed to be released, so
none is released twice. When the session is cleared, every handle that was ever allocated has been released exactly
once, failing releases included: clearing tries all bound and all scratch tensors, and reports the first failure. -/
theorem released_exactly_once {σ τ : Type} [Engine σ τ] [Handle τ] (engine : σ) (history : List Step) :
    let s := (start (Ledger.around engine) : Session (Ledger σ) (Ticketed τ)).after history
    let cleared := s.next .clear
    map Ledger.forget s = (start engine).after history ∧
      (∀ step, mapResult id (map Ledger.forget) (take step s) = take step ((start engine).after history)) ∧
      (s.engine.entries.Pairwise fun earlier later => ∀ n ∈ earlier.released, n ∉ later.tickets) ∧
      s.engine.released.Nodup ∧
      (∀ n, n < cleared.engine.issued → cleared.engine.released.count n = 1) ∧
      ∃ failures : List (Option String), failures.length = s.held.length ∧
        cleared.engine.entries =
          s.engine.entries ++ List.zipWith (fun t failure => .release t.ticket failure) s.held failures ∧
        fault? (take .clear s) = (failures.findSome? id).map (RunError.engine .release) := by
  intro s cleared
  have hmap : map Ledger.forget s = (start engine).after history :=
    map_after Ledger.sameView_forget (start (Ledger.around engine)) history
  have hs : AtRest (Ledger.custody σ τ) s := after_atRest _ (Ledger.balanced_around engine) history
  have hcleared : AtRest (Ledger.custody σ τ) cleared := by
    have h := after_atRest (Ledger.custody σ τ) (Ledger.balanced_around engine) (history ++ [.clear])
    rwa [after_snoc] at h
  have hreach : cleared = reached (clear s) := by
    rw [show cleared = reached (take .clear s) from next_eq_reached s .clear, take_clear, reached_mapResult]
    rfl
  refine ⟨hmap, fun step => ?_, hs.safe.orderly, (List.nodup_append.1 hs.safe.nodup).2.1, fun n hn => ?_, ?_⟩
  · rw [← hmap]
    exact agrees_take Ledger.sameView_forget step s
  · have hbalance : cleared.engine.released.Perm (List.range cleared.engine.issued) := by
      have h := hcleared.safe.balance
      rwa [hreach, held_clear, ← hreach] at h
    rw [hbalance.count_eq]
    exact List.count_eq_one_of_mem List.nodup_range (List.mem_range.2 hn)
  · obtain ⟨failures, hlen, hentries, -, hfault⟩ := Ledger.releaseAll_entries s.held
      { s with bindings := .empty, reserved := s.reserved ++ s.bindings.keys, scratch := [] }
    refine ⟨failures, hlen, ?_, ?_⟩
    · rw [hreach]
      exact hentries
    · rw [take_clear, fault?_mapResult]
      exact hfault

end TensorGraph
