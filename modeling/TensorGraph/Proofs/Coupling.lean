/-
Sessions and the recorder keep the same books.

Model: `Coupled` says that held handles stand for distinct live buffers of their kind and size, that the recorder has no
other live buffers unless it fails to release them, and that its log only ever named buffers that were live at the
time. It is a custody, so it holds after every history.

Main result: `coupled_after`.
-/
import TensorGraph.Proofs.Custody
import TensorGraph.Proofs.Recording

namespace TensorGraph

/-! ## Model -/

/-- the buffers that a request needs to be there -/
def Call.uses : Call → List Nat
  | .allocate .. => []
  | .release id => [id]
  | .fill id => [id]
  | .read id => [id]
  | .copy x y => [x, y]
  | .compute kernel => kernel.handles

/-- allocated and not released, according to a log -/
def LiveIn (log : List Call) (id : Nat) : Prop :=
  (∃ kind shape, .allocate id kind shape ∈ log) ∧ .release id ∉ log

/-- a log in which every request only names buffers that were live when it was made -/
def Orderly (log : List Call) : Prop :=
  ∀ earlier c later, log = earlier ++ c :: later → ∀ id ∈ c.uses, LiveIn earlier id

/-- a recorder and the handles that somebody holds, if the primitive that always fails is `failOn` -/
structure Coupled (failOn : Option String) (held : List BufferRef) (r : Recorder) : Prop where
  failOn_eq : r.failOn = failOn
  distinct : (held.map BufferRef.id).Nodup
  live : ∀ t ∈ held, ∃ p, r.data? t.id = some p ∧ p.kind = t.kind ∧ p.length = volume t.shape
  /-- there are no other live buffers, unless they could not be released -/
  complete : failOn ≠ some Primitive.release.name → ∀ id, (r.data? id).isSome → ∃ t ∈ held, t.id = id
  logged : ∀ id, (r.data? id).isSome → LiveIn r.log.toList id
  allocated : ∀ id kind shape, .allocate id kind shape ∈ r.log.toList → id < r.buffers.size
  orderly : Orderly r.log.toList

/-! ## The log -/

theorem liveIn_snoc {log : List Call} {c : Call} {id : Nat} (h : LiveIn log id) (hc : c ≠ .release id) :
    LiveIn (log ++ [c]) id := by
  obtain ⟨⟨kind, shape, ha⟩, hr⟩ := h
  refine ⟨⟨kind, shape, List.mem_append_left _ ha⟩, fun hmem => ?_⟩
  rcases List.mem_append.1 hmem with hmem | hmem
  · exact hr hmem
  · exact hc (List.mem_singleton.1 hmem).symm

/-- an entry of a list that got one more is that one, or was there before -/
theorem append_cons_of_snoc {α : Type} {log earlier later : List α} {last c : α}
    (h : log ++ [last] = earlier ++ c :: later) :
    (earlier = log ∧ c = last) ∨ ∃ later', log = earlier ++ c :: later' := by
  rcases List.eq_nil_or_concat later with rfl | ⟨later', last', rfl⟩
  · obtain ⟨rfl, hlast⟩ := List.append_inj' h rfl
    exact Or.inl ⟨rfl, (List.cons.inj hlast).1.symm⟩
  · have h : log ++ [last] = (earlier ++ c :: later') ++ [last'] := by
      rw [h]
      simp
    exact Or.inr ⟨later', (List.append_inj' h rfl).1⟩

/-- one more request is in order if what it needs is live -/
theorem Orderly.snoc {log : List Call} {c : Call} (h : Orderly log) (hc : ∀ id ∈ c.uses, LiveIn log id) :
    Orderly (log ++ [c]) := by
  intro earlier c' later heq
  rcases append_cons_of_snoc heq with ⟨rfl, rfl⟩ | ⟨later', heq⟩
  · exact hc
  · exact h earlier c' later' heq

/-- a number that was never allocated was never named either -/
theorem Orderly.not_release {log : List Call} (h : Orderly log) {id : Nat}
    (hid : ∀ kind shape, .allocate id kind shape ∉ log) : .release id ∉ log := by
  intro hmem
  obtain ⟨earlier, later, rfl⟩ := List.append_of_mem hmem
  obtain ⟨⟨kind, shape, ha⟩, -⟩ := h earlier (.release id) later rfl id List.mem_cons_self
  exact hid kind shape (List.mem_append_left _ ha)

namespace Coupled

variable {failOn : Option String} {held : List BufferRef} {r : Recorder}

theorem of_perm {held' : List BufferRef} (hperm : held.Perm held') (h : Coupled failOn held r) :
    Coupled failOn held' r where
  failOn_eq := h.failOn_eq
  distinct := (hperm.map _).nodup_iff.1 h.distinct
  live t ht := h.live t (hperm.mem_iff.2 ht)
  complete hr id hid := (h.complete hr id hid).imp fun _ ht => ⟨hperm.mem_iff.1 ht.1, ht.2⟩
  logged := h.logged
  allocated := h.allocated
  orderly := h.orderly

/-- requests that need held handles only -/
theorem liveIn_uses (h : Coupled failOn held r) {t : BufferRef} (ht : t ∈ held) : LiveIn r.log.toList t.id := by
  obtain ⟨p, hp, -⟩ := h.live t ht
  exact h.logged t.id (by rw [hp]; rfl)

/-! ## Primitives -/

/-- a request that is only noted -/
theorem noting (h : Coupled failOn held r) {c : Call} (ha : ∀ id kind shape, c ≠ .allocate id kind shape)
    (hr : ∀ id, c ≠ .release id) (hc : ∀ id ∈ c.uses, LiveIn r.log.toList id) : Coupled failOn held (r.noting c) where
  failOn_eq := h.failOn_eq
  distinct := h.distinct
  live := h.live
  complete := h.complete
  logged id hid := by
    rw [Recorder.log_noting]
    exact liveIn_snoc (h.logged id hid) (hr id)
  allocated id kind shape hmem := by
    rw [Recorder.log_noting] at hmem
    rcases List.mem_append.1 hmem with hmem | hmem
    · exact h.allocated id kind shape hmem
    · exact absurd (List.mem_singleton.1 hmem).symm (ha id kind shape)
  orderly := by
    rw [Recorder.log_noting]
    exact h.orderly.snoc hc

/-- new contents of the same kind and length in a live buffer -/
theorem setting (h : Coupled failOn held r) {id : Nat} {old p : Payload} (hold : r.data? id = some old)
    (hfits : Recorder.fits old p = true) {c : Call} (ha : ∀ id kind shape, c ≠ .allocate id kind shape)
    (hr : ∀ id, c ≠ .release id) (hc : ∀ id ∈ c.uses, LiveIn r.log.toList id) :
    Coupled failOn held (r.setting id (some p) c) := by
  have hnoted := h.noting ha hr hc
  refine ⟨h.failOn_eq, h.distinct, fun t ht => Recorder.Backs.setting hold hfits c (h.live t ht), fun hne j hj => ?_,
    fun j hj => ?_, fun j kind shape hj => ?_, hnoted.orderly⟩
  · rw [Recorder.isSome_data?_setting hold] at hj
    exact h.complete hne j hj
  · rw [Recorder.isSome_data?_setting hold] at hj
    exact hnoted.logged j hj
  · rw [Recorder.size_setting]
    exact hnoted.allocated j kind shape hj

/-- a new buffer -/
theorem adding (h : Coupled failOn held r) {kind : ElementKind} {shape : List Nat} {p : Payload} (hkind : p.kind = kind)
    (hlen : p.length = volume shape) :
    Coupled failOn (⟨r.buffers.size, kind, shape⟩ :: held) (r.adding kind shape p) := by
  have hnew : ∀ kind shape, Call.allocate r.buffers.size kind shape ∉ r.log.toList :=
    fun kind shape hmem => Nat.lt_irrefl _ (h.allocated _ kind shape hmem)
  refine ⟨h.failOn_eq, Recorder.nodup_adding h.distinct h.live kind shape, Recorder.backs_adding h.live hkind hlen,
    fun hne j hj => ?_, fun j hj => ?_, fun j kind' shape' hj => ?_, ?_⟩
  · rw [Recorder.data?_adding] at hj
    split_ifs at hj with hid
    · exact ⟨_, List.mem_cons_self, hid.symm⟩
    · obtain ⟨t, ht, hid⟩ := h.complete hne j hj
      exact ⟨t, List.mem_cons_of_mem _ ht, hid⟩
  · rw [Recorder.data?_adding] at hj
    rw [Recorder.log_adding]
    split_ifs at hj with hid
    · rw [hid]
      refine ⟨⟨kind, shape, List.mem_append_right _ List.mem_cons_self⟩, fun hmem => ?_⟩
      rcases List.mem_append.1 hmem with hmem | hmem
      · exact h.orderly.not_release hnew hmem
      · cases List.mem_singleton.1 hmem
    · exact liveIn_snoc (h.logged j hj) (by simp)
  · rw [Recorder.log_adding] at hj
    rw [Recorder.size_adding]
    rcases List.mem_append.1 hj with hj | hj
    · exact Nat.lt_succ_of_lt (h.allocated j kind' shape' hj)
    · cases List.mem_singleton.1 hj
      exact Nat.lt_succ_self _
  · rw [Recorder.log_adding]
    exact h.orderly.snoc (by simp [Call.uses])

/-- a buffer that is released is no longer held -/
theorem releasing {t : BufferRef} (h : Coupled failOn (t :: held) r) :
    Coupled failOn held (r.setting t.id none (.release t.id)) := by
  obtain ⟨p, hp, -⟩ := h.live t List.mem_cons_self
  obtain ⟨hnotin, hdistinct⟩ := List.nodup_cons.1 h.distinct
  refine ⟨h.failOn_eq, hdistinct, fun u hu => ?_, fun hne j hj => ?_, fun j hj => ?_, fun j kind shape hj => ?_, ?_⟩
  · have hne : t.id ≠ u.id := fun hid => hnotin (hid ▸ List.mem_map_of_mem hu)
    rw [Recorder.data?_setting_of_some hp, if_neg hne]
    exact h.live u (List.mem_cons_of_mem _ hu)
  · rw [Recorder.data?_setting_of_some hp] at hj
    split_ifs at hj with hid
    · cases hj
    · obtain ⟨u, hu, rfl⟩ := h.complete hne j hj
      rcases List.mem_cons.1 hu with rfl | hu
      · exact absurd rfl hid
      · exact ⟨u, hu, rfl⟩
  · rw [Recorder.data?_setting_of_some hp] at hj
    rw [Recorder.log_setting]
    split_ifs at hj with hid
    · cases hj
    · exact liveIn_snoc (h.logged j hj) (by simpa using hid)
  · rw [Recorder.log_setting] at hj
    rw [Recorder.size_setting]
    rcases List.mem_append.1 hj with hj | hj
    · exact h.allocated j kind shape hj
    · cases List.mem_singleton.1 hj
  · rw [Recorder.log_setting]
    refine h.orderly.snoc fun id hid => ?_
    rw [List.mem_singleton.1 hid]
    exact h.liveIn_uses List.mem_cons_self

/-- a handle that could not be released is given up all the same -/
theorem abandon {t : BufferRef} (h : Coupled failOn (t :: held) r) (hr : r.Refuses .release) :
    Coupled failOn held r where
  failOn_eq := h.failOn_eq
  distinct := (List.nodup_cons.1 h.distinct).2
  live u hu := h.live u (List.mem_cons_of_mem _ hu)
  complete hne := absurd (h.failOn_eq.symm.trans hr) hne
  logged := h.logged
  allocated := h.allocated
  orderly := h.orderly

end Coupled

/-! ## Every history -/

namespace Recorder

/-- a primitive that keeps the books when it goes well keeps them anyway, since it does nothing when it fails -/
theorem Atomic.coupled {α : Type} {act : EStateM Fault Recorder α} (ha : Atomic act) {failOn : Option String}
    {held held' : List BufferRef} {r : Recorder} (h : Coupled failOn held r)
    (hok : ∀ a r', act r = .ok a r' → Coupled failOn held' r')
    (herror : ∀ f, act r = .error f r → Coupled failOn held r → Coupled failOn held' r) :
    Coupled failOn held' (reached (inWords act r)) := by
  rw [reached_inWords]
  cases hact : act r with
  | ok a r' => exact hok a r' hact
  | error f r' =>
    obtain rfl := ha r f r' hact
    exact herror f hact h

/-- the books of a recorder -/
def custody (failOn : Option String) : Custody Recorder BufferRef where
  Holds := Coupled failOn
  of_perm hperm h := h.of_perm hperm
  allocate {held r} kind shape h := by
    rw [engine_allocate, inWords_apply]
    cases ha : Recorder.allocate kind shape r with
    | ok t r' =>
      obtain ⟨-, rfl, zeros, hkind, hlen, rfl⟩ := allocate_ok ha
      exact h.adding hkind hlen
    | error f r' =>
      obtain rfl := atomic_allocate kind shape r f r' ha
      exact h
  release {held r} t h := by
    refine (atomic_release t).coupled h (fun _ r' hr => ?_) fun f hr _ => ?_
    · obtain ⟨-, -, rfl⟩ := release_ok hr
      exact h.releasing
    · by_cases hrefuses : r.Refuses .release
      · exact h.abandon hrefuses
      · obtain ⟨p, hp, -⟩ := h.live t List.mem_cons_self
        rw [release_apply hrefuses hp] at hr
        cases hr
  fill {held r t} p ht h := by
    refine (atomic_fill t p).coupled h (fun _ r' hf => ?_) fun _ _ h => h
    obtain ⟨-, old, hold, hfits, rfl⟩ := fill_ok hf
    refine h.setting hold hfits (by simp) (by simp) fun id hid => ?_
    rw [List.mem_singleton.1 hid]
    exact h.liveIn_uses ht
  read {held r t} ht h := by
    refine (atomic_read t).coupled h (fun p r' hr => ?_) fun _ _ h => h
    obtain ⟨-, -, rfl⟩ := read_ok hr
    refine h.noting (by simp) (by simp) fun id hid => ?_
    rw [List.mem_singleton.1 hid]
    exact h.liveIn_uses ht
  copy {held r x y} hx hy h := by
    refine (atomic_copy x y).coupled h (fun _ r' hc => ?_) fun _ _ h => h
    obtain ⟨-, source, target, -, htarget, hfits, rfl⟩ := copy_ok hc
    refine h.setting htarget (fits_symm hfits) (by simp) (by simp) fun id hid => ?_
    rcases List.mem_pair.1 hid with rfl | rfl
    · exact h.liveIn_uses hx
    · exact h.liveIn_uses hy
  compute {held r k} hk h := by
    refine (atomic_compute k).coupled h (fun _ r' hc => ?_) fun _ _ h => h
    obtain ⟨-, rfl⟩ := compute_ok hc
    refine h.noting (by simp) (by simp) fun id hid => ?_
    rw [Call.uses, Kernel.handles_map] at hid
    obtain ⟨t, ht, rfl⟩ := List.mem_map.1 hid
    exact h.liveIn_uses (hk t ht)

end Recorder

theorem coupled_fresh (failOn : Option String) : Coupled failOn [] ⟨#[], #[], failOn⟩ where
  failOn_eq := rfl
  distinct := List.nodup_nil
  live t ht := nomatch ht
  complete _ id hid := by simp [Recorder.data?] at hid
  logged id hid := by simp [Recorder.data?] at hid
  allocated id kind shape hmem := nomatch hmem
  orderly earlier c later heq := by simp at heq

namespace Session

/-- a session on a recorder that just came to life -/
def fresh (failOn : Option String) : Session Recorder BufferRef := start ⟨#[], #[], failOn⟩

/-- **The same books.** After every history the handles of a session are live buffers of their kind and size, all
different, and no scratch tensor is left. -/
theorem coupled_after (failOn : Option String) (history : List Step) :
    Coupled failOn ((fresh failOn).after history).held ((fresh failOn).after history).engine ∧
      ((fresh failOn).after history).scratch = [] := by
  have h := after_atRest (Recorder.custody failOn) (coupled_fresh failOn) history
  exact ⟨h.safe, h.scratch⟩

end Session

end TensorGraph
