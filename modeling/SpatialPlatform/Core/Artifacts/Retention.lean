import SpatialPlatform.Core.Artifacts.StoreState
import SpatialPlatform.Lib.Machine

/-!
# What a write promises

`Put` returns the hash under which a payload can be read from then on. A
`Ledger` keeps, next to the store, the promises that earlier calls have made; a
promise ends when its payload file is corrupted on disk.

* `retention_iff` — over every sequence of operations, all promises are kept
  exactly when no `Put` finds its hash indexed, or its file present, without an
  intact payload, and no collection finds a promised hash without its index row.
-/

namespace SpatialPlatform.Core

open SpatialPlatform.Lib

/-- The store, with the hashes and payloads that `Put` has promised. -/
structure Ledger where
  store : StoreState
  promised : List (String × List UInt8) := []

namespace Ledger

/-- The promises after an operation. -/
def promisedAfter (ledger : Ledger) : StoreOp → List (String × List UInt8)
  | .put payload manifest generated =>
      match (ledger.store.put payload manifest generated).1 with
      | .ok result => (result.contentHash, payload) :: ledger.promised
      | .error _ => ledger.promised
  | .corrupt contentHash _ => ledger.promised.filter (·.1 ≠ contentHash)
  | _ => ledger.promised

/-- The operations of a project. -/
def operations : Actions Ledger StoreOp where
  step op ledger := (op.step ledger.store).map (⟨·, ledger.promisedAfter op⟩)

/-- The store of a new project. -/
def fresh (readOnly : Bool) : Ledger := { store := { readOnly } }

/-- Every promised payload is what `Get` returns for its hash. -/
def Kept (ledger : Ledger) : Prop :=
  ∀ promise ∈ ledger.promised, (ledger.store.get promise.1).1 = .ok (some promise.2)

/-- After the operation every promise is kept. -/
def KeptAfter (op : StoreOp) (ledger : Ledger) : Prop :=
  ∀ ledger', operations.step op ledger = some ledger' → ledger'.Kept

/-- What the operation relies on: a `Put` that writes no payload file on the
file that is there, a collection on the rows of the promised hashes. -/
def Relies : StoreOp → Ledger → Prop
  | .put payload _ _, ledger =>
      (ledger.store.isReferenced (sha256Hex payload) ∨
        (¬ ledger.store.readOnly ∧ (ledger.store.payloads.lookup (sha256Hex payload)).isSome)) →
      ledger.store.payloads.lookup (sha256Hex payload) = some payload
  | .garbageCollect dryRun, ledger =>
      ¬ dryRun → ∀ promise ∈ ledger.promised, ledger.store.isReferenced promise.1
  | _, _ => True

/-- The payload of every promise is on disk, under its digest. -/
def Intact (ledger : Ledger) : Prop :=
  ∀ promise ∈ ledger.promised, ledger.store.payloads.lookup promise.1 = some promise.2 ∧
    sha256Hex promise.2 = promise.1

theorem kept_iff_intact (ledger : Ledger) : ledger.Kept ↔ ledger.Intact :=
  forall₂_congr fun _ _ => StoreState.get_eq_ok_some

theorem Intact.of_store {ledger : Ledger} (h : ledger.Intact) {store : StoreState}
    (hpayloads : ∀ promise ∈ ledger.promised,
      store.payloads.lookup promise.1 = ledger.store.payloads.lookup promise.1) :
    Intact { ledger with store } := by
  intro promise hpromise
  rw [hpayloads promise hpromise]
  exact h promise hpromise

/-- A payload written under a hash leaves the files of promised payloads alone. -/
theorem Intact.lookup_withPayload {ledger : Ledger} (h : ledger.Intact) (payload : List UInt8) :
    ∀ promise ∈ ledger.promised, (ledger.store.withPayload payload).payloads.lookup promise.1 =
      ledger.store.payloads.lookup promise.1 := by
  intro promise hpromise
  unfold StoreState.withPayload
  split
  · rfl
  · next hnew =>
    apply AList.lookup_insert_ne
    intro heq
    apply hnew
    rw [← heq, (h promise hpromise).1]
    rfl

theorem lookup_withPayload_self (store : StoreState) (payload : List UInt8) :
    (store.withPayload payload).payloads.lookup (sha256Hex payload) = some payload ↔
      ((store.payloads.lookup (sha256Hex payload)).isSome →
        store.payloads.lookup (sha256Hex payload) = some payload) := by
  unfold StoreState.withPayload
  split
  · next hpresent => simp [hpresent]
  · next hnew => simp [hnew]

/-- `Put` keeps all promises, its own included, when it relies on an intact file. -/
theorem keptAfter_put_iff {ledger : Ledger} (h : ledger.Intact) (payload : List UInt8)
    (manifest : ArtifactManifest) (generated : Uuid) :
    KeptAfter (.put payload manifest generated) ledger ↔
      Relies (.put payload manifest generated) ledger := by
  have hold := h.lookup_withPayload payload
  -- the promises after a `Put` that succeeds: the old ones and its own
  have hcons : ∀ store : StoreState, (∀ promise ∈ ledger.promised,
      store.payloads.lookup promise.1 = ledger.store.payloads.lookup promise.1) →
      (Kept ⟨store, (sha256Hex payload, payload) :: ledger.promised⟩ ↔
        store.payloads.lookup (sha256Hex payload) = some payload) := by
    intro store hstore
    rw [kept_iff_intact]
    constructor
    · intro hintact
      exact (hintact _ List.mem_cons_self).1
    · intro hself promise hpromise
      rcases List.mem_cons.mp hpromise with rfl | hpromise
      · exact ⟨hself, rfl⟩
      · exact ⟨(hstore promise hpromise).trans (h promise hpromise).1, (h promise hpromise).2⟩
  rcases ledger.store.put_cases payload manifest generated with
    ⟨existing, hfind, hput⟩ | ⟨hfind, hro, e, store', hput, hpayloads, _, _⟩ |
    ⟨hfind, hro, rows, hput⟩
  · have hstep : KeptAfter (.put payload manifest generated) ledger ↔
        Kept ⟨ledger.store, (sha256Hex payload, payload) :: ledger.promised⟩ := by
      simp [KeptAfter, operations, StoreOp.step, promisedAfter, hput]
    rw [hstep, hcons _ fun _ _ => rfl]
    simp [Relies, StoreState.isReferenced, hfind]
  · have hkept : Kept { ledger with store := store' } := by
      rw [kept_iff_intact]
      apply h.of_store
      intro promise hpromise
      rw [hpayloads]
      exact hold promise hpromise
    simp [KeptAfter, operations, StoreOp.step, promisedAfter, hput, hkept, Relies, StoreState.isReferenced, hfind, hro]
  · have hstep : KeptAfter (.put payload manifest generated) ledger ↔
        Kept ⟨(ledger.store.withPayload payload).registered
          (StoreState.completed manifest (sha256Hex payload) payload.length generated) rows,
          (sha256Hex payload, payload) :: ledger.promised⟩ := by
      simp [KeptAfter, operations, StoreOp.step, promisedAfter, hput]
    rw [hstep]
    refine (hcons ((ledger.store.withPayload payload).registered _ rows) hold).trans ?_
    show (ledger.store.withPayload payload).payloads.lookup _ = _ ↔ _
    rw [lookup_withPayload_self]
    simp [Relies, StoreState.isReferenced, hfind, hro]

/-- A collection keeps all promises when none has lost its row. -/
theorem keptAfter_garbageCollect_iff {ledger : Ledger} (h : ledger.Intact) (dryRun : Bool) :
    KeptAfter (.garbageCollect dryRun) ledger ↔ Relies (.garbageCollect dryRun) ledger := by
  have hstep : KeptAfter (.garbageCollect dryRun) ledger ↔
      Kept { ledger with store := (ledger.store.garbageCollect dryRun).2 } := by
    simp [KeptAfter, operations, StoreOp.step, promisedAfter]
  rw [hstep, kept_iff_intact]
  cases dryRun with
  | true => exact ⟨fun _ hreal => absurd rfl hreal, fun _ => h⟩
  | false =>
      have hone : ∀ promise ∈ ledger.promised,
          ((ledger.store.garbageCollect false).2.payloads.lookup promise.1 = some promise.2 ∧
            sha256Hex promise.2 = promise.1 ↔ ledger.store.isReferenced promise.1 = true) := by
        intro promise hpromise
        obtain ⟨hpayload, hdigest⟩ := h promise hpromise
        rw [StoreState.lookup_payloads_collected, hpayload]
        by_cases href : ledger.store.isReferenced promise.1 = true <;> simp [href, hdigest]
      exact (forall₂_congr hone).trans ⟨fun hall _ => hall, fun hall => hall (by simp)⟩

theorem Intact.of_putInstance {ledger : Ledger} (h : ledger.Intact) (hash : String)
    (manifest : ArtifactManifest) (generated : Uuid) :
    Intact { ledger with store := (ledger.store.putInstance hash manifest generated).2 } := by
  apply h.of_store
  intro promise _
  rcases ledger.store.putInstance_cases hash manifest generated with
    ⟨_, e, hput⟩ | ⟨_, _, e, _, hput⟩ | ⟨_, _, rows, _, hput⟩
  all_goals rw [hput]
  rfl

theorem Intact.of_get {ledger : Ledger} (h : ledger.Intact) (hash : String) :
    Intact { ledger with store := (ledger.store.get hash).2 } := by
  apply h.of_store
  intro promise hpromise
  rcases ledger.store.get_cases hash with
    ⟨_, hget⟩ | ⟨_, _, _, hget⟩ | ⟨bytes, hbytes, hdigest, e, hget⟩
  · rw [hget]
  · rw [hget]
  · -- the quarantined payload is not a promised one: those have the digest of their name
    have hne : promise.1 ≠ hash := by
      intro heq
      obtain ⟨hpayload, hpromised⟩ := h promise hpromise
      rw [heq, hbytes] at hpayload
      rw [← Option.some.inj hpayload, heq] at hpromised
      exact hdigest hpromised
    rw [hget, StoreState.degrade_payloads]
    exact StoreState.lookup_quarantinePayload_ne _ _ hne

/-- A corruption ends the promises of its own file alone. -/
theorem Intact.of_corrupt {ledger : Ledger} (h : ledger.Intact) (hash : String)
    (bytes : List UInt8) :
    Intact ⟨{ ledger.store with payloads := ledger.store.payloads.insert hash bytes },
      ledger.promised.filter (·.1 ≠ hash)⟩ := by
  intro promise hpromise
  obtain ⟨hpromise, hne⟩ := List.mem_filter.mp hpromise
  refine ⟨?_, (h promise hpromise).2⟩
  show (ledger.store.payloads.insert hash bytes).lookup promise.1 = _
  rw [AList.lookup_insert_ne (by simpa using hne)]
  exact (h promise hpromise).1

/-- An operation keeps all promises when what it relies on holds, and only then. -/
theorem keptAfter_iff {ledger : Ledger} (h : ledger.Intact) (op : StoreOp) :
    KeptAfter op ledger ↔ Relies op ledger := by
  cases op with
  | put payload manifest generated => exact keptAfter_put_iff h payload manifest generated
  | garbageCollect dryRun => exact keptAfter_garbageCollect_iff h dryRun
  | putInstance hash manifest generated =>
      refine iff_of_true ?_ trivial
      intro ledger' hstep
      cases hstep
      exact (kept_iff_intact _).mpr (h.of_putInstance hash manifest generated)
  | get hash =>
      refine iff_of_true ?_ trivial
      intro ledger' hstep
      cases hstep
      exact (kept_iff_intact _).mpr (h.of_get hash)
  | corrupt hash bytes =>
      refine iff_of_true ?_ trivial
      intro ledger' hstep
      simp only [operations, StoreOp.step] at hstep
      split at hstep <;> cases hstep
      exact (kept_iff_intact _).mpr (h.of_corrupt hash bytes)

theorem intact_fresh (readOnly : Bool) : Intact (fresh readOnly) := by
  intro promise hpromise
  cases hpromise

/-- The operations that find what they rely on keep a ledger intact, so that
what each of them keeps is decided by what it finds. -/
theorem along_keptAfter_iff {ledger : Ledger} (h : Intact ledger) (ops : List StoreOp) :
    operations.Along KeptAfter ops ledger ↔ operations.Along Relies ops ledger := by
  have hstep : ∀ op ledger ledger', Intact ledger → Relies op ledger →
      operations.step op ledger = some ledger' → Intact ledger' := by
    intro op ledger ledger' h hrelies hstep
    exact (kept_iff_intact _).mp ((keptAfter_iff h op).mpr hrelies ledger' hstep)
  apply Actions.along_iff_of_invariant hstep _ h
  intro op ledger h
  exact keptAfter_iff h op

/-- Over every sequence of operations on a project, every payload is what `Get`
returns for the hash that `Put` has returned for it, from the call on and until
its file is corrupted, if and only if each operation finds what it relies on. -/
theorem retention_iff (readOnly : Bool) (ops : List StoreOp) :
    operations.Along KeptAfter ops (fresh readOnly) ↔
      operations.Along Relies ops (fresh readOnly) :=
  along_keptAfter_iff (intact_fresh readOnly) ops

/-- A payload that `Get` has quarantined is still indexed, so that a second
`Put` of it writes no file and returns a hash that has none. -/
theorem put_after_quarantine_loses :
    ¬ operations.Along KeptAfter
      [.put [] {} ⟨1⟩, .corrupt (sha256Hex []) [0], .get (sha256Hex []), .put [] {} ⟨2⟩]
      (fresh false) := by
  rw [along_keptAfter_iff (intact_fresh false)]
  -- the row written by the first `Put` outlives the payload file that `Get` moves away
  simp [Actions.Along, operations, StoreOp.step, promisedAfter, fresh, Relies,
    StoreState.isReferenced, StoreState.put, StoreState.completed, StoreState.registration,
    StoreState.indexRow, StoreState.commit, StoreState.performAll, StoreState.perform,
    StoreState.get, StoreState.quarantinePayload, ArtifactTable.findByHash, ArtifactTable.empty,
    ArtifactTable.upsert, ArtifactTable.withoutKeysOf, sha256Hex_zero_ne_empty]

end Ledger

end SpatialPlatform.Core
