import SpatialPlatform.Core.Artifacts.StoreState
import SpatialPlatform.Lib.Machine

/-!
# Provenance edges

A call that registers an artifact records an edge from each of its inputs, after
payload, manifest and row. Each of these writes lasts on its own, and the
process may stop between any two of them.

* `edges_recorded_iff` — over every sequence of calls, with any of them stopped
  on the way, the edges of all calls that have returned are in the table exactly
  when no `Put` finds its hash indexed while an edge from one of its inputs is
  missing.
-/

namespace SpatialPlatform.Core

open SpatialPlatform.Lib

namespace StoreState

/-! ## Edges

A list of writes that are all accepted leaves every edge among them in the
table: induction over the list, with the store as its parameter. -/

/-- `artifact_dependencies` has a row for the pair. -/
def HasEdge (store : StoreState) (input output : String) : Prop :=
  ∃ d ∈ store.dependencies, d.inputHash = input ∧ d.outputHash = output

/-- A write that is accepted keeps the edges and adds its own. -/
theorem hasEdge_perform {store store' : StoreState} {write : Write} {input output : String}
    (h : store.perform write = .ok store') :
    store'.HasEdge input output ↔ store.HasEdge input output ∨
      ∃ role, write = .dependency ⟨input, output, role⟩ := by
  cases write with
  | payload hash bytes =>
      cases h
      simp [HasEdge]
  | manifest manifest =>
      cases h
      simp [HasEdge]
  | row row =>
      simp only [perform] at h
      split at h <;> cases h
      simp [HasEdge]
  | dependency d =>
      simp only [perform] at h
      split at h <;> cases h
      constructor
      · rintro ⟨e, he, hin, hout⟩
        rcases List.mem_append.mp he with hold | hnew
        · exact .inl ⟨e, (List.mem_filter.mp hold).1, hin, hout⟩
        · rw [List.mem_singleton.mp hnew] at hin hout
          subst hin hout
          exact .inr ⟨d.role, rfl⟩
      · intro h
        by_cases hkey : d.inputHash = input ∧ d.outputHash = output
        · exact ⟨d, by simp, hkey⟩
        · rcases h with ⟨e, he, hin, hout⟩ | ⟨role, hd⟩
          · -- the row that is replaced has both columns of the new one
            refine ⟨e, List.mem_append_left _ (List.mem_filter.mpr ⟨he, ?_⟩), hin, hout⟩
            grind
          · cases hd
            exact absurd ⟨rfl, rfl⟩ hkey

theorem HasEdge.performAll {store : StoreState} {input output : String}
    (h : store.HasEdge input output) (writes : List Write) :
    (performAll writes store).2.HasEdge input output := by
  induction writes generalizing store with
  | nil => exact h
  | cons write writes ih =>
      unfold StoreState.performAll
      cases hwrite : store.perform write with
      | error e => exact h
      | ok store' => exact ih ((hasEdge_perform hwrite).mpr (.inl h))

/-- When all writes have been made, every edge among them is in the table. -/
theorem hasEdge_of_performAll {store store' : StoreState} {writes : List Write}
    (h : performAll writes store = (none, store')) {input output role : String}
    (hmem : .dependency ⟨input, output, role⟩ ∈ writes) : store'.HasEdge input output := by
  induction writes generalizing store with
  | nil => cases hmem
  | cons write writes ih =>
      unfold performAll at h
      cases hwrite : store.perform write with
      | error e =>
          rw [hwrite] at h
          cases h
      | ok next =>
          rw [hwrite] at h
          rcases List.mem_cons.mp hmem with rfl | hmem
          · have hedge : next.HasEdge input output := (hasEdge_perform hwrite).mpr (.inr ⟨role, rfl⟩)
            have hlast := hedge.performAll writes
            rwa [show performAll writes next = (none, store') from h] at hlast
          · exact ih h hmem

theorem mem_registration {manifest : ArtifactManifest} {input : String}
    (h : input ∈ manifest.inputArtifactHashes) :
    .dependency ⟨input, manifest.contentHash, "input"⟩ ∈ registration manifest :=
  List.mem_append_right _ (List.mem_map_of_mem h)

end StoreState

/-! ## Calls

A call decides on its writes before it makes the first one. So a call that stops
has made a prefix of them, and one that returns has made all, unless it
deduplicates and makes none. -/

/-- A call that writes an artifact. -/
inductive WriteCall where
  | put (payload : List UInt8) (manifest : ArtifactManifest) (generated : Uuid)
  | putInstance (contentHash : String) (manifest : ArtifactManifest) (generated : Uuid)

namespace WriteCall

/-- The input hashes that the manifest of the call lists. -/
def inputs : WriteCall → List String
  | put _ manifest _ => manifest.inputArtifactHashes
  | putInstance _ manifest _ => manifest.inputArtifactHashes

/-- What the call decides before it writes: its writes in order, and its result after the last. -/
def plan (store : StoreState) :
    WriteCall → Except ProjectError (List StoreState.Write × ArtifactWriteResult)
  | put payload manifest generated =>
      let hash := sha256Hex payload
      match store.artifacts.findByHash hash with
      | some existing => .ok ([], ⟨hash, existing.artifactId, true⟩)
      | none =>
          let manifest := StoreState.completed manifest hash payload.length generated
          let payloadWrite :=
            if (store.payloads.lookup hash).isSome then []
            else [StoreState.Write.payload hash payload]
          .ok (payloadWrite ++ StoreState.registration manifest, ⟨hash, manifest.artifactUuid, false⟩)
  | putInstance existingContentHash manifest generated =>
      match store.payloads.lookup existingContentHash with
      | none => .error ⟨.artifactMissing, "shared payload not in store: " ++ existingContentHash⟩
      | some bytes =>
          let manifest := StoreState.completed manifest existingContentHash bytes.length generated
          .ok (StoreState.registration manifest, ⟨existingContentHash, manifest.artifactUuid, true⟩)

/-- The call, from beginning to end. -/
def run (call : WriteCall) (store : StoreState) :
    Except ProjectError ArtifactWriteResult × StoreState :=
  match call.plan store with
  | .error e => (.error e, store)
  | .ok (writes, result) => store.commit writes result

/-- The store when the process stops after the first `k` writes of the call. -/
def stopped (call : WriteCall) (k : Nat) (store : StoreState) : StoreState :=
  match call.plan store with
  | .error _ => store
  | .ok (writes, _) => (StoreState.performAll (writes.take k) store).2

theorem run_put (store : StoreState) (payload : List UInt8) (manifest : ArtifactManifest)
    (generated : Uuid) :
    (put payload manifest generated).run store = store.put payload manifest generated := by
  cases hfind : store.artifacts.findByHash (sha256Hex payload) with
  | some existing =>
      simp only [run, plan, StoreState.put, hfind]
      rfl
  | none => simp only [run, plan, StoreState.put, hfind]

theorem run_putInstance (store : StoreState) (hash : String) (manifest : ArtifactManifest)
    (generated : Uuid) :
    (putInstance hash manifest generated).run store =
      store.putInstance hash manifest generated := by
  cases hpayload : store.payloads.lookup hash <;>
    simp only [run, plan, StoreState.putInstance, hpayload]

theorem hasEdge_run {store : StoreState} {input output : String}
    (h : store.HasEdge input output) (call : WriteCall) :
    (call.run store).2.HasEdge input output := by
  unfold run
  rcases call.plan store with e | ⟨writes, result⟩
  · exact h
  · have hlast := h.performAll writes
    show (store.commit writes result).2.HasEdge input output
    unfold StoreState.commit
    rcases hall : StoreState.performAll writes store with ⟨_ | e, store'⟩ <;>
      rw [hall] at hlast <;> exact hlast

theorem hasEdge_stopped {store : StoreState} {input output : String}
    (h : store.HasEdge input output) (call : WriteCall) (k : Nat) :
    (call.stopped k store).HasEdge input output := by
  unfold stopped
  rcases call.plan store with e | ⟨writes, result⟩
  · exact h
  · exact h.performAll _

/-- `Put` finds its hash indexed, so that it writes nothing. -/
def Deduplicates (store : StoreState) : WriteCall → Prop
  | put payload _ _ => store.isReferenced (sha256Hex payload)
  | putInstance _ _ _ => False

/-- A call that deduplicates leaves the store alone. -/
theorem run_of_deduplicates {store store' : StoreState} {call : WriteCall}
    {result : ArtifactWriteResult} (h : call.Deduplicates store)
    (hrun : call.run store = (.ok result, store')) : store' = store := by
  cases call with
  | putInstance => exact h.elim
  | put payload manifest generated =>
      obtain ⟨existing, hexisting⟩ := Option.isSome_iff_exists.mp h
      rw [run_put, StoreState.put, hexisting] at hrun
      cases hrun
      rfl

/-- Any other call that returns has recorded all its edges. -/
theorem hasEdge_of_run {store store' : StoreState} {call : WriteCall}
    {result : ArtifactWriteResult} (h : ¬ call.Deduplicates store)
    (hrun : call.run store = (.ok result, store')) {input : String} (hinput : input ∈ call.inputs) :
    store'.HasEdge input result.contentHash := by
  have hcommit : ∀ (writes : List StoreState.Write) (result₀ : ArtifactWriteResult),
      store.commit writes result₀ = (.ok result, store') →
      result = result₀ ∧ StoreState.performAll writes store = (none, store') := by
    intro writes result₀ hcommit
    unfold StoreState.commit at hcommit
    rcases hall : StoreState.performAll writes store with ⟨_ | e, last⟩ <;>
      rw [hall] at hcommit <;> cases hcommit
    exact ⟨rfl, rfl⟩
  cases call with
  | put payload manifest generated =>
      have hnew : store.artifacts.findByHash (sha256Hex payload) = none := by
        simpa [Deduplicates, StoreState.isReferenced] using h
      rw [run_put, StoreState.put, hnew] at hrun
      obtain ⟨rfl, hall⟩ := hcommit _ _ hrun
      apply StoreState.hasEdge_of_performAll hall
      exact List.mem_append_right _ (StoreState.mem_registration hinput)
  | putInstance hash manifest generated =>
      rw [run_putInstance, StoreState.putInstance] at hrun
      cases hpayload : store.payloads.lookup hash with
      | none =>
          rw [hpayload] at hrun
          cases hrun
      | some bytes =>
          rw [hpayload] at hrun
          obtain ⟨rfl, hall⟩ := hcommit _ _ hrun
          apply StoreState.hasEdge_of_performAll hall
          exact StoreState.mem_registration hinput

end WriteCall

/-! ## Histories

The log keeps what the calls that have returned were given. One event keeps all
edges recorded exactly if what it relies on holds, and a history does so event
by event. -/

/-- A call that runs to its end, or that stops after some of its writes. -/
inductive CallEvent where
  | runs (call : WriteCall)
  | stops (call : WriteCall) (k : Nat)

/-- The store, with the inputs and the hash of every call that has returned. -/
structure CallLog where
  store : StoreState
  returned : List (List String × String) := []

namespace CallLog

/-- The log after an event. -/
def next (log : CallLog) : CallEvent → CallLog
  | .runs call =>
      match call.run log.store with
      | (.ok result, store) => ⟨store, (call.inputs, result.contentHash) :: log.returned⟩
      | (.error _, store) => { log with store }
  | .stops call k => { log with store := call.stopped k log.store }

/-- The calls on a project. -/
def calls : Actions CallLog CallEvent where
  step event log := some (log.next event)

/-- The table has the edges of all calls that have returned. -/
def Recorded (log : CallLog) : Prop :=
  ∀ call ∈ log.returned, ∀ input ∈ call.1, log.store.HasEdge input call.2

/-- After the event all edges are recorded. -/
def RecordedAfter (event : CallEvent) (log : CallLog) : Prop := (log.next event).Recorded

/-- What the event relies on: a `Put` whose hash is indexed on the edges in the table. -/
def Relies : CallEvent → CallLog → Prop
  | .runs (.put payload manifest _), log =>
      log.store.isReferenced (sha256Hex payload) →
        ∀ input ∈ manifest.inputArtifactHashes, log.store.HasEdge input (sha256Hex payload)
  | _, _ => True

/-- A step keeps the edges of the calls before it. -/
theorem Recorded.of_store {log : CallLog} (h : log.Recorded) {store : StoreState}
    (hstore : ∀ input output, log.store.HasEdge input output → store.HasEdge input output) :
    Recorded { log with store } :=
  fun call hcall input hinput => hstore input call.2 (h call hcall input hinput)

theorem recorded_cons {store : StoreState} {inputs : List String} {hash : String}
    {returned : List (List String × String)} (h : Recorded ⟨store, returned⟩) :
    Recorded ⟨store, (inputs, hash) :: returned⟩ ↔ ∀ input ∈ inputs, store.HasEdge input hash :=
  List.forall_mem_cons.trans (and_iff_left h)

/-- A call that runs to its end. -/
theorem recordedAfter_runs_iff {log : CallLog} (h : log.Recorded) (call : WriteCall) :
    RecordedAfter (.runs call) log ↔ Relies (.runs call) log := by
  have hkept : Recorded { log with store := (call.run log.store).2 } :=
    h.of_store fun _ _ hedge => call.hasEdge_run hedge
  simp only [RecordedAfter, next]
  rcases hrun : call.run log.store with ⟨e | result, store'⟩
  · -- a call that throws has not found its hash in the index
    rw [hrun] at hkept
    refine iff_of_true hkept ?_
    cases call with
    | putInstance => trivial
    | put payload manifest generated =>
        intro href
        obtain ⟨existing, hexisting⟩ := Option.isSome_iff_exists.mp href
        rw [WriteCall.run_put, StoreState.put, hexisting] at hrun
        cases hrun
  · rw [hrun] at hkept
    show Recorded ⟨store', _⟩ ↔ _
    rw [recorded_cons hkept]
    by_cases hdedup : call.Deduplicates log.store
    · have hstore := WriteCall.run_of_deduplicates hdedup hrun
      cases call with
      | putInstance => exact hdedup.elim
      | put payload manifest generated =>
          have hhash : result.contentHash = sha256Hex payload :=
            StoreState.put_contentHash ((WriteCall.run_put ..).symm.trans hrun)
          rw [hstore, hhash]
          exact ⟨fun hedges _ => hedges, fun hrelies => hrelies hdedup⟩
    · refine iff_of_true (fun input hinput => WriteCall.hasEdge_of_run hdedup hrun hinput) ?_
      cases call with
      | putInstance => trivial
      | put payload manifest generated => exact fun href => absurd href hdedup

/-- An event keeps all edges recorded when what it relies on holds, and only then. -/
theorem recordedAfter_iff {log : CallLog} (h : log.Recorded) (event : CallEvent) :
    RecordedAfter event log ↔ Relies event log := by
  cases event with
  | runs call => exact recordedAfter_runs_iff h call
  | stops call k =>
      apply iff_of_true
      · exact h.of_store fun _ _ hedge => call.hasEdge_stopped hedge k
      · cases call <;> trivial

/-- Over every sequence of calls on a store, each of which runs to its end or
stops after any of its writes, the table has the edges of all calls that have
returned, after every event, if and only if each event finds what it relies on. -/
theorem edges_recorded_iff (store : StoreState) (events : List CallEvent) :
    calls.Along RecordedAfter events ⟨store, []⟩ ↔ calls.Along Relies events ⟨store, []⟩ := by
  have hstep : ∀ event log log', Recorded log → Relies event log →
      calls.step event log = some log' → Recorded log' := by
    intro event log log' h hrelies hnext
    cases hnext
    exact (recordedAfter_iff h event).mpr hrelies
  apply Actions.along_iff_of_invariant hstep
  · intro event log h
    exact recordedAfter_iff h event
  · intro call hcall
    cases hcall

/-- The empty payload, made from one input. -/
def derived (generated : Uuid) : WriteCall := .put [] { inputArtifactHashes := ["raw"] } generated

/-- A `Put` that stops between its row and its edge leaves a row that makes its
repetition return without the edge; and a second producer of the same bytes
records no edge for its own inputs. -/
theorem edges_lost :
    ¬ calls.Along RecordedAfter [.stops (derived ⟨1⟩) 3, .runs (derived ⟨2⟩)] ⟨{}, []⟩ ∧
    ¬ calls.Along RecordedAfter [.runs (.put [] {} ⟨1⟩), .runs (derived ⟨2⟩)] ⟨{}, []⟩ := by
  constructor <;>
    simp [Actions.Along, calls, next, RecordedAfter, Recorded, derived, WriteCall.run,
      WriteCall.plan, WriteCall.stopped, WriteCall.inputs, StoreState.completed,
      StoreState.registration, StoreState.indexRow, StoreState.commit, StoreState.performAll,
      StoreState.perform, StoreState.HasEdge, ArtifactTable.findByHash, ArtifactTable.empty,
      ArtifactTable.upsert, ArtifactTable.withoutKeysOf]
  exact ⟨["raw"], ⟨_, .inl ⟨rfl, rfl⟩⟩, "raw", List.mem_singleton_self _⟩

end CallLog

end SpatialPlatform.Core
