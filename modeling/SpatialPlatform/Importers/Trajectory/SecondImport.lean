import SpatialPlatform.Core.Artifacts.Held
import SpatialPlatform.Importers.Trajectory.Rollback

/-!
# Importing a trajectory twice

The second import of a source under the same options finds what the first one
has stored, returns its identifiers, and writes nothing.
-/

namespace SpatialPlatform.Importers

open SpatialPlatform.Core SpatialPlatform.Lib

variable {R : Type} {numbers : Numbers R} {json : JsonLibrary} {equal : Json → Json → Bool}
  {build : ImporterBuild} {options : TrajectoryImportOptions} {prepared : Prepared R}
  {db db' : TrajectoryProject R}

/-- A run on the store of a project, as a run on the project. -/
theorem onStore_eq_ok {α : Type} {f : StoreState → Except ProjectError α × StoreState} {a : α}
    (h : onStore f db = (.ok a, db')) : ∃ store, f db.tables.store = (.ok a, store) ∧
      db' = { db with tables := { db.tables with store } } := by
  rcases hf : f db.tables.store with ⟨e | b, store⟩
  · simp only [onStore, Persist.within, hf] at h
    cases h
  · simp only [onStore, Persist.within, hf] at h
    cases h
    exact ⟨store, rfl, rfl⟩

theorem onStore_of_ok {α : Type} {f : StoreState → Except ProjectError α × StoreState} {a : α}
    {store : StoreState} (h : f db.tables.store = (.ok a, store)) :
    onStore f db = (.ok a, { db with tables := { db.tables with store } }) := by
  simp only [onStore, Persist.within, h]

theorem onStore_of_eq {α : Type} {f : StoreState → Except ProjectError α × StoreState}
    {result : Except ProjectError α} (h : f db.tables.store = (result, db.tables.store)) :
    onStore f db = (result, db) := by
  simp only [onStore, Persist.within, h]

/-- A step that is over has not failed. -/
theorem step_eq_ok {α : Type} {call : TrajectoryImportCall} {k : Nat} {x : TrajectoryM R α} {a : α}
    (h : step call k x db = (.ok a, db')) : x db = (.ok a, db') := by
  cases hfault : call.fault k with
  | none =>
    simp only [step, hfault] at h
    exact h
  | some e =>
    simp only [step, hfault] at h
    exact (nomatch h)

/-! ## What the second import finds

A project that has a trajectory of the source under the configuration. Every
step of the import then finds what it would have made. -/

/-- The project has the trajectory of a source and options, and all that belongs to it. -/
structure HasTrajectory (numbers : Numbers R) (json : JsonLibrary) (prepared : Prepared R)
    (options : TrajectoryImportOptions) (result : TrajectoryImportResult R)
    (db : TrajectoryProject R) : Prop where
  source : db.tables.store.Holds prepared.source result.sourceArtifactId
  config : db.tables.store.Holds prepared.configBytes result.configurationArtifactId
  index : ∃ index, existingTrajectory prepared.configHash db = some index ∧
    index.artifactId = result.artifactId ∧ index.contentHash = result.contentHash
  manifest : ∃ manifest, db.tables.store.readManifest result.artifactId = some manifest ∧
    provenanceConsistent prepared options manifest
  payload : db.tables.store.payloads.lookup result.contentHash =
    some (stringBytes (json.dump none (documentJson numbers result.trajectoryId prepared.nodes)))
  digest : result.contentHash =
    sha256Hex (stringBytes (json.dump none (documentJson numbers result.trajectoryId prepared.nodes)))
  row : ∃ row, (db.trajectories.find? fun row =>
      row.sessionId = options.sessionId && row.trajectoryId = result.trajectoryId) = some row ∧
    recordConsistent prepared options (stringBytes
      (json.dump none (documentJson numbers result.trajectoryId prepared.nodes))) row ∧
    row.nodeCount = result.nodeCount ∧ row.totalDistanceM = result.totalDistanceM
  rest : result.sceneId = prepared.scene.sceneId ∧ result.sourceContentHash = prepared.sourceHash ∧
    result.configurationHash = prepared.configHash

/-- The check of a payload that the store holds. -/
theorem verifyPayload_of_holds {bytes : List UInt8} {artifactId : Uuid} (message : String)
    (h : db.tables.store.Holds bytes artifactId) :
    verifyPayload (sha256Hex bytes) bytes message db = (.ok (), db) := by
  have hknown : ((db.tables.store.artifacts.findByHash (sha256Hex bytes)).isSome ||
      (db.tables.store.payloads.lookup (sha256Hex bytes)).isSome) = true := by
    rw [h.file, Option.isSome_some, Bool.or_true]
  have hget : onStore (fun store => store.get (sha256Hex bytes)) db = (.ok (some bytes), db) :=
    onStore_of_eq (StoreState.get_of_intact h.file rfl)
  unfold verifyPayload
  rw [Persist.read_bind]
  simp only [hknown, if_true]
  rw [Persist.bind_of_ok hget, if_pos rfl]
  rfl

/-- The identifier is read from the payload that the first import has made. -/
theorem trajectoryIdOf_documentJson (trajectoryId : Uuid) (nodes : List (TrajectoryPoseNode R))
    (hequal : equal (nodesJson numbers nodes) (nodesJson numbers nodes)) :
    trajectoryIdOf numbers equal nodes (documentJson numbers trajectoryId nodes) =
      .ok trajectoryId := by
  set members : List (String × Json) := [
    ("schema_version", .int 1),
    ("trajectory_id", .str (formatUuid trajectoryId)),
    ("nodes", nodesJson numbers nodes)] with hmembers
  have hkeys : (members.map (·.1)).Nodup := by simp [hmembers]
  have hversion : (Json.object members).member? "schema_version" = some (.int 1) :=
    Json.member?_object hkeys (by simp [hmembers])
  have hid : (Json.object members).member? "trajectory_id" = some (.str (formatUuid trajectoryId)) :=
    Json.member?_object hkeys (by simp [hmembers])
  have hnodes : (Json.object members).member? "nodes" = some (nodesJson numbers nodes) :=
    Json.member?_object hkeys (by simp [hmembers])
  have hlength : (members.insertionSort Json.KeyLE).length = 3 := by
    rw [List.length_insertionSort, hmembers]
    rfl
  show trajectoryIdOf numbers equal nodes (.obj (members.insertionSort Json.KeyLE)) = _
  unfold Json.object at hversion hid hnodes
  simp only [trajectoryIdOf, hversion, hid, hnodes, hlength, hequal, decide_true, Bool.and_self,
    if_true, parseUuid_formatUuid]

/-- What has been imported is found, and nothing is written. -/
theorem importPrepared_of_hasTrajectory {result : TrajectoryImportResult R} (call : TrajectoryImportCall)
    (h : HasTrajectory numbers json prepared options result db)
    (hroundTrip : json.RoundTrips none (documentJson numbers result.trajectoryId prepared.nodes))
    (hequal : equal (nodesJson numbers prepared.nodes) (nodesJson numbers prepared.nodes)) :
    importPrepared numbers json equal build prepared options call db =
      (.ok { result with reused := true }, db) := by
  obtain ⟨source, hsource, hsourceId⟩ := h.source.row
  obtain ⟨config, hconfig, hconfigId⟩ := h.config.row
  obtain ⟨index, hindex, hindexId, hindexHash⟩ := h.index
  obtain ⟨manifest, hmanifest, hprovenance⟩ := h.manifest
  obtain ⟨row, hrow, hrecord, hcount, hdistance⟩ := h.row
  obtain ⟨hscene, hsourceHash, hconfigHash⟩ := h.rest
  have hget : onStore (fun store => store.get index.contentHash) db = (.ok (some (stringBytes
      (json.dump none (documentJson numbers result.trajectoryId prepared.nodes)))), db) := by
    rw [hindexHash]
    exact onStore_of_eq (StoreState.get_of_intact h.payload h.digest.symm)
  have hverifySource : ∀ message,
      verifyPayload prepared.sourceHash prepared.source message db = (.ok (), db) :=
    fun message => verifyPayload_of_holds message h.source
  have hverifyConfig : ∀ message,
      verifyPayload prepared.configHash prepared.configBytes message db = (.ok (), db) :=
    fun message => verifyPayload_of_holds message h.config
  -- the payload is read back and compared, and found to be the same
  have hreuse : reuse numbers json equal prepared options (some source) (some config) index db =
      (.ok { result with reused := true }, db) := by
    unfold reuse
    rw [Persist.read_bind, hindexId]
    simp only [hmanifest, Option.any_some, hprovenance, if_true]
    rw [Persist.bind_of_ok hget]
    have hdoc : ((String.fromUTF8? ⟨(stringBytes (json.dump none
        (documentJson numbers result.trajectoryId prepared.nodes))).toArray⟩).bind fun text =>
          (json.parse text).toOption) =
        some (documentJson numbers result.trajectoryId prepared.nodes) := by
      rw [fromUTF8?_stringBytes, Option.bind_some, hroundTrip]
      rfl
    simp only [hdoc, Option.getD_some, trajectoryIdOf_documentJson result.trajectoryId _ hequal]
    rw [Persist.read_bind, hrow]
    simp only [hrecord, if_true, hsourceId, hconfigId, hcount, hdistance, hindexHash]
    rw [hscene, hsourceHash, hconfigHash]
    rfl
  unfold importPrepared
  rw [Persist.read_bind, Persist.bind_of_ok (hverifySource _), Persist.read_bind,
    Persist.bind_of_ok (hverifyConfig _), Persist.read_bind, hindex]
  simp only [Prepared.sourceHash, hsource, Prepared.configHash, hconfig, hreuse]

/-! ## What the first import leaves

Three artifacts and one transaction. Each `Put` has to keep what the former ones
have left, and the rows of the last one must be found among all others, which is
what the freshness of identifiers and digests is for. -/

/-- The payload of a new trajectory. -/
def payloadBytes (numbers : Numbers R) (json : JsonLibrary) (call : TrajectoryImportCall)
    (prepared : Prepared R) : List UInt8 :=
  stringBytes (serialized numbers json call prepared)

/-- What an import gets from outside is new, and its three texts have no SHA-256
collision: the artifact identifiers name no row, and no digest in the store is
that of the payload with the new identifier. -/
structure Fresh (numbers : Numbers R) (json : JsonLibrary) (prepared : Prepared R)
    (call : TrajectoryImportCall) (db : TrajectoryProject R) : Prop where
  ids : [call.rawUuid, call.configUuid, call.artifactUuid].Nodup
  unused : ∀ row ∈ db.tables.store.artifacts.rows,
    row.artifactId ∉ [call.rawUuid, call.configUuid, call.artifactUuid]
  noRow : db.tables.store.artifacts.findByHash
    (sha256Hex (payloadBytes numbers json call prepared)) = none
  noFile : db.tables.store.payloads.lookup
    (sha256Hex (payloadBytes numbers json call prepared)) = none
  notSource : sha256Hex (payloadBytes numbers json call prepared) ≠ prepared.sourceHash
  notConfig : sha256Hex (payloadBytes numbers json call prepared) ≠ prepared.configHash
  collision : prepared.sourceHash = prepared.configHash → prepared.source = prepared.configBytes

/-- A row of `trajectories` that has been added. -/
theorem addTrajectory_eq_ok {row : TrajectoryRow R} (h : addTrajectory row db = .ok db') :
    (∀ old ∈ db.trajectories, old.trajectoryId ≠ row.trajectoryId) ∧
      db' = { db with trajectories := db.trajectories ++ [row] } := by
  unfold addTrajectory at h
  split at h
  · cases h
  split at h
  · cases h
  next hunique =>
  split at h
  · cases h
  · cases h
    exact ⟨by simpa using hunique, rfl⟩

/-- A row that is added under a new identifier is found by it. -/
theorem find?_added (row : TrajectoryRow R) {rows : List (TrajectoryRow R)}
    (hnew : ∀ old ∈ rows, old.trajectoryId ≠ row.trajectoryId) :
    ((rows ++ [row]).find? fun old =>
      old.sessionId = row.sessionId && old.trajectoryId = row.trajectoryId) = some row := by
  rw [List.find?_append, List.find?_eq_none.mpr]
  · simp
  · intro old hold
    simp [hnew old hold]

/-- The row of an artifact that has just been registered is found, when no row
before had the property that it is looked for by. -/
theorem find?_upsert {table : ArtifactTable} {row : ArtifactIndexRow} {p : ArtifactIndexRow → Bool}
    (hnone : ∀ old ∈ table.rows, ¬ p old) (hrow : p row) :
    (table.upsert row).rows.find? p = some row := by
  show (table.withoutKeysOf row ++ [row]).find? p = some row
  rw [List.find?_append, List.find?_eq_none.mpr]
  · simp [hrow]
  · intro old hold
    exact hnone old (List.mem_of_mem_filter hold)

/-- An artifact whose manifest has its identifier is stored under it. -/
theorem storedId_self (manifest : ArtifactManifest) :
    StoreState.storedId manifest manifest.artifactUuid = manifest.artifactUuid := by
  unfold StoreState.storedId
  split <;> rfl

section Puts

variable {call : TrajectoryImportCall} {store₁ store₂ store₃ : StoreState}
  {raw config stored : ArtifactWriteResult}

/-- A row that is new under an identifier, by a `Put` under another, is none of the identifier. -/
theorem put_unused {store store' : StoreState} {payload : List UInt8} {manifest : ArtifactManifest}
    {result : ArtifactWriteResult} {artifactId : Uuid} (hne : manifest.artifactUuid ≠ artifactId)
    (hunused : ∀ row ∈ store.artifacts.rows, row.artifactId ≠ artifactId)
    (h : store.put payload manifest manifest.artifactUuid = (.ok result, store')) :
    ∀ row ∈ store'.artifacts.rows, row.artifactId ≠ artifactId := by
  apply StoreState.put_rows (p := fun row => row.artifactId ≠ artifactId) hunused _ h
  show StoreState.storedId manifest manifest.artifactUuid ≠ artifactId
  rw [storedId_self]
  exact hne

/-- The source and the configuration are held after the three artifacts are stored. -/
theorem holds_after_puts (hfresh : Fresh numbers json prepared call db)
    (hsource : db.tables.store.Intact prepared.source)
    (hconfig : db.tables.store.Intact prepared.configBytes)
    (hput₁ : db.tables.store.put prepared.source (rawManifest build call) call.rawUuid =
      (.ok raw, store₁))
    (hput₂ : store₁.put prepared.configBytes (configManifest build call prepared) call.configUuid =
      (.ok config, store₂))
    (hput₃ : store₂.put (payloadBytes numbers json call prepared)
      (trajectoryManifest build call prepared options) call.artifactUuid = (.ok stored, store₃)) :
    store₃.Holds prepared.source raw.artifactUuid ∧
      store₃.Holds prepared.configBytes config.artifactUuid := by
  have hids := hfresh.ids
  simp only [List.nodup_cons, List.mem_cons, List.not_mem_nil, or_false, not_or] at hids
  obtain ⟨⟨hrawConfig, hrawArtifact⟩, hconfigArtifact, _⟩ := hids
  have hunused : ∀ row ∈ db.tables.store.artifacts.rows,
      row.artifactId ≠ call.configUuid ∧ row.artifactId ≠ call.artifactUuid := by
    intro row hrow
    have hrow := hfresh.unused row hrow
    simp only [List.mem_cons, List.not_mem_nil, or_false, not_or] at hrow
    exact hrow.2
  -- the source is held from the first write on, under an identifier that the others do not take
  have hheld₁ : store₁.Holds prepared.source raw.artifactUuid := StoreState.put_holds hsource hput₁
  have hconfig₁ : ∀ row ∈ store₁.artifacts.rows, row.artifactId ≠ call.configUuid :=
    put_unused hrawConfig (fun row hrow => (hunused row hrow).1) hput₁
  have hartifact₁ : ∀ row ∈ store₁.artifacts.rows, row.artifactId ≠ call.artifactUuid :=
    put_unused hrawArtifact (fun row hrow => (hunused row hrow).2) hput₁
  have hartifact₂ : ∀ row ∈ store₂.artifacts.rows, row.artifactId ≠ call.artifactUuid :=
    put_unused hconfigArtifact hartifact₁ hput₂
  have hintact₁ : store₁.Intact prepared.configBytes := by
    by_cases hhash : prepared.sourceHash = prepared.configHash
    · rw [← hfresh.collision hhash]
      exact fun _ => hheld₁.file
    · exact hconfig.put (Ne.symm hhash) hput₁
  have hheld₂ : store₂.Holds prepared.source raw.artifactUuid := by
    apply hheld₁.put _ hput₂
    rw [show call.configUuid = (configManifest build call prepared).artifactUuid from rfl,
      storedId_self]
    exact hheld₁.ne hconfig₁
  have hheldConfig₂ : store₂.Holds prepared.configBytes config.artifactUuid :=
    StoreState.put_holds hintact₁ hput₂
  have hid₃ : StoreState.storedId (trajectoryManifest build call prepared options)
      call.artifactUuid = call.artifactUuid := storedId_self _
  constructor
  · apply hheld₂.put _ hput₃
    rw [hid₃]
    exact hheld₂.ne hartifact₂
  · apply hheldConfig₂.put _ hput₃
    rw [hid₃]
    exact hheldConfig₂.ne hartifact₂

/-- Neither the index nor a file has the payload when its turn comes. -/
theorem payload_unknown (hfresh : Fresh numbers json prepared call db)
    (hput₁ : db.tables.store.put prepared.source (rawManifest build call) call.rawUuid =
      (.ok raw, store₁))
    (hput₂ : store₁.put prepared.configBytes (configManifest build call prepared) call.configUuid =
      (.ok config, store₂)) :
    store₂.artifacts.findByHash (sha256Hex (payloadBytes numbers json call prepared)) = none ∧
      store₂.payloads.lookup (sha256Hex (payloadBytes numbers json call prepared)) = none := by
  set hash := sha256Hex (payloadBytes numbers json call prepared) with hhash
  constructor
  · have hrows : ∀ row ∈ db.tables.store.artifacts.rows, row.contentHash ≠ hash := by
      simpa [ArtifactTable.findByHash] using hfresh.noRow
    have hrows₁ : ∀ row ∈ store₁.artifacts.rows, row.contentHash ≠ hash :=
      StoreState.put_rows (p := fun row => row.contentHash ≠ hash) hrows hfresh.notSource.symm hput₁
    have hrows₂ : ∀ row ∈ store₂.artifacts.rows, row.contentHash ≠ hash :=
      StoreState.put_rows (p := fun row => row.contentHash ≠ hash) hrows₁ hfresh.notConfig.symm hput₂
    simpa [ArtifactTable.findByHash] using hrows₂
  · rw [StoreState.lookup_put_of_ne hfresh.notConfig hput₂,
      StoreState.lookup_put_of_ne hfresh.notSource hput₁]
    exact hfresh.noFile

/-- No trajectory has the configuration when the turn of the payload comes. -/
theorem noTrajectory_after_puts (hnone : existingTrajectory prepared.configHash db = none)
    (hput₁ : db.tables.store.put prepared.source (rawManifest build call) call.rawUuid =
      (.ok raw, store₁))
    (hput₂ : store₁.put prepared.configBytes (configManifest build call prepared) call.configUuid =
      (.ok config, store₂)) :
    ∀ row ∈ store₂.artifacts.rows,
      ¬ (row.type = "trajectory" && row.configHash = prepared.configHash) := by
  have hrows : ∀ row ∈ db.tables.store.artifacts.rows,
      ¬ (row.type = "trajectory" && row.configHash = prepared.configHash) :=
    List.find?_eq_none.mp hnone
  have hrows₁ := StoreState.put_rows (p := fun row =>
    ¬ (row.type = "trajectory" && row.configHash = prepared.configHash)) hrows
    (by simp [StoreState.indexRow, StoreState.completed, rawManifest, makeManifest]) hput₁
  exact StoreState.put_rows (p := fun row =>
    ¬ (row.type = "trajectory" && row.configHash = prepared.configHash)) hrows₁
    (by simp [StoreState.indexRow, StoreState.completed, configManifest, makeManifest]) hput₂

end Puts

/-- A transaction that is over leaves the trajectory with all that belongs to it. -/
theorem publish_hasTrajectory {call : TrajectoryImportCall} {result : TrajectoryImportResult R}
    (hfresh : Fresh numbers json prepared call db)
    (hsource : db.tables.store.Intact prepared.source)
    (hconfig : db.tables.store.Intact prepared.configBytes)
    (hnone : existingTrajectory prepared.configHash db = none)
    (h : publish numbers json build prepared options call db = (.ok result, db')) :
    HasTrajectory numbers json prepared options result db' ∧
      result.trajectoryId = call.trajectoryId ∧
      ∃ store trajectories, db' = { db with tables := { db.tables with store }, trajectories } := by
  obtain ⟨_, h⟩ := (writeTransaction_triple db _).ok rfl h
  obtain ⟨raw, s₁, hraw, h⟩ := Persist.bind_eq_ok h
  obtain ⟨config, s₂, hstoredConfig, h⟩ := Persist.bind_eq_ok h
  obtain ⟨stored, s₃, hstored, h⟩ := Persist.bind_eq_ok h
  obtain ⟨_, s₄, hrow, h⟩ := Persist.bind_eq_ok h
  obtain ⟨store₁, hput₁, rfl⟩ := onStore_eq_ok (step_eq_ok hraw)
  obtain ⟨store₂, hput₂, rfl⟩ := onStore_eq_ok (step_eq_ok hstoredConfig)
  obtain ⟨store₃, hput₃, rfl⟩ := onStore_eq_ok (step_eq_ok hstored)
  change db.tables.store.put prepared.source _ _ = _ at hput₁
  change store₁.put prepared.configBytes _ _ = _ at hput₂
  change store₂.put (payloadBytes numbers json call prepared) _ _ = _ at hput₃
  -- the row of the trajectory is the last write of the transaction
  obtain ⟨hunique, rfl⟩ : (∀ old ∈ db.trajectories, old.trajectoryId ≠ call.trajectoryId) ∧
      s₄ = { db with
        tables := { db.tables with store := store₃ }
        trajectories := db.trajectories ++
          [trajectoryRow numbers json call prepared options] } := by
    have hwrite := step_eq_ok hrow
    unfold Persist.write at hwrite
    split at hwrite
    · next hadded =>
      cases hwrite
      exact addTrajectory_eq_ok hadded
    · cases hwrite
  obtain ⟨hnoRow, hnoFile⟩ := payload_unknown hfresh hput₁ hput₂
  have hnone₂ := noTrajectory_after_puts hnone hput₁ hput₂
  obtain ⟨hheldSource, hheldConfig⟩ :=
    holds_after_puts hfresh hsource hconfig hput₁ hput₂ hput₃
  have hhash₁ : raw.contentHash = prepared.sourceHash := (StoreState.put_eq_ok hput₁).1
  have hhash₂ : config.contentHash = prepared.configHash := (StoreState.put_eq_ok hput₂).1
  obtain ⟨hhash₃, ⟨_, hfound, _⟩ | ⟨_, hid₃, rows, rfl⟩⟩ := StoreState.put_eq_ok hput₃
  · -- the payload was unknown, so `put` has not found it
    rw [hnoRow] at hfound
    cases hfound
  have hresult := step_eq_ok h
  cases hresult
  refine ⟨⟨hheldSource, hheldConfig, ?_, ?_, ?_, hhash₃, ?_, rfl, hhash₁, hhash₂⟩, rfl, _, _, rfl⟩
  · refine ⟨_, find?_upsert ?_ ?_, hid₃.symm, hhash₃.symm⟩
    · rw [StoreState.withPayload_artifacts]
      exact hnone₂
    · simp [StoreState.indexRow, StoreState.completed, trajectoryManifest, makeManifest]
  · refine ⟨StoreState.completed (trajectoryManifest build call prepared options)
      (sha256Hex (payloadBytes numbers json call prepared))
      (payloadBytes numbers json call prepared).length call.artifactUuid, ?_, ?_⟩
    · show ((store₂.withPayload _).manifests.insert _ _).lookup stored.artifactUuid = _
      rw [hid₃]
      exact AList.lookup_insert _
    · simp [provenanceConsistent, StoreState.completed, trajectoryManifest, makeManifest]
  · show (store₂.withPayload _).payloads.lookup stored.contentHash = _
    rw [hhash₃]
    apply StoreState.lookup_withPayload
    intro hknown
    rw [hnoRow, hnoFile] at hknown
    simp at hknown
  · exact ⟨_, find?_added (trajectoryRow numbers json call prepared options) hunique,
      by simp [recordConsistent, trajectoryRow, serialized], rfl, rfl⟩

/-! ## The two runs

One after the other. A run that fails has not come to the end of its
transaction, so no trajectory is left. -/

/-- A trajectory that is there is checked and returned, whatever the second call gets from outside. -/
theorem importPrepared_of_existing {index : ArtifactIndexRow} (call call' : TrajectoryImportCall)
    (h : existingTrajectory prepared.configHash db = some index) :
    importPrepared numbers json equal build prepared options call db =
      importPrepared numbers json equal build prepared options call' db := by
  have hverify : ∀ hash bytes message s,
      verifyPayload hash bytes message db = (.ok (), s) → s = db :=
    fun hash bytes message s hrun =>
      ((verifyPayload_triple db hash bytes message).ok rfl hrun).1
  unfold importPrepared
  rw [Persist.read_bind, Persist.read_bind]
  rcases hsource : verifyPayload prepared.sourceHash prepared.source
    "existing source CAS payload is missing or corrupt" db with ⟨e | _, s⟩
  · rw [Persist.bind_of_error hsource, Persist.bind_of_error hsource]
  · obtain rfl := hverify _ _ _ _ hsource
    rw [Persist.bind_of_ok hsource, Persist.bind_of_ok hsource, Persist.read_bind,
      Persist.read_bind]
    rcases hconfig : verifyPayload prepared.configHash prepared.configBytes
      "existing configuration CAS payload is missing or corrupt" s with ⟨e | _, t⟩
    · rw [Persist.bind_of_error hconfig, Persist.bind_of_error hconfig]
    · obtain rfl := hverify _ _ _ _ hconfig
      rw [Persist.bind_of_ok hconfig, Persist.bind_of_ok hconfig, Persist.read_bind,
        Persist.read_bind, h]

/-- What the import of a new trajectory relies on: what it gets from outside is
new, and the JSON library reads back the payload that it has printed, with nodes
that compare equal to themselves. -/
structure Repeatable (numbers : Numbers R) (json : JsonLibrary) (equal : Json → Json → Bool)
    (prepared : Prepared R) (call : TrajectoryImportCall) (db : TrajectoryProject R) : Prop where
  fresh : Fresh numbers json prepared call db
  roundTrips : json.RoundTrips none (documentJson numbers call.trajectoryId prepared.nodes)
  equal : equal (nodesJson numbers prepared.nodes) (nodesJson numbers prepared.nodes)

/-- After an import that has returned, the next one returns the same and writes nothing. -/
theorem importPrepared_again {call : TrajectoryImportCall} {result : TrajectoryImportResult R}
    (hrepeatable : Repeatable numbers json equal prepared call db)
    (h : importPrepared numbers json equal build prepared options call db = (.ok result, db'))
    (call' : TrajectoryImportCall) :
    importPrepared numbers json equal build prepared options call' db' =
        (.ok { result with reused := true }, db') ∧
      ∃ store trajectories, db' = { db with tables := { db.tables with store }, trajectories } := by
  have hrun := h
  unfold importPrepared at h
  rw [Persist.read_bind] at h
  obtain ⟨_, s, hverify, h⟩ := Persist.bind_eq_ok h
  obtain ⟨rfl, hsource⟩ := (verifyPayload_triple db _ _ _).ok rfl hverify
  rw [Persist.read_bind] at h
  obtain ⟨_, t, hverify, h⟩ := Persist.bind_eq_ok h
  obtain ⟨rfl, hconfig⟩ := (verifyPayload_triple s _ _ _).ok rfl hverify
  rw [Persist.read_bind] at h
  cases hexisting : existingTrajectory prepared.configHash t with
  -- found: the first call has only read
  | some index =>
    rw [hexisting] at h
    obtain ⟨rfl, hreused⟩ := (reuse_triple t numbers json equal prepared options _ _ index).ok rfl h
    refine ⟨?_, _, _, rfl⟩
    rw [importPrepared_of_existing call' call hexisting, hrun, ← hreused]
  -- published: the second call finds it
  | none =>
    rw [hexisting] at h
    obtain ⟨hhas, hid, hframe⟩ :=
      publish_hasTrajectory hrepeatable.fresh hsource hconfig hexisting h
    refine ⟨?_, hframe⟩
    apply importPrepared_of_hasTrajectory call' hhas
    · rw [hid]
      exact hrepeatable.roundTrips
    · exact hrepeatable.equal

/-- An import that has returned, made again with the same source and options,
returns the same identifiers and leaves the project as it is; one that fails
leaves its rows as they were, except that the row of a stored payload that it
finds corrupt is degraded. -/
theorem import_again_and_rollback [DoubleArith R] (numbers : Numbers R) (json : JsonLibrary)
    (equal : Json → Json → Bool) (build : ImporterBuild) (projectId : Uuid) (source : List UInt8)
    (options : TrajectoryImportOptions) (call : TrajectoryImportCall) (db : TrajectoryProject R) :
    (∀ result db', importTumCameraTrajectory numbers json equal build projectId source options call
        db = (.ok result, db') →
      (∀ prepared, prepare numbers json build projectId source options db = .ok prepared →
        Repeatable numbers json equal prepared call db) →
      ∀ call', importTumCameraTrajectory numbers json equal build projectId source options call'
        db' = (.ok { result with reused := true }, db')) ∧
    ∀ e db', importTumCameraTrajectory numbers json equal build projectId source options call
        db = (.error e, db') → Undone db db' := by
  constructor
  · intro result db' h hrepeatable call'
    unfold importTumCameraTrajectory at h ⊢
    rw [Persist.read_bind] at h ⊢
    cases hprepare : prepare numbers json build projectId source options db with
    | error e =>
      rw [hprepare] at h
      exact (nomatch h)
    | ok prepared =>
      rw [hprepare] at h
      obtain ⟨hagain, store, trajectories, rfl⟩ :=
        importPrepared_again (hrepeatable prepared hprepare) h call'
      -- what is to be imported does not depend on the artifacts
      rw [show prepare numbers json build projectId source options
        { db with tables := { db.tables with store }, trajectories } = .ok prepared from hprepare]
      exact hagain
  · intro e db' h
    have htriple :=
      importTumCameraTrajectory_triple db numbers json equal build projectId source options call db rfl
    rw [h] at htriple
    exact htriple

/-! ## Nothing hinders an import

An import into a writable project returns if none of its steps fails. The rest
is one pose in a file, with a library that reads back what it prints. -/

/-- The check of a payload that is unknown. -/
theorem verifyPayload_of_unknown {hash : String} (bytes : List UInt8) (message : String)
    (hrow : db.tables.store.artifacts.findByHash hash = none)
    (hfile : db.tables.store.payloads.lookup hash = none) :
    verifyPayload hash bytes message db = (.ok (), db) := by
  have hunknown : ((db.tables.store.artifacts.findByHash hash).isSome ||
      (db.tables.store.payloads.lookup hash).isSome) = false := by
    rw [hrow, hfile]
    rfl
  unfold verifyPayload
  rw [Persist.read_bind]
  simp only [hunknown, Bool.false_eq_true, if_false]
  rfl

theorem step_of_no_fault {α : Type} {call : TrajectoryImportCall} {k : Nat} (x : TrajectoryM R α)
    (h : call.fault k = none) : step call k x = x := by
  simp only [step, h]

theorem addTrajectory_returns {row : TrajectoryRow R} (hwritable : db.tables.store.readOnly = false)
    (hscene : db.tables.hasScene row.sceneId) (hsession : db.tables.hasSession row.sessionId)
    (hnew : ∀ old ∈ db.trajectories, old.trajectoryId ≠ row.trajectoryId) :
    addTrajectory row db = .ok { db with trajectories := db.trajectories ++ [row] } := by
  have hunique : (db.trajectories.any (·.trajectoryId = row.trajectoryId)) = false := by
    simpa using hnew
  simp only [addTrajectory, hwritable, hunique, hscene, hsession, Bool.not_true, Bool.or_self,
    Bool.false_eq_true, if_false]

/-- The transaction of a writable project returns, when no step of it fails. -/
theorem publish_returns (numbers : Numbers R) (json : JsonLibrary) (build : ImporterBuild)
    (prepared : Prepared R) (options : TrajectoryImportOptions) {call : TrajectoryImportCall}
    (hwritable : db.tables.store.readOnly = false) (hfault : ∀ k, call.fault k = none)
    (hscene : db.tables.hasScene prepared.scene.sceneId)
    (hsession : db.tables.hasSession options.sessionId)
    (hnew : ∀ old ∈ db.trajectories, old.trajectoryId ≠ call.trajectoryId) :
    ∃ result db', publish numbers json build prepared options call db = (.ok result, db') := by
  -- the three artifacts, each in the store that the one before has left
  obtain ⟨raw, store₁, hput₁, hwritable₁⟩ := StoreState.put_returns prepared.source
    (rawManifest build call) call.rawUuid hwritable
  obtain ⟨config, store₂, hput₂, hwritable₂⟩ := StoreState.put_returns prepared.configBytes
    (configManifest build call prepared) call.configUuid hwritable₁
  obtain ⟨stored, store₃, hput₃, hwritable₃⟩ := StoreState.put_returns
    (stringBytes (serialized numbers json call prepared))
    (trajectoryManifest build call prepared options) call.artifactUuid hwritable₂
  let after (store : StoreState) : TrajectoryProject R := { db with tables := { db.tables with store } }
  have hraw : step call 0 (onStore fun store =>
      store.put prepared.source (rawManifest build call) call.rawUuid) db =
      (.ok raw, after store₁) := by
    rw [step_of_no_fault _ (hfault 0)]
    exact onStore_of_ok hput₁
  have hconfig : step call 1 (onStore fun store =>
      store.put prepared.configBytes (configManifest build call prepared) call.configUuid)
      (after store₁) = (.ok config, after store₂) := by
    rw [step_of_no_fault _ (hfault 1)]
    exact onStore_of_ok hput₂
  have hstored : step call 2 (onStore fun store =>
      store.put (stringBytes (serialized numbers json call prepared))
        (trajectoryManifest build call prepared options) call.artifactUuid)
      (after store₂) = (.ok stored, after store₃) := by
    rw [step_of_no_fault _ (hfault 2)]
    exact onStore_of_ok hput₃
  -- the row of the trajectory, and the commit
  have hadd : addTrajectory (trajectoryRow numbers json call prepared options) (after store₃) =
      .ok { after store₃ with
        trajectories := db.trajectories ++ [trajectoryRow numbers json call prepared options] } :=
    addTrajectory_returns hwritable₃ hscene hsession hnew
  have hrow : step call 3 (Persist.write
      (addTrajectory (trajectoryRow numbers json call prepared options))) (after store₃) =
      (.ok (), { after store₃ with
        trajectories := db.trajectories ++ [trajectoryRow numbers json call prepared options] }) := by
    rw [step_of_no_fault _ (hfault 3)]
    unfold Persist.write
    rw [hadd]
  unfold publish writeTransaction
  simp only [hwritable, Bool.false_eq_true, if_false]
  rw [Persist.bind_of_ok hraw, Persist.bind_of_ok hconfig, Persist.bind_of_ok hstored,
    Persist.bind_of_ok hrow, step_of_no_fault _ (hfault 4)]
  exact ⟨_, _, rfl⟩

/-- The import of a trajectory that is not there, of which no text is, into a writable project. -/
theorem importPrepared_returns (numbers : Numbers R) (json : JsonLibrary) (equal : Json → Json → Bool)
    (build : ImporterBuild) (prepared : Prepared R) (options : TrajectoryImportOptions)
    {call : TrajectoryImportCall} (hstore : db.tables.store = {}) (hfault : ∀ k, call.fault k = none)
    (hscene : db.tables.hasScene prepared.scene.sceneId)
    (hsession : db.tables.hasSession options.sessionId)
    (hnew : ∀ old ∈ db.trajectories, old.trajectoryId ≠ call.trajectoryId) :
    ∃ result db', importPrepared numbers json equal build prepared options call db =
      (.ok result, db') := by
  have hverify : ∀ hash bytes message, verifyPayload hash bytes message db = (.ok (), db) := by
    intro hash bytes message
    apply verifyPayload_of_unknown <;> rw [hstore] <;> rfl
  have hnone : existingTrajectory prepared.configHash db = none := by
    unfold existingTrajectory
    rw [hstore]
    rfl
  unfold importPrepared
  rw [Persist.read_bind, Persist.bind_of_ok (hverify _ _ _), Persist.read_bind,
    Persist.bind_of_ok (hverify _ _ _), Persist.read_bind, hnone]
  exact publish_returns numbers json build prepared options (by rw [hstore]) hfault hscene hsession
    hnew

/-! A source of one pose, for a project that has its frame. -/

mutual

private def textOf : Json → String
  | .null => "null"
  | .bool b => if b then "true" else "false"
  | .int n => toString n
  | .float _ => "0.5"
  | .str text => "\"" ++ text ++ "\""
  | .arr elements => "[" ++ ",".intercalate (textsOf elements) ++ "]"
  | .obj members => "\x7b" ++ ",".intercalate (membersOf members) ++ "\x7d"

private def textsOf : List Json → List String
  | [] => []
  | j :: js => textOf j :: textsOf js

private def membersOf : List (String × Json) → List String
  | [] => []
  | m :: ms => memberOf m :: membersOf ms

private def memberOf : String × Json → String
  | (key, j) => "\"" ++ key ++ "\":" ++ textOf j

end

private def halves : Numbers Rat where
  fromChars text := if text = "0.5".toList then some (1 / 2) else none
  hypot x y := Rat.sqrt (x * x + y * y)
  hypot3 x y z := Rat.sqrt (x * x + y * y + z * z)
  toJson q := .float (Float.ofInt q.num / Float.ofNat q.den)

private def oneNode : List (TrajectoryPoseNode Rat) := [{
  frameId := formatUuid ⟨5⟩
  timestampNs := 0
  sequenceIndex := 0
  positionXyz := #v[1 / 2, 1 / 2, 1 / 2]
  rotationXyzw := #v[1 / 2, 1 / 2, 1 / 2, 1 / 2] }]

private def oneDocument : Json := documentJson halves ⟨6⟩ oneNode

private def compact : JsonLibrary where
  parse text := if text = textOf oneDocument then .ok oneDocument else .error (.parseError "")
  dump _ j := textOf j

private theorem compact_roundTrips : compact.RoundTrips none oneDocument := by
  simp only [JsonLibrary.RoundTrips, compact, if_true]

private def sameText (a b : Json) : Bool := textOf a = textOf b

private theorem sameText_self (a : Json) : sameText a a := decide_eq_true rfl

private def release : ImporterBuild := ⟨"0.1.0", "c0ffee"⟩

private def ofCamera : TrajectoryImportOptions where
  sessionId := ⟨2⟩
  sensorId := ⟨3⟩
  coordinateFrame := "map"
  sourceUnit := some .meters
  clockDomain := some .platform
  poseFrame := some .camera

private def onePose : List UInt8 := stringBytes "0 0.5 0.5 0.5 0.5 0.5 0.5 0.5\n"

private def captured (store : StoreState) : TrajectoryProject Rat where
  tables := {
    store
    scenes := {
      projects := [⟨1⟩]
      scenes := [{ sceneId := ⟨4⟩, projectId := ⟨1⟩, status := some "open" }] }
    sessions := [{ sessionId := ⟨2⟩, projectId := ⟨1⟩ }]
    frames := [{ frameId := ⟨5⟩, sceneId := ⟨4⟩, sessionId := ⟨2⟩, sensorId := ⟨3⟩ }] }
  sensors := [⟨⟨3⟩, ⟨1⟩, "camera"⟩]

private def firstCall : TrajectoryImportCall where
  trajectoryId := ⟨6⟩
  rawUuid := ⟨7⟩
  configUuid := ⟨8⟩
  artifactUuid := ⟨9⟩

private def importOnePose (call : TrajectoryImportCall) : TrajectoryM Rat (TrajectoryImportResult Rat) :=
  importTumCameraTrajectory halves compact sameText release ⟨1⟩ onePose ofCamera call

private def configText : String :=
  "\x7b\"clock_domain\":\"platform\",\"coordinate_frame\":\"map\"," ++
  "\"format\":\"tum_camera_v1\",\"frame_ids\":[\"00000000-0000-0000-0000-000000000005\"]," ++
  "\"pose_frame\":\"camera\",\"producer_commit\":\"c0ffee\",\"producer_version\":\"0.1.0\"," ++
  "\"project_id\":\"00000000-0000-0000-0000-000000000001\"," ++
  "\"scene_id\":\"00000000-0000-0000-0000-000000000004\"," ++
  "\"sensor_id\":\"00000000-0000-0000-0000-000000000003\"," ++
  "\"session_id\":\"00000000-0000-0000-0000-000000000002\"," ++
  "\"source_hash\":\"90448e44d93d56a620e3874b31006fc804aaafe56c23140f2ba5ad68144f88bc\"," ++
  "\"source_producer\":\"\",\"source_unit\":\"meters\",\"source_version\":\"\"\x7d"

set_option maxRecDepth 10000 in
private theorem prepare_onePose :
    ((prepare halves compact release ⟨1⟩ onePose ofCamera (captured {})).toOption.map fun prepared =>
      (prepared.scene.sceneId, prepared.nodes, prepared.source, prepared.configBytes)) =
        some (⟨4⟩, oneNode, onePose, stringBytes configText) := by decide +kernel

private theorem digest_source : sha256Hex onePose =
    "90448e44d93d56a620e3874b31006fc804aaafe56c23140f2ba5ad68144f88bc" := by decide +kernel

set_option maxRecDepth 10000 in
private theorem digest_config : sha256Hex (stringBytes configText) =
    "b45f4c948162d4fe3e27650341e0777fb02d73c22b52982b6907c906e49e8b53" := by decide +kernel

set_option maxRecDepth 10000 in
private theorem digest_payload : sha256Hex (stringBytes (textOf oneDocument)) =
    "10fb5caa3341ff447cad30bad39d60707fc71c2ab5fcfaf20a0e0286980ddd73" := by decide +kernel

private theorem of_prepare_onePose {prepared : Prepared Rat}
    (h : prepare halves compact release ⟨1⟩ onePose ofCamera (captured {}) = .ok prepared) :
    prepared.scene.sceneId = ⟨4⟩ ∧ prepared.nodes = oneNode ∧ prepared.source = onePose ∧
      prepared.configBytes = stringBytes configText := by
  have hprepared := prepare_onePose
  rw [h] at hprepared
  simpa [Except.toOption] using hprepared

private theorem repeatable_onePose (prepared : Prepared Rat)
    (h : prepare halves compact release ⟨1⟩ onePose ofCamera (captured {}) = .ok prepared) :
    Repeatable halves compact sameText prepared firstCall (captured {}) := by
  obtain ⟨_, hnodes, hsource, hconfig⟩ := of_prepare_onePose h
  have hunused : ∀ row ∈ (captured {}).tables.store.artifacts.rows,
      row.artifactId ∉ [firstCall.rawUuid, firstCall.configUuid, firstCall.artifactUuid] :=
    fun _ h => absurd h List.not_mem_nil
  have hdigest : sha256Hex (payloadBytes halves compact firstCall prepared) =
      "10fb5caa3341ff447cad30bad39d60707fc71c2ab5fcfaf20a0e0286980ddd73" := by
    unfold payloadBytes serialized
    rw [hnodes]
    exact digest_payload
  refine ⟨⟨by decide, hunused, rfl, rfl, ?_, ?_, ?_⟩, ?_, ?_⟩
  · rw [hdigest, Prepared.sourceHash, hsource, digest_source]
    decide
  · rw [hdigest, Prepared.configHash, hconfig, digest_config]
    decide
  · rw [Prepared.sourceHash, hsource, digest_source, Prepared.configHash, hconfig, digest_config]
    decide
  · rw [hnodes]
    exact compact_roundTrips
  · exact sameText_self _

private theorem importOnePose_returns :
    ∃ result db', importOnePose firstCall (captured {}) = (.ok result, db') := by
  unfold importOnePose importTumCameraTrajectory
  rw [Persist.read_bind]
  cases hprepare : prepare halves compact release ⟨1⟩ onePose ofCamera (captured {}) with
  | error e =>
    have hprepared := prepare_onePose
    rw [hprepare] at hprepared
    cases hprepared
  | ok prepared =>
    obtain ⟨hscene, _⟩ := of_prepare_onePose hprepare
    apply importPrepared_returns halves compact sameText release prepared ofCamera rfl
    · exact fun _ => rfl
    · rw [hscene]
      decide
    · decide
    · exact fun _ h => absurd h List.not_mem_nil

/-- The pose is imported, and not again. -/
theorem onePose_imported_once : ∃ result db',
    importOnePose firstCall (captured {}) = (.ok result, db') ∧
      importOnePose { firstCall with trajectoryId := ⟨10⟩ } db' =
        (.ok { result with reused := true }, db') := by
  obtain ⟨result, db', hrun⟩ := importOnePose_returns
  exact ⟨result, db', hrun, (import_again_and_rollback halves compact sameText release ⟨1⟩ onePose
    ofCamera firstCall (captured {})).1 result db' hrun repeatable_onePose _⟩

/-- A store in which the file of the source has been overwritten. -/
private def overwritten : StoreState where
  payloads := AList.singleton (sha256Hex onePose) [0]
  artifacts := ArtifactTable.empty.upsert {
    artifactId := ⟨11⟩
    contentHash := sha256Hex onePose
    type := "trajectory_source"
    validationStatus := "unverified" }

private def statuses (db : TrajectoryProject Rat) : List String :=
  db.rows.tables.store.artifacts.rows.map (·.validationStatus)

set_option maxRecDepth 10000 in
private theorem statuses_overwritten :
    (importOnePose firstCall (captured overwritten)).1.toOption.isNone ∧
      statuses (importOnePose firstCall (captured overwritten)).2 = ["degraded"] ∧
      statuses (captured overwritten) = ["unverified"] := by decide +kernel

/-- An import that finds the stored source corrupt fails, and degrades its row. -/
theorem corrupt_source_degraded :
    ¬ ∀ e db', importOnePose firstCall (captured overwritten) = (.error e, db') →
      db'.rows = (captured overwritten).rows := by
  intro h
  obtain ⟨herror, hafter, hbefore⟩ := statuses_overwritten
  rcases hrun : importOnePose firstCall (captured overwritten) with ⟨e | result, db'⟩
  · rw [hrun] at hafter
    have hsame : statuses db' = statuses (captured overwritten) := by
      unfold statuses
      rw [h e db' hrun]
    rw [show statuses db' = _ from hafter, hbefore] at hsame
    exact absurd hsame (by decide)
  · rw [hrun] at herror
    cases herror

end SpatialPlatform.Importers
