import SpatialPlatform.Engine.Pipeline.SparseCorrection.Stage

/-!
# The revisions that the stage leaves behind

Each of the four parts of the stage is described by the list of revisions before
and after it, on every way out.
-/

namespace SpatialPlatform.Engine

open SpatialPlatform.Core SpatialPlatform.Lib

/-! ## The documents

For each step of the pipeline what a normal return tells about the document, and
that it leaves the revisions alone. -/

section

variable {R : Type} [Double R] {source document : Reconstruction R} {reconstructionId : Uuid}

omit [Double R] in
theorem applyOptimizedTrajectory_eq_ok {transform : Vector R 3 → Vector R 4 → ReconPose R}
    {input : ReconstructionFeedbackInput R} {details : List PoseFeedbackDetail}
    (h : ReconstructionFeedback.applyOptimizedTrajectory transform input reconstructionId =
      .ok (document, details)) :
    document.status = "succeeded" ∧
      document.createdAtNs = input.optimizationResult.createdAtNs := by
  unfold ReconstructionFeedback.applyOptimizedTrajectory at h
  repeat' split at h
  all_goals cases h
  exact ⟨rfl, rfl⟩

theorem appliedDocument_eq_ok {transform : Vector R 3 → Vector R 4 → ReconPose R}
    {verified : VerifiedLoopClosure R} {optimization : PersistedOptimization R} {hash : String}
    (h : appliedDocument transform reconstructionId source verified optimization hash = .ok document) :
    document.status = "succeeded" ∧
      document.createdAtNs = optimization.result.createdAtNs := by
  unfold appliedDocument at h
  split at h
  · cases h
  split at h
  · cases h
  split at h
  · cases h
  split at h
  · cases h
  next happly =>
    repeat' split at h
    all_goals cases h
    exact applyOptimizedTrajectory_eq_ok happly

omit [Double R] in
theorem retriangulatedDocument_eq_ok {sources : ObservationSources R}
    {triangulate : Reconstruction R → List (TriangulationObservation R) →
      Except ProjectError (RetriangulatedPoints R)}
    (h : retriangulatedDocument sources triangulate reconstructionId source = .ok document) :
    document.status = "succeeded" ∧ document.createdAtNs = source.createdAtNs + 100 := by
  obtain ⟨observations, _, h⟩ := bind_eq_ok h
  obtain ⟨result, _, h⟩ := bind_eq_ok h
  split at h
  all_goals cases h
  exact ⟨rfl, rfl⟩

omit [Double R] in
theorem maybePersistLoopClosurePoseGraph_eq_ok {metric : VerifiedLoopClosure R → Bool}
    {graphId : Uuid} {persisted : Except ProjectError String} {verified : VerifiedLoopClosure R}
    {assembled : AssembledPoseGraph R}
    (h : maybePersistLoopClosurePoseGraph metric graphId persisted verified = .ok (some assembled)) :
    assembled.closure = verified ∧ assembled.createdAtNs = verified.createdAtNs := by
  unfold maybePersistLoopClosurePoseGraph at h
  split at h
  · obtain ⟨hash, _, h⟩ := bind_eq_ok h
    cases h
    exact ⟨rfl, rfl⟩
  · cases h

theorem maybeRunTrajectoryOptimization_eq_ok
    {optimizer : Option (AssembledPoseGraph R → Except ProjectError (PoseOptimizationOutput R))}
    {persist : OptimizationResult → List (OptimizedPoseNode R) → Except ProjectError String}
    {assembled : AssembledPoseGraph R} {optimization : PersistedOptimization R}
    (h : maybeRunTrajectoryOptimization optimizer persist assembled = .ok optimization) :
    optimization.result.createdAtNs = assembled.createdAtNs := by
  unfold maybeRunTrajectoryOptimization at h
  cases optimizer with
  | none => cases h
  | some optimize =>
      obtain ⟨output, _, h⟩ := bind_eq_ok h
      split at h
      · cases h
      · obtain ⟨hash, _, h⟩ := bind_eq_ok h
        cases h
        rfl

end

namespace StageCall

variable {R : Type} [Double R] {call : StageCall R} {P : RevisionTables → Prop}
  {rows : List ReconstructionRow}

theorem triple_checkpoint {place : Checkpoint} :
    Persist.Triple P (call.checkpoint place) (fun _ => P) P := by
  apply Persist.Triple.ite
  · intro _
    exact .fail fun _ hdb => hdb
  · intro _
    exact .pure fun _ hdb => hdb

theorem triple_uncancelled_attempt {α : Type} {x : Except ProjectError α} :
    Persist.Triple P (uncancelled (attempt x)) (fun a db => x = .ok a ∧ P db) P :=
  triple_attempt.mapError

/-! ## Commit

The first row that the stage writes. Everything in front of it either returns or
stops without a trace. -/

/-- The row of a succeeded document. -/
def rowOf (call : StageCall R) (sceneId reconstructionId : Uuid) (document : Reconstruction R) :
    ReconstructionRow :=
  revisionRow call.codec document reconstructionId sceneId "succeeded" document.createdAtNs

theorem checked_eq_ok {input : StageInput R} (h : call.checked = .ok input) :
    call.codec.fromJson input.payload = some input.source := by
  obtain ⟨config, _, h⟩ := bind_eq_ok h
  repeat' split at h
  all_goals cases h
  assumption

theorem triple_findOrCreateScene {projectId : Uuid} {sceneName : String} :
    Persist.Triple (Revisions rows) (call.findOrCreateScene projectId sceneName)
      (fun _ => Revisions rows) (Revisions rows) := by
  intro db hdb
  unfold findOrCreateScene
  cases call.fault .scene with
  | some e => exact hdb
  | none =>
      rcases hscene : db.scenes.findOrCreateScene projectId sceneName "\x7b\x7d" 2000 call.sceneId
        call.versionId with ⟨_ | _, scenes⟩
      · exact hdb
      · exact hdb

theorem triple_commitWorkerReconstructionArtifact {sceneId : Uuid} {payload : String}
    {source : Reconstruction R} (hpayload : call.codec.fromJson payload = some source) :
    Persist.Triple (Revisions rows)
      (call.commitWorkerReconstructionArtifact sceneId payload source.createdAtNs)
      (fun document db => document = source ∧ ∃ reconstructionId,
        parseUuid document.reconstructionId = .ok reconstructionId ∧
        Revisions (rows ++ [call.rowOf sceneId reconstructionId document]) db)
      (Revisions rows) := by
  unfold commitWorkerReconstructionArtifact
  rw [hpayload]
  apply Persist.Triple.ite
  · intro _
    exact .fail fun _ hdb => hdb
  intro _
  apply Persist.Triple.ite
  · intro _
    exact .fail fun _ hdb => hdb
  intro _
  refine triple_attempt.bind fun reconstructionId => .of_and fun hid => ?_
  refine triple_addReconstruction.bind fun _ => ?_
  exact .pure fun db hdb => ⟨rfl, reconstructionId, hid, hdb⟩

variable (call) in
theorem triple_committed :
    Persist.Triple (Revisions rows) call.committed
      (fun commit db => commit.document = commit.input.source ∧
        call.verifyLoopClosure commit.input.source = .ok commit.verified ∧
        ∃ reconstructionId, parseUuid commit.document.reconstructionId = .ok reconstructionId ∧
          Revisions (rows ++ [call.rowOf commit.scene.sceneId reconstructionId commit.document]) db)
      (Revisions rows) := by
  unfold committed
  refine triple_uncancelled_attempt.bind fun input => .of_and fun hinput => ?_
  refine triple_uncancelled_attempt.bind fun projectId => .of_and fun _ => ?_
  refine Persist.Triple.read.bind fun preflight => Persist.Triple.pre ?_ fun _ hdb => hdb.1
  refine triple_uncancelled_attempt.bind fun _ => .of_and fun _ => ?_
  refine triple_checkpoint.bind fun _ => ?_
  refine triple_uncancelled_attempt.bind fun verified => .of_and fun hverified => ?_
  refine triple_checkpoint.bind fun _ => ?_
  refine triple_findOrCreateScene.mapError.bind fun scene => ?_
  refine (triple_commitWorkerReconstructionArtifact (checked_eq_ok hinput)).mapError.bind
    fun document => .of_and fun hdocument => ?_
  exact .pure fun db hdb => ⟨hdocument, hverified, hdb⟩

/-! ## Corrected poses

The row of the corrected document, with the clock that it was given; the two
checks in front of it look at the graph and at the optimizer. -/

variable {commit : StageCommit R}

theorem triple_assembled :
    Persist.Triple P (call.assembled commit)
      (fun assembled db => (∀ graph, assembled = some graph →
        commit.verified = some graph.closure ∧ graph.createdAtNs = graph.closure.createdAtNs) ∧ P db)
      P := by
  unfold assembled
  cases commit.verified with
  | none => exact .pure fun db hdb => ⟨fun graph hgraph => (nomatch hgraph), hdb⟩
  | some verified =>
      apply triple_uncancelled_attempt.post _ fun _ hdb => hdb
      rintro assembled db ⟨hgraph, hdb⟩
      refine ⟨?_, hdb⟩
      rintro graph rfl
      obtain ⟨rfl, hclock⟩ := maybePersistLoopClosurePoseGraph_eq_ok hgraph
      exact ⟨rfl, hclock⟩

theorem triple_optimization {assembled : Option (AssembledPoseGraph R)} :
    Persist.Triple P (call.optimization assembled)
      (fun optimized db => (∀ verified optimization, optimized = some (verified, optimization) →
        ∃ graph, assembled = some graph ∧ graph.closure = verified ∧
          optimization.result.createdAtNs = graph.createdAtNs) ∧ P db)
      P := by
  cases assembled with
  | none => exact .pure fun db hdb => ⟨fun _ _ h => (nomatch h), hdb⟩
  | some graph =>
      refine triple_uncancelled_attempt.bind fun optimization => .of_and fun hrun => ?_
      apply Persist.Triple.pure
      intro db hdb
      refine ⟨?_, hdb⟩
      rintro _ _ h
      cases h
      exact ⟨graph, rfl, rfl, maybeRunTrajectoryOptimization_eq_ok hrun⟩

/-- The clock of the closure is that of the optimized trajectory. -/
theorem triple_optimized :
    Persist.Triple P (call.optimized commit)
      (fun optimized db => (∀ verified optimization, optimized = some (verified, optimization) →
          commit.verified = some verified ∧
          optimization.result.createdAtNs = verified.createdAtNs) ∧ P db)
      P := by
  unfold optimized
  refine triple_checkpoint.bind fun _ => ?_
  refine triple_assembled.bind fun assembled => .of_and fun hassembled => ?_
  refine triple_checkpoint.bind fun _ => ?_
  refine triple_optimization.bind fun optimized => .of_and fun hoptimized => ?_
  refine triple_checkpoint.bind fun _ => ?_
  apply Persist.Triple.pure
  intro db hdb
  refine ⟨?_, hdb⟩
  intro verified optimization h
  obtain ⟨graph, hgraph, rfl, hclock⟩ := hoptimized verified optimization h
  obtain ⟨hverified, hcreated⟩ := hassembled graph hgraph
  exact ⟨hverified, hclock.trans hcreated⟩

theorem triple_insertDocument {sceneId : Uuid} {fault : Option ProjectError}
    {document : Reconstruction R} (hstatus : document.status = "succeeded") :
    Persist.Triple (Revisions rows) (insertDocument call.codec sceneId fault document)
      (fun _ db => ∃ reconstructionId, parseUuid document.reconstructionId = .ok reconstructionId ∧
        Revisions (rows ++ [call.rowOf sceneId reconstructionId document]) db)
      (Revisions rows) := by
  unfold insertDocument
  refine triple_attempt.bind fun reconstructionId => .of_and fun hid => ?_
  rw [hstatus]
  exact triple_addReconstruction.post (fun _ db hdb => ⟨reconstructionId, hid, hdb⟩) fun _ hdb => hdb

variable (call commit) in
/-- The corrected document has the clock of the closure. -/
theorem triple_applied :
    Persist.Triple (Revisions rows) (call.applied commit)
      (fun applied db =>
        (applied = none ∧ Revisions rows db) ∨
        ∃ document verified reconstructionId, applied = some document ∧
          commit.verified = some verified ∧ document.createdAtNs = verified.createdAtNs ∧
          parseUuid document.reconstructionId = .ok reconstructionId ∧
          Revisions (rows ++ [call.rowOf commit.scene.sceneId reconstructionId document]) db)
      (Revisions rows) := by
  unfold applied
  refine triple_optimized.bind fun optimized => .of_and fun hoptimized => ?_
  rcases optimized with _ | ⟨verified, optimization⟩
  · exact .pure fun db hdb => .inl ⟨rfl, hdb⟩
  obtain ⟨hverified, hclock⟩ := hoptimized verified optimization rfl
  refine triple_uncancelled_attempt.bind fun document => .of_and fun hdocument => ?_
  obtain ⟨hstatus, hcreated⟩ := appliedDocument_eq_ok hdocument
  refine (triple_insertDocument hstatus).mapError.bind fun _ => ?_
  apply Persist.Triple.pure
  rintro db ⟨reconstructionId, hid, hdb⟩
  exact .inr ⟨document, verified, reconstructionId, rfl, hverified, hcreated.trans hclock, hid, hdb⟩

/-! ## New points

A retriangulated document replaces the committed one: one row more, and one that
gives way. The branches without new points leave the rows. -/

variable {document : Reconstruction R} {reconstructionId : Uuid}

/-- The first document of a scene that is replaced by one with other points. -/
theorem triple_maybeRetriangulateAppliedRevision {sceneId : Uuid}
    (hid : parseUuid document.reconstructionId = .ok reconstructionId) :
    Persist.Triple (Revisions (rows ++ [call.rowOf sceneId reconstructionId document]))
      (call.maybeRetriangulateAppliedRevision sceneId document)
      (fun v3 db =>
        (v3 = none ∧ document.points3D.isEmpty = true ∧
          Revisions (rows ++ [call.rowOf sceneId reconstructionId document]) db) ∨
        ∃ new newId, v3 = some new ∧ document.points3D.isEmpty = false ∧
          new.createdAtNs = document.createdAtNs + 100 ∧
          parseUuid new.reconstructionId = .ok newId ∧
          Revisions (rows ++ [superseded (call.rowOf sceneId reconstructionId document),
            call.rowOf sceneId newId new]) db)
      (fun db => Revisions (rows ++ [call.rowOf sceneId reconstructionId document]) db ∨
        ∃ new newId, Revisions (rows ++ [superseded (call.rowOf sceneId reconstructionId document),
          call.rowOf sceneId newId new]) db) := by
  unfold maybeRetriangulateAppliedRevision
  apply Persist.Triple.ite
  · intro hempty
    exact .pure fun db hdb => .inl ⟨rfl, hempty, hdb⟩
  intro hpoints
  refine (triple_attempt.post (fun _ _ h => h) fun db hdb => .inl hdb).bind
    fun new => .of_and fun hnew => ?_
  obtain ⟨hstatus, hclock⟩ := retriangulatedDocument_eq_ok hnew
  -- the applied revision is superseded and the new one inserted in one transaction
  have hreplaced : Persist.Triple
      (Revisions (rows ++ [call.rowOf sceneId reconstructionId document]))
      (replaceDocument call.codec sceneId (call.fault .retriangulate) new document)
      (fun _ db => ∃ newId, parseUuid new.reconstructionId = .ok newId ∧
        Revisions (rows ++ [superseded (call.rowOf sceneId reconstructionId document),
          call.rowOf sceneId newId new]) db)
      (Revisions (rows ++ [call.rowOf sceneId reconstructionId document])) := by
    unfold replaceDocument
    refine triple_attempt.bind fun newId => .of_and fun hnewId => ?_
    rw [hstatus]
    exact (triple_replaceRevision hid).post (fun _ db hdb => ⟨newId, hnewId, hdb⟩) fun _ hdb => hdb
  refine (hreplaced.post (fun _ _ h => h) fun db hdb => .inl hdb).bind fun _ => ?_
  rintro db ⟨newId, hnewId, hdb⟩
  exact (triple_attempt.post (fun _ _ h => h) fun db hdb => .inr ⟨new, newId, hdb⟩).bind
    (fun _ => .of_and fun _ => .pure fun db hdb =>
      .inr ⟨new, newId, rfl, by simpa using hpoints, hclock, hnewId, hdb⟩) db hdb

variable (call commit) in
theorem triple_retriangulated_none :
    Persist.Triple P (call.retriangulated commit none) (fun v3 db => v3 = none ∧ P db) P := by
  unfold retriangulated
  have hrecomputed : Persist.Triple P (call.recomputed commit none) (fun v3 db => v3 = none ∧ P db) P :=
    triple_checkpoint.bind fun _ => .pure fun _ hdb => ⟨rfl, hdb⟩
  refine hrecomputed.bind fun v3 => .of_and ?_
  rintro rfl
  refine triple_checkpoint.bind fun _ => ?_
  exact fun _ hdb => ⟨rfl, hdb⟩

/-- The committed revision gives way to the one with new points. -/
theorem triple_compacted {new : Reconstruction R} {committed : ReconstructionRow}
    {more : List ReconstructionRow}
    (hid : parseUuid commit.document.reconstructionId = .ok committed.reconstructionId) :
    Persist.Triple (Revisions (rows ++ committed :: more)) (call.compacted commit (some new))
      (fun _ => Revisions (rows ++ superseded committed :: more))
      (Revisions (rows ++ committed :: more)) := by
  show Persist.Triple _ (writeTransaction (call.fault .compact) _) _ _
  apply triple_writeTransaction
  intro db db' hdb hok
  exact revisions_setReconstructionStatus hid hdb hok

variable (call commit rows) in
theorem triple_recomputed
    (hid : parseUuid document.reconstructionId = .ok reconstructionId) :
    Persist.Triple
      (Revisions (rows ++ [call.rowOf commit.scene.sceneId reconstructionId document]))
      (call.recomputed commit (some document))
      (fun v3 db =>
        (v3 = none ∧ document.points3D.isEmpty = true ∧
          Revisions (rows ++ [call.rowOf commit.scene.sceneId reconstructionId document]) db) ∨
        ∃ new newId, v3 = some new ∧ document.points3D.isEmpty = false ∧
          new.createdAtNs = document.createdAtNs + 100 ∧
          parseUuid new.reconstructionId = .ok newId ∧
          Revisions (rows ++ [superseded (call.rowOf commit.scene.sceneId reconstructionId document),
            call.rowOf commit.scene.sceneId newId new]) db)
      (fun db =>
        Revisions (rows ++ [call.rowOf commit.scene.sceneId reconstructionId document]) db ∨
        ∃ new newId, Revisions (rows ++
          [superseded (call.rowOf commit.scene.sceneId reconstructionId document),
            call.rowOf commit.scene.sceneId newId new]) db) := by
  unfold recomputed
  refine (triple_uncancelled_attempt.post (fun _ _ h => h) fun _ hdb => .inl hdb).bind
    fun _ => .of_and fun _ => ?_
  refine (triple_checkpoint.post (fun _ _ h => h) fun _ hdb => .inl hdb).bind fun _ => ?_
  exact (triple_maybeRetriangulateAppliedRevision hid).mapError

variable (call) in
theorem triple_retriangulated {committedId : Uuid}
    (hcommitted : parseUuid commit.document.reconstructionId = .ok committedId)
    (hid : parseUuid document.reconstructionId = .ok reconstructionId) :
    Persist.Triple
      (Revisions (rows ++ [call.rowOf commit.scene.sceneId committedId commit.document,
        call.rowOf commit.scene.sceneId reconstructionId document]))
      (call.retriangulated commit (some document))
      (fun v3 db =>
        (v3 = none ∧ document.points3D.isEmpty = true ∧
          Revisions (rows ++ [call.rowOf commit.scene.sceneId committedId commit.document,
            call.rowOf commit.scene.sceneId reconstructionId document]) db) ∨
        ∃ new newId, v3 = some new ∧ document.points3D.isEmpty = false ∧
          new.createdAtNs = document.createdAtNs + 100 ∧
          parseUuid new.reconstructionId = .ok newId ∧
          Revisions (rows ++
            [superseded (call.rowOf commit.scene.sceneId committedId commit.document),
              superseded (call.rowOf commit.scene.sceneId reconstructionId document),
              call.rowOf commit.scene.sceneId newId new]) db)
      (fun db =>
        Revisions (rows ++ [call.rowOf commit.scene.sceneId committedId commit.document,
          call.rowOf commit.scene.sceneId reconstructionId document]) db ∨
        ∃ new newId, Revisions (rows ++
          [call.rowOf commit.scene.sceneId committedId commit.document,
            superseded (call.rowOf commit.scene.sceneId reconstructionId document),
            call.rowOf commit.scene.sceneId newId new]) db) := by
  unfold retriangulated
  have hrecomputed := triple_recomputed call
    (rows ++ [call.rowOf commit.scene.sceneId committedId commit.document]) commit hid
  simp only [List.append_assoc, List.singleton_append] at hrecomputed
  refine hrecomputed.bind fun v3 => ?_
  refine (triple_checkpoint.post (fun _ _ h => h) ?_).bind fun _ => ?_
  · rintro db (⟨_, _, hdb⟩ | ⟨new, newId, _, _, _, _, hdb⟩)
    · exact .inl hdb
    · exact .inr ⟨new, newId, hdb⟩
  -- the committed revision is compacted only when there are new points
  rintro db (⟨rfl, hempty, hdb⟩ | ⟨new, newId, rfl, hpoints, hclock, hnewId, hdb⟩)
  · exact .inl ⟨rfl, hempty, hdb⟩
  · refine Persist.Triple.bind (Q := fun _ => Revisions (rows ++
      [superseded (call.rowOf commit.scene.sceneId committedId commit.document),
        superseded (call.rowOf commit.scene.sceneId reconstructionId document),
        call.rowOf commit.scene.sceneId newId new])) ?_
      (fun _ => .pure fun db hdb => .inr ⟨new, newId, rfl, hpoints, hclock, hnewId, hdb⟩) db hdb
    apply Persist.Triple.mapError
    refine (triple_compacted ?_).post (fun _ _ h => h) fun _ hdb => .inr ⟨new, newId, hdb⟩
    exact hcommitted

/-! ## Bundle adjustment

The last part of the stage, from the revision that it is given. -/

/-- The revision that the bundle adjustment starts from, among the others of the scene. -/
theorem triple_refined {v3 : Option (Reconstruction R)} {before after : List ReconstructionRow}
    {source : ReconstructionRow}
    (hid : parseUuid (v3.getD commit.document).reconstructionId = .ok source.reconstructionId) :
    Persist.Triple (Revisions (before ++ source :: after)) (call.refined commit v3)
      (fun v4 db => ∃ v4Id, parseUuid v4.reconstructionId = .ok v4Id ∧
        Revisions (before ++ superseded source :: (after ++
          [call.rowOf commit.scene.sceneId v4Id v4])) db)
      (fun db => Revisions (before ++ source :: after) db ∨
        ∃ v4 v4Id, Revisions (before ++ superseded source :: (after ++
          [call.rowOf commit.scene.sceneId v4Id v4])) db) := by
  unfold refined
  refine (triple_uncancelled_attempt.post (fun _ _ h => h) fun _ hdb => .inl hdb).bind
    fun observations => .of_and fun _ => ?_
  refine ((triple_bundleAdjustmentOptimizePipeline hid).mapError.post (fun _ _ h => h)
    fun _ hdb => .inl hdb).bind fun out => ?_
  -- whatever the stage says of the outcome, the revisions are those that the transaction left
  apply Persist.Triple.ite
  · intro _
    apply Persist.Triple.fail
    rintro db (⟨_, hdb⟩ | ⟨_, v4, v4Id, _, _, hdb⟩)
    · exact .inl hdb
    · exact .inr ⟨v4, v4Id, hdb⟩
  intro _
  apply Persist.Triple.ite
  · intro hgate
    apply Persist.Triple.fail
    rintro db (⟨_, hdb⟩ | ⟨hpassed, _⟩)
    · exact .inl hdb
    · rw [hgate] at hpassed
      exact (nomatch hpassed)
  intro hgate
  cases hv4 : out.v4 with
  | none =>
      apply Persist.Triple.fail
      rintro db (⟨_, hdb⟩ | ⟨_, v4, v4Id, _, _, hdb⟩)
      · exact .inl hdb
      · exact .inr ⟨v4, v4Id, hdb⟩
  | some v4 =>
      refine Persist.Triple.pre (P := fun db => ∃ v4Id, parseUuid v4.reconstructionId = .ok v4Id ∧
        Revisions (before ++ superseded source :: (after ++
          [call.rowOf commit.scene.sceneId v4Id v4])) db) ?_ ?_
      · refine (triple_checkpoint.post (fun _ _ h => h)
          fun _ ⟨v4Id, _, hdb⟩ => .inr ⟨v4, v4Id, hdb⟩).bind fun _ => ?_
        refine (triple_uncancelled_attempt.post (fun _ _ h => h)
          fun _ ⟨v4Id, _, hdb⟩ => .inr ⟨v4, v4Id, hdb⟩).bind fun _ => .of_and fun _ => ?_
        exact .pure fun _ hdb => hdb
      · rintro db (⟨hfailed, _⟩ | ⟨_, new, v4Id, hnew, hid', hdb⟩)
        · exact absurd hfailed hgate
        · cases hnew
          exact ⟨v4Id, hid', hdb⟩

end StageCall

end SpatialPlatform.Engine
