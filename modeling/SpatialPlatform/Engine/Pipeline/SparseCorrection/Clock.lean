import SpatialPlatform.Engine.Pipeline.SparseCorrection.OneSucceeded

/-!
# The clock of the revisions

The revisions of one call get their clocks in four places: the committed one has
that of the input document, the corrected one that of the loop closure, the one
with new points is 100 later, and the last one has what the optimizer makes of
the clock of its source: `ColmapBundleAdjustmentAdapter` takes zero,
`GtsamBundleAdjustmentOptimizer` adds 100. The queries order by these clocks.

* `latestIsRefined_iff` — from which clocks the refined revision becomes the
  latest one.
-/

namespace SpatialPlatform.Engine

open SpatialPlatform.Core SpatialPlatform.Lib

namespace StageCall

variable {R : Type} [Double R] {call : StageCall R} {commit : StageCommit R}
  {db db' db₁ db₂ : RevisionTables} {rows : List ReconstructionRow}
  {applied : Option (Reconstruction R)} {v4 document : Reconstruction R}

/-- The clocks of the revisions before the last, from the input document and the closure. -/
def clocksBefore (commit : StageCommit R) (applied : Option (Reconstruction R)) : List Int64 :=
  commit.input.source.createdAtNs ::
    match applied, commit.verified with
    | some document, some verified =>
        if document.points3D.isEmpty then [verified.createdAtNs]
        else [verified.createdAtNs, verified.createdAtNs + 100]
    | _, _ => []

/-- The clock of the document that the bundle adjustment starts from: the one
with new points, or the committed one. -/
def sourceClock (commit : StageCommit R) (applied : Option (Reconstruction R)) : Int64 :=
  match applied, commit.verified with
  | some document, some verified =>
      if document.points3D.isEmpty then commit.input.source.createdAtNs
      else verified.createdAtNs + 100
  | _, _ => commit.input.source.createdAtNs

/-- The optimizer makes the clock of its document from that of its source. -/
def AssignsClock (call : StageCall R) (clock : Int64 → Int64) : Prop :=
  ∀ optimizer ∈ call.baOptimizer, ∀ input result, optimizer input = .ok result →
    result.reconstruction.createdAtNs = clock input.source.createdAtNs

/-- `ColmapBundleAdjustmentAdapter`. -/
def colmapClock (_source : Int64) : Int64 := 0

/-- `GtsamBundleAdjustmentOptimizer`. -/
def gtsamClock (source : Int64) : Int64 := source + 100

/-- After a successful call, the clocks of its revisions ascend, the query for
the latest revision finds the refined one, and the newest revision of the scene
is a succeeded one. -/
def LatestIsRefined (call : StageCall R) (db : RevisionTables) : Prop :=
  ∀ commit db₁ v4, call.committed db = (.ok commit, db₁) → (call.run db).1 = .ok v4 →
    (((call.run db).2.revisions.drop db.revisions.length).map
      ReconstructionRow.createdAtNs).Pairwise (· < ·) ∧
    (∃ v4Id, parseUuid v4.reconstructionId = .ok v4Id ∧
      ∀ tie, (call.run db).2.queryLatestReconstructionByScene tie commit.scene.sceneId =
        some (call.rowOf commit.scene.sceneId v4Id v4)) ∧
    ∀ tie, ((call.run db).2.newestReconstructionOfScene tie commit.scene.sceneId).map
      ReconstructionRow.status = some "succeeded"

/-- The clocks that a call is given: those of the input document, of the
closure, and of the revisions that the scene has already. -/
structure AscendingClocks (clock : Int64 → Int64) (commit : StageCommit R)
    (applied : Option (Reconstruction R)) (db : RevisionTables) : Prop where
  /-- The input document is older than the closure that corrects it. -/
  closure : ∀ document ∈ applied, ∀ verified ∈ commit.verified,
    commit.input.source.createdAtNs < verified.createdAtNs
  /-- The clock of the revision with new points does not overflow. -/
  overflow : ∀ document ∈ applied, document.points3D.isEmpty = false →
    ∀ verified ∈ commit.verified, verified.createdAtNs ≤ Int64.maxValue - 100
  /-- What the optimizer makes of the clock of its source is later than the clocks before it. -/
  later : ∀ before ∈ clocksBefore commit applied, before < clock (sourceClock commit applied)
  /-- It is later than all that the scene has already. -/
  history : ∀ row ∈ db.revisions, row.sceneId = commit.scene.sceneId →
    row.createdAtNs < clock (sourceClock commit applied)

/-- A call that succeeds is given ascending clocks. -/
def ClocksAscend (call : StageCall R) (clock : Int64 → Int64) (db : RevisionTables) : Prop :=
  ∀ commit db₁ applied db₂, call.committed db = (.ok commit, db₁) →
    call.applied commit db₁ = (.ok applied, db₂) → (call.run db).1.isOk = true →
    AscendingClocks clock commit applied db

instance instDecidableAscendingClocks (clock : Int64 → Int64) (commit : StageCommit R)
    (applied : Option (Reconstruction R)) (db : RevisionTables) :
    Decidable (AscendingClocks clock commit applied db) :=
  decidable_of_iff
    ((∀ document ∈ applied, ∀ verified ∈ commit.verified,
        commit.input.source.createdAtNs < verified.createdAtNs) ∧
      (∀ document ∈ applied, document.points3D.isEmpty = false →
        ∀ verified ∈ commit.verified, verified.createdAtNs ≤ Int64.maxValue - 100) ∧
      -- the clocks of the list are tested, not all that an `Int64` can be
      (clocksBefore commit applied).all (decide <| · < clock (sourceClock commit applied)) ∧
      ∀ row ∈ db.revisions, row.sceneId = commit.scene.sceneId →
        row.createdAtNs < clock (sourceClock commit applied))
    ⟨fun ⟨h₁, h₂, h₃, h₄⟩ => ⟨h₁, h₂, by simpa using h₃, h₄⟩,
      fun ⟨h₁, h₂, h₃, h₄⟩ => ⟨h₁, h₂, by simpa using h₃, h₄⟩⟩

/-- The parts of the stage that decide on the condition can be run. -/
def clocksAscend (call : StageCall R) (clock : Int64 → Int64) (db : RevisionTables) : Bool :=
  match call.committed db with
  | (.ok commit, db₁) =>
      match call.applied commit db₁ with
      | (.ok applied, _) => decide (AscendingClocks clock commit applied db)
      | _ => true
  | _ => true

theorem clocksAscend_of_run {clock : Int64 → Int64} (h : call.clocksAscend clock db = true) :
    call.ClocksAscend clock db := by
  intro commit db₁ applied db₂ hcommitted happlied _
  rw [clocksAscend, hcommitted] at h
  simp only [happlied] at h
  exact of_decide_eq_true h

/-! ## Ascending clocks

The clocks before the last ascend if the closure is later than the input and 100
can be added to its clock; with the clock of the optimizer this is the order of
all revisions of the call. -/

theorem lt_add_hundred_iff {c : Int64} : c < c + 100 ↔ c ≤ Int64.maxValue - 100 := by
  have hlow := c.minValue_le_toInt
  have hhigh := c.toInt_le
  rw [Int64.toInt_minValue] at hlow
  rw [Int64.toInt_maxValue] at hhigh
  have hbound : (Int64.maxValue - 100).toInt = 2 ^ 63 - 101 := by decide
  rw [Int64.lt_iff_toInt_lt, Int64.le_iff_toInt_le, hbound, Int64.toInt_add,
    show (100 : Int64).toInt = 100 from rfl, Int.bmod_def]
  omega

omit [Double R] in
theorem pairwise_clocksBefore_iff :
    (clocksBefore commit applied).Pairwise (· < ·) ↔
      (∀ document ∈ applied, ∀ verified ∈ commit.verified,
        commit.input.source.createdAtNs < verified.createdAtNs) ∧
      ∀ document ∈ applied, document.points3D.isEmpty = false →
        ∀ verified ∈ commit.verified, verified.createdAtNs ≤ Int64.maxValue - 100 := by
  unfold clocksBefore
  cases applied with
  | none => simp
  | some document =>
      cases commit.verified with
      | none => simp
      | some verified =>
          cases hpoints : document.points3D.isEmpty with
          | true => simp [List.isEmpty_iff.mp hpoints]
          | false =>
              simp only [hpoints, Bool.false_eq_true, if_false, List.pairwise_cons, List.mem_cons,
                List.not_mem_nil, or_false, forall_eq_or_imp, forall_eq, List.Pairwise.nil, and_true,
                IsEmpty.forall_iff, implies_true, Option.mem_def, Option.some.injEq, forall_eq',
                forall_const, lt_add_hundred_iff]
              refine ⟨fun ⟨⟨hfirst, _⟩, hsecond⟩ => ⟨hfirst, hsecond⟩, fun ⟨hfirst, hsecond⟩ => ?_⟩
              refine ⟨⟨hfirst, ?_⟩, hsecond⟩
              exact Int64.lt_trans hfirst (lt_add_hundred_iff.mpr hsecond)

omit [Double R] in
theorem ascendingClocks_iff {clock : Int64 → Int64} :
    AscendingClocks clock commit applied db ↔
      (clocksBefore commit applied ++ [clock (sourceClock commit applied)]).Pairwise (· < ·) ∧
        ∀ row ∈ db.revisions, row.sceneId = commit.scene.sceneId →
          row.createdAtNs < clock (sourceClock commit applied) := by
  rw [List.pairwise_append, pairwise_clocksBefore_iff]
  constructor
  · intro h
    refine ⟨⟨⟨h.closure, h.overflow⟩, List.pairwise_singleton _ _, fun before hbefore last hlast => ?_⟩,
      h.history⟩
    rw [List.mem_singleton.mp hlast]
    exact h.later before hbefore
  · rintro ⟨⟨⟨hclosure, hoverflow⟩, -, hlater⟩, hhistory⟩
    exact ⟨hclosure, hoverflow, fun before hbefore => hlater before hbefore _ (List.mem_singleton.mpr rfl),
      hhistory⟩

omit [Double R] in
/-- The adapter of COLMAP keeps the order only of what was made before the epoch. -/
theorem AscendingClocks.source_neg (h : AscendingClocks colmapClock commit applied db) :
    commit.input.source.createdAtNs < 0 :=
  h.later _ List.mem_cons_self

omit [Double R] in
/-- With the optimizer of GTSAM, a revision with new points is the latest one as
long as the scene has no later one already. -/
theorem ascendingClocks_gtsam_iff {document : Reconstruction R} {verified : VerifiedLoopClosure R}
    (hverified : commit.verified = some verified) (hpoints : document.points3D.isEmpty = false) :
    AscendingClocks gtsamClock commit (some document) db ↔
      commit.input.source.createdAtNs < verified.createdAtNs ∧
        verified.createdAtNs ≤ Int64.maxValue - 100 ∧
        verified.createdAtNs + 100 ≤ Int64.maxValue - 100 ∧
        ∀ row ∈ db.revisions, row.sceneId = commit.scene.sceneId →
          row.createdAtNs < verified.createdAtNs + 100 + 100 := by
  have hsource : sourceClock commit (some document) = verified.createdAtNs + 100 := by
    simp only [sourceClock, hverified, hpoints, Bool.false_eq_true, if_false]
  have hbefore : clocksBefore commit (some document) = [commit.input.source.createdAtNs,
      verified.createdAtNs, verified.createdAtNs + 100] := by
    simp only [clocksBefore, hverified, hpoints, Bool.false_eq_true, if_false]
  constructor
  · intro h
    have hlast := h.later (verified.createdAtNs + 100) (by simp [hbefore])
    rw [hsource, gtsamClock, lt_add_hundred_iff] at hlast
    have hhistory := h.history
    rw [hsource, gtsamClock] at hhistory
    exact ⟨h.closure document rfl verified hverified, h.overflow document rfl hpoints verified hverified,
      hlast, hhistory⟩
  · rintro ⟨hclosure, hoverflow, hlast, hhistory⟩
    have hsecond := lt_add_hundred_iff.mpr hoverflow
    have hthird := lt_add_hundred_iff.mpr hlast
    refine ⟨fun _ _ verified' hverified' => ?_, fun _ _ _ verified' hverified' => ?_, ?_, ?_⟩
    · cases hverified.symm.trans hverified'
      exact hclosure
    · cases hverified.symm.trans hverified'
      exact hoverflow
    · rw [hsource, hbefore, gtsamClock]
      simp only [List.mem_cons, List.not_mem_nil, or_false, forall_eq_or_imp, forall_eq]
      exact ⟨Int64.lt_trans hclosure (Int64.lt_trans hsecond hthird), Int64.lt_trans hsecond hthird, hthird⟩
    · rw [hsource, gtsamClock]
      exact hhistory

/-! ## What a successful call adds

A call ends with one of three parts: the corrected document, the retriangulated
one, or the one that the bundle adjustment has made of either. `Refined` is what
they have in common, so that the clocks of the added rows are read off once; the
queries of the scene then compare them with the older rows. -/

/-- The revisions before the refined one, and the refined one. -/
structure Refined (call : StageCall R) (commit : StageCommit R) (applied : Option (Reconstruction R))
    (v4 : Reconstruction R) (rows : List ReconstructionRow) (db : RevisionTables) where
  others : List ReconstructionRow
  v4Id : Uuid
  parse : parseUuid v4.reconstructionId = .ok v4Id
  revisions : db.revisions = rows ++ (others ++ [call.rowOf commit.scene.sceneId v4Id v4])
  scene : ∀ row ∈ others, row.sceneId = commit.scene.sceneId
  clocks : others.map ReconstructionRow.createdAtNs = clocksBefore commit applied
  /-- The optimizer has refined the document that the parts before it lead to. -/
  refinedClock : ∀ clock, call.AssignsClock clock → v4.createdAtNs = clock (sourceClock commit applied)

/-- A document that comes out of the pipeline is one that the optimizer has made of the source. -/
theorem triple_pipeline_optimized {codec : ReconstructionCodec R}
    {input : BundleAdjustmentOptimizePipelineInput R} {fault : Option ProjectError} :
    Persist.Triple (fun _ => True) (bundleAdjustmentOptimizePipeline codec input fault)
      (fun out _ => ∀ v4 ∈ out.v4, ∃ optimizer ∈ input.optimizer, ∃ seam result,
        optimizer seam = .ok result ∧ seam.source = input.sourceV3 ∧ result.reconstruction = v4)
      (fun _ => True) := by
  unfold bundleAdjustmentOptimizePipeline
  cases input.optimizer with
  | none => exact .pure fun _ _ _ h => (nomatch h)
  | some optimizer =>
      apply Persist.Triple.ite
      · intro _
        exact .fail fun _ _ => trivial
      intro _
      apply Persist.Triple.ite
      · intro _
        exact .fail fun _ _ => trivial
      intro _
      refine triple_attempt.bind fun seam => .of_and fun hseam => ?_
      have hmade : ∀ v4 ∈ some seam.reconstruction, ∃ o ∈ some optimizer, ∃ input' result,
          o input' = .ok result ∧ input'.source = input.sourceV3 ∧ result.reconstruction = v4 := by
        rintro v4 ⟨⟩
        exact ⟨optimizer, rfl, _, seam, hseam, rfl, rfl⟩
      apply Persist.Triple.ite
      · intro _
        exact .fail fun _ _ => trivial
      intro _
      apply Persist.Triple.ite
      · intro _
        exact .pure fun _ _ => hmade
      intro _
      refine triple_attempt.bind fun v4Id => .of_and fun _ => ?_
      refine (triple_writeTransaction (Q := fun _ => True) fun _ _ _ _ => trivial).bind fun _ => ?_
      exact .pure fun _ _ => hmade

theorem refined_optimized {v3 : Option (Reconstruction R)}
    (hrun : call.refined commit v3 db = (.ok v4, db')) :
    ∃ optimizer ∈ call.baOptimizer, ∃ seam result, optimizer seam = .ok result ∧
      seam.source = v3.getD commit.document ∧ result.reconstruction = v4 := by
  unfold refined at hrun
  obtain ⟨observations, db₁, _, hrun⟩ := Persist.bind_eq_ok hrun
  obtain ⟨out, db₂, hout, hrun⟩ := Persist.bind_eq_ok hrun
  have hmade := triple_pipeline_optimized.mapError.ok (s := db₁) trivial hout
  split at hrun
  · exact (nomatch hrun)
  split at hrun
  · exact (nomatch hrun)
  cases hv4 : out.v4 with
  | none =>
      rw [hv4] at hrun
      exact (nomatch hrun)
  | some made =>
      rw [hv4] at hrun
      obtain ⟨_, db₃, _, hrun⟩ := Persist.bind_eq_ok hrun
      obtain ⟨_, db₄, _, hrun⟩ := Persist.bind_eq_ok hrun
      obtain ⟨optimizer, hoptimizer, seam, result, hseam, hsource, hresult⟩ := hmade made hv4
      cases hrun
      exact ⟨optimizer, hoptimizer, seam, result, hseam, hsource, hresult⟩

/-- The last part of the stage, seen from the revision that it refines. -/
theorem refined_of_ok (v3 : Option (Reconstruction R)) (before after : List ReconstructionRow)
    (source : ReconstructionRow)
    (hid : parseUuid (v3.getD commit.document).reconstructionId = .ok source.reconstructionId)
    (hdb : db.revisions = rows ++ (before ++ source :: after))
    (hscene : ∀ row ∈ before ++ source :: after, row.sceneId = commit.scene.sceneId)
    (hclocks : (before ++ source :: after).map ReconstructionRow.createdAtNs =
      clocksBefore commit applied)
    (hsource : (v3.getD commit.document).createdAtNs = sourceClock commit applied)
    (hrun : call.refined commit v3 db = (.ok v4, db')) :
    Nonempty (Refined call commit applied v4 rows db') := by
  rw [← List.append_assoc] at hdb
  obtain ⟨v4Id, hparse, hdb'⟩ := (triple_refined hid).ok hdb hrun
  refine ⟨before ++ superseded source :: after, v4Id, hparse, ?_, ?_, ?_, fun clock hclock => ?_⟩
  · rw [hdb']
    simp
  · intro row hrow
    rcases List.mem_append.mp hrow with hrow | hrow
    · exact hscene row (List.mem_append_left _ hrow)
    rcases List.mem_cons.mp hrow with rfl | hrow
    · exact hscene source (List.mem_append_right _ List.mem_cons_self)
    · exact hscene row (List.mem_append_right _ (List.mem_cons_of_mem _ hrow))
  · rw [← hclocks, List.map_append, List.map_append]
    rfl
  · obtain ⟨optimizer, hoptimizer, seam, result, hseam, hmade, hresult⟩ := refined_optimized hrun
    rw [← hresult, hclock optimizer hoptimizer seam result hseam, hmade, hsource]

theorem refined_of_corrected {committedId : Uuid}
    (hsource : commit.document = commit.input.source)
    (hid : parseUuid commit.document.reconstructionId = .ok committedId)
    (hdb₁ : Revisions (rows ++ [call.rowOf commit.scene.sceneId committedId commit.document]) db₁)
    (hrun : call.corrected commit db₁ = (.ok v4, db')) :
    ∃ applied db₂, call.applied commit db₁ = (.ok applied, db₂) ∧
      Nonempty (Refined call commit applied v4 rows db') := by
  obtain ⟨applied, db₂, happlied, hrun⟩ := Persist.bind_eq_ok hrun
  obtain ⟨v3, db₃, hretriangulated, hrun⟩ := Persist.bind_eq_ok hrun
  refine ⟨applied, db₂, happlied, ?_⟩
  have hfirst : (call.rowOf commit.scene.sceneId committedId commit.document).createdAtNs =
      commit.input.source.createdAtNs := by
    rw [← hsource]
    rfl
  obtain ⟨rfl, hdb₂⟩ | ⟨document, verified, reconstructionId, rfl, hverified, hclock, hdocument,
    hdb₂⟩ := (triple_applied call commit).ok hdb₁ happlied
  · -- no verified closure: the committed document is refined as it is
    obtain ⟨rfl, hdb₃⟩ := (triple_retriangulated_none call commit).ok hdb₂ hretriangulated
    refine refined_of_ok none [] [] (call.rowOf commit.scene.sceneId committedId commit.document)
      hid hdb₃ ?_ ?_ (by rw [Option.getD_none, hsource]; rfl) hrun
    · rintro row hrow
      rw [List.mem_singleton.mp hrow]
      rfl
    · show [_] = _
      rw [hfirst]
      rfl
  rw [List.append_assoc] at hdb₂
  obtain ⟨rfl, hempty, hdb₃⟩ | ⟨new, newId, rfl, hpoints, hnew, hnewId, hdb₃⟩ :=
    (triple_retriangulated call hid hdocument).ok hdb₂ hretriangulated
  · -- the poses are corrected, and there are no points to compute again
    refine refined_of_ok none [] [_]
      (call.rowOf commit.scene.sceneId committedId commit.document) hid hdb₃ ?_ ?_ ?_ hrun
    · simp [rowOf, revisionRow]
    · simp only [clocksBefore, hverified, hempty, ← hfirst, ← hclock]
      rfl
    · simp only [sourceClock, hverified, hempty, Option.getD_none, hsource, if_true]
  · refine refined_of_ok (some new) [_, _] []
      (call.rowOf commit.scene.sceneId newId new) hnewId hdb₃ ?_ ?_ ?_ hrun
    · simp [rowOf, revisionRow, superseded]
    · simp only [clocksBefore, hverified, hpoints, ← hfirst, ← hclock, ← hnew]
      rfl
    · simp only [sourceClock, hverified, hpoints, Option.getD_some, hnew, hclock, Bool.false_eq_true,
        if_false]

namespace Refined

variable (h : Refined call commit applied v4 rows db)
include h

/-- The row of the refined document. -/
abbrev last : ReconstructionRow := call.rowOf commit.scene.sceneId h.v4Id v4

theorem clocks_added : ((db.revisions.drop rows.length).map ReconstructionRow.createdAtNs) =
    clocksBefore commit applied ++ [v4.createdAtNs] := by
  rw [h.revisions, List.drop_left, List.map_append, h.clocks]
  rfl

theorem last_mem : h.last ∈ db.revisions := by
  rw [h.revisions]
  simp

theorem ne_last {row : ReconstructionRow} (hrow : row ∈ rows) : row ≠ h.last := by
  rintro rfl
  have hnodup := db.nodup
  rw [h.revisions, List.map_append, List.nodup_append] at hnodup
  apply hnodup.2.2 _ (List.mem_map_of_mem hrow) _ _ rfl
  exact List.mem_map_of_mem (by simp)

theorem last_succeededIn : h.last.SucceededIn commit.scene.sceneId := succeededIn_rowOf.mpr rfl

theorem latest_iff :
    (∀ tie, db.queryLatestReconstructionByScene tie commit.scene.sceneId = some h.last) ↔
      ∀ row ∈ db.revisions, row.SucceededIn commit.scene.sceneId → row ≠ h.last →
        row.createdAtNs < v4.createdAtNs := by
  have hmem : h.last ∈ db.revisions.filter (·.SucceededIn commit.scene.sceneId) :=
    List.mem_filter.mpr ⟨h.last_mem, decide_eq_true h.last_succeededIn⟩
  refine (RevisionTables.lastByClock_eq_iff hmem).trans ?_
  simp only [List.mem_filter, decide_eq_true_eq, and_imp]
  rfl

/-- Both queries find the refined revision when it is later than all others of the scene. -/
theorem found (hlate : ∀ row ∈ db.revisions, row.sceneId = commit.scene.sceneId → row ≠ h.last →
    row.createdAtNs < v4.createdAtNs) (tie : Nat) :
    db.queryLatestReconstructionByScene tie commit.scene.sceneId = some h.last ∧
    db.newestReconstructionOfScene tie commit.scene.sceneId = some h.last := by
  constructor
  · exact h.latest_iff.mpr (fun row hrow hsucceeded => hlate row hrow hsucceeded.1) tie
  · have hmem : h.last ∈ db.revisions.filter (·.sceneId = commit.scene.sceneId) :=
      List.mem_filter.mpr ⟨h.last_mem, by simpa using h.last_succeededIn.1⟩
    refine (RevisionTables.lastByClock_eq_iff hmem).mpr (fun row hrow => ?_) tie
    obtain ⟨hrow, hscene⟩ := List.mem_filter.mp hrow
    exact hlate row hrow (by simpa using hscene)

/-- If the queries find succeeded revisions only, and the refined one among the
succeeded, then it is later than every older revision. -/
theorem later_of_found {row : ReconstructionRow}
    (hlatest : ∀ tie, db.queryLatestReconstructionByScene tie commit.scene.sceneId = some h.last)
    (hnewest : ∀ tie, (db.newestReconstructionOfScene tie commit.scene.sceneId).map
      ReconstructionRow.status = some "succeeded")
    (hrow : row ∈ rows) (hscene : row.sceneId = commit.scene.sceneId) :
    row.createdAtNs < v4.createdAtNs := by
  by_contra hearly
  have hle : v4.createdAtNs ≤ row.createdAtNs := Int64.not_lt.mp hearly
  have hrow' : row ∈ db.revisions := by
    rw [h.revisions]
    exact List.mem_append_left _ hrow
  have hbefore := h.latest_iff.mp hlatest
  have hsucceeded : ∀ other ∈ RevisionTables.newest
      (db.revisions.filter (·.sceneId = commit.scene.sceneId)),
      other.SucceededIn commit.scene.sceneId := by
    intro other hother
    obtain ⟨tie, htie⟩ := RevisionTables.exists_lastByClock hother
    have hstatus := hnewest tie
    rw [RevisionTables.newestReconstructionOfScene, htie] at hstatus
    have hmem := (List.mem_filter.mp (RevisionTables.mem_newest.mp hother).1).2
    exact ⟨by simpa using hmem, Option.some.inj hstatus⟩
  obtain ⟨first, hfirst, _⟩ := Option.map_eq_some_iff.mp (hnewest 0)
  have hfirst := RevisionTables.mem_newest_of_lastByClock hfirst
  obtain ⟨hmem, hmax⟩ := RevisionTables.mem_newest.mp hfirst
  have hfiltered : row ∈ db.revisions.filter (·.sceneId = commit.scene.sceneId) :=
    List.mem_filter.mpr ⟨hrow', by simpa using hscene⟩
  -- the newest revision is the refined one, so `row` is as new, and then it succeeded as well
  have hsame : first = h.last := by
    by_contra hne
    have hlt := hbefore first (List.mem_filter.mp hmem).1 (hsucceeded first hfirst) hne
    exact absurd hlt (Int64.not_lt.mpr (Int64.le_trans hle (hmax row hfiltered)))
  have hnew : row ∈ RevisionTables.newest
      (db.revisions.filter (·.sceneId = commit.scene.sceneId)) := by
    refine RevisionTables.mem_newest.mpr ⟨hfiltered, fun other hother => ?_⟩
    have hother := hmax other hother
    rw [hsame] at hother
    exact Int64.le_trans hother hle
  exact hearly (hbefore row hrow' (hsucceeded row hnew) (h.ne_last hrow))

end Refined

/-! ## The latest revision

The queries for the newest revision order by the clock. So they find the refined
one if its clock is later than all others, and otherwise an older one. -/

/-- **The latest revision.** After every successful call the clocks of its
revisions ascend, the refined one is the latest, and the newest one succeeded,
exactly when the clocks that the call is given ascend: the closure is later than
the input document, and what the optimizer makes of the clock of its source is
later than these and than the revisions that the scene has already. -/
theorem latestIsRefined_iff (call : StageCall R) (db : RevisionTables) (clock : Int64 → Int64)
    (hclock : call.AssignsClock clock) : call.LatestIsRefined db ↔ call.ClocksAscend clock db := by
  -- what a successful call adds
  have hadds : ∀ commit db₁ v4, call.committed db = (.ok commit, db₁) → (call.run db).1 = .ok v4 →
      ∃ applied db₂, call.applied commit db₁ = (.ok applied, db₂) ∧
        Nonempty (Refined call commit applied v4 db.revisions (call.run db).2) := by
    intro commit db₁ v4 hcommitted hrun
    obtain ⟨hsource, _, committedId, hid, hdb₁⟩ := (triple_committed call).ok (s := db) rfl hcommitted
    apply refined_of_corrected hsource hid hdb₁
    rw [← run_of_committed hcommitted, ← hrun]
  constructor
  · intro hlatest commit db₁ applied db₂ hcommitted happlied hok
    obtain ⟨v4, hrun⟩ : ∃ v4, (call.run db).1 = .ok v4 := by
      cases hresult : (call.run db).1 with
      | error e =>
          rw [hresult] at hok
          exact (nomatch hok)
      | ok v4 => exact ⟨v4, rfl⟩
    obtain ⟨_, _, happlied', ⟨h⟩⟩ := hadds commit db₁ v4 hcommitted hrun
    cases happlied.symm.trans happlied'
    obtain ⟨hclocks, ⟨v4Id, hparse, hfound⟩, hnewest⟩ := hlatest commit db₁ v4 hcommitted hrun
    rw [h.clocks_added] at hclocks
    cases hparse.symm.trans h.parse
    rw [ascendingClocks_iff, ← h.refinedClock clock hclock]
    exact ⟨hclocks, fun row hrow hscene => h.later_of_found hfound hnewest hrow hscene⟩
  · intro hascend commit db₁ v4 hcommitted hrun
    obtain ⟨applied, db₂, happlied, ⟨h⟩⟩ := hadds commit db₁ v4 hcommitted hrun
    have hclocks := hascend commit db₁ applied db₂ hcommitted happlied (by rw [hrun]; rfl)
    rw [ascendingClocks_iff, ← h.refinedClock clock hclock] at hclocks
    obtain ⟨hclocks, hhistory⟩ := hclocks
    have hothers : ∀ row ∈ h.others, row.createdAtNs < v4.createdAtNs := by
      intro row hrow
      apply (List.pairwise_append.mp hclocks).2.2 _ _ _ (List.mem_singleton.mpr rfl)
      rw [← h.clocks]
      exact List.mem_map_of_mem hrow
    have hlate : ∀ row ∈ (call.run db).2.revisions, row.sceneId = commit.scene.sceneId →
        row ≠ h.last → row.createdAtNs < v4.createdAtNs := by
      intro row hrow hscene hne
      rw [h.revisions] at hrow
      rcases List.mem_append.mp hrow with hrow | hrow
      · exact hhistory row hrow hscene
      rcases List.mem_append.mp hrow with hrow | hrow
      · exact hothers row hrow
      · exact absurd (List.mem_singleton.mp hrow) hne
    refine ⟨h.clocks_added ▸ hclocks, ⟨h.v4Id, h.parse, fun tie => (h.found hlate tie).1⟩, ?_⟩
    intro tie
    rw [(h.found hlate tie).2]
    rfl

/-- A successful call whose revisions are out of order. -/
theorem not_latestIsRefined (hcommitted : (call.committed db).1.toOption.isSome = true)
    (hrun : (call.run db).1.toOption.isSome = true)
    (hclocks : ¬ (((call.run db).2.revisions.drop db.revisions.length).map
      ReconstructionRow.createdAtNs).Pairwise (· < ·)) : ¬ call.LatestIsRefined db := by
  intro hlatest
  rcases hcommit : call.committed db with ⟨_ | commit, db₁⟩
  · rw [hcommit] at hcommitted
    exact (nomatch hcommitted)
  rcases hv4 : (call.run db).1 with _ | v4
  · rw [hv4] at hrun
    exact (nomatch hrun)
  exact hclocks (hlatest commit db₁ v4 hcommit hv4).1

/-! ## A scene with a closure

Two images that show one point. The closure corrects their poses, the point is
triangulated again, and the optimizer has observations to refine; without any
the gate refuses what it returns. -/

/-- The document that the scene begins with. -/
def closedDocument : Reconstruction Rat where
  reconstructionId := formatUuid ⟨16⟩
  sceneId := formatUuid ⟨2⟩
  coordinateFrame := "local"
  status := "succeeded"
  createdAtNs := 1000
  images := [
    { imageId := 1, frameId := formatUuid ⟨21⟩, detected := true
      pose := ⟨.quadruple 0 0 0 1, .triple 0 0 0⟩ },
    { imageId := 2, frameId := formatUuid ⟨22⟩, detected := true
      pose := ⟨.quadruple 0 0 0 1, .triple 1 0 0⟩ }]
  points3D := [
    { point3dId := 1, xyz := .triple 0 0 1, color := .triple 0 0 0, error := 1
      track := [⟨1, 0⟩, ⟨2, 0⟩] }]

/-- An optimizer that halves the error of what is observed. -/
def observingOptimizer (clock : Int64 → Int64) : ReconstructionOptimizer Rat := fun input => .ok {
  reconstruction := { input.source with
    reconstructionId := formatUuid ⟨19⟩
    createdAtNs := clock input.source.createdAtNs }
  trace := { rmsBeforePx := input.observations.length, rmsAfterPx := input.observations.length / 2 } }

/-- A call with a loop closure that was found at 1500. -/
def closedCall (clock : Int64 → Int64) : StageCall Rat where
  config := .ok { projectId := formatUuid ⟨1⟩, randomSeed := "7" }
  inputRefs := ["input"]
  get _ := some "document"
  codec := { toJson := Reconstruction.reconstructionId, fromJson := fun _ => some closedDocument }
  baOptimizer := some (observingOptimizer clock)
  trajectoryOptimizer := some fun assembled => .ok {
    resultId := formatUuid ⟨23⟩
    optimizedNodes := assembled.closure.nodes.map fun node =>
      { frameId := node.frameId, positionXyz := node.positionXyz, rotationXyzw := node.rotationXyzw }
    status := "converged"
    converged := true
    iterations := 1
    initialError := 1
    finalError := 0
    errorReduction := 1 }
  verifyLoopClosure source := .ok (some {
    createdAtNs := 1500
    coordinateFrame := source.coordinateFrame
    nodes := source.images.map fun image =>
      { frameId := image.frameId, positionXyz := image.pose.translationXyz
        rotationXyzw := image.pose.rotationXyzw } })
  metricEdge _ := true
  transform positionXyz rotationXyzw := ⟨rotationXyzw, positionXyz⟩
  observations := {
    featurePins := fun _ => some (formatUuid ⟨24⟩)
    loadFeatures := fun _ _ => .ok (some [(0, 0)]) }
  triangulate source _ := .ok { points3D := source.points3D, replacedCount := 1 }
  sceneId := ⟨2⟩
  versionId := ⟨3⟩
  reconstructionId
    | .applied => ⟨17⟩
    | .retriangulated => ⟨18⟩
    | .refined => ⟨19⟩

theorem closedCall_assignsClock (clock : Int64 → Int64) : (closedCall clock).AssignsClock clock := by
  rintro optimizer ⟨⟩ input result hresult
  cases hresult
  rfl

/-- With the clock of GTSAM the four revisions are made at 1000, 1500, 1600 and 1700. -/
theorem gtsam_clock_latest :
    ((closedCall gtsamClock).run sampleProject).2.revisions.map ReconstructionRow.createdAtNs =
        [1000, 1500, 1600, 1700] ∧
      (closedCall gtsamClock).LatestIsRefined sampleProject := by
  refine ⟨by decide +kernel, ?_⟩
  refine (latestIsRefined_iff (closedCall gtsamClock) sampleProject gtsamClock
    (closedCall_assignsClock gtsamClock)).mpr ?_
  exact clocksAscend_of_run (by decide +kernel)

/-- With the clock of COLMAP the refined revision is made at 0, before all others. -/
theorem zero_clock_not_latest :
    (closedCall colmapClock).AssignsClock colmapClock ∧
      ¬ (closedCall colmapClock).LatestIsRefined sampleProject :=
  ⟨closedCall_assignsClock colmapClock,
    not_latestIsRefined (by decide +kernel) (by decide +kernel) (by decide +kernel)⟩

end StageCall

end SpatialPlatform.Engine
