import SpatialPlatform.Engine.Pipeline.SparseCorrection.Revisions
import SpatialPlatform.Lib.Coordinates
import SpatialPlatform.Lib.Machine

/-!
# One succeeded revision

How many succeeded revisions a scene has after the stage.
-/

namespace SpatialPlatform.Engine

open SpatialPlatform.Core SpatialPlatform.Lib

namespace StageCall

variable {R : Type} [Double R] {call : StageCall R} {commit : StageCommit R} {db db' : RevisionTables}
  {rows added : List ReconstructionRow} {sceneId : Uuid} {n : Nat}

/-! ## Counting -/

@[simp] theorem succeededIn_rowOf {other reconstructionId : Uuid} {document : Reconstruction R} :
    (call.rowOf other reconstructionId document).SucceededIn sceneId ↔ other = sceneId := by
  simp [ReconstructionRow.SucceededIn, rowOf, revisionRow]

@[simp] theorem not_succeededIn_superseded {row : ReconstructionRow} :
    ¬ (superseded row).SucceededIn sceneId := by
  simp [ReconstructionRow.SucceededIn, superseded]

/-- The revisions are these and some more, `n` of which succeeded, in the scene of the commit. -/
def Adds (commit : StageCommit R) (rows : List ReconstructionRow) (n : Nat) (db : RevisionTables) :
    Prop :=
  ∃ added, Revisions (rows ++ added) db ∧
    ∀ sceneId, added.countP (·.SucceededIn sceneId) = if commit.scene.sceneId = sceneId then n else 0

omit [Double R] in
theorem succeededCount_of_adds (h : Adds commit db.revisions n db') :
    db'.succeededCount sceneId =
      db.succeededCount sceneId + if commit.scene.sceneId = sceneId then n else 0 := by
  obtain ⟨added, hdb', hcount⟩ := h
  rw [RevisionTables.succeededCount, hdb', List.countP_append, hcount]
  rfl

/-! ## The parts

How many succeeded revisions each part of the stage adds, from the revisions
that the part is given. -/

/-- The stage after the commit. -/
def corrected (call : StageCall R) (commit : StageCommit R) : StageM (Reconstruction R) := do
  let applied ← call.applied commit
  let v3 ← call.retriangulated commit applied
  call.refined commit v3

theorem run_of_committed {db₁ : RevisionTables} (h : call.committed db = (.ok commit, db₁)) :
    call.run db = call.corrected commit db₁ :=
  Persist.bind_of_ok h

/-- A call that does not commit its input leaves the revisions alone. -/
theorem revisions_of_not_committed
    (h : ∀ commit db₁, call.committed db ≠ (.ok commit, db₁)) :
    (call.run db).2.revisions = db.revisions := by
  rcases (triple_committed call).cases (s := db) rfl with
    ⟨commit, db₁, hrun, _⟩ | ⟨e, db₁, hrun, hdb₁⟩
  · exact absurd hrun (h commit db₁)
  · rw [run, Persist.bind_of_error hrun]
    exact hdb₁

/-- The bundle adjustment puts one succeeded revision in the place of another. -/
theorem adds_refined (v3 : Option (Reconstruction R)) (before after : List ReconstructionRow)
    {document : Reconstruction R} {reconstructionId : Uuid}
    (hid : parseUuid (v3.getD commit.document).reconstructionId = .ok reconstructionId)
    (hdb : Revisions (rows ++ (before ++
      call.rowOf commit.scene.sceneId reconstructionId document :: after)) db)
    (hcount : ∀ sceneId, (before ++ call.rowOf commit.scene.sceneId reconstructionId document ::
      after).countP (·.SucceededIn sceneId) = if commit.scene.sceneId = sceneId then n else 0) :
    Adds commit rows n (call.refined commit v3 db).2 := by
  have hrefined : Persist.Triple (Revisions ((rows ++ before) ++
      call.rowOf commit.scene.sceneId reconstructionId document :: after)) (call.refined commit v3) _ _ :=
    triple_refined hid
  apply (hrefined.post ?_ ?_).state
  · rw [List.append_assoc]
    exact hdb
  · rintro v4 db' ⟨v4Id, _, hdb'⟩
    rw [List.append_assoc] at hdb'
    refine ⟨_, hdb', fun sceneId => ?_⟩
    rw [← hcount sceneId]
    simp [List.countP_append, List.countP_cons]
  · rintro db' (hdb' | ⟨v4, v4Id, hdb'⟩)
    · rw [List.append_assoc] at hdb'
      exact ⟨_, hdb', hcount⟩
    · rw [List.append_assoc] at hdb'
      refine ⟨_, hdb', fun sceneId => ?_⟩
      rw [← hcount sceneId]
      simp [List.countP_append, List.countP_cons]

variable {db₁ db₂ : RevisionTables} {document : Reconstruction R} {committedId : Uuid}

/-- Without corrected poses, the stage adds one succeeded revision. -/
theorem adds_one_of_not_applied
    (hcommitted : parseUuid commit.document.reconstructionId = .ok committedId)
    (hdb₁ : Revisions (rows ++ [call.rowOf commit.scene.sceneId committedId commit.document]) db₁)
    (h : ∀ document db₂, call.applied commit db₁ ≠ (.ok (some document), db₂)) :
    Adds commit rows 1 (call.corrected commit db₁).2 := by
  have hone : ∀ db, Revisions (rows ++
      [call.rowOf commit.scene.sceneId committedId commit.document]) db → Adds commit rows 1 db :=
    fun db hdb => ⟨_, hdb, fun sceneId => by simp [List.countP_cons]⟩
  rcases (triple_applied call commit).cases hdb₁ with
    ⟨applied, db₂, hrun, ⟨rfl, hdb₂⟩ | ⟨document, _, _, rfl, _⟩⟩ | ⟨e, db₂, hrun, hdb₂⟩
  · rw [corrected, Persist.bind_of_ok hrun]
    rcases (triple_retriangulated_none call commit).cases hdb₂ with
      ⟨v3, db₃, hrun', rfl, hdb₃⟩ | ⟨e, db₃, hrun', hdb₃⟩
    · rw [Persist.bind_of_ok hrun']
      apply adds_refined none [] [] hcommitted hdb₃
      intro sceneId
      simp [List.countP_cons]
    · rw [Persist.bind_of_error hrun']
      exact hone db₃ hdb₃
  · exact absurd hrun (h document db₂)
  · rw [corrected, Persist.bind_of_error hrun]
    exact hone db₂ hdb₂

/-- With corrected poses, it adds one if new points replace the poses and the
committed revision has given way, and two otherwise. -/
theorem adds_of_applied
    (hcommitted : parseUuid commit.document.reconstructionId = .ok committedId)
    (hdb₁ : Revisions (rows ++ [call.rowOf commit.scene.sceneId committedId commit.document]) db₁)
    (h : call.applied commit db₁ = (.ok (some document), db₂)) :
    ((∃ v3 db₃, call.retriangulated commit (some document) db₂ = (.ok (some v3), db₃)) →
      Adds commit rows 1 (call.corrected commit db₁).2) ∧
    ((¬ ∃ v3 db₃, call.retriangulated commit (some document) db₂ = (.ok (some v3), db₃)) →
      Adds commit rows 2 (call.corrected commit db₁).2) := by
  rw [corrected, Persist.bind_of_ok h]
  have happlied := triple_applied call commit db₁ hdb₁
  rw [h] at happlied
  obtain ⟨hnone, _⟩ | ⟨_, _, reconstructionId, hsame, _, _, hid, hdb₂⟩ := happlied
  · exact (nomatch hnone)
  cases hsame
  rw [List.append_assoc] at hdb₂
  rcases (triple_retriangulated call hcommitted hid).cases hdb₂ with
    ⟨v3, db₃, hrun, ⟨rfl, _, hdb₃⟩ | ⟨new, newId, rfl, _, _, hnewId, hdb₃⟩⟩ | ⟨e, db₃, hrun, hdb₃⟩
  · -- a document without points: the bundle adjustment starts from the committed one
    refine ⟨fun ⟨_, _, hsome⟩ => (nomatch hrun.symm.trans hsome), fun _ => ?_⟩
    rw [Persist.bind_of_ok hrun]
    apply adds_refined none [] [_] hcommitted hdb₃
    intro sceneId
    by_cases hscene : commit.scene.sceneId = sceneId <;> simp [hscene]
  · refine ⟨fun _ => ?_, fun hno => absurd ⟨new, db₃, hrun⟩ hno⟩
    rw [Persist.bind_of_ok hrun]
    apply adds_refined (some new) [_, _] [] hnewId hdb₃
    intro sceneId
    simp [List.countP_cons]
  · refine ⟨fun ⟨_, _, hsome⟩ => (nomatch hrun.symm.trans hsome), fun _ => ?_⟩
    rw [Persist.bind_of_error hrun]
    rcases hdb₃ with hdb₃ | ⟨new, newId, hdb₃⟩
    · refine ⟨_, hdb₃, fun sceneId => ?_⟩
      by_cases hscene : commit.scene.sceneId = sceneId <;> simp [hscene]
    · refine ⟨_, hdb₃, fun sceneId => ?_⟩
      by_cases hscene : commit.scene.sceneId = sceneId <;> simp [hscene]

/-! ## Runs of the stage

One call at a time. A call is harmless exactly if it finds no succeeded revision
or commits none, so both directions of the statement about runs are inductions
over the calls, with the state before a call as what is carried along. -/

/-- The branch that goes wrong is not taken: a call that commits its input finds
no succeeded revision in the scene, and once the poses are corrected it also
gets new points and ends the committed revision. -/
def FindsNone (sceneId : Uuid) (call : StageCall R) (db : RevisionTables) : Prop :=
  ∀ commit db₁, call.committed db = (.ok commit, db₁) → commit.scene.sceneId = sceneId →
    db.succeededCount sceneId = 0 ∧
    ∀ document db₂, call.applied commit db₁ = (.ok (some document), db₂) →
      ∃ v3 db₃, call.retriangulated commit (some document) db₂ = (.ok (some v3), db₃)

/-- The call leaves at most one succeeded revision in the scene, and exactly one if there was one. -/
def KeepsOne (sceneId : Uuid) (call : StageCall R) (db : RevisionTables) : Prop :=
  (call.run db).2.succeededCount sceneId ≤ 1 ∧
    (db.succeededCount sceneId = 1 → (call.run db).2.succeededCount sceneId = 1)

instance (call : StageCall R) (db : RevisionTables) : Decidable (call.KeepsOne sceneId db) :=
  inferInstanceAs (Decidable (_ ∧ _))

/-- Calls of the stage, one after the other. -/
def stages (R : Type) [Double R] : Actions RevisionTables (StageCall R) :=
  ⟨fun call db => some (call.run db).2⟩

theorem succeededCount_congr (h : db'.revisions = db.revisions) :
    db'.succeededCount sceneId = db.succeededCount sceneId := by
  rw [RevisionTables.succeededCount, h]
  rfl

/-- One call. -/
theorem keepsOne_iff (hdb : db.succeededCount sceneId ≤ 1) :
    call.KeepsOne sceneId db ↔ call.FindsNone sceneId db := by
  by_cases hcommits : ∃ commit db₁, call.committed db = (.ok commit, db₁)
  case neg =>
    have hsame : (call.run db).2.succeededCount sceneId = db.succeededCount sceneId :=
      succeededCount_congr <| revisions_of_not_committed fun commit db₁ h =>
        hcommits ⟨commit, db₁, h⟩
    constructor
    · exact fun _ commit db₁ h => absurd ⟨commit, db₁, h⟩ hcommits
    · exact fun _ => ⟨hsame ▸ hdb, fun hone => hsame ▸ hone⟩
  obtain ⟨commit, db₁, hrun⟩ := hcommits
  have hcommitted := triple_committed call db rfl
  rw [hrun] at hcommitted
  obtain ⟨_, _, committedId, hid, hdb₁⟩ := hcommitted
  rw [KeepsOne, run_of_committed hrun]
  -- what the call adds decides
  have hcount : ∀ n, Adds commit db.revisions n (call.corrected commit db₁).2 →
      (call.corrected commit db₁).2.succeededCount sceneId =
        db.succeededCount sceneId + if commit.scene.sceneId = sceneId then n else 0 :=
    fun n h => succeededCount_of_adds h
  constructor
  · rintro ⟨hmost, hone⟩ commit' db₁' hrun' rfl
    cases hrun.symm.trans hrun'
    by_cases happlied : ∃ document db₂, call.applied commit db₁ = (.ok (some document), db₂)
    · obtain ⟨document, db₂, happlied⟩ := happlied
      obtain ⟨hthrough, hstuck⟩ := adds_of_applied hid hdb₁ happlied
      by_cases hnew : ∃ v3 db₃, call.retriangulated commit (some document) db₂ = (.ok (some v3), db₃)
      · have := hcount 1 (hthrough hnew)
        rw [if_pos rfl] at this
        refine ⟨by omega, ?_⟩
        rintro document' db₂' happlied'
        cases happlied.symm.trans happlied'
        exact hnew
      · have := hcount 2 (hstuck hnew)
        rw [if_pos rfl] at this
        omega
    · have := hcount 1 (adds_one_of_not_applied hid hdb₁ fun document db₂ h =>
        happlied ⟨document, db₂, h⟩)
      rw [if_pos rfl] at this
      exact ⟨by omega, fun document db₂ h => absurd ⟨document, db₂, h⟩ happlied⟩
  · intro hfinds
    by_cases hscene : commit.scene.sceneId = sceneId
    · obtain ⟨hnone, hthrough⟩ := hfinds commit db₁ hrun hscene
      have hadds : Adds commit db.revisions 1 (call.corrected commit db₁).2 := by
        by_cases happlied : ∃ document db₂, call.applied commit db₁ = (.ok (some document), db₂)
        · obtain ⟨document, db₂, happlied⟩ := happlied
          exact (adds_of_applied hid hdb₁ happlied).1 (hthrough document db₂ happlied)
        · exact adds_one_of_not_applied hid hdb₁ fun document db₂ h => happlied ⟨document, db₂, h⟩
      have := hcount 1 hadds
      rw [if_pos hscene] at this
      omega
    · have hadds : ∃ n, Adds commit db.revisions n (call.corrected commit db₁).2 := by
        by_cases happlied : ∃ document db₂, call.applied commit db₁ = (.ok (some document), db₂)
        · obtain ⟨document, db₂, happlied⟩ := happlied
          obtain ⟨hthrough, hstuck⟩ := adds_of_applied hid hdb₁ happlied
          exact (em _).elim (fun h => ⟨1, hthrough h⟩) fun h => ⟨2, hstuck h⟩
        · exact ⟨1, adds_one_of_not_applied hid hdb₁ fun document db₂ h =>
            happlied ⟨document, db₂, h⟩⟩
      obtain ⟨n, hadds⟩ := hadds
      have := hcount n hadds
      rw [if_neg hscene] at this
      omega

/-- Calls on a project with at most one succeeded revision in the scene keep it
at that, and keep the one if there is one, exactly when none of them commits
next to it or gets stuck between the corrected poses and the new points. -/
theorem keepsOne_along_iff (calls : List (StageCall R)) (db : RevisionTables) (sceneId : Uuid)
    (hdb : db.succeededCount sceneId ≤ 1) :
    (stages R).Along (KeepsOne sceneId) calls db ↔ (stages R).Along (FindsNone sceneId) calls db := by
  have hstep : ∀ call db db', db.succeededCount sceneId ≤ 1 → FindsNone sceneId call db →
      (stages R).step call db = some db' → db'.succeededCount sceneId ≤ 1 := by
    intro call db db' hdb hfinds hstep
    cases hstep
    exact ((keepsOne_iff hdb).mpr hfinds).1
  exact Actions.along_iff_of_invariant hstep (fun call db hdb => keepsOne_iff hdb) hdb

/-! ## Two runs of one project

Two successful calls, one after the other, on a project that had no scene. -/

/-- A document without images, made at the given time. -/
def sampleDocument (reconstructionId : Uuid) (createdAtNs : Int64) : Reconstruction Rat :=
  { reconstructionId := formatUuid reconstructionId
    coordinateFrame := "local"
    status := "succeeded"
    createdAtNs }

/-- An optimizer that halves the error. -/
def sampleOptimizer (reconstructionId : Uuid) (clock : Int64 → Int64) : ReconstructionOptimizer Rat :=
  fun input => .ok {
    reconstruction := { input.source with
      reconstructionId := formatUuid reconstructionId
      createdAtNs := clock input.source.createdAtNs }
    trace := { rmsBeforePx := 2, rmsAfterPx := 1 } }

/-- A call that commits and refines a document without a loop closure; `clock`
is what the optimizer makes of the clock of its source. -/
def sampleCall (document : Reconstruction Rat) (refined : Uuid) (clock : Int64 → Int64 := (· + 100)) :
    StageCall Rat where
  config := .ok { projectId := formatUuid ⟨1⟩, randomSeed := "7" }
  inputRefs := ["input"]
  get _ := some "document"
  codec := { toJson := Reconstruction.reconstructionId, fromJson := fun _ => some document }
  baOptimizer := some (sampleOptimizer refined clock)
  transform _ rotationXyzw := ⟨rotationXyzw, .triple 0 0 0⟩
  triangulate _ _ := .ok ⟨[], 0, 0, 0, 0⟩
  sceneId := ⟨2⟩
  versionId := ⟨3⟩

/-- A project without a scene. -/
def sampleProject : RevisionTables where
  scenes := { projects := [⟨1⟩] }
  revisions := []
  nodup := List.nodup_nil

theorem findsNone_first_run :
    (stages Rat).Along (FindsNone ⟨2⟩) [sampleCall (sampleDocument ⟨16⟩ 1000) ⟨17⟩] sampleProject :=
  (keepsOne_along_iff _ sampleProject ⟨2⟩ (by decide)).mp (by decide +kernel)

/-- Two successful runs on one scene leave two succeeded revisions. -/
theorem two_succeeded_after_second_run :
    sampleProject.succeededCount ⟨2⟩ ≤ 1 ∧
    ¬ (stages Rat).Along (KeepsOne ⟨2⟩)
      [sampleCall (sampleDocument ⟨16⟩ 1000) ⟨17⟩, sampleCall (sampleDocument ⟨18⟩ 2000) ⟨19⟩]
      sampleProject := by
  decide +kernel

end StageCall

end SpatialPlatform.Engine
