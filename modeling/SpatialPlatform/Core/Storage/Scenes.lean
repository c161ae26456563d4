import SpatialPlatform.Core.Basic
import SpatialPlatform.Lib.Linked
import SpatialPlatform.Lib.Machine

/-!
# Scenes and their versions

The scene tables of `core/storage/metadata_db.cpp`. `findOrCreateScene` opens a
project's scene with its first version, and `createSceneVersion` adds a version
below the current one and advances the scene to it.

* `scenes_sound` — in every state that calls can reach, the versions of a scene
  form a line that ends in the current version, and a project has at most one
  open scene.
-/

namespace SpatialPlatform.Core

open SpatialPlatform.Lib

/-- `SceneRow`, with the defaults of the struct. -/
structure SceneRow where
  sceneId : Uuid := .nil
  schemaVersion : Int := 1
  projectId : Uuid := .nil
  name : String := ""
  versionId : Uuid := .nil
  parentVersionId : Uuid := .nil
  stage : String := "created"
  createdByJson : String := ""
  createdAtNs : Int64 := 0
  originFrame : String := ""
  crs : String := ""
  status : String := "open"
  propertiesJson : String := ""
  deriving DecidableEq, Repr

/-- `SceneVersionRow`. -/
structure SceneVersionRow where
  versionId : Uuid
  sceneId : Uuid
  parentVersionId : Uuid := .nil
  stage : String := ""
  createdByJson : String := ""
  createdAtNs : Int64 := 0
  status : String := "active"
  deriving DecidableEq, Repr

/-- A row of `scenes`. -/
structure SceneRecord where
  sceneId : Uuid
  projectId : Uuid
  schemaVersion : Int := 1
  name : Option String := none
  currentVersionId : Option Uuid := none
  originFrame : Option String := none
  crs : Option String := none
  status : Option String := none
  propertiesJson : Option String := none
  deriving DecidableEq, Repr

/-- A row of `scene_versions`. -/
structure SceneVersionRecord where
  versionId : Uuid
  sceneId : Uuid
  parentVersionId : Option Uuid := none
  stage : String
  createdByJson : String := ""
  createdAtNs : Int64 := 0
  status : String := "active"
  deriving DecidableEq, Repr

/-- The tables behind the scene calls; of `projects` only the keys matter. -/
structure SceneTables where
  readOnly : Bool := false
  projects : List Uuid := []
  scenes : List SceneRecord := []
  versions : List SceneVersionRecord := []
  deriving DecidableEq, Repr

namespace SceneTables

/-- A project's scenes that are open. -/
def openScenes (db : SceneTables) (projectId : Uuid) : List SceneRecord :=
  db.scenes.filter fun scene => scene.projectId = projectId && scene.status = some "open"

/-- The row that the query of `FindOrCreateScene` reads. -/
def readScene (scene : SceneRecord) : SceneRow where
  sceneId := scene.sceneId
  projectId := scene.projectId
  versionId := scene.currentVersionId.getD .nil
  name := scene.name.getD ""
  originFrame := scene.originFrame.getD ""
  crs := scene.crs.getD ""
  status := scene.status.getD "open"
  propertiesJson := scene.propertiesJson.getD ""

def insertScene (db : SceneTables) (scene : SceneRecord) : Except ProjectError SceneTables :=
  if db.scenes.any (·.sceneId = scene.sceneId) then
    .error ⟨.schemaInvalid,
      "cannot insert scene row: UNIQUE constraint failed: scenes.scene_id"⟩
  else if scene.projectId ∉ db.projects then
    .error ⟨.schemaInvalid, "cannot insert scene row: FOREIGN KEY constraint failed"⟩
  else .ok { db with scenes := db.scenes ++ [scene] }

def insertVersion (db : SceneTables) (version : SceneVersionRecord) :
    Except ProjectError SceneTables :=
  if db.versions.any (·.versionId = version.versionId) then
    .error ⟨.schemaInvalid,
      "cannot insert scene version row: UNIQUE constraint failed: scene_versions.version_id"⟩
  else if db.scenes.all (·.sceneId ≠ version.sceneId) then
    .error ⟨.schemaInvalid, "cannot insert scene version row: FOREIGN KEY constraint failed"⟩
  else .ok { db with versions := db.versions ++ [version] }

/-- The scene after `setCurrentVersion`. -/
def advanced (sceneId versionId : Uuid) (scene : SceneRecord) : SceneRecord :=
  if scene.sceneId = sceneId then { scene with currentVersionId := some versionId } else scene

/-- `UPDATE scenes SET current_version_id = ? WHERE scene_id = ?`. -/
def setCurrentVersion (db : SceneTables) (sceneId versionId : Uuid) : SceneTables :=
  { db with scenes := db.scenes.map (advanced sceneId versionId) }

/-- The scene row of `FindOrCreateScene`. -/
def newScene (projectId : Uuid) (name : String) (sceneId versionId : Uuid) : SceneRecord :=
  { sceneId, projectId, name, currentVersionId := versionId, status := "open" }

/-- The version row of both calls. -/
def newVersion (sceneId versionId : Uuid) (parent : Option Uuid) (stage createdByJson : String)
    (createdAtNs : Int64) : SceneVersionRecord :=
  { versionId, sceneId, parentVersionId := parent, stage, createdByJson, createdAtNs }

/-- `FindOrCreateScene`; `sceneId` and `versionId` are what `GenerateUuid` returns. -/
def findOrCreateScene (db : SceneTables) (projectId : Uuid) (name createdByJson : String)
    (createdAtNs : Int64) (sceneId versionId : Uuid) : Except ProjectError SceneRow × SceneTables :=
  if db.readOnly then
    (.error ⟨.storageReadOnly, "cannot write to a read-only project"⟩, db)
  else match (db.openScenes projectId).head? with
    | some scene => (.ok (readScene scene), db)
    | none => transaction db do
        let db ← db.insertScene (newScene projectId name sceneId versionId)
        let db ← db.insertVersion
          (newVersion sceneId versionId none "created" createdByJson createdAtNs)
        return ({ sceneId, versionId, projectId, name, createdByJson, createdAtNs }, db)

/-- `CreateSceneVersion`; `versionId` is what `GenerateUuid` returns. -/
def createSceneVersion (db : SceneTables) (sceneId : Uuid) (stage createdByJson : String)
    (createdAtNs : Int64) (versionId : Uuid) : Except ProjectError SceneVersionRow × SceneTables :=
  if db.readOnly then
    (.error ⟨.storageReadOnly, "cannot write to a read-only project"⟩, db)
  else transaction db do
    let parent := ((db.scenes.find? (·.sceneId = sceneId)).bind (·.currentVersionId)).getD .nil
    if parent.isNil then
      throw ⟨.schemaInvalid, "scene has no current version: " ++ formatUuid sceneId⟩
    let db ← db.insertVersion
      (newVersion sceneId versionId (some parent) stage createdByJson createdAtNs)
    return ({ versionId, sceneId, parentVersionId := parent, stage, createdByJson, createdAtNs },
      db.setCurrentVersion sceneId versionId)

/-! ## What one call does

A call is a transaction: rejected calls change nothing, and the others have one
effect each. -/

theorem insertScene_cases (db : SceneTables) (scene : SceneRecord) :
    (∃ e, db.insertScene scene = .error e) ∨
    (db.insertScene scene = .ok { db with scenes := db.scenes ++ [scene] } ∧
      ∀ old ∈ db.scenes, old.sceneId ≠ scene.sceneId) := by
  unfold insertScene
  split
  next => exact .inl ⟨_, rfl⟩
  next hfresh =>
    split
    next => exact .inl ⟨_, rfl⟩
    next =>
      refine .inr ⟨rfl, ?_⟩
      intro old hold heq
      exact hfresh (List.any_eq_true.mpr ⟨old, hold, by simpa using heq⟩)

theorem insertVersion_cases (db : SceneTables) (version : SceneVersionRecord) :
    (∃ e, db.insertVersion version = .error e) ∨
    (db.insertVersion version = .ok { db with versions := db.versions ++ [version] } ∧
      ∀ old ∈ db.versions, old.versionId ≠ version.versionId) := by
  unfold insertVersion
  split
  next => exact .inl ⟨_, rfl⟩
  next hfresh =>
    split
    next => exact .inl ⟨_, rfl⟩
    next =>
      refine .inr ⟨rfl, ?_⟩
      intro old hold heq
      exact hfresh (List.any_eq_true.mpr ⟨old, hold, by simpa using heq⟩)

/-- A call of `FindOrCreateScene` changes nothing, or adds a scene with its root
version to a project without an open scene. -/
theorem findOrCreateScene_cases (db : SceneTables) (projectId : Uuid) (name createdByJson : String)
    (createdAtNs : Int64) (sceneId versionId : Uuid) :
    (db.findOrCreateScene projectId name createdByJson createdAtNs sceneId versionId).2 = db ∨
    (db.openScenes projectId = [] ∧ (∀ old ∈ db.scenes, old.sceneId ≠ sceneId) ∧
      (∀ old ∈ db.versions, old.versionId ≠ versionId) ∧
      ∃ row, db.findOrCreateScene projectId name createdByJson createdAtNs sceneId versionId =
        (.ok row, { db with
          scenes := db.scenes ++ [newScene projectId name sceneId versionId]
          versions := db.versions ++
            [newVersion sceneId versionId none "created" createdByJson createdAtNs] })) := by
  unfold findOrCreateScene
  split
  next => exact .inl rfl
  next =>
    split
    next => exact .inl rfl
    next hnone =>
      have hopen : db.openScenes projectId = [] := List.head?_eq_none_iff.mp hnone
      -- either insert may fail, and the transaction takes both back
      rcases db.insertScene_cases (newScene projectId name sceneId versionId) with
        ⟨e, he⟩ | ⟨hscene, hfresh⟩
      · left
        rw [he]
        rfl
      rw [hscene]
      show (transaction db (Except.bind (insertVersion _ _) _)).2 = db ∨ _
      rcases SceneTables.insertVersion_cases
          { db with scenes := db.scenes ++ [newScene projectId name sceneId versionId] }
          (newVersion sceneId versionId none "created" createdByJson createdAtNs) with
        ⟨e, he⟩ | ⟨hversion, hfresh'⟩
      · left
        rw [he]
        rfl
      · right
        refine ⟨hopen, hfresh, hfresh', ?_⟩
        show ∃ row, transaction db (Except.bind (insertVersion _ _) _) = (.ok row, _)
        rw [hversion]
        exact ⟨_, rfl⟩

/-- A call of `CreateSceneVersion` is rejected and changes nothing, or it adds a
child of the scene's current version and advances the scene to it. -/
theorem createSceneVersion_cases (db : SceneTables) (sceneId : Uuid) (stage createdByJson : String)
    (createdAtNs : Int64) (versionId : Uuid) :
    (db.createSceneVersion sceneId stage createdByJson createdAtNs versionId).2 = db ∨
    (∃ scene ∈ db.scenes, ∃ parent, scene.sceneId = sceneId ∧
      scene.currentVersionId = some parent ∧ (∀ old ∈ db.versions, old.versionId ≠ versionId) ∧
      ∃ row, db.createSceneVersion sceneId stage createdByJson createdAtNs versionId =
        (.ok row, SceneTables.setCurrentVersion { db with
          versions := db.versions ++
            [newVersion sceneId versionId (some parent) stage createdByJson createdAtNs] }
          sceneId versionId)) := by
  unfold createSceneVersion
  split
  next => exact .inl rfl
  next =>
    cases hfind : (db.scenes.find? (·.sceneId = sceneId)).bind (·.currentVersionId) with
    | none => exact .inl rfl
    | some parent =>
        obtain ⟨scene, hscene, hcurrent⟩ := Option.bind_eq_some_iff.mp hfind
        have hsceneId : scene.sceneId = sceneId := by simpa using List.find?_some hscene
        rw [Option.getD_some]
        -- a scene without a current version is refused
        by_cases hnil : parent.isNil = true
        · left
          rw [if_pos hnil]
          rfl
        rw [if_neg hnil]
        rcases db.insertVersion_cases
            (newVersion sceneId versionId (some parent) stage createdByJson createdAtNs) with
          ⟨e, he⟩ | ⟨hversion, hfresh⟩
        · left
          rw [he]
          rfl
        · right
          refine ⟨scene, List.mem_of_find?_eq_some hscene, parent, hsceneId, hcurrent, hfresh, ?_⟩
          rw [hversion]
          exact ⟨_, rfl⟩

/-! ## The invariant

The versions of a scene stand in a line from its root to its current version. A
new scene begins a line and a new version is put at the end of one; the lines of
other scenes are not touched. -/

/-- The versions of a scene, oldest first. -/
def versionsOf (db : SceneTables) (sceneId : Uuid) : List SceneVersionRecord :=
  db.versions.filter (·.sceneId = sceneId)

/-- The versions of a scene are a line from its root to its current version. -/
structure Line (db : SceneTables) (scene : SceneRecord) : Prop where
  linked : Linked SceneVersionRecord.versionId SceneVersionRecord.parentVersionId
    (db.versionsOf scene.sceneId)
  current : (db.versionsOf scene.sceneId).getLast?.map (·.versionId) = scene.currentVersionId
  created : ∀ v ∈ db.versionsOf scene.sceneId, v.parentVersionId = none → v.stage = "created"

/-- What the calls keep, from the empty tables on. -/
structure Invariant (db : SceneTables) : Prop where
  sceneKeys : (db.scenes.map (·.sceneId)).Nodup
  references : ∀ v ∈ db.versions, ∃ scene ∈ db.scenes, scene.sceneId = v.sceneId
  line : ∀ scene ∈ db.scenes, db.Line scene
  oneOpen : ∀ projectId, (db.openScenes projectId).length ≤ 1

/-- What the calls promise of one scene. -/
structure LinearChain (db : SceneTables) (scene : SceneRecord) : Prop where
  distinct : ((db.versionsOf scene.sceneId).map (·.versionId)).Nodup
  root : ∃! v, v ∈ db.versionsOf scene.sceneId ∧ v.parentVersionId = none
  created : ∀ v ∈ db.versionsOf scene.sceneId, v.parentVersionId = none → v.stage = "created"
  parent : ∀ v ∈ db.versionsOf scene.sceneId, v.parentVersionId ≠ none →
    ∃! p, p ∈ db.versionsOf scene.sceneId ∧ v.parentVersionId = some p.versionId
  children : ∀ v ∈ db.versionsOf scene.sceneId, ∀ w ∈ db.versionsOf scene.sceneId, ∀ p,
    v.parentVersionId = some p → w.parentVersionId = some p → v = w
  leaf : ∃! v, v ∈ db.versionsOf scene.sceneId ∧
    ∀ w ∈ db.versionsOf scene.sceneId, w.parentVersionId ≠ some v.versionId
  current : ∃ v ∈ db.versionsOf scene.sceneId, scene.currentVersionId = some v.versionId ∧
    ∀ w ∈ db.versionsOf scene.sceneId, w.parentVersionId ≠ some v.versionId
  linked : Linked SceneVersionRecord.versionId SceneVersionRecord.parentVersionId
    (db.versionsOf scene.sceneId)

/-- What the calls promise of the tables. -/
structure Sound (db : SceneTables) : Prop where
  chains : ∀ scene ∈ db.scenes, db.LinearChain scene
  oneOpen : ∀ projectId, (db.openScenes projectId).length ≤ 1

theorem Line.linearChain {db : SceneTables} {scene : SceneRecord} (h : db.Line scene) :
    db.LinearChain scene where
  distinct := h.linked.nodup
  root := h.linked.existsUnique_root
  created := h.created
  parent := fun _ hv hne => h.linked.existsUnique_parent hv hne
  children := fun _ hv _ hw _ hvp hwp => h.linked.eq_of_parent_eq hv hw hvp hwp
  leaf := h.linked.existsUnique_leaf
  current := by
    obtain ⟨last, hlast⟩ : ∃ last, (db.versionsOf scene.sceneId).getLast? = some last :=
      ⟨_, List.getLast?_eq_some_getLast h.linked.ne_nil⟩
    refine ⟨last, List.mem_of_getLast? hlast, ?_, ?_⟩
    · rw [← h.current, hlast]
      rfl
    · intro w hw
      exact h.linked.parent_ne_last hlast hw
  linked := h.linked

theorem Invariant.sound {db : SceneTables} (h : db.Invariant) : db.Sound :=
  ⟨fun scene hscene => (h.line scene hscene).linearChain, h.oneOpen⟩

/-- Versions of other scenes do not touch a line. -/
theorem versionsOf_append_other {db db' : SceneTables} {v : SceneVersionRecord} {sceneId : Uuid}
    (hdb' : db'.versions = db.versions ++ [v]) (hother : v.sceneId ≠ sceneId) :
    db'.versionsOf sceneId = db.versionsOf sceneId := by
  simp [versionsOf, hdb', hother]

theorem versionsOf_append_self {db db' : SceneTables} {v : SceneVersionRecord} {sceneId : Uuid}
    (hdb' : db'.versions = db.versions ++ [v]) (hself : v.sceneId = sceneId) :
    db'.versionsOf sceneId = db.versionsOf sceneId ++ [v] := by
  simp [versionsOf, hdb', hself]

theorem Line.congr {db db' : SceneTables} {scene scene' : SceneRecord} (h : db.Line scene)
    (hversions : db'.versionsOf scene'.sceneId = db.versionsOf scene.sceneId)
    (hcurrent : scene'.currentVersionId = scene.currentVersionId) : db'.Line scene' where
  linked := hversions ▸ h.linked
  current := by rw [hversions, hcurrent, h.current]
  created := by
    rw [hversions]
    exact h.created

/-- Opening a scene keeps the invariant. -/
theorem Invariant.addScene {db db' : SceneTables} (h : db.Invariant)
    {projectId sceneId versionId : Uuid} {name createdByJson : String} {createdAtNs : Int64}
    (hopen : db.openScenes projectId = []) (hfresh : ∀ old ∈ db.scenes, old.sceneId ≠ sceneId)
    (hscenes : db'.scenes = db.scenes ++ [newScene projectId name sceneId versionId])
    (hversions : db'.versions = db.versions ++
      [newVersion sceneId versionId none "created" createdByJson createdAtNs]) :
    db'.Invariant where
  sceneKeys := by
    rw [hscenes, List.map_append, List.nodup_append]
    refine ⟨h.sceneKeys, by simp, ?_⟩
    intro k hk k' hk' heq
    obtain ⟨old, hold, rfl⟩ := List.mem_map.mp hk
    rw [List.map_singleton, List.mem_singleton] at hk'
    exact hfresh old hold (heq.trans hk')
  references := by
    intro v hv
    rw [hversions] at hv
    rw [hscenes]
    rcases List.mem_append.mp hv with hv | hv
    · obtain ⟨scene, hscene, heq⟩ := h.references v hv
      exact ⟨scene, List.mem_append_left _ hscene, heq⟩
    · refine ⟨newScene projectId name sceneId versionId, by simp, ?_⟩
      rw [List.mem_singleton.mp hv]
      rfl
  line := by
    intro scene hscene
    rw [hscenes] at hscene
    rcases List.mem_append.mp hscene with hscene | hscene
    · refine (h.line scene hscene).congr (versionsOf_append_other hversions ?_) rfl
      exact (hfresh scene hscene).symm
    · rw [List.mem_singleton.mp hscene]
      -- no version names the fresh scene yet, so its line is the root alone
      have hnone : db.versionsOf sceneId = [] := by
        apply List.filter_eq_nil_iff.mpr
        intro v hv heq
        obtain ⟨old, hold, hid⟩ := h.references v hv
        exact hfresh old hold (hid.trans (by simpa using heq))
      have hone : db'.versionsOf sceneId = _ := versionsOf_append_self hversions rfl
      rw [hnone, List.nil_append] at hone
      constructor
      · show Linked _ _ (db'.versionsOf sceneId)
        rw [hone]
        exact .root _ rfl
      · show (db'.versionsOf sceneId).getLast?.map _ = _
        rw [hone]
        rfl
      · show ∀ v ∈ db'.versionsOf sceneId, _
        rw [hone]
        intro v hv _
        rw [List.mem_singleton.mp hv]
        rfl
  oneOpen := by
    intro other
    rw [openScenes, hscenes, List.filter_append, List.length_append]
    by_cases hproject : projectId = other
    · have hnone : db.openScenes other = [] := hproject ▸ hopen
      rw [openScenes] at hnone
      rw [hnone]
      exact (Nat.zero_add _).trans_le (List.length_filter_le _ _)
    · have hother : ([newScene projectId name sceneId versionId].filter fun scene =>
          scene.projectId = other && scene.status = some "open") = [] := by
        simp [newScene, hproject]
      rw [hother]
      exact h.oneOpen other

@[simp] theorem advanced_sceneId (sceneId versionId : Uuid) (scene : SceneRecord) :
    (advanced sceneId versionId scene).sceneId = scene.sceneId := by
  unfold advanced
  split <;> rfl

theorem isOpen_advanced (sceneId versionId projectId : Uuid) (scene : SceneRecord) :
    ((advanced sceneId versionId scene).projectId = projectId &&
        (advanced sceneId versionId scene).status = some "open") =
      (scene.projectId = projectId && scene.status = some "open") := by
  unfold advanced
  split <;> rfl

/-- Adding a child of the current version and advancing to it keeps the invariant. -/
theorem Invariant.addVersion {db db' : SceneTables} (h : db.Invariant) {scene : SceneRecord}
    {sceneId versionId parent : Uuid} {stage createdByJson : String} {createdAtNs : Int64}
    (hscene : scene ∈ db.scenes) (hid : scene.sceneId = sceneId)
    (hcurrent : scene.currentVersionId = some parent)
    (hfresh : ∀ old ∈ db.versions, old.versionId ≠ versionId)
    (hscenes : db'.scenes = db.scenes.map (advanced sceneId versionId))
    (hversions : db'.versions = db.versions ++
      [newVersion sceneId versionId (some parent) stage createdByJson createdAtNs]) :
    db'.Invariant where
  sceneKeys := by
    have hkeys : (advanced sceneId versionId · |>.sceneId) = SceneRecord.sceneId := by
      funext scene
      exact advanced_sceneId ..
    rw [hscenes, List.map_map]
    show (db.scenes.map (advanced sceneId versionId · |>.sceneId)).Nodup
    rw [hkeys]
    exact h.sceneKeys
  references := by
    intro v hv
    rw [hversions] at hv
    have hold : ∃ scene ∈ db.scenes, scene.sceneId = v.sceneId := by
      rcases List.mem_append.mp hv with hv | hv
      · exact h.references v hv
      · rw [List.mem_singleton.mp hv]
        exact ⟨scene, hscene, hid⟩
    obtain ⟨old, hold, heq⟩ := hold
    refine ⟨advanced sceneId versionId old, ?_, (advanced_sceneId ..).trans heq⟩
    rw [hscenes]
    exact List.mem_map_of_mem hold
  line := by
    intro scene' hscene'
    rw [hscenes] at hscene'
    obtain ⟨old, hold, rfl⟩ := List.mem_map.mp hscene'
    have hline := h.line old hold
    by_cases hsame : old.sceneId = sceneId
    · -- the scene of the call: its line grows by the new version
      obtain rfl : old = scene :=
        List.inj_on_of_nodup_map h.sceneKeys hold hscene (hsame.trans hid.symm)
      have hgrown : db'.versionsOf (advanced sceneId versionId old).sceneId =
          db.versionsOf old.sceneId ++
            [newVersion sceneId versionId (some parent) stage createdByJson createdAtNs] := by
        rw [advanced_sceneId]
        exact versionsOf_append_self hversions hid.symm
      obtain ⟨last, hlast, rfl⟩ :=
        Option.map_eq_some_iff.mp (hline.current.trans hcurrent)
      constructor
      · rw [hgrown]
        refine .child _ hline.linked hlast rfl ?_
        intro hmem
        obtain ⟨v, hv, heq⟩ := List.mem_map.mp hmem
        exact hfresh v (List.mem_filter.mp hv).1 heq
      · rw [hgrown, List.getLast?_concat, advanced, if_pos hsame]
        rfl
      · rw [hgrown]
        intro v hv hnone
        rcases List.mem_append.mp hv with hv | hv
        · exact hline.created v hv hnone
        · rw [List.mem_singleton.mp hv] at hnone
          exact (nomatch hnone)
    · refine hline.congr ?_ ?_
      · rw [advanced_sceneId]
        exact versionsOf_append_other hversions (Ne.symm hsame)
      · rw [advanced, if_neg hsame]
  oneOpen := by
    intro projectId
    have hfilter : (db.scenes.map (advanced sceneId versionId)).filter (fun scene =>
        scene.projectId = projectId && scene.status = some "open") =
        (db.openScenes projectId).map (advanced sceneId versionId) := by
      rw [List.filter_map]
      congr 1
      apply List.filter_congr
      intro scene _
      exact isOpen_advanced ..
    rw [openScenes, hscenes, hfilter, List.length_map]
    exact h.oneOpen projectId

/-! ## Runs of calls

The steps are the calls; the rule for runs gives what each of them keeps. -/

/-- A call on the scene tables, with the identifiers that it generates. -/
inductive Call where
  | findOrCreateScene (projectId : Uuid) (name createdByJson : String) (createdAtNs : Int64)
      (sceneId versionId : Uuid)
  | createSceneVersion (sceneId : Uuid) (stage createdByJson : String) (createdAtNs : Int64)
      (versionId : Uuid)

/-- The error of a call that is rejected, and the tables after the call. -/
def call (db : SceneTables) : Call → Option ProjectError × SceneTables
  | .findOrCreateScene projectId name createdByJson createdAtNs sceneId versionId =>
      let (result, db') :=
        db.findOrCreateScene projectId name createdByJson createdAtNs sceneId versionId
      (match result with | .ok _ => none | .error e => some e, db')
  | .createSceneVersion sceneId stage createdByJson createdAtNs versionId =>
      let (result, db') :=
        db.createSceneVersion sceneId stage createdByJson createdAtNs versionId
      (match result with | .ok _ => none | .error e => some e, db')

/-- The calls of a project. -/
def calls : Actions SceneTables Call := ⟨fun c db => some (db.call c).2⟩

/-- A call that throws changes nothing, and the tables after the call are as promised. -/
def CallSound (c : Call) (db : SceneTables) : Prop :=
  ((db.call c).1.isSome → (db.call c).2 = db) ∧ (db.call c).2.Sound

/-- One call: rejected calls change nothing and every call keeps the invariant. -/
theorem Invariant.call {db : SceneTables} (h : db.Invariant) (c : Call) :
    ((db.call c).1.isSome → (db.call c).2 = db) ∧ (db.call c).2.Invariant := by
  cases c with
  | findOrCreateScene projectId name createdByJson createdAtNs sceneId versionId =>
      rcases db.findOrCreateScene_cases projectId name createdByJson createdAtNs sceneId versionId
        with hsame | ⟨hopen, hfresh, _, row, hnew⟩
      · refine ⟨fun _ => hsame, ?_⟩
        show (db.findOrCreateScene ..).2.Invariant
        rw [hsame]
        exact h
      · simp only [SceneTables.call, hnew]
        exact ⟨fun herr => (nomatch herr), h.addScene hopen hfresh rfl rfl⟩
  | createSceneVersion sceneId stage createdByJson createdAtNs versionId =>
      rcases db.createSceneVersion_cases sceneId stage createdByJson createdAtNs versionId
        with hsame | ⟨scene, hscene, parent, hid, hcurrent, hfresh, row, hnew⟩
      · refine ⟨fun _ => hsame, ?_⟩
        show (db.createSceneVersion ..).2.Invariant
        rw [hsame]
        exact h
      · simp only [SceneTables.call, hnew]
        exact ⟨fun herr => (nomatch herr),
          h.addVersion hscene hid hcurrent hfresh rfl rfl⟩

/-- Over every sequence of calls on a project, rejected calls change nothing,
the versions of each scene form a line from its root to its current version, and
a project has at most one open scene. -/
theorem scenes_sound (readOnly : Bool) (projects : List Uuid) (cs : List Call) :
    calls.Along CallSound cs { readOnly, projects } := by
  have hempty : Invariant { readOnly, projects } := by
    constructor <;> simp [openScenes]
  have hstep : ∀ c db db', Invariant db → calls.step c db = some db' → Invariant db' := by
    intro c db db' h hdb'
    cases hdb'
    exact (h.call c).2
  apply Actions.along_of_run_invariant hstep _ hempty
  intro c db h
  obtain ⟨hrejected, hafter⟩ := h.call c
  exact ⟨hrejected, hafter.sound⟩

end SceneTables

end SpatialPlatform.Core
