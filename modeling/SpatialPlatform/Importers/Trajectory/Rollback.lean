import SpatialPlatform.Importers.Trajectory.TrajectoryImporter

/-!
# An import that fails

Whatever step of `ImportTumCameraTrajectory` fails, the rows of the project
stay. Only the artifact store writes on a failure, when it finds a corrupt
payload: it degrades the row of that payload.
-/

namespace SpatialPlatform.Importers

open SpatialPlatform.Core SpatialPlatform.Lib

variable {R : Type}

/-- A project without its files: the rows of its database. -/
def TrajectoryProject.rows (db : TrajectoryProject R) : TrajectoryProject R :=
  { db with tables := { db.tables with store := { db.tables.store with
    payloads := ∅
    quarantine := ∅
    manifests := ∅ } } }

/-- The project after `Get` has met a corrupt payload. -/
def degraded (db : TrajectoryProject R) (hash : String) : TrajectoryProject R :=
  { db with tables := { db.tables with store := db.tables.store.degrade hash } }

/-- A payload of the store has another digest than its name. -/
def Corrupt (db : TrajectoryProject R) (hash : String) : Prop :=
  ∃ bytes, db.tables.store.payloads.lookup hash = some bytes ∧ sha256Hex bytes ≠ hash

/-- The rows are the same, except that a corrupt payload may have been degraded. -/
def Undone (db db' : TrajectoryProject R) : Prop :=
  db'.rows = db.rows ∨ ∃ hash, Corrupt db hash ∧ db'.rows = (degraded db hash).rows

theorem Undone.refl (db : TrajectoryProject R) : Undone db db := .inl rfl

/-- Where a payload file is has no part in the rows. -/
theorem rows_quarantinePayload (db : TrajectoryProject R) (hash : String) (bytes : List UInt8) :
    (TrajectoryProject.rows { db with tables := { db.tables with
      store := (db.tables.store.quarantinePayload hash bytes).degrade hash } }) =
      (degraded db hash).rows := by
  by_cases hquarantine : (db.tables.store.quarantine.lookup hash).isSome
  · rw [show db.tables.store.quarantinePayload hash bytes = db.tables.store from if_pos hquarantine]
    rfl
  · rw [show db.tables.store.quarantinePayload hash bytes = { db.tables.store with
      payloads := db.tables.store.payloads.erase hash
      quarantine := db.tables.store.quarantine.insert hash bytes } from if_neg hquarantine]
    unfold degraded StoreState.degrade
    cases db.tables.store.artifacts.findByHash hash with
    | none => rfl
    | some index => cases hread : db.tables.store.readOnly <;> simp [TrajectoryProject.rows, hread]

/-- A read of the store changes nothing, or it throws and degrades what is corrupt. -/
theorem get_triple (db : TrajectoryProject R) (hash : String) :
    Persist.Triple (· = db) (onStore fun store => store.get hash)
      (fun payload s => s = db ∧ ∀ bytes, payload = some bytes →
        db.tables.store.payloads.lookup hash = some bytes ∧ sha256Hex bytes = hash)
      (Undone db) := by
  intro s hs
  subst hs
  obtain ⟨_, hget⟩ | ⟨bytes, hbytes, hdigest, hget⟩ | ⟨bytes, hbytes, hdigest, e, hget⟩ :=
    s.tables.store.get_cases hash
  · simp only [onStore, Persist.within, hget]
    exact ⟨trivial, fun _ h => (nomatch h)⟩
  · simp only [onStore, Persist.within, hget]
    refine ⟨trivial, ?_⟩
    intro found hfound
    cases hfound
    exact ⟨hbytes, hdigest⟩
  · simp only [onStore, Persist.within, hget]
    exact .inr ⟨hash, ⟨bytes, hbytes, hdigest⟩, rows_quarantinePayload s hash bytes⟩

/-- After the check, a payload that is known is the given one. -/
theorem verifyPayload_triple (db : TrajectoryProject R) (hash : String) (bytes : List UInt8)
    (message : String) :
    Persist.Triple (· = db) (verifyPayload hash bytes message)
      (fun _ s => s = db ∧
        (((db.tables.store.artifacts.findByHash hash).isSome ∨
          (db.tables.store.payloads.lookup hash).isSome) →
          db.tables.store.payloads.lookup hash = some bytes))
      (Undone db) := by
  unfold verifyPayload
  apply Persist.Triple.bind Persist.Triple.read
  intro known
  apply Persist.Triple.ite
  · intro _
    apply Persist.Triple.bind ((get_triple db hash).pre fun _ h => h.1)
    intro existing
    apply Persist.Triple.ite
    · intro hexisting
      apply Persist.Triple.pure
      intro s ⟨hs, hfound⟩
      exact ⟨hs, fun _ => (hfound bytes hexisting).1⟩
    · intro _
      apply Persist.Triple.fail
      intro s ⟨hs, _⟩
      exact hs ▸ Undone.refl db
  · intro hunknown
    apply Persist.Triple.pure
    intro s ⟨hs, hknown⟩
    subst hs
    refine ⟨rfl, ?_⟩
    intro h
    apply absurd _ hunknown
    rw [hknown]
    simpa using h

/-- A trajectory that is there is returned from the project as it is. -/
theorem reuse_triple (db : TrajectoryProject R) (numbers : Numbers R) (json : JsonLibrary)
    (equal : Json → Json → Bool) (prepared : Prepared R) (options : TrajectoryImportOptions)
    (sourceIndex configIndex : Option ArtifactIndexRow) (index : ArtifactIndexRow) :
    Persist.Triple (· = db)
      (reuse numbers json equal prepared options sourceIndex configIndex index)
      (fun result s => s = db ∧ result.reused = true) (Undone db) := by
  have hfail : ∀ e : ProjectError, Persist.Triple (α := TrajectoryImportResult R) (· = db)
      (Persist.fail e) (fun result s => s = db ∧ result.reused = true) (Undone db) :=
    fun e => Persist.Triple.fail fun s hs => hs ▸ Undone.refl db
  unfold reuse
  apply Persist.Triple.bind (Persist.Triple.read.post (fun _ _ h => h.1) fun _ h => h)
  intro manifest
  apply Persist.Triple.ite
  · intro _
    apply Persist.Triple.bind ((get_triple db index.contentHash).post (fun _ _ h => h.1) fun _ h => h)
    intro payload
    cases payload with
    | none => exact hfail _
    | some bytes =>
      simp only
      split
      · exact hfail _
      · apply Persist.Triple.bind (Persist.Triple.read.post (fun _ _ h => h.1) fun _ h => h)
        intro row
        split
        · apply Persist.Triple.ite
          · exact fun _ => Persist.Triple.pure fun _ h => ⟨h, rfl⟩
          · exact fun _ => hfail _
        · exact hfail _
  · exact fun _ => hfail _

/-- A transaction that fails leaves no row behind, whatever its body has done. -/
theorem writeTransaction_triple {α : Type} (db : TrajectoryProject R) (body : TrajectoryM R α) :
    Persist.Triple (· = db) (writeTransaction body)
      (fun a s => db.tables.store.readOnly = false ∧ body db = (.ok a, s)) (Undone db) := by
  intro s hs
  subst hs
  cases hread : s.tables.store.readOnly with
  | true =>
    simp only [writeTransaction, hread, if_true]
    exact Undone.refl s
  | false =>
    rcases hbody : body s with ⟨e | a, db'⟩
    · simp only [writeTransaction, hread, Bool.false_eq_true, if_false, hbody]
      exact .inl rfl
    · simp only [writeTransaction, hread, Bool.false_eq_true, if_false, hbody, and_self]

/-- After the checks of the stored payloads, the project is as it was; then it
is read, or a transaction writes it. -/
theorem importPrepared_triple (db : TrajectoryProject R) (numbers : Numbers R) (json : JsonLibrary)
    (equal : Json → Json → Bool) (build : ImporterBuild) (prepared : Prepared R)
    (options : TrajectoryImportOptions) (call : TrajectoryImportCall) :
    Persist.Triple (· = db)
      (importPrepared numbers json equal build prepared options call)
      (fun _ _ => True) (Undone db) := by
  have hread : ∀ {α : Type} (f : TrajectoryProject R → α),
      Persist.Triple (E := ProjectError) (· = db) (Persist.read f) (fun _ s => s = db) (Undone db) :=
    fun f => Persist.Triple.read.post (fun _ _ h => h.1) fun _ h => h
  have hverify : ∀ hash bytes message,
      Persist.Triple (· = db) (verifyPayload hash bytes message) (fun _ s => s = db) (Undone db) :=
    fun hash bytes message =>
      (verifyPayload_triple db hash bytes message).post (fun _ _ h => h.1) fun _ h => h
  unfold importPrepared
  apply Persist.Triple.bind (hread _)
  intro sourceIndex
  apply Persist.Triple.bind (hverify _ _ _)
  intro _
  apply Persist.Triple.bind (hread _)
  intro configIndex
  apply Persist.Triple.bind (hverify _ _ _)
  intro _
  apply Persist.Triple.bind (hread _)
  intro existing
  cases existing with
  | some index =>
    apply (reuse_triple db numbers json equal prepared options sourceIndex configIndex index).post
    · exact fun _ _ _ => trivial
    · exact fun _ h => h
  | none =>
    apply (writeTransaction_triple db _).post
    · exact fun _ _ _ => trivial
    · exact fun _ h => h

/-- An import that fails leaves the rows as they were, up to the row of a payload found corrupt. -/
theorem importTumCameraTrajectory_triple [DoubleArith R] (db : TrajectoryProject R)
    (numbers : Numbers R) (json : JsonLibrary) (equal : Json → Json → Bool) (build : ImporterBuild)
    (projectId : Uuid) (source : List UInt8) (options : TrajectoryImportOptions)
    (call : TrajectoryImportCall) :
    Persist.Triple (· = db)
      (importTumCameraTrajectory numbers json equal build projectId source options call)
      (fun _ _ => True) (Undone db) := by
  unfold importTumCameraTrajectory
  apply Persist.Triple.bind (Persist.Triple.read.post (fun _ _ h => h.1) fun _ h => h)
  intro prepared
  cases prepared with
  | error e => exact Persist.Triple.fail fun s hs => hs ▸ Undone.refl db
  | ok prepared => exact importPrepared_triple db numbers json equal build prepared options call

end SpatialPlatform.Importers
