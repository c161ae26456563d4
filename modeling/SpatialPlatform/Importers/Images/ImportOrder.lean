import SpatialPlatform.Importers.Images.ArtifactRefs
import SpatialPlatform.Importers.Images.Recording

/-!
# The order of a batch

`Import` sorts its files by their source URI and counts them. The URI is the
whole key of the sort, and need not be there, so files that share one, or have
none, are numbered as they came.

* `import_order_irrelevant_iff` — every order of a batch leaves the same records
  exactly when files that share a source URI with a new image all show that
  image.
* `swapped_files_differ` — two files without a source URI.
-/

namespace SpatialPlatform.Importers

open SpatialPlatform.Core SpatialPlatform.Lib

namespace ImageImporter

/-- A call that imports the files in some order, with fresh identifiers. -/
structure ImportOf (disk : String → Except ProjectError (List UInt8)) (db : ProjectTables)
    (files : List ImageSourceFile) (explicitSession : Option Uuid) (call : ImportCall) : Prop where
  files : call.files.Perm files
  session : call.explicitSession = explicitSession
  reads : ∀ file i, (file, i) ∈ (ordered call).zipIdx → (call.inputs i).bytes = disk file.path
  fresh : Fresh call db

/-- The files that a run imported and rejected; none if it ends with an error. -/
def listsOf (run : Except ProjectError ImageImportResult × ProjectTables) :
    List ImageImportEntry × List ImageImportFailure :=
  (run.1.toOption.map ImageImportResult.lists).getD ([], [])

/-- Two runs leave the same records and return the same files, up to generated identifiers. -/
structure SameImport (run₁ run₂ : Except ProjectError ImageImportResult × ProjectTables) :
    Prop where
  frames : (run₁.2.frames.map (·.erased)).Perm (run₂.2.frames.map (·.erased))
  observations : (run₁.2.observations.map (·.row.erased)).Perm
    (run₂.2.observations.map (·.row.erased))
  payloadRows : run₁.2.payloadRows.Perm run₂.2.payloadRows
  returns : run₁.1.toOption.isSome = run₂.1.toOption.isSome
  imported : (listsOf run₁).1.Perm (listsOf run₂).1
  failures : (listsOf run₁).2.Perm (listsOf run₂).2

variable (importer : ImageImporter) (disk : String → Except ProjectError (List UInt8))
  (db : ProjectTables) (files : List ImageSourceFile) (explicitSession : Option Uuid)

/-- Every two orders of the batch leave the same. -/
def OrderIrrelevant : Prop :=
  ∀ call₁ call₂, ImportOf disk db files explicitSession call₁ →
    ImportOf disk db files explicitSession call₂ →
    SameImport (importer.importBatch call₁ db) (importer.importBatch call₂ db)

/-- Every order of the batch can be imported. -/
def Importable : Prop :=
  ∀ files', files'.Perm files → ∃ call result db', call.files = files' ∧
    ImportOf disk db files explicitSession call ∧ importer.importBatch call db = (.ok result, db')

/-- What the checks say of a file on the disk. -/
def verdict (file : ImageSourceFile) : Verdict := importer.assess db file (disk file.path)

/-- The file shows an image that neither the database has nor a file with a smaller source URI. -/
structure NewImage (file : ImageSourceFile) (c : Candidate) : Prop where
  shows : importer.verdict disk db file = .ok c
  unknown : db.observationExists c.entry.observationId = false
  first : ∀ other ∈ files, other.sourceUri < file.sourceUri → ∀ c',
    importer.verdict disk db other = .ok c' → c'.entry.observationId ≠ c.entry.observationId

/-- Files that share the source URI of a new image all show that image. -/
def OneImagePerUri : Prop :=
  ∀ file ∈ files, ∀ c, importer.NewImage disk db files file c → ∀ other ∈ files,
    other.sourceUri = file.sourceUri → importer.verdict disk db other = .ok c

variable {importer disk db files explicitSession}

/-! ## One image

What the record says of one image: known, new, or the end of the import. -/

/-- The frame of an image, as it is recorded. -/
def imageFrame (c : Candidate) (i : Nat) : FrameRow where
  frameId := c.entry.frameId
  sceneId := .nil
  timestampNs := c.timestampNs
  sequenceIndex := i
  sensorId := c.sensorId

/-- An image is known, or it ends the import, or its frame and its observation are new. -/
theorem recordImage_cases (importer : ImageImporter) (c : Candidate) (i : Nat) (s : Recorded) :
    (s.observed c.entry.observationId = true ∧
      importer.recordImage c i s = (some { c.entry with reimported := true }, s)) ∨
    (s.observed c.entry.observationId = false ∧ (importer.recordImage c i s).1 = none) ∨
    (s.observed c.entry.observationId = false ∧ s.frames.any (·.frameId = c.entry.frameId) = false ∧
      ∃ row s', row.observationId = c.entry.observationId ∧
        importer.recordImage c i s =
          (some { c.entry with newInstance := s.indexed c.entry.contentHash }, s') ∧
        s'.frames = s.frames ++ [imageFrame c i] ∧ s'.observations = s.observations ++ [row]) := by
  unfold recordImage
  cases hobserved : s.observed c.entry.observationId with
  | true => exact .inl ⟨rfl, rfl⟩
  | false =>
      right
      rw [if_neg Bool.false_ne_true]
      split
      · exact .inl ⟨rfl, rfl⟩
      split
      · exact .inl ⟨rfl, rfl⟩
      next hframe =>
        dsimp only
        split
        · exact .inl ⟨rfl, rfl⟩
        · exact .inr ⟨rfl, by simpa using hframe, _, _, rfl, rfl, rfl, rfl⟩

theorem recordFile_ok {c : Candidate} {i : Nat} {s s' : Recorded} {o : Outcome}
    (h : importer.recordFile (.ok c) i s = (some o, s')) :
    ∃ entry, importer.recordImage c i s = (some entry, s') ∧ o = .ok entry := by
  rcases hrecord : importer.recordImage c i s with ⟨_ | entry, t⟩
  · simp [recordFile, hrecord] at h
  · simp only [recordFile, hrecord, Option.map_some, Prod.mk.injEq, Option.some.injEq] at h
    obtain ⟨rfl, rfl⟩ := h
    exact ⟨entry, rfl, rfl⟩

/-- What recording an image leaves: it is known afterwards. -/
theorem recordImage_eq_some {c : Candidate} {i : Nat} {s s' : Recorded} {entry : ImageImportEntry}
    (h : importer.recordImage c i s = (some entry, s')) :
    (s.observed c.entry.observationId = true ∧ s' = s ∧
      entry = { c.entry with reimported := true }) ∨
    (s.observed c.entry.observationId = false ∧ s.frames.any (·.frameId = c.entry.frameId) = false ∧
      entry = { c.entry with newInstance := s.indexed c.entry.contentHash } ∧
      s'.frames = s.frames ++ [imageFrame c i] ∧
      ∃ row, row.observationId = c.entry.observationId ∧
        s'.observations = s.observations ++ [row]) := by
  rcases recordImage_cases importer c i s with
    ⟨hknown, hrun⟩ | ⟨_, hnone⟩ | ⟨hnew, hframe, row, t, hid, hrun, hframes, hobservations⟩
  · rw [hrun] at h
    cases h
    exact .inl ⟨hknown, rfl, rfl⟩
  · rw [h] at hnone
    exact (nomatch hnone)
  · rw [hrun] at h
    cases h
    exact .inr ⟨hnew, hframe, rfl, hframes, row, hid, hobservations⟩

theorem observed_append {s s' : Recorded} {row : ObservationRow} (observationId : Uuid)
    (h : s'.observations = s.observations ++ [row]) :
    s'.observed observationId =
      (s.observed observationId || decide (row.observationId = observationId)) := by
  simp [Recorded.observed, h]

/-! ## Settled files

A file that shows no new image changes nothing, and a file whose image was
recorded shows none. -/

theorem settled_error (failure : ImageImportFailure) (s : Recorded) :
    BatchStep.Settled importer.recordFile settledOutcome (.error failure) s := fun _ => rfl

theorem settled_ok_iff {c : Candidate} {s : Recorded} :
    BatchStep.Settled importer.recordFile settledOutcome (.ok c) s ↔
      s.observed c.entry.observationId = true := by
  constructor
  · intro h
    obtain ⟨entry, hrun, _⟩ := recordFile_ok (h 0)
    rcases recordImage_eq_some hrun with ⟨hknown, _⟩ | ⟨_, _, _, hframes, _⟩
    · exact hknown
    · exact absurd (congrArg List.length hframes) (by simp)
  · intro h i
    rcases recordImage_cases importer c i s with ⟨_, hrun⟩ | ⟨hnew, _⟩ | ⟨hnew, _⟩
    · simp only [recordFile, hrun]
      rfl
    · rw [h] at hnew
      cases hnew
    · rw [h] at hnew
      cases hnew

/-- Recording a file keeps what is observed. -/
theorem observed_of_recordFile {v : Verdict} {i : Nat} {s s' : Recorded} {o : Outcome}
    (h : importer.recordFile v i s = (some o, s')) {observationId : Uuid}
    (hknown : s.observed observationId = true) : s'.observed observationId = true := by
  cases v with
  | error failure =>
      cases h
      exact hknown
  | ok c =>
      obtain ⟨entry, hrun, _⟩ := recordFile_ok h
      rcases recordImage_eq_some hrun with ⟨_, rfl, _⟩ | ⟨_, _, _, _, row, _, hobservations⟩
      · exact hknown
      · rw [observed_append observationId hobservations, hknown, Bool.true_or]

theorem settles_recordFile : BatchStep.Settles importer.recordFile settledOutcome where
  self := by
    intro v i s o s' h
    cases v with
    | error failure => exact settled_error failure s'
    | ok c =>
        apply settled_ok_iff.mpr
        obtain ⟨entry, hrun, _⟩ := recordFile_ok h
        rcases recordImage_eq_some hrun with ⟨hknown, rfl, _⟩ | ⟨_, _, _, _, row, hid, hobservations⟩
        · exact hknown
        · rw [observed_append _ hobservations, hid]
          simp
  kept := by
    intro v w i s o s' hw h
    cases w with
    | error failure => exact settled_error failure s'
    | ok c => exact settled_ok_iff.mpr (observed_of_recordFile h (settled_ok_iff.mp hw))

/-! ## Orders of a batch whose URIs decide

Both orders are sorted by their URIs before anything is imported. They may
differ among files of one URI, and these show one image, so the rule for batches
with keys applies. -/

theorem OneImagePerUri.keysDecide (h : importer.OneImagePerUri disk db files) :
    BatchStep.KeysDecide importer.recordFile settledOutcome (·.sourceUri)
      (importer.verdict disk db) files (recorded db) := by
  -- a file that shows no new image is settled when the batch gets to it
  have hsettled : ∀ file, (∀ c, ¬ importer.NewImage disk db files file c) →
      BatchStep.SettledBefore importer.recordFile settledOutcome (·.sourceUri)
        (importer.verdict disk db) files (recorded db) file := by
    intro file hnone t hkept hdone
    cases hshows : importer.verdict disk db file with
    | error failure => exact settled_error failure t
    | ok c =>
        by_cases hknown : db.observationExists c.entry.observationId = true
        · apply hkept
          rw [settled_ok_iff, observed_recorded]
          exact hknown
        · have hnot := hnone c
          have hseen : ∃ other ∈ files, other.sourceUri < file.sourceUri ∧ ∃ c',
              importer.verdict disk db other = .ok c' ∧
              c'.entry.observationId = c.entry.observationId := by
            by_contra hno
            refine hnot ⟨hshows, by simpa using hknown, ?_⟩
            intro other hmem hlt c' hc' heq
            exact hno ⟨other, hmem, hlt, c', hc', heq⟩
          obtain ⟨other, hmem, hlt, c', hc', heq⟩ := hseen
          have hother := hdone other hmem hlt
          rw [hc', settled_ok_iff, heq] at hother
          exact settled_ok_iff.mpr hother
  intro f hf g hg hkey
  by_cases hnewF : ∃ c, importer.NewImage disk db files f c
  · obtain ⟨c, hc⟩ := hnewF
    left
    rw [hc.shows, h f hf c hc g hg hkey.symm]
  by_cases hnewG : ∃ c, importer.NewImage disk db files g c
  · obtain ⟨c, hc⟩ := hnewG
    left
    rw [hc.shows, h g hg c hc f hf hkey]
  · right
    exact ⟨hsettled f fun c hc => hnewF ⟨c, hc⟩, hsettled g fun c hc => hnewG ⟨c, hc⟩⟩

theorem pairwise_ordered (call : ImportCall) :
    (ordered call).Pairwise fun a b => a.sourceUri ≤ b.sourceUri := by
  have htotal : Std.Total fun a b : ImageSourceFile => a.sourceUri ≤ b.sourceUri :=
    ⟨fun a b => le_total a.sourceUri b.sourceUri⟩
  have htrans : IsTrans ImageSourceFile fun a b => a.sourceUri ≤ b.sourceUri :=
    ⟨fun _ _ _ => le_trans⟩
  exact List.pairwise_insertionSort _ _

theorem ImportOf.perm_ordered {call : ImportCall}
    (h : ImportOf disk db files explicitSession call) : (ordered call).Perm files :=
  (List.perm_insertionSort _ _).trans h.files

theorem ImportOf.opens_eq {call : ImportCall} (h : ImportOf disk db files explicitSession call) :
    opens importer call.files call.explicitSession db = opens importer files explicitSession db := by
  have hempty : call.files.isEmpty = files.isEmpty := by
    rw [Bool.eq_iff_iff, List.isEmpty_iff, List.isEmpty_iff]
    constructor
    · intro hnil
      exact List.nil_perm.mp (hnil ▸ h.files)
    · intro hnil
      exact List.perm_nil.mp (hnil ▸ h.files)
  unfold opens
  rw [hempty, h.session]

/-- The records of a call, as a run over the verdicts in their order. -/
theorem ImportOf.records {call : ImportCall} (h : ImportOf disk db files explicitSession call)
    (hfits : Fits importer db) :
    RunRecorded (importer.importBatch call db)
      (if opens importer files explicitSession db then
        BatchStep.run importer.recordFile ((ordered call).map (importer.verdict disk db)) 0
          (recorded db)
      else (none, recorded db)) := by
  have hrecords := importBatch_records h.fresh hfits h.reads
  rw [h.opens_eq] at hrecords
  exact hrecords

/-- Two runs whose records agree, with the same outcomes in some order. -/
theorem sameImport_of_records
    {run₁ run₂ : Except ProjectError ImageImportResult × ProjectTables}
    {model₁ model₂ : Option (List Outcome) × Recorded} (h₁ : RunRecorded run₁ model₁)
    (h₂ : RunRecorded run₂ model₂) (hstate : model₁.2 = model₂.2)
    (houtcomes : (model₁.1 = none ∧ model₂.1 = none) ∨
      ∃ os os', model₁.1 = some os ∧ model₂.1 = some os' ∧ os.Perm os') :
    SameImport run₁ run₂ := by
  have hrecorded : recorded run₁.2 = recorded run₂.2 := by rw [h₁.state, h₂.state, hstate]
  have hframes : run₁.2.frames.map (·.erased) = run₂.2.frames.map (·.erased) :=
    congrArg Recorded.frames hrecorded
  have hobservations : run₁.2.observations.map (·.row.erased) =
      run₂.2.observations.map (·.row.erased) := congrArg Recorded.observations hrecorded
  have hpayloadRows : run₁.2.payloadRows = run₂.2.payloadRows :=
    congrArg Recorded.payloadRows hrecorded
  -- what a call returns is what its record returns
  have hreturns : ∀ {run : Except ProjectError ImageImportResult × ProjectTables}
      {model : Option (List Outcome) × Recorded}, RunRecorded run model →
      run.1.toOption.isSome = model.1.isSome := by
    intro run model h
    have hlists := congrArg Option.isSome h.lists
    simpa using hlists
  have hlists : ∀ {run : Except ProjectError ImageImportResult × ProjectTables}
      {model : Option (List Outcome) × Recorded}, RunRecorded run model →
      listsOf run = (model.1.map fun os => (importedOf os, failuresOf os)).getD ([], []) := by
    intro run model h
    rw [listsOf, h.lists]
  rcases houtcomes with ⟨hnone₁, hnone₂⟩ | ⟨os, os', hsome₁, hsome₂, hperm⟩
  · refine ⟨.of_eq hframes, .of_eq hobservations, .of_eq hpayloadRows, ?_, ?_, ?_⟩
    · rw [hreturns h₁, hreturns h₂, hnone₁, hnone₂]
    · rw [hlists h₁, hlists h₂, hnone₁, hnone₂]
    · rw [hlists h₁, hlists h₂, hnone₁, hnone₂]
  · refine ⟨.of_eq hframes, .of_eq hobservations, .of_eq hpayloadRows, ?_, ?_, ?_⟩
    · rw [hreturns h₁, hreturns h₂, hsome₁, hsome₂]
      rfl
    · rw [hlists h₁, hlists h₂, hsome₁, hsome₂]
      exact hperm.filterMap _
    · rw [hlists h₁, hlists h₂, hsome₁, hsome₂]
      exact hperm.filterMap _

theorem OneImagePerUri.orderIrrelevant (h : importer.OneImagePerUri disk db files)
    (hfits : Fits importer db) : importer.OrderIrrelevant disk db files explicitSession := by
  intro call₁ call₂ h₁ h₂
  apply sameImport_of_records (h₁.records hfits) (h₂.records hfits)
  all_goals
    have haligned := h.keysDecide.aligned settles_recordFile h₁.perm_ordered h₂.perm_ordered
      (pairwise_ordered call₁) (pairwise_ordered call₂)
    obtain ⟨hstate, houtcomes⟩ := haligned.run
  · split
    · exact hstate
    · rfl
  · split
    · refine houtcomes.imp_right ?_
      intro ⟨os, os', hos, hos', hperm⟩
      refine ⟨os, os', hos, hos', ?_⟩
      have hbases := ((h₁.perm_ordered.trans h₂.perm_ordered.symm).map
        (importer.verdict disk db)).map settledOutcome
      exact (List.perm_append_right_iff _).mp (hperm.trans (hbases.append_left os'))
    · exact .inl ⟨rfl, rfl⟩

/-! ## Two images with one URI

The converse takes two orders that swap a new image with another file of its
URI, and follows the image through both: its frame has the position at which it
came first, so the two runs differ. -/

section Neighbours

variable {observationId frameId : Uuid} {vs : List Verdict} {i : Nat} {s s' : Recorded}
  {os : List Outcome}

theorem observationId_of_recordFile {c : Candidate} {o : Outcome}
    (h : importer.recordFile (.ok c) i s = (some o, s')) :
    ∃ entry, o = .ok entry ∧ entry.observationId = c.entry.observationId := by
  obtain ⟨entry, hrun, rfl⟩ := recordFile_ok h
  refine ⟨entry, rfl, ?_⟩
  rcases recordImage_eq_some hrun with ⟨_, _, rfl⟩ | ⟨_, _, rfl, _⟩ <;> rfl

/-- An image leaves another one unknown. -/
theorem unobserved_of_recordFile {c : Candidate} {o : Outcome}
    (h : importer.recordFile (.ok c) i s = (some o, s')) (hne : c.entry.observationId ≠ observationId)
    (hs : s.observed observationId = false) : s'.observed observationId = false := by
  obtain ⟨entry, hrun, _⟩ := recordFile_ok h
  rcases recordImage_eq_some hrun with ⟨_, rfl, _⟩ | ⟨_, _, _, _, row, hid, hobservations⟩
  · exact hs
  · rw [observed_append _ hobservations, hs, hid]
    simpa using hne

/-- Files with other images leave an image unknown, and none of their entries is its. -/
theorem run_unknown
    (hother : ∀ c, .ok c ∈ vs → c.entry.observationId ≠ observationId)
    (hs : s.observed observationId = false)
    (h : BatchStep.run importer.recordFile vs i s = (some os, s')) :
    s'.observed observationId = false ∧
      ∀ o ∈ os, ∀ entry, o = .ok entry → entry.observationId ≠ observationId := by
  refine BatchStep.run_invariant (P := fun s => s.observed observationId = false) ?_ hs h
  intro v hv i s o s' hs hstep
  cases v with
  | error failure =>
      cases hstep
      exact ⟨hs, fun _ hentry => (nomatch hentry)⟩
  | ok c =>
      refine ⟨unobserved_of_recordFile hstep (hother c hv) hs, ?_⟩
      intro entry hentry
      obtain ⟨found, rfl, hid⟩ := observationId_of_recordFile hstep
      cases hentry
      rw [hid]
      exact hother c hv

/-- Once an image is known, every further entry of it says so. -/
theorem run_known (hs : s.observed observationId = true)
    (h : BatchStep.run importer.recordFile vs i s = (some os, s')) :
    ∀ o ∈ os, ∀ entry, o = .ok entry → entry.observationId = observationId →
      entry.reimported = true := by
  refine (BatchStep.run_invariant (P := fun s => s.observed observationId = true) ?_ hs h).2
  intro v _ i s o s' hs hstep
  refine ⟨observed_of_recordFile hstep hs, ?_⟩
  intro entry hentry hid
  subst hentry
  cases v with
  | error failure => cases hstep
  | ok c =>
      obtain ⟨found, hrun, hfound⟩ := recordFile_ok hstep
      cases hfound
      rcases recordImage_eq_some hrun with ⟨_, _, rfl⟩ | ⟨hunknown, _, rfl, _⟩
      · rfl
      · rw [show c.entry.observationId = observationId from hid, hs] at hunknown
        exact (nomatch hunknown)

/-- A frame that is there stays the only one of its identifier. -/
theorem run_frames {frame : FrameRow} (hs : s.frames.filter (·.frameId = frameId) = [frame])
    (h : BatchStep.run importer.recordFile vs i s = (some os, s')) :
    s'.frames.filter (·.frameId = frameId) = [frame] := by
  refine (BatchStep.run_invariant (Q := fun _ => True)
    (P := fun s => s.frames.filter (·.frameId = frameId) = [frame]) ?_ hs h).1
  intro v _ i s o s' hs hstep
  refine ⟨?_, trivial⟩
  cases v with
  | error failure =>
      cases hstep
      exact hs
  | ok c =>
      obtain ⟨entry, hrun, _⟩ := recordFile_ok hstep
      rcases recordImage_eq_some hrun with ⟨_, rfl, _⟩ | ⟨_, hnone, _, hframes, _⟩
      · exact hs
      · have hne : c.entry.frameId ≠ frameId := by
          intro heq
          have hmem : frame ∈ s.frames.filter (·.frameId = frameId) := by simp [hs]
          obtain ⟨hmem, hid⟩ := List.mem_filter.mp hmem
          have hnot := List.any_eq_false.mp hnone frame hmem
          rw [heq] at hnot
          exact hnot hid
        rw [hframes, List.filter_append, hs]
        simp [imageFrame, hne]

/-- A new image, and what follows it in the batch: its frame is the one of its position. -/
theorem run_new {c : Candidate} (hs : s.observed c.entry.observationId = false)
    (h : BatchStep.run importer.recordFile (.ok c :: vs) i s = (some os, s')) :
    s'.frames.filter (·.frameId = c.entry.frameId) = [imageFrame c i] ∧
      ∃ os', os = .ok { c.entry with newInstance := s.indexed c.entry.contentHash } :: os' ∧
        ∀ o ∈ os', ∀ entry, o = .ok entry → entry.observationId = c.entry.observationId →
          entry.reimported = true := by
  obtain ⟨o, t, os', hstep, hrest, rfl⟩ := BatchStep.run_cons_eq_some h
  obtain ⟨entry, hrun, rfl⟩ := recordFile_ok hstep
  have hknown := settled_ok_iff.mp (settles_recordFile.self _ _ _ _ _ hstep)
  rcases recordImage_eq_some hrun with ⟨hobserved, _⟩ | ⟨_, hnone, rfl, hframes, _⟩
  · rw [hs] at hobserved
    exact (nomatch hobserved)
  · refine ⟨run_frames ?_ hrest, os', rfl, run_known hknown hrest⟩
    have hnil : s.frames.filter (·.frameId = c.entry.frameId) = [] := by
      apply List.filter_eq_nil_iff.mpr
      exact fun frame hmem => List.any_eq_false.mp hnone frame hmem
    rw [hframes, List.filter_append, hnil]
    simp [imageFrame]

/-- The image that a file shows, before it is looked up: neither imported again nor a new instance. -/
def Plain (c : Candidate) : Prop := c.entry.reimported = false ∧ c.entry.newInstance = false

theorem plain_of_verdict {file : ImageSourceFile} {c : Candidate}
    (h : importer.verdict disk db file = .ok c) : Plain c := by
  unfold verdict assess at h
  dsimp only at h
  repeat' split at h
  all_goals cases h
  exact ⟨rfl, rfl⟩

/-- The entry of a plain image can be read off what the import returns for it. -/
theorem entry_inj {c c' : Candidate} {x y : Bool} (hc : Plain c) (hc' : Plain c')
    (h : ({ c.entry with newInstance := x } : ImageImportEntry) =
      { c'.entry with newInstance := y }) : c.entry = c'.entry := by
  have hentries : ({ c.entry with newInstance := false } : ImageImportEntry) =
      { c'.entry with newInstance := false } :=
    congrArg (fun entry : ImageImportEntry => { entry with newInstance := false }) h
  have hplain : ∀ {c : Candidate}, Plain c →
      ({ c.entry with newInstance := false } : ImageImportEntry) = c.entry := by
    intro c hc
    rw [← hc.2]
  rwa [hplain hc, hplain hc'] at hentries

/-- The runs of a batch in two orders that swap a new image with a file of its
URI: if they leave the same, the file shows that image. -/
theorem eq_of_swapped {c : Candidate} {v : Verdict} {before after : List Verdict}
    {run₁ run₂ : Except ProjectError ImageImportResult × ProjectTables} {os₁ os₂ : List Outcome}
    {s s₁ s₂ : Recorded} (hsame : SameImport run₁ run₂)
    (h₁ : RunRecorded run₁ (some os₁, s₁)) (h₂ : RunRecorded run₂ (some os₂, s₂))
    (hunknown : s.observed c.entry.observationId = false)
    (hbefore : ∀ c', .ok c' ∈ before → c'.entry.observationId ≠ c.entry.observationId)
    (hc : Plain c) (hv : ∀ c', v = .ok c' → Plain c')
    (hrun₁ : BatchStep.run importer.recordFile (before ++ .ok c :: v :: after) 0 s = (some os₁, s₁))
    (hrun₂ : BatchStep.run importer.recordFile (before ++ v :: .ok c :: after) 0 s = (some os₂, s₂)) :
    v = .ok c := by
  -- both runs record the files before the two alike
  obtain ⟨t, osBefore, osRest₁, hstart, hrest₁, rfl⟩ := BatchStep.run_append_eq_some hrun₁
  obtain ⟨t', osBefore', osRest₂, hstart', hrest₂, rfl⟩ := BatchStep.run_append_eq_some hrun₂
  rw [hstart] at hstart'
  obtain ⟨rfl, rfl⟩ : osBefore = osBefore' ∧ t = t' := by
    simpa using hstart'
  obtain ⟨ht, hosBefore⟩ := run_unknown hbefore hunknown hstart
  obtain ⟨hframe₁, osAfter₁, hos₁, _⟩ := run_new ht hrest₁
  have hframes : s₁.frames.Perm s₂.frames := by
    have hstate₁ := congrArg Recorded.frames h₁.state
    have hstate₂ := congrArg Recorded.frames h₂.state
    rw [← hstate₁, ← hstate₂]
    exact hsame.frames
  have hfiltered := hframes.filter (fun frame => frame.frameId = c.entry.frameId)
  rw [hframe₁] at hfiltered
  obtain ⟨o, u, osNext, hstep, hnext, rfl⟩ := BatchStep.run_cons_eq_some hrest₂
  by_cases hsecond : u.observed c.entry.observationId = false
  · -- the new image comes second, and gets the next position
    obtain ⟨hframe₂, _⟩ := run_new hsecond hnext
    rw [hframe₂] at hfiltered
    have hindex := congrArg FrameRow.sequenceIndex
      (List.singleton_injective (List.perm_singleton.mp hfiltered))
    simp only [imageFrame] at hindex
    omega
  · cases v with
    | error failure =>
        cases hstep
        exact absurd ht hsecond
    | ok c' =>
        have hid : c'.entry.observationId = c.entry.observationId := by
          by_contra hne
          exact hsecond (unobserved_of_recordFile hstep hne ht)
        rw [← hid] at ht
        obtain ⟨hframe₂, osAfter₂, hos₂, hlater⟩ := run_new ht hrest₂
        -- the entry of the new image is in both results
        set entry : ImageImportEntry :=
          { c.entry with newInstance := t.indexed c.entry.contentHash } with hentry
        have hlists : ∀ {run : Except ProjectError ImageImportResult × ProjectTables}
            {os : List Outcome} {s : Recorded}, RunRecorded run (some os, s) →
            (listsOf run).1 = importedOf os := by
          intro run os s h
          rw [listsOf, h.lists]
          rfl
        have hmem : entry ∈ importedOf (osBefore ++ osRest₁) := by
          rw [importedOf, hos₁]
          simp [Except.toOption]
        have himported := hsame.imported
        rw [hlists h₁, hlists h₂] at himported
        rw [himported.mem_iff, hos₂] at hmem
        obtain ⟨found, hfound, hok⟩ := List.mem_filterMap.mp hmem
        obtain rfl : found = .ok entry := by
          cases found with
          | error failure => cases hok
          | ok other => rw [Option.some.inj hok]
        have hentryId : entry.observationId = c.entry.observationId := rfl
        rcases List.mem_append.mp hfound with hearlier | hhere
        · exact absurd hentryId (hosBefore _ hearlier entry rfl)
        rcases List.mem_cons.mp hhere with heq | hafter
        · have hentries := entry_inj hc (hv c' rfl) (Except.ok.inj heq)
          rw [← hentries] at hframe₂
          rw [hframe₂] at hfiltered
          have hframe := List.singleton_injective (List.perm_singleton.mp hfiltered)
          have hsensor : c.sensorId = c'.sensorId := congrArg FrameRow.sensorId hframe
          have htimestamp : c.timestampNs = c'.timestampNs := congrArg FrameRow.timestampNs hframe
          obtain ⟨entry', sensorId', timestampNs'⟩ := c'
          obtain ⟨entry, sensorId, timestampNs⟩ := c
          simp only at hentries hsensor htimestamp
          rw [hentries, hsensor, htimestamp]
        · have hagain := hlater _ hafter entry rfl (hentryId.trans hid.symm)
          rw [show entry.reimported = c.entry.reimported from rfl, hc.1] at hagain
          cases hagain

/-- A batch whose order does not matter has one image for each URI that a new image has. -/
theorem OrderIrrelevant.oneImagePerUri
    (h : importer.OrderIrrelevant disk db files explicitSession) (hfits : Fits importer db)
    (himportable : importer.Importable disk db files explicitSession) :
    importer.OneImagePerUri disk db files := by
  intro f hf c hnew g hg hkey
  by_contra hne
  have hfg : g ≠ f := by
    rintro rfl
    exact hne hnew.shows
  -- the batch in two orders, with the two files in front
  have hrest : (f :: g :: (files.erase f).erase g).Perm files := by
    have hmem : g ∈ files.erase f := (List.mem_erase_of_ne hfg).mpr hg
    exact ((List.perm_cons_erase hmem).symm.cons f).trans (List.perm_cons_erase hf).symm
  set rest := (files.erase f).erase g
  obtain ⟨call₁, result₁, db₁, hfiles₁, hof₁, hrun₁⟩ := himportable _ hrest
  obtain ⟨call₂, result₂, db₂, hfiles₂, hof₂, hrun₂⟩ :=
    himportable _ ((List.Perm.swap f g rest).trans hrest)
  obtain ⟨before, after, hbefore, hsort₁, hsort₂⟩ :=
    @BatchStep.insertionSort_swap ImageSourceFile String _ ImageSourceFile.sourceUri f g hkey.symm rest
  have hordered₁ : ordered call₁ = before ++ f :: g :: after := by
    rw [ordered, hfiles₁]
    exact hsort₁
  have hordered₂ : ordered call₂ = before ++ g :: f :: after := by
    rw [ordered, hfiles₂]
    exact hsort₂
  have hreturned : ∀ {call result db'}, ImportOf disk db files explicitSession call →
      importer.importBatch call db = (.ok result, db') →
      ∃ os s, BatchStep.run importer.recordFile ((ordered call).map (importer.verdict disk db)) 0
        (recorded db) = (some os, s) ∧ RunRecorded (importer.importBatch call db) (some os, s) := by
    intro call result db' hof hrun
    have hrecords := hof.records hfits
    have hsome := hrecords.lists
    rw [hrun] at hsome
    split at hrecords
    · next hopens =>
        rcases hmodel : BatchStep.run importer.recordFile
          ((ordered call).map (importer.verdict disk db)) 0 (recorded db) with ⟨_ | os, s⟩
        · rw [if_pos hopens, hmodel] at hsome
          cases hsome
        · rw [hmodel] at hrecords
          exact ⟨os, s, rfl, hrecords⟩
    · next hopens =>
        rw [if_neg hopens] at hsome
        cases hsome
  obtain ⟨os₁, s₁, hmodel₁, hrecords₁⟩ := hreturned hof₁ hrun₁
  obtain ⟨os₂, s₂, hmodel₂, hrecords₂⟩ := hreturned hof₂ hrun₂
  rw [hordered₁, List.map_append, List.map_cons, List.map_cons, hnew.shows] at hmodel₁
  rw [hordered₂, List.map_append, List.map_cons, List.map_cons, hnew.shows] at hmodel₂
  have hunknown : (recorded db).observed c.entry.observationId = false := by
    rw [observed_recorded]
    exact hnew.unknown
  apply hne
  refine eq_of_swapped (h call₁ call₂ hof₁ hof₂) hrecords₁ hrecords₂ hunknown ?_
    (plain_of_verdict hnew.shows) (fun c' => plain_of_verdict) hmodel₁ hmodel₂
  intro c' hmem
  obtain ⟨other, hother, hshows⟩ := List.mem_map.mp hmem
  obtain ⟨hin, hlt⟩ := hbefore other hother
  have hfile : other ∈ files := List.mem_of_mem_erase (List.mem_of_mem_erase hin)
  exact hnew.first other hfile hlt c' hshows

end Neighbours

/-- A batch for which the source URIs decide leaves the same in every order. A
batch that can be imported in every order leaves the same in each of them only
then. -/
theorem import_order_irrelevant_iff (importer : ImageImporter)
    (disk : String → Except ProjectError (List UInt8)) (db : ProjectTables)
    (files : List ImageSourceFile) (explicitSession : Option Uuid) (hfits : Fits importer db) :
    (importer.OneImagePerUri disk db files →
      importer.OrderIrrelevant disk db files explicitSession) ∧
    (importer.Importable disk db files explicitSession →
      importer.OrderIrrelevant disk db files explicitSession →
      importer.OneImagePerUri disk db files) := by
  constructor
  · exact fun h => h.orderIrrelevant hfits
  · exact fun himportable h => h.oneImagePerUri hfits himportable

/-! Two exposures of one pixel, in both orders. -/

/-- An import of exposures of the grey pixel. -/
def importExposures (files : List ImageSourceFile) : ImportCall where
  files
  sessionId := ⟨1⟩
  sceneId := ⟨1⟩
  firstVersionId := ⟨1⟩
  versionId := ⟨2⟩
  inputs i := ⟨.ok greyPixel, ⟨i⟩, ⟨i⟩⟩

/-- An exposure at a time, which its source URI may tell. -/
def exposure (sourceUri : String) (timestampNs : Int64) : ImageSourceFile :=
  { path := "a.png", sourceUri, sensorId := ⟨1⟩, timestampNs }

/-- Exposures with source URIs of their own leave the same in both orders. -/
theorem named_files_agree : pixelImporter.OrderIrrelevant (fun _ => .ok greyPixel) oneCamera
    [exposure "a" 1, exposure "b" 2] none := by
  refine (import_order_irrelevant_iff pixelImporter (fun _ => .ok greyPixel) oneCamera _ none
    ⟨rfl, by decide⟩).1 ?_
  intro file hfile c hc other hother huri
  have heq : other = file := by
    simp only [List.mem_cons, List.not_mem_nil, or_false] at hfile hother
    rcases hfile with rfl | rfl <;> rcases hother with rfl | rfl
    · rfl
    · exact absurd huri (by decide)
    · exact absurd huri (by decide)
    · rfl
  rw [heq, hc.shows]

theorem importOf_exposures {first second : ImageSourceFile} {files : List ImageSourceFile}
    (hperm : [first, second].Perm files) :
    ImportOf (fun _ => .ok greyPixel) oneCamera files none (importExposures [first, second]) where
  files := hperm
  session := rfl
  reads := fun _ _ _ => rfl
  fresh :=
    { session := rfl
      scene := fun _ h => (nomatch h)
      firstVersion := fun _ h => (nomatch h)
      version := fun _ h => (nomatch h)
      versions := show (⟨1⟩ : Uuid) ≠ ⟨2⟩ by decide
      notNil := show (⟨1⟩ : Uuid) ≠ ⟨0⟩ by decide
      distinct :=
        have hinj : ∀ i < 2, ∀ j < 2, (⟨(i : Nat)⟩ : Uuid) = ⟨(j : Nat)⟩ → i = j := by decide
        ⟨hinj, hinj⟩
      rejections := fun _ _ _ h => (nomatch h)
      artifacts := fun _ _ _ h => (nomatch h) }

/-- Without source URIs, the exposure that comes first gets the first position. -/
theorem swapped_files_differ : ¬ pixelImporter.OrderIrrelevant (fun _ => .ok greyPixel) oneCamera
    [exposure "" 1, exposure "" 2] none := by
  intro h
  have hsame := h (importExposures [exposure "" 1, exposure "" 2])
    (importExposures [exposure "" 2, exposure "" 1]) (importOf_exposures (.refl _))
    (importOf_exposures (.swap _ _ _))
  have hframes := hsame.frames.map fun row => (row.timestampNs, row.sequenceIndex)
  have hfirst : ((pixelImporter.importBatch (importExposures [exposure "" 1, exposure "" 2])
      oneCamera).2.frames.map (·.erased)).map (fun row => (row.timestampNs, row.sequenceIndex)) =
      [(1, 0), (2, 1)] := by decide +kernel
  have hsecond : ((pixelImporter.importBatch (importExposures [exposure "" 2, exposure "" 1])
      oneCamera).2.frames.map (·.erased)).map (fun row => (row.timestampNs, row.sequenceIndex)) =
      [(2, 0), (1, 1)] := by decide +kernel
  rw [hfirst, hsecond] at hframes
  exact absurd (hframes.mem_iff.mp List.mem_cons_self) (by decide)

end ImageImporter

end SpatialPlatform.Importers
