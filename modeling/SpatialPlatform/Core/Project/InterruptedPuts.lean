import SpatialPlatform.Core.Project.WholePayloads
import SpatialPlatform.Core.Project.Handles

/-!
# Integrity over the runs of a project

The states that `Put`, `PutInstance` and `GarbageCollect` reach from a new
project, also when a `Put` is cut off between two system calls and the project
is opened again. Opening removes nothing, so the temporary file of a payload
stays among the payloads, and its name is the digest of nothing.

* `verifyIntegrity_iff` — in which states `VerifyIntegrity` tells whether the
  artifacts of the index and the payloads are in order, and in which runs it
  succeeds in every state.
-/

namespace SpatialPlatform.Core

open SpatialPlatform.Lib

namespace StoreHandle

variable {h : StoreHandle} {disk : StoreDisk}

/-! ## Opening -/

theorem keeps_openStore : Persist.Keeps h.WholeDisk h.openStore := by
  have hquarantine : h.quarantineRoot = ⟨h.root, [kQuarantineDir]⟩ :=
    Path.div_ordinary _ ordinary_kQuarantineDir
  unfold openStore
  apply Persist.Keeps.bind
  · have hnames : h.casRoot.names <+: [kCasDir, shard (sha256Hex [])] := by
      rw [casRoot_eq]
      exact List.cons_prefix_cons.mpr ⟨rfl, List.nil_prefix⟩
    exact ⟨fun disk hwhole => Whole.createShard hwhole (by rw [casRoot_eq]) hnames⟩
  intro _
  exact (keeps_createDirectories hquarantine (by simp [ordinary_kQuarantineDir]) (by decide)
    []).run

theorem TempLeft.createDirectories {payload : List UInt8} (hleft : h.TempLeft payload disk.tree)
    (path : Path) : h.TempLeft payload (Fs.createDirectories path disk).2.tree := by
  obtain ⟨written, hfile⟩ := hleft.file
  refine ⟨?_, ?_, ?_, written, ?_⟩
  · exact Fs.isDirectory_createDirectories hleft.root
  · exact Fs.isDirectory_createDirectories hleft.cas
  · exact Fs.isDirectory_createDirectories hleft.shard
  · rw [Fs.fileAt_createDirectories]
    exact hfile

/-- Opening a project does not look for temporary files. -/
theorem keeps_tempLeft (payload : List UInt8) :
    Persist.Keeps (fun disk : StoreDisk => h.TempLeft payload disk.tree) h.openStore := by
  unfold openStore
  apply Persist.Keeps.bind
  · exact ⟨fun _ hleft => TempLeft.createDirectories hleft _⟩
  intro _
  exact ⟨fun _ hleft => TempLeft.createDirectories hleft _⟩

/-! ## Runs

A `Put` may be cut off between any two of its steps. In all places but those in
which the temporary file is there, what it leaves is whole; so a run keeps whole
payloads as long as no `Put` is cut off there. -/

/-- An operation on an open project. -/
inductive Operation where
  | put (payload : List UInt8) (manifest : ArtifactManifest) (generated : Uuid)
  | putInstance (existingContentHash : String) (manifest : ArtifactManifest) (generated : Uuid)
  | garbageCollect (dryRun : Bool)
  /-- A `Put` that is cut off in one of its moments; the project is opened again. -/
  | interruptedPut (payload : List UInt8) (manifest : ArtifactManifest) (generated : Uuid)
      (moment : Nat)

section runs

variable (h) (json : JsonLibrary)

/-- The moments of a `Put`, from its start to its end. -/
def putMoments (payload : List UInt8) (manifest : ArtifactManifest) (generated : Uuid)
    (disk : StoreDisk) : List (Moment Path StoreDisk) :=
  ⟨none, disk⟩ :: (h.putSteps json payload manifest generated).moments disk

/-- What an operation leaves on the disk, whether it returns or throws. -/
def operate : Operation → StoreDisk → Option StoreDisk
  | .put payload manifest generated, disk => some (h.put json payload manifest generated disk).2
  | .putInstance hash manifest generated, disk =>
      some (h.putInstance json hash manifest generated disk).2
  | .garbageCollect dryRun, disk => some (h.garbageCollect json dryRun disk).2
  | .interruptedPut payload manifest generated moment, disk =>
      (h.putMoments json payload manifest generated disk)[moment]?.map fun m =>
        (h.openStore m.state).2

/-- The operations on one project. -/
def operations : Actions StoreDisk Operation := ⟨h.operate json⟩

/-- The check succeeds after the operation. -/
def VerifiesAfter (op : Operation) (disk : StoreDisk) : Prop :=
  ∀ disk', h.operate json op disk = some disk' → h.Verifies disk'

/-- The operation is not a `Put` that is cut off while the temporary file of its
payload is there. -/
def NotTorn : Operation → StoreDisk → Prop
  | .interruptedPut payload manifest generated moment, disk =>
      ∀ m, (h.putMoments json payload manifest generated disk)[moment]? = some m →
        m.doing ≠ some (h.payloadPath (sha256Hex payload))
  | _, _ => True

end runs

variable {json : JsonLibrary}

/-- Every moment of a `Put` but those in the write of its payload leaves whole payloads. -/
theorem putMoments_cases (hwhole : h.Whole disk.tree) {payload : List UInt8}
    {manifest : ArtifactManifest} {generated : Uuid} {m : Moment Path StoreDisk}
    (hm : m ∈ h.putMoments json payload manifest generated disk) : h.PutMoment payload m := by
  rcases List.mem_cons.mp hm with rfl | hm
  · exact .inl (.of_none rfl hwhole)
  · exact (keeps_putSteps json payload manifest generated).moments disk hwhole m hm

/-- An operation that is not cut off in the write of a payload leaves whole payloads. -/
theorem whole_operate {op : Operation} {disk' : StoreDisk} (hwhole : h.Whole disk.tree)
    (hok : h.NotTorn json op disk) (hstep : h.operate json op disk = some disk') :
    h.Whole disk'.tree := by
  cases op with
  | put payload manifest generated =>
      cases hstep
      exact (keeps_put json payload manifest generated).state disk hwhole
  | putInstance hash manifest generated =>
      cases hstep
      exact (keeps_putInstance json hash manifest generated).state disk hwhole
  | garbageCollect dryRun =>
      cases hstep
      exact (keeps_garbageCollect json dryRun).state disk hwhole
  | interruptedPut payload manifest generated moment =>
      obtain ⟨m, hm, hopen⟩ := Option.map_eq_some_iff.mp hstep
      subst hopen
      rcases putMoments_cases hwhole (List.mem_of_getElem? hm) with hwhole' | ⟨hdoing, -⟩
      · exact keeps_openStore.state m.state hwhole'.2
      · exact absurd hdoing (hok m hm)

theorem verifiesAfter_iff (hwhole : h.Whole disk.tree) (op : Operation) :
    h.VerifiesAfter json op disk ↔ h.NotTorn json op disk := by
  constructor
  · intro hverifies
    cases op with
    | interruptedPut payload manifest generated moment =>
        intro m hm hdoing
        rcases putMoments_cases hwhole (List.mem_of_getElem? hm) with hwhole' | ⟨-, hleft⟩
        · exact hwhole'.1 hdoing
        · have hstep : h.operate json (.interruptedPut payload manifest generated moment) disk =
              some (h.openStore m.state).2 := by
            rw [operate, hm]
            rfl
          exact ((keeps_tempLeft payload).state m.state hleft).not_verifies
            (hverifies _ hstep)
    | _ => trivial
  · intro hok disk' hstep
    exact (whole_operate hwhole hok hstep).verifies

/-- From whole payloads, the check succeeds in every state of a run exactly when
no `Put` of the run is cut off in the write of its payload. -/
theorem verifies_along_iff (ops : List Operation) (hwhole : h.Whole disk.tree) :
    (h.operations json).Along (h.VerifiesAfter json) ops disk ↔
      (h.operations json).Along (h.NotTorn json) ops disk :=
  Actions.along_iff_of_invariant (fun _ _ _ hwhole hok hstep => whole_operate hwhole hok hstep)
    (fun op _ hwhole => verifiesAfter_iff hwhole op) hwhole

/-! ## New projects

The directories that `Project::Create` makes hold no payloads yet, which is
where every run begins. -/

/-- The store of a project. -/
def ofProject (root : Location) : StoreHandle := { root := root ++ ["artifacts"] }

/-- `Project::Create`, after its checks, for a project at `root`: the
directories, the database, the store and project.json. -/
def createProject (root : Location) (projectJson : String) : StoreCall Unit := do
  Fs.createDirectories ⟨[], root⟩
  Persist.each (fun dir => Fs.createDirectories ((⟨root, []⟩ : Path) / dir)) layout
  Persist.write fun disk => .ok { disk with tables := {} }
  (ofProject root).openStore
  Fs.atomicWrite ((⟨root, []⟩ : Path) / "project.json") (stringBytes projectJson)

/-- Nothing lies below the artifacts directory. -/
def Bare (h : StoreHandle) (disk : StoreDisk) : Prop :=
  ∀ names ≠ [], disk.tree.nodeAt (h.root ++ names) = none

/-- Directories up to the artifacts directory put nothing below it. -/
theorem keeps_bare {path : Path} (hordinary : ∀ name ∈ path.names, Path.Ordinary name)
    (hlen : path.base.length + path.names.length ≤ h.root.length) :
    Persist.Keeps h.Bare (Fs.createDirectories path : StoreCall Unit) := by
  refine ⟨fun disk hbare names hne => ?_⟩
  rcases Fs.nodeAt_createDirectories disk path hordinary (h.root ++ names) with
    hsame | ⟨-, made, -, hpre, heq⟩
  · rw [hsame]
    exact hbare names hne
  · have hpos : 0 < names.length := List.length_pos_of_ne_nil hne
    have hmade := hpre.length_le
    have hlens := congrArg List.length heq
    simp only [List.length_append] at hlens
    omega

/-- The payload root of a store that has just been made. -/
theorem whole_of_bare (hbare : h.Bare disk) (hroot : disk.tree.isDirectory h.root = true)
    {disk' : StoreDisk} (hrun : h.openStore disk = (.ok (), disk')) : h.Whole disk'.tree := by
  obtain ⟨⟨⟩, disk₁, hcas, hquarantine⟩ := Persist.bind_eq_ok hrun
  have hname : ∀ name ∈ h.casRoot.names, Path.Ordinary name := by
    simp [casRoot_eq, ordinary_kCasDir]
  have hdir : disk₁.tree.isDirectory (h.root ++ [kCasDir]) = true := by
    have hdir := Fs.isDirectory_of_createDirectories hname hcas
    rwa [casRoot_eq] at hdir
  have hwhole : h.Whole disk₁.tree := by
    have htree : disk₁.tree = (Fs.createDirectories h.casRoot disk).2.tree := by rw [hcas]
    intro names
    rcases names with _ | ⟨name, rest⟩
    · rw [List.append_nil, htree]
      exact FileTree.isDirectory_iff.mp (Fs.isDirectory_createDirectories hroot)
    -- below the payload root nothing was there, and nothing was made
    · by_cases hcasDir : name = kCasDir
      · subst hcasDir
        rcases rest with _ | ⟨s, rest⟩
        · exact fun _ => FileTree.isDirectory_iff.mp hdir
        · have hnone : disk₁.tree.nodeAt (h.root ++ kCasDir :: s :: rest) = none := by
            rw [htree]
            rcases Fs.nodeAt_createDirectories disk h.casRoot hname
              (h.root ++ kCasDir :: s :: rest) with hsame | ⟨-, made, -, hpre, heq⟩
            · rw [hsame]
              exact hbare _ (List.cons_ne_nil _ _)
            · have hmade := hpre.length_le
              have hlens := congrArg List.length heq
              rw [casRoot_eq] at hmade hlens
              simp only [List.length_append, List.length_cons, List.length_nil] at hmade hlens
              omega
          rw [hnone]
          exact Fits.none (by simp)
      · exact Fits.of_ne hcasDir _ _
  have hquarantineRoot : h.quarantineRoot = ⟨h.root, [kQuarantineDir]⟩ :=
    Path.div_ordinary _ ordinary_kQuarantineDir
  have hkept := (keeps_createDirectories hquarantineRoot (by simp [ordinary_kQuarantineDir])
    (by decide) []).run.state disk₁ hwhole
  rw [Fs.run_createDirectoriesSteps, hquarantine] at hkept
  exact hkept

/-- Files next to the artifacts directory are not below it. -/
theorem keeps_projectFile (root : Location) (bytes : List UInt8) :
    Persist.Keeps (ofProject root).WholeDisk
      (Fs.atomicWrite ⟨root, ["project.json"]⟩ bytes : StoreCall Unit) := by
  have hordinary : ∀ name ∈ ["project.json"], Path.Ordinary name := by
    intro name hname
    rw [List.mem_singleton.mp hname]
    decide
  have hother : ∀ {name : String} {names : List String}, name ≠ "artifacts" →
      root ++ ["artifacts"] ++ names ≠ root ++ [name] := by
    intro name names hne heq
    rw [List.append_assoc] at heq
    cases List.append_cancel_left heq
    exact hne rfl
  unfold Fs.atomicWrite
  apply Persist.Keeps.bind
  · refine ⟨fun disk hwhole => Whole.of_nodes hwhole fun names => .inl ?_⟩
    rcases Fs.nodeAt_createDirectories disk ⟨root, []⟩ (by simp)
      ((ofProject root).root ++ names) with hsame | ⟨-, made, hne, hpre, -⟩
    · exact hsame
    · exact absurd (List.prefix_nil.mp hpre) hne
  intro _
  refine ⟨fun disk hwhole => Whole.of_nodes hwhole fun names => .inl ?_⟩
  rcases Fs.nodeAt_writeAndMove disk ⟨root, ["project.json"]⟩ hordinary
    (List.cons_ne_nil _ _) bytes ((ofProject root).root ++ names) with
    hsame | ⟨heq, -⟩ | ⟨heq, -⟩
  · exact hsame
  · have htemp : Path.filename ⟨root, ["project.json"]⟩ ++ ".tmp" = "project.json.tmp" := rfl
    exact absurd heq (hother (by rw [htemp]; decide))
  · exact absurd heq (hother (by decide))

theorem layout_div (root : Location) (dir : String) (hdir : dir ∈ layout) :
    (⟨root, []⟩ : Path) / dir = ⟨root, [dir]⟩ ∧ Path.Ordinary dir := by
  have hordinary : ∀ dir ∈ layout, Path.Ordinary dir := by decide
  exact ⟨Path.div_ordinary _ (hordinary dir hdir), hordinary dir hdir⟩

/-- The directories of a project. -/
theorem layout_made {root : Location} {disk' : StoreDisk} (hbare : (ofProject root).Bare disk)
    (hrun : Persist.each (fun dir => Fs.createDirectories ((⟨root, []⟩ : Path) / dir)) layout disk =
      (.ok (), disk')) :
    (ofProject root).Bare disk' ∧ disk'.tree.isDirectory (ofProject root).root = true := by
  constructor
  · have hkept : Persist.Keeps (ofProject root).Bare (Persist.each
        (fun dir => Fs.createDirectories ((⟨root, []⟩ : Path) / dir)) layout : StoreCall Unit) := by
      apply Persist.Keeps.each
      intro dir hdir
      obtain ⟨hpath, hordinary⟩ := layout_div root dir hdir
      rw [hpath]
      exact keeps_bare (by simpa using hordinary) (by simp [ofProject])
    have hstate := hkept.state disk hbare
    rwa [hrun] at hstate
  · obtain ⟨⟨⟩, disk₁, hartifacts, hrest⟩ := Persist.bind_eq_ok hrun
    obtain ⟨hpath, hordinary⟩ := layout_div root "artifacts" (by decide)
    have hdir : disk₁.tree.isDirectory (ofProject root).root = true := by
      have hartifacts : Fs.createDirectories ((⟨root, []⟩ : Path) / "artifacts") disk =
          (.ok (), disk₁) := hartifacts
      rw [hpath] at hartifacts
      exact Fs.isDirectory_of_createDirectories (by simpa using hordinary) hartifacts
    have hkept : Persist.Keeps
        (fun disk : StoreDisk => disk.tree.isDirectory (ofProject root).root = true)
        (Persist.each (fun dir => Fs.createDirectories ((⟨root, []⟩ : Path) / dir))
          ["cache", "logs", "temp"]) :=
      .each fun dir _ => ⟨fun _ hdir => Fs.isDirectory_createDirectories hdir⟩
    have hstate := hkept.state disk₁ hdir
    have hrest : Persist.each (fun dir => Fs.createDirectories ((⟨root, []⟩ : Path) / dir))
        ["cache", "logs", "temp"] disk₁ = (.ok (), disk') := hrest
    rwa [hrest] at hstate

theorem whole_createProject {root : Location} {projectJson : String} {disk' : StoreDisk}
    (hroot : ∀ name ∈ root, Path.Ordinary name)
    (hfree : ∀ names, disk.tree.nodeAt (root ++ names) = none)
    (hrun : createProject root projectJson disk = (.ok (), disk')) :
    (ofProject root).Whole disk'.tree := by
  have hbare : (ofProject root).Bare disk := by
    intro names _
    rw [ofProject, List.append_assoc]
    exact hfree _
  have hjson : (⟨root, []⟩ : Path) / "project.json" = ⟨root, ["project.json"]⟩ :=
    Path.div_ordinary _ (by decide)
  obtain ⟨⟨⟩, disk₁, hrun₁, hrun⟩ := Persist.bind_eq_ok hrun
  obtain ⟨⟨⟩, disk₂, hrun₂, hrun⟩ := Persist.bind_eq_ok hrun
  obtain ⟨⟨⟩, disk₃, hrun₃, hrun⟩ := Persist.bind_eq_ok hrun
  obtain ⟨⟨⟩, disk₄, hrun₄, hrun₅⟩ := Persist.bind_eq_ok hrun
  have hbare₁ : (ofProject root).Bare disk₁ := by
    have hkept : Persist.Keeps (ofProject root).Bare
        (Fs.createDirectories ⟨[], root⟩ : StoreCall Unit) :=
      keeps_bare hroot (by simp [ofProject])
    have hstate := hkept.state disk hbare
    rwa [hrun₁] at hstate
  obtain ⟨hbare₂, hdir⟩ := layout_made hbare₁ hrun₂
  have htree : disk₃.tree = disk₂.tree := by cases hrun₃; rfl
  have hwhole : (ofProject root).Whole disk₄.tree := by
    apply whole_of_bare _ _ hrun₄
    · intro names hne
      rw [htree]
      exact hbare₂ names hne
    · rw [htree]
      exact hdir
  have hkept := (keeps_projectFile root (stringBytes projectJson)).state disk₄ hwhole
  rw [hjson] at hrun₅
  rwa [hrun₅] at hkept

/-- A `Put` that is cut off before it has done anything has torn nothing. -/
theorem notTorn_start (json : JsonLibrary) (payload : List UInt8) (manifest : ArtifactManifest)
    (generated : Uuid) (disk : StoreDisk) :
    h.NotTorn json (.interruptedPut payload manifest generated 0) disk := by
  intro m hm
  have hstart : m = ⟨none, disk⟩ := (Option.some.inj hm).symm
  rw [hstart]
  exact (Option.some_ne_none _).symm

/-- In a well-formed state, `VerifyIntegrity` succeeds exactly when every
artifact of the index has its payload in place and every payload has the name of
its digest, unless all payloads do and one of the index is not in place. From a
new project, it succeeds in every state of a run of `Put`, `PutInstance`,
`GarbageCollect` and reopening exactly when no `Put` of the run is cut off while
the temporary file of its payload is there. -/
theorem verifyIntegrity_iff (json : JsonLibrary) :
    (∀ (h : StoreHandle) (disk : StoreDisk), disk.tree.WellFormed →
      ((h.Verifies disk ↔ h.IndexInPlace disk ∧ h.PayloadsMatch disk.tree) ↔
        (h.PayloadsMatch disk.tree → h.IndexInPlace disk))) ∧
    ∀ (root : Location) (projectJson : String) (disk disk' : StoreDisk) (ops : List Operation),
      (∀ name ∈ root, Path.Ordinary name) → (∀ names, disk.tree.nodeAt (root ++ names) = none) →
      createProject root projectJson disk = (.ok (), disk') →
      (ofProject root).Verifies disk' ∧
        (((ofProject root).operations json).Along ((ofProject root).VerifiesAfter json) ops disk' ↔
          ((ofProject root).operations json).Along ((ofProject root).NotTorn json) ops disk') := by
  constructor
  · intro h disk hwf
    rw [verifies_iff_payloadsMatch hwf]
    constructor
    · intro hiff hmatch
      exact (hiff.mp hmatch).1
    · intro hplace
      exact ⟨fun hmatch => ⟨hplace hmatch, hmatch⟩, fun hboth => hboth.2⟩
  · intro root projectJson disk disk' ops hroot hfree hrun
    have hwhole := whole_createProject hroot hfree hrun
    exact ⟨hwhole.verifies, verifies_along_iff ops hwhole⟩

/-! ## A project with a lost payload, and one with a torn one

The check looks at files and never at rows: it passes a row without a file, and
stops at a temporary file. -/

private def noJson : JsonLibrary where
  parse _ := .error (.parseError "")
  dump _ _ := ""

private def emptyDisk : StoreDisk := { tree := ∅, tables := {} }

/-- What `Create` leaves on an empty disk. -/
private def newProject : StoreDisk := (createProject ["p.spx"] "" emptyDisk).2

private theorem newProject_run : createProject ["p.spx"] "" emptyDisk = (.ok (), newProject) := by
  have hok : (createProject ["p.spx"] "" emptyDisk).1 = .ok () := by decide +kernel
  rw [newProject, ← hok]

private theorem newProject_wellFormed : newProject.tree.WellFormed := by
  apply FileTree.WellFormed.of_keys
  decide +kernel

private theorem emptyDisk_free (names : List String) :
    emptyDisk.tree.nodeAt (["p.spx"] ++ names) = none :=
  FileTree.nodeAt_of_ne (by simp)

/-- A new project, after a `Put` that did not come to anything and a collection. -/
theorem new_project_verifies :
    let h := ofProject ["p.spx"]
    (h.Verifies newProject ↔ h.IndexInPlace newProject ∧ h.PayloadsMatch newProject.tree) ∧
      (h.operations noJson).Along (h.VerifiesAfter noJson)
        [.interruptedPut [97] {} ⟨1⟩ 0, .garbageCollect false] newProject := by
  obtain ⟨hstates, hruns⟩ := verifyIntegrity_iff noJson
  constructor
  · refine (hstates (ofProject ["p.spx"]) newProject newProject_wellFormed).mpr fun _ row hrow => ?_
    have hempty : newProject.tables.artifacts.rows = [] := by decide +kernel
    rw [hempty] at hrow
    cases hrow
  · refine (hruns ["p.spx"] "" emptyDisk newProject _ (by decide) emptyDisk_free
      newProject_run).2.mpr ?_
    exact ⟨notTorn_start _ _ _ _ _, fun _ _ => ⟨trivial, fun _ _ => trivial⟩⟩

/-- The row of an artifact with the payload "abc". -/
private def lostRow : ArtifactIndexRow where
  artifactId := ⟨1⟩
  contentHash := "ba7816bf8f01cfea414140de5dae2223b00361a396177a9cb410ff61f20015ad"

private def withLostRow (disk : StoreDisk) : StoreDisk where
  tree := disk.tree
  tables := { artifacts := ArtifactTable.empty.upsert lostRow }

private theorem withLostRow_tree (disk : StoreDisk) : (withLostRow disk).tree = disk.tree := rfl

private theorem mem_withLostRow (disk : StoreDisk) :
    lostRow ∈ (withLostRow disk).tables.artifacts.rows :=
  ArtifactTable.mem_upsert.mpr (.inl rfl)

/-- `VerifyIntegrity` succeeds although the payload of an artifact is gone; and
it fails in a new project in which a `Put` was cut off before the first byte of
its payload. -/
theorem lost_payload_unnoticed :
    (¬ ∀ (h : StoreHandle) (disk : StoreDisk), disk.tree.WellFormed →
      (h.Verifies disk ↔ h.IndexInPlace disk ∧ h.PayloadsMatch disk.tree)) ∧
    ¬ ∀ (json : JsonLibrary) (root : Location) (projectJson : String) (disk disk' : StoreDisk)
      (ops : List Operation),
      (∀ name ∈ root, Path.Ordinary name) → (∀ names, disk.tree.nodeAt (root ++ names) = none) →
      createProject root projectJson disk = (.ok (), disk') →
      ((ofProject root).operations json).Along ((ofProject root).VerifiesAfter json) ops disk' := by
  constructor
  · intro hclaim
    have hwf : (withLostRow newProject).tree.WellFormed := by
      rw [withLostRow_tree]
      exact newProject_wellFormed
    -- the walk finds no file, and so nothing to complain about
    have hverifies : (ofProject ["p.spx"]).Verifies (withLostRow newProject) := by
      unfold Verifies
      decide +kernel
    obtain ⟨hplace, -⟩ := (hclaim (ofProject ["p.spx"]) _ hwf).mp hverifies
    obtain ⟨loc, bytes, hfind, -⟩ := hplace lostRow (mem_withLostRow newProject)
    have hnone : (withLostRow newProject).tree.find
        ((ofProject ["p.spx"]).payloadPath lostRow.contentHash) = none := by
      decide +kernel
    rw [hnone] at hfind
    cases hfind
  · intro hclaim
    have hwhole : (ofProject ["p.spx"]).Whole newProject.tree :=
      whole_createProject (by decide) emptyDisk_free newProject_run
    have hverifies := hclaim noJson ["p.spx"] "" emptyDisk newProject
      [.interruptedPut [97] {} ⟨1⟩ 4] (by decide) emptyDisk_free newProject_run
    have hok := (verifiesAfter_iff hwhole _).mp hverifies.1
    -- the fifth moment is inside the write of the payload
    have htorn : (((ofProject ["p.spx"]).putMoments noJson [97] {} ⟨1⟩ newProject)[4]?).map
        (·.doing) = some (some ((ofProject ["p.spx"]).payloadPath (sha256Hex [97]))) := by
      decide +kernel
    obtain ⟨m, hm, hdoing⟩ := Option.map_eq_some_iff.mp htorn
    exact hok m hm hdoing

end StoreHandle

end SpatialPlatform.Core
