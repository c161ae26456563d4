import Mathlib.Data.List.Dedup
import SpatialPlatform.Core.Project.Integrity

/-!
# Whole payloads

What `Put`, `PutInstance` and `GarbageCollect` leave below the payload root:
shards with payload files, each with the name of its digest. They keep that,
also when a `Put` is cut off between two system calls, unless that is while the
temporary file of a payload is there.
-/

namespace SpatialPlatform.Core

open SpatialPlatform.Lib

namespace StoreHandle

/-! ## Whole payloads

The invariant, as a statement about the file tree below the artifacts directory. -/

/-- What may lie below the artifacts directory when no payload is half written. -/
def Fits : List String → Option Node → Prop
  | [], node => node = some .directory
  | [name], node => name = kCasDir → node = some .directory
  | [name, s], node => name = kCasDir → node = none ∨ node = some .directory ∧ Path.Ordinary s
  | [name, s, f], node =>
      name = kCasDir → node = none ∨
        ∃ bytes, s = shard f ∧ f = sha256Hex bytes ∧ node = some (.file bytes)
  | name :: _, node => name = kCasDir → node = none

/-- Below the payload root there are the shards and whole payloads, and nothing else. -/
def Whole (h : StoreHandle) (t : FileTree) : Prop :=
  ∀ names, Fits names (t.nodeAt (h.root ++ names))

/-- Anything may lie outside the payload root. -/
theorem Fits.of_ne {name : String} (hname : name ≠ kCasDir) (names : List String)
    (node : Option Node) : Fits (name :: names) node := by
  rcases names with _ | ⟨s, _ | ⟨f, _ | ⟨_, _⟩⟩⟩
  all_goals exact fun heq => absurd heq hname

/-- Only the payload root and what it lies in have to be there. -/
theorem Fits.none {names : List String} (h : 2 ≤ names.length) : Fits names none := by
  rcases names with _ | ⟨name, _ | ⟨s, _ | ⟨f, _ | ⟨_, _⟩⟩⟩⟩
  · cases h
  · exact absurd h (by simp)
  · exact fun _ => .inl rfl
  · exact fun _ => .inl rfl
  · exact fun _ => rfl

variable {h : StoreHandle} {t t' : FileTree} {disk : StoreDisk}

theorem Whole.of_nodes (hwhole : h.Whole t)
    (hnodes : ∀ names, t'.nodeAt (h.root ++ names) = t.nodeAt (h.root ++ names) ∨
      Fits names (t'.nodeAt (h.root ++ names))) : h.Whole t' := by
  intro names
  rcases hnodes names with hsame | hfits
  · rw [hsame]
    exact hwhole names
  · exact hfits

theorem Whole.isDirectory_root (hwhole : h.Whole t) : t.isDirectory h.root = true := by
  have hroot : t.nodeAt (h.root ++ []) = some .directory := hwhole []
  rw [List.append_nil] at hroot
  exact FileTree.isDirectory_iff.mpr hroot

theorem Whole.isDirectory_cas (hwhole : h.Whole t) :
    t.isDirectory (h.root ++ [kCasDir]) = true :=
  FileTree.isDirectory_iff.mpr (hwhole [kCasDir] rfl)

theorem Whole.payload (hwhole : h.Whole t) {s f : String} {bytes : List UInt8}
    (hfile : t.fileAt (h.root ++ [kCasDir, s, f]) = some bytes) :
    s = shard f ∧ f = sha256Hex bytes := by
  rw [FileTree.fileAt_eq_some] at hfile
  rcases hwhole [kCasDir, s, f] rfl with hnone | ⟨bytes', hs, hf, hnode⟩
  · rw [hfile] at hnone
    cases hnone
  · rw [hfile] at hnode
    cases hnode
    exact ⟨hs, hf⟩

theorem Whole.verifies (hwhole : h.Whole disk.tree) : h.Verifies disk := by
  apply verifies_of_digests
  · intro s hs
    refine ⟨?_, hwhole.isDirectory_cas⟩
    rcases hwhole [kCasDir, s] rfl with hnone | ⟨_, hordinary⟩
    · rw [FileTree.isDirectory_iff.mp hs] at hnone
      cases hnone
    · exact hordinary
  · intro s f bytes hfile
    obtain ⟨-, rfl⟩ := hwhole.payload hfile
    exact ⟨ordinary_sha256Hex bytes, rfl⟩

/-! ## Writes elsewhere

What the engine writes outside the payload root leaves the payloads whole, also
when it is cut off. -/

/-- A disk with whole payloads. -/
abbrev WholeDisk (h : StoreHandle) (disk : StoreDisk) : Prop := h.Whole disk.tree

/-- The program may be cut off, but not in the write of a payload. -/
def WholeMoment (h : StoreHandle) (payload : List UInt8) (m : Moment Path StoreDisk) : Prop :=
  m.doing ≠ some (h.payloadPath (sha256Hex payload)) ∧ h.Whole m.state.tree

theorem WholeMoment.of_none {payload : List UInt8} {m : Moment Path StoreDisk}
    (hdoing : m.doing = none) (hwhole : h.Whole m.state.tree) : h.WholeMoment payload m :=
  ⟨hdoing ▸ (Option.some_ne_none _).symm, hwhole⟩

section elsewhere

variable {path : Path} {name file : String} {names : List String}

/-- Directories outside the payload root. -/
theorem Whole.createDirectories (hwhole : h.Whole disk.tree) (hbase : path.base = h.root)
    (hnames : path.names <+: name :: names) (hordinary : ∀ other ∈ name :: names, Path.Ordinary other)
    (hname : name ≠ kCasDir) : h.Whole (Fs.createDirectories path disk).2.tree := by
  apply hwhole.of_nodes
  intro other
  rcases Fs.nodeAt_createDirectories disk path (fun name hname => hordinary name
    (hnames.subset hname)) (h.root ++ other) with hsame | ⟨-, made, hne, hpre, heq⟩
  · exact .inl hsame
  · rw [hbase] at heq
    obtain rfl : other = made := List.append_cancel_left heq
    obtain ⟨first, rest, rfl⟩ := List.exists_cons_of_ne_nil hne
    obtain ⟨rfl, -⟩ := List.cons_prefix_cons.mp (hpre.trans hnames)
    exact .inr (Fits.of_ne hname _ _)

/-- A file outside the payload root. -/
theorem Whole.writeAndMove (hwhole : h.Whole disk.tree) (hpath : path = ⟨h.root, [name, file]⟩)
    (hordinary : ∀ other ∈ [name, file], Path.Ordinary other) (hname : name ≠ kCasDir)
    (bytes : List UInt8) : h.Whole (Fs.writeAndMove path bytes disk).2.tree := by
  subst hpath
  apply hwhole.of_nodes
  intro other
  rcases Fs.nodeAt_writeAndMove disk ⟨h.root, [name, file]⟩ hordinary (by simp)
    bytes (h.root ++ other) with hsame | ⟨heq, -⟩ | ⟨heq, -⟩
  · exact .inl hsame
  · obtain rfl : other = [name, file ++ ".tmp"] := List.append_cancel_left heq
    exact .inr (Fits.of_ne hname _ _)
  · obtain rfl : other = [name, file] := List.append_cancel_left heq
    exact .inr (Fits.of_ne hname _ _)

theorem keeps_createDirectories (hpath : path = ⟨h.root, name :: names⟩)
    (hordinary : ∀ other ∈ name :: names, Path.Ordinary other) (hname : name ≠ kCasDir)
    (payload : List UInt8) :
    Steps.Keeps h.WholeDisk (h.WholeMoment payload) (Fs.createDirectoriesSteps path) := by
  subst hpath
  constructor
  · exact ⟨fun disk hwhole =>
      hwhole.createDirectories rfl (List.prefix_refl _) hordinary hname⟩
  · intro disk hwhole m hm
    obtain ⟨hdoing, made, hpre, hstate⟩ := Fs.mem_moments_createDirectories hordinary hm
    apply WholeMoment.of_none hdoing
    rw [hstate]
    exact Whole.createDirectories hwhole rfl hpre hordinary hname

/-- A file outside the payload root, with its directories. -/
theorem keeps_atomicWrite (hpath : path = ⟨h.root, [name, file]⟩)
    (hordinary : ∀ other ∈ [name, file], Path.Ordinary other) (hname : name ≠ kCasDir)
    (bytes payload : List UInt8) :
    Steps.Keeps h.WholeDisk (h.WholeMoment payload) (Fs.atomicWriteSteps path bytes) := by
  have hparent : path.parent = ⟨h.root, [name]⟩ := by rw [hpath]; rfl
  refine (keeps_createDirectories hparent (fun other hother =>
    hordinary other (List.mem_cons.mpr ((List.mem_singleton.mp hother) ▸ .inl rfl))) hname
    payload).bind fun _ => ?_
  constructor
  · exact ⟨fun disk hwhole => Whole.writeAndMove hwhole hpath hordinary hname bytes⟩
  · intro disk hwhole m hm
    have hnames : path.names = [name, file] := by rw [hpath]
    rcases Fs.mem_moments_writeAndMove (by rwa [hnames]) (by simp [hnames]) hm with
      ⟨hdoing, -, written, htree⟩ | ⟨hdoing, hstate⟩
    · constructor
      · rw [hdoing, hpath, payloadPath_digest]
        intro heq
        have hlen : 2 = 3 :=
          congrArg (fun path : Path => path.names.length) (Option.some.inj heq)
        exact absurd hlen (by decide)
      · rw [htree]
        apply Whole.of_nodes hwhole
        intro other
        have htemp : Fs.tempLocation path = h.root ++ [name, file ++ ".tmp"] := by
          rw [hpath]
          rfl
        rw [htemp]
        by_cases hother : other = [name, file ++ ".tmp"]
        · rw [hother]
          exact .inr (Fits.of_ne hname _ _)
        · exact .inl (FileTree.nodeAt_insert_ne (fun heq => hother (List.append_cancel_left heq)) _)
    · apply WholeMoment.of_none hdoing
      rw [hstate]
      exact Whole.writeAndMove hwhole hpath hordinary hname bytes

end elsewhere

/-! ## Registration

A manifest lies next to the payload root, in a directory with the name of its
artifact, and the index is in the database. -/

theorem ordinary_formatUuid (u : Uuid) : Path.Ordinary (formatUuid u) :=
  (ordinary_of_parseUuid (parseUuid_formatUuid u)).1

theorem formatUuid_ne_kCasDir (u : Uuid) : formatUuid u ≠ kCasDir := by
  intro heq
  have hlong := (ordinary_of_parseUuid (parseUuid_formatUuid u)).2
  rw [heq] at hlong
  exact absurd hlong (by decide)

theorem ordinary_manifest (u : Uuid) :
    ∀ name ∈ [formatUuid u, "manifest.json"], Path.Ordinary name := by
  have hfile : Path.Ordinary "manifest.json" := by decide
  simp [ordinary_formatUuid, hfile]

theorem manifestDir_eq (u : Uuid) : h.manifestDir u = ⟨h.root, [formatUuid u]⟩ :=
  Path.div_ordinary _ (ordinary_formatUuid u)

theorem manifestPath_eq (u : Uuid) :
    h.manifestPath u = ⟨h.root, [formatUuid u, "manifest.json"]⟩ := by
  rw [manifestPath, manifestDir_eq, Path.div_ordinary _ (ordinary_manifest u _ (by simp))]
  rfl

/-- The database is not among the payloads. -/
theorem keeps_write {f : StoreDisk → Except ProjectError StoreDisk}
    (hf : ∀ disk disk', f disk = .ok disk' → disk'.tree = disk.tree) :
    Persist.Keeps h.WholeDisk (Persist.write f) := by
  apply Persist.Keeps.write
  intro disk disk' hwhole hwrite
  show h.Whole disk'.tree
  rw [hf disk disk' hwrite]
  exact hwhole

theorem keeps_upsertArtifact (row : ArtifactIndexRow) :
    Persist.Keeps h.WholeDisk (h.upsertArtifact row) := by
  apply keeps_write
  intro disk disk' hwrite
  dsimp only at hwrite
  split at hwrite
  · cases hwrite
  · cases hwrite
    rfl

theorem keeps_recordDependency (inputHash outputHash role : String) :
    Persist.Keeps h.WholeDisk (h.recordDependency inputHash outputHash role) := by
  apply keeps_write
  intro disk disk' hwrite
  dsimp only at hwrite
  split at hwrite
  · cases hwrite
  · cases hwrite
    rfl

theorem keeps_registerSteps (json : JsonLibrary) (manifest : ArtifactManifest)
    (payload : List UInt8) :
    Steps.Keeps h.WholeDisk (h.WholeMoment payload) (h.registerSteps json manifest) := by
  have hafter : ∀ disk, h.WholeDisk disk → h.WholeMoment payload ⟨none, disk⟩ :=
    fun _ hwhole => .of_none rfl hwhole
  unfold registerSteps
  apply Steps.Keeps.bind
  · exact keeps_createDirectories (manifestDir_eq manifest.artifactUuid)
      (by simp [ordinary_formatUuid]) (formatUuid_ne_kCasDir manifest.artifactUuid) payload
  intro _
  apply Steps.Keeps.bind
  · exact keeps_atomicWrite (manifestPath_eq manifest.artifactUuid) (ordinary_manifest _)
      (formatUuid_ne_kCasDir manifest.artifactUuid) _ payload
  intro _
  apply Steps.Keeps.bind
  · exact .atomic (keeps_upsertArtifact _) hafter
  intro _
  exact .each fun input _ => .atomic (keeps_recordDependency _ _ _) hafter

theorem keeps_register (json : JsonLibrary) (manifest : ArtifactManifest) :
    Persist.Keeps h.WholeDisk (h.register json manifest) := by
  rw [← registerSteps_run]
  exact (keeps_registerSteps json manifest []).run

/-! ## The write of a payload

The one write that could leave half a payload: it goes to a temporary file,
which is then renamed. Whole payloads are kept before and after, and in between
the temporary file is in a shard. -/

section payload

variable {payload : List UInt8}

/-- The names that lead to a payload. -/
def payloadNames (payload : List UInt8) : List String :=
  [kCasDir, shard (sha256Hex payload), sha256Hex payload]

/-- The names that lead to its temporary file. -/
def tempNames (payload : List UInt8) : List String :=
  [kCasDir, shard (sha256Hex payload), sha256Hex payload ++ ".tmp"]

theorem ordinary_payload (payload : List UInt8) :
    ∀ name ∈ payloadNames payload, Path.Ordinary name := by
  simp [payloadNames, ordinary_kCasDir, ordinary_shard, ordinary_sha256Hex]

/-- The shard of a payload. -/
theorem Whole.createShard (hwhole : h.Whole disk.tree) {path : Path} (hbase : path.base = h.root)
    (hnames : path.names <+: [kCasDir, shard (sha256Hex payload)]) :
    h.Whole (Fs.createDirectories path disk).2.tree := by
  apply hwhole.of_nodes
  intro other
  have hordinary : ∀ name ∈ path.names, Path.Ordinary name := by
    intro name hname
    have hmem := hnames.subset hname
    rcases List.mem_pair.mp hmem with rfl | rfl
    · exact ordinary_kCasDir
    · exact ordinary_shard payload
  rcases Fs.nodeAt_createDirectories disk path hordinary (h.root ++ other) with
    hsame | ⟨hnode, made, hne, hpre, heq⟩
  · exact .inl hsame
  · rw [hbase] at heq
    obtain rfl : other = made := List.append_cancel_left heq
    right
    rw [hnode]
    have hmade := hpre.trans hnames
    rcases other with _ | ⟨first, _ | ⟨second, rest⟩⟩
    · exact absurd rfl hne
    · exact fun _ => rfl
    · obtain ⟨-, hsecond⟩ := List.cons_prefix_cons.mp hmade
      obtain ⟨rfl, hrest⟩ := List.cons_prefix_cons.mp hsecond
      obtain rfl : rest = [] := List.prefix_nil.mp hrest
      exact fun _ => .inr ⟨rfl, ordinary_shard payload⟩

/-- A payload that is written as a whole. -/
theorem Whole.writePayload (hwhole : h.Whole disk.tree) {path : Path}
    (hpath : path = ⟨h.root, payloadNames payload⟩) :
    h.Whole (Fs.writeAndMove path payload disk).2.tree := by
  apply hwhole.of_nodes
  intro other
  subst hpath
  rcases Fs.nodeAt_writeAndMove disk ⟨h.root, payloadNames payload⟩
    (ordinary_payload payload) (List.cons_ne_nil _ _) payload (h.root ++ other) with
    hsame | ⟨heq, hnode⟩ | ⟨heq, hnode⟩
  · exact .inl hsame
  · right
    have htemp : other = tempNames payload := List.append_cancel_left heq
    rw [hnode, htemp]
    exact Fits.none (by simp [tempNames])
  · right
    rw [hnode, List.append_cancel_left heq]
    exact fun _ => .inr ⟨payload, rfl, rfl, rfl⟩

/-- The temporary file of a payload lies in a shard. -/
structure TempLeft (h : StoreHandle) (payload : List UInt8) (t : FileTree) : Prop where
  root : t.isDirectory h.root = true
  cas : t.isDirectory (h.root ++ [kCasDir]) = true
  shard : t.isDirectory (h.root ++ [kCasDir, shard (sha256Hex payload)]) = true
  file : ∃ written, t.fileAt (h.root ++ tempNames payload) = some written

/-- The name of a temporary file is no digest. -/
theorem TempLeft.not_verifies (hleft : h.TempLeft payload disk.tree) : ¬ h.Verifies disk := by
  intro hverifies
  obtain ⟨written, hfile⟩ := hleft.file
  have htemp : Path.Ordinary (sha256Hex payload ++ ".tmp") :=
    (ordinary_sha256Hex payload).append (by decide) (by decide) (by decide)
  have hdigest := digest_of_verifies hverifies (ordinary_shard payload) htemp hleft.root hleft.cas
    hleft.shard hfile
  have hlen := congrArg (fun name : String => name.toList.length) hdigest
  rw [String.toList_append, List.length_append, length_sha256Hex, length_sha256Hex] at hlen
  exact absurd hlen (by decide)

/-- Where a write of a payload may be cut off. -/
def PutMoment (h : StoreHandle) (payload : List UInt8) (m : Moment Path StoreDisk) : Prop :=
  h.WholeMoment payload m ∨
    m.doing = some (h.payloadPath (sha256Hex payload)) ∧ h.TempLeft payload m.state.tree

theorem TempLeft.of_insert (hwhole : h.Whole t)
    (hlocate : t.locate ⟨h.root, tempNames payload⟩ = some (h.root ++ tempNames payload))
    (written : List UInt8) :
    h.TempLeft payload (t.insert (h.root ++ tempNames payload) (.file written)) := by
  have htemp : ∀ name ∈ tempNames payload, Path.Ordinary name := by
    have hfile : Path.Ordinary (sha256Hex payload ++ ".tmp") :=
      (ordinary_sha256Hex payload).append (by decide) (by decide) (by decide)
    simp [tempNames, ordinary_kCasDir, ordinary_shard, hfile]
  have hshard : t.isDirectory (h.root ++ [kCasDir, StoreHandle.shard (sha256Hex payload)]) = true := by
    rw [FileTree.locate, Path.upToNul_ordinary htemp, tempNames,
      FileTree.walk_ordinary ordinary_kCasDir hwhole.isDirectory_root,
      FileTree.walk_ordinary (ordinary_shard payload) hwhole.isDirectory_cas,
      List.append_assoc, FileTree.walk] at hlocate
    by_contra hne
    simp [hne] at hlocate
  have hkept : ∀ names, names.length < 3 → t.isDirectory (h.root ++ names) = true →
      FileTree.isDirectory (t.insert (h.root ++ tempNames payload) (.file written))
        (h.root ++ names) = true := by
    intro names hlen hdir
    rw [FileTree.isDirectory_congr (FileTree.nodeAt_insert_ne ?_ _)]
    · exact hdir
    · intro heq
      rw [List.append_cancel_left heq] at hlen
      exact absurd hlen (by simp [tempNames])
  constructor
  · have := hkept [] (by simp)
    rw [List.append_nil] at this
    exact this hwhole.isDirectory_root
  · exact hkept [kCasDir] (by simp) hwhole.isDirectory_cas
  · exact hkept [kCasDir, _] (by simp) hshard
  · refine ⟨written, FileTree.fileAt_eq_some.mpr (FileTree.nodeAt_insert_self ?_ _)⟩
    simp [tempNames]

end payload

/-! ## The operations

The steps of `Put` and `PutInstance` in a row: each keeps whole payloads, so the
calls do. -/

theorem keeps_shard {path : Path} {payload : List UInt8}
    (hpath : path = ⟨h.root, [kCasDir, shard (sha256Hex payload)]⟩) :
    Steps.Keeps h.WholeDisk (h.PutMoment payload) (Fs.createDirectoriesSteps path) := by
  subst hpath
  refine ⟨⟨fun disk hwhole => Whole.createShard hwhole rfl (List.prefix_refl _)⟩, ?_⟩
  intro disk hwhole m hm
  obtain ⟨hdoing, made, hpre, hstate⟩ := Fs.mem_moments_createDirectories
    (fun name hname => ordinary_payload payload name (List.mem_of_mem_dropLast hname)) hm
  refine .inl (.of_none hdoing ?_)
  rw [hstate]
  exact Whole.createShard hwhole rfl hpre

theorem keeps_payloadFile {path : Path} {payload : List UInt8}
    (hpath : path = h.payloadPath (sha256Hex payload)) :
    Steps.Keeps h.WholeDisk (h.PutMoment payload) (Fs.writeAndMoveSteps path payload) := by
  have hnames : path = ⟨h.root, payloadNames payload⟩ := hpath.trans (payloadPath_digest payload)
  have hordinary : ∀ name ∈ path.names, Path.Ordinary name := by
    rw [hnames]
    exact ordinary_payload payload
  have hne : path.names ≠ [] := by
    rw [hnames]
    exact List.cons_ne_nil _ _
  have hsibling : Fs.tempSibling path = ⟨h.root, tempNames payload⟩ := by
    rw [hnames]
    rfl
  have htemp : Fs.tempLocation path = h.root ++ tempNames payload := by
    rw [Fs.tempLocation, hsibling, hnames]
  refine ⟨⟨fun disk hwhole => Whole.writePayload hwhole hnames⟩, ?_⟩
  intro disk hwhole m hm
  rcases Fs.mem_moments_writeAndMove hordinary hne hm with
    ⟨hdoing, hlocate, written, htree⟩ | ⟨hdoing, hstate⟩
  · refine .inr ⟨hdoing.trans (congrArg some hpath), ?_⟩
    rw [htemp, hsibling] at hlocate
    rw [htree, htemp]
    exact .of_insert hwhole hlocate written
  · refine .inl (.of_none hdoing ?_)
    rw [hstate]
    exact Whole.writePayload hwhole hnames

theorem keeps_writePayloadSteps (payload : List UInt8) :
    Steps.Keeps h.WholeDisk (h.PutMoment payload) (h.writePayloadSteps payload) := by
  have hparent : (h.payloadPath (sha256Hex payload)).parent =
      ⟨h.root, [kCasDir, shard (sha256Hex payload)]⟩ := by
    rw [payloadPath_digest]
    rfl
  unfold writePayloadSteps
  apply Steps.Keeps.bind
  · exact .read _
  intro present
  apply Steps.Keeps.ite
  · exact .pure ()
  unfold Fs.atomicWriteSteps
  apply Steps.Keeps.bind
  · exact keeps_shard hparent
  intro _
  exact keeps_payloadFile rfl

theorem keeps_putSteps (json : JsonLibrary) (payload : List UInt8) (manifest : ArtifactManifest)
    (generated : Uuid) :
    Steps.Keeps h.WholeDisk (h.PutMoment payload) (h.putSteps json payload manifest generated) := by
  unfold putSteps
  apply Steps.Keeps.bind
  · exact .read _
  intro existing
  cases existing with
  | some row => exact .pure _
  | none =>
      apply Steps.Keeps.bind
      · exact keeps_writePayloadSteps payload
      intro _
      apply Steps.Keeps.bind
      · exact (keeps_registerSteps json _ payload).mono fun _ => .inl
      intro _
      exact .pure _

theorem keeps_put (json : JsonLibrary) (payload : List UInt8) (manifest : ArtifactManifest)
    (generated : Uuid) : Persist.Keeps h.WholeDisk (h.put json payload manifest generated) := by
  rw [← putSteps_run]
  exact (keeps_putSteps json payload manifest generated).run

theorem keeps_putInstance (json : JsonLibrary) (hash : String) (manifest : ArtifactManifest)
    (generated : Uuid) :
    Persist.Keeps h.WholeDisk (h.putInstance json hash manifest generated) := by
  unfold putInstance
  apply Persist.Keeps.bind
  · exact .read _
  intro present
  apply Persist.Keeps.ite
  · apply Persist.Keeps.bind
    · exact .read _
    intro manifest
    apply Persist.Keeps.bind
    · exact keeps_register json manifest
    intro _
    exact .pure _
  · exact .fail _

/-! ## Garbage collection

The collection moves files out of the payload root and removes directories of
manifests, in two loops over names. Every turn keeps whole payloads; what it
removes are manifests. -/

/-- A move from the payloads to a place outside the payload root. -/
theorem Whole.rename (hwhole : h.Whole disk.tree) {source target : Path} {s f name file : String}
    (hsource : source = ⟨h.root, [kCasDir, s, f]⟩) (htarget : target = ⟨h.root, [name, file]⟩)
    (hordinary : ∀ other ∈ [kCasDir, s, f, name, file], Path.Ordinary other)
    (hname : name ≠ kCasDir) : h.Whole (Fs.rename source target disk).2.tree := by
  have hfrom : ∀ other ∈ source.names, Path.Ordinary other := by
    rw [hsource]
    exact fun other hother => hordinary other (List.mem_append_left [name, file] hother)
  have hto : ∀ other ∈ target.names, Path.Ordinary other := by
    rw [htarget]
    exact fun other hother => hordinary other (List.mem_append_right [kCasDir, s, f] hother)
  apply hwhole.of_nodes
  intro other
  rcases Fs.nodeAt_rename disk hfrom hto (h.root ++ other) with
    hsame | ⟨heq, hnode⟩ | heq
  · exact .inl hsame
  · rw [hsource] at heq
    obtain rfl : other = [kCasDir, s, f] := List.append_cancel_left heq
    rw [hnode]
    exact .inr (Fits.none (by simp))
  · rw [htarget] at heq
    obtain rfl : other = [name, file] := List.append_cancel_left heq
    exact .inr (Fits.of_ne hname _ _)

theorem Whole.removeAll (hwhole : h.Whole disk.tree) {path : Path} {name : String}
    {names : List String} (hpath : path = ⟨h.root, name :: names⟩)
    (hordinary : ∀ other ∈ name :: names, Path.Ordinary other) (hname : name ≠ kCasDir) :
    h.Whole (Fs.removeAll path disk).2.tree := by
  subst hpath
  apply hwhole.of_nodes
  intro other
  rcases Fs.nodeAt_removeAll disk ⟨h.root, name :: names⟩ hordinary
    (h.root ++ other) with hsame | ⟨hbelow, -⟩
  · exact .inl hsame
  · obtain ⟨rest, rfl⟩ := (List.prefix_append_right_inj h.root).mp hbelow
    exact .inr (Fits.of_ne hname _ _)

/-- What the collection finds are payloads. -/
theorem Whole.onDisk (hwhole : h.Whole disk.tree) {name : String} (hname : name ∈ h.onDisk disk) :
    ∃ payload, name = sha256Hex payload := by
  rw [StoreHandle.onDisk, List.mem_insertionSort, List.mem_dedup, List.mem_flatMap] at hname
  obtain ⟨s, hs, hname⟩ := hname
  rw [mem_shards hwhole.isDirectory_root, FileTree.isDirectory_iff] at hs
  have hordinary : Path.Ordinary s := by
    rcases hwhole [kCasDir, s] rfl with hnone | ⟨-, hordinary⟩
    · rw [hs] at hnone
      cases hnone
    · exact hordinary
  obtain ⟨bytes, hfile⟩ :=
    (mem_payloads hordinary hwhole.isDirectory_root hwhole.isDirectory_cas).mp hname
  exact ⟨bytes, (hwhole.payload hfile).2⟩

theorem quarantineRoot_div {name : String} (hname : Path.Ordinary name) :
    h.quarantineRoot / name = ⟨h.root, [kQuarantineDir, name]⟩ := by
  rw [quarantineRoot, Path.div_ordinary _ ordinary_kQuarantineDir, Path.div_ordinary _ hname]
  rfl

theorem keeps_rename {source target : Path} {s f name file : String}
    (hsource : source = ⟨h.root, [kCasDir, s, f]⟩) (htarget : target = ⟨h.root, [name, file]⟩)
    (hordinary : ∀ other ∈ [kCasDir, s, f, name, file], Path.Ordinary other)
    (hname : name ≠ kCasDir) :
    Persist.Keeps h.WholeDisk (Fs.rename source target : StoreCall Unit) :=
  ⟨fun _ hwhole => Whole.rename hwhole hsource htarget hordinary hname⟩

theorem keeps_removeAll {path : Path} {name : String} {names : List String}
    (hpath : path = ⟨h.root, name :: names⟩)
    (hordinary : ∀ other ∈ name :: names, Path.Ordinary other) (hname : name ≠ kCasDir) :
    Persist.Keeps h.WholeDisk (Fs.removeAll path : StoreCall Unit) :=
  ⟨fun _ hwhole => Whole.removeAll hwhole hpath hordinary hname⟩

theorem keeps_sweep (payload : List UInt8) :
    Persist.Keeps h.WholeDisk (h.sweep (sha256Hex payload)) := by
  have hfile : Path.Ordinary (sha256Hex payload ++ ".gc") :=
    (ordinary_sha256Hex payload).append (by decide) (by decide) (by decide)
  have hne : kQuarantineDir ≠ kCasDir := by decide
  have hmoved : ∀ other ∈ [kCasDir, shard (sha256Hex payload), sha256Hex payload, kQuarantineDir,
      sha256Hex payload ++ ".gc"], Path.Ordinary other := by
    simp [ordinary_kCasDir, ordinary_shard, ordinary_sha256Hex, ordinary_kQuarantineDir, hfile]
  unfold sweep
  apply Persist.Keeps.bind
  · exact .read _
  intro present
  apply Persist.Keeps.ite
  · apply Persist.Keeps.bind
    · exact keeps_rename (payloadPath_digest payload) (quarantineRoot_div hfile) hmoved hne
    intro _
    exact keeps_removeAll (quarantineRoot_div hfile) (by simp [ordinary_kQuarantineDir, hfile]) hne
  · exact .pure ()

theorem keeps_readFile (path : Path) :
    Persist.Keeps h.WholeDisk (Fs.readFile path : StoreCall (List UInt8)) := by
  refine ⟨fun disk hwhole => ?_⟩
  show h.Whole (Fs.readFile path disk).2.tree
  rw [Fs.tree_readFile]
  exact hwhole

theorem keeps_readManifest (json : JsonLibrary) (u : Uuid) :
    Persist.Keeps h.WholeDisk (h.readManifest json u) := by
  unfold readManifest
  apply Persist.Keeps.bind
  · exact Persist.Keeps.mapError (.read _)
  intro present
  apply Persist.Keeps.ite
  · apply Persist.Keeps.bind
    · exact (keeps_readFile _).mapError
    intro bytes
    dsimp only
    split
    · exact .pure _
    · exact .fail _
  · exact .pure _

/-- A directory that the collection removes has the name of an artifact. -/
def ArtifactName (name : String) : Prop := Path.Ordinary name ∧ name ≠ kCasDir

theorem keeps_dangling (json : JsonLibrary) (names : List String) :
    Persist.Keeps h.WholeDisk (h.dangling json names) := by
  induction names with
  | nil => exact .pure _
  | cons name names ih =>
      unfold dangling
      split
      · exact ih
      · split
        · exact ih
        · apply Persist.Keeps.bind
          · exact keeps_readManifest json _
          intro manifest
          apply Persist.Keeps.bind
          · exact .read _
          intro lost
          apply Persist.Keeps.bind
          · exact ih
          intro rest
          exact .pure _

theorem dangling_names {json : JsonLibrary} {names found : List String} {disk disk' : StoreDisk}
    (hrun : h.dangling json names disk = (.ok found, disk')) :
    ∀ name ∈ found, ArtifactName name := by
  induction names generalizing found disk disk' with
  | nil =>
      cases hrun
      exact fun _ hname => absurd hname List.not_mem_nil
  | cons name names ih =>
      unfold dangling at hrun
      split at hrun
      · exact ih hrun
      · next hother =>
          cases hparse : parseUuid name with
          | error e =>
              simp only [hparse] at hrun
              exact ih hrun
          | ok u =>
              simp only [hparse] at hrun
              obtain ⟨_, _, -, hrun⟩ := Persist.bind_eq_ok hrun
              obtain ⟨lost, _, -, hrun⟩ := Persist.bind_eq_ok hrun
              obtain ⟨rest, _, hrest, hrun⟩ := Persist.bind_eq_ok hrun
              cases lost with
              | false =>
                  cases hrun
                  exact ih hrest
              | true =>
                  cases hrun
                  have hname : ArtifactName name :=
                    ⟨(ordinary_of_parseUuid hparse).1, fun hcas => hother (.inl hcas)⟩
                  exact List.forall_mem_cons.mpr ⟨hname, ih hrest⟩

theorem keeps_collect {plan : GcPlan}
    (hpayloads : ∀ hash ∈ plan.unreferencedHashes, ∃ payload, hash = sha256Hex payload)
    (hmanifests : ∀ name ∈ plan.danglingManifests, ArtifactName name) :
    Persist.Keeps h.WholeDisk (h.collect plan) := by
  have hquarantine : h.quarantineRoot = ⟨h.root, [kQuarantineDir]⟩ :=
    Path.div_ordinary _ ordinary_kQuarantineDir
  unfold collect
  apply Persist.Keeps.bind
  · exact (keeps_createDirectories hquarantine (by simp [ordinary_kQuarantineDir]) (by decide)
      []).run
  intro _
  apply Persist.Keeps.bind
  · apply Persist.Keeps.each
    intro hash hhash
    obtain ⟨payload, rfl⟩ := hpayloads hash hhash
    exact keeps_sweep payload
  intro _
  apply Persist.Keeps.each
  intro name hname
  obtain ⟨hordinary, hne⟩ := hmanifests name hname
  exact keeps_removeAll (Path.div_ordinary _ hordinary) (by simp [hordinary]) hne

theorem keeps_garbageCollect (json : JsonLibrary) (dryRun : Bool) :
    Persist.Keeps h.WholeDisk (h.garbageCollect json dryRun) := by
  unfold garbageCollect
  refine Persist.Keeps.bind_of_result (.read _)
    (C := fun hashes => ∀ hash ∈ hashes, ∃ payload, hash = sha256Hex payload) ?_ ?_
  · intro disk hashes disk' hwhole hread
    cases hread
    exact fun hash hhash => Whole.onDisk hwhole (List.mem_of_mem_filter hhash)
  intro hashes hhashes
  apply Persist.Keeps.bind
  · exact .read _
  intro names
  apply Persist.Keeps.bind_of_result (keeps_dangling json names)
  · exact fun disk found disk' _ hrun => dangling_names hrun
  intro found hfound
  dsimp only
  split
  · exact .pure _
  · apply Persist.Keeps.bind
    · exact (keeps_collect hhashes hfound).mapError
    intro _
    exact .pure _

end StoreHandle

end SpatialPlatform.Core
