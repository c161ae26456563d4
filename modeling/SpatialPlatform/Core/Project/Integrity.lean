import SpatialPlatform.Core.Artifacts.StoreFiles

/-!
# The integrity of a project

`VerifyIntegrity` of `core/project/project.cpp`, over every state that `Put`,
`PutInstance` and `GarbageCollect` reach from a new project, also when a `Put`
is cut off and the project is opened again. The check walks the payload files
and does not look at the index.
-/

namespace SpatialPlatform.Core

open SpatialPlatform.Lib

/-! ## Names

Digests and identifiers are names of files: they have no separator and are not
one of the two dots. -/

theorem UuidScan.run_eq_ok {scan scan' : UuidScan} {i : Nat} {cs : List Char}
    (h : scan.run i cs = .ok scan') :
    (∀ c ∈ cs, c = '-' ∨ (hexValue c).isSome) ∧
      scan'.digits.length ≤ scan.digits.length + cs.length := by
  induction cs generalizing scan i with
  | nil =>
      cases h
      exact ⟨fun _ hc => absurd hc List.not_mem_nil, Nat.le_refl _⟩
  | cons c cs ih =>
      obtain ⟨next, hnext, hrest⟩ := bind_eq_ok h
      obtain ⟨hchars, hlen⟩ := ih hrest
      have hstep : (c = '-' ∨ (hexValue c).isSome) ∧
          next.digits.length ≤ scan.digits.length + 1 := by
        unfold UuidScan.step at hnext
        split at hnext
        · next hhyphen =>
            split at hnext
            · cases hnext
            · cases hnext
              exact ⟨.inl hhyphen, Nat.le_succ _⟩
        · split at hnext
          · cases hnext
          · next v hv =>
              split at hnext
              · cases hnext
              · cases hnext
                exact ⟨.inr (by rw [hv]; rfl), by simp⟩
      refine ⟨List.forall_mem_cons.mpr ⟨hstep.1, hchars⟩, ?_⟩
      rw [List.length_cons]
      omega

/-- What `ParseUuid` takes is the name of a file, and no short one. -/
theorem ordinary_of_parseUuid {name : String} {u : Uuid} (h : parseUuid name = .ok u) :
    Path.Ordinary name ∧ 32 ≤ name.length := by
  obtain ⟨scan, hscan, hrest⟩ := bind_eq_ok h
  obtain ⟨hchars, hlen⟩ := UuidScan.run_eq_ok hscan
  have hdigits : scan.digits.length = 32 := by
    by_contra hne
    simp [hne] at hrest
    cases hrest
  have hlong : 32 ≤ name.length := by
    rw [← String.length_toList]
    rw [hdigits] at hlen
    simpa using hlen
  have hnot : ∀ c : Char, c ≠ '-' → hexValue c = none → c ∉ name.toList := by
    intro c hhyphen hnone hc
    rcases hchars c hc with heq | hsome
    · exact hhyphen heq
    · rw [hnone] at hsome
      cases hsome
  have hshort : ∀ other : String, other.length < 32 → name ≠ other := by
    intro other hother heq
    rw [heq] at hlong
    omega
  exact ⟨⟨hshort "" (by decide), hshort "." (by decide), hshort ".." (by decide),
    hnot '/' (by decide) (by decide), hnot '\x00' (by decide) (by decide)⟩, hlong⟩

/-- A text of hexadecimal digits is the name of a file. -/
theorem ordinary_of_digits {name : String} (hne : name ≠ "")
    (h : ∀ c ∈ name.toList, ∃ n < 16, c = hexDigit n) : Path.Ordinary name := by
  have hnot : ∀ c : Char, (∀ n < 16, c ≠ hexDigit n) → c ∉ name.toList := by
    intro c hc hmem
    obtain ⟨n, hn, heq⟩ := h c hmem
    exact hc n hn heq
  have hdot := hnot '.' (by decide)
  refine ⟨hne, ?_, ?_, hnot '/' (by decide), hnot '\x00' (by decide)⟩
  · rintro rfl
    exact hdot (by decide)
  · rintro rfl
    exact hdot (by decide)

theorem ordinary_sha256Hex (payload : List UInt8) : Path.Ordinary (sha256Hex payload) := by
  apply ordinary_of_digits
  · intro hempty
    have hlen := length_sha256Hex payload
    rw [hempty] at hlen
    cases hlen
  · exact fun c hc => mem_sha256Hex hc

namespace StoreHandle

theorem ordinary_shard (payload : List UInt8) : Path.Ordinary (shard (sha256Hex payload)) := by
  apply ordinary_of_digits
  · intro hempty
    have hlen : (shard (sha256Hex payload)).toList.length = 2 := by
      rw [shard, String.toList_ofList, List.length_take, length_sha256Hex]
      rfl
    rw [hempty] at hlen
    cases hlen
  · intro c hc
    rw [shard, String.toList_ofList] at hc
    exact mem_sha256Hex (List.mem_of_mem_take hc)

theorem ordinary_kCasDir : Path.Ordinary kCasDir := by decide

theorem ordinary_kQuarantineDir : Path.Ordinary kQuarantineDir := by decide

/-! ## The check

A walk over the payload root. It opens no manifest and asks the index for
nothing. -/

variable (h : StoreHandle)

/-- The check of one payload file. -/
def verifyPayload (shard hash : String) : StoreCall Unit := do
  let bytes ← Fs.readFile (h.casRoot / shard / hash)
  if sha256Hex bytes ≠ hash then
    Persist.fail ⟨.artifactHashMismatch, "integrity check failed for payload: " ++ hash⟩
  else pure ()

/-- `VerifyIntegrity`. -/
def verifyIntegrity : StoreCall Unit := do
  let shards ← Persist.read (Fs.listDirectories h.casRoot)
  Persist.each
    (fun shard => do
      let files ← Persist.read (Fs.listFiles (h.casRoot / shard))
      Persist.each (h.verifyPayload shard) files)
    shards

/-- `VerifyIntegrity` succeeds. -/
def Verifies (disk : StoreDisk) : Prop := (h.verifyIntegrity disk).1 = .ok ()

variable {h} {disk : StoreDisk}

theorem verifyPayload_spec (shard hash : String) {t : FileTree} (ht : disk.tree = t) :
    ((h.verifyPayload shard hash disk).1 = .ok () ↔
        ∃ loc bytes, t.find (h.casRoot / shard / hash) = some (loc, bytes) ∧
          sha256Hex bytes = hash) ∧
      (h.verifyPayload shard hash disk).2.tree = t := by
  subst ht
  have hread := @Fs.readFile_eq_ok _ disk (h.casRoot / shard / hash)
  have htree := Fs.tree_readFile (h.casRoot / shard / hash) disk
  rcases hrun : Fs.readFile (h.casRoot / shard / hash) disk with ⟨e | bytes, disk'⟩
  · have hall : h.verifyPayload shard hash disk = (.error e, disk') := Persist.bind_of_error hrun
    rw [hrun] at hread htree
    rw [hall]
    refine ⟨⟨fun hok => (nomatch hok), ?_⟩, htree⟩
    rintro ⟨loc, bytes, hfind, -⟩
    exact (nomatch hread.mpr ⟨loc, hfind⟩)
  · have hall : h.verifyPayload shard hash disk =
        (if sha256Hex bytes ≠ hash then
          Persist.fail ⟨.artifactHashMismatch, "integrity check failed for payload: " ++ hash⟩
        else pure () : StoreCall Unit) disk' := Persist.bind_of_ok hrun
    rw [hrun] at hread htree
    rw [hall]
    obtain ⟨loc, hfind⟩ := hread.mp rfl
    rw [hfind]
    split
    · next hne =>
        refine ⟨⟨fun hok => (nomatch hok), ?_⟩, htree⟩
        rintro ⟨_, _, ⟨⟩, heq⟩
        exact absurd heq hne
    · next heq => exact ⟨⟨fun _ => ⟨loc, bytes, rfl, not_not.mp heq⟩, fun _ => rfl⟩, htree⟩

/-- What the check looks at. -/
theorem verifies_iff :
    h.Verifies disk ↔ ∀ shard ∈ Fs.listDirectories h.casRoot disk,
      ∀ hash ∈ Fs.listFiles (h.casRoot / shard) disk,
        ∃ loc bytes, disk.tree.find (h.casRoot / shard / hash) = some (loc, bytes) ∧
          sha256Hex bytes = hash := by
  refine (Persist.Checks.each (P := fun d : StoreDisk => d.tree = disk.tree) ?_ disk rfl).1
  intro shard _ disk' hdisk'
  have hfiles : Fs.listFiles (h.casRoot / shard) disk' =
      Fs.listFiles (h.casRoot / shard) disk := by
    simp only [Fs.listFiles, Fs.entries, hdisk']
  rw [Persist.read_bind, hfiles]
  exact Persist.Checks.each (P := fun d : StoreDisk => d.tree = disk.tree)
    (fun hash _ disk'' hdisk'' => verifyPayload_spec shard hash hdisk'') disk' hdisk'

/-! ## Where payloads lie

The iteration over the payload root finds the files in shards, and the check
compares the name of each with its digest. So a check that succeeds says that
all names are digests, and the other way round. -/

theorem casRoot_eq : h.casRoot = ⟨h.root, [kCasDir]⟩ :=
  Path.div_ordinary _ ordinary_kCasDir

theorem casRoot_div {shard : String} (hshard : Path.Ordinary shard) :
    h.casRoot / shard = ⟨h.root, [kCasDir, shard]⟩ := by
  rw [casRoot_eq, Path.div_ordinary _ hshard]
  rfl

theorem casRoot_div_div {shard hash : String} (hshard : Path.Ordinary shard)
    (hhash : Path.Ordinary hash) : h.casRoot / shard / hash = ⟨h.root, [kCasDir, shard, hash]⟩ := by
  rw [casRoot_div hshard, Path.div_ordinary _ hhash]
  rfl

theorem payloadPath_digest (payload : List UInt8) :
    h.payloadPath (sha256Hex payload) =
      ⟨h.root, [kCasDir, shard (sha256Hex payload), sha256Hex payload]⟩ :=
  casRoot_div_div (ordinary_shard payload) (ordinary_sha256Hex payload)

section location

variable {t : FileTree} {s f : String}

theorem locate_casRoot (hroot : t.isDirectory h.root = true) :
    t.locate h.casRoot = some (h.root ++ [kCasDir]) := by
  have hname : ∀ name ∈ [kCasDir], Path.Ordinary name := by
    intro name hname
    rw [List.mem_singleton.mp hname]
    exact ordinary_kCasDir
  rw [casRoot_eq, FileTree.locate, Path.upToNul_ordinary hname]
  apply FileTree.walk_eq_some hname
  intro pre name hpre
  have hlen := hpre.length_le
  obtain rfl : pre = [] := List.eq_nil_of_length_eq_zero (by simpa using hlen)
  rwa [List.append_nil]

theorem locate_shard (hs : Path.Ordinary s) (hroot : t.isDirectory h.root = true)
    (hcas : t.isDirectory (h.root ++ [kCasDir]) = true) :
    t.locate (h.casRoot / s) = some (h.root ++ [kCasDir, s]) := by
  have hname : ∀ name ∈ [kCasDir, s], Path.Ordinary name := by
    simp [ordinary_kCasDir, hs]
  rw [casRoot_div hs, FileTree.locate, Path.upToNul_ordinary hname,
    FileTree.walk_ordinary ordinary_kCasDir hroot, FileTree.walk_ordinary hs hcas]
  simp [FileTree.walk]

theorem find_payload (hs : Path.Ordinary s) (hf : Path.Ordinary f)
    (hroot : t.isDirectory h.root = true) (hcas : t.isDirectory (h.root ++ [kCasDir]) = true)
    (hshard : t.isDirectory (h.root ++ [kCasDir, s]) = true) :
    t.find (h.casRoot / s / f) =
      (t.fileAt (h.root ++ [kCasDir, s, f])).map fun bytes =>
        (h.root ++ [kCasDir, s, f], bytes) := by
  have hname : ∀ name ∈ [kCasDir, s, f], Path.Ordinary name := by
    simp [ordinary_kCasDir, hs, hf]
  have hshard' : t.isDirectory (h.root ++ [kCasDir] ++ [s]) = true := by
    rwa [List.append_assoc, List.singleton_append]
  have hlocate : t.locate (h.casRoot / s / f) = some (h.root ++ [kCasDir, s, f]) := by
    rw [casRoot_div_div hs hf, FileTree.locate, Path.upToNul_ordinary hname,
      FileTree.walk_ordinary ordinary_kCasDir hroot, FileTree.walk_ordinary hs hcas,
      FileTree.walk_ordinary hf hshard']
    simp [FileTree.walk]
  rw [FileTree.find, hlocate]
  rfl

end location

section listing

variable {s f : String}

theorem mem_shards (hroot : disk.tree.isDirectory h.root = true) :
    s ∈ Fs.listDirectories h.casRoot disk ↔
      disk.tree.isDirectory (h.root ++ [kCasDir, s]) = true := by
  rw [Fs.listDirectories, Fs.mem_entries (locate_casRoot hroot), FileTree.isDirectory_iff,
    List.append_assoc, List.singleton_append]
  simp

theorem mem_payloads (hs : Path.Ordinary s) (hroot : disk.tree.isDirectory h.root = true)
    (hcas : disk.tree.isDirectory (h.root ++ [kCasDir]) = true) :
    f ∈ Fs.listFiles (h.casRoot / s) disk ↔
      ∃ bytes, disk.tree.fileAt (h.root ++ [kCasDir, s, f]) = some bytes := by
  rw [Fs.listFiles, Fs.mem_entries (locate_shard hs hroot hcas), List.append_assoc]
  simp only [FileTree.fileAt_eq_some]
  constructor
  · rintro ⟨node, hnode, hfile⟩
    cases node with
    | directory => cases hfile
    | file bytes => exact ⟨bytes, hnode⟩
  · rintro ⟨bytes, hnode⟩
    exact ⟨_, hnode, rfl⟩

/-- A successful check has looked at every file in a shard. -/
theorem digest_of_verifies (hverifies : h.Verifies disk) {bytes : List UInt8}
    (hs : Path.Ordinary s) (hf : Path.Ordinary f) (hroot : disk.tree.isDirectory h.root = true)
    (hcas : disk.tree.isDirectory (h.root ++ [kCasDir]) = true)
    (hshard : disk.tree.isDirectory (h.root ++ [kCasDir, s]) = true)
    (hfile : disk.tree.fileAt (h.root ++ [kCasDir, s, f]) = some bytes) :
    sha256Hex bytes = f := by
  obtain ⟨loc, bytes', hfind, hhash⟩ := verifies_iff.mp hverifies s ((mem_shards hroot).mpr hshard)
    f ((mem_payloads hs hroot hcas).mpr ⟨bytes, hfile⟩)
  rw [find_payload hs hf hroot hcas hshard, hfile] at hfind
  cases hfind
  exact hhash

/-- The check succeeds when each file in a shard has the name of its digest. -/
theorem verifies_of_digests
    (hs : ∀ s, disk.tree.isDirectory (h.root ++ [kCasDir, s]) = true →
      Path.Ordinary s ∧ disk.tree.isDirectory (h.root ++ [kCasDir]) = true)
    (hf : ∀ s f bytes, disk.tree.fileAt (h.root ++ [kCasDir, s, f]) = some bytes →
      Path.Ordinary f ∧ sha256Hex bytes = f) : h.Verifies disk := by
  rw [verifies_iff]
  intro s hmem f hmem'
  cases hroot : disk.tree.isDirectory h.root with
  | false =>
      have hnone : disk.tree.locate h.casRoot = none := by
        rw [casRoot_eq, FileTree.locate]
        simp [Path.upToNul, FileTree.walk, hroot, ordinary_kCasDir.noNul]
      rw [Fs.listDirectories, Fs.entries, hnone] at hmem
      cases hmem
  | true =>
      have hshard := (mem_shards hroot).mp hmem
      obtain ⟨hs, hcas⟩ := hs s hshard
      obtain ⟨bytes, hfile⟩ := (mem_payloads hs hroot hcas).mp hmem'
      obtain ⟨hordinary, hhash⟩ := hf s f bytes hfile
      refine ⟨h.root ++ [kCasDir, s, f], bytes, ?_, hhash⟩
      rw [find_payload hs hordinary hroot hcas hshard, hfile]
      rfl

end listing

/-! ## Every state

The check holds of a tree exactly if each file has the name of its digest; the
index is another matter. -/

variable (h) in
/-- Every payload file has the name of its digest. -/
def PayloadsMatch (t : FileTree) : Prop :=
  ∀ s f bytes, t.fileAt (h.root ++ [kCasDir, s, f]) = some bytes → sha256Hex bytes = f

variable (h) in
/-- Every artifact of the index has its payload in the store. -/
def IndexInPlace (disk : StoreDisk) : Prop :=
  ∀ row ∈ disk.tables.artifacts.rows, ∃ loc bytes,
    disk.tree.find (h.payloadPath row.contentHash) = some (loc, bytes) ∧
      sha256Hex bytes = row.contentHash

/-- The check is about the payload files, and about them only. -/
theorem verifies_iff_payloadsMatch (hwf : disk.tree.WellFormed) :
    h.Verifies disk ↔ h.PayloadsMatch disk.tree := by
  -- where a file is, its directories are
  have hparent : ∀ loc name, (disk.tree.nodeAt (h.root ++ loc ++ [name])).isSome →
      disk.tree.isDirectory (h.root ++ loc) = true := fun loc name => hwf.parent (h.root ++ loc) name
  have hordinary : ∀ loc name, name ∈ loc → (disk.tree.nodeAt (h.root ++ loc)).isSome →
      Path.Ordinary name :=
    fun loc name hname hnode => hwf.ordinary _ hnode name (List.mem_append_right _ hname)
  have hdir : ∀ {loc}, disk.tree.isDirectory loc = true → (disk.tree.nodeAt loc).isSome := by
    intro loc hloc
    rw [FileTree.isDirectory_iff.mp hloc]
    rfl
  have hfile : ∀ {loc bytes}, disk.tree.fileAt loc = some bytes →
      (disk.tree.nodeAt loc).isSome := by
    intro loc bytes hloc
    rw [FileTree.fileAt_eq_some.mp hloc]
    rfl
  have hcas : ∀ s, disk.tree.isDirectory (h.root ++ [kCasDir, s]) = true →
      disk.tree.isDirectory (h.root ++ [kCasDir]) = true := by
    intro s hs
    apply hparent [kCasDir] s
    rw [List.append_assoc]
    exact hdir hs
  constructor
  · intro hverifies s f bytes hbytes
    have hshard : disk.tree.isDirectory (h.root ++ [kCasDir, s]) = true := by
      apply hparent [kCasDir, s] f
      rw [List.append_assoc]
      exact hfile hbytes
    have hroot : disk.tree.isDirectory h.root = true := by
      have := hparent [] kCasDir
      rw [List.append_nil] at this
      exact this (hdir (hcas s hshard))
    exact digest_of_verifies hverifies (hordinary [kCasDir, s, f] s (by simp) (hfile hbytes))
      (hordinary [kCasDir, s, f] f (by simp) (hfile hbytes)) hroot (hcas s hshard) hshard hbytes
  · intro hmatch
    apply verifies_of_digests
    · intro s hs
      exact ⟨hordinary [kCasDir, s] s (by simp) (hdir hs), hcas s hs⟩
    · intro s f bytes hbytes
      exact ⟨hordinary [kCasDir, s, f] f (by simp) (hfile hbytes), hmatch s f bytes hbytes⟩

end StoreHandle

end SpatialPlatform.Core
