import SpatialPlatform.Core.Basic
import SpatialPlatform.Lib.FileTree
import SpatialPlatform.Lib.Interrupted

/-!
# Files

`core/utils/fs.{h,cpp}` over a tree of files. A `Disk` also keeps the tables
that last next to the files, and what has been done to them in order, which the
program itself does not see. Permissions, full disks and links are left out, and
only files are moved. A program that is cut off leaves what its system calls
have done up to then.
-/

namespace SpatialPlatform.Core

open SpatialPlatform.Lib

/-- What a call does at a location. -/
inductive Access where
  | read (loc : Location)
  | create (loc : Location)
  | rename (source target : Location)
  | makeDirectory (loc : Location)
  | remove (loc : Location)
  deriving DecidableEq, Repr

/-- The files, with tables next to them. -/
structure Disk (T : Type) where
  tree : FileTree
  tables : T
  accesses : List Access := []

namespace Fs

variable {T : Type}

/-- `TempSibling`. -/
def tempSibling (path : Path) : Path :=
  { path with names := path.names.dropLast ++ [path.filename ++ ".tmp"] }

/-- `Exists`. -/
def «exists» (path : Path) : Persist (Disk T) ProjectError Bool :=
  Persist.read fun disk => disk.tree.exists path

/-- `CreateDirectories`. -/
def createDirectories (path : Path) : Persist (Disk T) ProjectError Unit := fun disk =>
  let (worked, tree, made) := disk.tree.makeDirectories path.base (Path.upToNul path.names)
  let disk := { disk with tree, accesses := disk.accesses ++ made.map .makeDirectory }
  if worked then (.ok (), disk)
  else (.error ⟨.storageIo, "failed to create directories: " ++ path.text⟩, disk)

/-- The temporary file is written, and then moved over the target. -/
def writeAndMove (path : Path) (bytes : List UInt8) : Persist (Disk T) ProjectError Unit :=
  fun disk =>
    let openError : ProjectError :=
      ⟨.storageIo, "atomic write: cannot open temp file: " ++ (tempSibling path).text⟩
    match disk.tree.locate (tempSibling path) with
    | none => (.error openError, disk)
    | some temp =>
        if disk.tree.isDirectory temp then (.error openError, disk)
        else
          let written : FileTree := disk.tree.insert temp (.file bytes)
          let moved := (written.locate path).bind fun target =>
            (written.moveFile temp target).map fun tree => (target, tree)
          match moved with
          | some (target, tree) =>
              (.ok (), { disk with
                tree
                accesses := disk.accesses ++ [.create temp, .create target] })
          | none =>
              (.error ⟨.storageAtomicWrite, "atomic write: rename failed for: " ++ path.text⟩,
                { disk with
                  tree := written.erase temp
                  accesses := disk.accesses ++ [.create temp, .remove temp] })

/-- `AtomicWrite`. -/
def atomicWrite (path : Path) (bytes : List UInt8) : Persist (Disk T) ProjectError Unit := do
  createDirectories path.parent
  writeAndMove path bytes

/-- `ReadFile`, which fails on a directory. -/
def readFile (path : Path) : Persist (Disk T) ProjectError (List UInt8) := fun disk =>
  match disk.tree.find path with
  | some (loc, bytes) => (.ok bytes, { disk with accesses := disk.accesses ++ [.read loc] })
  | none => (.error ⟨.storageIo, "cannot read file: " ++ path.text⟩, disk)

/-- `Rename`, of a file. -/
def rename (source target : Path) : Persist (Disk T) ProjectError Unit := fun disk =>
  let moved :=
    (disk.tree.locate source).bind fun s =>
      (disk.tree.locate target).bind fun t =>
        (disk.tree.moveFile s t).map fun tree => (Access.rename s t, tree)
  match moved with
  | some (access, tree) => (.ok (), { disk with tree, accesses := disk.accesses ++ [access] })
  | none =>
      (.error ⟨.storageIo, "rename failed: " ++ source.text ++ " -> " ++ target.text⟩, disk)

/-- `RemoveAll`. -/
def removeAll (path : Path) : Persist (Disk T) ProjectError Unit := fun disk =>
  match disk.tree.locate path with
  | none => (.ok (), disk)
  | some loc =>
      (.ok (), { disk with
        tree := disk.tree.removeAll loc
        accesses := disk.accesses ++ [.remove loc] })

/-- The sorted names of the entries of a directory that meet a test. -/
def entries (test : Node → Bool) (path : Path) (disk : Disk T) : List String :=
  match disk.tree.locate path with
  | none => []
  | some loc =>
      ((disk.tree.children loc).filter fun name =>
        (disk.tree.nodeAt (loc ++ [name])).any test).insertionSort (· ≤ ·)

/-- `ListFiles`. -/
def listFiles (path : Path) (disk : Disk T) : List String := entries (· ≠ .directory) path disk

/-- `ListDirectories`. -/
def listDirectories (path : Path) (disk : Disk T) : List String := entries (· = .directory) path disk

/-! ## Interruptions -/

/-- A program on a disk that may be cut off while the temporary file of a path is there. -/
abbrev DiskSteps (T α : Type) := Steps Path (Disk T) ProjectError α

/-- `CreateDirectories`, one directory after the other. -/
def createDirectoriesSteps (path : Path) : DiskSteps T Unit where
  run := createDirectories path
  moments disk := (Path.upToNul path.names).inits.map fun names =>
    ⟨none, (createDirectories ⟨path.base, names⟩ disk).2⟩

/-- The temporary file is opened, grows, and is moved or removed. -/
def writeAndMoveSteps (path : Path) (bytes : List UInt8) : DiskSteps T Unit where
  run := writeAndMove path bytes
  moments disk :=
    match disk.tree.locate (tempSibling path) with
    | none => []
    | some temp =>
        if disk.tree.isDirectory temp then []
        else
          bytes.inits.map (fun written =>
            ⟨some path, { disk with
              tree := disk.tree.insert temp (.file written)
              accesses := disk.accesses ++ [.create temp] }⟩) ++
            [⟨none, (writeAndMove path bytes disk).2⟩]

def atomicWriteSteps (path : Path) (bytes : List UInt8) : DiskSteps T Unit := do
  createDirectoriesSteps path.parent
  writeAndMoveSteps path bytes

@[simp] theorem run_createDirectoriesSteps (path : Path) :
    (createDirectoriesSteps path : DiskSteps T Unit).run = createDirectories path := rfl

@[simp] theorem run_atomicWriteSteps (path : Path) (bytes : List UInt8) :
    (atomicWriteSteps path bytes : DiskSteps T Unit).run = atomicWrite path bytes := rfl

/-! ## What the calls do

Each call is described by what it leaves at every path, and by what it leaves
when it is cut off. The rest of the development uses these lemmas and never
unfolds a call. -/

section calls

variable {disk : Disk T} {path : Path}

theorem locate_ordinary (h : ∀ name ∈ path.names, Path.Ordinary name) {t : FileTree}
    {loc : Location} (hlocate : t.locate path = some loc) : loc = path.base ++ path.names := by
  rw [FileTree.locate, Path.upToNul_ordinary h] at hlocate
  exact FileTree.walk_ordinary_eq h hlocate

theorem mem_entries {test : Node → Bool} {loc : Location} (hlocate : disk.tree.locate path = some loc)
    {name : String} :
    name ∈ entries test path disk ↔
      ∃ node, disk.tree.nodeAt (loc ++ [name]) = some node ∧ test node = true := by
  rw [entries, hlocate]
  simp only [List.mem_insertionSort, List.mem_filter, FileTree.mem_children, Option.any_eq_true]
  constructor
  · rintro ⟨-, hnode⟩
    exact hnode
  · rintro ⟨node, hnode, htest⟩
    exact ⟨by rw [hnode]; rfl, node, hnode, htest⟩

theorem tree_createDirectories (path : Path) (disk : Disk T) :
    (createDirectories path disk).2.tree =
      (disk.tree.makeDirectories path.base (Path.upToNul path.names)).2.1 := by
  rw [createDirectories]
  dsimp only
  split <;> rfl

/-- Directories stay where they are. -/
theorem isDirectory_createDirectories {loc : Location} (h : disk.tree.isDirectory loc = true) :
    (createDirectories path disk).2.tree.isDirectory loc = true := by
  rw [tree_createDirectories]
  exact FileTree.isDirectory_makeDirectories h _ _

/-- Files stay as they are. -/
theorem fileAt_createDirectories (loc : Location) :
    (createDirectories path disk).2.tree.fileAt loc = disk.tree.fileAt loc := by
  rw [tree_createDirectories]
  exact FileTree.fileAt_makeDirectories _ _ _

/-- When it returns, the directory is there. -/
theorem isDirectory_of_createDirectories (h : ∀ name ∈ path.names, Path.Ordinary name)
    {disk' : Disk T} (hrun : createDirectories path disk = (.ok (), disk')) :
    disk'.tree.isDirectory (path.base ++ path.names) = true := by
  have htree := tree_createDirectories path disk
  rw [hrun, Path.upToNul_ordinary h] at htree
  rw [createDirectories, Path.upToNul_ordinary h] at hrun
  dsimp only at hrun htree
  split at hrun
  · next hok =>
      rw [htree]
      exact FileTree.isDirectory_of_made h hok
  · cases hrun

variable (disk path) in
/-- Only directories on the way are new. -/
theorem nodeAt_createDirectories (h : ∀ name ∈ path.names, Path.Ordinary name) (other : Location) :
    (createDirectories path disk).2.tree.nodeAt other = disk.tree.nodeAt other ∨
      (createDirectories path disk).2.tree.nodeAt other = some .directory ∧
        ∃ names, names ≠ [] ∧ names <+: path.names ∧ other = path.base ++ names := by
  rw [tree_createDirectories, Path.upToNul_ordinary h]
  rcases FileTree.nodeAt_makeDirectories path.base other path.names with hsame | ⟨-, hmade, hnode⟩
  · exact .inl hsame
  · exact .inr ⟨hnode, FileTree.prefix_of_made h hmade⟩

/-- Where the temporary file of a path lies. -/
def tempLocation (path : Path) : Location := path.base ++ (tempSibling path).names

theorem ordinary_tempSibling (h : ∀ name ∈ path.names, Path.Ordinary name) (hne : path.names ≠ []) :
    ∀ name ∈ (tempSibling path).names, Path.Ordinary name := by
  intro name hname
  rcases List.mem_append.mp hname with hname | hname
  · exact h name (List.mem_of_mem_dropLast hname)
  · rw [List.mem_singleton.mp hname]
    have hlast : path.filename ∈ path.names := by
      rw [Path.filename, List.getLast?_eq_some_getLast hne]
      exact List.getLast_mem hne
    exact (h _ hlast).append (by decide) (by decide) (by decide)

variable (disk path) in
/-- Only the target has changed, and the temporary file is gone if it was opened. -/
theorem nodeAt_writeAndMove (h : ∀ name ∈ path.names, Path.Ordinary name) (hne : path.names ≠ [])
    (bytes : List UInt8) (other : Location) :
    (writeAndMove path bytes disk).2.tree.nodeAt other = disk.tree.nodeAt other ∨
      other = tempLocation path ∧ (writeAndMove path bytes disk).2.tree.nodeAt other = none ∨
      other = path.base ++ path.names ∧
        (writeAndMove path bytes disk).2.tree.nodeAt other = some (.file bytes) := by
  unfold writeAndMove
  dsimp only
  split
  · exact .inl rfl
  · next temp htemp =>
      have htemp : temp = tempLocation path := locate_ordinary (ordinary_tempSibling h hne) htemp
      subst htemp
      have hroot : tempLocation path ≠ [] := by simp [tempLocation, tempSibling]
      split
      · exact .inl rfl
      · split
        -- the move succeeds: the file is at its target, and the temporary one is gone
        · next target tree hmoved =>
            obtain ⟨target', htarget, hmoved⟩ := Option.bind_eq_some_iff.mp hmoved
            obtain ⟨tree', htree, heq⟩ := Option.map_eq_some_iff.mp hmoved
            cases heq
            have htarget := locate_ordinary h htarget
            show tree.nodeAt other = _ ∨ _ ∧ tree.nodeAt other = _ ∨ _ ∧ tree.nodeAt other = _
            rw [FileTree.nodeAt_moveFile htree]
            by_cases hother : other = target
            · rw [if_pos hother, FileTree.nodeAt_insert_self hroot]
              exact .inr (.inr ⟨hother.trans htarget, rfl⟩)
            · rw [if_neg hother]
              by_cases hother' : other = tempLocation path
              · rw [if_pos hother']
                exact .inr (.inl ⟨hother', rfl⟩)
              · rw [if_neg hother', FileTree.nodeAt_insert_ne hother']
                exact .inl rfl
        -- the move fails: the temporary file is removed again
        · show FileTree.nodeAt ((disk.tree.insert _ _).erase _) other = _ ∨ _
          by_cases hother : other = tempLocation path
          · refine .inr (.inl ⟨hother, ?_⟩)
            show FileTree.nodeAt ((disk.tree.insert _ _).erase _) other = none
            rw [hother, FileTree.nodeAt_erase_self hroot]
          · rw [FileTree.nodeAt_erase_ne hother, FileTree.nodeAt_insert_ne hother]
            exact .inl rfl

variable (disk) in
theorem nodeAt_rename {source target : Path} (hsource : ∀ name ∈ source.names, Path.Ordinary name)
    (htarget : ∀ name ∈ target.names, Path.Ordinary name) (other : Location) :
    (rename source target disk).2.tree.nodeAt other = disk.tree.nodeAt other ∨
      other = source.base ++ source.names ∧
        (rename source target disk).2.tree.nodeAt other = none ∨
      other = target.base ++ target.names := by
  unfold rename
  dsimp only
  split
  · next access tree hmoved =>
      obtain ⟨s, hs, hmoved⟩ := Option.bind_eq_some_iff.mp hmoved
      obtain ⟨t, ht, hmoved⟩ := Option.bind_eq_some_iff.mp hmoved
      obtain ⟨tree', htree, heq⟩ := Option.map_eq_some_iff.mp hmoved
      cases heq
      show tree.nodeAt other = _ ∨ _ ∧ tree.nodeAt other = _ ∨ _
      rw [FileTree.nodeAt_moveFile htree]
      by_cases hother : other = t
      · exact .inr (.inr (hother.trans (locate_ordinary htarget ht)))
      · rw [if_neg hother]
        by_cases hother' : other = s
        · rw [if_pos hother']
          exact .inr (.inl ⟨hother'.trans (locate_ordinary hsource hs), rfl⟩)
        · rw [if_neg hother']
          exact .inl rfl
  · exact .inl rfl

variable (disk path) in
theorem nodeAt_removeAll (h : ∀ name ∈ path.names, Path.Ordinary name) (other : Location) :
    (removeAll path disk).2.tree.nodeAt other = disk.tree.nodeAt other ∨
      path.base ++ path.names <+: other ∧ (removeAll path disk).2.tree.nodeAt other = none := by
  unfold removeAll
  split
  · exact .inl rfl
  · next loc hlocate =>
      show (disk.tree.removeAll loc).nodeAt other = _ ∨ _ ∧ (disk.tree.removeAll loc).nodeAt other = _
      by_cases hroot : other = []
      · rw [hroot]
        exact .inl rfl
      · rw [FileTree.nodeAt_removeAll hroot]
        split
        · next hbelow => exact .inr ⟨locate_ordinary h hlocate ▸ hbelow, rfl⟩
        · exact .inl rfl

@[simp] theorem tree_readFile (path : Path) (disk : Disk T) :
    (readFile path disk).2.tree = disk.tree := by
  unfold readFile
  split <;> rfl

/-- `ReadFile` returns what the path names. -/
theorem readFile_eq_ok {bytes : List UInt8} :
    (readFile path disk).1 = .ok bytes ↔ ∃ loc, disk.tree.find path = some (loc, bytes) := by
  unfold readFile
  split
  · next loc found hfind => simp [hfind]
  · next hfind => simp [hfind]

/-! ### Moments -/

theorem mem_moments_createDirectories {m : Moment Path (Disk T)}
    (h : ∀ name ∈ path.names, Path.Ordinary name)
    (hm : m ∈ (createDirectoriesSteps path).moments disk) :
    m.doing = none ∧
      ∃ names, names <+: path.names ∧ m.state = (createDirectories ⟨path.base, names⟩ disk).2 := by
  obtain ⟨names, hnames, rfl⟩ := List.mem_map.mp hm
  rw [Path.upToNul_ordinary h, List.mem_inits] at hnames
  exact ⟨rfl, names, hnames, rfl⟩

theorem mem_moments_writeAndMove {m : Moment Path (Disk T)} {bytes : List UInt8}
    (h : ∀ name ∈ path.names, Path.Ordinary name) (hne : path.names ≠ [])
    (hm : m ∈ (writeAndMoveSteps path bytes).moments disk) :
    (m.doing = some path ∧ disk.tree.locate (tempSibling path) = some (tempLocation path) ∧
        ∃ written, m.state.tree = disk.tree.insert (tempLocation path) (.file written)) ∨
      m.doing = none ∧ m.state = (writeAndMove path bytes disk).2 := by
  unfold writeAndMoveSteps at hm
  dsimp only at hm
  split at hm
  · cases hm
  · next temp hlocate =>
      have htemp : temp = tempLocation path := locate_ordinary (ordinary_tempSibling h hne) hlocate
      subst htemp
      split at hm
      · cases hm
      · rcases List.mem_append.mp hm with hm | hm
        · obtain ⟨written, -, rfl⟩ := List.mem_map.mp hm
          exact .inl ⟨rfl, hlocate, written, rfl⟩
        · rw [List.mem_singleton.mp hm]
          exact .inr ⟨rfl, rfl⟩

end calls

end Fs

end SpatialPlatform.Core
