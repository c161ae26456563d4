import Mathlib.Data.List.AList
import Mathlib.Data.List.Infix
import Mathlib.Data.List.Sort
import Mathlib.Data.String.Basic

/-!
# File trees

Directories and files without links, by location, and the way from a path to a
location. The names of a path are followed one after the other through
directories that exist; "." stays where it is, and ".." goes up. A text stands
for its bytes, one character for each.
-/

namespace SpatialPlatform.Lib

/-- The names from the root down to a file or a directory. -/
abbrev Location := List String

/-- What a location holds. -/
inductive Node where
  | directory
  | file (bytes : List UInt8)
  deriving DecidableEq, Repr

/-- What each location holds. The root is a directory, and not listed. -/
abbrev FileTree := AList fun _ : Location => Node

/-! ## Paths

Paths as the standard library has them, for names that are neither empty nor one
of the two dots. -/

/-- A path: the location where it starts, and the names between its separators. -/
structure Path where
  base : Location
  names : List String
  deriving DecidableEq, Repr

namespace Path

/-- The names between the separators of a text. -/
def pieces (text : String) : List String := (text.toList.splitOn '/').map String.ofList

/-- A path followed by a text; a text that begins with a separator replaces the path. -/
instance : HDiv Path String Path where
  hDiv path text :=
    if text.toList.head? = some '/' then ⟨[], pieces text⟩
    else ⟨path.base, path.names ++ pieces text⟩

/-- A path without its last name. -/
def parent (path : Path) : Path := { path with names := path.names.dropLast }

/-- The last name of a path. -/
def filename (path : Path) : String := path.names.getLast?.getD ""

/-- The text of a path. -/
def text (path : Path) : String := "/" ++ "/".intercalate (path.base ++ path.names)

/-- The names that the system reads: a path ends at the first NUL. -/
def upToNul : List String → List String
  | [] => []
  | name :: names =>
      if '\x00' ∈ name.toList then [String.ofList (name.toList.takeWhile (· ≠ '\x00'))]
      else name :: upToNul names

/-- A name that stands for a child of a directory. -/
structure Ordinary (name : String) : Prop where
  ne_empty : name ≠ ""
  ne_dot : name ≠ "."
  ne_up : name ≠ ".."
  noSeparator : '/' ∉ name.toList
  noNul : '\x00' ∉ name.toList

theorem ordinary_iff {name : String} :
    Ordinary name ↔ name ≠ "" ∧ name ≠ "." ∧ name ≠ ".." ∧ '/' ∉ name.toList ∧
      '\x00' ∉ name.toList :=
  ⟨fun h => ⟨h.ne_empty, h.ne_dot, h.ne_up, h.noSeparator, h.noNul⟩,
    fun ⟨h₁, h₂, h₃, h₄, h₅⟩ => ⟨h₁, h₂, h₃, h₄, h₅⟩⟩

instance : DecidablePred Ordinary := fun _ => decidable_of_iff _ ordinary_iff.symm

theorem pieces_of_ordinary {name : String} (h : Ordinary name) : pieces name = [name] := by
  have hsplit : name.toList.splitOn '/' = [name.toList] :=
    List.splitOn_eq_singleton h.noSeparator
  rw [pieces, hsplit, List.map_singleton, String.ofList_toList]

/-- An ordinary name is one more name. -/
theorem div_ordinary (path : Path) {name : String} (h : Ordinary name) :
    path / name = ⟨path.base, path.names ++ [name]⟩ := by
  show (if name.toList.head? = some '/' then _ else _) = _
  rw [if_neg fun hhead => h.noSeparator (List.mem_of_head? hhead), pieces_of_ordinary h]

/-- The name of a temporary sibling is as ordinary as the name itself. -/
theorem Ordinary.append {name suffix : String} (h : Ordinary name) (hdots : 2 ≤ suffix.length)
    (hseparator : '/' ∉ suffix.toList) (hnul : '\x00' ∉ suffix.toList) :
    Ordinary (name ++ suffix) := by
  have hlen : 2 < (name ++ suffix).length := by
    have hpos : name.length ≠ 0 := by
      intro hzero
      exact h.ne_empty (by simpa using hzero)
    rw [String.length_append]
    omega
  refine ⟨?_, ?_, ?_, ?_, ?_⟩
  · intro heq
    rw [heq] at hlen
    exact absurd hlen (by decide)
  · intro heq
    rw [heq] at hlen
    exact absurd hlen (by decide)
  · intro heq
    rw [heq] at hlen
    exact absurd hlen (by decide)
  · rw [String.toList_append, List.mem_append]
    exact not_or.mpr ⟨h.noSeparator, hseparator⟩
  · rw [String.toList_append, List.mem_append]
    exact not_or.mpr ⟨h.noNul, hnul⟩

theorem upToNul_ordinary {names : List String} (h : ∀ name ∈ names, Ordinary name) :
    upToNul names = names := by
  induction names with
  | nil => rfl
  | cons name names ih =>
      rw [upToNul, if_neg (h name List.mem_cons_self).noNul,
        ih fun other hother => h other (List.mem_cons_of_mem _ hother)]

end Path

namespace FileTree

variable (t : FileTree)

/-! ## Reading -/

def nodeAt (loc : Location) : Option Node :=
  if loc = [] then some .directory else t.lookup loc

def isDirectory (loc : Location) : Bool := t.nodeAt loc = some .directory

/-- The bytes of a file. -/
def fileAt (loc : Location) : Option (List UInt8) :=
  match t.nodeAt loc with
  | some (.file bytes) => some bytes
  | _ => none

/-- Follow names from a location. All but the last lead to directories that exist. -/
def walk (loc : Location) : List String → Option Location
  | [] => some loc
  | name :: names =>
      if !t.isDirectory loc then none
      else if name = "" ∨ name = "." then walk loc names
      else if name = ".." then walk loc.dropLast names
      else walk (loc ++ [name]) names

/-- The location of a path. -/
def locate (path : Path) : Option Location := t.walk path.base (Path.upToNul path.names)

/-- The location and the bytes of the file that a path names. -/
def find (path : Path) : Option (Location × List UInt8) :=
  (t.locate path).bind fun loc => (t.fileAt loc).map fun bytes => (loc, bytes)

/-- A path names something. -/
def «exists» (path : Path) : Bool := (t.locate path).any fun loc => (t.nodeAt loc).isSome

/-- The names in a directory. -/
def children (loc : Location) : List String :=
  t.keys.filterMap fun key => if key ≠ [] ∧ key.dropLast = loc then key.getLast? else none

/-! ## Writing -/

/-- Make the directories on the way along names; whether that worked, and the new ones. -/
def makeDirectories (t : FileTree) (loc : Location) : List String → Bool × FileTree × List Location
  | [] => (t.isDirectory loc, t, [])
  | name :: names =>
      if !t.isDirectory loc then (false, t, [])
      else if name = "" ∨ name = "." then makeDirectories t loc names
      else if name = ".." then makeDirectories t loc.dropLast names
      else
        match t.nodeAt (loc ++ [name]) with
        | some _ => makeDirectories t (loc ++ [name]) names
        | none =>
            let (worked, t, made) :=
              makeDirectories (t.insert (loc ++ [name]) .directory) (loc ++ [name]) names
            (worked, t, (loc ++ [name]) :: made)

/-- Move a file over what is at the target, which may not be a directory. -/
def moveFile (source target : Location) : Option FileTree :=
  (t.fileAt source).bind fun bytes =>
    if t.isDirectory target then none
    else some ((t.erase source).insert target (.file bytes))

/-- Remove what is at a location and below. -/
def removeAll (loc : Location) : FileTree :=
  (t.keys.filter fun key => decide (loc <+: key)).foldl (fun t key => t.erase key) t

/-! ## What the operations do

One lemma for each operation and each path. Walks along ordinary names are
inductions over the names; the operations that make or remove several nodes are
inductions over these. -/

section Lookup

variable {t}

@[simp] theorem nodeAt_nil : t.nodeAt [] = some .directory := rfl

@[simp] theorem fileAt_nil : t.fileAt [] = none := rfl

theorem nodeAt_of_ne {loc : Location} (h : loc ≠ []) : t.nodeAt loc = t.lookup loc := if_neg h

theorem fileAt_eq_some {loc : Location} {bytes : List UInt8} :
    t.fileAt loc = some bytes ↔ t.nodeAt loc = some (.file bytes) := by
  unfold fileAt
  rcases t.nodeAt loc with _ | (_ | found) <;> simp

theorem isDirectory_iff {loc : Location} :
    t.isDirectory loc = true ↔ t.nodeAt loc = some .directory := by
  simp [isDirectory]

theorem nodeAt_insert_self {loc : Location} (h : loc ≠ []) (node : Node) :
    nodeAt (t.insert loc node) loc = some node := by
  rw [nodeAt_of_ne h, AList.lookup_insert]

theorem nodeAt_insert_ne {loc other : Location} (h : other ≠ loc) (node : Node) :
    nodeAt (t.insert loc node) other = t.nodeAt other := by
  unfold nodeAt
  rw [AList.lookup_insert_ne h]

theorem nodeAt_erase_self {loc : Location} (h : loc ≠ []) : nodeAt (t.erase loc) loc = none := by
  rw [nodeAt_of_ne h, AList.lookup_erase]

theorem nodeAt_erase_ne {loc other : Location} (h : other ≠ loc) :
    nodeAt (t.erase loc) other = t.nodeAt other := by
  unfold nodeAt
  rw [AList.lookup_erase_ne h]

theorem fileAt_congr {t' : FileTree} {loc : Location} (h : t.nodeAt loc = t'.nodeAt loc) :
    t.fileAt loc = t'.fileAt loc := by
  rw [fileAt, fileAt, h]

theorem isDirectory_congr {t' : FileTree} {loc : Location} (h : t.nodeAt loc = t'.nodeAt loc) :
    t.isDirectory loc = t'.isDirectory loc := by
  rw [isDirectory, isDirectory, h]

theorem mem_children {loc : Location} {name : String} :
    name ∈ t.children loc ↔ (t.nodeAt (loc ++ [name])).isSome := by
  have hne : loc ++ [name] ≠ [] := by simp
  rw [nodeAt_of_ne hne, AList.lookup_isSome, AList.mem_keys, children, List.mem_filterMap]
  constructor
  · intro ⟨key, hkey, h⟩
    split at h
    · next hparent =>
      have hlast := List.dropLast_append_getLast? name h
      rw [hparent.2] at hlast
      rwa [hlast]
    · cases h
  · intro hkey
    exact ⟨loc ++ [name], hkey, by simp⟩

end Lookup

/-! ### Walks -/

section Walk

variable {t}

theorem walk_ordinary {loc : Location} {name : String} (h : Path.Ordinary name)
    (hdir : t.isDirectory loc = true) (names : List String) :
    t.walk loc (name :: names) = t.walk (loc ++ [name]) names := by
  rw [walk, hdir]
  simp [h.ne_empty, h.ne_dot, h.ne_up]

/-- A walk along ordinary names ends below its start. -/
theorem walk_ordinary_eq {loc end_ : Location} {names : List String}
    (h : ∀ name ∈ names, Path.Ordinary name) (hwalk : t.walk loc names = some end_) :
    end_ = loc ++ names := by
  induction names generalizing loc with
  | nil =>
      cases hwalk
      rw [List.append_nil]
  | cons name names ih =>
      have hname := h name List.mem_cons_self
      cases hdir : t.isDirectory loc with
      | false =>
          rw [walk, hdir] at hwalk
          cases hwalk
      | true =>
          rw [walk_ordinary hname hdir] at hwalk
          rw [ih (fun other hother => h other (List.mem_cons_of_mem _ hother)) hwalk,
            List.append_assoc, List.singleton_append]

/-- Along ordinary names, each of which but the last is that of a directory, the
walk comes to its end. -/
theorem walk_eq_some {loc : Location} {names : List String}
    (h : ∀ name ∈ names, Path.Ordinary name)
    (hdirs : ∀ pre name, pre ++ [name] <+: names → t.isDirectory (loc ++ pre) = true) :
    t.walk loc names = some (loc ++ names) := by
  induction names generalizing loc with
  | nil => rw [List.append_nil]; rfl
  | cons name names ih =>
      have hloc : t.isDirectory loc = true := by
        simpa using hdirs [] name (by simp)
      rw [walk_ordinary (h name List.mem_cons_self) hloc, ih, List.append_assoc,
        List.singleton_append]
      · exact fun other hother => h other (List.mem_cons_of_mem _ hother)
      · intro pre other hpre
        rw [List.append_assoc, List.singleton_append]
        exact hdirs (name :: pre) other (List.cons_prefix_cons.mpr ⟨rfl, hpre⟩)

end Walk

/-! ### Directories -/

section Directories

variable {t}

/-- Nothing but missing directories changes. -/
theorem nodeAt_makeDirectories (loc other : Location) (names : List String) :
    (t.makeDirectories loc names).2.1.nodeAt other = t.nodeAt other ∨
      (t.nodeAt other = none ∧ other ∈ (t.makeDirectories loc names).2.2 ∧
        (t.makeDirectories loc names).2.1.nodeAt other = some .directory) := by
  induction names generalizing t loc with
  | nil => exact .inl rfl
  | cons name names ih =>
      rw [makeDirectories]
      split
      · exact .inl rfl
      split
      · exact ih loc
      split
      · exact ih loc.dropLast
      split
      · exact ih (loc ++ [name])
      · next hfree =>
        have hne : loc ++ [name] ≠ [] := by simp
        rcases ih (t := t.insert (loc ++ [name]) .directory) (loc ++ [name]) with hsame | hmade
        · by_cases heq : other = loc ++ [name]
          · subst heq
            exact .inr ⟨hfree, List.mem_cons_self, hsame.trans (nodeAt_insert_self hne _)⟩
          · exact .inl (hsame.trans (nodeAt_insert_ne heq _))
        · by_cases heq : other = loc ++ [name]
          · subst heq
            rw [nodeAt_insert_self hne] at hmade
            exact absurd hmade.1 (by simp)
          · rw [nodeAt_insert_ne heq] at hmade
            exact .inr ⟨hmade.1, List.mem_cons_of_mem _ hmade.2.1, hmade.2.2⟩

theorem fileAt_makeDirectories (loc other : Location) (names : List String) :
    (t.makeDirectories loc names).2.1.fileAt other = t.fileAt other := by
  rcases nodeAt_makeDirectories (t := t) loc other names with hsame | ⟨hfree, -, hmade⟩
  · exact fileAt_congr hsame
  · rw [fileAt, fileAt, hfree, hmade]

theorem isDirectory_makeDirectories {other : Location} (h : t.isDirectory other = true)
    (loc : Location) (names : List String) :
    (t.makeDirectories loc names).2.1.isDirectory other = true := by
  rcases nodeAt_makeDirectories (t := t) loc other names with hsame | ⟨hfree, -, -⟩
  · rwa [isDirectory_congr hsame]
  · rw [isDirectory_iff, hfree] at h
    cases h

/-- Along ordinary names, every new directory is below the start. -/
theorem prefix_of_made {loc made : Location} {names : List String}
    (h : ∀ name ∈ names, Path.Ordinary name) (hmade : made ∈ (t.makeDirectories loc names).2.2) :
    ∃ suffix, suffix ≠ [] ∧ suffix <+: names ∧ made = loc ++ suffix := by
  induction names generalizing t loc with
  | nil => cases hmade
  | cons name names ih =>
      have hname := h name List.mem_cons_self
      have hrest : ∀ other ∈ names, Path.Ordinary other :=
        fun other hother => h other (List.mem_cons_of_mem _ hother)
      have hstep : ∀ {suffix : List String}, suffix <+: names → made = loc ++ [name] ++ suffix →
          ∃ suffix, suffix ≠ [] ∧ suffix <+: name :: names ∧ made = loc ++ suffix := by
        intro suffix hsuffix heq
        refine ⟨name :: suffix, by simp, List.cons_prefix_cons.mpr ⟨rfl, hsuffix⟩, ?_⟩
        rw [heq, List.append_assoc, List.singleton_append]
      rw [makeDirectories] at hmade
      simp only [hname.ne_empty, hname.ne_dot, hname.ne_up, or_self, if_false] at hmade
      split at hmade
      · cases hmade
      split at hmade
      · obtain ⟨suffix, -, hsuffix, heq⟩ := ih hrest hmade
        exact hstep hsuffix heq
      · rcases List.mem_cons.mp hmade with heq | hmade
        · exact hstep List.nil_prefix (by rw [heq, List.append_nil])
        · obtain ⟨suffix, -, hsuffix, heq⟩ := ih hrest hmade
          exact hstep hsuffix heq

/-- Along ordinary names, the directory asked for is there when it has worked. -/
theorem isDirectory_of_made {loc : Location} {names : List String}
    (h : ∀ name ∈ names, Path.Ordinary name) (hok : (t.makeDirectories loc names).1 = true) :
    (t.makeDirectories loc names).2.1.isDirectory (loc ++ names) = true := by
  induction names generalizing t loc with
  | nil =>
      rw [List.append_nil]
      exact hok
  | cons name names ih =>
      have hname := h name List.mem_cons_self
      have hrest : ∀ other ∈ names, Path.Ordinary other :=
        fun other hother => h other (List.mem_cons_of_mem _ hother)
      have happend : loc ++ name :: names = loc ++ [name] ++ names := by
        rw [List.append_assoc, List.singleton_append]
      rw [makeDirectories] at hok ⊢
      simp only [hname.ne_empty, hname.ne_dot, hname.ne_up, or_self, if_false] at hok ⊢
      rw [happend]
      split at hok
      · cases hok
      next hloc =>
      rw [if_neg hloc]
      split at hok
      · exact ih hrest hok
      · exact ih hrest hok

end Directories

/-! ### Moves and removals -/

section Removal

variable {t}

theorem nodeAt_moveFile {t' : FileTree} {source target : Location}
    (h : t.moveFile source target = some t') (other : Location) :
    t'.nodeAt other =
      if other = target then t.nodeAt source else if other = source then none else t.nodeAt other := by
  obtain ⟨bytes, hbytes, hmove⟩ := Option.bind_eq_some_iff.mp h
  split at hmove
  · cases hmove
  next htarget =>
  cases hmove
  have hroot : target ≠ [] := by
    intro heq
    rw [heq] at htarget
    exact htarget rfl
  split
  · next heq =>
    rw [heq, nodeAt_insert_self hroot, ← fileAt_eq_some.mp hbytes]
  · next hne =>
    rw [nodeAt_insert_ne hne]
    split
    · next heq =>
      have hsource : source ≠ [] := by
        intro hnil
        rw [hnil] at hbytes
        cases hbytes
      rw [heq, nodeAt_erase_self hsource]
    · next hsource => exact nodeAt_erase_ne hsource

theorem lookup_foldl_erase (keys : List Location) (other : Location) :
    (keys.foldl (fun t key => t.erase key) t).lookup other =
      if other ∈ keys then none else t.lookup other := by
  induction keys generalizing t with
  | nil => simp
  | cons key keys ih =>
      rw [List.foldl_cons, ih]
      by_cases heq : other = key
      · subst heq
        rw [AList.lookup_erase]
        simp
      · simp [heq, AList.lookup_erase_ne heq]

theorem nodeAt_removeAll {loc other : Location} (h : other ≠ []) :
    (t.removeAll loc).nodeAt other = if loc <+: other then none else t.nodeAt other := by
  rw [nodeAt_of_ne h, nodeAt_of_ne h, removeAll, lookup_foldl_erase]
  by_cases hkey : other ∈ t.keys
  · simp [hkey]
  · have hnone : t.lookup other = none := AList.lookup_eq_none.mpr hkey
    simp [hkey, hnone]

end Removal

/-! ## Well-formed trees -/

/-- A tree as an operating system keeps it: every entry has an ordinary name and
lies in a directory. -/
structure WellFormed : Prop where
  ordinary : ∀ loc, (t.nodeAt loc).isSome → ∀ name ∈ loc, Path.Ordinary name
  parent : ∀ loc name, (t.nodeAt (loc ++ [name])).isSome → t.isDirectory loc = true

/-- It is enough to look at the entries. -/
theorem WellFormed.of_keys
    (h : ∀ key ∈ t.keys, (∀ name ∈ key, Path.Ordinary name) ∧ t.isDirectory key.dropLast = true) :
    t.WellFormed := by
  have hkey : ∀ loc ≠ [], (t.nodeAt loc).isSome → loc ∈ t.keys := by
    intro loc hne hnode
    rw [nodeAt_of_ne hne, AList.lookup_isSome] at hnode
    exact hnode
  constructor
  · intro loc hnode name hname
    exact (h loc (hkey loc (List.ne_nil_of_mem hname) hnode)).1 name hname
  · intro loc name hnode
    simpa using (h _ (hkey _ (by simp) hnode)).2

end FileTree

end SpatialPlatform.Lib
