import SpatialPlatform.Core.Basic
import SpatialPlatform.Lib.Machine

/-!
# Handles of a project

`core/project/project.cpp` and the `FileLock` of `core/utils/fs.cpp`, for one
project root that any number of processes create, open, close and leave. A call
is a sequence of steps on the files of the root, and the steps of different
calls interleave. A lock belongs to the open file of the handle that took it, so
it goes with the handle; the lock file itself stays.
-/

namespace SpatialPlatform.Core

open SpatialPlatform.Lib

/-- What is on disk below a project root. -/
structure ProjectFiles where
  spxExtension : Bool := true
  root : Bool := false
  directories : List String := []
  database : Bool := false
  projects : List Uuid := []
  /-- `flags.read_only` of `project.json`, which is replaced as a whole. -/
  projectJson : Option Bool := none
  lockFile : Bool := false
  deriving DecidableEq, Repr

/-- The call that made a handle, with its arguments. -/
inductive ProjectCall where
  | create (uuid : Uuid) (readOnly : Bool)
  | «open» (readOnly : Bool)
  deriving DecidableEq, Repr

/-- What comes next for a handle: a step of the call that makes it, of `Close`,
or of its destruction.
-/
inductive HandleStep where
  | createChecks
  | createRoot
  | createDirectories (remaining : List String)
  | createDatabase
  | writeProjectJson
  | insertProject
  | openCheck
  | readProjectJson
  | checkLayout
  | acquireLock
  | openDatabase
  | returned
  | closing
  | closed
  | destroying
  | gone
  deriving DecidableEq, Repr

/-- A `Project`, from the start of the call that makes it. -/
structure Handle where
  process : Nat
  call : ProjectCall
  step : HandleStep
  readOnly : Bool := false
  lock : Bool := false
  deriving DecidableEq, Repr

/-- The directories below the root. -/
def layout : List String := ["artifacts", "cache", "logs", "temp"]

namespace Handle

/-- The call is still running. -/
def inCall (h : Handle) : Bool :=
  match h.step with
  | .returned | .closing | .closed | .destroying | .gone => false
  | _ => true

/-- The handle has been returned, may write, and has not been closed. -/
def Writable (h : Handle) : Prop := h.step = .returned ∧ h.readOnly = false

instance instDecidableWritable : DecidablePred Writable := fun _ => inferInstanceAs (Decidable (_ ∧ _))

/-- An exception of the call, which destroys the handle. -/
def throw (h : Handle) : Handle := { h with step := .destroying }

/-- The end of a process closes its open files. -/
def die (process : Nat) (h : Handle) : Handle :=
  if h.process = process then { h with step := .gone, lock := false } else h

/-- The next step of a handle; `locked` says whether some handle has the lock. -/
def next (files : ProjectFiles) (locked : Bool) (h : Handle) : Option (ProjectFiles × Handle) :=
  match h.step with
  | .createChecks =>
      match h.call with
      | .create uuid _ =>
          if !files.spxExtension || uuid.isNil || files.root then some (files, h.throw)
          else some (files, { h with step := .createRoot })
      | .open _ => none
  -- a root that came after the test is not an error
  | .createRoot => some ({ files with root := true }, { h with step := .createDirectories layout })
  | .createDirectories (dir :: remaining) =>
      some ({ files with directories := files.directories.insert dir },
        { h with step := .createDirectories remaining })
  | .createDirectories [] => some (files, { h with step := .createDatabase })
  | .createDatabase => some ({ files with database := true }, { h with step := .writeProjectJson })
  | .writeProjectJson =>
      match h.call with
      | .create _ readOnly =>
          some ({ files with projectJson := some readOnly }, { h with step := .insertProject })
      | .open _ => none
  | .insertProject =>
      match h.call with
      | .create uuid _ =>
          if uuid ∈ files.projects then some (files, h.throw)
          else some ({ files with projects := files.projects ++ [uuid] },
            { h with step := .returned })
      | .open _ => none
  | .openCheck =>
      if files.root then some (files, { h with step := .readProjectJson })
      else some (files, h.throw)
  | .readProjectJson =>
      match h.call, files.projectJson with
      | .open readOnly, some flag =>
          some (files, { h with step := .checkLayout, readOnly := readOnly || flag })
      | .open _, none => some (files, h.throw)
      | .create _ _, _ => none
  | .checkLayout =>
      if layout.all (· ∈ files.directories) then
        some (files, { h with step := if h.readOnly then .openDatabase else .acquireLock })
      else some (files, h.throw)
  | .acquireLock =>
      -- the file is opened before `flock` is tried on it
      if locked then some ({ files with lockFile := true }, h.throw)
      else some ({ files with lockFile := true }, { h with step := .openDatabase, lock := true })
  | .openDatabase =>
      if files.database then some (files, { h with step := .returned })
      else some (files, h.throw)
  | .closing => some (files, { h with step := .closed, lock := false })
  | .destroying => some (files, { h with step := .gone, lock := false })
  | .returned | .closed | .gone => none

end Handle

/-- A project root and the handles made on it so far. -/
structure ProjectRoot where
  files : ProjectFiles
  handles : List Handle
  deriving DecidableEq, Repr

/-- What a process does, or what happens to it. -/
inductive ProjectAction where
  | create (process : Nat) (uuid : Uuid) (readOnly : Bool)
  | «open» (process : Nat) (readOnly : Bool)
  | advance (i : Nat)
  | ioError (i : Nat)
  | close (i : Nat)
  | destroy (i : Nat)
  | die (process : Nat)
  deriving DecidableEq, Repr

namespace ProjectRoot

/-- Some open file has the lock. -/
def locked (w : ProjectRoot) : Bool := w.handles.any (·.lock)

def start (w : ProjectRoot) (h : Handle) : ProjectRoot := { w with handles := w.handles ++ [h] }

/-- Move one handle to a step, if it may go there. -/
def goto (w : ProjectRoot) (i : Nat) (may : Handle → Bool) (step : HandleStep) :
    Option ProjectRoot :=
  (w.handles[i]?.filter may).map fun h =>
    { w with handles := w.handles.set i { h with step } }

def step : ProjectAction → ProjectRoot → Option ProjectRoot
  | .create process uuid readOnly, w =>
      some (w.start { process, call := .create uuid readOnly, step := .createChecks })
  | .open process readOnly, w => some (w.start { process, call := .open readOnly, step := .openCheck })
  | .advance i, w =>
      (w.handles[i]?).bind fun h => (h.next w.files w.locked).map fun (files, h) =>
        ⟨files, w.handles.set i h⟩
  | .ioError i, w => w.goto i (·.inCall) .destroying
  | .close i, w => w.goto i (fun h => h.step = .returned ∨ h.step = .closed) .closing
  | .destroy i, w => w.goto i (fun h => h.step = .returned ∨ h.step = .closed) .destroying
  | .die process, w =>
      some { w with handles := w.handles.map (·.die process) }

end ProjectRoot

/-- All interleavings of calls on one project root. -/
def projectCalls : Actions ProjectRoot ProjectAction := ⟨ProjectRoot.step⟩

end SpatialPlatform.Core
