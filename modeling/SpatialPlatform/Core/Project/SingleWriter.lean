import SpatialPlatform.Core.Project.Handles
import SpatialPlatform.Lib.Positions

/-!
# One writer for a project

`Open` takes the lock before it opens the database for writing, and no step but
the end of the handle gives it back. `Create` takes no lock: it only tests that
there is no root yet, and makes it in a later step. So two calls become writers
of one project when both have passed their test before the root is made, or when
`Open` gets the lock while a created project is still in the hands of its
creator.

* `single_writer` — over every interleaving, at most one writable handle is live
  at any time as long as no call enters beside a creator, and one that does
  enter can go on to be the second writer.
* `two_writers` — a created project opened by another process, and two projects
  created on one root.
-/

namespace SpatialPlatform.Core

open SpatialPlatform.Lib

/-- At most one writable handle is live. -/
def ProjectRoot.Exclusive (w : ProjectRoot) : Prop :=
  (positions Handle.Writable w.handles).Subsingleton

/-- The steps of `Create` after its tests. -/
def HandleStep.creating : HandleStep → Bool
  | .createRoot | .createDirectories _ | .createDatabase | .writeProjectJson | .insertProject => true
  | _ => false

namespace Handle

/-- A call of `Create` that has found no root and whose project has no row yet,
or the live handle that it has returned. -/
def Creates (files : ProjectFiles) (h : Handle) : Prop :=
  match h.call with
  | .create uuid _ => h.step = .returned ∨ h.step.creating = true ∧ uuid ∉ files.projects
  | .open _ => False

/-- `Create` is about to find no root for a new project, or `Open` to get the lock. -/
def enters (files : ProjectFiles) (locked : Bool) (h : Handle) : Bool :=
  match h.step, h.call with
  | .createChecks, .create uuid _ =>
      files.spxExtension && !uuid.isNil && !files.root && uuid ∉ files.projects
  | .acquireLock, _ => !locked
  | _, _ => false

/-- Two calls of `Create` for one uuid, of which only one can insert its row. -/
def SameProject (h k : Handle) : Prop :=
  match h.call, k.call with
  | .create uuid _, .create uuid' _ => uuid = uuid'
  | _, _ => False

instance instDecidableCreates (files : ProjectFiles) (h : Handle) : Decidable (h.Creates files) :=
  match h with
  | ⟨_, .create uuid _, step, _, _⟩ =>
      inferInstanceAs (Decidable (step = .returned ∨ step.creating = true ∧ uuid ∉ files.projects))
  | ⟨_, .open _, _, _, _⟩ => inferInstanceAs (Decidable False)

instance instDecidableSameProject (h k : Handle) : Decidable (h.SameProject k) :=
  match h, k with
  | ⟨_, .create uuid _, _, _, _⟩, ⟨_, .create uuid' _, _, _, _⟩ => inferInstanceAs (Decidable (uuid = uuid'))
  | ⟨_, .open _, _, _, _⟩, _ => .isFalse id
  | ⟨_, .create _ _, _, _, _⟩, ⟨_, .open _, _, _, _⟩ => .isFalse id

end Handle

namespace ProjectRoot

/-- The action takes no call past its test, and gives the lock to none, while
another project is being created on the root or is open as it was created. -/
def EntersAlone : ProjectAction → ProjectRoot → Prop
  | .advance i, w => ∀ h ∈ w.handles[i]?, h.enters w.files w.locked = true →
      ∀ other ∈ w.handles, other.Creates w.files → other.SameProject h
  | _, _ => True

/-- After the action, at most one writable handle is live. -/
def ExclusiveAfter (a : ProjectAction) (w : ProjectRoot) : Prop :=
  ∀ w', projectCalls.step a w = some w' → w'.Exclusive

instance instDecidableEntersAlone (a : ProjectAction) (w : ProjectRoot) : Decidable (EntersAlone a w) :=
  match a with
  | .advance i => inferInstanceAs (Decidable (∀ h ∈ w.handles[i]?, h.enters w.files w.locked = true →
      ∀ other ∈ w.handles, other.Creates w.files → other.SameProject h))
  | .create _ _ _ | .open _ _ | .ioError _ | .close _ | .destroy _ | .die _ => .isTrue trivial

end ProjectRoot

/-! ## One handle

What is known of a handle at each of its steps, and what a step may add to it:
by cases on the step. -/

/-- The files that are there stay there. -/
structure ProjectFiles.Grow (files files' : ProjectFiles) : Prop where
  root : files.root = true → files'.root = true
  database : files.database = true → files'.database = true
  projects : files.projects ⊆ files'.projects

namespace Handle

/-- What a handle has left behind it. -/
def Sound (files : ProjectFiles) (h : Handle) : Prop :=
  match h.call with
  | .create _ _ => h.lock = false ∧ h.readOnly = false ∧
      match h.step with
      | .createDirectories _ | .createDatabase => files.root = true
      | .writeProjectJson | .insertProject | .returned => files.root = true ∧ files.database = true
      | .openCheck | .readProjectJson | .checkLayout | .acquireLock | .openDatabase => False
      | _ => True
  | .open _ => (h.lock = true → files.root = true) ∧ h.step.creating = false ∧
      match h.step with
      | .createChecks => False
      | .readProjectJson | .checkLayout => files.root = true
      | .acquireLock => files.root = true ∧ h.readOnly = false
      | .openDatabase | .returned => h.readOnly = false → h.lock = true
      | _ => True

variable {files files' : ProjectFiles} {locked : Bool} {h h' k : Handle}

theorem next_grow (hnext : h.next files locked = some (files', h')) : files.Grow files' := by
  unfold next throw at hnext
  constructor <;> grind

theorem next_call (hnext : h.next files locked = some (files', h')) : h'.call = h.call := by
  unfold next throw at hnext
  grind

theorem next_sound (hsound : h.Sound files) (hnext : h.next files locked = some (files', h')) :
    h'.Sound files' := by
  unfold next throw at hnext
  unfold Sound HandleStep.creating at *
  grind

theorem Sound.grow (hsound : h.Sound files) (hgrow : files.Grow files') : h.Sound files' := by
  obtain ⟨hroot, hdatabase, _⟩ := hgrow
  unfold Sound at *
  grind

theorem Creates.of_grow (hcreates : h.Creates files') (hgrow : files.Grow files') : h.Creates files := by
  have hprojects := hgrow.projects
  unfold Creates at *
  grind

/-- A step takes the lock only when nobody has it. -/
theorem next_lock (hnext : h.next files locked = some (files', h')) (hlock : h'.lock = true) :
    h.lock = true ∨ h.step = .acquireLock ∧ locked = false := by
  unfold next throw at hnext
  grind

/-- A step makes a creator only where there is no root. -/
theorem next_creates (hsound : h.Sound files) (hnext : h.next files locked = some (files', h'))
    (hcreates : h'.Creates files') :
    h.Creates files ∧ (h'.step = .returned → h.step = .insertProject) ∨
      h.enters files locked = true ∧ files.root = false ∧ h'.step ≠ .returned := by
  unfold next throw at hnext
  unfold Sound at hsound
  unfold Creates HandleStep.creating enters at *
  grind

/-- What enters is no creator yet. -/
theorem not_creates_of_enters (henters : h.enters files locked = true) : ¬ h.Creates files := by
  unfold enters at henters
  unfold Creates HandleStep.creating
  grind

theorem row_of_enters {uuid : Uuid} {readOnly : Bool} (hsound : h.Sound files)
    (henters : h.enters files locked = true) (hcall : h.call = .create uuid readOnly) :
    uuid ∉ files.projects := by
  unfold enters at henters
  unfold Sound at hsound
  grind

/-- A created project is writable, whatever its own flag says. -/
theorem readOnly_of_creates (hsound : h.Sound files) (hcreates : h.Creates files) :
    h.readOnly = false := by
  unfold Sound at hsound
  unfold Creates at hcreates
  grind

end Handle

/-! ## Two handles

Of two handles at most one has the lock, a creator has none beside it, and two
creators are at work on one project, of which neither has been returned. This
relation is kept by the steps of one of the two, when it enters alone. -/

namespace Handle

/-- Two handles of which at most one will be a live writer. -/
structure Compatible (files : ProjectFiles) (h k : Handle) : Prop where
  lock : h.lock = true → k.lock = false
  creates : h.Creates files → k.lock = false
  created : k.Creates files → h.lock = false
  sameProject : h.Creates files → k.Creates files → h.SameProject k
  running : h.Creates files → k.Creates files → h.step ≠ .returned ∧ k.step ≠ .returned

variable {files files' : ProjectFiles} {locked : Bool} {h h' k : Handle}

theorem SameProject.symm (hsame : h.SameProject k) : k.SameProject h := by
  unfold SameProject at *
  grind

theorem Compatible.symm (hk : Compatible files h k) : Compatible files k h where
  lock hlock := by
    by_contra hother
    exact absurd (hk.lock (by simpa using hother)) (by simp [hlock])
  creates := hk.created
  created := hk.creates
  sameProject hcreates hother := (hk.sameProject hother hcreates).symm
  running hcreates hother := (hk.running hother hcreates).symm

theorem Compatible.grow (hk : Compatible files h k) (hgrow : files.Grow files') :
    Compatible files' h k where
  lock := hk.lock
  creates hcreates := hk.creates (hcreates.of_grow hgrow)
  created hcreates := hk.created (hcreates.of_grow hgrow)
  sameProject hcreates hother := hk.sameProject (hcreates.of_grow hgrow) (hother.of_grow hgrow)
  running hcreates hother := hk.running (hcreates.of_grow hgrow) (hother.of_grow hgrow)

/-- A handle that is on its way out gains nothing. -/
theorem Compatible.leave (hk : Compatible files h k) (hlock : h'.lock = true → h.lock = true)
    (hended : h'.Creates files → h' = h) : Compatible files h' k where
  lock htaken := hk.lock (hlock htaken)
  creates hcreates := by
    obtain rfl := hended hcreates
    exact hk.creates hcreates
  created hcreates := by
    by_contra htaken
    exact absurd (hk.created hcreates) (by simp [hlock (by simpa using htaken)])
  sameProject hcreates hother := by
    obtain rfl := hended hcreates
    exact hk.sameProject hcreates hother
  running hcreates hother := by
    obtain rfl := hended hcreates
    exact hk.running hcreates hother

theorem lock_of_die {process : Nat} (hlock : (h.die process).lock = true) : h.lock = true := by
  unfold die at hlock
  grind

theorem die_of_creates {process : Nat} (hcreates : (h.die process).Creates files) :
    h.die process = h := by
  unfold die Creates HandleStep.creating at *
  grind

/-- A handle that writes has the lock or has created the project. -/
theorem Writable.lock_or_creates (hwritable : h.Writable) (hsound : h.Sound files) :
    h.lock = true ∨ h.Creates files := by
  obtain ⟨hstep, hwrites⟩ := hwritable
  unfold Sound at hsound
  unfold Creates
  grind

theorem Compatible.not_writable (hk : Compatible files h k) (hsound : h.Sound files)
    (hother : k.Sound files) (hwritable : h.Writable) : ¬ k.Writable := by
  intro hlive
  rcases hwritable.lock_or_creates hsound with hlock | hcreates <;>
    rcases hlive.lock_or_creates hother with hlock' | hcreates'
  · exact absurd (hk.lock hlock) (by simp [hlock'])
  · exact absurd (hk.created hcreates') (by simp [hlock])
  · exact absurd (hk.creates hcreates) (by simp [hlock'])
  · exact (hk.running hcreates hcreates').1 hwritable.1

/-- The row of a project ends all other calls that create it. -/
theorem not_creates_of_inserted (hnext : h.next files locked = some (files', h'))
    (hstep : h.step = .insertProject) (hdone : h'.step = .returned) (hsame : h.SameProject k)
    (hrunning : k.step ≠ .returned) : ¬ k.Creates files' := by
  unfold next throw at hnext
  unfold SameProject at hsame
  unfold Creates
  grind

theorem Compatible.next (hk : Compatible files h k) (hsound : h.Sound files) (hother : k.Sound files)
    (hnext : h.next files locked = some (files', h')) (hlocked : k.lock = true → locked = true)
    (halone : h.enters files locked = true → k.Creates files → k.SameProject h) :
    Compatible files' h' k := by
  have hgrow := next_grow hnext
  have hcall := next_call hnext
  constructor
  · intro hlock
    rcases next_lock hnext hlock with hold | ⟨_, hfree⟩
    · exact hk.lock hold
    · by_contra htaken
      exact absurd (hlocked (by simpa using htaken)) (by simp [hfree])
  · intro hcreates
    rcases next_creates hsound hnext hcreates with ⟨hold, _⟩ | ⟨_, hroot, _⟩
    · exact hk.creates hold
    · -- whoever has the lock has found a root
      unfold Sound at hother
      grind
  · intro hcreates
    have hcreates := hcreates.of_grow hgrow
    by_contra htaken
    rcases next_lock hnext (by simpa using htaken) with hold | ⟨hstep, hfree⟩
    · exact absurd (hk.created hcreates) (by simp [hold])
    · have hsame := halone (by simp [enters, hstep, hfree]) hcreates
      unfold SameProject at hsame
      unfold Sound at hsound
      grind
  · intro hcreates hcreates'
    have hcreates' := hcreates'.of_grow hgrow
    rcases next_creates hsound hnext hcreates with ⟨hold, _⟩ | ⟨henters, _, _⟩
    · have hsame := hk.sameProject hold hcreates'
      rwa [SameProject, hcall]
    · have hsame := (halone henters hcreates').symm
      rwa [SameProject, hcall]
  · intro hcreates hcreates'
    have hold' := hcreates'.of_grow hgrow
    rcases next_creates hsound hnext hcreates with ⟨hold, hinserted⟩ | ⟨_, hroot, hstep⟩
    · have hrunning := hk.running hold hold'
      refine ⟨fun hdone => ?_, hrunning.2⟩
      exact not_creates_of_inserted hnext (hinserted hdone) hdone (hk.sameProject hold hold')
        hrunning.2 hcreates'
    · -- a created project has a root
      refine ⟨hstep, fun hdone => ?_⟩
      unfold Creates at hold'
      unfold Sound at hother
      grind

end Handle

/-! ## The root

`Coherent` holds of a root without handles and is kept by every action that
enters alone: by cases on the action, with the rules for two handles when one of
them advances. -/

namespace ProjectRoot

/-- What every root has on which all calls have entered alone. -/
structure Coherent (w : ProjectRoot) : Prop where
  sound : ∀ h ∈ w.handles, h.Sound w.files
  apart : Apart (Handle.Compatible w.files) w.handles

variable {w w' : ProjectRoot} {i : Nat} {h h' : Handle}

theorem Coherent.exclusive (hw : w.Coherent) : w.Exclusive :=
  hw.apart.positions_subsingleton fun h hh k hk hcompatible =>
    hcompatible.not_writable (hw.sound h hh) (hw.sound k hk)

theorem locked_of_lock (hmem : h ∈ w.handles) (hlock : h.lock = true) : w.locked = true :=
  List.any_eq_true.mpr ⟨h, hmem, hlock⟩

theorem step_advance (hstep : projectCalls.step (.advance i) w = some w') :
    ∃ h files' h', w.handles[i]? = some h ∧ h.next w.files w.locked = some (files', h') ∧
      w' = ⟨files', w.handles.set i h'⟩ := by
  obtain ⟨h, hget, hrest⟩ := Option.bind_eq_some_iff.mp hstep
  obtain ⟨⟨files', h'⟩, hnext, rfl⟩ := Option.map_eq_some_iff.mp hrest
  exact ⟨h, files', h', hget, hnext, rfl⟩

theorem Coherent.advance (hw : w.Coherent) (halone : EntersAlone (.advance i) w)
    (hstep : projectCalls.step (.advance i) w = some w') : w'.Coherent := by
  obtain ⟨h, files', h', hget, hnext, rfl⟩ := step_advance hstep
  have hmem := List.mem_of_getElem? hget
  have hgrow := Handle.next_grow hnext
  constructor
  · intro other hother
    rcases List.mem_or_eq_of_mem_set hother with hold | rfl
    · exact (hw.sound other hold).grow hgrow
    · exact Handle.next_sound (hw.sound h hmem) hnext
  · refine (hw.apart.mono fun _ _ _ _ hk => hk.grow hgrow).set fun j k hj hk => ?_
    have hother := List.mem_of_getElem? hk
    have hkept := (hw.apart hget hk (Ne.symm hj)).next (hw.sound h hmem) (hw.sound k hother) hnext
      (locked_of_lock hother) (fun henters => halone h hget henters k hother)
    exact ⟨hkept, hkept.symm⟩

/-- A change that makes no handle writable, takes no lock and keeps what guards it. -/
theorem Coherent.goto {may : Handle → Bool} {next : HandleStep} (hw : w.Coherent)
    (hnext : next = .closing ∨ next = .destroying) (hstep : w.goto i may next = some w') :
    w'.Coherent := by
  unfold ProjectRoot.goto at hstep
  obtain ⟨h, hfind, rfl⟩ := Option.map_eq_some_iff.mp hstep
  have hget := (Option.filter_eq_some_iff.mp hfind).1
  have hmem := List.mem_of_getElem? hget
  have hended : ¬ Handle.Creates w.files { h with step := next } := by
    unfold Handle.Creates HandleStep.creating
    grind
  constructor
  · intro other hother
    rcases List.mem_or_eq_of_mem_set hother with hold | rfl
    · exact hw.sound other hold
    · have hsound := hw.sound h hmem
      unfold Handle.Sound HandleStep.creating at *
      grind
  · refine hw.apart.set fun j k hj hk => ?_
    have hkept : Handle.Compatible w.files { h with step := next } k :=
      (hw.apart hget hk (Ne.symm hj)).leave id fun hcreates => absurd hcreates hended
    exact ⟨hkept, hkept.symm⟩

theorem Coherent.start (hw : w.Coherent) (hsound : h.Sound w.files) (hlock : h.lock = false)
    (hfresh : ¬ h.Creates w.files) : (w.start h).Coherent := by
  constructor
  · intro other hmem
    rcases List.mem_append.mp hmem with hold | hnew
    · exact hw.sound other hold
    · rw [List.mem_singleton.mp hnew]
      exact hsound
  · refine hw.apart.concat fun k _ => ?_
    have hnew : Handle.Compatible w.files h k :=
      ⟨fun htaken => absurd htaken (by simp [hlock]), fun hcreates => absurd hcreates hfresh,
        fun _ => hlock, fun hcreates => absurd hcreates hfresh, fun hcreates => absurd hcreates hfresh⟩
    exact ⟨hnew, hnew.symm⟩

theorem Coherent.die (hw : w.Coherent) (process : Nat)
    (hstep : projectCalls.step (.die process) w = some w') : w'.Coherent := by
  cases hstep
  constructor
  · intro other hmem
    obtain ⟨h, hh, rfl⟩ := List.mem_map.mp hmem
    have hsound := hw.sound h hh
    unfold Handle.Sound Handle.die HandleStep.creating at *
    grind
  · refine hw.apart.map fun h k hk => ?_
    exact ((hk.leave Handle.lock_of_die Handle.die_of_creates).symm.leave Handle.lock_of_die
      Handle.die_of_creates).symm

/-- Every action that enters alone keeps a coherent root coherent. -/
theorem Coherent.step {a : ProjectAction} (hw : w.Coherent) (halone : EntersAlone a w)
    (hstep : projectCalls.step a w = some w') : w'.Coherent := by
  cases a with
  | create process uuid readOnly =>
      cases hstep
      exact hw.start (by simp [Handle.Sound]) rfl (by simp [Handle.Creates, HandleStep.creating])
  | «open» process readOnly =>
      cases hstep
      exact hw.start (by simp [Handle.Sound, HandleStep.creating]) rfl (by simp [Handle.Creates])
  | advance i => exact hw.advance halone hstep
  | ioError i => exact hw.goto (.inr rfl) hstep
  | close i => exact hw.goto (.inl rfl) hstep
  | destroy i => exact hw.goto (.inr rfl) hstep
  | die process => exact hw.die process hstep

theorem coherent_fresh (files : ProjectFiles) : Coherent ⟨files, []⟩ :=
  ⟨fun _ hmem => (nomatch hmem), apart_nil⟩

/-! ## The second writer

A creator that is left to itself is returned, whatever it has still to do:
backwards over the steps of `Create`, and by induction on the directories. So a
call that enters beside a creator can go on until both are writers. -/

/-- The handle at `j`, left to itself, is returned. -/
def Returns (w : ProjectRoot) (j : Nat) (k : Handle) : Prop :=
  ∃ n files', projectCalls.run (List.replicate n (.advance j)) w =
      some ⟨files', w.handles.set j { k with step := .returned }⟩ ∧
    files'.database = true ∧
    ∀ uuid ∈ files'.projects, uuid ∈ w.files.projects ∨ ∃ readOnly, k.call = .create uuid readOnly

variable {files files' : ProjectFiles} {handles : List Handle} {j : Nat} {k k' : Handle}

theorem step_advance_eq (hget : w.handles[i]? = some h)
    (hnext : h.next w.files w.locked = some (files', h')) :
    projectCalls.step (.advance i) w = some ⟨files', w.handles.set i h'⟩ := by
  simp [projectCalls, ProjectRoot.step, hget, hnext]

theorem get_set (hget : w.handles[j]? = some k) (k' : Handle) :
    (w.handles.set j k')[j]? = some k' := by
  obtain ⟨hlt, _⟩ := List.getElem?_eq_some_iff.mp hget
  simp [hlt]

/-- One step of `Create` before the rest. -/
theorem Returns.step {next : HandleStep} (hget : w.handles[j]? = some k)
    (hnext : k.next w.files w.locked = some (files', { k with step := next }))
    (hprojects : files'.projects = w.files.projects)
    (hrest : Returns ⟨files', w.handles.set j { k with step := next }⟩ j { k with step := next }) :
    Returns w j k := by
  obtain ⟨n, last, hrun, hdatabase, hinserted⟩ := hrest
  refine ⟨n + 1, last, ?_, hdatabase, fun uuid hmem => ?_⟩
  · rw [List.replicate_succ, Actions.run_cons, step_advance_eq hget hnext, Option.bind_some, hrun,
      List.set_set]
  · rw [← hprojects]
    exact hinserted uuid hmem

theorem returns_returned (hget : w.handles[j]? = some k) (hstep : k.step = .returned)
    (hdatabase : w.files.database = true) : Returns w j k := by
  have hsame : w.handles.set j { k with step := .returned } = w.handles := by
    obtain ⟨hlt, rfl⟩ := List.getElem?_eq_some_iff.mp hget
    rw [← hstep]
    exact List.set_getElem_self hlt
  exact ⟨0, w.files, by rw [hsame]; rfl, hdatabase, fun _ hmem => .inl hmem⟩

section

variable {uuid : Uuid} {readOnly : Bool} (hcall : k.call = .create uuid readOnly)
include hcall

theorem returns_insertProject (hget : w.handles[j]? = some k) (hstep : k.step = .insertProject)
    (hfresh : uuid ∉ w.files.projects) (hdatabase : w.files.database = true) : Returns w j k := by
  have hnext : k.next w.files w.locked = some ({ w.files with projects := w.files.projects ++ [uuid] },
      { k with step := .returned }) := by
    simp [Handle.next, hstep, hcall, hfresh]
  refine ⟨1, { w.files with projects := w.files.projects ++ [uuid] }, ?_, hdatabase, ?_⟩
  · rw [List.replicate_one, Actions.run_cons, step_advance_eq hget hnext]
    rfl
  · intro other hmem
    rcases List.mem_append.mp hmem with hold | hnew
    · exact .inl hold
    · rw [List.mem_singleton.mp hnew]
      exact .inr ⟨readOnly, hcall⟩

theorem returns_writeProjectJson (hget : w.handles[j]? = some k) (hstep : k.step = .writeProjectJson)
    (hfresh : uuid ∉ w.files.projects) (hdatabase : w.files.database = true) : Returns w j k := by
  have hnext : k.next w.files w.locked = some ({ w.files with projectJson := some readOnly },
      { k with step := .insertProject }) := by
    simp only [Handle.next, hstep, hcall]
  exact .step hget hnext rfl
    (returns_insertProject hcall (get_set hget _) rfl hfresh hdatabase)

theorem returns_createDatabase (hget : w.handles[j]? = some k) (hstep : k.step = .createDatabase)
    (hfresh : uuid ∉ w.files.projects) : Returns w j k := by
  have hnext : k.next w.files w.locked = some ({ w.files with database := true },
      { k with step := .writeProjectJson }) := by
    simp only [Handle.next, hstep]
  exact .step hget hnext rfl
    (returns_writeProjectJson hcall (get_set hget _) rfl hfresh rfl)

theorem returns_createDirectories {remaining : List String} (hget : w.handles[j]? = some k)
    (hstep : k.step = .createDirectories remaining) (hfresh : uuid ∉ w.files.projects) :
    Returns w j k := by
  induction remaining generalizing w k with
  | nil =>
      have hnext : k.next w.files w.locked = some (w.files, { k with step := .createDatabase }) := by
        simp only [Handle.next, hstep]
      exact .step hget hnext rfl (returns_createDatabase hcall (get_set hget _) rfl hfresh)
  | cons dir remaining ih =>
      have hnext : k.next w.files w.locked =
          some ({ w.files with directories := w.files.directories.insert dir },
            { k with step := .createDirectories remaining }) := by
        simp only [Handle.next, hstep]
      exact .step hget hnext rfl (ih hcall (get_set hget _) rfl hfresh)

end

/-- A creator, left to itself, is returned. -/
theorem returns_of_creates (hget : w.handles[j]? = some k) (hsound : k.Sound w.files)
    (hcreates : k.Creates w.files) : Returns w j k := by
  cases hcall : k.call with
  | «open» readOnly =>
      unfold Handle.Creates at hcreates
      simp [hcall] at hcreates
  | create uuid readOnly =>
      simp only [Handle.Sound, hcall] at hsound
      simp only [Handle.Creates, hcall] at hcreates
      obtain ⟨_, _, hfiles⟩ := hsound
      rcases hcreates with hstep | ⟨hcreating, hfresh⟩
      · simp only [hstep] at hfiles
        exact returns_returned hget hstep hfiles.2
      cases hstep : k.step with
      | createRoot =>
          have hnext : k.next w.files w.locked =
              some ({ w.files with root := true }, { k with step := .createDirectories layout }) := by
            simp only [Handle.next, hstep]
          exact .step hget hnext rfl
            (returns_createDirectories hcall (get_set hget _) rfl hfresh)
      | createDirectories remaining => exact returns_createDirectories hcall hget hstep hfresh
      | createDatabase => exact returns_createDatabase hcall hget hstep hfresh
      | writeProjectJson =>
          simp only [hstep] at hfiles
          exact returns_writeProjectJson hcall hget hstep hfresh hfiles.2
      | insertProject =>
          simp only [hstep] at hfiles
          exact returns_insertProject hcall hget hstep hfresh hfiles.2
      | createChecks | openCheck | readProjectJson | checkLayout | acquireLock | openDatabase | returned
      | closing | closed | destroying | gone =>
          rw [hstep] at hcreating
          exact (nomatch hcreating)

/-- A handle that has entered is returned as well, where there is a database and no row of its project. -/
theorem returns_of_enters (hsound : h.Sound w.files) (henters : h.enters w.files w.locked = true) :
    ∃ files' h', h.next w.files w.locked = some (files', h') ∧ files'.projects = w.files.projects ∧
      h'.readOnly = false ∧
      ∀ v : ProjectRoot, v.handles[i]? = some h' → v.files.database = true →
        (∀ uuid ∈ v.files.projects, ∀ readOnly, h.call ≠ .create uuid readOnly) → Returns v i h' := by
  unfold Handle.enters at henters
  split at henters
  next uuid readOnly hstep hcall =>
    simp only [Bool.and_eq_true, Bool.not_eq_true', decide_eq_true_eq] at henters
    obtain ⟨⟨⟨hextension, hnil⟩, hroot⟩, hfresh⟩ := henters
    simp only [Handle.Sound, hcall] at hsound
    refine ⟨w.files, { h with step := .createRoot }, ?_, rfl, hsound.2.1, ?_⟩
    · simp [Handle.next, hstep, hcall, hextension, hnil, hroot]
    · intro v hget _ hrow
      have hfree : uuid ∉ v.files.projects := fun hmem => hrow uuid hmem readOnly hcall
      refine returns_of_creates hget ?_ ?_
      · simp only [Handle.Sound, hcall]
        exact ⟨hsound.1, hsound.2.1, trivial⟩
      · simp only [Handle.Creates, hcall]
        exact .inr ⟨rfl, hfree⟩
  next hstep =>
    have hfree : w.locked = false := by simpa using henters
    have hwrites : h.readOnly = false := by
      unfold Handle.Sound at hsound
      grind
    refine ⟨{ w.files with lockFile := true }, { h with step := .openDatabase, lock := true }, ?_, rfl,
      hwrites, ?_⟩
    · simp [Handle.next, hstep, hfree]
    · intro v hget hdatabase _
      have hnext : Handle.next v.files v.locked { h with step := .openDatabase, lock := true } =
          some (v.files, { h with step := .returned, lock := true }) := by
        simp [Handle.next, hdatabase]
      exact .step hget hnext rfl (returns_returned (get_set hget _) rfl hdatabase)
  next => exact (nomatch henters)

theorem not_exclusive {j : Nat} {k : Handle} (hij : i ≠ j) (hi : w.handles[i]? = some h)
    (hj : w.handles[j]? = some k) (hwritable : h.Writable) (hother : k.Writable) : ¬ w.Exclusive :=
  fun hexclusive => hij (hexclusive ⟨h, hi, hwritable⟩ ⟨k, hj, hother⟩)

/-- A call that enters beside a creator can become the second writer. -/
theorem Coherent.second_writer {a : ProjectAction} (hw : w.Coherent) (halone : ¬ EntersAlone a w) :
    ∃ (calls : List Nat) (w' : ProjectRoot),
      projectCalls.run (a :: calls.map .advance) w = some w' ∧ ¬ w'.Exclusive := by
  cases a with
  | create | «open» | ioError | close | destroy | die => exact absurd trivial halone
  | advance i =>
    obtain ⟨h, hget, henters, k, hmem, hcreates, hother⟩ : ∃ h, w.handles[i]? = some h ∧
        h.enters w.files w.locked = true ∧ ∃ k ∈ w.handles, k.Creates w.files ∧ ¬ k.SameProject h := by
      by_contra hnone
      refine halone fun h hget henters k hk hcreates => ?_
      by_contra hother
      exact hnone ⟨h, hget, henters, k, hk, hcreates, hother⟩
    have hsound := hw.sound h (List.mem_of_getElem? hget)
    have hsound' := hw.sound k hmem
    obtain ⟨j, hj⟩ := List.mem_iff_getElem?.mp hmem
    have hij : i ≠ j := by
      rintro rfl
      cases hget.symm.trans hj
      exact Handle.not_creates_of_enters henters hcreates
    -- the call enters, then the creator goes on to its end, and then the one that has entered
    obtain ⟨files₁, h₁, hnext, hprojects, hwrites, hreturns⟩ := returns_of_enters (i := i) hsound henters
    have hcreates₁ : k.Creates files₁ := by
      unfold Handle.Creates at hcreates ⊢
      rwa [hprojects]
    have hj₁ : (w.handles.set i h₁)[j]? = some k := by rwa [List.getElem?_set_ne hij]
    obtain ⟨n, files₂, hrun, hdatabase, hinserted⟩ := returns_of_creates
      (w := ⟨files₁, w.handles.set i h₁⟩) hj₁ (hsound'.grow (Handle.next_grow hnext)) hcreates₁
    have hget₂ : ((w.handles.set i h₁).set j { k with step := .returned })[i]? = some h₁ := by
      rw [List.getElem?_set_ne (Ne.symm hij)]
      exact get_set hget h₁
    have hrow : ∀ uuid ∈ files₂.projects, ∀ readOnly, h.call ≠ .create uuid readOnly := by
      intro uuid hrow readOnly hcall
      rcases hinserted uuid hrow with hold | ⟨readOnly', hcall'⟩
      · rw [hprojects] at hold
        exact Handle.row_of_enters hsound henters hcall hold
      · unfold Handle.SameProject at hother
        simp [hcall, hcall'] at hother
    obtain ⟨m, files₃, hrun', _, _⟩ :=
      hreturns ⟨files₂, (w.handles.set i h₁).set j { k with step := .returned }⟩ hget₂ hdatabase hrow
    have hwrites' : k.readOnly = false := Handle.readOnly_of_creates hsound' hcreates
    refine ⟨List.replicate n j ++ List.replicate m i, ⟨files₃, ((w.handles.set i h₁).set j
      { k with step := .returned }).set i { h₁ with step := .returned }⟩, ?_, ?_⟩
    · rw [List.map_append, List.map_replicate, List.map_replicate, Actions.run_cons,
        step_advance_eq hget hnext, Option.bind_some, Actions.run_append, hrun]
      exact hrun'
    · refine not_exclusive hij (h := { h₁ with step := .returned })
        (k := { k with step := .returned }) ?_ ?_ ⟨rfl, hwrites⟩ ⟨rfl, hwrites'⟩
      · exact get_set (w := ⟨files₂, _⟩) hget₂ _
      · rw [List.getElem?_set_ne hij]
        exact get_set (w := ⟨files₁, _⟩) hj₁ _

end ProjectRoot

/-- At most one writable handle is live after every action of an interleaving in
which calls enter alone: `Create` finds no root, and `Open` gets the lock, only
while no other project is being created there or is open as it was created. The
first action that enters otherwise can be followed, by steps of the calls that
have begun, until two writable handles are live. -/
theorem single_writer (files : ProjectFiles) (actions : List ProjectAction) :
    (projectCalls.Along ProjectRoot.EntersAlone actions ⟨files, []⟩ →
      projectCalls.Along ProjectRoot.ExclusiveAfter actions ⟨files, []⟩) ∧
    ∀ w a, projectCalls.Along ProjectRoot.EntersAlone actions ⟨files, []⟩ →
      projectCalls.run actions ⟨files, []⟩ = some w → ¬ ProjectRoot.EntersAlone a w →
      ∃ (calls : List Nat) (w' : ProjectRoot),
        projectCalls.run (a :: calls.map .advance) w = some w' ∧ ¬ w'.Exclusive := by
  constructor
  · refine Actions.along_of_invariant (fun _ _ _ hw ha hstep => hw.step ha hstep) ?_
      (ProjectRoot.coherent_fresh files)
    exact fun a w hw ha w' hstep => (hw.step ha hstep).exclusive
  · intro w a halone hrun hbeside
    have hw : w.Coherent := Actions.run_induct (fun _ _ _ hw ha hstep => hw.step ha hstep)
      (ProjectRoot.coherent_fresh files) halone hrun
    exact hw.second_writer hbeside

/-- One process creates a project and keeps the handle, another opens the project for writing. -/
def openBesideCreated : List ProjectAction :=
  .create 0 ⟨1⟩ false :: List.replicate 10 (.advance 0) ++
    .open 1 false :: List.replicate 5 (.advance 1)

/-- Two processes find no root, and both create a project there. -/
def createBesideCreate : List ProjectAction :=
  [.create 0 ⟨1⟩ false, .create 1 ⟨2⟩ false, .advance 0, .advance 1] ++
    List.replicate 9 (.advance 0) ++ List.replicate 9 (.advance 1)

/-- A handle of `Create` is destroyed before the project is opened, and opened again. -/
def openAfterCreated : List ProjectAction :=
  .create 0 ⟨1⟩ false :: List.replicate 10 (.advance 0) ++ [.destroy 0, .advance 0] ++
    .open 1 false :: List.replicate 5 (.advance 1) ++ .open 2 false :: List.replicate 5 (.advance 2)

theorem writers_of_handles {actions : List ProjectAction} {h k : Handle}
    (hrun : ∃ w, projectCalls.run actions ⟨{}, []⟩ = some w ∧ w.handles = [h, k])
    (hwritable : h.Writable ∧ k.Writable) :
    ∃ w, projectCalls.run actions ⟨{}, []⟩ = some w ∧ ¬ w.Exclusive := by
  obtain ⟨w, hrun, hhandles⟩ := hrun
  refine ⟨w, hrun, ProjectRoot.not_exclusive Nat.zero_ne_one (h := h) (k := k) ?_ ?_ hwritable.1 hwritable.2⟩
  · rw [hhandles]
    rfl
  · rw [hhandles]
    rfl

/-- Both handles are live and writable: beside the creator only the second one
has the lock, and of two creators neither has it. -/
theorem two_writers :
    (∃ w, projectCalls.run openBesideCreated ⟨{}, []⟩ = some w ∧ ¬ w.Exclusive) ∧
      ∃ w, projectCalls.run createBesideCreate ⟨{}, []⟩ = some w ∧ ¬ w.Exclusive :=
  ⟨writers_of_handles (h := ⟨0, .create ⟨1⟩ false, .returned, false, false⟩)
      (k := ⟨1, .open false, .returned, false, true⟩) (by decide) (by decide),
    writers_of_handles (h := ⟨0, .create ⟨1⟩ false, .returned, false, false⟩)
      (k := ⟨1, .create ⟨2⟩ false, .returned, false, false⟩) (by decide) (by decide)⟩

/-- A project that is created, closed and opened has one writer at any time; an
`Open` that is about to get the lock beside the creator can become the second
one. -/
theorem single_writer_created :
    projectCalls.Along ProjectRoot.ExclusiveAfter openAfterCreated ⟨{}, []⟩ ∧
      ∃ w, projectCalls.run (openBesideCreated.take 15) ⟨{}, []⟩ = some w ∧
        ∃ (calls : List Nat) (w' : ProjectRoot),
          projectCalls.run (.advance 1 :: calls.map .advance) w = some w' ∧ ¬ w'.Exclusive := by
  refine ⟨(single_writer {} openAfterCreated).1 (by decide), ?_⟩
  obtain ⟨w, hrun, hbeside⟩ : ∃ w, projectCalls.run (openBesideCreated.take 15) ⟨{}, []⟩ = some w ∧
      ¬ ProjectRoot.EntersAlone (.advance 1) w := ⟨_, rfl, by decide⟩
  exact ⟨w, hrun, (single_writer {} (openBesideCreated.take 15)).2 w (.advance 1) (by decide) hrun hbeside⟩

end SpatialPlatform.Core
