import Mathlib.Logic.Function.Basic
import Mathlib.Logic.Relation
import Mathlib.Algebra.BigOperators.Group.List.Basic
import SpatialPlatform.Core.Basic
import SpatialPlatform.Core.Geometry.SE3
import SpatialPlatform.Lib.Dag

/-!
# The frame graph

`core/coordinates/frame_graph.cpp`. Each frame holds the transform to its
parent; `Transform` climbs from one frame to the other and multiplies what it
passes.
-/

namespace SpatialPlatform.Core

open Relation

/-- `CoordinateFrame`; a nil parent marks a root. -/
structure CoordinateFrame (K : Type) [Field K] where
  id : Uuid
  parent : Uuid
  parentFromChild : SE3 K

/-- `FrameGraph`: the frames in the order in which they were registered. -/
structure FrameGraph (K : Type) [Field K] where
  frames : List (CoordinateFrame K)

namespace FrameGraph

variable {K : Type} [Field K]

/-- The graph as it is constructed. -/
def empty : FrameGraph K := ⟨[]⟩

/-- `Find`. -/
def find (g : FrameGraph K) (id : Uuid) : Option (CoordinateFrame K) :=
  g.frames.find? (·.id == id)

/-- `HasFrame`. -/
def hasFrame (g : FrameGraph K) (id : Uuid) : Bool := (g.find id).isSome

/-- `AddFrame`. -/
def addFrame (g : FrameGraph K) (frame : CoordinateFrame K) : Except ProjectError (FrameGraph K) :=
  if g.hasFrame frame.id then
    .error ⟨.coordFrameExists, "frame id already registered"⟩
  else if !frame.parent.isNil && !g.hasFrame frame.parent then
    .error ⟨.coordFrameNotFound, "parent frame does not exist"⟩
  else
    .ok ⟨g.frames ++ [frame]⟩

/-- A sequence of `AddFrame` calls; one that throws leaves the graph as it was. -/
def addFrames (g : FrameGraph K) : List (CoordinateFrame K) → FrameGraph K
  | [] => g
  | frame :: rest =>
      match g.addFrame frame with
      | .ok g' => g'.addFrames rest
      | .error _ => g.addFrames rest

theorem find_mem {g : FrameGraph K} {id : Uuid} {frame : CoordinateFrame K}
    (h : g.find id = some frame) : frame ∈ g.frames ∧ frame.id = id := by
  refine ⟨List.mem_of_find?_eq_some h, ?_⟩
  simpa using List.find?_some h

/-- The registered frames that a walk has not marked yet. -/
def unmarked (g : FrameGraph K) (marked : Uuid → Bool) : Nat :=
  (g.frames.filter fun frame => !marked frame.id).length

/-- Marking one more registered frame leaves fewer. -/
theorem unmarked_lt {g : FrameGraph K} {id : Uuid} {frame : CoordinateFrame K}
    {marked marked' : Uuid → Bool} (hfind : g.find id = some frame) (hid : marked id = false)
    (hid' : marked' id = true) (hmono : ∀ x, marked x = true → marked' x = true) :
    g.unmarked marked' < g.unmarked marked := by
  obtain ⟨hmem, rfl⟩ := find_mem hfind
  have hsub : (g.frames.filter fun frame => !marked' frame.id) =
      (g.frames.filter fun frame => !marked frame.id).filter fun frame => !marked' frame.id := by
    rw [List.filter_filter]
    apply List.filter_congr
    intro f _
    have := hmono f.id
    cases h : marked f.id <;> cases h' : marked' f.id <;> simp_all
  unfold unmarked
  rw [hsub]
  apply List.length_filter_lt_length_iff_exists.mpr
  exact ⟨frame, by simp [hmem, hid], by simp [hid']⟩

/-- The loop of `Transform` from `current` up to `target`: the edges passed, the
last one first; nothing when the climb ends at a root. -/
def climb (g : FrameGraph K) (target : Uuid) (edges : List (SE3 K)) (visited : List Uuid)
    (current : Uuid) : Except ProjectError (Option (List (SE3 K))) :=
  match h : g.find current with
  | none => .ok none
  | some frame =>
      if frame.parent.isNil then .ok none
      else if hv : current ∈ visited then
        .error ⟨.coordFrameCycle, "cycle detected while resolving transform"⟩
      else if frame.parent = target then .ok (some (frame.parentFromChild :: edges))
      else g.climb target (frame.parentFromChild :: edges) (current :: visited) frame.parent
termination_by g.unmarked (· ∈ visited)
decreasing_by
  apply unmarked_lt h
  · simpa using hv
  · simp
  · intro x hx
    simp_all

theorem climb_eq {g : FrameGraph K} {target current : Uuid} {edges : List (SE3 K)}
    {visited : List Uuid} {frame : CoordinateFrame K} (hfind : g.find current = some frame)
    (hnil : frame.parent.isNil = false) (hnot : current ∉ visited) :
    g.climb target edges visited current =
      if frame.parent = target then .ok (some (frame.parentFromChild :: edges))
      else g.climb target (frame.parentFromChild :: edges) (current :: visited) frame.parent := by
  fun_cases climb g target edges visited current <;> simp_all

section Transform

variable [LinearOrder K] [IsStrictOrderedRing K]

/-- `Transform`. -/
def transform (g : FrameGraph K) (src dst : Uuid) : Except ProjectError (SE3 K) :=
  if src = dst then .ok 1
  else if !g.hasFrame src then
    .error ⟨.coordFrameNotFound, "from frame does not exist"⟩
  else if !g.hasFrame dst then
    .error ⟨.coordFrameNotFound, "to frame does not exist"⟩
  else do
    match ← g.climb src [] [] dst with
    | some edges => return edges.foldl (· * ·) 1
    | none =>
        match ← g.climb dst [] [] src with
        | some edges => return (edges.foldl (· * ·) 1)⁻¹
        | none =>
            throw ⟨.coordFrameDisconnected, "frames are not connected by an ancestor chain"⟩

end Transform

/-- `Mark`. -/
inductive Mark where
  | white
  | gray
  | black
  deriving DecidableEq, Repr

/-- The inner loop of `ValidateAcyclic`: the colours and the path when it stops,
nothing when it finds a dangling parent or a cycle. Only registered frames have
a colour. -/
def walk (g : FrameGraph K) (color : Uuid → Mark) (path : List Uuid) (current : Uuid) :
    Option ((Uuid → Mark) × List Uuid) :=
  match h : g.find current with
  | none => none
  | some frame =>
      match hc : color current with
      | .black => some (color, path)
      | .gray => none
      | .white =>
          if frame.parent.isNil then
            some (Function.update color current .gray, path ++ [current])
          else
            g.walk (Function.update color current .gray) (path ++ [current]) frame.parent
termination_by g.unmarked (color · ≠ .white)
decreasing_by
  apply unmarked_lt h
  · simp [hc]
  · simp
  · intro x hx
    by_cases hxc : x = current
    · simp [hxc]
    · simpa [Function.update_of_ne hxc] using hx

/-- The outer loop of `ValidateAcyclic`, over the frames in the order of the map. -/
def validateFrom (g : FrameGraph K) (color : Uuid → Mark) : List Uuid → Bool
  | [] => true
  | start :: rest =>
      if color start = .black then g.validateFrom color rest
      else
        match g.walk color [] start with
        | none => false
        | some (color, path) =>
            g.validateFrom (fun x => if x ∈ path then .black else color x) rest

/-- `ValidateAcyclic`; `order` is the iteration order of the map. -/
def validateAcyclic (g : FrameGraph K) (order : List Uuid) : Bool :=
  g.validateFrom (fun _ => .white) order

/-! ## Parents

A graph that was built by `AddFrame` has a rank: every frame is added below one
that is there. The invariant `WellFormed` says so, and it is kept by induction
over the calls; that no frame is its own ancestor follows from the rank. -/

/-- `parent` is the parent of the registered frame `child`. -/
def Edge (g : FrameGraph K) (child parent : Uuid) : Prop :=
  ∃ frame, g.find child = some frame ∧ frame.parent.isNil = false ∧ frame.parent = parent

/-- Every parent is registered, and lies deeper than its children by some measure. -/
structure WellFormed (g : FrameGraph K) : Prop where
  closed : ∀ {child parent}, g.Edge child parent → g.hasFrame parent = true
  ranked : ∃ rank : Uuid → ℕ, ∀ child parent, g.Edge child parent → rank parent < rank child

theorem Edge.right_unique {g : FrameGraph K} {x p q : Uuid} (hp : g.Edge x p) (hq : g.Edge x q) :
    p = q := by
  obtain ⟨f, hf, -, rfl⟩ := hp
  obtain ⟨f', hf', -, rfl⟩ := hq
  rw [hf] at hf'
  cases hf'
  rfl

theorem WellFormed.empty : (empty : FrameGraph K).WellFormed where
  closed := by
    rintro child parent ⟨f, hf, -⟩
    cases hf
  ranked := ⟨fun _ => 0, by rintro child parent ⟨f, hf, -⟩; cases hf⟩

/-- What a graph holds after one more frame is registered. -/
theorem find_append {g : FrameGraph K} {frame : CoordinateFrame K} (id : Uuid) :
    (⟨g.frames ++ [frame]⟩ : FrameGraph K).find id =
      (g.find id).or (if frame.id = id then some frame else none) := by
  simp only [find, List.find?_append, List.find?_singleton, beq_iff_eq]

/-- What `AddFrame` asks of a frame that it registers. -/
theorem addFrame_ok {g g' : FrameGraph K} {frame : CoordinateFrame K}
    (h : g.addFrame frame = .ok g') :
    g.hasFrame frame.id = false ∧ (frame.parent.isNil = false → g.hasFrame frame.parent = true) ∧
      g' = ⟨g.frames ++ [frame]⟩ := by
  unfold addFrame at h
  split at h
  · cases h
  · rename_i hid
    split at h
    · cases h
    · rename_i hparent
      refine ⟨by simpa using hid, ?_, by cases h; rfl⟩
      intro hnil
      simpa [hnil] using hparent

/-- The edges of the new graph: those of the old one, and the one of the frame itself. -/
theorem edge_append {g : FrameGraph K} {frame : CoordinateFrame K} {x p : Uuid}
    (h : (⟨g.frames ++ [frame]⟩ : FrameGraph K).Edge x p) :
    g.Edge x p ∨ (x = frame.id ∧ p = frame.parent ∧ frame.parent.isNil = false) := by
  obtain ⟨f, hf, hnil, rfl⟩ := h
  rw [find_append] at hf
  cases hx : g.find x with
  | some f' =>
      rw [hx] at hf
      cases hf
      exact .inl ⟨f, hx, hnil, rfl⟩
  | none =>
      rw [hx, Option.none_or] at hf
      split at hf
      · rename_i hxid
        cases hf
        exact .inr ⟨hxid.symm, rfl, hnil⟩
      · cases hf

theorem WellFormed.addFrame {g g' : FrameGraph K} {frame : CoordinateFrame K} (hg : g.WellFormed)
    (h : g.addFrame frame = .ok g') : g'.WellFormed := by
  obtain ⟨hid, hparent, rfl⟩ := addFrame_ok h
  have hkeep : ∀ x, g.hasFrame x = true →
      (⟨g.frames ++ [frame]⟩ : FrameGraph K).hasFrame x = true := by
    intro x hx
    obtain ⟨f, hf⟩ := Option.isSome_iff_exists.mp hx
    simp [hasFrame, find_append, hf]
  constructor
  · intro x p hedge
    apply hkeep
    obtain hold | ⟨-, rfl, hnil⟩ := edge_append hedge
    · exact hg.closed hold
    · exact hparent hnil
  · obtain ⟨rank, hrank⟩ := hg.ranked
    -- the new frame is above everything registered so far, and nothing has it as its parent
    refine ⟨Function.update rank frame.id (rank frame.parent + 1), ?_⟩
    intro x p hedge
    have hne : p ≠ frame.id := by
      rintro rfl
      obtain hold | ⟨-, hp, hnil⟩ := edge_append hedge
      · simp [hg.closed hold] at hid
      · rw [hp, hparent hnil] at hid
        cases hid
    rw [Function.update_of_ne hne]
    obtain hold | ⟨rfl, rfl, -⟩ := edge_append hedge
    · have hx : x ≠ frame.id := by
        rintro rfl
        obtain ⟨f, hf, -⟩ := hold
        simp [hasFrame, hf] at hid
      rw [Function.update_of_ne hx]
      exact hrank x p hold
    · simp

theorem WellFormed.addFrames {g : FrameGraph K} (hg : g.WellFormed)
    (calls : List (CoordinateFrame K)) : (g.addFrames calls).WellFormed := by
  induction calls generalizing g with
  | nil => exact hg
  | cons frame rest ih =>
      unfold FrameGraph.addFrames
      split
      · rename_i g' h
        exact ih (hg.addFrame h)
      · exact ih hg

theorem rank_lt_of_transGen {g : FrameGraph K} {rank : Uuid → ℕ}
    (hrank : ∀ child parent, g.Edge child parent → rank parent < rank child) {x a : Uuid}
    (h : TransGen g.Edge x a) : rank a < rank x := by
  induction h with
  | single hxa => exact hrank _ _ hxa
  | tail _ hab ih => exact (hrank _ _ hab).trans ih

/-- No frame is its own ancestor. -/
theorem WellFormed.acyclic {g : FrameGraph K} (hg : g.WellFormed) (x : Uuid) :
    ¬ TransGen g.Edge x x := by
  obtain ⟨rank, hrank⟩ := hg.ranked
  intro h
  exact lt_irrefl _ (rank_lt_of_transGen hrank h)

/-! ## `ValidateAcyclic`

A walk up the parents colours what it passes. On a graph that was built by
`AddFrame` it always ends at a root or at a frame that is black already. -/

/-- The walk ends well, and only frames of its path are left gray. -/
theorem walk_spec {g : FrameGraph K} (hg : g.WellFormed) (color : Uuid → Mark) (path : List Uuid)
    (current : Uuid) (hcurrent : g.hasFrame current = true)
    (hgray : ∀ x, color x = .gray → x ∈ path ∧ TransGen g.Edge x current) :
    ∃ color' path', g.walk color path current = some (color', path') ∧
      ∀ x, color' x = .gray → x ∈ path' := by
  fun_induction walk g color path current with
  | case1 color path current h =>
      simp [hasFrame, h] at hcurrent
  | case2 color path current frame h hc =>
      exact ⟨color, path, rfl, fun x hx => (hgray x hx).1⟩
  | case3 color path current frame h hc =>
      -- a gray frame on the way would be its own ancestor
      exact absurd (hgray current hc).2 (hg.acyclic current)
  | case4 color path current frame h hc hnil =>
      refine ⟨_, _, rfl, ?_⟩
      intro x hx
      by_cases hxc : x = current
      · simp [hxc]
      · rw [Function.update_of_ne hxc] at hx
        simp [(hgray x hx).1]
  | case5 color path current frame h hc hnil ih =>
      have hedge : g.Edge current frame.parent := ⟨frame, h, by simpa using hnil, rfl⟩
      apply ih (hg.closed hedge)
      intro x hx
      by_cases hxc : x = current
      · subst hxc
        exact ⟨by simp, .single hedge⟩
      · rw [Function.update_of_ne hxc] at hx
        obtain ⟨hmem, htrans⟩ := hgray x hx
        exact ⟨by simp [hmem], htrans.tail hedge⟩

theorem validateFrom_eq_true {g : FrameGraph K} (hg : g.WellFormed) (order : List Uuid)
    (horder : ∀ x ∈ order, g.hasFrame x = true) (color : Uuid → Mark)
    (hcolor : ∀ x, color x ≠ .gray) : g.validateFrom color order = true := by
  induction order generalizing color with
  | nil => rfl
  | cons start rest ih =>
      have hrest : ∀ x ∈ rest, g.hasFrame x = true :=
        fun x hx => horder x (List.mem_cons_of_mem _ hx)
      unfold validateFrom
      split
      · exact ih hrest color hcolor
      · obtain ⟨color', path', hwalk, hpath⟩ := walk_spec hg color [] start
          (horder start List.mem_cons_self) (fun x hx => absurd hx (hcolor x))
        rw [hwalk]
        apply ih hrest
        intro x hx
        split at hx
        · cases hx
        · rename_i hmem
          exact hmem (hpath x hx)

/-- `ValidateAcyclic` accepts a well-formed graph, in whatever order the map is read. -/
theorem validateAcyclic_eq_true {g : FrameGraph K} (hg : g.WellFormed) {order : List Uuid}
    (horder : order.Perm (g.frames.map (·.id))) : g.validateAcyclic order = true := by
  apply validateFrom_eq_true hg
  · intro x hx
    obtain ⟨frame, hframe, rfl⟩ := List.mem_map.mp (horder.mem_iff.mp hx)
    have hsome : (g.frames.find? (·.id == frame.id)).isSome = true := by
      simp only [List.find?_isSome, beq_iff_eq]
      exact ⟨frame, hframe, rfl⟩
    exact hsome
  · intro x
    simp

/-! ## `Transform`

Each frame of a well-formed graph can be placed in its root, by its pose.
`Transform` climbs from one frame to another; by induction over the path it
collects the change of pose between them, whichever of the two is the ancestor.
So the laws of the groupoid are laws of poses. -/

/-- The climb passes a frame that is no ancestor by, up to a root. -/
theorem climb_none {g : FrameGraph K} (hg : g.WellFormed) {target : Uuid}
    (edges : List (SE3 K)) (visited : List Uuid) (current : Uuid)
    (hvisited : ∀ x ∈ visited, TransGen g.Edge x current)
    (h : ¬ TransGen g.Edge current target) : g.climb target edges visited current = .ok none := by
  fun_induction climb g target edges visited current with
  | case1 => rfl
  | case2 => rfl
  | case3 edges visited current frame hfind hnil hmem =>
      exact absurd (hvisited current hmem) (hg.acyclic current)
  | case4 edges visited current frame hfind hnil hnot htarget =>
      exact absurd (.single ⟨frame, hfind, by simpa using hnil, htarget⟩) h
  | case5 edges visited current frame hfind hnil hnot htarget ih =>
      have hedge : g.Edge current frame.parent := ⟨frame, hfind, by simpa using hnil, rfl⟩
      apply ih
      · intro x hx
        obtain rfl | hmem := List.mem_cons.mp hx
        · exact .single hedge
        · exact (hvisited x hmem).tail hedge
      · exact fun htrans => h (.head hedge htrans)

/-- A frame that has an ancestor is registered, and the ancestor too. -/
theorem WellFormed.hasFrame_of_transGen {g : FrameGraph K} (hg : g.WellFormed) {x a : Uuid}
    (h : TransGen g.Edge x a) : g.hasFrame x = true ∧ g.hasFrame a = true := by
  constructor
  · obtain ⟨_, ⟨frame, hfind, -⟩, -⟩ := TransGen.head'_iff.mp h
    simp [hasFrame, hfind]
  · obtain ⟨_, -, hedge⟩ := TransGen.tail'_iff.mp h
    exact hg.closed hedge

/-- The frames lie on the chain from some frame up to its root. -/
def OnOneChain (g : FrameGraph K) (frames : List Uuid) : Prop :=
  ∃ lowest, ∀ x ∈ frames, ReflTransGen g.Edge lowest x

theorem OnOneChain.comparable {g : FrameGraph K} {frames : List Uuid} (h : g.OnOneChain frames)
    {x y : Uuid} (hx : x ∈ frames) (hy : y ∈ frames) :
    ReflTransGen g.Edge y x ∨ ReflTransGen g.Edge x y := by
  obtain ⟨lowest, hlowest⟩ := h
  have hunique : Relator.RightUnique g.Edge := fun _ _ _ hp hq => hp.right_unique hq
  exact ReflTransGen.total_of_right_unique hunique (hlowest y hy) (hlowest x hx)

section Pose

variable [LinearOrder K] [IsStrictOrderedRing K]

/-- A pose for each frame, such that the pose of a child is that of its parent
followed by the transform between them. -/
def IsPose (g : FrameGraph K) (pose : Uuid → SE3 K) : Prop :=
  ∀ x frame, g.find x = some frame → frame.parent.isNil = false →
    pose x = pose frame.parent * frame.parentFromChild

omit [LinearOrder K] [IsStrictOrderedRing K] in
/-- Every frame of a well-formed graph can be placed in its root. -/
theorem WellFormed.exists_pose {g : FrameGraph K} (hg : g.WellFormed) : ∃ pose, g.IsPose pose := by
  obtain ⟨rank, hrank⟩ := hg.ranked
  let pred (x : Uuid) : List Uuid :=
    match g.find x with
    | some frame => if frame.parent.isNil then [] else [frame.parent]
    | none => []
  -- the pose of a frame from that of its parent
  let F (x : Uuid) (pose : Uuid → SE3 K) : SE3 K :=
    match g.find x with
    | some frame => if frame.parent.isNil then 1 else pose frame.parent * frame.parentFromChild
    | none => 1
  have hF : Lib.Dag.Local pred F := by
    intro x pose pose' h
    unfold F
    split
    · rename_i frame hfind
      split
      · rfl
      · rename_i hnil
        rw [h frame.parent (by simp [pred, hfind, hnil])]
    · rfl
  have hlayer : ∀ x d, d ∈ pred x → rank d < rank x := by
    intro x d hd
    unfold pred at hd
    split at hd
    · rename_i frame hfind
      split at hd
      · cases hd
      · rename_i hnil
        rw [List.mem_singleton.mp hd]
        exact hrank _ _ ⟨frame, hfind, by simpa using hnil, rfl⟩
    · cases hd
  obtain ⟨pose, hpose⟩ := Lib.Dag.exists_solution hF hlayer
  refine ⟨pose, fun x frame hfind hnil => ?_⟩
  rw [hpose x]
  simp [F, hfind, hnil]

/-- The climb to an ancestor collects the transform from the start of the climb. -/
theorem climb_some {g : FrameGraph K} {rank : Uuid → ℕ} {pose : Uuid → SE3 K}
    (hrank : ∀ child parent, g.Edge child parent → rank parent < rank child)
    (hpose : g.IsPose pose) {current target : Uuid} (h : TransGen g.Edge current target)
    (edges : List (SE3 K)) (visited : List Uuid) (hvisited : ∀ x ∈ visited, rank current < rank x) :
    ∃ edges', g.climb target edges visited current = .ok (some edges') ∧
      edges'.prod = (pose target)⁻¹ * pose current * edges.prod := by
  induction h using TransGen.head_induction_on generalizing edges visited with
  | @single current hedge =>
      obtain ⟨frame, hfind, hnil, rfl⟩ := hedge
      have hnot : current ∉ visited := fun hmem => lt_irrefl _ (hvisited current hmem)
      refine ⟨frame.parentFromChild :: edges, ?_, ?_⟩
      · rw [climb_eq hfind hnil hnot, if_pos rfl]
      · rw [List.prod_cons, hpose current frame hfind hnil, inv_mul_cancel_left]
  | @head current mid hedge hrest ih =>
      have hlt := hrank _ _ hedge
      obtain ⟨frame, hfind, hnil, rfl⟩ := hedge
      have hnot : current ∉ visited := fun hmem => lt_irrefl _ (hvisited current hmem)
      rw [climb_eq hfind hnil hnot]
      split
      · rename_i htarget
        subst htarget
        refine ⟨_, rfl, ?_⟩
        rw [List.prod_cons, hpose current frame hfind hnil, inv_mul_cancel_left]
      · have hvisited' : ∀ x ∈ current :: visited, rank frame.parent < rank x := by
          intro x hx
          obtain rfl | hmem := List.mem_cons.mp hx
          · exact hlt
          · exact hlt.trans (hvisited x hmem)
        obtain ⟨edges', hclimb, hprod⟩ := ih (frame.parentFromChild :: edges) _ hvisited'
        refine ⟨edges', hclimb, ?_⟩
        rw [hprod, hpose current frame hfind hnil, List.prod_cons]
        simp only [mul_assoc]

/-- Between a frame and an ancestor, in whatever direction, `Transform` is the change of pose. -/
theorem transform_eq {g : FrameGraph K} (hg : g.WellFormed) {pose : Uuid → SE3 K}
    (hpose : g.IsPose pose) {src dst : Uuid}
    (h : ReflTransGen g.Edge dst src ∨ ReflTransGen g.Edge src dst) :
    g.transform src dst = .ok ((pose src)⁻¹ * pose dst) := by
  obtain ⟨rank, hrank⟩ := hg.ranked
  unfold transform
  by_cases heq : src = dst
  · rw [if_pos heq, heq, inv_mul_cancel]
  have hstrict : TransGen g.Edge dst src ∨ TransGen g.Edge src dst := by
    simp only [reflTransGen_iff_eq_or_transGen] at h
    grind
  have hfound : g.hasFrame src = true ∧ g.hasFrame dst = true :=
    hstrict.elim (fun h => (hg.hasFrame_of_transGen h).symm) hg.hasFrame_of_transGen
  simp only [heq, hfound.1, hfound.2, if_false, Bool.not_true, Bool.false_eq_true]
  by_cases hup : TransGen g.Edge dst src
  · obtain ⟨edges, hclimb, hprod⟩ := climb_some hrank hpose hup [] [] (by simp)
    rw [hclimb]
    show Except.ok (edges.foldl (· * ·) 1) = _
    rw [← List.prod_eq_foldl, hprod, List.prod_nil, mul_one]
  · have hdown : TransGen g.Edge src dst := hstrict.resolve_left hup
    obtain ⟨edges, hclimb, hprod⟩ := climb_some hrank hpose hdown [] [] (by simp)
    rw [climb_none hg [] [] dst (by simp) hup]
    show (do match ← g.climb dst [] [] src with
      | some edges => return (edges.foldl (· * ·) 1)⁻¹
      | none => throw _) = _
    rw [hclimb]
    show Except.ok (edges.foldl (· * ·) 1)⁻¹ = _
    rw [← List.prod_eq_foldl, hprod, List.prod_nil, mul_one, mul_inv_rev, inv_inv]

/-- Whatever frames are offered, the graph is acyclic and `Transform` is a
groupoid along every chain of ancestors. -/
theorem addFrames_acyclic_groupoid (calls : List (CoordinateFrame K)) :
    let g := (empty : FrameGraph K).addFrames calls
    (∀ x, ¬ TransGen g.Edge x x) ∧
    (∀ order : List Uuid, order.Perm (g.frames.map (·.id)) → g.validateAcyclic order = true) ∧
    ∀ a b c, g.OnOneChain [a, b, c] → ∃ ab bc : SE3 K,
      g.transform a b = .ok ab ∧ g.transform b c = .ok bc ∧
      g.transform a c = .ok (ab * bc) ∧ g.transform b a = .ok ab⁻¹ := by
  intro g
  have hg : g.WellFormed := WellFormed.empty.addFrames calls
  obtain ⟨pose, hpose⟩ := hg.exists_pose
  refine ⟨hg.acyclic, fun order => validateAcyclic_eq_true hg, ?_⟩
  intro a b c hchain
  -- frames of one chain have comparable places, so each transform is a quotient of poses
  have heq : ∀ x ∈ [a, b, c], ∀ y ∈ [a, b, c], g.transform x y = .ok ((pose x)⁻¹ * pose y) :=
    fun x hx y hy => transform_eq hg hpose (hchain.comparable hx hy)
  refine ⟨(pose a)⁻¹ * pose b, (pose b)⁻¹ * pose c, heq a (by simp) b (by simp),
    heq b (by simp) c (by simp), ?_, ?_⟩
  · rw [heq a (by simp) c (by simp), mul_assoc, mul_inv_cancel_left]
  · rw [heq b (by simp) a (by simp), mul_inv_rev, inv_inv]

/-- A half turn about the vertical axis, one step ahead. -/
def halfTurn : SE3 ℚ where
  rotation := ⟨0, 0, 0, 1⟩
  translation := ⟨1, 0, 0⟩
  unit := (Quaternion.normSq_def' _).trans (by norm_num)

/-- A root, two frames in a row below it, and one that `AddFrame` rejects. -/
def arm : List (CoordinateFrame ℚ) :=
  [⟨⟨1⟩, .nil, 1⟩, ⟨⟨2⟩, ⟨1⟩, halfTurn⟩, ⟨⟨4⟩, ⟨9⟩, halfTurn⟩, ⟨⟨3⟩, ⟨2⟩, halfTurn⟩]

theorem arm_groupoid : ∃ ab bc : SE3 ℚ,
    ((empty : FrameGraph ℚ).addFrames arm).transform ⟨3⟩ ⟨1⟩ = .ok ab ∧
    ((empty : FrameGraph ℚ).addFrames arm).transform ⟨1⟩ ⟨2⟩ = .ok bc ∧
    ((empty : FrameGraph ℚ).addFrames arm).transform ⟨3⟩ ⟨2⟩ = .ok (ab * bc) ∧
    ((empty : FrameGraph ℚ).addFrames arm).transform ⟨1⟩ ⟨3⟩ = .ok ab⁻¹ := by
  apply (addFrames_acyclic_groupoid arm).2.2
  have hup : ((empty : FrameGraph ℚ).addFrames arm).Edge ⟨3⟩ ⟨2⟩ := ⟨_, rfl, rfl, rfl⟩
  have hroot : ((empty : FrameGraph ℚ).addFrames arm).Edge ⟨2⟩ ⟨1⟩ := ⟨_, rfl, rfl, rfl⟩
  refine ⟨⟨3⟩, ?_⟩
  simp only [List.mem_cons, List.not_mem_nil, or_false]
  rintro x (rfl | rfl | rfl)
  · exact .refl
  · exact .head hup (.single hroot)
  · exact .single hup

end Pose

end FrameGraph

end SpatialPlatform.Core
