import SpatialPlatform.Core.Coordinates.FrameGraph

/-!
# Arbitrary frame maps

What `core/coordinates/frame_graph.cpp` and `frame_graph_validator.cpp` do with
frames that `InsertUnchecked` put into the map without a look at their parents.

* `validateAcyclic_iff` — the traversal accepts a map exactly when every chain
  of parents ends at a root.
* `validate_iff` — the validator accepts the rooted trees.
* `transformWithin_eq`, `comparable_of_transform` — `Transform` ends on every
  map, with a value only along a chain.
-/

namespace SpatialPlatform.Core

open Relation

namespace FrameGraph

variable {K : Type} [Field K]

/-! ## The rest of the interface

The map can be filled without any check, and it is read in an order that nobody
promises. So the order is a parameter. -/

/-- `InsertUnchecked`; the map keeps the frame that it already has under an id. -/
def insertUnchecked (g : FrameGraph K) (frame : CoordinateFrame K) : FrameGraph K :=
  if g.hasFrame frame.id then g else ⟨g.frames ++ [frame]⟩

/-- `Size`. -/
def size (g : FrameGraph K) : Nat := g.frames.length

/-- An order in which the map can be read. -/
structure IterationOrder (g : FrameGraph K) (order : List Uuid) : Prop where
  nodup : order.Nodup
  mem_iff : ∀ x, x ∈ order ↔ g.hasFrame x = true

/-- The frame is there and has no parent. -/
def IsRoot (g : FrameGraph K) (id : Uuid) : Prop :=
  ∃ frame, g.find id = some frame ∧ frame.parent.isNil = true

/-- `root`, `found` and the rest of the loop of `Root`. -/
def rootFrom (g : FrameGraph K) (found : Option Uuid) : List Uuid → Except ProjectError Uuid
  | [] =>
      match found with
      | none => .error ⟨.coordFrameNotFound, "frame graph has no root"⟩
      | some root => .ok root
  | id :: rest =>
      if (g.find id).any (·.parent.isNil) then
        match found with
        | some _ => .error ⟨.coordFrameMultipleRoots, "frame graph has more than one root"⟩
        | none => g.rootFrom (some id) rest
      else g.rootFrom found rest

/-- `Root`. -/
def root (g : FrameGraph K) (order : List Uuid) : Except ProjectError Uuid := g.rootFrom none order

end FrameGraph

/-- `FrameGraphValidation`. -/
structure FrameGraphValidation where
  valid : Bool := true
  reason : String := ""
  code : ErrorCode := .internal

namespace FrameGraph

variable {K : Type} [Field K]

/-- `FrameGraphValidator::Validate`. -/
def validate (g : FrameGraph K) (order : List Uuid) : FrameGraphValidation :=
  if !g.validateAcyclic order then
    ⟨false, "frame graph contains a cycle or a dangling parent edge", .coordFrameCycle⟩
  else if g.size = 0 then ⟨false, "frame graph is empty", .coordFrameNotFound⟩
  else
    match g.root order with
    | .error e => ⟨false, e.message, e.code⟩
    | .ok _ => {}

/-! ## Chains of parents

For maps that were filled without a check. A chain that reaches a root has a
length, which serves as the rank of the frame it begins at; two chains from one
frame reach the same root, by induction over one of them. -/

/-- Every parent edge leads to a frame. -/
def ParentsResolve (g : FrameGraph K) : Prop :=
  ∀ child parent, g.Edge child parent → g.hasFrame parent = true

/-- The chain of a frame ends at a root. -/
def ReachesRoot (g : FrameGraph K) (x : Uuid) : Prop := ∃ r, ReflTransGen g.Edge x r ∧ g.IsRoot r

/-- One root, and every frame below it. -/
def IsRootedTree (g : FrameGraph K) : Prop :=
  ∃ r, g.IsRoot r ∧ ∀ x, g.hasFrame x = true → ReflTransGen g.Edge x r

theorem IsRoot.hasFrame {g : FrameGraph K} {r : Uuid} (h : g.IsRoot r) : g.hasFrame r = true := by
  obtain ⟨frame, hfind, _⟩ := h
  simp [FrameGraph.hasFrame, hfind]

/-- A root has no parent. -/
theorem IsRoot.not_edge {g : FrameGraph K} {r p : Uuid} (h : g.IsRoot r) : ¬ g.Edge r p := by
  rintro ⟨frame, hfind, hnil, -⟩
  obtain ⟨frame', hfind', hnil'⟩ := h
  rw [hfind] at hfind'
  cases hfind'
  rw [hnil] at hnil'
  cases hnil'

theorem IsRoot.eq_of_reflTransGen {g : FrameGraph K} {r x : Uuid} (h : g.IsRoot r)
    (hx : ReflTransGen g.Edge r x) : x = r := by
  obtain rfl | ⟨p, hedge, -⟩ := hx.cases_head
  · rfl
  · exact absurd hedge h.not_edge

/-- What follows a frame on its chain reaches the same root. -/
theorem ReachesRoot.of_edge {g : FrameGraph K} {x p : Uuid} (h : g.ReachesRoot x)
    (hedge : g.Edge x p) : g.ReachesRoot p := by
  obtain ⟨r, hchain, hroot⟩ := h
  obtain rfl | ⟨q, hxq, hqr⟩ := hchain.cases_head
  · exact absurd hedge hroot.not_edge
  · exact ⟨r, hedge.right_unique hxq ▸ hqr, hroot⟩

theorem ReachesRoot.hasFrame {g : FrameGraph K} {x : Uuid} (h : g.ReachesRoot x) :
    g.hasFrame x = true := by
  obtain ⟨r, hchain, hroot⟩ := h
  obtain rfl | ⟨q, ⟨frame, hfind, -⟩, -⟩ := hchain.cases_head
  · exact hroot.hasFrame
  · simp [FrameGraph.hasFrame, hfind]

/-- A chain of the given length ends at a root. -/
inductive RootIn (g : FrameGraph K) : Nat → Uuid → Prop where
  | root {x : Uuid} : g.IsRoot x → g.RootIn 0 x
  | step {n : Nat} {x p : Uuid} : g.Edge x p → g.RootIn n p → g.RootIn (n + 1) x

theorem RootIn.unique {g : FrameGraph K} {m n : Nat} {x : Uuid} (hm : g.RootIn m x)
    (hn : g.RootIn n x) : m = n := by
  induction hm generalizing n with
  | root hroot =>
    cases hn with
    | root => rfl
    | step hedge => exact absurd hedge hroot.not_edge
  | step hedge _ ih =>
    cases hn with
    | root hroot => exact absurd hedge hroot.not_edge
    | step hedge' hrest => rw [ih (hedge.right_unique hedge' ▸ hrest)]

theorem ReachesRoot.exists_rootIn {g : FrameGraph K} {x : Uuid} (h : g.ReachesRoot x) :
    ∃ n, g.RootIn n x := by
  obtain ⟨r, hchain, hroot⟩ := h
  induction hchain using ReflTransGen.head_induction_on with
  | refl => exact ⟨0, .root hroot⟩
  | head hedge _ ih =>
    obtain ⟨n, hn⟩ := ih
    exact ⟨n + 1, .step hedge hn⟩

/-- A map whose chains reach a root is well-formed: the rank is the distance to the root. -/
theorem wellFormed_of_reachesRoot {g : FrameGraph K}
    (h : ∀ x, g.hasFrame x = true → g.ReachesRoot x) : g.WellFormed := by
  have hchild : ∀ {x p}, g.Edge x p → g.ReachesRoot x := by
    rintro x p ⟨frame, hfind, -⟩
    exact h x (by simp [hasFrame, hfind])
  refine ⟨fun hedge => ((hchild hedge).of_edge hedge).hasFrame, ?_⟩
  classical
  refine ⟨fun x => if hx : ∃ n, g.RootIn n x then hx.choose else 0, ?_⟩
  intro x p hedge
  have hx := (hchild hedge).exists_rootIn
  have hp := ((hchild hedge).of_edge hedge).exists_rootIn
  have hnext : hx.choose = hp.choose + 1 := hx.choose_spec.unique (.step hedge hp.choose_spec)
  simp only [dif_pos hx, dif_pos hp, hnext]
  exact Nat.lt_succ_self _

/-! ## `ValidateAcyclic` on any map

A walk turns a frame black when its parent is black or a root. So black frames
reach a root, by induction over the frames that the traversal visits, in
whatever order. -/

/-- What a walk turns black reaches a root, if what was black before does. -/
theorem walk_reachesRoot {g : FrameGraph K} (color : Uuid → Mark) (path : List Uuid)
    (current : Uuid) (hblack : ∀ x, color x = .black → g.ReachesRoot x)
    (hpath : ∀ x ∈ path, ReflTransGen g.Edge x current) {color' : Uuid → Mark} {path' : List Uuid}
    (h : g.walk color path current = some (color', path')) :
    (∀ x, color' x = .black → g.ReachesRoot x) ∧ (∀ x ∈ path', g.ReachesRoot x) ∧
      g.ReachesRoot current := by
  fun_induction walk g color path current with
  | case1 => cases h
  | case2 color path current frame hfind hc =>
    -- the path meets what an earlier walk has visited
    obtain ⟨rfl, rfl⟩ := Prod.mk.inj (Option.some.inj h)
    obtain ⟨r, hchain, hroot⟩ := hblack current hc
    exact ⟨hblack, fun x hx => ⟨r, (hpath x hx).trans hchain, hroot⟩, r, hchain, hroot⟩
  | case3 => cases h
  | case4 color path current frame hfind hc hnil =>
    obtain ⟨rfl, rfl⟩ := Prod.mk.inj (Option.some.inj h)
    have hroot : g.IsRoot current := ⟨frame, hfind, hnil⟩
    refine ⟨fun x hx => ?_, fun x hx => ?_, current, .refl, hroot⟩
    · by_cases hxc : x = current
      · rw [hxc] at hx
        simp at hx
      · rw [Function.update_of_ne hxc] at hx
        exact hblack x hx
    · obtain hx | hx := List.mem_append.mp hx
      · exact ⟨current, hpath x hx, hroot⟩
      · rw [List.mem_singleton.mp hx]
        exact ⟨current, .refl, hroot⟩
  | case5 color path current frame hfind hc hnil ih =>
    have hedge : g.Edge current frame.parent := ⟨frame, hfind, by simpa using hnil, rfl⟩
    obtain ⟨hcolor', hpath', r, hchain, hroot⟩ := ih
      (fun x hx => by
        by_cases hxc : x = current
        · rw [hxc] at hx
          simp at hx
        · rw [Function.update_of_ne hxc] at hx
          exact hblack x hx)
      (fun x hx => by
        obtain hx | hx := List.mem_append.mp hx
        · exact (hpath x hx).tail hedge
        · rw [List.mem_singleton.mp hx]
          exact .single hedge) h
    exact ⟨hcolor', hpath', r, .head hedge hchain, hroot⟩

theorem reachesRoot_of_validateFrom {g : FrameGraph K} {order : List Uuid} {color : Uuid → Mark}
    (hblack : ∀ x, color x = .black → g.ReachesRoot x) (h : g.validateFrom color order = true) :
    ∀ x ∈ order, g.ReachesRoot x := by
  induction order generalizing color with
  | nil => simp
  | cons start rest ih =>
    unfold validateFrom at h
    split at h
    · next hstart =>
      intro x hx
      obtain rfl | hx := List.mem_cons.mp hx
      · exact hblack _ hstart
      · exact ih hblack h x hx
    · split at h
      · cases h
      next color' path' hwalk =>
      obtain ⟨hcolor', hpath', hstart⟩ := walk_reachesRoot color [] start hblack (by simp) hwalk
      intro x hx
      obtain rfl | hx := List.mem_cons.mp hx
      · exact hstart
      · refine ih (fun y hy => ?_) h x hx
        split at hy
        · next hmem => exact hpath' y hmem
        · exact hcolor' y hy

theorem validateAcyclic_iff {g : FrameGraph K} {order : List Uuid} (horder : g.IterationOrder order) :
    g.validateAcyclic order = true ↔
      g.ParentsResolve ∧ ∀ x, g.hasFrame x = true → g.ReachesRoot x := by
  constructor
  · intro h
    have hreach : ∀ x, g.hasFrame x = true → g.ReachesRoot x := fun x hx =>
      reachesRoot_of_validateFrom (by simp) h x ((horder.mem_iff x).mpr hx)
    exact ⟨fun _ _ => (wellFormed_of_reachesRoot hreach).closed, hreach⟩
  · rintro ⟨-, hreach⟩
    exact validateFrom_eq_true (wellFormed_of_reachesRoot hreach) order
      (fun x hx => (horder.mem_iff x).mp hx) _ (by simp)

/-! ## The validator

The three checks of `Validate`, and that each says what its name says. -/

theorem any_isNil_iff {g : FrameGraph K} {id : Uuid} :
    (g.find id).any (·.parent.isNil) = true ↔ g.IsRoot id := by
  cases hfind : g.find id with
  | none => simp [IsRoot, hfind]
  | some frame => simp [IsRoot, hfind]

/-- `Root` gives the only root there is. -/
theorem rootFrom_isOk_iff {g : FrameGraph K} {order : List Uuid} (hnodup : order.Nodup)
    (found : Option Uuid) :
    (∃ r, g.rootFrom found order = .ok r) ↔
      match found with
      | some _ => ∀ x ∈ order, ¬ g.IsRoot x
      | none => ∃ r ∈ order, g.IsRoot r ∧ ∀ x ∈ order, g.IsRoot x → x = r := by
  induction order generalizing found with
  | nil => cases found <;> simp [rootFrom]
  | cons id rest ih =>
    obtain ⟨hfresh, hrest⟩ := List.nodup_cons.mp hnodup
    unfold rootFrom
    by_cases hroot : g.IsRoot id
    · rw [if_pos (any_isNil_iff.mpr hroot)]
      cases found with
      | some _ => simp [hroot]
      | none =>
        rw [ih hrest (some id)]
        constructor
        · intro hno
          refine ⟨id, List.mem_cons_self, hroot, fun x hx hxroot => ?_⟩
          exact (List.mem_cons.mp hx).resolve_right fun hx => hno x hx hxroot
        · rintro ⟨r, -, -, hunique⟩ x hx hxroot
          have hid := hunique id List.mem_cons_self hroot
          have hxr := hunique x (List.mem_cons_of_mem _ hx) hxroot
          exact hfresh (by rwa [hid, ← hxr])
    · rw [if_neg (fun h => hroot (any_isNil_iff.mp h)), ih hrest found]
      cases found <;> simp [hroot]

theorem valid_iff {g : FrameGraph K} (order : List Uuid) :
    (g.validate order).valid = true ↔
      g.validateAcyclic order = true ∧ g.size ≠ 0 ∧ ∃ r, g.root order = .ok r := by
  unfold validate
  cases hacyclic : g.validateAcyclic order with
  | false => simp
  | true =>
    by_cases hsize : g.size = 0
    · simp [hsize]
    · cases hroot : g.root order <;> simp [hsize]

theorem validate_iff {g : FrameGraph K} {order : List Uuid} (horder : g.IterationOrder order) :
    (g.validate order).valid = true ↔ g.frames ≠ [] ∧ g.IsRootedTree := by
  rw [valid_iff, validateAcyclic_iff horder, root, rootFrom_isOk_iff horder.nodup none]
  have hsize : g.size ≠ 0 ↔ g.frames ≠ [] := by simp [size]
  rw [hsize]
  constructor
  · rintro ⟨⟨-, hreach⟩, hne, r, -, hroot, hunique⟩
    refine ⟨hne, r, hroot, fun x hx => ?_⟩
    obtain ⟨r', hchain, hroot'⟩ := hreach x hx
    rwa [hunique r' ((horder.mem_iff _).mpr hroot'.hasFrame) hroot'] at hchain
  · rintro ⟨hne, r, hroot, hbelow⟩
    have hreach : ∀ x, g.hasFrame x = true → g.ReachesRoot x := fun x hx => ⟨r, hbelow x hx, hroot⟩
    refine ⟨⟨fun _ _ => (wellFormed_of_reachesRoot hreach).closed, hreach⟩, hne, r,
      (horder.mem_iff _).mpr hroot.hasFrame, hroot, fun x hx hxroot => ?_⟩
    exact (hxroot.eq_of_reflTransGen (hbelow x ((horder.mem_iff _).mp hx))).symm

/-! ## `Transform` on any map

The loop of `Transform` marks what it has passed, so it ends on any map. For a
bound on the passes it is written once more with a count, and both agree when
the count is one more than the frames left to visit. -/

/-- The loop of `Transform`, for so many passes at most. -/
def climbWithin (g : FrameGraph K) (target : Uuid) :
    Nat → List (SE3 K) → List Uuid → Uuid → Option (Except ProjectError (Option (List (SE3 K))))
  | 0, _, _, _ => none
  | n + 1, edges, visited, current =>
      match g.find current with
      | none => some (.ok none)
      | some frame =>
          if frame.parent.isNil then some (.ok none)
          else if current ∈ visited then
            some (.error ⟨.coordFrameCycle, "cycle detected while resolving transform"⟩)
          else if frame.parent = target then some (.ok (some (frame.parentFromChild :: edges)))
          else g.climbWithin target n (frame.parentFromChild :: edges) (current :: visited) frame.parent

/-- One pass more than there are frames left to visit is enough. -/
theorem climbWithin_eq {g : FrameGraph K} {target : Uuid} (n : Nat) (edges : List (SE3 K))
    (visited : List Uuid) (current : Uuid) (hn : g.unmarked (· ∈ visited) < n) :
    g.climbWithin target n edges visited current = some (g.climb target edges visited current) := by
  induction n generalizing edges visited current with
  | zero => omega
  | succ n ih =>
    fun_cases climb g target edges visited current with
    | case1 hfind => simp [climbWithin, hfind]
    | case2 frame hfind hnil => simp [climbWithin, hfind, hnil]
    | case3 frame hfind hnil hmem => simp [climbWithin, hfind, hnil, hmem]
    | case4 frame hfind hnil hnot htarget =>
      simp only [climbWithin, hfind, hnil, hnot, if_false, Bool.false_eq_true]
      rw [if_pos htarget]
    | case5 frame hfind hnil hnot htarget =>
      have hfewer : g.unmarked (· ∈ current :: visited) < g.unmarked (· ∈ visited) := by
        apply unmarked_lt hfind
        · simpa using hnot
        · simp
        · intro x hx
          simp_all
      simp only [climbWithin, hfind, hnil, hnot, htarget, if_false, Bool.false_eq_true]
      exact ih _ _ _ (by omega)

/-- A climb that arrives has gone along the chain. -/
theorem transGen_of_climb {g : FrameGraph K} {target : Uuid} (edges : List (SE3 K))
    (visited : List Uuid) (current : Uuid) {edges' : List (SE3 K)}
    (h : g.climb target edges visited current = .ok (some edges')) :
    TransGen g.Edge current target := by
  fun_induction climb g target edges visited current with
  | case1 => cases h
  | case2 => cases h
  | case3 => cases h
  | case4 edges visited current frame hfind hnil hnot htarget =>
    exact .single ⟨frame, hfind, by simpa using hnil, htarget⟩
  | case5 edges visited current frame hfind hnil hnot htarget ih =>
    exact .head ⟨frame, hfind, by simpa using hnil, rfl⟩ (ih h)

section

variable [LinearOrder K] [IsStrictOrderedRing K]

/-- `Transform`, with so many passes for each of its two loops. -/
def transformWithin (g : FrameGraph K) (n : Nat) (src dst : Uuid) :
    Option (Except ProjectError (SE3 K)) :=
  if src = dst then some (.ok 1)
  else if !g.hasFrame src then some (.error ⟨.coordFrameNotFound, "from frame does not exist"⟩)
  else if !g.hasFrame dst then some (.error ⟨.coordFrameNotFound, "to frame does not exist"⟩)
  else
    (g.climbWithin src n [] [] dst).bind fun
      | .error e => some (.error e)
      | .ok (some edges) => some (.ok (edges.foldl (· * ·) 1))
      | .ok none =>
          (g.climbWithin dst n [] [] src).map fun
            | .error e => .error e
            | .ok (some edges) => .ok (edges.foldl (· * ·) 1)⁻¹
            | .ok none =>
                .error ⟨.coordFrameDisconnected, "frames are not connected by an ancestor chain"⟩

/-- `Transform` ends after at most one pass more than there are frames. -/
theorem transformWithin_eq (g : FrameGraph K) (src dst : Uuid) :
    g.transformWithin (g.size + 1) src dst = some (g.transform src dst) := by
  have hbound : g.unmarked (· ∈ ([] : List Uuid)) < g.size + 1 :=
    Nat.lt_succ_of_le (List.length_filter_le _ _)
  unfold transformWithin transform
  rw [climbWithin_eq _ _ _ _ hbound, climbWithin_eq _ _ _ _ hbound]
  split
  · rfl
  split
  · rfl
  split
  · rfl
  obtain e | (_ | edges) := g.climb src [] [] dst
  · rfl
  · obtain e | (_ | edges) := g.climb dst [] [] src <;> rfl
  · rfl

/-- A value means that one of the two frames lies on the chain of the other. -/
theorem comparable_of_transform {g : FrameGraph K} {src dst : Uuid} {result : SE3 K}
    (h : g.transform src dst = .ok result) :
    ReflTransGen g.Edge src dst ∨ ReflTransGen g.Edge dst src := by
  unfold transform at h
  split at h
  · next heq => exact .inl (heq ▸ .refl)
  split at h
  · cases h
  split at h
  · cases h
  cases hup : g.climb src [] [] dst with
  | error e =>
    rw [hup] at h
    cases h
  | ok climbed =>
    cases climbed with
    | some edges => exact .inr (transGen_of_climb _ _ _ hup).to_reflTransGen
    | none =>
      rw [hup] at h
      cases hdown : g.climb dst [] [] src with
      | error e =>
        rw [hdown] at h
        cases h
      | ok climbed =>
        cases climbed with
        | some edges => exact .inl (transGen_of_climb _ _ _ hdown).to_reflTransGen
        | none =>
          rw [hdown] at h
          cases h

/-- Whatever is in the map, in whatever order it is read: the traversal accepts
it exactly when its chains are sound, the validator accepts the rooted trees,
and `Transform` ends, with a value only along a chain. -/
theorem frameMap_checks (g : FrameGraph K) :
    (∀ order, g.IterationOrder order →
      (g.validateAcyclic order = true ↔
        g.ParentsResolve ∧ ∀ x, g.hasFrame x = true → g.ReachesRoot x) ∧
      ((g.validate order).valid = true ↔ g.frames ≠ [] ∧ g.IsRootedTree)) ∧
    ∀ src dst, g.transformWithin (g.size + 1) src dst = some (g.transform src dst) ∧
      ∀ result, g.transform src dst = .ok result →
        ReflTransGen g.Edge src dst ∨ ReflTransGen g.Edge dst src :=
  ⟨fun _ horder => ⟨validateAcyclic_iff horder, validate_iff horder⟩,
    fun src dst => ⟨transformWithin_eq g src dst, fun _ => comparable_of_transform⟩⟩

/-- Two frames that are each other's parent, put in without a check. -/
def knot : FrameGraph ℚ :=
  (empty.insertUnchecked ⟨⟨1⟩, ⟨2⟩, 1⟩).insertUnchecked ⟨⟨2⟩, ⟨1⟩, 1⟩

theorem knot_checks : (knot.validate [⟨1⟩, ⟨2⟩]).valid = false ∧
    ((knot.validate [⟨1⟩, ⟨2⟩]).valid = true ↔ knot.frames ≠ [] ∧ knot.IsRootedTree) := by
  have horder : knot.IterationOrder [⟨1⟩, ⟨2⟩] := by
    refine ⟨by decide, fun x => ?_⟩
    simp [knot, insertUnchecked, hasFrame, find, empty]
    grind
  exact ⟨by decide +kernel, ((frameMap_checks knot).1 _ horder).2⟩

end

end FrameGraph

end SpatialPlatform.Core
