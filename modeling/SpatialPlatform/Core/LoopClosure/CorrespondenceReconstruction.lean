import Mathlib.Order.WithBot
import SpatialPlatform.Core.LoopClosure.CandidateGen
import SpatialPlatform.Core.Reconstruction.Document

/-!
# From matched descriptors to matched points

`ReconstructCorrespondences` of
`core/loop_closure/correspondence_reconstruction.h`, which reads the coordinates
of what a matcher has matched. Descriptors and coordinates may be numbers of
different kinds: the former are exact where a result needs that, the latter need
not be finite.

* `reconstructCorrespondences_of_distinct` — what is left of correspondences
  with distinct targets.
-/

namespace SpatialPlatform.Core

open LoopClosureDetection

/-- `FeatureCorrespondence`. -/
structure FeatureCorrespondence (R : Type) where
  sourceIndex : UInt32
  targetIndex : UInt32
  descriptorDistance : WithTop R

/-- `MatchingFrameDescriptors`, as far as matching reads them. -/
structure MatchedFrame (R P : Type) where
  keypoints : List (FeatureKeypoint P)
  descriptors : List (List R)

section

variable {R P : Type} [Double P]

/-- Whether both coordinates of a keypoint are finite. -/
def MatchedFrame.finiteAt (frame : MatchedFrame R P) (i : Nat) : Bool :=
  (frame.keypoints[i]?).any fun k => Double.isFinite k.x && Double.isFinite k.y

/-- The loop of `ReconstructCorrespondences`, with the targets seen so far. -/
def reconstructFrom (source target : MatchedFrame R P) (seenTarget : List Nat) :
    List (FeatureCorrespondence R) → Except ProjectError (List (FeatureCorrespondence R))
  | [] => .ok []
  | c :: rest =>
      if source.descriptors.length ≤ c.sourceIndex.toNat ∨
          target.descriptors.length ≤ c.targetIndex.toNat then
        .error ⟨.validationDomain,
          "loop closure: matcher returned out-of-range correspondence index"⟩
      else if !(source.finiteAt c.sourceIndex.toNat && target.finiteAt c.targetIndex.toNat) then
        reconstructFrom source target seenTarget rest
      else if c.targetIndex.toNat ∈ seenTarget then reconstructFrom source target seenTarget rest
      else (reconstructFrom source target (c.targetIndex.toNat :: seenTarget) rest).map (c :: ·)

/-- The frames have descriptors, and one keypoint for each of them. -/
def StructurallyValid (source target : MatchedFrame R P) : Prop :=
  source.descriptors ≠ [] ∧ target.descriptors ≠ [] ∧
    source.keypoints.length = source.descriptors.length ∧
    target.keypoints.length = target.descriptors.length

instance (source target : MatchedFrame R P) : Decidable (StructurallyValid source target) :=
  inferInstanceAs (Decidable (source.descriptors ≠ [] ∧ target.descriptors ≠ [] ∧ _))

/-- `ReconstructCorrespondences`, with the correspondences that the matcher supplies. -/
def reconstructCorrespondences (source target : MatchedFrame R P)
    (matched : List (FeatureCorrespondence R)) :
    Except ProjectError (List (FeatureCorrespondence R)) :=
  if source.descriptors.isEmpty || target.descriptors.isEmpty ||
      source.keypoints.length ≠ source.descriptors.length ||
      target.keypoints.length ≠ target.descriptors.length then
    .error ⟨.validationDomain,
      "loop closure: feature data invalid (empty or keypoint/descriptor count mismatch)"⟩
  else reconstructFrom source target [] matched

/-! ## Distinct targets

Correspondences that were checked for range, with targets that differ: only
points that are not finite can still be dropped. -/

/-- Correspondences that index rows of the two frames. -/
def InRange (source target : MatchedFrame R P) (cs : List (FeatureCorrespondence R)) : Prop :=
  ∀ c ∈ cs, c.sourceIndex.toNat < source.descriptors.length ∧
    c.targetIndex.toNat < target.descriptors.length

/-- The points of a correspondence are finite. -/
def finitePoints (source target : MatchedFrame R P) (c : FeatureCorrespondence R) : Bool :=
  source.finiteAt c.sourceIndex.toNat && target.finiteAt c.targetIndex.toNat

/-- Nothing but points that are not finite is dropped where no target comes twice. -/
theorem reconstructFrom_of_distinct {source target : MatchedFrame R P}
    {cs : List (FeatureCorrespondence R)} (hrange : InRange source target cs)
    (hdistinct : (cs.map (·.targetIndex)).Nodup) {seen : List Nat}
    (hseen : ∀ c ∈ cs, c.targetIndex.toNat ∉ seen) :
    reconstructFrom source target seen cs = .ok (cs.filter (finitePoints source target)) := by
  induction cs generalizing seen with
  | nil => rfl
  | cons c rest ih =>
    rw [List.map_cons, List.nodup_cons] at hdistinct
    obtain ⟨hc, hrest⟩ := List.forall_mem_cons.mp hrange
    obtain ⟨hfresh, hothers⟩ := List.forall_mem_cons.mp hseen
    unfold reconstructFrom
    rw [if_neg (by omega)]
    by_cases hfinite : finitePoints source target c = true
    · have hgood : (!(source.finiteAt c.sourceIndex.toNat &&
          target.finiteAt c.targetIndex.toNat)) = false := by
        rw [Bool.not_eq_false']
        exact hfinite
      have hnext : ∀ c' ∈ rest, c'.targetIndex.toNat ∉ c.targetIndex.toNat :: seen := by
        intro c' hc' hmem
        obtain hsame | hmem := List.mem_cons.mp hmem
        · apply hdistinct.1
          rw [← UInt32.toNat_inj.mp hsame]
          exact List.mem_map_of_mem hc'
        · exact hothers c' hc' hmem
      rw [hgood, if_neg Bool.false_ne_true, if_neg hfresh, ih hrest hdistinct.2 hnext,
        List.filter_cons_of_pos hfinite]
      rfl
    · have hbad : (!(source.finiteAt c.sourceIndex.toNat &&
          target.finiteAt c.targetIndex.toNat)) = true := by
        rw [Bool.not_eq_true']
        exact Bool.eq_false_iff.mpr hfinite
      rw [hbad, if_pos rfl, ih hrest hdistinct.2 hothers, List.filter_cons_of_neg hfinite]

theorem reconstructCorrespondences_of_distinct {source target : MatchedFrame R P}
    (hvalid : StructurallyValid source target) {cs : List (FeatureCorrespondence R)}
    (hrange : InRange source target cs) (hdistinct : (cs.map (·.targetIndex)).Nodup) :
    reconstructCorrespondences source target cs =
      .ok (cs.filter (finitePoints source target)) := by
  obtain ⟨hs, ht, hks, hkt⟩ := hvalid
  unfold reconstructCorrespondences
  rw [if_neg (by simp [hs, ht, hks, hkt])]
  exact reconstructFrom_of_distinct hrange hdistinct (by simp)

end

end SpatialPlatform.Core
