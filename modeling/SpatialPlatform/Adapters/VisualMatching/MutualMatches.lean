import SpatialPlatform.Adapters.VisualMatching.L2NearestMatcher

/-!
# Mutual matches

What the two functions of `L2NearestMatcher` and `ReconstructCorrespondences`
have to do with each other. Indices are reported in 32 bits, and frames without
one keypoint for each descriptor are refused.

* `mutual_matching` — the score counts the correspondences; in mutual mode they
  are one-to-one and mirror each other, and the finite ones are kept.
* `not_oneToOne_beyond`, `empty_frames_refused` — beyond that, and without rows.
-/

namespace SpatialPlatform.Adapters.VisualMatching

open SpatialPlatform.Core

/-- The correspondence seen from the other frame. -/
def mirror (c : FeatureCorrespondence ℝ) : FeatureCorrespondence ℝ :=
  ⟨c.targetIndex, c.sourceIndex, c.descriptorDistance⟩

/-- What 32 bits can count. -/
def Fits (rows : List (List ℝ)) : Prop := rows.length ≤ 2 ^ 32

theorem toNat_ofNat_of_fits {rows : List (List ℝ)} (h : Fits rows) {i : Nat}
    (hi : i < rows.length) : (UInt32.ofNat i).toNat = i :=
  UInt32.toNat_ofNat_of_lt' (hi.trans_le h)

theorem ofNat_inj_of_fits {rows : List (List ℝ)} (hrows : Fits rows) {i j : Nat}
    (hi : i < rows.length) (hj : j < rows.length) (h : UInt32.ofNat i = UInt32.ofNat j) : i = j := by
  rw [← toNat_ofNat_of_fits hrows hi, h, toNat_ofNat_of_fits hrows hj]

section

variable {m : L2NearestMatcher ℝ} {a b : List (List ℝ)}

theorem inj_of_nodup {p q : Nat × Nat × WithTop ℝ} (hp : p ∈ m.matchedPairs a b)
    (hq : q ∈ m.matchedPairs a b) (h : p.1 = q.1) : p = q :=
  List.inj_on_of_nodup_map nodup_sources hp hq h

theorem nodup_sourceIndices (ha : Fits a) :
    ((m.matchCorrespondences a b).map (·.sourceIndex)).Nodup := by
  unfold L2NearestMatcher.matchCorrespondences
  rw [List.map_map]
  refine List.Nodup.map_on (fun p hp q hq h => ?_) nodup_matchedPairs
  exact inj_of_nodup hp hq
    (ofNat_inj_of_fits ha (matchedPairs_range hp).1 (matchedPairs_range hq).1 h)

theorem nodup_targetIndices (hmutual : m.mutualOnly = true) (hb : Fits b) :
    ((m.matchCorrespondences a b).map (·.targetIndex)).Nodup := by
  unfold L2NearestMatcher.matchCorrespondences
  rw [List.map_map]
  refine List.Nodup.map_on (fun p hp q hq h => ?_) nodup_matchedPairs
  exact source_unique hmutual hp hq
    (ofNat_inj_of_fits hb (matchedPairs_range hp).2 (matchedPairs_range hq).2 h)

theorem matchCorrespondences_mirror (hmutual : m.mutualOnly = true) :
    (m.matchCorrespondences b a).Perm ((m.matchCorrespondences a b).map mirror) := by
  unfold L2NearestMatcher.matchCorrespondences
  rw [List.map_map]
  have hperm := (matchedPairs_mirror (a := a) (b := b) hmutual).map
    fun (i, j, d) => (⟨UInt32.ofNat i, UInt32.ofNat j, d⟩ : FeatureCorrespondence ℝ)
  rw [List.map_map] at hperm
  exact hperm

theorem matchScore_comm (hmutual : m.mutualOnly = true) : m.matchScore b a = m.matchScore a b := by
  rw [matchScore_eq, matchScore_eq, (matchCorrespondences_mirror hmutual).length_eq, List.length_map]

end

section

variable {P : Type} [Double P]

omit [Double P] in
/-- What is reported of two frames indexes their rows. -/
theorem inRange_matchCorrespondences (m : L2NearestMatcher ℝ) {source target : MatchedFrame ℝ P}
    (hs : Fits source.descriptors) (ht : Fits target.descriptors) :
    InRange source target (m.matchCorrespondences source.descriptors target.descriptors) := by
  intro c hc
  obtain ⟨p, hp, rfl⟩ := List.mem_map.mp hc
  obtain ⟨hi, hj⟩ := matchedPairs_range hp
  show (UInt32.ofNat p.1).toNat < _ ∧ (UInt32.ofNat p.2.1).toNat < _
  rw [toNat_ofNat_of_fits hs hi, toNat_ofNat_of_fits ht hj]
  exact ⟨hi, hj⟩

/-- What `ReconstructCorrespondences` should make of what it is given: frames
without descriptors, or without one keypoint for each of them, are refused, and
otherwise the finite pairs are kept. -/
def keptPairs (source target : MatchedFrame ℝ P) (cs : List (FeatureCorrespondence ℝ)) :
    Except ProjectError (List (FeatureCorrespondence ℝ)) :=
  if StructurallyValid source target then .ok (cs.filter (finitePoints source target))
  else .error ⟨.validationDomain,
    "loop closure: feature data invalid (empty or keypoint/descriptor count mismatch)"⟩

/-- Pairs of rows that are one-to-one, look the same from both frames, and are
kept when their points are finite. -/
structure MutualLaws (m : L2NearestMatcher ℝ) (source target : MatchedFrame ℝ P) : Prop where
  oneToOne : ((m.matchedPairs source.descriptors target.descriptors).map (·.1)).Nodup ∧
    ((m.matchedPairs source.descriptors target.descriptors).map (·.2.1)).Nodup
  mirrored : (m.matchCorrespondences target.descriptors source.descriptors).Perm
    ((m.matchCorrespondences source.descriptors target.descriptors).map mirror)
  symmetric : m.matchScore target.descriptors source.descriptors =
    m.matchScore source.descriptors target.descriptors
  sources : Fits source.descriptors →
    ((m.matchCorrespondences source.descriptors target.descriptors).map (·.sourceIndex)).Nodup
  targets : Fits target.descriptors →
    ((m.matchCorrespondences source.descriptors target.descriptors).map (·.targetIndex)).Nodup
  reconstructed : Fits source.descriptors → Fits target.descriptors →
    reconstructCorrespondences source target
        (m.matchCorrespondences source.descriptors target.descriptors) =
      keptPairs source target (m.matchCorrespondences source.descriptors target.descriptors)

theorem reconstructCorrespondences_eq_keptPairs {source target : MatchedFrame ℝ P}
    {cs : List (FeatureCorrespondence ℝ)} (hrange : InRange source target cs)
    (hdistinct : (cs.map (·.targetIndex)).Nodup) :
    reconstructCorrespondences source target cs = keptPairs source target cs := by
  unfold keptPairs
  split
  · next hvalid => exact reconstructCorrespondences_of_distinct hvalid hrange hdistinct
  · next hvalid =>
    unfold reconstructCorrespondences
    rw [if_pos]
    simp only [StructurallyValid, not_and_or] at hvalid
    simpa [or_assoc] using hvalid

/-- Matching counts what it puts out, and in mutual mode the laws hold, those
about reported indices for rows that 32 bits can count. -/
theorem mutual_matching (m : L2NearestMatcher ℝ) (source target : MatchedFrame ℝ P) :
    m.matchScore source.descriptors target.descriptors =
      ((m.matchCorrespondences source.descriptors target.descriptors).length : ℝ) ∧
    (m.mutualOnly = true → MutualLaws m source target) := by
  refine ⟨matchScore_eq m _ _, fun hmutual => ?_⟩
  exact {
    oneToOne := ⟨nodup_sources, nodup_matchedPairs.map_on fun _ hp _ hq => source_unique hmutual hp hq⟩
    mirrored := matchCorrespondences_mirror hmutual
    symmetric := matchScore_comm hmutual
    sources := nodup_sourceIndices
    targets := nodup_targetIndices hmutual
    reconstructed := fun hs ht => reconstructCorrespondences_eq_keptPairs
      (inRange_matchCorrespondences m hs ht) (nodup_targetIndices hmutual ht) }

/-- A frame with the given rows, each at the origin. -/
def frameOf (rows : List (List ℝ)) : MatchedFrame ℝ ℚ :=
  ⟨rows.map fun _ => ⟨0, 0⟩, rows⟩

theorem mutual_matching_pair : MutualLaws ⟨(1 : ℝ), true⟩ (frameOf [[0], [1]]) (frameOf [[1]]) :=
  (mutual_matching ⟨(1 : ℝ), true⟩ (frameOf [[0], [1]]) (frameOf [[1]])).2 rfl

end

/-! ## Beyond 32 bits, and without rows

The rows are numbered in one dimension, so each is its own nearest one; their
number is a parameter. -/

/-- A row for each number below `n`. -/
noncomputable def numbered (n : Nat) : List (List ℝ) := (List.range n).map fun i : Nat => [(i : ℝ)]

theorem length_numbered (n : Nat) : (numbered n).length = n := by simp [numbered]

theorem l2_singleton (x y : ℝ) : l2 [x] [y] = |x - y| := by
  have hsum : l2 [x] [y] = Real.sqrt ((0.0 : ℝ) + (x - y) * (x - y)) := rfl
  rw [hsum, show (0.0 : ℝ) + (x - y) * (x - y) = (x - y) * (x - y) by norm_num,
    Real.sqrt_mul_self_eq_abs]

/-- Every row is its own nearest one, at no distance. -/
theorem nearest_numbered {n i : Nat} (hi : i < n) :
    nearest [(i : ℝ)] (numbered n) = (i, ((0 : ℝ) : WithTop ℝ)) := by
  have hne : numbered n ≠ [] := by
    rw [← List.length_pos_iff, length_numbered]
    omega
  obtain ⟨⟨hlt, hmin⟩, hdist⟩ := nearest_spec [(i : ℝ)] hne
  have hrow : ∀ k (hk : k < (numbered n).length), (numbered n)[k] = [(k : ℝ)] := by
    intro k hk
    simp [numbered]
  have hd := hdist hlt
  have hself := (hmin i (by rw [length_numbered]; exact hi)).1
  rw [hrow _ hlt, l2_singleton] at hself hd
  rw [hrow, l2_singleton, sub_self, abs_zero, abs_nonpos_iff, sub_eq_zero] at hself
  have hplace : (nearest [(i : ℝ)] (numbered n)).1 = i := (Nat.cast_injective hself).symm
  rw [hplace, sub_self, abs_zero] at hd
  exact Prod.ext hplace hd

theorem nearestWithin_numbered (n : Nat) :
    (⟨(0 : ℝ), true⟩ : L2NearestMatcher ℝ).nearestWithin (numbered n) (numbered n) =
      (List.range n).map fun i => some (i, ((0 : ℝ) : WithTop ℝ)) := by
  unfold L2NearestMatcher.nearestWithin
  conv_lhs => rw [numbered, List.map_map]
  apply List.map_congr_left
  intro i hi
  rw [List.mem_range] at hi
  simp only [Function.comp_apply]
  rw [show (List.range n).map (fun i : Nat => [(i : ℝ)]) = numbered n from rfl, nearest_numbered hi,
    if_pos le_rfl]

/-- Each row is matched with itself. -/
theorem mem_matchedPairs_numbered {n i : Nat} (hi : i < n) :
    (i, i, ((0 : ℝ) : WithTop ℝ)) ∈
      (⟨(0 : ℝ), true⟩ : L2NearestMatcher ℝ).matchedPairs (numbered n) (numbered n) := by
  rw [mem_matchedPairs_of_mutual rfl]
  have hnearby : Nearby (⟨(0 : ℝ), true⟩ : L2NearestMatcher ℝ) (numbered n) (numbered n) i i
      ((0 : ℝ) : WithTop ℝ) := by
    unfold Nearby
    rw [nearestWithin_numbered]
    simp [hi]
  refine ⟨comparable_iff.mpr ⟨?_, ?_, 1, one_ne_zero, ?_, ?_⟩, hnearby, hnearby⟩
  · rw [← List.length_pos_iff, length_numbered]
    omega
  · rw [← List.length_pos_iff, length_numbered]
    omega
  · simp [numbered]
  · simp [numbered]

/-- One row more than 32 bits can count, and two correspondences have the same source. -/
theorem not_oneToOne_beyond : ¬ ((((⟨(0 : ℝ), true⟩ : L2NearestMatcher ℝ).matchCorrespondences
    (numbered (2 ^ 32 + 1)) (numbered (2 ^ 32 + 1))).map (·.sourceIndex)).Nodup) := by
  generalize hn : 2 ^ 32 + 1 = n
  unfold L2NearestMatcher.matchCorrespondences
  rw [List.map_map]
  intro hnodup
  have hsame : UInt32.ofNat 0 = UInt32.ofNat (2 ^ 32) := by decide
  have hpairs := List.inj_on_of_nodup_map hnodup (mem_matchedPairs_numbered (i := 0) (by omega))
    (mem_matchedPairs_numbered (i := 2 ^ 32) (by omega)) hsame
  have hplaces := congrArg Prod.fst hpairs
  simp at hplaces

/-- Two frames without descriptors have no pairs, and are refused all the same. -/
theorem empty_frames_refused (m : L2NearestMatcher ℝ) :
    m.matchCorrespondences [] [] = [] ∧
    reconstructCorrespondences (frameOf []) (frameOf []) (m.matchCorrespondences [] []) =
      .error ⟨.validationDomain,
        "loop closure: feature data invalid (empty or keypoint/descriptor count mismatch)"⟩ :=
  ⟨rfl, rfl⟩

/-- Neither the number of the rows nor their presence can be left out. -/
theorem mutual_matches_need_rows :
    (¬ ∀ (m : L2NearestMatcher ℝ) (a b : List (List ℝ)), m.mutualOnly = true →
      ((m.matchCorrespondences a b).map (·.sourceIndex)).Nodup) ∧
    ¬ ∀ (m : L2NearestMatcher ℝ) (source target : MatchedFrame ℝ ℚ), m.mutualOnly = true →
      reconstructCorrespondences source target
          (m.matchCorrespondences source.descriptors target.descriptors) =
        .ok ((m.matchCorrespondences source.descriptors target.descriptors).filter
          (finitePoints source target)) := by
  constructor
  · intro h
    exact not_oneToOne_beyond (h _ _ _ rfl)
  · intro h
    have hempty := h ⟨(0 : ℝ), true⟩ (frameOf []) (frameOf []) rfl
    rw [show (frameOf []).descriptors = [] from rfl, (empty_frames_refused _).2] at hempty
    cases hempty

end SpatialPlatform.Adapters.VisualMatching
