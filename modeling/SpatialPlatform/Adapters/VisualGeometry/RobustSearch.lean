import SpatialPlatform.Adapters.VisualGeometry.EssentialVerifier
import SpatialPlatform.Lib.Consensus
import SpatialPlatform.Lib.Coordinates

/-!
# The robust search of the verifiers

`RobustFundamental` of `adapters/visual_geometry/fundamental_verifier.cpp` and
`RobustEssential` of `essential_verifier.cpp`, with the options of
`core/loop_closure/verification_options.h`: models are fitted to random samples
of eight correspondences, the one that most correspondences agree with is fitted
again to those, and they are counted once more. The two singular value
decompositions of Eigen and `std::hypot` are parameters.

* `robustSearch_consensus` — what a search returns, and when it returns nothing.
-/

namespace SpatialPlatform.Adapters.VisualGeometry

open SpatialPlatform.Core SpatialPlatform.Core.Geometry SpatialPlatform.Lib

/-! ## `std::mt19937` -/

/-- The last 624 words, the oldest one first. -/
structure Mt19937 where
  words : List UInt32
  length_words : words.length = 624

namespace Mt19937

/-- The words after one of them, by their numbers. -/
def seedWords (word : UInt32) : Nat → Nat → List UInt32
  | _, 0 => []
  | i, n + 1 =>
      let next := (1812433253 : UInt32) * (word ^^^ (word >>> 30)) + UInt32.ofNat i
      next :: seedWords next (i + 1) n

theorem length_seedWords (word : UInt32) (i n : Nat) : (seedWords word i n).length = n := by
  induction n generalizing word i with
  | zero => rfl
  | succ n ih => simp [seedWords, ih]

/-- `mt19937(seed)`. -/
def seed (word : UInt32) : Mt19937 := ⟨word :: seedWords word 1 623, by simp [length_seedWords]⟩

/-- The word after the last one. -/
def twist (g : Mt19937) : UInt32 :=
  let y := (g.words.getD 0 0 &&& 0x80000000) ||| (g.words.getD 1 0 &&& 0x7fffffff)
  g.words.getD 397 0 ^^^ (y >>> 1) ^^^ (if y &&& 1 = 1 then 0x9908b0df else 0)

/-- How a word is put out. -/
def temper (x : UInt32) : UInt32 :=
  let x := x ^^^ (x >>> 11)
  let x := x ^^^ ((x <<< 7) &&& 0x9d2c5680)
  let x := x ^^^ ((x <<< 15) &&& 0xefc60000)
  x ^^^ (x >>> 18)

/-- `rng()`. -/
def next (g : Mt19937) : Nat × Mt19937 :=
  ((temper g.twist).toNat, ⟨g.words.tail ++ [g.twist], by simp [g.length_words]⟩)

example : (seed 5489).next.1 = 3499211612 := by decide +kernel

end Mt19937

/-! ## Fitting a model

The two estimators share the equations and differ in what they demand of the
singular values. The library is a parameter. -/

/-- `JacobiSVD`, and `std::hypot`. -/
structure NumericLibrary (R : Type) where
  hypot : R → R → R
  /-- The last column of `matrixV`, for a matrix of nine columns by its rows. -/
  lastColumn : List (Vector R 9) → Vector R 9
  /-- `matrixU`, `singularValues` and `matrixV`. -/
  svd3 : Mat3 R → Mat3 R × Vector R 3 × Mat3 R

/-- `GeometricVerificationOptions`, without `ransac_confidence`, which nothing reads. -/
structure GeometricVerificationOptions (R : Type) where
  minCorrespondences : Nat := 20
  minInliers : Nat := 8
  minInlierRatio : R
  maxResidual : R
  maxRansacIterations : Nat := 256
  ransacInlierThreshold : R
  minimumTemporalSeparationNs : Int64 := 0
  verifyMinConfidence : R

/-- A correspondence: the coordinates that models are fitted to, and those in pixels. -/
structure PointPair (R : Type) where
  src : Vector R 3
  tgt : Vector R 3
  srcPx : Vector R 3
  tgtPx : Vector R 3

section

variable {R : Type} [DoubleArith R]

/-- The product of two matrices. -/
def mulMat3 (m n : Mat3 R) : Mat3 R := m.map fun row => mulVec3 (transpose3 n) row

/-- `Norm`. -/
structure Norm (R : Type) where
  t : Mat3 R
  degeneracyGuardNeeded : Bool := false

/-- `Matrix3d::Identity`. -/
def identity3 : Mat3 R :=
  .triple (.triple 1.0 0.0 0.0) (.triple 0.0 1.0 0.0) (.triple 0.0 0.0 1.0)

/-- `Normalize`. -/
def normalizePoints (lib : NumericLibrary R) (pts : List (Vector R 3)) : Norm R :=
  if pts.length < 2 then { t := identity3 }
  else
    let size : R := ((pts.length : Int) : R)
    let mean := div3 (pts.foldl add3 (.triple 0.0 0.0 0.0)) size
    let meanDist :=
      (pts.foldl (fun sum p => sum + lib.hypot (p 0 - mean 0) (p 1 - mean 1)) (0.0 : R)) / size
    if !Double.isFinite meanDist || decide (meanDist < (1e-12 : R)) then
      { t := identity3, degeneracyGuardNeeded := true }
    else
      let s := DoubleArith.sqrt (2.0 : R) / meanDist
      { t := .triple (.triple s 0.0 (-s * mean 0)) (.triple 0.0 s (-s * mean 1))
          (.triple 0.0 0.0 1.0) }

/-- The row of a correspondence. -/
def designRow (x xp : Vector R 3) : Vector R 9 :=
  ⟨#[xp 0 * x 0, xp 0 * x 1, xp 0, xp 1 * x 0, xp 1 * x 1, xp 1, x 0, x 1, 1.0], rfl⟩

/-- The nine numbers of a vector, row by row. -/
def fromRows (v : Vector R 9) : Mat3 R :=
  .triple (.triple (v.get 0) (v.get 1) (v.get 2)) (.triple (v.get 3) (v.get 4) (v.get 5))
    (.triple (v.get 6) (v.get 7) (v.get 8))

/-- The model of the normalized points, with the two normalizations. -/
def eightPoint (lib : NumericLibrary R) (src tgt : List (Vector R 3)) :
    Option (Mat3 R × Mat3 R × Mat3 R) :=
  let ns := normalizePoints lib src
  let nt := normalizePoints lib tgt
  if ns.degeneracyGuardNeeded || nt.degeneracyGuardNeeded then none
  else
    let rows := List.zipWith (fun x xp => designRow (mulVec3 ns.t x) (mulVec3 nt.t xp)) src tgt
    some (ns.t, fromRows (lib.lastColumn rows), nt.t)

/-- The matrix with these values on its diagonal. -/
def diagonal3 (s : Vector R 3) : Mat3 R :=
  .triple (.triple (s 0) 0.0 0.0) (.triple 0.0 (s 1) 0.0) (.triple 0.0 0.0 (s 2))

/-- `EstimateFundamental`. -/
def estimateFundamental (lib : NumericLibrary R) (src tgt : List (Vector R 3)) : Option (Mat3 R) :=
  (eightPoint lib src tgt).bind fun fit =>
    let svd := lib.svd3 fit.2.1
    -- rank 2
    let s : Vector R 3 := .triple (svd.2.1 0) (svd.2.1 1) 0.0
    let fn := mulMat3 (mulMat3 svd.1 (diagonal3 s)) (transpose3 svd.2.2)
    let f := mulMat3 (mulMat3 (transpose3 fit.2.2) fn) fit.1
    let last := f 2 2
    if !f.toList.all allFinite then none
    else if (if last < (0.0 : R) then -last else last) < (1e-12 : R) then none
    else some (f.map fun row => div3 row last)

/-- `Matrix3d::norm`. -/
def norm9 (m : Mat3 R) : R :=
  DoubleArith.sqrt (dot3 (m 0) (m 0) + dot3 (m 1) (m 1) + dot3 (m 2) (m 2))

/-- `EstimateEssential`. -/
def estimateEssential (lib : NumericLibrary R) (src tgt : List (Vector R 3)) : Option (Mat3 R) :=
  (eightPoint lib src tgt).bind fun fit =>
    let e := mulMat3 (mulMat3 (transpose3 fit.2.2) fit.2.1) fit.1
    if !e.toList.all allFinite then none
    else if norm9 e < (1e-12 : R) then none
    else some e

/-! ## Judging a model -/

/-- `SampsonSq`; infinity is `none`. -/
def sampsonSq (x xp : Vector R 3) (f : Mat3 R) : Option R :=
  let fx := mulVec3 f x
  let ftxp := mulVec3 (transpose3 f) xp
  let denom := fx 0 * fx 0 + fx 1 * fx 1 + ftxp 0 * ftxp 0 + ftxp 1 * ftxp 1
  if denom < (1e-12 : R) then none
  else
    let e := dot3 xp fx
    some (e * e / denom)

/-- The distance of an inlier. -/
def inlierDistance (threshold : R) (f : Mat3 R) (pair : PointPair R) : Option R :=
  (sampsonSq pair.srcPx pair.tgtPx f).filter fun d =>
    decide (d ≤ threshold * threshold) && Double.isFinite d

/-- A model with the correspondences that agree with it. -/
structure ScoredModel (R : Type) where
  model : Mat3 R
  inlier : List Bool
  inlierCount : Nat
  residualSum : R

/-- The mean distance. -/
def ScoredModel.meanResidual (s : ScoredModel R) : R := s.residualSum / ((s.inlierCount : Int) : R)

/-! ## The search

A search is a loop over samples from a seeded generator. The two kinds are one
definition with a record of what they differ in. -/

/-- What the two searches differ in: their seeds, the fit, and the matrix that relates pixels. -/
structure RobustEstimator (R : Type) where
  seed : UInt32
  estimate : List (Vector R 3) → List (Vector R 3) → Option (Mat3 R)
  inPixels : Mat3 R → Mat3 R

namespace RobustEstimator

variable (est : RobustEstimator R) (pairs : List (PointPair R)) (options : GeometricVerificationOptions R)

/-- The correspondence agrees with a model. -/
def agrees (m : Mat3 R) (pair : PointPair R) : Bool :=
  (inlierDistance options.ransacInlierThreshold (est.inPixels m) pair).isSome

/-- The score of a model on all correspondences. -/
def score (m : Mat3 R) : ScoredModel R where
  model := m
  inlier := pairs.map (est.agrees options m)
  inlierCount := pairs.countP (est.agrees options m)
  residualSum := pairs.foldl (fun sum pair =>
    (inlierDistance options.ransacInlierThreshold (est.inPixels m) pair).elim sum
      fun d => sum + DoubleArith.sqrt d) (0.0 : R)

/-- The model of some correspondences. -/
def fit (chosen : List (PointPair R)) : Option (Mat3 R) :=
  est.estimate (chosen.map PointPair.src) (chosen.map PointPair.tgt)

/-- The model of a sample. -/
def sampleModel (chosen : List Nat) : Option (Mat3 R) := est.fit (chosen.filterMap (pairs[·]?))

/-- Whether a model replaces the best one so far. -/
def replaces (best : Option (ScoredModel R)) (s : ScoredModel R) : Bool :=
  let bestCount := best.elim 0 ScoredModel.inlierCount
  decide (bestCount < s.inlierCount) ||
    (decide (s.inlierCount = bestCount) && decide (0 < s.inlierCount) && decide (0 < bestCount) &&
      best.any fun b => decide (s.meanResidual < b.meanResidual))

/-- What an iteration leaves to the next one. -/
structure SearchState (R : Type) where
  rng : Mt19937
  best : Option (ScoredModel R) := none

/-- One iteration. -/
def searchOnce (state : SearchState R) : SearchState R :=
  let drawn := drawDistinct Mt19937.next pairs.length 8 (pairs.length * 4) state.rng []
  if drawn.1.length < 8 then { state with rng := drawn.2 }
  else
    match est.sampleModel pairs drawn.1 with
    | none => { state with rng := drawn.2 }
    | some m =>
        let s := est.score pairs options m
        { rng := drawn.2, best := if replaces state.best s then some s else state.best }

/-- The best model of all iterations. -/
def bestModel : Option (ScoredModel R) :=
  ((est.searchOnce pairs options)^[max 1 options.maxRansacIterations] { rng := .seed est.seed }).best

/-- The fit to the inliers, with its own inliers. -/
def refine (best : ScoredModel R) : Option (ScoredModel R) :=
  if best.inlierCount < 8 || best.inlier.isEmpty then none
  else
    match est.fit (((pairs.zip best.inlier).filter (·.2)).map (·.1)) with
    | none => none
    | some refined =>
        let s := est.score pairs options refined
        if s.inlierCount < 8 then none else some s

/-- The search, for both kinds of models. -/
def robustSearch : Option (ScoredModel R) :=
  if pairs.length < 8 then none
  else (est.bestModel pairs options).bind (est.refine pairs options)

end RobustEstimator

/-- `RobustFundamental`. -/
def robustFundamental (lib : NumericLibrary R) (pairs : List (PointPair R))
    (options : GeometricVerificationOptions R) : Option (ScoredModel R) :=
  RobustEstimator.robustSearch ⟨0x5EED7B12, estimateFundamental lib, fun f => f⟩ pairs options

/-- `RobustEssential`. -/
def robustEssential (lib : NumericLibrary R) (ksInv ktInvT : Mat3 R) (pairs : List (PointPair R))
    (options : GeometricVerificationOptions R) : Option (ScoredModel R) :=
  RobustEstimator.robustSearch
    ⟨0xE55E971A, estimateEssential lib, fun e => mulMat3 (mulMat3 ktInvT e) ksInv⟩ pairs options

/-! ## What a search returns

The loop over the samples keeps the best model. It is first written as a fold
over the models that were fitted, by induction over the number of iterations;
what is kept is then the maximum of `Beats`, by induction over the models. The
refinement fits once more, to the inliers of the best one. -/

namespace RobustEstimator

variable (est : RobustEstimator R) (pairs : List (PointPair R)) (options : GeometricVerificationOptions R)

/-- The samples of eight that the iterations draw. -/
def samples (n : Nat) : Nat → Mt19937 → List (List Nat)
  | 0, _ => []
  | k + 1, rng =>
      let drawn := drawDistinct Mt19937.next n 8 (n * 4) rng []
      if drawn.1.length < 8 then samples n k drawn.2 else drawn.1 :: samples n k drawn.2

/-- The models that are fitted to the samples. -/
def models : List (Mat3 R) :=
  (samples pairs.length (max 1 options.maxRansacIterations) (.seed est.seed)).filterMap
    (est.sampleModel pairs)

/-- More correspondences agree with a model, or as many at a smaller mean distance. -/
def Beats (a b : ScoredModel R) : Prop :=
  b.inlierCount < a.inlierCount ∨ (a.inlierCount = b.inlierCount ∧ a.meanResidual < b.meanResidual)

instance instDecidableRelBeats : DecidableRel (Beats (R := R)) := fun a b =>
  inferInstanceAs (Decidable (b.inlierCount < a.inlierCount ∨
    (a.inlierCount = b.inlierCount ∧ a.meanResidual < b.meanResidual)))

instance instIsStrictOrderBeats [IsStrictOrder R (· < ·)] :
    IsStrictOrder (ScoredModel R) Beats where
  irrefl a h := by
    rcases h with h | ⟨-, h⟩
    · exact Nat.lt_irrefl _ h
    · exact irrefl (r := (· < ·)) _ h
  trans a b c hab hbc := by
    rcases hab with hab | ⟨hab, hab'⟩
    · rcases hbc with hbc | ⟨hbc, -⟩
      · exact .inl (hbc.trans hab)
      · exact .inl (hbc ▸ hab)
    · rcases hbc with hbc | ⟨hbc, hbc'⟩
      · exact .inl (hab ▸ hbc)
      · exact .inr ⟨hab.trans hbc, IsTrans.trans _ _ _ hab' hbc'⟩

theorem mem_samples {n : Nat} (hn : 0 < n) {k : Nat} {rng : Mt19937} {chosen : List Nat}
    (h : chosen ∈ samples n k rng) : IsSample n chosen ∧ chosen.length = 8 := by
  induction k generalizing rng with
  | zero => cases h
  | succ k ih =>
      obtain ⟨hsample, hlen⟩ :=
        drawDistinct_spec Mt19937.next hn (n * 4) (s := rng) .nil (Nat.zero_le 8)
      simp only [samples] at h
      split at h
      · exact ih h
      · next hmany =>
          rcases List.mem_cons.mp h with rfl | h
          · exact ⟨hsample, hlen.antisymm (Nat.le_of_not_lt hmany)⟩
          · exact ih h

/-- The iterations go through the models of their samples. -/
theorem best_iterate (k : Nat) (state : SearchState R) :
    ((est.searchOnce pairs options)^[k] state).best =
      (((samples pairs.length k state.rng).filterMap (est.sampleModel pairs)).map
        (est.score pairs options)).foldl
          (fun best s => if replaces best s then some s else best) state.best := by
  induction k generalizing state with
  | zero => rfl
  | succ k ih =>
      rw [Function.iterate_succ_apply, ih]
      simp only [searchOnce, samples]
      split
      · rfl
      · cases hfit : est.sampleModel pairs
          (drawDistinct Mt19937.next pairs.length 8 (pairs.length * 4) state.rng []).1 with
        | none => rw [List.filterMap_cons_none hfit]
        | some m => rw [List.filterMap_cons_some hfit, List.map_cons, List.foldl_cons]

theorem replaces_some {b s : ScoredModel R} (hb : 0 < b.inlierCount) :
    replaces (some b) s = true ↔ Beats s b := by
  show (decide (b.inlierCount < s.inlierCount) || (decide (s.inlierCount = b.inlierCount) &&
    decide (0 < s.inlierCount) && decide (0 < b.inlierCount) &&
      decide (s.meanResidual < b.meanResidual))) = true ↔ _
  simp only [Bool.or_eq_true, Bool.and_eq_true, decide_eq_true_eq, Beats]
  constructor
  · rintro (h | ⟨⟨⟨heq, -⟩, -⟩, hlt⟩)
    · exact .inl h
    · exact .inr ⟨heq, hlt⟩
  · rintro (h | ⟨heq, hlt⟩)
    · exact .inl h
    · exact .inr ⟨⟨⟨heq, heq ▸ hb⟩, hb⟩, hlt⟩

/-- Models that no correspondence agrees with are passed over; of the others the best one is kept. -/
theorem foldl_replaces (l : List (ScoredModel R)) {best : Option (ScoredModel R)}
    (hbest : ∀ b, best = some b → 0 < b.inlierCount) :
    l.foldl (fun best s => if replaces best s then some s else best) best =
      (l.filter fun s => decide (0 < s.inlierCount)).foldl (keepBetter Beats) best := by
  induction l generalizing best with
  | nil => rfl
  | cons s l ih =>
      rw [List.foldl_cons]
      by_cases hpos : 0 < s.inlierCount
      · have hstep : (if replaces best s then some s else best) = keepBetter Beats best s := by
          cases best with
          | none => simp [replaces, keepBetter, hpos]
          | some b => exact if_congr (replaces_some (hbest b rfl)) rfl rfl
        rw [List.filter_cons_of_pos (by simpa using hpos), List.foldl_cons, ← hstep]
        refine ih ?_
        intro b hb
        split at hb
        · cases hb
          exact hpos
        · exact hbest b hb
      · have hstay : replaces best s = false := by
          have hzero : s.inlierCount = 0 := Nat.eq_zero_of_not_pos hpos
          simp [replaces, hzero]
        rw [List.filter_cons_of_neg (by simpa using hpos), hstay]
        exact ih hbest

theorem bestModel_eq_foldl : est.bestModel pairs options =
    (((est.models pairs options).map (est.score pairs options)).filter fun s =>
      decide (0 < s.inlierCount)).foldl (keepBetter Beats) none := by
  rw [bestModel, best_iterate, foldl_replaces _ (fun b hb => by cases hb)]
  rfl

/-- The best model of a search: of the models that were fitted to a sample, none beats it. -/
structure IsConsensus (m : Mat3 R) : Prop where
  fitted : ∃ chosen, IsSample pairs.length chosen ∧ chosen.length = 8 ∧
    est.fit (chosen.filterMap (pairs[·]?)) = some m
  unbeaten : ∀ m' ∈ est.models pairs options,
    ¬ Beats (est.score pairs options m') (est.score pairs options m)

variable {pairs options}

omit [DoubleArith R] in
theorem mem_models (hpairs : 0 < pairs.length) {m : Mat3 R} (h : m ∈ est.models pairs options) :
    ∃ chosen, IsSample pairs.length chosen ∧ chosen.length = 8 ∧
      est.fit (chosen.filterMap (pairs[·]?)) = some m := by
  obtain ⟨chosen, hmem, hfit⟩ := List.mem_filterMap.mp h
  obtain ⟨hsample, hlen⟩ := mem_samples hpairs hmem
  exact ⟨chosen, hsample, hlen, hfit⟩

/-- The best model, and that there is none only if no model has any inlier. -/
theorem bestModel_spec [IsStrictOrder R (· < ·)] (hpairs : 0 < pairs.length) :
    (est.bestModel pairs options = none → ∀ m ∈ est.models pairs options,
      pairs.countP (est.agrees options m) = 0) ∧
    ∀ b, est.bestModel pairs options = some b →
      b = est.score pairs options b.model ∧ est.IsConsensus pairs options b.model := by
  obtain ⟨hnone, hsome⟩ := @foldl_keepBetter _ Beats _ _
    (((est.models pairs options).map (est.score pairs options)).filter fun s =>
      decide (0 < s.inlierCount))
  rw [← bestModel_eq_foldl] at hnone hsome
  refine ⟨fun h m hm => ?_, fun b hb => ?_⟩
  · have hno := List.filter_eq_nil_iff.mp (hnone.mp h) _ (List.mem_map_of_mem hm)
    simpa [score] using hno
  · obtain ⟨hmem, hbest⟩ := hsome b hb
    obtain ⟨hscored, hpos⟩ := List.mem_filter.mp hmem
    obtain ⟨m, hm, rfl⟩ := List.mem_map.mp hscored
    refine ⟨rfl, est.mem_models hpairs hm, fun m' hm' hbeats => ?_⟩
    -- what beats the best model has inliers, too
    have hpos' : 0 < (est.score pairs options m').inlierCount := by
      rcases hbeats with hlt | ⟨heq, -⟩
      · exact Nat.zero_lt_of_lt hlt
      · exact heq ▸ of_decide_eq_true hpos
    exact hbest _ (List.mem_filter.mpr ⟨List.mem_map_of_mem hm', decide_eq_true hpos'⟩) hbeats

theorem zip_filter_map {α : Type} (l : List α) (p : α → Bool) :
    ((l.zip (l.map p)).filter (·.2)).map (·.1) = l.filter p := by
  induction l with
  | nil => rfl
  | cons a l ih =>
      rw [List.map_cons, List.zip_cons_cons]
      cases h : p a
      · rw [List.filter_cons_of_neg (by simp), List.filter_cons_of_neg (by simp [h]), ih]
      · rw [List.filter_cons_of_pos rfl, List.filter_cons_of_pos h, List.map_cons, ih]

/-- The fit to the inliers of a model. -/
theorem refine_score (hpairs : 0 < pairs.length) (m : Mat3 R) :
    est.refine pairs options (est.score pairs options m) =
      if pairs.countP (est.agrees options m) < 8 then none
      else (est.fit (pairs.filter (est.agrees options m))).bind fun refined =>
        if pairs.countP (est.agrees options refined) < 8 then none
        else some (est.score pairs options refined) := by
  have hne : (est.score pairs options m).inlier.isEmpty = false := by
    rw [List.isEmpty_eq_false_iff, ← List.length_pos_iff, score, List.length_map]
    exact hpairs
  unfold refine
  rw [hne, Bool.or_false, score, zip_filter_map]
  by_cases hfew : pairs.countP (est.agrees options m) < 8
  · rw [if_pos (by simpa using hfew), if_pos hfew]
  · rw [if_neg (by simpa using hfew), if_neg hfew]
    cases est.fit (pairs.filter (est.agrees options m)) <;> rfl

/-- When that succeeds. -/
theorem refine_score_eq_some (hpairs : 0 < pairs.length) {m : Mat3 R} {s : ScoredModel R}
    (h : est.refine pairs options (est.score pairs options m) = some s) :
    8 ≤ pairs.countP (est.agrees options m) ∧
      est.fit (pairs.filter (est.agrees options m)) = some s.model ∧
        s = est.score pairs options s.model ∧ 8 ≤ s.inlierCount := by
  rw [est.refine_score hpairs] at h
  split at h
  · cases h
  · next hmany =>
      obtain ⟨refined, hfit, h⟩ := Option.bind_eq_some_iff.mp h
      split at h
      · cases h
      · next hcount =>
          cases h
          exact ⟨Nat.le_of_not_lt hmany, hfit, rfl, Nat.le_of_not_lt hcount⟩

/-- When that fails. -/
theorem refine_score_eq_none (hpairs : 0 < pairs.length) {m : Mat3 R}
    (h : est.refine pairs options (est.score pairs options m) = none) :
    pairs.countP (est.agrees options m) < 8 ∨
      ∀ refined, est.fit (pairs.filter (est.agrees options m)) = some refined →
        pairs.countP (est.agrees options refined) < 8 := by
  rw [est.refine_score hpairs] at h
  split at h
  · next hfew => exact .inl hfew
  · refine .inr fun refined hrefined => ?_
    rw [hrefined, Option.bind_some] at h
    by_contra hcount
    rw [if_neg hcount] at h
    cases h

/-- What is returned has its own score, with eight inliers. -/
theorem robustSearch_eq_some {s : ScoredModel R} (h : est.robustSearch pairs options = some s) :
    8 ≤ s.inlierCount ∧ s = est.score pairs options s.model := by
  unfold robustSearch at h
  split at h
  · cases h
  · obtain ⟨b, -, hrefine⟩ := Option.bind_eq_some_iff.mp h
    unfold refine at hrefine
    split at hrefine
    · cases hrefine
    · split at hrefine
      · cases hrefine
      · simp only at hrefine
        split at hrefine
        · cases hrefine
        · next hcount =>
            cases hrefine
            exact ⟨Nat.le_of_not_lt hcount, rfl⟩

/-- And its model was fitted to at least eight correspondences. -/
theorem exists_refit [IsStrictOrder R (· < ·)] {s : ScoredModel R}
    (h : est.robustSearch pairs options = some s) :
    ∃ m, est.IsConsensus pairs options m ∧ 8 ≤ pairs.countP (est.agrees options m) ∧
      est.fit (pairs.filter (est.agrees options m)) = some s.model := by
  unfold robustSearch at h
  split at h
  · cases h
  · next hmany =>
      have hpairs : 0 < pairs.length := Nat.lt_of_lt_of_le (by decide) (Nat.le_of_not_lt hmany)
      obtain ⟨b, hbest, hrefine⟩ := Option.bind_eq_some_iff.mp h
      obtain ⟨hb, hconsensus⟩ := (est.bestModel_spec hpairs).2 b hbest
      rw [hb] at hrefine
      obtain ⟨hcount, hfit, -, -⟩ := est.refine_score_eq_some hpairs hrefine
      exact ⟨b.model, hconsensus, hcount, hfit⟩

/-- **The consensus of a search.** What a search returns is a model with exactly
the correspondences within the threshold as its inliers, at least eight of them.
It was fitted to the inliers of a model that was itself fitted to eight
different correspondences, and that no other model of the search beats. And a
search returns nothing only if there are fewer than eight correspondences, if no
model of a sample has eight inliers, or if the fit to the inliers of the best
one fails or has fewer than eight. -/
theorem robustSearch_consensus [IsStrictOrder R (· < ·)] (est : RobustEstimator R)
    (pairs : List (PointPair R)) (options : GeometricVerificationOptions R) :
    (∀ s, est.robustSearch pairs options = some s →
      8 ≤ s.inlierCount ∧ s = est.score pairs options s.model ∧
      ∃ m, est.IsConsensus pairs options m ∧ 8 ≤ pairs.countP (est.agrees options m) ∧
        est.fit (pairs.filter (est.agrees options m)) = some s.model) ∧
    (est.robustSearch pairs options = none →
      pairs.length < 8 ∨
      (∀ m ∈ est.models pairs options, pairs.countP (est.agrees options m) < 8) ∨
      ∃ m, est.IsConsensus pairs options m ∧
        ∀ refined, est.fit (pairs.filter (est.agrees options m)) = some refined →
          pairs.countP (est.agrees options refined) < 8) := by
  refine ⟨fun s hs => ?_, fun hs => ?_⟩
  · obtain ⟨height, hscore⟩ := est.robustSearch_eq_some hs
    exact ⟨height, hscore, est.exists_refit hs⟩
  · unfold robustSearch at hs
    split at hs
    · next hfew => exact .inl hfew
    · next hmany =>
        refine .inr ?_
        have hpairs : 0 < pairs.length := Nat.lt_of_lt_of_le (by decide) (Nat.le_of_not_lt hmany)
        obtain ⟨hnone, hsome⟩ := @bestModel_spec _ _ est _ options _ hpairs
        -- no sample gave a model with eight inliers, or the best one was refined and lost them
        cases hbest : est.bestModel pairs options with
        | none =>
            refine .inl fun m hm => ?_
            rw [hnone hbest m hm]
            decide
        | some b =>
            obtain ⟨hb, hconsensus⟩ := hsome b hbest
            rw [hbest, Option.bind_some, hb] at hs
            rcases est.refine_score_eq_none hpairs hs with hfew | hrefined
            · refine .inl fun m hm => Nat.lt_of_not_le fun hmore => ?_
              exact hconsensus.unbeaten m hm (.inl (Nat.lt_of_lt_of_le hfew hmore))
            · exact .inr ⟨b.model, hconsensus, hrefined⟩

/-! Eight correspondences of two cameras side by side. -/

private def sidewaysLibrary : NumericLibrary Rat where
  hypot x y := Rat.sqrt (x * x + y * y)
  lastColumn _ := ⟨#[0, 0, 0, 0, 0, -1, 0, 1, 0], rfl⟩
  svd3 m := (identity3, .triple 1 1 0, m)

private def sidewaysEstimator : RobustEstimator Rat :=
  ⟨0xE55E971A, estimateEssential sidewaysLibrary, fun e => mulMat3 (mulMat3 identity3 e) identity3⟩

private def sideways (x y : Rat) : PointPair Rat :=
  ⟨.triple x y 1, .triple (-x) y 1, .triple x y 1, .triple (-x) y 1⟩

private def sidewaysPairs : List (PointPair Rat) :=
  [sideways 3 4, sideways (-3) 4, sideways 3 (-4), sideways (-3) (-4), sideways 4 3, sideways (-4) 3,
    sideways 4 (-3), sideways (-4) (-3)]

private def sidewaysOptions : GeometricVerificationOptions Rat where
  minInlierRatio := 0.7
  maxResidual := 4.0
  maxRansacIterations := 1
  ransacInlierThreshold := 1.0
  verifyMinConfidence := 0.6

/-- The search finds a model that all of them agree with, exactly. -/
theorem robustSearch_consensus_sideways : ∃ s,
    robustEssential sidewaysLibrary identity3 identity3 sidewaysPairs sidewaysOptions = some s ∧
      s.inlier = List.replicate 8 true ∧ s.residualSum = 0 ∧
      ∃ m, sidewaysEstimator.IsConsensus sidewaysPairs sidewaysOptions m := by
  have hsome : (sidewaysEstimator.robustSearch sidewaysPairs sidewaysOptions).any (fun s =>
      s.inlier = List.replicate 8 true ∧ s.residualSum = 0) = true := by decide +kernel
  obtain ⟨s, hs, hexact⟩ := (Option.any_eq_true _ _).mp hsome
  obtain ⟨-, -, m, hm, -⟩ := (robustSearch_consensus sidewaysEstimator sidewaysPairs
    sidewaysOptions).1 s hs
  exact ⟨s, hs, (of_decide_eq_true hexact).1, (of_decide_eq_true hexact).2, m, hm⟩

end RobustEstimator

end

end SpatialPlatform.Adapters.VisualGeometry
