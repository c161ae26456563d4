import Mathlib.Data.List.FinRange
import SpatialPlatform.Core.UuidText
import SpatialPlatform.Lib.Ranking

/-!
# Loop closure candidates

`GenerateLoopClosureCandidates` of
`core/loop_closure/loop_closure_candidate_gen.cpp`, with the frames and the
matcher of `feature_matcher.h` and the candidates of
`core/trajectory/loop_closure.h`. Every frame is compared with the older ones
that its window reaches, and the best of them become candidates.

* `generateLoopClosureCandidates_best` — which pairs become candidates, and in
  which order.
-/

namespace SpatialPlatform.Core.LoopClosureDetection

open SpatialPlatform.Core SpatialPlatform.Lib.Ranking

structure FeatureKeypoint (R : Type) where
  x : R
  y : R

structure MatchingFrameDescriptors (R : Type) where
  frameId : String
  timestampNs : Int64 := 0
  descriptorType : String := ""
  keypoints : List (FeatureKeypoint R) := []
  descriptors : List (List R) := []

/-- `LoopClosureFeatureMatcher`, as far as candidates need it. -/
structure LoopClosureFeatureMatcher (R : Type) where
  matchScore : MatchingFrameDescriptors R → MatchingFrameDescriptors R → R
  matcherId : String

structure LoopClosureDetectionOptions (R : Type) where
  minimumTemporalSeparationNs : Int64 := 0
  searchWindow : ℕ := 0
  minimumMatchScore : R
  maxCandidatesPerSource : ℕ := 0

structure LoopClosureCandidate (R : Type) where
  candidateId : String := ""
  trajectoryId : String := ""
  sourceFrameId : String
  targetFrameId : String
  featureMatchScore : R
  matcher : String
  createdAtNs : Int64 := 0

section

variable {R : Type} [LT R] [DecidableLT R]

/-- The comparison by which candidates are sorted. -/
def scoredHigher (a b : LoopClosureCandidate R) : Bool :=
  decide (b.featureMatchScore < a.featureMatchScore)

/-- The oldest frame that is compared with the one at `i`. -/
def lower (options : LoopClosureDetectionOptions R) (i : ℕ) : ℕ :=
  if options.searchWindow = 0 ∨ i ≤ options.searchWindow then 0 else i - options.searchWindow

/-- The candidate of a newer and an older frame, if they are far enough apart and alike enough. -/
def candidateOf (matcher : LoopClosureFeatureMatcher R) (options : LoopClosureDetectionOptions R)
    (trajectoryId : String) (newer older : MatchingFrameDescriptors R) :
    Option (LoopClosureCandidate R) :=
  if newer.timestampNs - older.timestampNs < options.minimumTemporalSeparationNs then none
  else
    let score := matcher.matchScore newer older
    if score < options.minimumMatchScore then none
    else some {
      trajectoryId := trajectoryId
      sourceFrameId := newer.frameId
      targetFrameId := older.frameId
      featureMatchScore := score
      matcher := matcher.matcherId }

/-- The candidates of one source frame, as far as they are kept. -/
def perSource (std : StdSort (LoopClosureCandidate R) scoredHigher)
    (matcher : LoopClosureFeatureMatcher R) (options : LoopClosureDetectionOptions R)
    (trajectoryId : String) (frames : List (MatchingFrameDescriptors R)) (i : Fin frames.length) :
    List (LoopClosureCandidate R) :=
  let targets := (List.finRange frames.length).filter fun j => lower options i ≤ j.val ∧ j < i
  let sorted := std.sort
    (targets.filterMap fun j => candidateOf matcher options trajectoryId frames[i] frames[j])
  let keep := if options.maxCandidatesPerSource = 0 then sorted.length
    else min sorted.length options.maxCandidatesPerSource
  sorted.take keep

/-- `GenerateLoopClosureCandidates`; `uuids` and `now` are what `GenerateUuid`
and `TimestampNsNow` return, call by call. -/
def generateLoopClosureCandidates (std : StdSort (LoopClosureCandidate R) scoredHigher)
    (uuids : ℕ → Uuid) (now : ℕ → Int64) (frames : List (MatchingFrameDescriptors R))
    (matcher : LoopClosureFeatureMatcher R) (options : LoopClosureDetectionOptions R)
    (trajectoryId : String) : List (LoopClosureCandidate R) :=
  (((List.finRange frames.length).drop 1).flatMap
      (perSource std matcher options trajectoryId frames)).mapIdx fun n c =>
    { c with candidateId := formatUuid (uuids n), createdAtNs := now n }

end

/-! ## What is chosen

The loop over the older frames collects a pool, which is sorted and cut. That
the candidates are the best of the eligible ones is then a fact about sorting
and taking. -/

section

variable {R : Type} [LinearOrder R] (matcher : LoopClosureFeatureMatcher R)
  (options : LoopClosureDetectionOptions R) (trajectoryId : String)
  (frames : List (MatchingFrameDescriptors R))

/-- The frame at `j` is older than the one at `i`, within the window, and the
two are far enough apart and alike enough. -/
structure Eligible (i j : Fin frames.length) : Prop where
  older : j < i
  window : options.searchWindow = 0 ∨ i.val ≤ j.val + options.searchWindow
  separated : ¬ frames[i].timestampNs - frames[j].timestampNs < options.minimumTemporalSeparationNs
  similar : options.minimumMatchScore ≤ matcher.matchScore frames[i] frames[j]

/-- The targets of a source frame, best first: eligible ones, no more than asked
for, and all of them if these are not more, else the best. -/
structure TopTargets (i : Fin frames.length) (targets : List (Fin frames.length)) : Prop where
  nodup : targets.Nodup
  eligible : ∀ j ∈ targets, Eligible matcher options frames i j
  descending : targets.Pairwise fun j k =>
    matcher.matchScore frames[i] frames[k] ≤ matcher.matchScore frames[i] frames[j]
  atMost : options.maxCandidatesPerSource = 0 ∨ targets.length ≤ options.maxCandidatesPerSource
  complete : options.maxCandidatesPerSource = 0 ∨ targets.length < options.maxCandidatesPerSource →
    ∀ j, Eligible matcher options frames i j → j ∈ targets
  best : ∀ j ∈ targets, ∀ k, Eligible matcher options frames i k → k ∉ targets →
    matcher.matchScore frames[i] frames[k] ≤ matcher.matchScore frames[i] frames[j]

/-- The finished candidate of a pair of frames. -/
def finished (uuid : Uuid) (now : Int64) (pair : Fin frames.length × Fin frames.length) :
    LoopClosureCandidate R where
  candidateId := formatUuid uuid
  trajectoryId := trajectoryId
  sourceFrameId := frames[pair.1].frameId
  targetFrameId := frames[pair.2].frameId
  featureMatchScore := matcher.matchScore frames[pair.1] frames[pair.2]
  matcher := matcher.matcherId
  createdAtNs := now

/-- The candidate of a pair, as it is sorted. -/
def bare (i j : Fin frames.length) : LoopClosureCandidate R where
  trajectoryId := trajectoryId
  sourceFrameId := frames[i].frameId
  targetFrameId := frames[j].frameId
  featureMatchScore := matcher.matchScore frames[i] frames[j]
  matcher := matcher.matcherId

/-- The eligible targets of a source frame, oldest first. -/
def pool (i : Fin frames.length) : List (Fin frames.length) :=
  ((List.finRange frames.length).filter fun j => lower options i ≤ j.val ∧ j < i).filter fun j =>
    (candidateOf matcher options trajectoryId frames[i] frames[j]).isSome

variable {matcher options trajectoryId frames}

theorem candidateOf_eq_some {i j : Fin frames.length} {c : LoopClosureCandidate R} :
    candidateOf matcher options trajectoryId frames[i] frames[j] = some c ↔
      (¬ frames[i].timestampNs - frames[j].timestampNs < options.minimumTemporalSeparationNs ∧
        options.minimumMatchScore ≤ matcher.matchScore frames[i] frames[j]) ∧
      bare matcher trajectoryId frames i j = c := by
  unfold candidateOf
  by_cases hclose :
      frames[i].timestampNs - frames[j].timestampNs < options.minimumTemporalSeparationNs
  · rw [if_pos hclose]
    exact ⟨fun h => (nomatch h), fun h => absurd hclose h.1.1⟩
  by_cases hweak : matcher.matchScore frames[i] frames[j] < options.minimumMatchScore
  · simp only [if_neg hclose, if_pos hweak]
    exact ⟨fun h => (nomatch h), fun h => absurd hweak (not_lt.mpr h.1.2)⟩
  · simp only [if_neg hclose, if_neg hweak, Option.some.injEq]
    exact ⟨fun h => ⟨⟨hclose, not_lt.mp hweak⟩, h⟩, fun h => h.2⟩

theorem mem_pool {i j : Fin frames.length} :
    j ∈ pool matcher options trajectoryId frames i ↔ Eligible matcher options frames i j := by
  have hwindow : (lower options i ≤ j.val ∧ j < i) ↔
      j < i ∧ (options.searchWindow = 0 ∨ i.val ≤ j.val + options.searchWindow) := by
    have hlt : j < i ↔ j.val < i.val := Iff.rfl
    unfold lower
    split_ifs <;> omega
  unfold pool
  rw [List.mem_filter, List.mem_filter, decide_eq_true_eq, hwindow, Option.isSome_iff_exists]
  simp only [candidateOf_eq_some, List.mem_finRange, true_and, exists_and_left, exists_eq', and_true]
  constructor
  · rintro ⟨⟨holder, hreach⟩, hapart, hscore⟩
    exact ⟨holder, hreach, hapart, hscore⟩
  · rintro ⟨holder, hreach, hapart, hscore⟩
    exact ⟨⟨holder, hreach⟩, hapart, hscore⟩

theorem nodup_pool (i : Fin frames.length) : (pool matcher options trajectoryId frames i).Nodup :=
  ((List.nodup_finRange _).filter _).filter _

/-- Before they are sorted, the candidates are those of the pool. -/
theorem filterMap_candidateOf (i : Fin frames.length) (l : List (Fin frames.length)) :
    l.filterMap (fun j => candidateOf matcher options trajectoryId frames[i] frames[j]) =
      (l.filter fun j => (candidateOf matcher options trajectoryId frames[i] frames[j]).isSome).map
        (bare matcher trajectoryId frames i) := by
  rw [← List.filterMap_eq_map, List.filterMap_filter]
  refine List.filterMap_congr ?_
  intro j _
  cases hj : candidateOf matcher options trajectoryId frames[i] frames[j] with
  | none => rfl
  | some c => exact congrArg some (candidateOf_eq_some.mp hj).2.symm

variable (matcher options trajectoryId) in
/-- The candidates of one source frame are those of its best targets. -/
theorem perSource_eq (std : StdSort (LoopClosureCandidate R) scoredHigher)
    (i : Fin frames.length) : ∃ targets, TopTargets matcher options frames i targets ∧
      perSource std matcher options trajectoryId frames i =
        targets.map (bare matcher trajectoryId frames i) := by
  have hperm := std.perm ((pool matcher options trajectoryId frames i).map
    (bare matcher trajectoryId frames i))
  have hsorted := std.sorted ((pool matcher options trajectoryId frames i).map
    (bare matcher trajectoryId frames i))
  -- std::sort permutes the candidates, so it permutes the targets that they come from
  obtain ⟨ranked, hranked, himages⟩ := exists_perm_map hperm
  have hdescending : ranked.Pairwise fun j k =>
      matcher.matchScore frames[i] frames[k] ≤ matcher.matchScore frames[i] frames[j] := by
    rw [himages, List.pairwise_map] at hsorted
    exact hsorted.imp fun h => not_lt.mp (of_decide_eq_false h)
  have hkept : perSource std matcher options trajectoryId frames i =
      (ranked.take (if options.maxCandidatesPerSource = 0 then ranked.length
        else min ranked.length options.maxCandidatesPerSource)).map
        (bare matcher trajectoryId frames i) := by
    unfold perSource
    simp only [filterMap_candidateOf]
    rw [← pool, himages, List.length_map, List.map_take]
  have hbest := fun k => best_take (nodup_pool i) hranked hdescending k
  have hmem : ∀ j, Eligible matcher options frames i j → j ∈ ranked := fun j hj =>
    hranked.mem_iff.mpr (mem_pool.mpr hj)
  -- k = 0 means no bound in the source
  split_ifs at hkept with hall
  · rw [List.take_length] at hkept
    have hb := hbest ranked.length
    rw [List.take_length] at hb
    exact ⟨ranked, {
      nodup := hb.nodup
      eligible := fun j hj => mem_pool.mp (hb.mem j hj)
      descending := hdescending
      atMost := Or.inl hall
      complete := fun _ => hmem
      best := fun j hj k hk => hb.best j hj k (mem_pool.mpr hk) }, hkept⟩
  · have hb := hbest (min ranked.length options.maxCandidatesPerSource)
    refine ⟨_, {
      nodup := hb.nodup
      eligible := fun j hj => mem_pool.mp (hb.mem j hj)
      descending := hb.descending
      atMost := Or.inr ?_
      complete := ?_
      best := fun j hj k hk => hb.best j hj k (mem_pool.mpr hk) }, hkept⟩
    · rw [List.length_take]
      omega
    · intro hfew j hj
      rw [List.length_take] at hfew
      have hwhole : min ranked.length options.maxCandidatesPerSource = ranked.length := by
        have := hfew.resolve_left hall
        omega
      rw [hwhole, List.take_length]
      exact hmem j hj

end

/-! ## All candidates

The best targets of one frame, and then of every frame in the order of the
frames. -/

/-- Times after the epoch are subtracted without overflow. -/
theorem separated_iff {newer older minimum : Int64} (hnewer : 0 ≤ newer.toInt)
    (holder : 0 ≤ older.toInt) :
    ¬ newer - older < minimum ↔ minimum.toInt ≤ newer.toInt - older.toInt := by
  have hnewer' := newer.toInt_lt
  have holder' := older.toInt_lt
  rw [Int64.lt_iff_toInt_lt, Int64.toInt_sub, not_lt, Int.bmod_eq_of_le (by omega) (by omega)]

/-- The candidates are those of the best targets of every source frame, frame by
frame, in descending order of the scores, and no pair of frames occurs twice.
Frames are separated as their times are. -/
theorem generateLoopClosureCandidates_best {R : Type} [LinearOrder R]
    (std : StdSort (LoopClosureCandidate R) scoredHigher) (uuids : ℕ → Uuid) (now : ℕ → Int64)
    (frames : List (MatchingFrameDescriptors R)) (matcher : LoopClosureFeatureMatcher R)
    (options : LoopClosureDetectionOptions R) (trajectoryId : String) :
    ∃ targets : Fin frames.length → List (Fin frames.length),
      (∀ i, TopTargets matcher options frames i (targets i)) ∧
      ((List.finRange frames.length).flatMap fun i => (targets i).map (Prod.mk i)).Nodup ∧
      generateLoopClosureCandidates std uuids now frames matcher options trajectoryId =
        ((List.finRange frames.length).flatMap fun i => (targets i).map (Prod.mk i)).mapIdx
          (fun n pair => finished matcher trajectoryId frames (uuids n) (now n) pair) ∧
      ∀ i j : Fin frames.length, 0 ≤ frames[i].timestampNs.toInt → 0 ≤ frames[j].timestampNs.toInt →
        (¬ frames[i].timestampNs - frames[j].timestampNs < options.minimumTemporalSeparationNs ↔
          options.minimumTemporalSeparationNs.toInt ≤
            frames[i].timestampNs.toInt - frames[j].timestampNs.toInt) := by
  choose targets htop hblock using fun i =>
    perSource_eq matcher options trajectoryId std i
  refine ⟨targets, htop, ?_, ?_, fun _ _ => separated_iff⟩
  · rw [List.nodup_flatMap]
    refine ⟨?_, ?_⟩
    · intro i _
      exact (htop i).nodup.map (Prod.mk_right_injective i)
    · refine (List.nodup_finRange _).imp ?_
      intro i j hne
      rw [Function.onFun, List.disjoint_left]
      intro pair hi hj
      obtain ⟨k, -, rfl⟩ := List.mem_map.mp hi
      obtain ⟨l, -, hpair⟩ := List.mem_map.mp hj
      exact hne (congrArg Prod.fst hpair).symm
  · -- the first frame has no older one
    have hfirst : ∀ i : Fin frames.length, i.val = 0 → targets i = [] := by
      intro i hi
      refine List.eq_nil_iff_forall_not_mem.mpr fun j hj => ?_
      have hlt : j.val < i.val := ((htop i).eligible j hj).older
      omega
    have hhead : ((List.finRange frames.length).take 1).flatMap
        (fun i => (targets i).map (Prod.mk i)) = [] := by
      refine List.flatMap_eq_nil_iff.mpr fun i hi => ?_
      obtain ⟨k, hk, rfl⟩ := List.mem_take_iff_getElem.mp hi
      rw [hfirst _ (by rw [List.getElem_finRange]; simp; omega)]
      rfl
    have hpairs : ((List.finRange frames.length).drop 1).flatMap
        (perSource std matcher options trajectoryId frames) =
        ((List.finRange frames.length).flatMap fun i => (targets i).map (Prod.mk i)).map
          fun pair => bare matcher trajectoryId frames pair.1 pair.2 := by
      conv_rhs => rw [← List.take_append_drop 1 (List.finRange frames.length), List.flatMap_append,
        hhead, List.nil_append, List.map_flatMap]
      refine List.flatMap_congr fun i _ => ?_
      rw [hblock i, List.map_map]
      rfl
    unfold generateLoopClosureCandidates
    rw [hpairs]
    refine List.ext_getElem (by simp) fun n _ _ => ?_
    rw [List.getElem_mapIdx, List.getElem_mapIdx, List.getElem_map]
    rfl

/-- Of four frames whose times are their scores, the last keeps the two best of the older ones. -/
example :
    ((generateLoopClosureCandidates (R := ℕ) (StdSort.insertion LoopClosureCandidate.featureMatchScore)
        (fun _ => Uuid.nil) (fun _ => 0)
        [{ frameId := "a", timestampNs := 0 }, { frameId := "b", timestampNs := 5 },
          { frameId := "c", timestampNs := 3 }, { frameId := "d", timestampNs := 9 }]
        ⟨fun _ older => older.timestampNs.toInt.toNat, "time"⟩
        { minimumTemporalSeparationNs := 3, minimumMatchScore := 0, maxCandidatesPerSource := 2 } "").map
      fun c => (c.sourceFrameId, c.targetFrameId)) =
      [("b", "a"), ("c", "a"), ("d", "b"), ("d", "c")] := by
  decide +kernel

end SpatialPlatform.Core.LoopClosureDetection
