import SpatialPlatform.Engine.Pipeline.SparseCorrection.Cheirality
import SpatialPlatform.Lib.Fallible
import SpatialPlatform.Lib.Ranking

/-!
# What becomes of every point

`Retriangulate` keeps books on the points of its source: each is preserved,
replaced or rejected. What becomes of a point is its own matter, but for the
threshold, which all residuals take part in. Their order does not matter to it,
so the order of the points only says where the result has them and which of the
fresh ids they get.

* `retriangulateFrom_accounts` — the books of a run, and of the run on any
  permuted source.
-/

namespace SpatialPlatform.Engine

open SpatialPlatform.Core SpatialPlatform.Core.Geometry SpatialPlatform.Lib

/-- The order of the `double`s: total on finite ones, and kept by rounded sums
of finite ones and by rounded products with the two factors of the threshold. -/
class OrderedArith (R : Type) [DoubleArith R] : Prop where
  le_total {a b : R} : Double.isFinite a = true → Double.isFinite b = true → a ≤ b ∨ b ≤ a
  le_trans {a b c : R} : a ≤ b → b ≤ c → a ≤ c
  lt_of_lt_of_le {a b c : R} : a < b → b ≤ c → a < c
  add_le_add {a b c d : R} : Double.isFinite a = true → Double.isFinite b = true →
    Double.isFinite c = true → Double.isFinite d = true → a ≤ b → c ≤ d → a + c ≤ b + d
  half_le_half {a b : R} : a ≤ b → (0.5 : R) * a ≤ 0.5 * b
  triple_le_triple {a b : R} : a ≤ b → (3.0 : R) * a ≤ 3.0 * b

instance : OrderedArith Rat where
  le_total _ _ := Rat.le_total
  le_trans := Rat.le_trans
  lt_of_lt_of_le := lt_of_lt_of_le
  add_le_add _ _ _ _ h h' := add_le_add h h'
  half_le_half h := Rat.mul_le_mul_of_nonneg_left h (by norm_num)
  triple_le_triple h := Rat.mul_le_mul_of_nonneg_left h (by norm_num)

variable {M R : Type} [DoubleArith R]

/-! ## The threshold and the order of the residuals

The median is taken from a sorted list, so it depends on the order of the
residuals only where the comparison cannot tell two numbers apart; and such
numbers pass the same thresholds. -/

section

variable [OrderedArith R]

/-- Two numbers that no comparison tells apart, such as the two zeros. -/
def Tied (a b : R) : Prop := a ≤ b ∧ b ≤ a

/-- The same place of the sorted residuals, in two orders. -/
theorem tied_getD_sorted {residuals residuals' : List R}
    (hfinite : ∀ r ∈ residuals, Double.isFinite r = true) (hperm : residuals'.Perm residuals) {i : ℕ}
    (hi : i < residuals.length) :
    let nth (l : List R) := (l.insertionSort (· ≤ ·)).getD i 0.0
    Tied (nth residuals') (nth residuals) ∧ Double.isFinite (nth residuals') = true ∧
      Double.isFinite (nth residuals) = true := by
  intro nth
  have hties := Ranking.forall₂_insertionSort (r := (· ≤ ·))
    (fun a b ha hb => OrderedArith.le_total ha hb) (fun a b c => OrderedArith.le_trans) hfinite hperm
  have hnth : ∀ l : List R, l.Perm residuals → Double.isFinite (nth l) = true := by
    intro l hl
    have hlength : i < (l.insertionSort (· ≤ ·)).length := by
      rw [List.length_insertionSort, hl.length_eq]
      exact hi
    have hmem := List.getElem_mem hlength
    rw [List.mem_insertionSort, hl.mem_iff] at hmem
    rw [show nth l = (l.insertionSort (· ≤ ·))[i] from List.getD_eq_getElem _ _ hlength]
    exact hfinite _ hmem
  refine ⟨?_, hnth _ hperm, hnth _ (List.Perm.refl _)⟩
  have hplace := hties.get (i := i) (by rwa [List.length_insertionSort, hperm.length_eq])
    (by rwa [List.length_insertionSort])
  simp only [List.get_eq_getElem] at hplace
  rw [← List.getD_eq_getElem _ 0.0, ← List.getD_eq_getElem _ 0.0] at hplace
  exact hplace

/-- What the floor makes of tied medians. -/
theorem tied_floored {median' median : R} (h : Tied median' median) :
    let floored (m : R) := if (2.0 : R) < 3.0 * m then 3.0 * m else 2.0
    floored median' = floored median ∨ Tied (floored median') (floored median) := by
  intro floored
  have hle := OrderedArith.triple_le_triple h.1
  have hge := OrderedArith.triple_le_triple h.2
  simp only [floored]
  split_ifs with habove' habove habove
  · exact Or.inr ⟨hle, hge⟩
  · exact absurd (OrderedArith.lt_of_lt_of_le habove' hle) habove
  · exact absurd (OrderedArith.lt_of_lt_of_le habove hge) habove'
  · exact Or.inl rfl

/-- The threshold is the same up to ties, whatever the order of the residuals. -/
theorem tied_globalThreshold {residuals residuals' : List R}
    (hfinite : ∀ r ∈ residuals, Double.isFinite r = true) (hperm : residuals'.Perm residuals) :
    globalThreshold residuals' = globalThreshold residuals ∨
      Tied (globalThreshold residuals') (globalThreshold residuals) := by
  unfold globalThreshold
  by_cases hnil : residuals = []
  · subst hnil
    rw [List.perm_nil.mp hperm]
    exact Or.inl rfl
  have hpos := List.length_pos_iff.mpr hnil
  have hnil' : residuals' ≠ [] := fun h => hnil (List.nil_perm.mp (h ▸ hperm))
  have hlower := tied_getD_sorted hfinite hperm (i := residuals.length / 2 - 1) (by omega)
  have hupper := tied_getD_sorted hfinite hperm (i := residuals.length / 2) (by omega)
  simp only [List.isEmpty_iff, hnil, hnil', if_false, List.length_insertionSort, hperm.length_eq]
  apply tied_floored
  split_ifs
  -- an even number of residuals has two in the middle
  · obtain ⟨⟨hle, hge⟩, hfinite₁, hfinite₂⟩ := hlower
    obtain ⟨⟨hle', hge'⟩, hfinite₃, hfinite₄⟩ := hupper
    exact ⟨OrderedArith.half_le_half
        (OrderedArith.add_le_add hfinite₁ hfinite₂ hfinite₃ hfinite₄ hle hle'),
      OrderedArith.half_le_half
        (OrderedArith.add_le_add hfinite₂ hfinite₁ hfinite₄ hfinite₃ hge hge')⟩
  · exact hupper.1

/-- A threshold in another order judges in the same way. -/
theorem judge_globalThreshold_perm {residuals residuals' : List R}
    (hfinite : ∀ r ∈ residuals, Double.isFinite r = true) (hperm : residuals'.Perm residuals)
    (candidate : PointCandidate R) :
    judge (globalThreshold residuals') candidate = judge (globalThreshold residuals) candidate := by
  rcases tied_globalThreshold hfinite hperm with hsame | ⟨hle, hge⟩
  · rw [hsame]
  · have hiff : candidate.meanResidualPx ≤ globalThreshold residuals' ↔
        candidate.meanResidualPx ≤ globalThreshold residuals :=
      ⟨fun h => OrderedArith.le_trans h hle, fun h => OrderedArith.le_trans h hge⟩
    simp only [judge, hiff]

end

/-! ## Every point on its own

A candidate is measured against the point of its own id and against no other. So
the whole second pass is that of documents with one point each. -/

section

variable (models : CameraModels M R) (views : List (CameraView M R))
  (keypoints : List (TriangulationObservation R)) (options : RetriangulationOptions R)
  (v2 : Reconstruction R)

/-- The candidate of a point with its residual, as the only point of its document. -/
def measurePoint (point : ReconPoint3D R) : Except ProjectError (PointCandidate R × Option R) := do
  let candidate ← candidateOf models views keypoints options point
  measureResidual models views keypoints { v2 with points3D := [point] } candidate

end

omit [DoubleArith R] in
/-- The id of a candidate leads back to its point. -/
theorem sourcePoint_of_mem {v2 : Reconstruction R} {point : ReconPoint3D R}
    (hunique : (v2.points3D.map ReconPoint3D.point3dId).Nodup) (hpoint : point ∈ v2.points3D)
    {candidate : PointCandidate R} (hid : candidate.oldPoint3dId = point.point3dId) :
    sourcePoint v2 candidate = some point := by
  unfold sourcePoint
  rw [hid]
  cases hfound : v2.points3D.find? (·.point3dId = point.point3dId) with
  | none => exact absurd (List.find?_eq_none.mp hfound point hpoint) (by simp)
  | some found =>
      have hsame : found.point3dId = point.point3dId := by simpa using List.find?_some hfound
      rw [List.inj_on_of_nodup_map hunique (List.mem_of_find?_eq_some hfound) hpoint hsame]

/-- The first pass looks at no other point than that of the candidate. -/
theorem measureResidual_single {models : CameraModels M R} {views : List (CameraView M R)}
    {keypoints : List (TriangulationObservation R)} {v2 : Reconstruction R}
    {point : ReconPoint3D R} (hunique : (v2.points3D.map ReconPoint3D.point3dId).Nodup)
    (hpoint : point ∈ v2.points3D) {candidate : PointCandidate R}
    (hid : candidate.oldPoint3dId = point.point3dId) :
    measureResidual models views keypoints v2 candidate =
      measureResidual models views keypoints { v2 with points3D := [point] } candidate := by
  have hall := sourcePoint_of_mem hunique hpoint hid
  have hsingle : sourcePoint { v2 with points3D := [point] } candidate = some point := by
    refine sourcePoint_of_mem ?_ List.mem_cons_self hid
    exact List.nodup_singleton _
  simp only [measureResidual, hall, hsingle]

theorem bind_measureResidual {models : CameraModels M R} {views : List (CameraView M R)}
    {keypoints : List (TriangulationObservation R)} {options : RetriangulationOptions R}
    {v2 : Reconstruction R} {point : ReconPoint3D R}
    (hunique : (v2.points3D.map ReconPoint3D.point3dId).Nodup) (hpoint : point ∈ v2.points3D) :
    (candidateOf models views keypoints options point >>=
        measureResidual models views keypoints v2) =
      measurePoint models views keypoints options v2 point := by
  unfold measurePoint
  cases hcandidate : candidateOf models views keypoints options point with
  | error e => rfl
  | ok candidate =>
      exact measureResidual_single hunique hpoint (candidateOf_oldPoint3dId hcandidate)

/-- What the second pass leaves of the points of a source without a repeated id. -/
theorem judgedCandidates_eq_ok_iff {models : CameraModels M R}
    {options : RetriangulationOptions R} {v2 : Reconstruction R}
    {observations : List (TriangulationObservation R)} {judged : List (PointCandidate R)}
    (hunique : (v2.points3D.map ReconPoint3D.point3dId).Nodup) :
    judgedCandidates models options v2 observations = .ok judged ↔
      ∃ views, initializeReprojectionViews models v2 = .ok views ∧
        (observations.any fun o =>
          !Double.isFinite o.keypoint2d.1 || !Double.isFinite o.keypoint2d.2) = false ∧
        ∃ measured, v2.points3D.mapM (measurePoint models views (sortedKeypoints observations)
            options v2) = .ok measured ∧
          judged = measured.map fun m =>
            judge (globalThreshold (measured.filterMap Prod.snd)) m.1 := by
  unfold judgedCandidates
  simp only [bind_eq_ok_iff]
  refine exists_congr fun views => and_congr_right fun _ => ?_
  -- the two loops of the source, in one
  have hpoints : ∀ {measured}, v2.points3D.mapM (measurePoint models views
      (sortedKeypoints observations) options v2) = .ok measured ↔
      ∃ candidates, v2.points3D.mapM (candidateOf models views (sortedKeypoints observations)
          options) = .ok candidates ∧
        candidates.mapM (measureResidual models views (sortedKeypoints observations) v2) =
          .ok measured := by
    intro measured
    rw [mapM_bind_eq_ok_iff]
    exact mapM_eq_ok_congr fun point hpoint => (bind_measureResidual hunique hpoint).symm
  split
  · rename_i hinfinite
    exact iff_of_false (fun h => nomatch h) fun h => by simp [hinfinite] at h
  · rename_i hfinite
    simp only [hpoints, bind_eq_ok_iff]
    constructor
    · rintro ⟨candidates, hcandidates, measured, hmeasured, h⟩
      cases h
      exact ⟨by simpa using hfinite, measured, ⟨candidates, hcandidates, hmeasured⟩, rfl⟩
    · rintro ⟨-, measured, ⟨candidates, hcandidates, hmeasured⟩, rfl⟩
      exact ⟨candidates, hcandidates, measured, hmeasured, rfl⟩

/-- A residual takes part in the threshold only if it is finite. -/
theorem isFinite_of_measurePoint {models : CameraModels M R} {views : List (CameraView M R)}
    {keypoints : List (TriangulationObservation R)} {options : RetriangulationOptions R}
    {v2 : Reconstruction R} {point : ReconPoint3D R} {candidate : PointCandidate R} {residual : R}
    (h : measurePoint models views keypoints options v2 point = .ok (candidate, some residual)) :
    Double.isFinite residual = true := by
  obtain ⟨made, _, h⟩ := bind_eq_ok h
  unfold measureResidual at h
  split at h
  · cases h
  split at h
  · cases h
  simp only at h
  split at h
  · cases h
  · obtain ⟨value, _, h⟩ := bind_eq_ok h
    cases hfinite : Double.isFinite value <;> simp [hfinite, pure, Except.pure] at h
    rw [← h.2]
    exact hfinite

/-! ## The books

A judged candidate is dropped, preserved or replaced. `BooksKept` is the
invariant of the loop over them, with the counter of fresh ids as its only
state; the step lemma has a case for each fate. -/

/-- What becomes of a point. -/
structure PointFate (R : Type) where
  lineage : PointLineage
  xyz : Vector R 3
  error : R

/-- What the loop makes of a judged candidate. -/
def PointCandidate.fate (options : RetriangulationOptions R) (candidate : PointCandidate R) :
    PointFate R where
  lineage :=
    if candidate.isPreserved options then .preserved
    else if candidate.isReplaced options then .replaced
    else .rejected
  xyz := candidate.xyz
  error := candidate.meanResidualPx

section

variable (fate : ReconPoint3D R → PointFate R)

/-- How many points end in one way. -/
def countFate (lineage : PointLineage) (source : List (ReconPoint3D R)) : ℕ :=
  source.countP fun point => (fate point).lineage = lineage

/-- The books on the points of a source, when each has its fate. -/
structure Accounts (source : List (ReconPoint3D R)) (summary : LineageSummary)
    (pointLineage : List PointLineageEntry) (points3D : List (ReconPoint3D R)) : Prop where
  /-- One entry for every point, in order. -/
  entries : pointLineage.map (fun entry => (entry.oldPoint3dId, entry.lineage)) =
    source.map fun point => (point.point3dId, (fate point).lineage)
  /-- The ids: the old one, a fresh one or none. -/
  preserved : ∀ entry ∈ pointLineage, entry.lineage = .preserved →
    entry.newPoint3dId = entry.oldPoint3dId
  replaced : (pointLineage.filter (·.lineage = .replaced)).map PointLineageEntry.newPoint3dId =
    freshIds 10001 (countFate fate .replaced source)
  rejected : ∀ entry ∈ pointLineage, entry.lineage = .rejected → entry.newPoint3dId = 0
  /-- The counts. -/
  summary : summary =
    { preservedCount := Int64.ofNat (countFate fate .preserved source)
      replacedCount := Int64.ofNat (countFate fate .replaced source)
      rejectedCount := Int64.ofNat (countFate fate .rejected source) }
  total : countFate fate .preserved source + countFate fate .replaced source +
    countFate fate .rejected source = source.length
  /-- The points that are not rejected, in order, with the colours and tracks of the source. -/
  points : points3D.map (fun point => (point.xyz, point.color, point.track, point.error)) =
    (source.filter fun point => (fate point).lineage ≠ .rejected).map fun point =>
      ((fate point).xyz, point.color, point.track, (fate point).error)
  ids : points3D.map ReconPoint3D.point3dId =
    (pointLineage.filter (·.lineage ≠ .rejected)).map PointLineageEntry.newPoint3dId

end

/-- What one round does. -/
theorem emitPoint_cases (options : RetriangulationOptions R) (emitted : EmittedPoints R)
    {v2 : Reconstruction R} {candidate : PointCandidate R} {point : ReconPoint3D R}
    (hsource : sourcePoint v2 candidate = some point)
    (hid : candidate.oldPoint3dId = point.point3dId) :
    let next := emitPoint options v2 emitted candidate
    let made (id : UInt64) : ReconPoint3D R :=
      { point with point3dId := id, xyz := candidate.xyz, error := candidate.meanResidualPx }
    ((candidate.fate options).lineage = .rejected ∧
        next = { emitted with
          lineage := { emitted.lineage with rejectedCount := emitted.lineage.rejectedCount + 1 }
          pointLineage := emitted.pointLineage ++ [⟨point.point3dId, 0, .rejected⟩] }) ∨
      ((candidate.fate options).lineage = .preserved ∧
        next = { emitted with
          lineage := { emitted.lineage with preservedCount := emitted.lineage.preservedCount + 1 }
          points3D := emitted.points3D ++ [made point.point3dId]
          pointLineage := emitted.pointLineage ++
            [⟨point.point3dId, point.point3dId, .preserved⟩] }) ∨
      ((candidate.fate options).lineage = .replaced ∧
        next =
          { nextPointId := emitted.nextPointId + 1
            lineage := { emitted.lineage with replacedCount := emitted.lineage.replacedCount + 1 }
            points3D := emitted.points3D ++ [made emitted.nextPointId]
            pointLineage := emitted.pointLineage ++
              [⟨point.point3dId, emitted.nextPointId, .replaced⟩] }) := by
  intro next made
  unfold PointCandidate.fate PointCandidate.isPreserved PointCandidate.isReplaced
  by_cases haccepted : candidate.isAccepted
  · by_cases hstable : candidate.isStable options
    · refine Or.inr (Or.inl ⟨by simp [haccepted, hstable], ?_⟩)
      simp [next, made, emitPoint, haccepted, hstable, hsource, hid]
    · refine Or.inr (Or.inr ⟨by simp [haccepted, hstable], ?_⟩)
      simp [next, made, emitPoint, haccepted, hstable, hsource, hid]
  · refine Or.inl ⟨by simp [haccepted], ?_⟩
    simp [next, emitPoint, haccepted, hid]

theorem freshIds_succ (start : UInt64) (n : ℕ) :
    freshIds start (n + 1) = freshIds start n ++ [start + UInt64.ofNat n] := by
  induction n generalizing start with
  | zero => simp [freshIds]
  | succ n ih =>
    rw [freshIds, ih, freshIds, List.cons_append, UInt64.ofNat_add, UInt64.add_assoc,
      UInt64.add_comm 1]
    rfl

/-- The books after some rounds, with the counter. -/
structure BooksKept (fate : ReconPoint3D R → PointFate R) (source : List (ReconPoint3D R))
    (emitted : EmittedPoints R) : Prop where
  accounts : Accounts fate source emitted.lineage emitted.pointLineage emitted.points3D
  counter : emitted.nextPointId = 10001 + UInt64.ofNat (countFate fate .replaced source)

omit [DoubleArith R] in
theorem countFate_append (fate : ReconPoint3D R → PointFate R) (lineage : PointLineage)
    (source : List (ReconPoint3D R)) (point : ReconPoint3D R) :
    countFate fate lineage (source ++ [point]) =
      countFate fate lineage source + if (fate point).lineage = lineage then 1 else 0 := by
  simp [countFate, List.countP_append, List.countP_singleton]

theorem booksKept_step {options : RetriangulationOptions R} {v2 : Reconstruction R}
    {fate : ReconPoint3D R → PointFate R} {source : List (ReconPoint3D R)}
    {emitted : EmittedPoints R} {candidate : PointCandidate R} {point : ReconPoint3D R}
    (hbooks : BooksKept fate source emitted) (hsource : sourcePoint v2 candidate = some point)
    (hid : candidate.oldPoint3dId = point.point3dId) (hfate : fate point = candidate.fate options) :
    BooksKept fate (source ++ [point]) (emitPoint options v2 emitted candidate) := by
  obtain ⟨⟨hentries, hpreserved, hreplaced, hrejected, hsummary, htotal, hpoints, hids⟩, hcounter⟩ :=
    hbooks
  have hxyz : (fate point).xyz = candidate.xyz := by rw [hfate]; rfl
  have herror : (fate point).error = candidate.meanResidualPx := by rw [hfate]; rfl
  obtain ⟨hlineage, hnext⟩ | ⟨hlineage, hnext⟩ | ⟨hlineage, hnext⟩ :=
    emitPoint_cases options emitted hsource hid
  all_goals
    rw [hnext]
    rw [← hfate] at hlineage
    clear hnext hfate hsource
    refine ⟨⟨?entries, ?preserved, ?replaced, ?rejected, ?summary, ?total, ?points, ?ids⟩, ?counter⟩
    case entries => simp [hentries, hlineage]
    case preserved => grind
    case replaced => simp [hreplaced, countFate_append, hlineage, freshIds_succ, hcounter]
    case rejected => grind
    case summary => simp [hsummary, countFate_append, hlineage]
    case total =>
      simp only [countFate_append, hlineage, List.length_append, List.length_singleton, if_true,
        if_false, reduceCtorEq]
      omega
    case points => simp [hpoints, hlineage, hxyz, herror]
    case ids => simp [hids]
    case counter => simp [hcounter, countFate_append, hlineage, UInt64.add_assoc]

theorem booksKept_run {options : RetriangulationOptions R} {v2 : Reconstruction R}
    {fate : ReconPoint3D R → PointFate R} {points : List (ReconPoint3D R)}
    {candidates : List (PointCandidate R)}
    (hcandidates : List.Forall₂ (fun point candidate => sourcePoint v2 candidate = some point ∧
      candidate.oldPoint3dId = point.point3dId ∧ fate point = candidate.fate options) points candidates)
    {source : List (ReconPoint3D R)} {emitted : EmittedPoints R}
    (hbooks : BooksKept fate source emitted) :
    BooksKept fate (source ++ points) (candidates.foldl (emitPoint options v2) emitted) := by
  induction hcandidates generalizing source emitted with
  | nil => simpa using hbooks
  | @cons point candidate points candidates hcandidate _ ih =>
      obtain ⟨hsource, hid, hfate⟩ := hcandidate
      rw [List.foldl_cons, List.append_cons]
      exact ih (booksKept_step hbooks hsource hid hfate)

/-! ## The books of a run

With the threshold known, the fate of a point is a function of the point. The
numbers are then those of a list, and do not change when it is permuted. -/

/-- The fate of a point, once the threshold is known. -/
def fateOf (models : CameraModels M R) (views : List (CameraView M R))
    (keypoints : List (TriangulationObservation R)) (options : RetriangulationOptions R)
    (v2 : Reconstruction R) (threshold : R) (point : ReconPoint3D R) : PointFate R :=
  match measurePoint models views keypoints options v2 point with
  | .ok measured => (judge threshold measured.1).fate options
  | .error _ => ⟨.rejected, point.xyz, point.error⟩

theorem booksKept_emitPoints {models : CameraModels M R} {views : List (CameraView M R)}
    {keypoints : List (TriangulationObservation R)} {options : RetriangulationOptions R}
    {v2 : Reconstruction R} {measured : List (PointCandidate R × Option R)} (threshold : R)
    (hunique : (v2.points3D.map ReconPoint3D.point3dId).Nodup)
    (hmeasured : v2.points3D.mapM (measurePoint models views keypoints options v2) = .ok measured) :
    BooksKept (fateOf models views keypoints options v2 threshold) v2.points3D
      (emitPoints options v2 (measured.map fun m => judge threshold m.1)) := by
  have hstart : BooksKept (fateOf models views keypoints options v2 threshold) []
      { nextPointId := 10001 } := by
    constructor
    · constructor <;> simp [countFate, freshIds]
    · simp [countFate]
  refine booksKept_run ?_ hstart
  rw [List.forall₂_map_right_iff]
  have hpoints := (List.forall₂_and_left _ _).mpr ⟨fun _ h => h, mapM_eq_ok_iff.mp hmeasured⟩
  refine hpoints.imp ?_
  rintro point m ⟨hpoint, hm⟩
  have hid : (judge threshold m.1).oldPoint3dId = point.point3dId := by
    obtain ⟨candidate, hcandidate, hresidual⟩ := bind_eq_ok hm
    rw [judge_oldPoint3dId, measureResidual_oldPoint3dId hresidual,
      candidateOf_oldPoint3dId hcandidate]
  refine ⟨sourcePoint_of_mem hunique hpoint hid, hid, ?_⟩
  rw [fateOf, hm]

/-- The books of a result, with what it takes over from its source. -/
structure KeepsAccounts (fate : ReconPoint3D R → PointFate R) (v2 : Reconstruction R)
    (result : RetriangulationResult R) : Prop where
  accounts : Accounts fate v2.points3D result.lineage result.pointLineage
    result.reconstruction.points3D
  sum : result.lineage.preservedCount + result.lineage.replacedCount + result.lineage.rejectedCount =
    Int64.ofNat v2.points3D.length
  cameras : result.reconstruction.cameras = v2.cameras
  images : result.reconstruction.images = v2.images

theorem keepsAccounts_of_measured {models : CameraModels M R} {options : RetriangulationOptions R}
    {v2 : Reconstruction R} {observations : List (TriangulationObservation R)}
    (reconstructionId : Uuid) {views : List (CameraView M R)}
    {measured : List (PointCandidate R × Option R)}
    (hunique : (v2.points3D.map ReconPoint3D.point3dId).Nodup)
    (hviews : initializeReprojectionViews models v2 = .ok views)
    (hfinite : (observations.any fun o =>
      !Double.isFinite o.keypoint2d.1 || !Double.isFinite o.keypoint2d.2) = false)
    (hmeasured : v2.points3D.mapM
      (measurePoint models views (sortedKeypoints observations) options v2) = .ok measured) :
    ∃ result, retriangulateFrom models options v2 observations reconstructionId = .ok result ∧
      KeepsAccounts (fateOf models views (sortedKeypoints observations) options v2
        (globalThreshold (measured.filterMap Prod.snd))) v2 result := by
  have hjudged : judgedCandidates models options v2 observations = .ok (measured.map fun m =>
      judge (globalThreshold (measured.filterMap Prod.snd)) m.1) :=
    (judgedCandidates_eq_ok_iff hunique).mpr ⟨views, hviews, hfinite, measured, hmeasured, rfl⟩
  have hbooks := booksKept_emitPoints (globalThreshold (measured.filterMap Prod.snd)) hunique
    hmeasured
  refine ⟨_, bind_eq_ok_iff.mpr ⟨_, hjudged, rfl⟩, hbooks.accounts, ?_, rfl, rfl⟩
  rw [hbooks.accounts.summary, ← hbooks.accounts.total]
  simp only [Int64.ofNat_add]

/-- The fate of a point does not depend on where the other points are. -/
theorem fateOf_perm [OrderedArith R] {models : CameraModels M R} {views : List (CameraView M R)}
    {keypoints : List (TriangulationObservation R)} {options : RetriangulationOptions R}
    {v2 : Reconstruction R} {measured measured' : List (PointCandidate R × Option R)}
    (hmeasured : v2.points3D.mapM (measurePoint models views keypoints options v2) = .ok measured)
    (hperm : measured'.Perm measured) (points' : List (ReconPoint3D R)) :
    fateOf models views keypoints options { v2 with points3D := points' }
        (globalThreshold (measured'.filterMap Prod.snd)) =
      fateOf models views keypoints options v2 (globalThreshold (measured.filterMap Prod.snd)) := by
  have hresiduals : ∀ r ∈ measured.filterMap Prod.snd, Double.isFinite r = true := by
    intro r hr
    obtain ⟨⟨candidate, residual⟩, hm, hresidual⟩ := List.mem_filterMap.mp hr
    cases hresidual
    obtain ⟨point, _, hpoint⟩ := (exists_of_mapM hmeasured).2 _ hm
    exact isFinite_of_measurePoint hpoint
  have hjudge := judge_globalThreshold_perm hresiduals (hperm.filterMap Prod.snd)
  funext point
  simp only [fateOf, measurePoint, hjudge]

/-- The books of a run. On a permuted source the run has the same fate for every point. -/
theorem retriangulateFrom_accounts [OrderedArith R] (models : CameraModels M R)
    (options : RetriangulationOptions R) (v2 : Reconstruction R)
    (observations : List (TriangulationObservation R)) (reconstructionId : Uuid)
    (result : RetriangulationResult R)
    (hunique : (v2.points3D.map ReconPoint3D.point3dId).Nodup)
    (hresult : retriangulateFrom models options v2 observations reconstructionId = .ok result) :
    ∃ fate : ReconPoint3D R → PointFate R, KeepsAccounts fate v2 result ∧
      ∀ (points' : List (ReconPoint3D R)) (reconstructionId' : Uuid),
        points'.Perm v2.points3D → ∃ result',
          retriangulateFrom models options { v2 with points3D := points' } observations
            reconstructionId' = .ok result' ∧
          KeepsAccounts fate { v2 with points3D := points' } result' := by
  obtain ⟨judged, hjudged, _⟩ := bind_eq_ok hresult
  obtain ⟨views, hviews, hfinite, measured, hmeasured, _⟩ :=
    (judgedCandidates_eq_ok_iff hunique).mp hjudged
  refine ⟨fateOf models views (sortedKeypoints observations) options v2
    (globalThreshold (measured.filterMap Prod.snd)), ?_, fun points' reconstructionId' hperm => ?_⟩
  · obtain ⟨same, hsame, hbooks⟩ := keepsAccounts_of_measured reconstructionId hunique hviews
      hfinite hmeasured
    cases hresult.symm.trans hsame
    exact hbooks
  -- the same candidates in another order, and so the same threshold
  · obtain ⟨measured', hmeasured', hsame⟩ := mapM_perm hperm hmeasured
    have hunique' : (points'.map ReconPoint3D.point3dId).Nodup :=
      (hperm.map _).nodup_iff.mpr hunique
    have hrun : ∃ result', retriangulateFrom models options { v2 with points3D := points' }
        observations reconstructionId' = .ok result' ∧
        KeepsAccounts (fateOf models views (sortedKeypoints observations) options
          { v2 with points3D := points' } (globalThreshold (measured'.filterMap Prod.snd)))
          { v2 with points3D := points' } result' :=
      keepsAccounts_of_measured reconstructionId' hunique' hviews hfinite hmeasured'
    obtain ⟨result', hresult', hbooks⟩ := hrun
    refine ⟨result', hresult', ?_⟩
    rwa [fateOf_perm hmeasured hsame points'] at hbooks

/-- The two points of the sample, in both orders. -/
theorem sample_accounts : ∃ result, sampleResult 2 = .ok result ∧
    ∃ fate : ReconPoint3D Rat → PointFate Rat, KeepsAccounts fate (sampleScene 2) result ∧
      ∀ (points' : List (ReconPoint3D Rat)) (reconstructionId' : Uuid),
        points'.Perm (sampleScene 2).points3D → ∃ result',
          retriangulateFrom samplePinhole sampleOptions { sampleScene 2 with points3D := points' }
            sampleKeypoints reconstructionId' = .ok result' ∧
          KeepsAccounts fate { sampleScene 2 with points3D := points' } result' := by
  have hsample : (sampleResult 2).toOption.map
      (·.reconstruction.points3D.map ReconPoint3D.point3dId) = some [2, 10001] := by
    decide +kernel
  obtain ⟨result, hresult, _⟩ := sampleResult_ok hsample
  exact ⟨result, hresult, retriangulateFrom_accounts samplePinhole sampleOptions (sampleScene 2)
    sampleKeypoints ⟨1⟩ result (by decide) hresult⟩

end SpatialPlatform.Engine
