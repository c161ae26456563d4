import SpatialPlatform.Adapters.Gtsam.BundleAdjustmentOptimizer
import SpatialPlatform.Lib.Coordinates

/-!
# When the solver fails

What the two optimizers do when calls of GTSAM throw. The bundle adjustment
reads its result from values that are empty when the solver has thrown, outside
the `try`; so it returns then only for a document without images and points.
-/

namespace SpatialPlatform.Adapters.Gtsam

open SpatialPlatform.Core SpatialPlatform.Lib SpatialPlatform.Core.Geometry
open SpatialPlatform.Engine (BundleAdjustmentInput BundleAdjustmentTrace)

theorem typed_eq_ok_iff {α : Type} {x : Except ProjectError α} {a : α} : typed x = .ok a ↔ x = .ok a :=
  mapError_eq_ok_iff

theorem call_eq_ok_iff {α : Type} {x : Except SolverException α} {a : α} : call x = .ok a ↔ x = .ok a :=
  mapError_eq_ok_iff

/-- No exception of the solver. -/
def NoSolverException {α : Type} (x : Except AdjustmentException α) : Prop := ∀ e, x ≠ .error (.solver e)

theorem noSolverException_ok {α : Type} (a : α) : NoSolverException (.ok a) := fun _ h => nomatch h

theorem noSolverException_typed {α : Type} (x : Except ProjectError α) : NoSolverException (typed x) := by
  intro e h
  cases x <;> cases h

theorem noSolverException_call_iff {α : Type} {x : Except SolverException α} :
    NoSolverException (call x) ↔ ∃ a, x = .ok a := by
  cases x with
  | error e => exact iff_of_false (fun h => h e rfl) (by simp)
  | ok a => exact iff_of_true (noSolverException_ok a) ⟨a, rfl⟩

theorem noSolverException_bind_iff {α β : Type} {x : Except AdjustmentException α}
    {f : α → Except AdjustmentException β} :
    NoSolverException (x >>= f) ↔ NoSolverException x ∧ ∀ a, x = .ok a → NoSolverException (f a) := by
  cases x with
  | error e =>
    refine ⟨fun h => ⟨fun e' he => ?_, fun _ h' => nomatch h'⟩, fun h e' he => ?_⟩
    · cases he
      exact h e' rfl
    · cases he
      exact h.1 e' rfl
  | ok a =>
    constructor
    · intro h
      refine ⟨noSolverException_ok a, fun b hb => ?_⟩
      cases hb
      exact h
    · exact fun h => h.2 a rfl

section

variable {R : Type} [DoubleTrig R] {c : AdjustmentCalls R} {texts : AdjustmentTexts R}
  {options : BundleAdjustmentOptions R} {input : BundleAdjustmentInput R} {prepared : Prepared c}

/-! ## Reading the result

Whether the values can be read depends on the keys they have, and empty values
have none. -/

/-- An empty `Values` has neither a pose nor a point. -/
structure EmptyAdjustmentThrows (c : AdjustmentCalls R) : Prop where
  pose : ∀ key, ∃ e, c.poseAt c.noValues key = .error e
  point : ∀ key, ∃ e, c.pointAt c.noValues key = .error e

omit [DoubleTrig R] in
theorem refined_returns_iff {values : c.Values} :
    (∃ geometry, refined c input values = .ok geometry) ↔
      (∀ image ∈ input.source.images, ∃ image', refinedImage c values image = .ok image') ∧
        ∀ point ∈ input.source.points3D, ∃ point', refinedPoint c values point = .ok point' := by
  rw [← exists_mapM_ok_iff, ← exists_mapM_ok_iff]
  unfold refined
  constructor
  · rintro ⟨geometry, h⟩
    obtain ⟨images, himages, h⟩ := bind_eq_ok_iff.mp h
    obtain ⟨points, hpoints, -⟩ := bind_eq_ok_iff.mp h
    exact ⟨⟨images, himages⟩, points, hpoints⟩
  · rintro ⟨⟨images, himages⟩, points, hpoints⟩
    exact ⟨_, bind_eq_ok_iff.mpr ⟨images, himages, bind_eq_ok_iff.mpr ⟨points, hpoints, rfl⟩⟩⟩

omit [DoubleTrig R] in
theorem refinedImage_noValues (hempty : EmptyAdjustmentThrows c) (image image' : ReconImage R) :
    refinedImage c c.noValues image ≠ .ok image' := by
  intro h
  obtain ⟨key, -, h⟩ := bind_eq_ok_iff.mp h
  obtain ⟨pose, hpose, -⟩ := bind_eq_ok_iff.mp h
  obtain ⟨e, he⟩ := hempty.pose key
  rw [he] at hpose
  cases hpose

omit [DoubleTrig R] in
theorem refinedPoint_noValues (hempty : EmptyAdjustmentThrows c) (point point' : ReconPoint3D R) :
    refinedPoint c c.noValues point ≠ .ok point' := by
  intro h
  obtain ⟨key, -, h⟩ := bind_eq_ok_iff.mp h
  obtain ⟨xyz, hxyz, -⟩ := bind_eq_ok_iff.mp h
  obtain ⟨e, he⟩ := hempty.point key
  rw [he] at hxyz
  cases hxyz

omit [DoubleTrig R] in
/-- From empty values nothing can be read but nothing. -/
theorem refined_noValues_iff (hempty : EmptyAdjustmentThrows c) :
    (∃ geometry, refined c input c.noValues = .ok geometry) ↔
      input.source.images = [] ∧ input.source.points3D = [] := by
  rw [refined_returns_iff]
  constructor
  · rintro ⟨himages, hpoints⟩
    refine ⟨List.eq_nil_iff_forall_not_mem.mpr fun image himage => ?_,
      List.eq_nil_iff_forall_not_mem.mpr fun point hpoint => ?_⟩
    · obtain ⟨image', h⟩ := himages image himage
      exact refinedImage_noValues hempty image image' h
    · obtain ⟨point', h⟩ := hpoints point hpoint
      exact refinedPoint_noValues hempty point point' h
  · rintro ⟨himages, hpoints⟩
    simp [himages, hpoints]

/-! ## What escapes

The calls behind the `try`, one by one: which of them can throw, and from what. -/

theorem noSolverException_finish_iff {attempt : Attempt c} :
    NoSolverException (finish c texts options input prepared attempt) ↔
      ∃ images points, refined c input attempt.values = .ok (images, points) ∧
        ((∃ after, evaluate input (refinedDocument texts input images points) = .ok after) →
          ∃ n, c.iterations prepared.optimizer = .ok n) := by
  unfold finish
  rw [noSolverException_bind_iff, noSolverException_call_iff]
  constructor
  · rintro ⟨⟨⟨images, points⟩, hrefined⟩, h⟩
    refine ⟨images, points, hrefined, ?_⟩
    rintro ⟨after, hafter⟩
    have hrest := h _ (call_eq_ok_iff.mpr hrefined)
    rw [noSolverException_bind_iff] at hrest
    have hlast := hrest.2 after (typed_eq_ok_iff.mpr hafter)
    rw [noSolverException_bind_iff, noSolverException_call_iff] at hlast
    exact hlast.1
  · rintro ⟨images, points, hrefined, h⟩
    refine ⟨⟨_, hrefined⟩, fun geometry hgeometry => ?_⟩
    obtain rfl := Except.ok.inj (hrefined.symm.trans (call_eq_ok_iff.mp hgeometry))
    rw [noSolverException_bind_iff]
    refine ⟨noSolverException_typed _, fun after hafter => ?_⟩
    rw [noSolverException_bind_iff, noSolverException_call_iff]
    exact ⟨h ⟨after, typed_eq_ok_iff.mp hafter⟩, fun n _ => noSolverException_ok _⟩

theorem finish_eq_ok_iff {attempt : Attempt c} {result : AdjustmentResult R} :
    finish c texts options input prepared attempt = .ok result ↔
      ∃ images points after n, refined c input attempt.values = .ok (images, points) ∧
        evaluate input (refinedDocument texts input images points) = .ok after ∧
        c.iterations prepared.optimizer = .ok n ∧
        result = adjustmentResult c texts options input prepared attempt images points after n := by
  unfold finish
  constructor
  · intro h
    obtain ⟨⟨images, points⟩, hrefined, h⟩ := bind_eq_ok_iff.mp h
    obtain ⟨after, hafter, h⟩ := bind_eq_ok_iff.mp h
    obtain ⟨n, hn, h⟩ := bind_eq_ok_iff.mp h
    exact ⟨images, points, after, n, call_eq_ok_iff.mp hrefined, typed_eq_ok_iff.mp hafter,
      call_eq_ok_iff.mp hn, (Except.ok.inj h).symm⟩
  · rintro ⟨images, points, after, n, hrefined, hafter, hn, rfl⟩
    exact bind_eq_ok_iff.mpr ⟨_, call_eq_ok_iff.mpr hrefined, bind_eq_ok_iff.mpr
      ⟨after, typed_eq_ok_iff.mpr hafter, bind_eq_ok_iff.mpr ⟨n, call_eq_ok_iff.mpr hn, rfl⟩⟩⟩

/-- The bundle adjustment lets no exception of the solver out if nothing before
the `try` throws one, if all values can be read after it, and if then the
iterations can be asked for. -/
theorem noSolverException_adjustBundle_iff :
    NoSolverException (adjustBundle c texts options input) ↔
      NoSolverException (prepare c options input) ∧ ∀ prepared, prepare c options input = .ok prepared →
        ∃ images points, refined c input (attempt c prepared).values = .ok (images, points) ∧
          ((∃ after, evaluate input (refinedDocument texts input images points) = .ok after) →
            ∃ n, c.iterations prepared.optimizer = .ok n) := by
  unfold adjustBundle
  rw [noSolverException_bind_iff]
  simp only [noSolverException_finish_iff]

/-! ## After a failed solve

The `try` ends in one of two ways: with empty values, from which no pose can be
read, or with the values of the solver and an error of zero. For each of them
the condition under which the result is still returned, unconverged and with the
geometry that was read. -/

/-- The `try` ends before the solver has returned values. -/
def SolveThrows (prepared : Prepared c) : Prop :=
  (∃ e, c.error prepared.graph prepared.start = .error e) ∨ ∃ e, c.run prepared.optimizer = .error e

/-- The solver returns values whose error cannot be evaluated. -/
def FinalErrorThrows (prepared : Prepared c) (initialError : R) (values : c.Values) : Prop :=
  c.error prepared.graph prepared.start = .ok initialError ∧ c.run prepared.optimizer = .ok values ∧
    ∃ e, c.error prepared.graph values = .error e

/-- Two documents whose images and points are the same, at the same places. -/
def SameGeometry (a b : Reconstruction R) : Prop :=
  a.images.map (fun image => (image.imageId, image.pose)) =
      b.images.map (fun image => (image.imageId, image.pose)) ∧
    reconstructionPoints a = reconstructionPoints b

/-- The geometry is that of the source, or that of the last iterate that the optimizer accepted. -/
def KeepsGeometry (c : AdjustmentCalls R) (input : BundleAdjustmentInput R) (prepared : Prepared c)
    (result : AdjustmentResult R) : Prop :=
  SameGeometry result.reconstruction input.source ∨
    ∃ images points3D, refined c input (c.accepted prepared.optimizer) = .ok (images, points3D) ∧
      SameGeometry result.reconstruction { input.source with images, points3D }

/-- What a caller expects of a failed solve. -/
def EndsUnconverged (c : AdjustmentCalls R) (texts : AdjustmentTexts R)
    (options : BundleAdjustmentOptions R) (input : BundleAdjustmentInput R) (prepared : Prepared c) : Prop :=
  ∃ result, adjustBundle c texts options input = .ok result ∧ result.trace.converged = false ∧
    KeepsGeometry c input prepared result

theorem adjustBundle_of_prepare (h : prepare c options input = .ok prepared) :
    adjustBundle c texts options input =
      finish c texts options input prepared (attempt c prepared) := by
  unfold adjustBundle
  rw [h]
  rfl

omit [DoubleTrig R] in
theorem refreshedPoint_place (after : ReprojectionMetrics R) (point : ReconPoint3D R) :
    ((refreshedPoint after point).point3dId, (refreshedPoint after point).xyz) =
      (point.point3dId, point.xyz) := by
  unfold refreshedPoint
  split <;> rfl

theorem attempt_of_solveThrows (h : SolveThrows prepared) :
    (attempt c prepared).values = c.noValues ∧ (attempt c prepared).finalError = 0.0 := by
  unfold attempt
  obtain ⟨e, he⟩ | ⟨e, he⟩ := h
  · rw [he]
    exact ⟨rfl, rfl⟩
  · cases c.error prepared.graph prepared.start with
    | error e' => exact ⟨rfl, rfl⟩
    | ok initialError => simp [he]

theorem attempt_of_finalErrorThrows {initialError : R} {values : c.Values}
    (h : FinalErrorThrows prepared initialError values) :
    attempt c prepared = ⟨initialError, 0.0, values, true⟩ := by
  obtain ⟨herror, hrun, e, he⟩ := h
  unfold attempt
  simp only [herror, hrun, he]

/-- A prepared bundle adjustment has evaluated its source. -/
theorem evaluate_of_prepare (h : prepare c options input = .ok prepared) :
    ∃ before, evaluate input input.source = .ok before := by
  obtain ⟨_, -, h⟩ := bind_eq_ok_iff.mp h
  obtain ⟨before, hbefore, -⟩ := bind_eq_ok_iff.mp h
  exact ⟨before, typed_eq_ok_iff.mp hbefore⟩

/-- Without images there are no observations, and without observations no error. -/
theorem evaluate_of_no_images {before : ReprojectionMetrics R}
    (h : evaluate input input.source = .ok before) (himages : input.source.images = [])
    {document : Reconstruction R} (hdocument : document.images = []) :
    ∃ after, evaluate input document = .ok after ∧ after.rmsePx = 0.0 := by
  have hviews : ∀ d : Reconstruction R, d.images = [] →
      initializeReprojectionViews cameraModels d = .ok [] := by
    intro d hd
    rw [initializeReprojectionViews, hd]
    rfl
  have hobservations : input.observations = [] := by
    obtain ⟨views, hinit, h⟩ := bind_eq_ok_iff.mp h
    obtain rfl := Except.ok.inj ((hviews _ himages).symm.trans hinit)
    obtain ⟨metrics, hmetrics, -⟩ := bind_eq_ok_iff.mp h
    obtain ⟨measured, hmeasured, -⟩ := bind_eq_ok_iff.mp hmetrics
    refine List.eq_nil_iff_forall_not_mem.mpr fun obs hobs => ?_
    -- an observation would have to find its view
    obtain ⟨_, -, hmeasure⟩ := (exists_of_mapM hmeasured).1 obs hobs
    cases hmeasure
  unfold evaluate
  rw [hviews document hdocument, hobservations]
  exact ⟨_, rfl, rfl⟩

/-- What is returned has the geometry that was read. -/
theorem sameGeometry_finish {attempt : Attempt c} {result : AdjustmentResult R}
    {images : List (ReconImage R)} {points3D : List (ReconPoint3D R)}
    (hrefined : refined c input attempt.values = .ok (images, points3D))
    (h : finish c texts options input prepared attempt = .ok result) :
    SameGeometry result.reconstruction { input.source with images, points3D } := by
  obtain ⟨images', points', after, n, hrefined', -, -, rfl⟩ := finish_eq_ok_iff.mp h
  obtain ⟨rfl, rfl⟩ := Prod.mk.inj (Except.ok.inj (hrefined.symm.trans hrefined'))
  refine ⟨rfl, ?_⟩
  show (points3D.map (refreshedPoint after)).map (fun point => (point.point3dId, point.xyz)) =
    points3D.map fun point => (point.point3dId, point.xyz)
  rw [List.map_map]
  exact List.map_congr_left fun point _ => refreshedPoint_place after point

/-- When the solver has returned no values, the bundle adjustment ends well if
there is nothing to read from them and the trace does not count as converged by
what the optimizer reports. -/
theorem endsUnconverged_of_solveThrows_iff (hempty : EmptyAdjustmentThrows c)
    (hprepared : prepare c options input = .ok prepared) (hthrows : SolveThrows prepared) :
    EndsUnconverged c texts options input prepared ↔
      input.source.images = [] ∧ input.source.points3D = [] ∧
        ∃ n, c.iterations prepared.optimizer = .ok n ∧
          converges n (attempt c prepared).initialError 0.0 (0.0 : R) = false := by
  obtain ⟨hvalues, hfinal⟩ := attempt_of_solveThrows hthrows
  obtain ⟨before, hbefore⟩ := evaluate_of_prepare hprepared
  constructor
  · rintro ⟨result, hresult, hunconverged, -⟩
    rw [adjustBundle_of_prepare hprepared] at hresult
    obtain ⟨images, points, after, n, hrefined, hafter, hn, rfl⟩ := finish_eq_ok_iff.mp hresult
    rw [hvalues] at hrefined
    obtain ⟨himages, hpoints⟩ := (refined_noValues_iff hempty).mp ⟨_, hrefined⟩
    refine ⟨himages, hpoints, n, hn, ?_⟩
    -- the document that is evaluated has no images either
    obtain rfl : images = [] := by
      obtain ⟨images', himages', h⟩ := bind_eq_ok_iff.mp hrefined
      obtain ⟨points', -, h⟩ := bind_eq_ok_iff.mp h
      obtain ⟨rfl, -⟩ := Prod.mk.inj (Except.ok.inj h)
      rw [himages] at himages'
      exact (Except.ok.inj himages').symm
    have hnone : (refinedDocument texts input [] points).images = [] := rfl
    obtain ⟨after', hafter', hrmse⟩ := evaluate_of_no_images hbefore himages hnone
    obtain rfl := Except.ok.inj (hafter.symm.trans hafter')
    simpa only [adjustmentResult, adjustmentTrace, hfinal, hrmse] using hunconverged
  · rintro ⟨himages, hpoints, n, hn, hunconverged⟩
    have hrefined : refined c input (attempt c prepared).values = .ok ([], []) := by
      unfold refined
      rw [himages, hpoints]
      rfl
    have hnone : (refinedDocument texts input [] []).images = [] := rfl
    obtain ⟨after, hafter, hrmse⟩ := evaluate_of_no_images hbefore himages hnone
    have hfinish : finish c texts options input prepared (attempt c prepared) =
        .ok (adjustmentResult c texts options input prepared (attempt c prepared) [] [] after n) :=
      finish_eq_ok_iff.mpr ⟨[], [], after, n, hrefined, hafter, hn, rfl⟩
    refine ⟨_, (adjustBundle_of_prepare hprepared).trans hfinish, ?_, .inl ?_⟩
    · simpa only [adjustmentResult, adjustmentTrace, hfinal, hrmse] using hunconverged
    · have hsame := sameGeometry_finish hrefined hfinish
      rw [SameGeometry, reconstructionPoints, reconstructionPoints] at hsame ⊢
      rw [himages, hpoints]
      exact hsame

/-- What a last error that cannot be evaluated asks of the values of the solver.
They hold every pose and every point, the errors of the observations can be
measured there, and the number of iterations or one of the errors keeps the
trace from counting as converged, in which the last error stays zero. -/
structure StaysOpen (c : AdjustmentCalls R) (texts : AdjustmentTexts R) (input : BundleAdjustmentInput R)
    (prepared : Prepared c) (initialError : R) (values : c.Values) : Prop where
  images : ∀ image ∈ input.source.images, ∃ image', refinedImage c values image = .ok image'
  points : ∀ point ∈ input.source.points3D, ∃ point', refinedPoint c values point = .ok point'
  measured : ∀ images points, refined c input values = .ok (images, points) →
    ∃ after, evaluate input (refinedDocument texts input images points) = .ok after
  unconverged : ∃ n, c.iterations prepared.optimizer = .ok n ∧
    ∀ images points after, refined c input values = .ok (images, points) →
      evaluate input (refinedDocument texts input images points) = .ok after →
        converges n initialError 0.0 after.rmsePx = false

/-- When only the last error cannot be evaluated, the result is read from the
values of the solver, and the error counts as zero. -/
theorem endsUnconverged_of_finalErrorThrows_iff
    (haccepted : ∀ optimizer values, c.run optimizer = .ok values → c.accepted optimizer = values)
    (hprepared : prepare c options input = .ok prepared) {initialError : R} {values : c.Values}
    (hthrows : FinalErrorThrows prepared initialError values) :
    EndsUnconverged c texts options input prepared ↔
      StaysOpen c texts input prepared initialError values := by
  have hattempt := attempt_of_finalErrorThrows hthrows
  unfold EndsUnconverged
  rw [adjustBundle_of_prepare hprepared, hattempt]
  constructor
  · rintro ⟨result, hresult, hunconverged, -⟩
    obtain ⟨images, points, after, n, hrefined, hafter, hn, rfl⟩ := finish_eq_ok_iff.mp hresult
    have hreads := refined_returns_iff.mp ⟨_, hrefined⟩
    refine ⟨hreads.1, hreads.2, ?_, n, hn, ?_⟩
    · intro images' points' hrefined'
      cases hrefined.symm.trans hrefined'
      exact ⟨after, hafter⟩
    · intro images' points' after' hrefined' hafter'
      cases hrefined.symm.trans hrefined'
      cases hafter.symm.trans hafter'
      exact hunconverged
  -- the values are there, so the refined model is the accepted one
  · rintro ⟨himages, hpoints, hmeasured, n, hn, hunconverged⟩
    obtain ⟨⟨images, points⟩, hrefined⟩ := refined_returns_iff.mpr ⟨himages, hpoints⟩
    obtain ⟨after, hafter⟩ := hmeasured images points hrefined
    have hfinish : finish c texts options input prepared ⟨initialError, 0.0, values, true⟩ =
        .ok (adjustmentResult c texts options input prepared ⟨initialError, 0.0, values, true⟩ images
          points after n) :=
      finish_eq_ok_iff.mpr ⟨images, points, after, n, hrefined, hafter, hn, rfl⟩
    refine ⟨_, hfinish, hunconverged images points after hrefined hafter,
      .inr ⟨images, points, ?_, sameGeometry_finish hrefined hfinish⟩⟩
    rw [haccepted _ _ hthrows.2.1]
    exact hrefined

end

/-! ## Both optimizers

The parts of the law side by side. Each is an equivalence of its own, so that a
change of one optimizer leaves the rest. -/

section

variable {R : Type} [DoubleTrig R]

/-- What the two optimizers do when calls of the solver throw, and under which
condition that is what their callers may expect. -/
structure SolverFailureLaw (g : GtsamCalls R) (print : R → List Char) (newId : String)
    (input : OptimizationInput R) (c : AdjustmentCalls R) (texts : AdjustmentTexts R)
    (options : BundleAdjustmentOptions R) (adjustment : BundleAdjustmentInput R) : Prop where
  /-- The pose graph: no exception escapes. -/
  returns : (∃ output, optimize g print newId input = .ok output) ↔ input.Empty ∨ SetupReturns g input
  /-- The pose graph: a failure leaves the initial poses and the ids. -/
  failed : (∀ output, optimize g print newId input = .ok output → output.result.status = "failed" →
      LeavesInitial newId input output) ↔
    input.Empty ∨ ∀ graph start, problem g input = .ok (graph, start) → graph ≠ [] →
      FailureKeepsPoses g input graph start
  /-- The bundle adjustment: no exception of the solver escapes. -/
  guarded : NoSolverException (adjustBundle c texts options adjustment) ↔
    NoSolverException (prepare c options adjustment) ∧
      ∀ prepared, prepare c options adjustment = .ok prepared →
        ∃ images points, refined c adjustment (attempt c prepared).values = .ok (images, points) ∧
          ((∃ after, evaluate adjustment (refinedDocument texts adjustment images points) = .ok after) →
            ∃ n, c.iterations prepared.optimizer = .ok n)
  /-- The bundle adjustment: a solver that throws. -/
  solve : ∀ prepared, prepare c options adjustment = .ok prepared → SolveThrows prepared →
    (EndsUnconverged c texts options adjustment prepared ↔
      adjustment.source.images = [] ∧ adjustment.source.points3D = [] ∧
        ∃ n, c.iterations prepared.optimizer = .ok n ∧
          converges n (attempt c prepared).initialError 0.0 (0.0 : R) = false)
  /-- The bundle adjustment: a solver that returns values whose error throws. -/
  finalError : ∀ prepared, prepare c options adjustment = .ok prepared →
    ∀ initialError values, FinalErrorThrows prepared initialError values →
      (EndsUnconverged c texts options adjustment prepared ↔
        StaysOpen c texts adjustment prepared initialError values)

/-- Whichever calls of GTSAM throw: the values that `Values()` makes have
nothing in them, and what the optimizer returns is the last iterate that it has
accepted. -/
theorem solverFailureLaw {g : GtsamCalls R} (hempty : EmptyValuesThrow g) (print : R → List Char)
    (newId : String) (input : OptimizationInput R) {c : AdjustmentCalls R}
    (hnone : EmptyAdjustmentThrows c)
    (haccepted : ∀ optimizer values, c.run optimizer = .ok values → c.accepted optimizer = values)
    (texts : AdjustmentTexts R) (options : BundleAdjustmentOptions R)
    (adjustment : BundleAdjustmentInput R) :
    SolverFailureLaw g print newId input c texts options adjustment where
  returns := optimize_returns_iff
  failed := optimize_failed_iff hempty
  guarded := noSolverException_adjustBundle_iff
  solve _ hprepared hthrows := endsUnconverged_of_solveThrows_iff hnone hprepared hthrows
  finalError _ hprepared _ _ hthrows :=
    endsUnconverged_of_finalErrorThrows_iff haccepted hprepared hthrows

/-! ## A solver that throws

GTSAM with values that are lists: what `insert`, `at` and `Values()` do is as
documented, and every solve throws. -/

/-- GTSAM with lists of values, and a linear system that cannot be solved. -/
def unsolvable (R : Type) [OfScientific R] : GtsamCalls R where
  Pose := Vector R 3 × Vector R 4
  Noise := Vector R 36
  Values := List (UInt64 × Vector R 3 × Vector R 4)
  Optimizer := Unit
  Marginals := Unit
  identity := (.triple 0.0 0.0 0.0, .quadruple 0.0 0.0 0.0 1.0)
  pose position rotation := .ok (position, rotation)
  parts := .ok
  movedTo pose position := .ok (position, pose.2)
  information := .ok
  add _ := .ok ()
  noValues := []
  insert values key pose :=
    if values.any (·.1 = key) then .error "ValuesKeyAlreadyExists" else .ok ((key, pose) :: values)
  valueAt values key :=
    match values.find? (·.1 = key) with
    | some (_, pose) => .ok pose
    | none => .error "ValuesKeyDoesNotExist"
  error _ values := if values.isEmpty then .error "ValuesKeyDoesNotExist" else .ok 0.0
  optimizer _ _ _ := .ok ()
  run _ := .error "IndeterminantLinearSystemException"
  iterations _ := .ok 0
  marginals _ _ := .error "IndeterminantLinearSystemException"
  covariance _ _ := .error "IndeterminantLinearSystemException"

/-- The same for a bundle adjustment. -/
def unsolvableAdjustment (R : Type) [OfScientific R] : AdjustmentCalls R where
  Pose := Vector R 4 × Vector R 3
  Calibration := Vector R 9
  Noise := Unit
  Values := List (UInt64 × Vector R 4 × Vector R 3) × List (UInt64 × Vector R 3)
  Optimizer := Unit
  poseKey id := .ok id.toUInt64
  pointKey := .ok
  robust _ := .ok ()
  sigmas _ := .ok ()
  calibration := .ok
  pose rotation translation := .ok (rotation, translation)
  parts := .ok
  add _ := .ok ()
  noValues := ([], [])
  insertPose values key pose := .ok ((key, pose) :: values.1, values.2)
  insertPoint values key point := .ok (values.1, (key, point) :: values.2)
  poseAt values key :=
    match values.1.find? (·.1 = key) with
    | some (_, pose) => .ok pose
    | none => .error "ValuesKeyDoesNotExist"
  pointAt values key :=
    match values.2.find? (·.1 = key) with
    | some (_, point) => .ok point
    | none => .error "ValuesKeyDoesNotExist"
  error _ _ := .ok 0.0
  optimizer _ _ _ := .ok ()
  run _ := .error "IndeterminantLinearSystemException"
  iterations _ := .ok 0
  accepted _ := ([], [])

end

/-- A request with one node, a metre from the origin, and a prior on it. -/
def oneNode (R : Type) [OfScientific R] : OptimizationInput R where
  trajectory := { trajectoryId := "trajectory", sceneId := "scene" }
  trajectoryNodes :=
    [{ frameId := "frame", positionXyz := .triple 1.0 0.0 0.0, rotationXyzw := .quadruple 0.0 0.0 0.0 1.0 }]
  graph := { graphId := "graph" }
  graphNodes := [{ nodeId := 0, frameId := "frame", timestampNs := 0 }]
  graphEdges :=
    [{ edgeId := 0
       type := "prior"
       sourceNodeId := 0
       targetNodeId := 0
       relativePositionXyz := .triple 1.0 0.0 0.0
       relativeRotationXyzw := .quadruple 0.0 0.0 0.0 1.0
       informationMatrix6x6 := Vector.replicate 36 0.0
       confidence := 1.0
       source := "survey" }]
  options :=
    { lambdaInitial := 1e-4
      lambdaFactor := 10.0
      functionTolerance := 1e-10
      parameterTolerance := 1e-10
      gradientTolerance := 1e-10 }
  anchorPrior := { informationScale := 1e6 }

/-- A source with one point and no image. -/
noncomputable def onePoint : BundleAdjustmentInput ℝ where
  source :=
    { points3D := [{ point3dId := 1, xyz := .triple 1 0 0, color := .triple 0 0 0, error := 0 }] }
  observations := []
  minParallaxDeg := 2.0
  randomSeed := some "seed"
  maxIterations := 100

theorem unsolvable_empty (R : Type) [OfScientific R] : EmptyValuesThrow (unsolvable R) :=
  fun _ => ⟨_, rfl⟩

theorem unsolvableAdjustment_empty (R : Type) [OfScientific R] :
    EmptyAdjustmentThrows (unsolvableAdjustment R) :=
  ⟨fun _ => ⟨_, rfl⟩, fun _ => ⟨_, rfl⟩⟩

def someTexts (R : Type) : AdjustmentTexts R where
  print _ := []
  adapterVersion := "0.1.0"
  statsJson _ _ _ _ := "{}"
  newId := "revision"

theorem solverFailureLaw_unsolvable :
    SolverFailureLaw (unsolvable ℝ) (fun _ => []) "result" (oneNode ℝ) (unsolvableAdjustment ℝ)
      (someTexts ℝ) { robustLossScalePx := 0 } onePoint :=
  solverFailureLaw (unsolvable_empty ℝ) _ _ _ (unsolvableAdjustment_empty ℝ)
    (fun _ _ h => nomatch h) _ _ _

/-- A solver that throws makes the pose-graph optimizer report its node at the
origin, and the bundle adjustment throw as well. -/
theorem solver_throws :
    (∃ output, optimize (unsolvable Rat) (fun _ => []) "result" (oneNode Rat) = .ok output ∧
        output.result.status = "failed" ∧ ¬ LeavesInitial "result" (oneNode Rat) output) ∧
      ¬ NoSolverException (adjustBundle (unsolvableAdjustment ℝ) (someTexts ℝ)
        { robustLossScalePx := 0 } onePoint) := by
  constructor
  · obtain ⟨factor, factors, start, hproblem, e, herror⟩ : ∃ factor factors start,
        problem (unsolvable Rat) (oneNode Rat) = .ok (factor :: factors, start) ∧
          ∃ e, (unsolvable Rat).error (factor :: factors) start = .ok e := ⟨_, _, _, rfl, _, rfl⟩
    have hsome : ¬ (oneNode Rat).Empty := by
      rintro (h | h) <;> cases h
    have hthrew : (solution (unsolvable Rat) (oneNode Rat) (factor :: factors) start).threw = true := rfl
    refine ⟨_, optimize_of_problem hsome hproblem, ?_, ?_⟩
    · rw [if_neg (List.cons_ne_nil _ _), herror]
      exact solved_failed_iff.mpr (.inl hthrew)
    · rw [if_neg (List.cons_ne_nil _ _), herror]
      intro h
      -- the initial pose of the node is at one, the pose that is returned at zero
      have hpose := solved_leavesInitial_iff.mp h ⟨0, "frame", 0⟩ List.mem_cons_self
      have hx : (0.0 : Rat) = 1.0 :=
        congrArg (fun pose : Vector Rat 3 × Vector Rat 4 => pose.1[0]) hpose
      norm_num at hx
  · obtain ⟨prepared, hprepared⟩ : ∃ prepared, prepare (unsolvableAdjustment ℝ)
        { robustLossScalePx := 0 } onePoint = .ok prepared := ⟨_, rfl⟩
    rw [noSolverException_adjustBundle_iff]
    rintro ⟨-, h⟩
    obtain ⟨images, points, hrefined, -⟩ := h prepared hprepared
    have hthrows : SolveThrows prepared := .inr ⟨_, rfl⟩
    rw [(attempt_of_solveThrows hthrows).1] at hrefined
    -- empty values, and a point to be read from them
    obtain ⟨-, hpoints⟩ := (refined_noValues_iff (unsolvableAdjustment_empty ℝ)).mp ⟨_, hrefined⟩
    cases hpoints

end SpatialPlatform.Adapters.Gtsam
