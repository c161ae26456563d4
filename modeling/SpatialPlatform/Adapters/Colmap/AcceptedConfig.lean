import SpatialPlatform.Adapters.Colmap.ColmapConfig

/-!
# Accepted configurations

What the reader of `adapters/colmap/colmap_config.cpp` guarantees, and that the
writer keeps it.

* `accepted_read_back` — an accepted configuration is written and read back as
  it is, and its plan follows the order of the stages.
-/

namespace SpatialPlatform.Adapters.Colmap

open SpatialPlatform.Core SpatialPlatform.Lib

theorem rejectIf_eq_ok_iff {bad : Prop} [Decidable bad] {message : String} {u : Unit} :
    rejectIf bad message = .ok u ↔ ¬ bad := by
  unfold rejectIf
  split
  · next hbad => exact ⟨fun h => (nomatch h), fun h => absurd hbad h⟩
  · next hgood => exact ⟨fun _ => hgood, fun _ => rfl⟩

/-! ## What the reader guarantees

Every reader of a section is inverted: what it returns has passed the checks of
that section. The stages are read one after the other, so `readStages_eq_ok` is
an induction over the entries of the array, with the names that were seen before
as its parameter. -/

/-- The checks of `bundle_adjuster`. -/
structure BundleAdjusterOptions.Valid (o : BundleAdjusterOptions) : Prop where
  lossFunction : o.lossFunction = "SoftL1" ∨ o.lossFunction = "Trivial" ∨ o.lossFunction = "Cauchy"
  finite : o.lossScalePx.isFinite = true
  lossScalePx : ¬ o.lossScalePx < 0.0
  maxNumIterations : ¬ o.maxNumIterations < 1
  refineFocalLength : o.refineFocalLength = false
  refinePrincipalPoint : o.refinePrincipalPoint = false
  refineExtraParams : o.refineExtraParams = false
  refineIntrinsics : o.refineIntrinsics = false

/-- The checks of a configuration. -/
structure ColmapConfig.Valid (c : ColmapConfig) : Prop where
  threads : ¬ (c.threads = 0 ∨ c.threads < -1)
  maxRatio : c.matcher.maxRatio.isFinite = true
  maxDistance : c.matcher.maxDistance.isFinite = true
  bundleAdjuster : c.bundleAdjuster.Valid
  known : ∀ stage ∈ c.enabledStages, isKnownStage stage = true
  nodup : c.enabledStages.Nodup
  seed : "bundle_adjuster" ∈ c.enabledStages → c.seed ≠ ""

theorem readSection_eq_ok {α : Type} {doc : Json} {name : String} {keys : List String}
    {read : Json → Except ReadException α} {defaults a : α}
    (h : readSection doc name keys read defaults = .ok a) :
    a = defaults ∨ ∃ j, doc.member? name = some j ∧ read j = .ok a := by
  unfold readSection at h
  split at h
  · cases h
    exact Or.inl rfl
  · next j hj =>
      obtain ⟨_, _, h⟩ := bind_eq_ok_iff.mp h
      obtain ⟨_, _, h⟩ := bind_eq_ok_iff.mp h
      exact Or.inr ⟨j, hj, h⟩

theorem finite_of_readMatcher {j : Json} {o : MatcherOptions} (hfinite : j.FiniteNumbers)
    (h : readMatcher j = .ok o) : o.maxRatio.isFinite = true ∧ o.maxDistance.isFinite = true := by
  unfold readMatcher at h
  obtain ⟨_, _, h⟩ := bind_eq_ok_iff.mp h
  obtain ⟨_, hratio, h⟩ := bind_eq_ok_iff.mp h
  obtain ⟨_, hdistance, h⟩ := bind_eq_ok_iff.mp h
  obtain ⟨_, _, h⟩ := bind_eq_ok_iff.mp h
  cases h
  exact ⟨isFinite_of_valueOr hfinite (by decide +kernel) hratio,
    isFinite_of_valueOr hfinite (by decide +kernel) hdistance⟩

theorem valid_of_readBundleAdjuster {j : Json} {o : BundleAdjusterOptions}
    (hfinite : j.FiniteNumbers) (h : readBundleAdjuster j = .ok o) : o.Valid := by
  unfold readBundleAdjuster at h
  simp only [bind_eq_ok_iff, rejectIf_eq_ok_iff] at h
  obtain ⟨_, _, _, hloss, _, hscale, _, hpositive, _, _, _, hiterations, _, _, _, _, _, _, _, _, _, _,
    _, hfixed, h⟩ := h
  cases h
  simp only [Bool.or_eq_true, not_or, Bool.not_eq_true] at hfixed
  obtain ⟨⟨⟨hfocal, hprincipal⟩, hextra⟩, hintrinsics⟩ := hfixed
  refine ⟨by grind, isFinite_of_valueOr hfinite (by decide +kernel) hscale, hpositive, hiterations,
    hfocal, hprincipal, hextra, hintrinsics⟩

/-- The names that were read are known and all different. -/
theorem readStages_eq_ok {entries : List Json} {seen stages : List String}
    (h : readStages entries seen = .ok stages) (hknown : ∀ stage ∈ seen, isKnownStage stage = true)
    (hnodup : seen.Nodup) :
    (∀ stage ∈ stages, isKnownStage stage = true) ∧ stages.Nodup := by
  induction entries generalizing seen with
  | nil =>
      cases h
      exact ⟨hknown, hnodup⟩
  | cons entry entries ih =>
      cases entry with
      | str name =>
          unfold readStages at h
          split at h
          · cases h
          next hname =>
          split at h
          · cases h
          next hnew =>
          refine ih h ?_ ?_
          · intro stage hstage
            rcases List.mem_append.mp hstage with hold | hlast
            · exact hknown stage hold
            · rw [List.mem_singleton.mp hlast]
              simpa using hname
          · rw [← List.concat_eq_append]
            exact hnodup.concat hnew
      | _ => cases h

theorem valid_of_readConfig {doc : Json} {c : ColmapConfig} (hfinite : doc.FiniteNumbers)
    (h : readConfig doc = .ok c) : c.Valid := by
  unfold readConfig at h
  simp only [bind_eq_ok_iff, rejectIf_eq_ok_iff] at h
  obtain ⟨_, _, _, _, _, _, threads, _, _, hthreads, seed, _, _, _, matcher, hmatcher, _, _, bundle,
    hbundle, stages, hstages, _, hseed, h⟩ := h
  cases h
  have hmatcher : matcher.maxRatio.isFinite = true ∧ matcher.maxDistance.isFinite = true := by
    rcases readSection_eq_ok hmatcher with rfl | ⟨j, hj, hread⟩
    · exact ⟨by decide +kernel, by decide +kernel⟩
    · exact finite_of_readMatcher (hfinite.member hj) hread
  have hbundle : bundle.Valid := by
    rcases readSection_eq_ok hbundle with rfl | ⟨j, hj, hread⟩
    · exact ⟨Or.inl rfl, by decide +kernel, by decide +kernel, by decide, rfl, rfl, rfl, rfl⟩
    · exact valid_of_readBundleAdjuster (hfinite.member hj) hread
  have hstages : (∀ stage ∈ stages, isKnownStage stage = true) ∧ stages.Nodup := by
    unfold readEnabledStages at hstages
    split at hstages
    · cases hstages
      exact ⟨fun _ h => absurd h List.not_mem_nil, List.nodup_nil⟩
    · exact readStages_eq_ok hstages (fun _ h => absurd h List.not_mem_nil) List.nodup_nil
    · cases hstages
  exact ⟨hthreads, hmatcher.1, hmatcher.2, hbundle, hstages.1, hstages.2,
    fun hmem hempty => hseed ⟨hmem, hempty⟩⟩

/-! ## What the writer keeps

The other direction, section by section: the members that the writer prints are
read as the options they were printed from. The checks for unknown members and
for the vocabulary of calibrations run over lists, and so do the inductions; the
rest is evaluation. -/

theorem rejectMembers_of_forall {ms : List (String × Json)}
    (h : ∀ m ∈ ms, m.1 ∉ calibrationKeys ∧ rejectCalibrationVocabulary m.2 = .ok ()) :
    rejectMembers ms = .ok () := by
  induction ms with
  | nil => rfl
  | cons m ms ih =>
      obtain ⟨key, value⟩ := m
      obtain ⟨hkey, hvalue⟩ := h _ List.mem_cons_self
      rw [rejectMembers, rejectMember, if_neg hkey, hvalue,
        ih fun m hm => h m (List.mem_cons_of_mem _ hm)]
      rfl

theorem rejectCalibrationVocabulary_object {members : List (String × Json)}
    (h : ∀ m ∈ members, m.1 ∉ calibrationKeys ∧ rejectCalibrationVocabulary m.2 = .ok ()) :
    rejectCalibrationVocabulary (.object members) = .ok () :=
  rejectMembers_of_forall fun m hm => h m ((List.perm_insertionSort _ _).mem_iff.mp hm)

theorem rejectElements_texts (texts : List String) : rejectElements (texts.map .str) = .ok () := by
  induction texts with
  | nil => rfl
  | cons text texts ih =>
      rw [List.map_cons, rejectElements, ih]
      rfl

theorem rejectUnknownKeys_object {members : List (String × Json)} {name : String}
    {allowed : List String} (h : ∀ m ∈ members, m.1 ∈ allowed) :
    rejectUnknownKeys (.object members) name allowed = .ok () := by
  have hnone : (members.insertionSort Json.KeyLE).find? (·.1 ∉ allowed) = none := by
    rw [List.find?_eq_none]
    intro m hm
    have hallowed := h m ((List.perm_insertionSort _ _).mem_iff.mp hm)
    simpa using hallowed
  simp only [rejectUnknownKeys, Json.object, hnone]
  rfl

theorem readSection_object {α : Type} {members options : List (String × Json)} {name : String}
    {keys : List String} {read : Json → Except ReadException α} {defaults a : α}
    (hkeys : (members.map (·.1)).Nodup) (hmem : (name, Json.object options) ∈ members)
    (hallowed : ∀ m ∈ options, m.1 ∈ keys) (hread : read (.object options) = .ok a) :
    readSection (.object members) name keys read defaults = .ok a := by
  have hobject : rejectIf (!(Json.object options).isObject) ("'" ++ name ++ "' must be an object") =
      .ok () := rejectIf_eq_ok_iff.mpr (by simp [Json.object, Json.isObject])
  simp only [readSection, Json.member?_object hkeys hmem, hobject, ok_bind,
    rejectUnknownKeys_object hallowed, hread]

theorem readFeatureExtractor_members (o : FeatureExtractorOptions) :
    readFeatureExtractor (.object o.members) = .ok o := by
  have hkeys : (o.members.map (·.1)).Nodup := by simp [FeatureExtractorOptions.members]
  unfold readFeatureExtractor
  rw [valueOr_object hkeys 3200 (by simp [FeatureExtractorOptions.members])
      (getInt32_toInt o.maxImageSize),
    valueOr_object hkeys 8192 (by simp [FeatureExtractorOptions.members])
      (getInt32_toInt o.maxNumFeatures),
    valueOr_object hkeys "SIFT" (by simp [FeatureExtractorOptions.members])
      (getString_str o.detector),
    valueOr_object hkeys "SIFT" (by simp [FeatureExtractorOptions.members])
      (getString_str o.descriptor),
    valueOr_object hkeys "auto" (by simp [FeatureExtractorOptions.members])
      (getString_str o.siftScaleSpaceOctaves),
    valueOr_object hkeys "auto" (by simp [FeatureExtractorOptions.members])
      (getString_str o.siftDomainSizePooling)]
  rfl

theorem readMatcher_members (o : MatcherOptions) : readMatcher (.object o.members) = .ok o := by
  have hkeys : (o.members.map (·.1)).Nodup := by simp [MatcherOptions.members]
  unfold readMatcher
  rw [valueOr_object hkeys true (by simp [MatcherOptions.members]) (getBool_bool o.guidedMatching),
    valueOr_object hkeys 0.8 (by simp [MatcherOptions.members]) (getDouble_float o.maxRatio),
    valueOr_object hkeys 0.7 (by simp [MatcherOptions.members]) (getDouble_float o.maxDistance),
    valueOr_object hkeys true (by simp [MatcherOptions.members]) (getBool_bool o.crossCheck)]
  rfl

theorem readMapper_members (o : MapperOptions) : readMapper (.object o.members) = .ok o := by
  have hkeys : (o.members.map (·.1)).Nodup := by simp [MapperOptions.members]
  unfold readMapper
  rw [valueOr_object hkeys 15 (by simp [MapperOptions.members]) (getInt32_toInt o.minNumMatches),
    valueOr_object hkeys false (by simp [MapperOptions.members])
      (getBool_bool o.baRefinePrincipalPoint),
    valueOr_object hkeys 50000 (by simp [MapperOptions.members])
      (getInt32_toInt o.baMinNumResidualsForMultithreading)]
  rfl

theorem readBundleAdjuster_members {o : BundleAdjusterOptions} (h : o.Valid) :
    readBundleAdjuster (.object o.members) = .ok o := by
  have hkeys : (o.members.map (·.1)).Nodup := by simp [BundleAdjusterOptions.members]
  unfold readBundleAdjuster
  simp only [bind_eq_ok_iff, rejectIf_eq_ok_iff]
  refine ⟨_, valueOr_object hkeys _ (by simp [BundleAdjusterOptions.members]) (getString_str _),
    (), by grind [h.lossFunction],
    _, valueOr_object hkeys _ (by simp [BundleAdjusterOptions.members]) (getDouble_float _),
    (), h.lossScalePx,
    _, valueOr_object hkeys _ (by simp [BundleAdjusterOptions.members]) (getInt32_toInt _),
    (), h.maxNumIterations,
    _, valueOr_object hkeys _ (by simp [BundleAdjusterOptions.members]) (getBool_bool _),
    _, valueOr_object hkeys _ (by simp [BundleAdjusterOptions.members]) (getBool_bool _),
    _, valueOr_object hkeys _ (by simp [BundleAdjusterOptions.members]) (getBool_bool _),
    _, valueOr_object hkeys _ (by simp [BundleAdjusterOptions.members]) (getBool_bool _),
    _, valueOr_object hkeys _ (by simp [BundleAdjusterOptions.members]) (getBool_bool _),
    (), ?_, rfl⟩
  simp [h.refineFocalLength, h.refinePrincipalPoint, h.refineExtraParams, h.refineIntrinsics]

theorem readStages_texts {stages seen : List String} (hknown : ∀ stage ∈ stages, isKnownStage stage)
    (hnodup : (seen ++ stages).Nodup) :
    readStages (stages.map .str) seen = .ok (seen ++ stages) := by
  induction stages generalizing seen with
  | nil =>
      rw [List.append_nil]
      rfl
  | cons stage stages ih =>
      have hstage := hknown stage List.mem_cons_self
      have hnew : stage ∉ seen := by
        intro hmem
        exact (List.nodup_append.mp hnodup).2.2 stage hmem stage List.mem_cons_self rfl
      rw [List.append_cons] at hnodup ⊢
      rw [List.map_cons, readStages, hstage, if_neg (by simp), if_neg hnew]
      exact ih (fun other hother => hknown other (List.mem_cons_of_mem _ hother)) hnodup

theorem readConfig_members {c : ColmapConfig} (h : c.Valid) :
    readConfig (.object c.members) = .ok c := by
  have hkeys : (c.members.map (·.1)).Nodup := by simp [ColmapConfig.members]
  -- the written document has none of the names of calibrations
  have hvocabulary : rejectCalibrationVocabulary (.object c.members) = .ok () := by
    apply rejectCalibrationVocabulary_object
    simp only [ColmapConfig.members, List.forall_mem_cons, List.not_mem_nil, false_implies,
      implies_true, and_true]
    refine ⟨⟨by decide, rfl⟩, ⟨by decide, rfl⟩, ⟨by decide, ?_⟩, ⟨by decide, ?_⟩, ⟨by decide, ?_⟩,
      ⟨by decide, ?_⟩, ⟨by decide, rejectElements_texts _⟩⟩
    · apply rejectCalibrationVocabulary_object
      simp [FeatureExtractorOptions.members, calibrationKeys, rejectCalibrationVocabulary, pure,
        Except.pure]
    · apply rejectCalibrationVocabulary_object
      simp [MatcherOptions.members, calibrationKeys, rejectCalibrationVocabulary, pure, Except.pure]
    · apply rejectCalibrationVocabulary_object
      simp [MapperOptions.members, calibrationKeys, rejectCalibrationVocabulary, pure, Except.pure]
    · apply rejectCalibrationVocabulary_object
      simp [BundleAdjusterOptions.members, calibrationKeys, rejectCalibrationVocabulary, pure,
        Except.pure]
  have hunknown : rejectUnknownKeys (.object c.members) "config" topLevelKeys = .ok () :=
    rejectUnknownKeys_object (by simp [ColmapConfig.members, topLevelKeys])
  have hstages : readEnabledStages (.object c.members) = .ok c.enabledStages := by
    have hmember : (Json.object c.members).member? "enabled_stages" =
        some (.arr (c.enabledStages.map .str)) :=
      Json.member?_object hkeys (by simp [ColmapConfig.members])
    simp only [readEnabledStages, hmember]
    exact readStages_texts h.known h.nodup
  unfold readConfig
  simp only [bind_eq_ok_iff, rejectIf_eq_ok_iff]
  exact ⟨(), hvocabulary, (), by simp [Json.object, Json.isObject], (), hunknown,
    _, valueOr_object hkeys _ (by simp [ColmapConfig.members]) (getInt32_toInt _), (), h.threads,
    _, valueOr_object hkeys _ (by simp [ColmapConfig.members]) (getString_str _),
    _, readSection_object hkeys (by simp [ColmapConfig.members])
      (by simp [FeatureExtractorOptions.members, featureExtractorKeys])
      (readFeatureExtractor_members _),
    _, readSection_object hkeys (by simp [ColmapConfig.members])
      (by simp [MatcherOptions.members, matcherKeys]) (readMatcher_members _),
    _, readSection_object hkeys (by simp [ColmapConfig.members])
      (by simp [MapperOptions.members, mapperKeys]) (readMapper_members _),
    _, readSection_object hkeys (by simp [ColmapConfig.members])
      (by simp [BundleAdjusterOptions.members, bundleAdjusterKeys])
      (readBundleAdjuster_members h.bundleAdjuster),
    _, hstages, (), fun ⟨hmem, hempty⟩ => h.seed hmem hempty, rfl⟩

/-- `dump` has a text for every number of the configuration. -/
theorem printed_members {c : ColmapConfig} (h : c.Valid) :
    (Json.object c.members).printed = .object c.members := by
  have htexts : Json.printed ∘ Json.str = Json.str := funext Json.printed_str
  simp [htexts, ColmapConfig.members, FeatureExtractorOptions.members, MatcherOptions.members,
    MapperOptions.members, BundleAdjusterOptions.members, Json.printed, h.maxRatio, h.maxDistance,
    h.bundleAdjuster.finite]

/-! ## Accepted configurations

Both directions together. A configuration that was accepted is valid, a valid
one is read back, and the plan is a sublist of the stage order that takes a
stage only with what that stage asks for. -/

theorem finiteNumbers_unwrapEnvelope {doc : Json} (h : doc.FiniteNumbers) :
    (unwrapEnvelope doc).FiniteNumbers := by
  unfold unwrapEnvelope
  split
  · split
    · split
      · next hconfig =>
          split
          · exact h.member hconfig
          · exact h
      · exact h
    · exact h
  · exact h

/-- The written document has seven members, so it is not taken for an envelope. -/
theorem unwrapEnvelope_members (c : ColmapConfig) :
    unwrapEnvelope (.object c.members) = .object c.members := by
  have hlength : (c.members.insertionSort Json.KeyLE).length = 7 := List.length_insertionSort ..
  simp [unwrapEnvelope, Json.object, hlength]

theorem valid_of_fromJson {json : JsonLibrary} {text : String} {c : ColmapConfig}
    (hfinite : ∀ doc, json.parse text = .ok doc → doc.FiniteNumbers)
    (h : ColmapConfig.fromJson json text = .ok c) : c.Valid := by
  unfold ColmapConfig.fromJson at h
  split at h
  · have hempty : (Json.obj []).FiniteNumbers :=
      Json.finiteNumbers_obj.mpr fun _ hm => absurd hm List.not_mem_nil
    exact valid_of_readConfig (finiteNumbers_unwrapEnvelope hempty) (mapError_eq_ok_iff.mp h)
  · split at h
    · cases h
    · next doc hdoc =>
        exact valid_of_readConfig (finiteNumbers_unwrapEnvelope (hfinite doc hdoc))
          (mapError_eq_ok_iff.mp h)

/-- What `FromJson` asks of a configuration that runs a stage: the bundle
adjustment needs a seed, and no stage needs another. -/
def ColmapConfig.Permits (c : ColmapConfig) (stage : String) : Prop :=
  stage = "bundle_adjuster" → c.seed ≠ ""

theorem plan_sublist (c : ColmapConfig) : c.plan.Sublist stageOrder := by
  unfold ColmapConfig.plan
  split
  · exact List.take_sublist 3 stageOrder
  · exact List.filter_sublist

theorem permits_of_mem_plan {c : ColmapConfig} (h : c.Valid) {stage : String}
    (hstage : stage ∈ c.plan) : c.Permits stage := by
  rintro rfl
  unfold ColmapConfig.plan at hstage
  split at hstage
  · exact absurd hstage (by decide)
  · exact h.seed (by simpa using (List.mem_filter.mp hstage).2)

/-- The plan of an accepted configuration has the stages that it enables, and
the first three if it enables none. -/
theorem mem_plan {c : ColmapConfig} (h : c.Valid) {stage : String} :
    stage ∈ c.plan ↔
      if c.enabledStages.isEmpty then stage ∈ stageOrder.take 3 else stage ∈ c.enabledStages := by
  unfold ColmapConfig.plan
  split
  · exact Iff.rfl
  · rw [List.mem_filter, decide_eq_true_iff, and_iff_right_iff_imp]
    intro hstage
    have hknown := h.known stage hstage
    simpa [isKnownStage, stageOrder, or_assoc] using hknown

/-- A configuration that is accepted is accepted again when it is written,
without a change. Its plan keeps the order of the stages, and every stage in it
is permitted. -/
theorem accepted_read_back (json : JsonLibrary) (text : String) (c : ColmapConfig)
    (hfinite : ∀ doc, json.parse text = .ok doc → doc.FiniteNumbers)
    (hblank : ∀ blank, isBlank blank = true → ∀ doc, json.parse blank ≠ .ok doc)
    (hprint : json.parse (c.toJson json) = .ok (Json.object c.members).printed)
    (haccept : ColmapConfig.fromJson json text = .ok c) :
    ColmapConfig.fromJson json (c.toJson json) = .ok c ∧
      c.plan.Sublist stageOrder ∧ ∀ stage ∈ c.plan, c.Permits stage := by
  have hvalid := valid_of_fromJson hfinite haccept
  rw [printed_members hvalid] at hprint
  refine ⟨?_, plan_sublist c, fun stage => permits_of_mem_plan hvalid⟩
  have hsome : isBlank (c.toJson json) ≠ true := fun h => hblank _ h _ hprint
  simp only [ColmapConfig.fromJson, if_neg hsome, hprint, unwrapEnvelope_members,
    readConfig_members hvalid]
  rfl

theorem isBlank_append (a b : String) : isBlank (a ++ b) = (isBlank a && isBlank b) := by
  rw [isBlank, String.toList_append, List.all_append]
  rfl

/-! A configuration with two stages. -/

private def twoStages : ColmapConfig where
  threads := 4
  seed := "7"
  enabledStages := ["mapper", "bundle_adjuster"]

private def twoStagesText : String :=
  "\x7b\"enabled_stages\": [\"mapper\", \"bundle_adjuster\"], \"seed\": \"7\", \"threads\": 4\x7d"

/-- What `parse` makes of it. -/
private def twoStagesDocument : Json := .obj [
  ("enabled_stages", .arr [.str "mapper", .str "bundle_adjuster"]),
  ("seed", .str "7"),
  ("threads", .int 4)]

/-- What `dump` prints for the configuration. -/
private def twoStagesPrinted : String :=
  "\x7b" ++ ("\"bundle_adjuster\":\x7b\"loss_function\":\"SoftL1\",\"loss_scale_px\":0.0," ++
  "\"max_num_iterations\":100,\"refine_extra_params\":false,\"refine_extrinsics\":true," ++
  "\"refine_focal_length\":false,\"refine_intrinsics\":false,\"refine_principal_point\":false\x7d," ++
  "\"enabled_stages\":[\"mapper\",\"bundle_adjuster\"]," ++
  "\"feature_extractor\":\x7b\"descriptor\":\"SIFT\",\"detector\":\"SIFT\",\"max_image_size\":3200," ++
  "\"max_num_features\":8192,\"sift_domain_size_pooling\":\"auto\"," ++
  "\"sift_scale_space_octaves\":\"auto\"\x7d," ++
  "\"mapper\":\x7b\"ba_min_num_residuals_for_multithreading\":50000," ++
  "\"ba_refine_principal_point\":false,\"min_num_matches\":15\x7d," ++
  "\"matcher\":\x7b\"cross_check\":true,\"guided_matching\":true,\"max_distance\":0.7," ++
  "\"max_ratio\":0.8\x7d,\"seed\":\"7\",\"threads\":4\x7d")

/-- A library that knows both texts. -/
private def twoStagesLibrary : JsonLibrary where
  parse text :=
    if text = twoStagesText then .ok twoStagesDocument
    else if text = twoStagesPrinted then .ok (Json.object twoStages.members).printed
    else .error (.parseError "syntax error")
  dump _ _ := twoStagesPrinted

theorem two_stages_read_back :
    ColmapConfig.fromJson twoStagesLibrary (twoStages.toJson twoStagesLibrary) = .ok twoStages ∧
      twoStages.plan.Sublist stageOrder ∧ ∀ stage ∈ twoStages.plan, twoStages.Permits stage := by
  have hdocument : twoStagesLibrary.parse twoStagesText = .ok twoStagesDocument := by
    simp only [twoStagesLibrary, if_true]
  have hne : twoStagesPrinted ≠ twoStagesText := by decide +kernel
  apply accepted_read_back twoStagesLibrary twoStagesText
  · intro doc hdoc
    cases hdocument.symm.trans hdoc
    simp only [twoStagesDocument, Json.finiteNumbers_obj, Json.finiteNumbers_arr,
      List.forall_mem_cons, Json.finiteNumbers_str, Json.finiteNumbers_int, true_and, List.not_mem_nil,
      false_implies, implies_true, and_true]
    decide +kernel
  · intro blank hblank doc hdoc
    simp only [twoStagesLibrary] at hdoc
    split at hdoc
    · next htext =>
        rw [htext] at hblank
        exact absurd hblank (by decide +kernel)
    · split at hdoc
      · next htext =>
          rw [htext, twoStagesPrinted, isBlank_append] at hblank
          exact absurd (Bool.and_eq_true_iff.mp hblank).1 (by decide +kernel)
      · cases hdoc
  · simp only [twoStagesLibrary, ColmapConfig.toJson, if_neg hne, if_true]
  · have hsome : ¬ isBlank twoStagesText = true := by decide +kernel
    have henvelope : unwrapEnvelope twoStagesDocument = twoStagesDocument := rfl
    have hread : readConfig twoStagesDocument = .ok twoStages := rfl
    rw [ColmapConfig.fromJson, if_neg hsome, hdocument]
    simp only [henvelope, hread]
    rfl

end SpatialPlatform.Adapters.Colmap
