import SpatialPlatform.Engine.Cache.Key
import SpatialPlatform.Engine.Scheduler.GraphState
import SpatialPlatform.Engine.Workers.MockFeatures

/-!
# What a cache key says about an output

Two executions with the same cache key have the same task type, configuration
and build, and the same inputs up to their order (`sameKey_of_key_eq`). What
else the mock runner puts into a payload is not in the key: `contentHash_eq_iff`
says for which executions the content hashes agree nevertheless.
-/

namespace SpatialPlatform.Engine

open SpatialPlatform.Core SpatialPlatform.Lib

/-- One execution of a task by the mock runner: the build, the task in its
graph, the pipeline hash of the run, the artifact store at that time, and the
time. -/
structure Execution where
  build : EngineBuild
  graph : TaskGraph
  taskId : Uuid
  pipelineHash : String
  store : ArtifactStore
  now : String

namespace Execution

/-- The task cache of the engine. -/
def taskCache (build : EngineBuild) : TaskCache where
  sha256Hex := sha256HexString
  producerVersion := build.version
  engineGitCommit := build.gitCommit

variable (jsonLib : JsonLibrary) (e : Execution)

def task : TaskInstance := e.graph.task e.taskId

def request : TaskRequest := e.graph.request e.pipelineHash e.taskId

/-- The cache key of the task. -/
def key : String := (taskCache e.build).taskKey e.task

/-- The content hash that the runner announces, if any. -/
def contentHash : Option ArtifactRef :=
  (mockPipelineRunner jsonLib e.build e.now e.store e.request).findSome? RunnerStep.artifact?

/-! ## What is hashed

The key hashes one text and the content hash another one. Both are written out
here as functions of the task. -/

/-- The bytes that `ComputeKey` hashes. -/
def preimage : String :=
  TaskCache.keyPreimage e.task.definition.type e.task.inputs (sha256HexString e.task.configJson)
    e.build.version e.build.gitCommit

theorem key_eq : e.key = sha256HexString e.preimage := rfl

/-- The quality report of a `validate` task. -/
def report : Except JsonException QualityReport :=
  evaluateQuality jsonLib e.build e.now e.pipelineHash "validate" e.task.configJson e.task.inputs

/-- The first input, if the store holds it. -/
def imageRef : Option ArtifactRef :=
  match e.task.inputs with
  | [] => none
  | front :: _ =>
      match e.store.get front with
      | .ok (some _) => some front
      | _ => none

/-- The features of an image, as they are printed. -/
def featureDocument (count : Nat) (image : ArtifactRef) : Json :=
  featurePayload (mockFeatureInput (mockFeatures count (mockSeed image)))

/-- The JSON document that the runner prints, with its indentation. -/
def document : Option (Option Nat × Json) :=
  if e.task.definition.type = "validate" then
    (e.report jsonLib).toOption.map fun report => (some 2, report.toJson)
  else if e.task.definition.type = "feature_extract" then
    (mockCount jsonLib e.task.configJson).toOption.bind fun count =>
      e.imageRef.map fun image => (none, featureDocument count image)
  else none

/-- The payload that the runner stores. -/
def payload : Option String :=
  if e.task.definition.type = "validate" ∨ e.task.definition.type = "feature_extract" then
    (e.document jsonLib).map fun (indent, j) => jsonLib.dump indent j
  else some (stagePayload e.request)

/-- `runFeatureExtract` stores the features of the first input: a payload that
the store returns has the digest that it was asked for by. -/
theorem toOption_runFeatureExtract :
    (runFeatureExtract jsonLib e.store e.request).toOption =
      (((mockCount jsonLib e.task.configJson).toOption.bind fun count =>
        e.imageRef.map fun image => (none, featureDocument count image)).map
          fun (indent, j) => jsonLib.dump indent j).map sha256HexString := by
  have hrefs : e.request.inputRefs = e.task.inputs := rfl
  have hconfig : e.request.configJson = e.task.configJson := rfl
  unfold runFeatureExtract imageRef
  rw [hrefs, hconfig]
  cases hinputs : e.task.inputs with
  | nil => cases (mockCount jsonLib e.task.configJson).toOption <;> rfl
  | cons front rest =>
      dsimp only
      cases hget : e.store.get front with
      | error error => cases (mockCount jsonLib e.task.configJson).toOption <;> rfl
      | ok found =>
          cases found with
          | none => cases (mockCount jsonLib e.task.configJson).toOption <;> rfl
          | some image =>
              have hdigest := ArtifactStore.sha256Hex_of_get hget
              unfold deriveMockFeatures
              dsimp only
              cases mockCount jsonLib e.task.configJson with
              | error error => rfl
              | ok count =>
                  rw [hdigest]
                  simp [bind, Except.bind, pure, Except.pure, writeFeatureArtifactPayload,
                    Except.mapError, Except.toOption, mockFeatureInput, featureDocument,
                    ArtifactStore.put, sha256HexString]

/-- The runner announces the digest of the payload. -/
theorem contentHash_eq : e.contentHash jsonLib = (e.payload jsonLib).map sha256HexString := by
  rw [contentHash, artifact_mockPipelineRunner, producedRef]
  show (if e.task.definition.type = "validate" then _ else _ : Except RunnerEnd ArtifactRef).toOption = _
  by_cases hvalidate : e.task.definition.type = "validate"
  · rw [if_pos hvalidate, payload, if_pos (.inl hvalidate), document, if_pos hvalidate, runValidate]
    have hreport : evaluateQuality jsonLib e.build e.now e.request.pipelineHash "validate"
        e.request.configJson e.request.inputRefs = e.report jsonLib := rfl
    rw [hreport]
    cases e.report jsonLib <;> rfl
  rw [if_neg hvalidate]
  show (if e.task.definition.type = "feature_extract" then _ else _ :
    Except RunnerEnd ArtifactRef).toOption = _
  by_cases hfeature : e.task.definition.type = "feature_extract"
  · rw [if_pos hfeature, payload, if_pos (.inr hfeature), document, if_neg hvalidate,
      if_pos hfeature]
    exact toOption_runFeatureExtract jsonLib e
  · rw [if_neg hfeature, payload, if_neg (by simp [hvalidate, hfeature])]
    rfl

/-! ## What a key says

The key is a text of lines. Parts without a line break can be read back from it,
and inputs were sorted, so they come back in some order. -/

/-- The parts of the key are single lines, as names and digests are, and a ref has no vertical bar. -/
structure SingleLines : Prop where
  type : '\n' ∉ e.task.definition.type.toList
  inputs : ∀ ref ∈ e.task.inputs, '\n' ∉ ref.toList ∧ '|' ∉ ref.toList
  version : '\n' ∉ e.build.version.toList
  gitCommit : '\n' ∉ e.build.gitCommit.toList

/-- The strings that the cache and the runner hash. -/
def hashed : List String := [e.preimage, e.task.configJson] ++ (e.payload jsonLib).toList

/-- The arguments that the cache gives to `ComputeKey`. -/
def components : KeyComponents where
  taskType := e.task.definition.type
  inputs := e.task.inputs
  configHash := sha256HexString e.task.configJson
  producerVersion := e.build.version
  engineGitCommit := e.build.gitCommit

end Execution

/-- Two executions have no SHA-256 collision among the strings that they hash. -/
def NoCollision (jsonLib : JsonLibrary) (e₁ e₂ : Execution) : Prop :=
  ∀ s ∈ e₁.hashed jsonLib, ∀ t ∈ e₂.hashed jsonLib, sha256HexString s = sha256HexString t → s = t

/-- What two executions with the same key have in common. -/
structure SameKey (e₁ e₂ : Execution) : Prop where
  type : e₁.task.definition.type = e₂.task.definition.type
  inputs : e₁.task.inputs.insertionSort (· ≤ ·) = e₂.task.inputs.insertionSort (· ≤ ·)
  config : e₁.task.configJson = e₂.task.configJson
  build : e₁.build = e₂.build

variable {jsonLib : JsonLibrary} {e₁ e₂ : Execution}

theorem Execution.SingleLines.components {e : Execution} (h : e.SingleLines) :
    e.components.SingleLines where
  taskType := h.type
  inputs ref href := (h.inputs ref href).1
  configHash := newline_not_mem_sha256Hex _
  producerVersion := h.version
  engineGitCommit := h.gitCommit

/-- The key determines all of its parts: the inputs up to their order. -/
theorem sameKey_of_key_eq (h₁ : e₁.SingleLines) (h₂ : e₂.SingleLines)
    (hsha : NoCollision jsonLib e₁ e₂) (hkey : e₁.key = e₂.key) : SameKey e₁ e₂ := by
  rw [Execution.key_eq, Execution.key_eq] at hkey
  have hpreimage : e₁.preimage = e₂.preimage :=
    hsha _ (by simp [Execution.hashed]) _ (by simp [Execution.hashed]) hkey
  have hsame := KeyComponents.same_of_preimage_eq h₁.components h₂.components hpreimage
  refine ⟨hsame.taskType, hsame.sorted_eq, ?_, ?_⟩
  · exact hsha _ (by simp [Execution.hashed]) _ (by simp [Execution.hashed]) hsame.configHash
  · have hbuild (b₁ b₂ : EngineBuild) (hv : b₁.version = b₂.version)
        (hc : b₁.gitCommit = b₂.gitCommit) : b₁ = b₂ := by
      cases b₁
      cases b₂
      cases hv
      cases hc
      rfl
    exact hbuild _ _ hsame.producerVersion hsame.engineGitCommit

/-! ## When the outputs agree

Two texts of the key are equal only if the task types, the inputs and the
configurations are. So for each type of stage it remains to be seen what the
payload takes from elsewhere. -/

/-- The executions agree in what the runner takes from outside the key: a
`validate` task prints the pipeline hash and the time, unless its configuration
cannot be read; a `feature_extract` task reads its first input; every other task
prints its inputs in their order. -/
def SameSource (jsonLib : JsonLibrary) (e₁ e₂ : Execution) : Prop :=
  if e₁.task.definition.type = "validate" then
    (jsonLib.parse e₁.task.configJson).toOption = none ∨
      e₁.pipelineHash = e₂.pipelineHash ∧ e₁.now = e₂.now
  else if e₁.task.definition.type = "feature_extract" then
    (mockCount jsonLib e₁.task.configJson).toOption = none ∨
      e₁.imageRef.map mockSeed = e₂.imageRef.map mockSeed
  else e₁.task.inputs = e₂.task.inputs

/-- The documents of both executions are read back as they were. -/
def DocumentsRoundTrip (jsonLib : JsonLibrary) (e₁ e₂ : Execution) : Prop :=
  ∀ d ∈ (e₁.document jsonLib).toList ++ (e₂.document jsonLib).toList, jsonLib.RoundTrips d.1 d.2

theorem payload_eq_of_contentHash_eq (hsha : NoCollision jsonLib e₁ e₂)
    (h : e₁.contentHash jsonLib = e₂.contentHash jsonLib) :
    e₁.payload jsonLib = e₂.payload jsonLib := by
  rw [Execution.contentHash_eq, Execution.contentHash_eq] at h
  cases hp₁ : e₁.payload jsonLib with
  | none =>
      rw [hp₁] at h
      exact (Option.map_eq_none_iff.mp h.symm).symm
  | some s =>
      cases hp₂ : e₂.payload jsonLib with
      | none => simp [hp₁, hp₂] at h
      | some t =>
          rw [hp₁, hp₂] at h
          rw [hsha s (by simp [Execution.hashed, hp₁]) t (by simp [Execution.hashed, hp₂])
            (Option.some.inj h)]

/-- A report needs a configuration that can be read, and names its run. -/
theorem Execution.report_of_parse {e : Execution} {config : Json}
    (h : jsonLib.parse e.task.configJson = .ok config) :
    ∃ report, e.report jsonLib = .ok report ∧ report.pipelineHash = e.pipelineHash ∧
      report.generatedAt = e.now := by
  simp [Execution.report, evaluateQuality, h, bind, Except.bind, pure, Except.pure]

theorem Execution.report_of_error {e : Execution} {error : JsonException}
    (h : jsonLib.parse e.task.configJson = .error error) : e.report jsonLib = .error error := by
  simp [Execution.report, evaluateQuality, h, bind, Except.bind]

/-- Beside the key, a report depends on the pipeline hash and the time. -/
theorem SameKey.report_eq (hkey : SameKey e₁ e₂) (hhash : e₁.pipelineHash = e₂.pipelineHash)
    (hnow : e₁.now = e₂.now) : e₁.report jsonLib = e₂.report jsonLib := by
  unfold Execution.report evaluateQuality runSeed
  rw [hkey.inputs, hkey.config, hkey.build, hhash, hnow]

/-- The `validate` stage. -/
theorem validate_payload_iff (hkey : SameKey e₁ e₂) (hjson : DocumentsRoundTrip jsonLib e₁ e₂)
    (htype : e₁.task.definition.type = "validate") :
    e₁.payload jsonLib = e₂.payload jsonLib ↔ SameSource jsonLib e₁ e₂ := by
  have htype₂ := hkey.type.symm.trans htype
  have hdocument {e : Execution} (h : e.task.definition.type = "validate") :
      e.document jsonLib = (e.report jsonLib).toOption.map fun report => (some 2, report.toJson) :=
    if_pos h
  have hpayload {e : Execution} (h : e.task.definition.type = "validate") :
      e.payload jsonLib = (e.document jsonLib).map fun (indent, j) => jsonLib.dump indent j :=
    if_pos (.inl h)
  rw [SameSource, if_pos htype, hpayload htype, hpayload htype₂]
  cases hparse : jsonLib.parse e₁.task.configJson with
  | error error =>
      rw [hdocument htype, hdocument htype₂, Execution.report_of_error hparse,
        Execution.report_of_error (hkey.config ▸ hparse)]
      simp [Except.toOption]
  | ok config =>
      obtain ⟨report₁, hreport₁, hhash₁, hnow₁⟩ := Execution.report_of_parse hparse
      have hparse₂ : jsonLib.parse e₂.task.configJson = .ok config := hkey.config ▸ hparse
      obtain ⟨report₂, hreport₂, hhash₂, hnow₂⟩ := Execution.report_of_parse hparse₂
      have hd₁ : e₁.document jsonLib = some (some 2, report₁.toJson) := by
        rw [hdocument htype, hreport₁]
        rfl
      have hd₂ : e₂.document jsonLib = some (some 2, report₂.toJson) := by
        rw [hdocument htype₂, hreport₂]
        rfl
      -- the report is printed without loss, so equal payloads are equal reports
      constructor
      · intro hdump
        rw [hd₁, hd₂] at hdump
        have hjson₁ := hjson _ (by simp [hd₁]; exact .inl rfl)
        have hjson₂ := hjson _ (by simp [hd₂]; exact .inr rfl)
        have hsame := QualityReport.toJson_inj (hjson₁.eq hjson₂ (Option.some.inj hdump))
        right
        exact ⟨hhash₁.symm.trans (hsame.1.trans hhash₂), hnow₁.symm.trans (hsame.2.trans hnow₂)⟩
      · intro hsource
        rcases hsource with hnone | ⟨hhash, hnow⟩
        · cases hnone
        · rw [hdocument htype, hdocument htype₂, hkey.report_eq hhash hnow]

/-- The `feature_extract` stage. -/
theorem featureExtract_payload_iff (hkey : SameKey e₁ e₂)
    (hjson : DocumentsRoundTrip jsonLib e₁ e₂)
    (htype : e₁.task.definition.type = "feature_extract") :
    e₁.payload jsonLib = e₂.payload jsonLib ↔ SameSource jsonLib e₁ e₂ := by
  have htype₂ := hkey.type.symm.trans htype
  have hdocument {e : Execution} (h : e.task.definition.type = "feature_extract") :
      e.document jsonLib = (mockCount jsonLib e.task.configJson).toOption.bind fun count =>
        e.imageRef.map fun image => (none, Execution.featureDocument count image) := by
    rw [Execution.document, if_neg (by simp [h]), if_pos h]
  have hpayload {e : Execution} (h : e.task.definition.type = "feature_extract") :
      e.payload jsonLib = (e.document jsonLib).map fun (indent, j) => jsonLib.dump indent j :=
    if_pos (.inr h)
  rw [SameSource, if_neg (by simp [htype]), if_pos htype, hpayload htype, hpayload htype₂]
  cases hcount : mockCount jsonLib e₁.task.configJson with
  | error error =>
      rw [hdocument htype, hdocument htype₂, ← hkey.config, hcount]
      simp [Except.toOption]
  | ok count =>
      have hd₁ : e₁.document jsonLib =
          e₁.imageRef.map fun image => (none, Execution.featureDocument count image) := by
        rw [hdocument htype, hcount]
        rfl
      have hd₂ : e₂.document jsonLib =
          e₂.imageRef.map fun image => (none, Execution.featureDocument count image) := by
        rw [hdocument htype₂, ← hkey.config, hcount]
        rfl
      have hok : (Except.ok count : Except JsonException Nat).toOption ≠ none := by simp [Except.toOption]
      rw [hd₁, hd₂, or_iff_right hok]
      cases himage₁ : e₁.imageRef with
      | none => cases e₂.imageRef <;> simp
      | some image₁ =>
          cases himage₂ : e₂.imageRef with
          | none => simp
          | some image₂ =>
              simp only [Option.map_some, Option.some.injEq]
              constructor
              · intro hdump
                have hjson₁ := hjson _ (by simp [hd₁, himage₁]; exact .inl rfl)
                have hjson₂ := hjson _ (by simp [hd₂, himage₂]; exact .inr rfl)
                -- the payload holds the descriptors, and they tell the seed
                apply mockFeatures_injective (mockCount_pos hcount)
                exact featurePayload_descriptors (hjson₁.eq hjson₂ hdump)
              · intro hseed
                simp only [Execution.featureDocument, hseed]

/-- Every other stage. -/
theorem stage_payload_iff (h₁ : e₁.SingleLines) (h₂ : e₂.SingleLines) (hkey : SameKey e₁ e₂)
    (hvalidate : e₁.task.definition.type ≠ "validate")
    (hfeature : e₁.task.definition.type ≠ "feature_extract") :
    e₁.payload jsonLib = e₂.payload jsonLib ↔ SameSource jsonLib e₁ e₂ := by
  have hpayload {e : Execution} (hv : e.task.definition.type ≠ "validate")
      (hf : e.task.definition.type ≠ "feature_extract") :
      e.payload jsonLib = some (stagePayload e.request) := if_neg (by simp [hv, hf])
  have hrefs (refs : List ArtifactRef) : (String.join (refs.map ("|" ++ ·))).toList =
      prefixed '|' (refs.map String.toList) := by
    induction refs with
    | nil => rfl
    | cons ref refs ih => simp [String.join_cons, ih, prefixed]
  have htext (e : Execution) : stagePayload e.request = e.task.definition.type ++ "|" ++
      e.task.configJson ++ String.join (e.task.inputs.map ("|" ++ ·)) := rfl
  rw [SameSource, if_neg hvalidate, if_neg hfeature, hpayload hvalidate hfeature,
    hpayload (hkey.type ▸ hvalidate) (hkey.type ▸ hfeature), htext, htext, hkey.type, hkey.config,
    Option.some.injEq]
  constructor
  · intro h
    have hchars := congrArg String.toList h
    simp only [String.toList_append, hrefs] at hchars
    have hparts := prefixed_inj (by
        intro part hpart
        obtain ⟨ref, href, rfl⟩ := List.mem_map.mp hpart
        exact (h₁.inputs ref href).2) (by
        intro part hpart
        obtain ⟨ref, href, rfl⟩ := List.mem_map.mp hpart
        exact (h₂.inputs ref href).2) (List.append_cancel_left hchars)
    exact List.map_injective_iff.mpr (fun _ _ => String.toList_inj.mp) hparts
  · intro h
    rw [h]

/-- Two executions with the same key produce the same content hash exactly when
they agree in what the runner takes from outside the key. -/
theorem contentHash_eq_iff (h₁ : e₁.SingleLines) (h₂ : e₂.SingleLines)
    (hsha : NoCollision jsonLib e₁ e₂) (hjson : DocumentsRoundTrip jsonLib e₁ e₂)
    (hkey : e₁.key = e₂.key) :
    e₁.contentHash jsonLib = e₂.contentHash jsonLib ↔ SameSource jsonLib e₁ e₂ := by
  have hsame := sameKey_of_key_eq h₁ h₂ hsha hkey
  have hpayload : e₁.payload jsonLib = e₂.payload jsonLib ↔ SameSource jsonLib e₁ e₂ := by
    by_cases hvalidate : e₁.task.definition.type = "validate"
    · exact validate_payload_iff hsame hjson hvalidate
    by_cases hfeature : e₁.task.definition.type = "feature_extract"
    · exact featureExtract_payload_iff hsame hjson hfeature
    exact stage_payload_iff h₁ h₂ hsame hvalidate hfeature
  rw [← hpayload]
  constructor
  · exact payload_eq_of_contentHash_eq hsha
  · intro h
    rw [Execution.contentHash_eq, Execution.contentHash_eq, h]

/-! The `reconstruct` stage, with two inputs. -/

private def emptyJson : JsonLibrary where
  parse _ := .ok (.obj [])
  dump _ _ := "\x7b\x7d"

private def reconstruct (inputs : List ArtifactRef) (pipelineHash now : String) : Execution where
  build := ⟨"0.1.0", "c0ffee"⟩
  graph := (TaskGraph.build ⟨9⟩ ⟨8⟩
    [{ id := ⟨1⟩, definition := { type := "reconstruct" }, inputs := inputs }]
    []).toOption.getD (.empty ⟨9⟩)
  taskId := ⟨1⟩
  pipelineHash := pipelineHash
  store := ⟨fun _ => .ok none⟩
  now := now

private theorem singleLines_reconstruct (pipelineHash now : String) :
    (reconstruct ["left", "right"] pipelineHash now).SingleLines where
  type := show '\n' ∉ "reconstruct".toList by decide
  inputs := show ∀ ref ∈ ["left", "right"], '\n' ∉ ref.toList ∧ '|' ∉ ref.toList by decide
  version := show '\n' ∉ "0.1.0".toList by decide
  gitCommit := show '\n' ∉ "c0ffee".toList by decide

private theorem preimage_reconstruct (inputs : List ArtifactRef) (pipelineHash now : String) :
    (reconstruct inputs pipelineHash now).preimage =
      TaskCache.keyPreimage "reconstruct" inputs (sha256HexString "") "0.1.0" "c0ffee" := rfl

private theorem payload_reconstruct (inputs : List ArtifactRef) (pipelineHash now : String) :
    (reconstruct inputs pipelineHash now).payload emptyJson =
      some ("reconstruct" ++ "|" ++ "" ++ String.join (inputs.map ("|" ++ ·))) :=
  if_neg (show ¬ ("reconstruct" = "validate" ∨ "reconstruct" = "feature_extract") by decide)

private def reconstructHashed : List String :=
  [TaskCache.keyPreimage "reconstruct" ["left", "right"] (sha256HexString "") "0.1.0" "c0ffee", "",
    "reconstruct" ++ "|" ++ "" ++ String.join (["left", "right"].map ("|" ++ ·))]

private theorem nodup_reconstructHashed : (reconstructHashed.map sha256HexString).Nodup := by
  decide +kernel

/-- In two pipeline runs, at different times, the same task has the same output. -/
theorem contentHash_eq_across_runs :
    (reconstruct ["left", "right"] "p1" "2024-01-01T00:00:00Z").contentHash emptyJson =
      (reconstruct ["left", "right"] "p2" "2024-01-01T00:00:01Z").contentHash emptyJson := by
  have hhashed (pipelineHash now : String) :
      (reconstruct ["left", "right"] pipelineHash now).hashed emptyJson = reconstructHashed := by
    rw [Execution.hashed, preimage_reconstruct, payload_reconstruct]
    rfl
  apply (contentHash_eq_iff (singleLines_reconstruct _ _) (singleLines_reconstruct _ _) ?_ ?_ ?_).mpr
  · show ["left", "right"] = ["left", "right"]
    rfl
  · intro s hs t ht heq
    rw [hhashed] at hs ht
    exact List.inj_on_of_nodup_map nodup_reconstructHashed hs ht heq
  · intro d hd
    cases hd
  · rfl

/-- The key sorts the inputs, the payload does not. -/
theorem swapped_inputs_differ :
    ¬ ((reconstruct ["left", "right"] "" "").key = (reconstruct ["right", "left"] "" "").key →
        (reconstruct ["left", "right"] "" "").contentHash emptyJson =
          (reconstruct ["right", "left"] "" "").contentHash emptyJson) := by
  have hkey : (reconstruct ["left", "right"] "" "").key =
      (reconstruct ["right", "left"] "" "").key := by
    have hsorted : ["left", "right"].insertionSort (· ≤ ·) =
        ["right", "left"].insertionSort (· ≤ ·) := by decide +kernel
    rw [Execution.key_eq, Execution.key_eq, preimage_reconstruct, preimage_reconstruct,
      TaskCache.keyPreimage, TaskCache.keyPreimage, hsorted]
  have hpayload : sha256HexString ("reconstruct" ++ "|" ++ "" ++ "|left|right") ≠
      sha256HexString ("reconstruct" ++ "|" ++ "" ++ "|right|left") := by decide +kernel
  intro h
  have hhash := h hkey
  rw [Execution.contentHash_eq, Execution.contentHash_eq, payload_reconstruct,
    payload_reconstruct] at hhash
  exact hpayload (Option.some.inj hhash)

end SpatialPlatform.Engine
