import SpatialPlatform.Core.Sha256
import SpatialPlatform.Engine.Cache.TaskCache
import SpatialPlatform.Lib.Separated

/-!
# What a cache key is a key of

`ComputeKey` hashes its parts as the lines of one text, the inputs sorted among
them. When no part contains a newline the lines can be told apart again: their
number shows how many inputs there are, and so which line is which. Two lists of
parts have the same key exactly when they agree up to the order of the inputs,
unless SHA-256 collides on their two texts (`key_eq_iff`).
-/

namespace SpatialPlatform.Engine

open SpatialPlatform.Core SpatialPlatform.Lib

/-- The arguments of `ComputeKey`. -/
structure KeyComponents where
  taskType : String
  inputs : List ArtifactRef
  configHash : String
  producerVersion : String
  engineGitCommit : String
  deriving DecidableEq, Repr

namespace KeyComponents

variable (c : KeyComponents)

/-- The text that is hashed. -/
def preimage : String :=
  TaskCache.keyPreimage c.taskType c.inputs c.configHash c.producerVersion c.engineGitCommit

/-- `ComputeKey`, with the SHA-256 of the engine. -/
def key : String :=
  TaskCache.computeKey ⟨sha256HexString, c.producerVersion, c.engineGitCommit⟩ c.taskType c.inputs
    c.configHash

theorem key_eq : c.key = sha256HexString c.preimage := rfl

/-- The lines of the text, without the last one, which nothing terminates. -/
def lines : List (List Char) :=
  c.taskType.toList :: (c.inputs.insertionSort (· ≤ ·)).map String.toList ++
    [c.configHash.toList, c.producerVersion.toList]

theorem toList_join_lines (refs : List ArtifactRef) :
    (String.join (refs.map (· ++ "\n"))).toList = terminated '\n' (refs.map String.toList) := by
  induction refs with
  | nil => rfl
  | cons ref refs ih => simp [String.join_cons, ih]

theorem toList_preimage :
    c.preimage.toList = terminated '\n' c.lines ++ c.engineGitCommit.toList := by
  simp only [preimage, TaskCache.keyPreimage, String.toList_append, toList_join_lines]
  simp [lines, terminated]

/-- No part of the key contains a newline. -/
structure SingleLines : Prop where
  taskType : '\n' ∉ c.taskType.toList
  inputs : ∀ ref ∈ c.inputs, '\n' ∉ ref.toList
  configHash : '\n' ∉ c.configHash.toList
  producerVersion : '\n' ∉ c.producerVersion.toList
  engineGitCommit : '\n' ∉ c.engineGitCommit.toList

variable {c}

theorem SingleLines.lines (h : c.SingleLines) : ∀ line ∈ c.lines, '\n' ∉ line := by
  intro line hline
  simp only [KeyComponents.lines, List.cons_append, List.mem_cons, List.mem_append, List.mem_map,
    List.mem_insertionSort, List.not_mem_nil, or_false] at hline
  rcases hline with rfl | ⟨ref, href, rfl⟩ | rfl | rfl
  · exact h.taskType
  · exact h.inputs ref href
  · exact h.configHash
  · exact h.producerVersion

/-- The components agree, the inputs as multisets. -/
structure Same (c₁ c₂ : KeyComponents) : Prop where
  taskType : c₁.taskType = c₂.taskType
  inputs : c₁.inputs.Perm c₂.inputs
  configHash : c₁.configHash = c₂.configHash
  producerVersion : c₁.producerVersion = c₂.producerVersion
  engineGitCommit : c₁.engineGitCommit = c₂.engineGitCommit

variable {c₁ c₂ : KeyComponents}

/-- Sorting makes the order of the inputs irrelevant. -/
theorem Same.sorted_eq (h : Same c₁ c₂) :
    c₁.inputs.insertionSort (· ≤ ·) = c₂.inputs.insertionSort (· ≤ ·) := by
  apply @List.Perm.eq_of_pairwise _ (· ≤ ·)
  · exact fun _ _ _ _ => le_antisymm
  · exact List.pairwise_insertionSort _ _
  · exact List.pairwise_insertionSort _ _
  · exact ((List.perm_insertionSort _ _).trans h.inputs).trans (List.perm_insertionSort _ _).symm

theorem Same.preimage_eq (h : Same c₁ c₂) : c₁.preimage = c₂.preimage := by
  simp only [preimage, TaskCache.keyPreimage]
  rw [h.sorted_eq, h.taskType, h.configHash, h.producerVersion, h.engineGitCommit]

/-- The text determines its parts: the two lines at the end and the one in front
are cut off by their places, and what is left are the sorted inputs, however
many. -/
theorem same_of_preimage_eq (h₁ : c₁.SingleLines) (h₂ : c₂.SingleLines)
    (h : c₁.preimage = c₂.preimage) : Same c₁ c₂ := by
  have hchars := congrArg String.toList h
  rw [toList_preimage, toList_preimage] at hchars
  obtain ⟨hlines, hcommit⟩ :=
    terminated_inj h₁.lines h₂.lines h₁.engineGitCommit h₂.engineGitCommit hchars
  unfold KeyComponents.lines at hlines
  obtain ⟨hfront, hback⟩ := List.append_inj' hlines (by simp)
  obtain ⟨htype, hrefs⟩ := List.cons.inj hfront
  simp only [List.cons.injEq, and_true] at hback
  have hsorted : c₁.inputs.insertionSort (· ≤ ·) = c₂.inputs.insertionSort (· ≤ ·) :=
    List.map_injective_iff.mpr (fun _ _ => String.toList_inj.mp) hrefs
  refine ⟨String.toList_inj.mp htype, ?_, String.toList_inj.mp hback.1,
    String.toList_inj.mp hback.2, String.toList_inj.mp hcommit⟩
  have hperm := List.perm_insertionSort (· ≤ ·) c₁.inputs
  rw [hsorted] at hperm
  exact hperm.symm.trans (List.perm_insertionSort _ _)

/-- **`ComputeKey` is injective up to the order of the inputs**, as far as
SHA-256 has no collision on the two texts. -/
theorem key_eq_iff (h₁ : c₁.SingleLines) (h₂ : c₂.SingleLines)
    (hsha : sha256HexString c₁.preimage = sha256HexString c₂.preimage →
      c₁.preimage = c₂.preimage) :
    c₁.key = c₂.key ↔
      c₁.taskType = c₂.taskType ∧ c₁.inputs.Perm c₂.inputs ∧ c₁.configHash = c₂.configHash ∧
        c₁.producerVersion = c₂.producerVersion ∧ c₁.engineGitCommit = c₂.engineGitCommit := by
  rw [key_eq, key_eq]
  constructor
  · intro h
    have hsame := same_of_preimage_eq h₁ h₂ (hsha h)
    exact ⟨hsame.taskType, hsame.inputs, hsame.configHash, hsame.producerVersion,
      hsame.engineGitCommit⟩
  · intro h
    obtain ⟨htype, hinputs, hconfig, hversion, hcommit⟩ := h
    rw [Same.preimage_eq ⟨htype, hinputs, hconfig, hversion, hcommit⟩]

/-- A `match` task with two inputs. -/
def matchComponents (left right : ArtifactRef) : KeyComponents where
  taskType := "match"
  inputs := [left, right]
  configHash := "5f"
  producerVersion := "0.1.0"
  engineGitCommit := "c0ffee"

theorem matchComponents_singleLines {left right : ArtifactRef} (hleft : '\n' ∉ left.toList)
    (hright : '\n' ∉ right.toList) : (matchComponents left right).SingleLines where
  taskType := by simp [matchComponents]
  inputs := by simp [matchComponents, hleft, hright]
  configHash := by simp [matchComponents]
  producerVersion := by simp [matchComponents]
  engineGitCommit := by simp [matchComponents]

/-- Swapping the inputs keeps the key, and another input changes it. -/
theorem matchComponents_keys :
    (matchComponents "a1" "b2").key = (matchComponents "b2" "a1").key ∧
      (matchComponents "a1" "b2").key ≠ (matchComponents "a1" "b3").key := by
  have hleft : (matchComponents "a1" "b2").SingleLines :=
    matchComponents_singleLines (by decide) (by decide)
  constructor
  · refine (key_eq_iff hleft (matchComponents_singleLines (by decide) (by decide)) ?_).mpr
      ⟨rfl, List.Perm.swap _ _ _, rfl, rfl, rfl⟩
    exact fun _ => Same.preimage_eq ⟨rfl, List.Perm.swap _ _ _, rfl, rfl, rfl⟩
  · intro h
    have hsame := (key_eq_iff hleft (matchComponents_singleLines (by decide) (by decide)) ?_).mp h
    · exact absurd (hsame.2.1.subset (a := "b2") (by decide)) (by decide)
    · intro hsha
      exact absurd hsha (by decide +kernel)

end KeyComponents

end SpatialPlatform.Engine
