import Mathlib.Data.List.Nodup

/-!
# Random samples and the best candidate

Drawing different numbers from a generator, and running through candidates while
the best one so far is kept.

* `drawDistinct_spec` — what is drawn is different, in range and not too much.
* `foldl_keepBetter` — no candidate is better than the one that is kept.
-/

namespace SpatialPlatform.Lib

/-! ## Samples

Numbers are drawn until enough of them differ; the invariant is about those
drawn so far. -/

section draw

variable {S : Type} (next : S → Nat × S) (n k : Nat)

/-- Draw numbers below `n` until there are `k` different ones, as often as there is fuel. -/
def drawDistinct : Nat → S → List Nat → List Nat × S
  | 0, s, chosen => (chosen, s)
  | fuel + 1, s, chosen =>
      if chosen.length < k then
        let r := (next s).1 % n
        drawDistinct fuel (next s).2 (if r ∈ chosen then chosen else chosen ++ [r])
      else (chosen, s)

/-- A sample: different numbers below `n`. -/
structure IsSample (n : Nat) (chosen : List Nat) : Prop where
  nodup : chosen.Nodup
  lt : ∀ r ∈ chosen, r < n

variable {n k}

theorem IsSample.nil : IsSample n [] := ⟨List.nodup_nil, by simp⟩

theorem IsSample.add {chosen : List Nat} (h : IsSample n chosen) {r : Nat} (hr : r < n) :
    IsSample n (if r ∈ chosen then chosen else chosen ++ [r]) := by
  split
  · exact h
  · next hnew =>
      refine ⟨h.nodup.append (List.nodup_singleton r) (List.disjoint_singleton.mpr hnew), ?_⟩
      intro x hx
      rcases List.mem_append.mp hx with hx | hx
      · exact h.lt x hx
      · rwa [List.mem_singleton.mp hx]

theorem drawDistinct_spec (hn : 0 < n) (fuel : Nat) {s : S} {chosen : List Nat}
    (h : IsSample n chosen) (hlen : chosen.length ≤ k) :
    IsSample n (drawDistinct next n k fuel s chosen).1 ∧
      (drawDistinct next n k fuel s chosen).1.length ≤ k := by
  induction fuel generalizing s chosen with
  | zero => exact ⟨h, hlen⟩
  | succ fuel ih =>
      unfold drawDistinct
      split
      · next hmore =>
          refine ih (h.add (Nat.mod_lt _ hn)) ?_
          split
          · exact hlen
          · rw [List.length_append]
            exact hmore
      · exact ⟨h, hlen⟩

end draw

/-! ## The best so far

A fold that keeps the better of two keeps the best of all, by induction over the
candidates with those already seen. -/

section best

variable {α : Type} (better : α → α → Prop) [DecidableRel better]

/-- The candidate, when there is none so far or it is better. -/
def keepBetter (best : Option α) (candidate : α) : Option α :=
  match best with
  | none => some candidate
  | some b => if better candidate b then some candidate else some b

/-- The best of some candidates. -/
structure IsBest (seen : List α) (b : α) : Prop where
  mem : b ∈ seen
  best : ∀ a ∈ seen, ¬ better a b

variable {better}

/-- Another candidate: it is the best one now, or the old one is still. -/
theorem IsBest.keepBetter [IsStrictOrder α better] {seen : List α} {b : α} (h : IsBest better seen b)
    (candidate : α) : ∃ b', keepBetter better (some b) candidate = some b' ∧
      IsBest better (seen ++ [candidate]) b' := by
  by_cases hbetter : better candidate b
  · refine ⟨candidate, if_pos hbetter, List.mem_append_right _ (List.mem_singleton_self _), ?_⟩
    intro a ha hlost
    rcases List.mem_append.mp ha with ha | ha
    · exact h.best a ha (IsTrans.trans _ _ _ hlost hbetter)
    · rw [List.mem_singleton.mp ha] at hlost
      exact irrefl candidate hlost
  · refine ⟨b, if_neg hbetter, List.mem_append_left _ h.mem, ?_⟩
    intro a ha
    rcases List.mem_append.mp ha with ha | ha
    · exact h.best a ha
    · rwa [List.mem_singleton.mp ha]

/-- Some candidates more: the best of all of them is kept. -/
theorem IsBest.foldl [IsStrictOrder α better] {seen : List α} {b : α} (h : IsBest better seen b)
    (candidates : List α) : ∃ b', candidates.foldl (SpatialPlatform.Lib.keepBetter better) (some b) =
      some b' ∧ IsBest better (seen ++ candidates) b' := by
  induction candidates generalizing seen b with
  | nil => exact ⟨b, rfl, by rwa [List.append_nil]⟩
  | cons candidate candidates ih =>
      obtain ⟨b₁, hkeep, hb₁⟩ := h.keepBetter candidate
      rw [List.foldl_cons, hkeep, List.append_cons]
      exact ih hb₁

/-- What is kept of a list of candidates is the best of them. -/
theorem foldl_keepBetter [IsStrictOrder α better] (candidates : List α) :
    (candidates.foldl (keepBetter better) none = none ↔ candidates = []) ∧
      ∀ b, candidates.foldl (keepBetter better) none = some b → IsBest better candidates b := by
  cases candidates with
  | nil => simp
  | cons candidate candidates =>
      have hfirst : IsBest better [candidate] candidate := by
        refine ⟨List.mem_singleton_self _, fun a ha => ?_⟩
        rw [List.mem_singleton.mp ha]
        exact irrefl candidate
      obtain ⟨b', hfold, hbest⟩ := hfirst.foldl candidates
      rw [List.foldl_cons, show keepBetter better none candidate = some candidate from rfl, hfold]
      refine ⟨by simp, fun b hb => ?_⟩
      rwa [← Option.some.inj hb]

end best

end SpatialPlatform.Lib
