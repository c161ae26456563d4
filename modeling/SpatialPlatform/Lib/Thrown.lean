import SpatialPlatform.Lib.Persist

/-!
# What a program throws

The errors of a program over a persistent state, from the states of an
invariant; the rules follow the syntax of a program.
-/

namespace SpatialPlatform.Lib

namespace Persist

variable {S E α β : Type} {I : S → Prop} {P : E → Prop}

/-- From a state in `I`, whatever the program throws is in `P`. -/
def Throws (I : S → Prop) (P : E → Prop) (x : Persist S E α) : Prop :=
  ∀ s, I s → ∀ e, (x s).1 = .error e → P e

theorem Throws.pre {J : S → Prop} {x : Persist S E α} (h : Throws I P x) (hpre : ∀ s, J s → I s) :
    Throws J P x := fun s hs => h s (hpre s hs)

theorem Throws.pure (a : α) : Throws I P (Pure.pure a : Persist S E α) := fun _ _ _ h => (nomatch h)

theorem Throws.read (f : S → α) : Throws I P (read f : Persist S E α) := fun _ _ _ h => (nomatch h)

theorem Throws.fail {e : E} (h : P e) : Throws I P (fail e : Persist S E α) := by
  intro _ _ _ hthrown
  cases hthrown
  exact h

/-- The second half may use what the first returns. -/
theorem Throws.bind_of_result {x : Persist S E α} {f : α → Persist S E β} {C : α → Prop}
    (hx : Throws I P x) (hkeeps : Keeps I x) (hresult : ∀ s a s', I s → x s = (.ok a, s') → C a)
    (hf : ∀ a, C a → Throws I P (f a)) : Throws I P (x >>= f) := by
  intro s hs e h
  have hkept := hkeeps.state s hs
  have hthrown := hx s hs
  rcases hrun : x s with ⟨e' | a, s'⟩
  · rw [bind_of_error hrun] at h
    cases h
    exact hthrown e (congrArg Prod.fst hrun)
  · rw [bind_of_ok hrun] at h
    rw [hrun] at hkept
    exact hf a (hresult s a s' hs hrun) s' hkept e h

theorem Throws.bind {x : Persist S E α} {f : α → Persist S E β} (hx : Throws I P x) (hkeeps : Keeps I x)
    (hf : ∀ a, Throws I P (f a)) : Throws I P (x >>= f) :=
  hx.bind_of_result hkeeps (fun _ _ _ _ _ => True.intro) fun a _ => hf a

theorem Throws.ite {c : Prop} [Decidable c] {x y : Persist S E α} (hx : Throws I P x)
    (hy : Throws I P y) : Throws I P (if c then x else y) := by
  split
  · exact hx
  · exact hy

theorem Throws.each {x : β → Persist S E Unit} {bs : List β} (hx : ∀ b, Throws I P (x b))
    (hkeeps : ∀ b, Keeps I (x b)) : Throws I P (each x bs) := by
  induction bs with
  | nil => exact .pure ()
  | cons b bs ih => exact (hx b).bind (hkeeps b) fun _ => ih

/-- A program that throws something else instead. -/
theorem Throws.mapError {E' : Type} {Q : E' → Prop} {f : E → E'} {x : Persist S E α}
    (hx : Throws I P x) (hf : ∀ e, P e → Q (f e)) : Throws I Q (x.mapError f) := by
  intro s hs e' h
  have hthrown := hx s hs
  change (x s).1.mapError f = .error e' at h
  cases hrun : (x s).1 with
  | error e =>
    rw [hrun] at h
    cases h
    exact hf e (hthrown e hrun)
  | ok a =>
    rw [hrun] at h
    exact (nomatch h)

end Persist

end SpatialPlatform.Lib
