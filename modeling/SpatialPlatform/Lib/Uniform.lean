import Mathlib.Algebra.Group.End
import Mathlib.Algebra.Group.Submonoid.Defs
import SpatialPlatform.Lib.Persist

/-!
# Programs that do not look at what they write

A part of the state is written by a program but never read: from every state
that satisfies `C` the program has the same outcome, and does the same to that
part. If doing it twice is doing it once, then so is running the program, or any
sequence of such programs, a second time (`Uniform.runs_twice`).
-/

namespace SpatialPlatform.Lib

namespace Persist

variable {S E α β T : Type}

/-- The outcome and the effect on `view`, one of `F`, are the same from all
states in `C`, which the program does not leave. -/
def Uniform (C : S → Prop) (view : S → T) (F : Submonoid (Function.End T)) (x : Persist S E α) :
    Prop :=
  ∃ outcome : Except E α, ∃ f ∈ F, ∀ s, C s →
    (x s).1 = outcome ∧ C (x s).2 ∧ view (x s).2 = f (view s)

/-- The programs one after the other, each also after one that threw. -/
def runs (x : β → Persist S E α) (bs : List β) (s : S) : S := bs.foldl (fun s b => (x b s).2) s

variable {C : S → Prop} {view : S → T} {F : Submonoid (Function.End T)}

theorem Uniform.pure (a : α) : Uniform C view F (Pure.pure a : Persist S E α) :=
  ⟨.ok a, 1, F.one_mem, fun _ hs => ⟨rfl, hs, rfl⟩⟩

theorem Uniform.fail (e : E) : Uniform C view F (fail e : Persist S E α) :=
  ⟨.error e, 1, F.one_mem, fun _ hs => ⟨rfl, hs, rfl⟩⟩

theorem Uniform.ofExcept (x : Except E α) : Uniform C view F (ofExcept x : Persist S E α) :=
  ⟨x, 1, F.one_mem, fun _ hs => ⟨rfl, hs, rfl⟩⟩

theorem Uniform.bind {x : Persist S E α} {f : α → Persist S E β} (hx : Uniform C view F x)
    (hf : ∀ a, Uniform C view F (f a)) : Uniform C view F (x >>= f) := by
  obtain ⟨e | a, g, hg, hx⟩ := hx
  · refine ⟨.error e, g, hg, fun s hs => ?_⟩
    obtain ⟨hresult, hkept, hview⟩ := hx s hs
    rw [bind_of_error (Prod.ext hresult rfl)]
    exact ⟨rfl, hkept, hview⟩
  · obtain ⟨outcome, g', hg', hf⟩ := hf a
    refine ⟨outcome, g' * g, F.mul_mem hg' hg, fun s hs => ?_⟩
    obtain ⟨hresult, hkept, hview⟩ := hx s hs
    obtain ⟨hresult', hkept', hview'⟩ := hf (x s).2 hkept
    rw [bind_of_ok (Prod.ext hresult rfl)]
    refine ⟨hresult', hkept', ?_⟩
    rw [hview', hview]
    rfl

theorem Uniform.ite {c : Prop} [Decidable c] {x y : Persist S E α} (hx : Uniform C view F x)
    (hy : Uniform C view F y) : Uniform C view F (if c then x else y) := by
  split
  · exact hx
  · exact hy

/-- A write that is refused from all states in `C`, or from none. -/
theorem Uniform.write {f : S → Except E S} (e : E) (g : Function.End T) (hg : g ∈ F)
    (h : (∀ s, C s → f s = .error e) ∨
      ∀ s, C s → ∃ s', f s = .ok s' ∧ C s' ∧ view s' = g (view s)) : Uniform C view F (write f) := by
  rcases h with h | h
  · refine ⟨.error e, 1, F.one_mem, fun s hs => ?_⟩
    simp only [Persist.write, h s hs]
    exact ⟨trivial, hs, rfl⟩
  · refine ⟨.ok (), g, hg, fun s hs => ?_⟩
    obtain ⟨s', hf, hkept, hview⟩ := h s hs
    simp only [Persist.write, hf]
    exact ⟨trivial, hkept, hview⟩

/-- A sequence of programs, whether they throw or not. -/
theorem Uniform.runs {x : β → Persist S E α} (bs : List β) (hx : ∀ b ∈ bs, Uniform C view F (x b)) :
    ∃ f ∈ F, ∀ s, C s → C (runs x bs s) ∧ view (Persist.runs x bs s) = f (view s) := by
  induction bs with
  | nil => exact ⟨1, F.one_mem, fun _ hs => ⟨hs, rfl⟩⟩
  | cons b bs ih =>
      obtain ⟨_, g, hg, hb⟩ := hx b List.mem_cons_self
      obtain ⟨f, hf, hbs⟩ := ih fun b hb => hx b (List.mem_cons_of_mem _ hb)
      refine ⟨f * g, F.mul_mem hf hg, fun s hs => ?_⟩
      obtain ⟨-, hkept, hview⟩ := hb s hs
      obtain ⟨hkept', hview'⟩ := hbs (x b s).2 hkept
      refine ⟨hkept', ?_⟩
      show view (Persist.runs x bs (x b s).2) = _
      rw [hview', hview]
      rfl

theorem Uniform.runs_twice {x : β → Persist S E α} {bs : List β}
    (hx : ∀ b ∈ bs, Uniform C view F (x b)) (hF : ∀ f ∈ F, ∀ t, f (f t) = f t) {s : S} (hs : C s) :
    view (Persist.runs x bs (Persist.runs x bs s)) = view (Persist.runs x bs s) := by
  obtain ⟨f, hf, hruns⟩ := Uniform.runs bs hx
  obtain ⟨hkept, hview⟩ := hruns s hs
  rw [(hruns _ hkept).2, hview, hF f hf]

end Persist

end SpatialPlatform.Lib
