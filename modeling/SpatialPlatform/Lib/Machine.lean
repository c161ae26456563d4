import Mathlib.Order.WellFounded
import Mathlib.Data.Nat.Find

/-!
# Machines driven by an environment

Two ways in which the developments above this file run a state machine.

* `trace` — an endless supply of inputs, one for each step, as a thread meets
  the calls of other threads and the answers of the system. The rule for it is
  one of termination (`exists_halted`): ranks fall, except while the machine
  waits, and no wait is forever.
* `Actions` — a finite list of actions, each of which may be disabled, as in a
  protocol with several parties. `Actions.Along` says that every step of a run
  meets a condition on the state before it, and `Actions.run_induct` carries an
  invariant along such a run.
-/

namespace SpatialPlatform.Lib

/-! ## Endless runs -/

section Trace

variable {S I : Type*} (step : I → S → S) (inputs : Nat → I) (s₀ : S)

/-- The state after `k` steps. -/
def trace : Nat → S
  | 0 => s₀
  | k + 1 => step (inputs k) (trace k)

@[simp] theorem trace_zero : trace step inputs s₀ 0 = s₀ := rfl

theorem trace_succ (k : Nat) :
    trace step inputs s₀ (k + 1) = step (inputs k) (trace step inputs s₀ k) := rfl

end Trace

/-! ## Termination with waiting -/

section Termination

variable {S α : Type*} [Preorder α] {f : Nat → S} {rank : S → α}
  {Waiting Halted : S → Prop}

/-- A wait that ends has lowered the rank: up to the step that ends it the rank stands still. -/
theorem rank_lt_of_leave
    (hwait : ∀ k, Waiting (f k) → rank (f (k + 1)) < rank (f k) ∨
      (Waiting (f (k + 1)) ∧ rank (f (k + 1)) = rank (f k)))
    {k : Nat} (hk : Waiting (f k)) :
    ∀ n, ¬ Waiting (f (k + n)) → ∃ j, rank (f j) < rank (f k) := by
  intro n
  induction n generalizing k with
  | zero => intro hn; exact absurd hk hn
  | succ n ih =>
      intro hn
      rcases hwait k hk with hlt | ⟨hk', heq⟩
      · exact ⟨k + 1, hlt⟩
      · obtain ⟨j, hj⟩ := ih hk' (by rwa [Nat.add_right_comm, Nat.add_assoc])
        exact ⟨j, heq ▸ hj⟩

variable (f rank Waiting Halted) in
/-- A run halts when every step outside a wait lowers the rank, a waiting step
lowers it or keeps waiting at the same rank, and every wait is left. -/
theorem exists_halted [WellFoundedLT α]
    (hstep : ∀ k, ¬ Halted (f k) → ¬ Waiting (f k) → rank (f (k + 1)) < rank (f k))
    (hwait : ∀ k, Waiting (f k) → rank (f (k + 1)) < rank (f k) ∨
      (Waiting (f (k + 1)) ∧ rank (f (k + 1)) = rank (f k)))
    (hleave : ∀ k, Waiting (f k) → ∃ j, k ≤ j ∧ ¬ Waiting (f j)) :
    ∃ k, Halted (f k) := by
  by_contra hnone
  have hhalt : ∀ k, ¬ Halted (f k) := fun k hk => hnone ⟨k, hk⟩
  have hfall : ∀ k, ∃ j, rank (f j) < rank (f k) := by
    intro k
    by_cases hk : Waiting (f k)
    · obtain ⟨j, hkj, hj⟩ := hleave k hk
      obtain ⟨n, rfl⟩ := Nat.exists_eq_add_of_le hkj
      exact rank_lt_of_leave hwait hk n hj
    · exact ⟨k + 1, hstep k (hhalt k) hk⟩
  have hne : (Set.range fun k => rank (f k)).Nonempty := ⟨_, 0, rfl⟩
  obtain ⟨_, ⟨k, rfl⟩, hmin⟩ := wellFounded_lt.has_min _ hne
  obtain ⟨j, hj⟩ := hfall k
  exact hmin _ ⟨j, rfl⟩ hj

end Termination

/-! ## Finite runs of actions

Actions that may be disabled, in a row. `Along` puts a condition on every action
in the state that it is taken in; the rules below are all inductions over the
actions. -/

/-- A system whose actions may be disabled: `step a s` is `none` when `a` cannot be taken in `s`. -/
structure Actions (S A : Type*) where
  step : A → S → Option S

namespace Actions

variable {S A : Type*} (sys : Actions S A)

/-- Take the actions in order; `none` when one of them is disabled. -/
def run : List A → S → Option S
  | [], s => some s
  | a :: as, s => (sys.step a s).bind (run as)

/-- Every action of the run, as long as they are enabled, meets `ok` in the state before it. -/
def Along (ok : A → S → Prop) : List A → S → Prop
  | [], _ => True
  | a :: as, s => ok a s ∧ ∀ s', sys.step a s = some s' → Along ok as s'

instance {ok : A → S → Prop} [∀ a s, Decidable (ok a s)] :
    ∀ as s, Decidable (sys.Along ok as s)
  | [], _ => .isTrue trivial
  | a :: as, s =>
      match h : sys.step a s with
      | none => decidable_of_iff (ok a s) (by simp [Along, h])
      | some s' =>
          have : Decidable (sys.Along ok as s') := instDecidableAlong as s'
          decidable_of_iff (ok a s ∧ sys.Along ok as s') (by simp [Along, h])

@[simp] theorem run_nil (s : S) : sys.run [] s = some s := rfl

theorem run_cons (a : A) (as : List A) (s : S) :
    sys.run (a :: as) s = (sys.step a s).bind (sys.run as) := rfl

theorem run_append (as bs : List A) (s : S) :
    sys.run (as ++ bs) s = (sys.run as s).bind (sys.run bs) := by
  induction as generalizing s with
  | nil => rfl
  | cons a as ih =>
      rw [List.cons_append, run_cons, run_cons, Option.bind_assoc]
      exact congrArg _ (funext ih)

variable {sys}

theorem Along.append {ok : A → S → Prop} {as bs : List A} {s s' : S}
    (h : sys.Along ok (as ++ bs) s) (hrun : sys.run as s = some s') : sys.Along ok bs s' := by
  induction as generalizing s with
  | nil => cases hrun; exact h
  | cons a as ih =>
      obtain ⟨t, ht, hrest⟩ := Option.bind_eq_some_iff.mp hrun
      exact ih (h.2 t ht) hrest

/-- The invariant rule for runs all of whose steps meet `ok`. -/
theorem run_induct {ok : A → S → Prop} {Inv : S → Prop}
    (hstep : ∀ a s s', Inv s → ok a s → sys.step a s = some s' → Inv s')
    {as : List A} {s s' : S} (h₀ : Inv s) (hok : sys.Along ok as s)
    (hrun : sys.run as s = some s') : Inv s' := by
  induction as generalizing s with
  | nil => cases hrun; exact h₀
  | cons a as ih =>
      obtain ⟨t, ht, hrest⟩ := Option.bind_eq_some_iff.mp hrun
      exact ih (hstep a s t h₀ hok.1 ht) (hok.2 t ht) hrest

/-- An invariant kept by the steps that meet `ok` gives what it implies along the whole run. -/
theorem along_of_invariant {ok good : A → S → Prop} {Inv : S → Prop}
    (hstep : ∀ a s s', Inv s → ok a s → sys.step a s = some s' → Inv s')
    (hgood : ∀ a s, Inv s → ok a s → good a s) {as : List A} {s : S} (h₀ : Inv s)
    (hok : sys.Along ok as s) : sys.Along good as s := by
  induction as generalizing s with
  | nil => trivial
  | cons a as ih =>
      exact ⟨hgood a s h₀ hok.1, fun t ht => ih (hstep a s t h₀ hok.1 ht) (hok.2 t ht)⟩

/-- An invariant of all steps gives what it implies along every run. -/
theorem along_of_run_invariant {good : A → S → Prop} {Inv : S → Prop}
    (hstep : ∀ a s s', Inv s → sys.step a s = some s' → Inv s')
    (hgood : ∀ a s, Inv s → good a s) {as : List A} {s : S} (h₀ : Inv s) :
    sys.Along good as s := by
  induction as generalizing s with
  | nil => trivial
  | cons a as ih => exact ⟨hgood a s h₀, fun t ht => ih (hstep a s t h₀ ht)⟩

/-- Two step conditions that agree under an invariant which the steps meeting
the second keep agree along whole runs. -/
theorem along_iff_of_invariant {ok good : A → S → Prop} {Inv : S → Prop}
    (hstep : ∀ a s s', Inv s → ok a s → sys.step a s = some s' → Inv s')
    (hiff : ∀ a s, Inv s → (good a s ↔ ok a s)) {as : List A} {s : S} (h₀ : Inv s) :
    sys.Along good as s ↔ sys.Along ok as s := by
  induction as generalizing s with
  | nil => exact Iff.rfl
  | cons a as ih =>
      show good a s ∧ _ ↔ ok a s ∧ _
      rw [hiff a s h₀]
      apply and_congr_right
      intro hok
      exact forall₂_congr fun t ht => ih (hstep a s t h₀ hok ht)

/-- The invariant rule for all runs. -/
theorem run_invariant {Inv : S → Prop}
    (hstep : ∀ a s s', Inv s → sys.step a s = some s' → Inv s')
    {as : List A} {s s' : S} (h₀ : Inv s) (hrun : sys.run as s = some s') : Inv s' := by
  induction as generalizing s with
  | nil => cases hrun; exact h₀
  | cons a as ih =>
      obtain ⟨t, ht, hrest⟩ := Option.bind_eq_some_iff.mp hrun
      exact ih (hstep a s t h₀ ht) hrest

end Actions

end SpatialPlatform.Lib
