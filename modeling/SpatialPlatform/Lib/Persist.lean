import Mathlib.Logic.Function.Basic

/-!
# Programs over a persistent state

A program reads and writes a state that outlives it. An error ends the program,
and what it wrote before the error stays. `Triple` states what a program leaves
behind when it returns and when it throws; its rules follow the syntax of a
program.
-/

namespace SpatialPlatform.Lib

/-- A program with results in `α`, errors in `E` and a persistent state in `S`. -/
def Persist (S E α : Type) := S → Except E α × S

namespace Persist

variable {S E α β γ : Type}

instance : Monad (Persist S E) where
  pure a := fun s => (.ok a, s)
  bind x f := fun s =>
    match x s with
    | (.ok a, s) => f a s
    | (.error e, s) => (.error e, s)

/-- End with an error. -/
def fail (e : E) : Persist S E α := fun s => (.error e, s)

/-- A computation that does not touch the state. -/
def ofExcept (x : Except E α) : Persist S E α := fun s => (x, s)

/-- Read from the state. -/
def read (f : S → α) : Persist S E α := fun s => (.ok (f s), s)

/-- A write that may be refused, and then changes nothing. -/
def write (f : S → Except E S) : Persist S E Unit := fun s =>
  match f s with
  | .ok s => (.ok (), s)
  | .error e => (.error e, s)

/-- A program on a part of the state. -/
def within {T : Type} (part : S → T) (put : S → T → S) (x : Persist T E α) : Persist S E α :=
  fun s => let (result, t) := x (part s); (result, put s t)

/-- The same program with other errors. -/
def mapError {E' : Type} (f : E → E') (x : Persist S E α) : Persist S E' α := fun s =>
  let (result, s) := x s; (result.mapError f, s)

/-- A program for each element of a list, one after the other. -/
def each (x : β → Persist S E Unit) : List β → Persist S E Unit
  | [] => pure ()
  | b :: bs => do
      x b
      each x bs

@[simp] theorem read_bind (f : S → α) (x : α → Persist S E β) (s : S) :
    ((read f : Persist S E α) >>= x) s = x (f s) s := rfl

theorem pure_bind (a : α) (f : α → Persist S E β) : (pure a >>= f) = f a := rfl

theorem bind_of_ok {x : Persist S E α} {f : α → Persist S E β} {s s' : S} {a : α}
    (h : x s = (.ok a, s')) : (x >>= f) s = f a s' := by
  show (match x s with
    | (.ok a, s) => f a s
    | (.error e, s) => (.error e, s)) = _
  rw [h]

theorem bind_of_error {x : Persist S E α} {f : α → Persist S E β} {s s' : S} {e : E}
    (h : x s = (.error e, s')) : (x >>= f) s = (.error e, s') := by
  show (match x s with
    | (.ok a, s) => f a s
    | (.error e, s) => (.error e, s)) = _
  rw [h]

theorem bind_assoc (x : Persist S E α) (f : α → Persist S E β) (g : β → Persist S E γ) :
    (x >>= f) >>= g = x >>= fun a => f a >>= g := by
  funext s
  rcases hx : x s with ⟨e | a, t⟩
  · rw [bind_of_error hx, bind_of_error (bind_of_error hx)]
  · rw [bind_of_ok hx]
    rcases hf : f a t with ⟨e | b, u⟩
    · rw [bind_of_error hf, bind_of_error (by rw [bind_of_ok hx, hf])]
    · rw [bind_of_ok hf, bind_of_ok (by rw [bind_of_ok hx, hf])]

/-- The two halves of a program that returns. -/
theorem bind_eq_ok {x : Persist S E α} {f : α → Persist S E β} {s s' : S} {b : β}
    (h : (x >>= f) s = (.ok b, s')) : ∃ a t, x s = (.ok a, t) ∧ f a t = (.ok b, s') := by
  rcases hx : x s with ⟨e | a, t⟩
  · rw [bind_of_error hx] at h
    exact (nomatch h)
  · rw [bind_of_ok hx] at h
    exact ⟨a, t, rfl, h⟩

/-! ## What a program leaves behind

Triples with two postconditions: one for a result, and one for the state that an
exception leaves. One rule for each way to build a program. -/

/-- From a state in `P`, the program returns a result and a state in `Q`, or
throws and leaves a state in `R`. -/
def Triple (P : S → Prop) (x : Persist S E α) (Q : α → S → Prop) (R : S → Prop) : Prop :=
  ∀ s, P s → match x s with
    | (.ok a, s') => Q a s'
    | (.error _, s') => R s'

variable {P P' : S → Prop} {Q Q' : α → S → Prop} {R R' : S → Prop}

/-- What a triple says of the state alone. -/
theorem Triple.state {x : Persist S E α} (h : Triple P x (fun _ => R) R) {s : S} (hs : P s) :
    R (x s).2 := by
  have hx := h s hs
  revert hx
  rcases x s with ⟨_ | _, _⟩ <;> exact id

/-- What a triple says of one run. -/
theorem Triple.cases {x : Persist S E α} (h : Triple P x Q R) {s : S} (hs : P s) :
    (∃ a s', x s = (.ok a, s') ∧ Q a s') ∨ ∃ e s', x s = (.error e, s') ∧ R s' := by
  have hx := h s hs
  rcases hrun : x s with ⟨e | a, s'⟩
  · rw [hrun] at hx
    exact .inr ⟨e, s', rfl, hx⟩
  · rw [hrun] at hx
    exact .inl ⟨a, s', rfl, hx⟩

theorem Triple.ok {x : Persist S E α} (h : Triple P x Q R) {s s' : S} {a : α} (hs : P s)
    (hrun : x s = (.ok a, s')) : Q a s' := by
  have hx := h s hs
  rw [hrun] at hx
  exact hx

/-- A program that returns from one state has run from it. -/
theorem Triple.run {x : Persist S E α} {s : S} (h : Triple (· = s) x (fun _ _ => True) R) :
    Triple (· = s) x (fun a s' => x s = (.ok a, s')) R := by
  intro t ht
  subst ht
  have hx := h t rfl
  revert hx
  rcases x t with ⟨e | a, s'⟩
  · exact id
  · exact fun _ => rfl

theorem Triple.pre {x : Persist S E α} (h : Triple P x Q R) (hpre : ∀ s, P' s → P s) :
    Triple P' x Q R :=
  fun s hs => h s (hpre s hs)

theorem Triple.post {x : Persist S E α} (h : Triple P x Q R) (hreturn : ∀ a s, Q a s → Q' a s)
    (hthrow : ∀ s, R s → R' s) : Triple P x Q' R' := by
  intro s hs
  have hx := h s hs
  revert hx
  rcases x s with ⟨e | a, s'⟩
  · exact hthrow s'
  · exact hreturn a s'

/-- A fact about no state, in the precondition, is a hypothesis. -/
theorem Triple.of_and {p : Prop} {x : Persist S E α} (h : p → Triple P x Q R) :
    Triple (fun s => p ∧ P s) x Q R :=
  fun s hs => h hs.1 s hs.2

theorem Triple.pure {a : α} (h : ∀ s, P s → Q a s) :
    Triple P (Pure.pure a : Persist S E α) Q R :=
  h

theorem Triple.fail {e : E} (h : ∀ s, P s → R s) : Triple P (fail e : Persist S E α) Q R := h

theorem Triple.bind {x : Persist S E α} {f : α → Persist S E β} {Q' : β → S → Prop}
    (hx : Triple P x Q R) (hf : ∀ a, Triple (Q a) (f a) Q' R) : Triple P (x >>= f) Q' R := by
  intro s hs
  have hxs := hx s hs
  show match (match x s with
    | (.ok a, s) => f a s
    | (.error e, s) => (.error e, s)) with
    | (.ok b, s') => Q' b s'
    | (.error _, s') => R s'
  revert hxs
  rcases x s with ⟨e | a, s'⟩
  · exact id
  · exact hf a s'

theorem Triple.mapError {E' : Type} {f : E → E'} {x : Persist S E α} (h : Triple P x Q R) :
    Triple P (x.mapError f) Q R := by
  intro s hs
  have hx := h s hs
  revert hx
  unfold Persist.mapError
  rcases x s with ⟨_ | _, _⟩ <;> exact id

theorem Triple.ite {c : Prop} [Decidable c] {x y : Persist S E α}
    (hx : c → Triple P x Q R) (hy : ¬ c → Triple P y Q R) : Triple P (if c then x else y) Q R := by
  split
  · exact hx ‹_›
  · exact hy ‹_›

theorem Triple.read {f : S → α} : Triple P (read f : Persist S E α) (fun a s => P s ∧ a = f s) R :=
  fun _ hs => ⟨hs, rfl⟩

/-- A write that keeps the invariant `R` of every exit. -/
theorem Triple.write {f : S → Except E S} {Q : S → Prop} (hok : ∀ s s', P s → f s = .ok s' → Q s')
    (herror : ∀ s, P s → R s) : Triple P (write f) (fun _ => Q) R := by
  intro s hs
  cases hf : f s with
  | ok s' =>
      simp only [Persist.write, hf]
      exact hok s s' hs hf
  | error e =>
      simp only [Persist.write, hf]
      exact herror s hs

/-! ## Invariants

The special case of one condition everywhere. -/

/-- Whether the program returns or throws, it leaves `I` as it was. -/
structure Keeps (I : S → Prop) (x : Persist S E α) : Prop where
  state : ∀ s, I s → I (x s).2

variable {I : S → Prop}

theorem Keeps.pure (a : α) : Keeps I (Pure.pure a : Persist S E α) := ⟨fun _ hs => hs⟩

theorem Keeps.fail (e : E) : Keeps I (fail e : Persist S E α) := ⟨fun _ hs => hs⟩

theorem Keeps.ofExcept (x : Except E α) : Keeps I (ofExcept x : Persist S E α) :=
  ⟨fun _ hs => hs⟩

theorem Keeps.read (f : S → α) : Keeps I (read f : Persist S E α) := ⟨fun _ hs => hs⟩

theorem Keeps.write {f : S → Except E S} (h : ∀ s s', I s → f s = .ok s' → I s') :
    Keeps I (write f) := by
  constructor
  intro s hs
  cases hf : f s with
  | ok s' =>
      simp only [Persist.write, hf]
      exact h s s' hs hf
  | error e =>
      simp only [Persist.write, hf]
      exact hs

/-- The second half may use what the first returns. -/
theorem Keeps.bind_of_result {x : Persist S E α} {f : α → Persist S E β} {C : α → Prop}
    (hx : Keeps I x) (hresult : ∀ s a s', I s → x s = (.ok a, s') → C a)
    (hf : ∀ a, C a → Keeps I (f a)) : Keeps I (x >>= f) := by
  constructor
  intro s hs
  have hkept := hx.state s hs
  rcases hrun : x s with ⟨e | a, s'⟩
  · rw [hrun] at hkept
    rwa [bind_of_error hrun]
  · rw [hrun] at hkept
    rw [bind_of_ok hrun]
    exact (hf a (hresult s a s' hs hrun)).state s' hkept

theorem Keeps.bind {x : Persist S E α} {f : α → Persist S E β} (hx : Keeps I x)
    (hf : ∀ a, Keeps I (f a)) : Keeps I (x >>= f) :=
  hx.bind_of_result (fun _ _ _ _ _ => True.intro) fun a _ => hf a

theorem Keeps.ite {c : Prop} [Decidable c] {x y : Persist S E α} (hx : Keeps I x)
    (hy : Keeps I y) : Keeps I (if c then x else y) := by
  split
  · exact hx
  · exact hy

theorem Keeps.mapError {E' : Type} {f : E → E'} {x : Persist S E α} (h : Keeps I x) :
    Keeps I (x.mapError f) := by
  constructor
  intro s hs
  have hkept := h.state s hs
  unfold Persist.mapError
  revert hkept
  rcases x s with ⟨_ | _, _⟩ <;> exact id

theorem Keeps.each {x : β → Persist S E Unit} {bs : List β} (hx : ∀ b ∈ bs, Keeps I (x b)) :
    Keeps I (each x bs) := by
  induction bs with
  | nil => exact .pure ()
  | cons b bs ih =>
      refine Keeps.bind (hx b List.mem_cons_self) fun _ => ?_
      exact ih fun b hb => hx b (List.mem_cons_of_mem _ hb)

/-! ## Checks -/

/-- From a state in `P` the program returns exactly when `C` holds, and leaves a state in `P`. -/
def Checks (P : S → Prop) (x : Persist S E Unit) (C : Prop) : Prop :=
  ∀ s, P s → ((x s).1 = .ok () ↔ C) ∧ P (x s).2

theorem Checks.congr {x : Persist S E Unit} {C D : Prop} (h : Checks P x C) (hCD : C ↔ D) :
    Checks P x D :=
  fun s hs => ⟨(h s hs).1.trans hCD, (h s hs).2⟩

theorem Checks.pure : Checks P (Pure.pure () : Persist S E Unit) True :=
  fun _ hs => ⟨⟨fun _ => True.intro, fun _ => rfl⟩, hs⟩

theorem Checks.fail (e : E) : Checks P (Persist.fail e : Persist S E Unit) False :=
  fun _ hs => ⟨⟨fun h => (nomatch h), False.elim⟩, hs⟩

/-- A program that returned or threw in a state, with checks behind it. -/
theorem Checks.after {x : Persist S E Unit} {y : Unit → Persist S E Unit} {C D : Prop} {s : S}
    (hx : ((x s).1 = .ok () ↔ C) ∧ P (x s).2) (hy : Checks P (y ()) D) :
    (((x >>= y) s).1 = .ok () ↔ C ∧ D) ∧ P ((x >>= y) s).2 := by
  obtain ⟨hcheck, hkept⟩ := hx
  rcases hrun : x s with ⟨e | ⟨⟩, s'⟩
  · rw [hrun] at hcheck hkept
    rw [bind_of_error hrun]
    exact ⟨⟨fun h => (nomatch h), fun h => (nomatch hcheck.mpr h.1)⟩, hkept⟩
  · rw [hrun] at hcheck hkept
    rw [bind_of_ok hrun]
    obtain ⟨hrest, hkept'⟩ := hy s' hkept
    exact ⟨hrest.trans ⟨fun h => ⟨hcheck.mp rfl, h⟩, And.right⟩, hkept'⟩

/-- Checks that leave alone what they depend on succeed one after the other
exactly when each of them does. -/
theorem Checks.bind {x : Persist S E Unit} {y : Unit → Persist S E Unit} {C D : Prop}
    (hx : Checks P x C) (hy : Checks P (y ()) D) : Checks P (x >>= y) (C ∧ D) :=
  fun s hs => Checks.after (hx s hs) hy

theorem Checks.each {x : β → Persist S E Unit} {bs : List β} {C : β → Prop}
    (hx : ∀ b ∈ bs, Checks P (x b) (C b)) : Checks P (each x bs) (∀ b ∈ bs, C b) := by
  induction bs with
  | nil => exact Checks.pure.congr ⟨fun _ _ hb => absurd hb List.not_mem_nil, fun _ => True.intro⟩
  | cons b bs ih =>
      have hrest := ih fun b hb => hx b (List.mem_cons_of_mem _ hb)
      exact ((hx b List.mem_cons_self).bind hrest).congr List.forall_mem_cons.symm

end Persist

end SpatialPlatform.Lib
