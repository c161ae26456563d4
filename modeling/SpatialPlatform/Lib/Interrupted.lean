import SpatialPlatform.Lib.Persist

/-!
# Programs that can be cut off

`Persist` tells what a program leaves behind when it returns or throws. `Steps`
also keeps every state that the program passes through, so that it can be cut
off in between: the moments of a program are the states in which an interruption
may find what it writes to, each with what the program was about. `Steps.run` is
the program itself, and the rules of `Steps.Keeps` follow its syntax.
-/

namespace SpatialPlatform.Lib

/-- A state in which a program may be cut off. -/
structure Moment (L S : Type) where
  /-- What is half done. -/
  doing : Option L
  state : S

/-- A program with the states that it passes through after the first, in order. -/
structure Steps (L S E α : Type) where
  run : Persist S E α
  moments : S → List (Moment L S)

namespace Steps

variable {L S E α β : Type}

instance : Monad (Steps L S E) where
  pure a := ⟨pure a, fun _ => []⟩
  bind x f :=
    { run := x.run >>= fun a => (f a).run
      moments := fun s => x.moments s ++
        match x.run s with
        | (.ok a, s') => (f a).moments s'
        | (.error _, _) => [] }

/-- A program that only reads. -/
def read (f : S → α) : Steps L S E α := ⟨Persist.read f, fun _ => []⟩

/-- A program that is done at once or not at all. -/
def atomic (x : Persist S E α) : Steps L S E α := ⟨x, fun s => [⟨none, (x s).2⟩]⟩

/-- A program for each element of a list, one after the other. -/
def each (x : β → Steps L S E Unit) : List β → Steps L S E Unit
  | [] => pure ()
  | b :: bs => do
      x b
      each x bs

@[simp] theorem run_pure (a : α) : (pure a : Steps L S E α).run = pure a := rfl

@[simp] theorem run_bind (x : Steps L S E α) (f : α → Steps L S E β) :
    (x >>= f).run = x.run >>= fun a => (f a).run := rfl

@[simp] theorem run_read (f : S → α) : (read f : Steps L S E α).run = Persist.read f := rfl

@[simp] theorem run_atomic (x : Persist S E α) : (atomic x : Steps L S E α).run = x := rfl

theorem run_ite (c : Prop) [Decidable c] (x y : Steps L S E α) :
    (if c then x else y).run = if c then x.run else y.run := by
  split <;> rfl

theorem run_each (x : β → Steps L S E Unit) (bs : List β) :
    (each x bs).run = Persist.each (fun b => (x b).run) bs := by
  induction bs with
  | nil => rfl
  | cons b bs ih =>
      show (x b).run >>= (fun _ => (each x bs).run) = (x b).run >>= fun _ => Persist.each _ bs
      rw [ih]

/-- A program may be cut off in the moments of its first half, or in those of its second half. -/
theorem mem_moments_bind {x : Steps L S E α} {f : α → Steps L S E β} {s : S} {m : Moment L S} :
    m ∈ (x >>= f).moments s ↔
      m ∈ x.moments s ∨ ∃ a s', x.run s = (.ok a, s') ∧ m ∈ (f a).moments s' := by
  show m ∈ x.moments s ++ _ ↔ _
  rw [List.mem_append]
  rcases x.run s with ⟨e | a, s'⟩
  · simp
  · constructor
    · rintro (hm | hm)
      · exact .inl hm
      · exact .inr ⟨a, s', rfl, hm⟩
    · rintro (hm | ⟨_, _, hrun, hm⟩)
      · exact .inl hm
      · cases hrun
        exact .inr hm

/-- The program leaves `I` as it was, and is cut off in moments in `M` only. -/
structure Keeps (I : S → Prop) (M : Moment L S → Prop) (x : Steps L S E α) : Prop where
  run : Persist.Keeps I x.run
  moments : ∀ s, I s → ∀ m ∈ x.moments s, M m

variable {I : S → Prop} {M : Moment L S → Prop}

theorem Keeps.pure (a : α) : Keeps I M (Pure.pure a : Steps L S E α) :=
  ⟨.pure a, fun _ _ _ hm => absurd hm List.not_mem_nil⟩

theorem Keeps.read (f : S → α) : Keeps I M (read f : Steps L S E α) :=
  ⟨.read f, fun _ _ _ hm => absurd hm List.not_mem_nil⟩

/-- A program that is not cut off inside is cut off after it. -/
theorem Keeps.atomic {x : Persist S E α} (hx : Persist.Keeps I x) (hM : ∀ s, I s → M ⟨none, s⟩) :
    Keeps I M (atomic x : Steps L S E α) := by
  refine ⟨hx, fun s hs m hm => ?_⟩
  rw [List.mem_singleton.mp hm]
  exact hM _ (hx.state s hs)

theorem Keeps.bind {x : Steps L S E α} {f : α → Steps L S E β} (hx : Keeps I M x)
    (hf : ∀ a, Keeps I M (f a)) : Keeps I M (x >>= f) := by
  refine ⟨hx.run.bind fun a => (hf a).run, fun s hs m hm => ?_⟩
  rcases mem_moments_bind.mp hm with hm | ⟨a, s', ha, hm⟩
  · exact hx.moments s hs m hm
  · have hs' := hx.run.state s hs
    rw [ha] at hs'
    exact (hf a).moments s' hs' m hm

theorem Keeps.mono {M' : Moment L S → Prop} {x : Steps L S E α} (hx : Keeps I M x)
    (hM : ∀ m, M m → M' m) : Keeps I M' x :=
  ⟨hx.run, fun s hs m hm => hM m (hx.moments s hs m hm)⟩

theorem Keeps.ite {c : Prop} [Decidable c] {x y : Steps L S E α} (hx : Keeps I M x)
    (hy : Keeps I M y) : Keeps I M (if c then x else y) := by
  split
  · exact hx
  · exact hy

theorem Keeps.each {x : β → Steps L S E Unit} {bs : List β} (hx : ∀ b ∈ bs, Keeps I M (x b)) :
    Keeps I M (each x bs) := by
  induction bs with
  | nil => exact .pure ()
  | cons b bs ih =>
      refine Keeps.bind (hx b List.mem_cons_self) fun _ => ?_
      exact ih fun b hb => hx b (List.mem_cons_of_mem _ hb)

end Steps

end SpatialPlatform.Lib
