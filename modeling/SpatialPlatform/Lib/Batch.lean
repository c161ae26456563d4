import Mathlib.Data.List.Sort
import Mathlib.Data.List.TakeWhile

/-!
# Batches of items

The items of a batch are processed one after the other, each with its position,
until one ends the batch. An item that a state has *settled* has a fixed outcome
there and leaves the state alone. Two orders of a batch that put different items
at one position only where both are settled lead to the same state, and to the
same outcomes up to their order (`Aligned.run`).
-/

namespace SpatialPlatform.Lib

/-- An item at a position: its outcome and the next state, or the state in which the batch ends. -/
abbrev BatchStep (α O S : Type) := α → Nat → S → Option O × S

namespace BatchStep

variable {α O S : Type} (step : BatchStep α O S)

/-- The items of a batch, from a position on. -/
def run : List α → Nat → S → Option (List O) × S
  | [], _, s => (some [], s)
  | a :: as, i, s =>
      match step a i s with
      | (none, s) => (none, s)
      | (some o, s) => ((run as (i + 1) s).1.map (o :: ·), (run as (i + 1) s).2)

variable {step}

theorem run_cons_none {a : α} {as : List α} {i : Nat} {s s' : S} (h : step a i s = (none, s')) :
    step.run (a :: as) i s = (none, s') := by
  simp only [run, h]

theorem run_cons_some {a : α} {as : List α} {i : Nat} {s s' : S} {o : O}
    (h : step a i s = (some o, s')) :
    step.run (a :: as) i s =
      ((step.run as (i + 1) s').1.map (o :: ·), (step.run as (i + 1) s').2) := by
  simp only [run, h]

/-- The first item and the rest of a batch that reaches its end. -/
theorem run_cons_eq_some {a : α} {as : List α} {i : Nat} {s s' : S} {os : List O}
    (h : step.run (a :: as) i s = (some os, s')) :
    ∃ o t os', step a i s = (some o, t) ∧ step.run as (i + 1) t = (some os', s') ∧
      os = o :: os' := by
  rcases hstep : step a i s with ⟨_ | o, t⟩
  · rw [run_cons_none hstep] at h
    cases h
  · rw [run_cons_some hstep] at h
    rcases hrest : step.run as (i + 1) t with ⟨_ | os', s''⟩
    · simp [hrest] at h
    · simp only [hrest, Option.map_some, Prod.mk.injEq, Option.some.injEq] at h
      obtain ⟨rfl, rfl⟩ := h
      exact ⟨o, t, os', rfl, hrest, rfl⟩

/-- A batch in two parts. -/
theorem run_append_eq_some {as bs : List α} {i : Nat} {s s' : S} {os : List O}
    (h : step.run (as ++ bs) i s = (some os, s')) :
    ∃ t os₁ os₂, step.run as i s = (some os₁, t) ∧
      step.run bs (i + as.length) t = (some os₂, s') ∧ os = os₁ ++ os₂ := by
  induction as generalizing i s os with
  | nil => exact ⟨s, [], os, rfl, h, rfl⟩
  | cons a as ih =>
      obtain ⟨o, u, os', hstep, hrest, rfl⟩ := run_cons_eq_some h
      obtain ⟨t, os₁, os₂, has, hbs, rfl⟩ := ih hrest
      refine ⟨t, o :: os₁, os₂, ?_, ?_, rfl⟩
      · rw [run_cons_some hstep, has]
        rfl
      · rw [List.length_cons, show i + (as.length + 1) = i + 1 + as.length by omega]
        exact hbs

/-- What every item that is processed keeps of the state, and shows in its outcome. -/
theorem run_invariant {P : S → Prop} {Q : O → Prop} {as : List α} {i : Nat} {s s' : S} {os : List O}
    (hstep : ∀ a ∈ as, ∀ i s o s', P s → step a i s = (some o, s') → P s' ∧ Q o)
    (hs : P s) (h : step.run as i s = (some os, s')) : P s' ∧ ∀ o ∈ os, Q o := by
  induction as generalizing i s os with
  | nil =>
      cases h
      exact ⟨hs, fun _ ho => (nomatch ho)⟩
  | cons a as ih =>
      obtain ⟨o, t, os', ha, hrest, rfl⟩ := run_cons_eq_some h
      obtain ⟨ht, ho⟩ := hstep a List.mem_cons_self i s o t hs ha
      obtain ⟨hs', hos'⟩ := ih (fun b hb => hstep b (List.mem_cons_of_mem a hb)) ht hrest
      exact ⟨hs', List.forall_mem_cons.mpr ⟨ho, hos'⟩⟩

/-! ## Settled items

An item that was processed once changes nothing when it comes again. So two
batches that differ in settled items only end in one state. -/

variable (step)

/-- The state has settled the item: it has this outcome, and changes nothing. -/
def Settled (base : α → O) (a : α) (s : S) : Prop := ∀ i, step a i s = (some (base a), s)

/-- Where two batches differ, both items are settled. -/
def Aligned (base : α → O) : List α → List α → Nat → S → Prop
  | [], [], _, _ => True
  | a :: as, b :: bs, i, s =>
      (a = b ∧ ∀ o s', step a i s = (some o, s') → Aligned base as bs (i + 1) s') ∨
      (step.Settled base a s ∧ step.Settled base b s ∧ Aligned base as bs (i + 1) s)
  | _, _, _, _ => False

/-- An item that was processed is settled from then on. -/
structure Settles (base : α → O) : Prop where
  self : ∀ a i s o s', step a i s = (some o, s') → step.Settled base a s'
  kept : ∀ a b i s o s', step.Settled base b s → step a i s = (some o, s') →
    step.Settled base b s'

variable {step} {base : α → O}

/-- Two aligned batches end in one state, and have the same outcomes but for settled items. -/
theorem Aligned.run {as bs : List α} {i : Nat} {s : S} (h : step.Aligned base as bs i s) :
    (step.run as i s).2 = (step.run bs i s).2 ∧
      (((step.run as i s).1 = none ∧ (step.run bs i s).1 = none) ∨
        ∃ os os', (step.run as i s).1 = some os ∧ (step.run bs i s).1 = some os' ∧
          (os ++ bs.map base).Perm (os' ++ as.map base)) := by
  induction as generalizing bs i s with
  | nil =>
      cases bs with
      | nil => exact ⟨rfl, .inr ⟨[], [], rfl, rfl, .refl _⟩⟩
      | cons b bs => exact h.elim
  | cons a as ih =>
      cases bs with
      | nil => exact h.elim
      | cons b bs =>
          rcases h with ⟨rfl, hrest⟩ | ⟨ha, hb, hrest⟩
          · rcases hstep : step a i s with ⟨_ | o, t⟩
            · rw [run_cons_none hstep, run_cons_none hstep]
              exact ⟨rfl, .inl ⟨rfl, rfl⟩⟩
            · obtain ⟨hstate, houtcomes⟩ := ih (hrest o t hstep)
              rw [run_cons_some hstep, run_cons_some hstep]
              refine ⟨hstate, houtcomes.imp ?_ ?_⟩
              · intro ⟨has, hbs⟩
                exact ⟨by rw [has]; rfl, by rw [hbs]; rfl⟩
              · intro ⟨os, os', has, hbs, hperm⟩
                refine ⟨o :: os, o :: os', by rw [has]; rfl, by rw [hbs]; rfl, ?_⟩
                simp only [List.map_cons, List.cons_append]
                apply List.Perm.cons
                exact (List.perm_middle.trans (hperm.cons _)).trans List.perm_middle.symm
          · obtain ⟨hstate, houtcomes⟩ := ih hrest
            rw [run_cons_some (ha i), run_cons_some (hb i)]
            refine ⟨hstate, houtcomes.imp ?_ ?_⟩
            · intro ⟨has, hbs⟩
              exact ⟨by rw [has]; rfl, by rw [hbs]; rfl⟩
            · intro ⟨os, os', has, hbs, hperm⟩
              refine ⟨base a :: os, base b :: os', by rw [has]; rfl, by rw [hbs]; rfl, ?_⟩
              -- the outcome of each item stands among the fixed outcomes of the other batch
              simp only [List.map_cons, List.cons_append]
              have hleft : (base a :: (os ++ base b :: bs.map base)).Perm
                  (base b :: base a :: (os ++ bs.map base)) :=
                (List.perm_middle.cons _).trans (.swap _ _ _)
              have hright : (base b :: (os' ++ base a :: as.map base)).Perm
                  (base b :: base a :: (os' ++ as.map base)) := List.perm_middle.cons _
              exact hleft.trans (((hperm.cons _).cons _).trans hright.symm)

/-! ## Orders by a key

Two orders of the same files, sorted by a key. They differ among files of one
key only, and these are the same item or settled before: induction over the
files that are left in both orders. -/

section Keys

variable {F K : Type} [LinearOrder K] {key : F → K} {item : F → α} {files : List F}

/-- A batch that has reached the key of a file has settled it, by its first
state or by a file with a smaller key. -/
def SettledBefore (step : BatchStep α O S) (base : α → O) (key : F → K) (item : F → α)
    (files : List F) (s : S) (f : F) : Prop :=
  ∀ t, (∀ a, step.Settled base a s → step.Settled base a t) →
    (∀ h ∈ files, key h < key f → step.Settled base (item h) t) → step.Settled base (item f) t

/-- Files that share a key are the same item, unless they are settled before the batch is there. -/
def KeysDecide (step : BatchStep α O S) (base : α → O) (key : F → K) (item : F → α)
    (files : List F) (s : S) : Prop :=
  ∀ f ∈ files, ∀ g ∈ files, key f = key g →
    item f = item g ∨ (step.SettledBefore base key item files s f ∧
      step.SettledBefore base key item files s g)

/-- In a sorted list, what has a smaller key than an element stands before it. -/
theorem mem_of_key_lt {done rest : List F} {f h : F}
    (hsorted : (done ++ f :: rest).Pairwise fun a b => key a ≤ key b)
    (hmem : h ∈ done ++ f :: rest) (hlt : key h < key f) : h ∈ done := by
  rcases List.mem_append.mp hmem with hdone | hrest
  · exact hdone
  · have hle : key f ≤ key h := by
      rcases List.mem_cons.mp hrest with rfl | hrest
      · exact le_rfl
      · exact List.rel_of_pairwise_cons (List.pairwise_append.mp hsorted).2.1 hrest
    exact absurd hlt (not_lt.mpr hle)

/-- Two sorted orders of a batch whose keys decide are aligned. -/
theorem KeysDecide.aligned {files₁ files₂ : List F} {s : S}
    (h : step.KeysDecide base key item files s) (hsettles : step.Settles base)
    (hperm₁ : files₁.Perm files) (hperm₂ : files₂.Perm files)
    (hsorted₁ : files₁.Pairwise fun a b => key a ≤ key b)
    (hsorted₂ : files₂.Pairwise fun a b => key a ≤ key b) :
    step.Aligned base (files₁.map item) (files₂.map item) 0 s := by
  have hkeys : files₁.map key = files₂.map key := by
    apply @List.Perm.eq_of_pairwise _ (· ≤ ·)
    · exact fun _ _ _ _ => le_antisymm
    · exact List.pairwise_map.mpr hsorted₁
    · exact List.pairwise_map.mpr hsorted₂
    · exact (hperm₁.trans hperm₂.symm).map key
  -- the induction is on the files that are left, with those that are done settled in `t`
  have haligned : ∀ (rest₁ rest₂ done₁ done₂ : List F) (i : Nat) (t : S),
      files₁ = done₁ ++ rest₁ → files₂ = done₂ ++ rest₂ → rest₁.map key = rest₂.map key →
      (∀ a, step.Settled base a s → step.Settled base a t) →
      (∀ f ∈ done₁, step.Settled base (item f) t) → (∀ f ∈ done₂, step.Settled base (item f) t) →
      step.Aligned base (rest₁.map item) (rest₂.map item) i t := by
    intro rest₁
    induction rest₁ with
    | nil =>
        intro rest₂ done₁ done₂ i t _ _ hrest _ _ _
        obtain rfl : rest₂ = [] := by simpa using hrest.symm
        trivial
    | cons f rest₁ ih =>
        intro rest₂ done₁ done₂ i t h₁ h₂ hrest hkept hdone₁ hdone₂
        cases rest₂ with
        | nil => simp at hrest
        | cons g rest₂ =>
            obtain ⟨hfg, hrest⟩ : key f = key g ∧ rest₁.map key = rest₂.map key := by
              simpa using hrest
            have hf : f ∈ files₁ := by simp [h₁]
            have hg : g ∈ files₂ := by simp [h₂]
            have hnext := ih rest₂ (done₁ ++ [f]) (done₂ ++ [g]) (i + 1)
            simp only [List.append_assoc, List.singleton_append, List.forall_mem_append,
              List.forall_mem_singleton] at hnext
            rcases h f (hperm₁.mem_iff.mp hf) g (hperm₂.mem_iff.mp hg) hfg with
              heq | ⟨hsettledF, hsettledG⟩
            · left
              refine ⟨heq, fun o t' hstep => ?_⟩
              have hself := hsettles.self _ _ _ _ _ hstep
              have hkeep := fun b hb => hsettles.kept (item f) b i t o t' hb hstep
              exact hnext t' h₁ h₂ hrest (fun a ha => hkeep a (hkept a ha))
                ⟨fun b hb => hkeep _ (hdone₁ b hb), hself⟩
                ⟨fun b hb => hkeep _ (hdone₂ b hb), heq ▸ hself⟩
            · right
              have hsettled₁ : step.Settled base (item f) t := by
                apply hsettledF t hkept
                intro b hb hlt
                apply hdone₁
                exact mem_of_key_lt (h₁ ▸ hsorted₁) (h₁ ▸ hperm₁.mem_iff.mpr hb) hlt
              have hsettled₂ : step.Settled base (item g) t := by
                apply hsettledG t hkept
                intro b hb hlt
                apply hdone₂
                exact mem_of_key_lt (h₂ ▸ hsorted₂) (h₂ ▸ hperm₂.mem_iff.mpr hb) hlt
              exact ⟨hsettled₁, hsettled₂, hnext t h₁ h₂ hrest hkept ⟨hdone₁, hsettled₁⟩
                ⟨hdone₂, hsettled₂⟩⟩
  exact haligned files₁ files₂ [] [] 0 s rfl rfl hkeys (fun _ ha => ha) (by simp) (by simp)

/-- A stable sort keeps two neighbours of one key in their order, behind all smaller keys. -/
theorem insertionSort_cons_cons {f g : F} (hfg : key f = key g) (rest : List F) :
    (f :: g :: rest).insertionSort (fun a b => key a ≤ key b) =
      ((rest.insertionSort fun a b => key a ≤ key b).takeWhile fun b => ¬ key g ≤ key b) ++
        f :: g :: (rest.insertionSort fun a b => key a ≤ key b).dropWhile fun b => ¬ key g ≤ key b := by
  set sorted := rest.insertionSort fun a b => key a ≤ key b with hsorted
  rw [List.insertionSort_cons, List.insertionSort_cons, ← hsorted,
    List.orderedInsert_eq_take_drop (fun a b => key a ≤ key b) g sorted,
    List.orderedInsert_eq_take_drop (fun a b => key a ≤ key b) f]
  have hbefore : ∀ h ∈ sorted.takeWhile (fun b => ¬ key g ≤ key b),
      decide (¬ key f ≤ key h) = true := by
    intro h hh
    simpa [hfg] using List.mem_takeWhile_imp hh
  rw [List.takeWhile_append_of_pos hbefore, List.dropWhile_append_of_pos hbefore]
  simp [hfg]

/-- The two orders of neighbours that share a key. -/
theorem insertionSort_swap {f g : F} (hfg : key f = key g) (rest : List F) :
    ∃ before after, (∀ h ∈ before, h ∈ rest ∧ key h < key f) ∧
      (f :: g :: rest).insertionSort (fun a b => key a ≤ key b) = before ++ f :: g :: after ∧
      (g :: f :: rest).insertionSort (fun a b => key a ≤ key b) = before ++ g :: f :: after := by
  refine ⟨_, _, ?_, insertionSort_cons_cons hfg rest, ?_⟩
  · intro h hh
    refine ⟨(List.mem_insertionSort _).mp (List.takeWhile_subset _ hh), ?_⟩
    simpa [hfg] using List.mem_takeWhile_imp hh
  · rw [insertionSort_cons_cons hfg.symm, hfg]

end Keys

end BatchStep

end SpatialPlatform.Lib
