import Mathlib.Data.List.Forall2
import Mathlib.Data.Nat.Notation
import Mathlib.Tactic.Ring
import SpatialPlatform.Lib.Persist

/-!
# Formats and their readers

A `Format` relates runs of symbols to the values they stand for. `Reads` says of
a program over an input that it takes a run of the format from the front of the
input and returns its value, and that it refuses every input which does not
begin with such a run; its rules follow the syntax of a program. The numbers of
a format are little-endian.
-/

namespace SpatialPlatform.Lib

/-! ## Little-endian numbers

Bytes and numbers, in both directions, by induction over the width or the bytes. -/

/-- The lowest `width` bytes of a number, the lowest one first. -/
def leBytes : Nat → Nat → List UInt8
  | 0, _ => []
  | width + 1, n => UInt8.ofNat n :: leBytes width (n / 256)

/-- The number that the bytes stand for. -/
def leValue : List UInt8 → Nat
  | [] => 0
  | b :: bytes => b.toNat + 256 * leValue bytes

@[simp] theorem length_leBytes (width n : Nat) : (leBytes width n).length = width := by
  induction width generalizing n with
  | zero => rfl
  | succ width ih => simp [leBytes, ih]

theorem leValue_leBytes {width n : Nat} (h : n < 256 ^ width) : leValue (leBytes width n) = n := by
  induction width generalizing n with
  | zero =>
      have : n = 0 := by simpa using h
      simp [leBytes, leValue, this]
  | succ width ih =>
      have hdiv : n / 256 < 256 ^ width := by
        rw [Nat.div_lt_iff_lt_mul (by omega), ← Nat.pow_succ]
        exact h
      simp only [leBytes, leValue, ih hdiv, UInt8.toNat_ofNat']
      omega

theorem leValue_lt (bytes : List UInt8) : leValue bytes < 256 ^ bytes.length := by
  induction bytes with
  | nil => simp [leValue]
  | cons b bytes ih =>
      have hb := b.toNat_lt
      simp only [leValue, List.length_cons, Nat.pow_succ]
      omega

theorem leBytes_leValue (bytes : List UInt8) : leBytes bytes.length (leValue bytes) = bytes := by
  induction bytes with
  | nil => rfl
  | cons b bytes ih =>
      have hb := b.toNat_lt
      have hdiv : (b.toNat + 256 * leValue bytes) / 256 = leValue bytes := by omega
      have hhead : UInt8.ofNat (b.toNat + 256 * leValue bytes) = b := by
        apply UInt8.toNat_inj.mp
        rw [UInt8.toNat_ofNat']
        omega
      simp only [leBytes, leValue, List.length_cons, hdiv, hhead, ih]

theorem leBytes_add (v w n : Nat) :
    leBytes (v + w) n = leBytes v n ++ leBytes w (n / 256 ^ v) := by
  induction v generalizing n with
  | zero => simp [leBytes]
  | succ v ih =>
      rw [Nat.succ_add, leBytes, leBytes, ih, Nat.div_div_eq_div_mul, Nat.pow_succ', List.cons_append]

/-- Only the lowest bytes count. -/
theorem leBytes_mod (width n : Nat) : leBytes width (n % 256 ^ width) = leBytes width n := by
  induction width generalizing n with
  | zero => rfl
  | succ width ih =>
      have hhead : UInt8.ofNat (n % 256 ^ (width + 1)) = UInt8.ofNat n := by
        apply UInt8.toNat_inj.mp
        simp only [UInt8.toNat_ofNat', show (2 : Nat) ^ 8 = 256 from rfl]
        exact Nat.mod_mod_of_dvd n (Dvd.intro_left _ (Nat.pow_succ ..).symm)
      have htail : n % 256 ^ (width + 1) / 256 = n / 256 % 256 ^ width := by
        rw [Nat.pow_succ', Nat.mod_mul_right_div_self]
      rw [leBytes, leBytes, hhead, htail, ih]

/-! ## Formats

A format says which symbols stand for which value. Formats are put together in a
row and repeated, and what is shown of the parts goes over to the whole: least
lengths and unambiguity. -/

variable {β α γ : Type}

/-- The runs of symbols of a value. -/
abbrev Format (β α : Type) := List β → α → Prop

namespace Format

/-- No symbols at all. -/
def empty (a : α) : Format β α := fun run b => run = [] ∧ b = a

/-- One run, and then one in a format that depends on the first value. -/
def seq (G : Format β α) (H : α → Format β γ) : Format β γ :=
  fun run c => ∃ first second a, run = first ++ second ∧ G first a ∧ H a second c

/-- A number of runs. -/
def times (G : Format β α) (n : Nat) : Format β (List α) :=
  fun run values => ∃ runs, run = runs.flatten ∧ List.Forall₂ G runs values ∧ values.length = n

/-- Every run has at least `k` symbols. -/
def AtLeast (k : Nat) (G : Format β α) : Prop := ∀ run a, G run a → k ≤ run.length

theorem AtLeast.mono {G : Format β α} {j k : Nat} (h : G.AtLeast k) (hjk : j ≤ k) : G.AtLeast j :=
  fun run a hG => hjk.trans (h run a hG)

theorem AtLeast.zero {G : Format β α} : G.AtLeast 0 := fun _ _ _ => Nat.zero_le _

theorem AtLeast.never {k : Nat} : AtLeast k (fun _ _ => False : Format β α) :=
  fun _ _ h => h.elim

theorem AtLeast.seq {G : Format β α} {H : α → Format β γ} {j k : Nat} (hG : G.AtLeast j)
    (hH : ∀ run a, G run a → (H a).AtLeast k) : (G.seq H).AtLeast (j + k) := by
  rintro _ c ⟨first, second, a, rfl, hfirst, hsecond⟩
  rw [List.length_append]
  exact Nat.add_le_add (hG _ _ hfirst) (hH _ _ hfirst _ _ hsecond)

theorem AtLeast.times {G : Format β α} {k : Nat} (hG : G.AtLeast k) (n : Nat) :
    (G.times n).AtLeast (n * k) := by
  rintro _ values ⟨runs, rfl, hruns, rfl⟩
  induction hruns with
  | nil => simp
  | cons hfirst _ ih =>
      have := hG _ _ hfirst
      rw [List.flatten_cons, List.length_append, List.length_cons, Nat.succ_mul]
      omega

/-- Each of the values has its run. -/
theorem exists_run_of_times {G : Format β α} {n : Nat} {run : List β} {values : List α}
    (h : G.times n run values) {a : α} (ha : a ∈ values) : ∃ run, G run a := by
  obtain ⟨runs, -, hruns, -⟩ := h
  induction hruns with
  | nil => cases ha
  | @cons first _ _ _ hfirst _ ih =>
      obtain rfl | hmem := List.mem_cons.mp ha
      · exact ⟨first, hfirst⟩
      · exact ih hmem

/-- Runs of values that all have a property. -/
theorem times_and {G : Format β α} {P : α → Prop} {n : Nat} {run : List β} {values : List α}
    (h : G.times n run values) (hP : ∀ a ∈ values, P a) :
    Format.times (fun run a => G run a ∧ P a) n run values := by
  obtain ⟨runs, rfl, hruns, hlen⟩ := h
  refine ⟨runs, rfl, ?_, hlen⟩
  clear hlen
  induction hruns with
  | nil => exact .nil
  | cons hfirst _ ih =>
      rw [List.forall_mem_cons] at hP
      exact .cons ⟨hfirst, hP.1⟩ (ih hP.2)

theorem times_zero {G : Format β α} {run : List β} {values : List α} :
    G.times 0 run values ↔ run = [] ∧ values = [] := by
  constructor
  · rintro ⟨runs, rfl, hruns, hlen⟩
    obtain rfl := List.length_eq_zero_iff.mp hlen
    cases hruns
    exact ⟨rfl, rfl⟩
  · rintro ⟨rfl, rfl⟩
    exact ⟨[], rfl, .nil, rfl⟩

theorem times_succ {G : Format β α} {n : Nat} {run : List β} {values : List α} :
    G.times (n + 1) run values ↔
      (G.seq fun a => (G.times n).seq fun as => empty (a :: as)) run values := by
  constructor
  · rintro ⟨runs, rfl, hruns, hlen⟩
    cases hruns with
    | nil => simp at hlen
    | @cons first a runs values hfirst hruns =>
        refine ⟨first, runs.flatten, a, by simp, hfirst, runs.flatten, [], values, by simp, ?_, ?_⟩
        · exact ⟨runs, rfl, hruns, by simpa using hlen⟩
        · exact ⟨rfl, rfl⟩
  · rintro ⟨first, _, a, rfl, hfirst, _, _, as, rfl, ⟨runs, rfl, hruns, hlen⟩, rfl, rfl⟩
    exact ⟨first :: runs, by simp, .cons hfirst hruns, by simp [hlen]⟩

/-- An input begins with one run of the format at most, and that has one value. -/
def Unambiguous (G : Format β α) : Prop :=
  ∀ ⦃run tail run' tail' : List β⦄ ⦃a a' : α⦄, run ++ tail = run' ++ tail' → G run a → G run' a' →
    run = run' ∧ a = a'

theorem Unambiguous.empty (a : α) : (empty a : Format β α).Unambiguous := by
  rintro _ _ _ _ _ _ - ⟨rfl, rfl⟩ ⟨rfl, rfl⟩
  exact ⟨rfl, rfl⟩

theorem Unambiguous.seq {G : Format β α} {H : α → Format β γ} (hG : G.Unambiguous)
    (hH : ∀ a, (H a).Unambiguous) : (G.seq H).Unambiguous := by
  rintro _ tail _ tail' c c' hinput ⟨first, second, a, rfl, hfirst, hsecond⟩
    ⟨first', second', a', rfl, hfirst', hsecond'⟩
  rw [List.append_assoc, List.append_assoc] at hinput
  obtain ⟨rfl, rfl⟩ := hG hinput hfirst hfirst'
  obtain ⟨rfl, rfl⟩ := hH a (List.append_cancel_left hinput) hsecond hsecond'
  exact ⟨rfl, rfl⟩

theorem Unambiguous.times {G : Format β α} (hG : G.Unambiguous) (n : Nat) :
    (G.times n).Unambiguous := by
  induction n with
  | zero =>
      intro _ _ _ _ _ _ _ h h'
      obtain ⟨rfl, rfl⟩ := times_zero.mp h
      obtain ⟨rfl, rfl⟩ := times_zero.mp h'
      exact ⟨rfl, rfl⟩
  | succ n ih =>
      intro _ _ _ _ _ _ hinput h h'
      exact (hG.seq fun a => ih.seq fun as => Unambiguous.empty (a :: as)) hinput (times_succ.mp h)
        (times_succ.mp h')

end Format

/-! ## Readers

A program reads a format if it takes a run from the front of its input, or
refuses where there is none. Readers are composed like formats, so a parser is
verified in the order of its reads. -/

/-- The states of a program that reads an input from its front. `Refuses` says
which errors it may end with, and what it then leaves as it was. -/
structure Source (β S E : Type) where
  rest : S → List β
  advance : Nat → S → S
  Valid : S → Prop
  Refuses : S → E → S → Prop
  rest_advance : ∀ n s, rest (advance n s) = (rest s).drop n
  valid_advance : ∀ n s, Valid s → n ≤ (rest s).length → Valid (advance n s)
  advance_zero : ∀ s, advance 0 s = s
  advance_add : ∀ m n s, advance (m + n) s = advance n (advance m s)
  refuses_advance : ∀ {n s e s'}, Refuses (advance n s) e s' → Refuses s e s'

namespace Persist

variable {S E : Type}

/-- The same program, a number of times; the results in order. -/
def times : Nat → Persist S E α → Persist S E (List α)
  | 0, _ => pure []
  | n + 1, x => do
      let a ← x
      let as ← times n x
      return a :: as

variable {source : Source β S E}

/-- The program reads the format from the source. -/
structure Reads (source : Source β S E) (x : Persist S E α) (G : Format β α) : Prop where
  accepts : ∀ {s run tail a}, source.Valid s → source.rest s = run ++ tail → G run a →
    x s = (.ok a, source.advance run.length s)
  refuses : ∀ {s}, source.Valid s → (∀ run tail a, source.rest s = run ++ tail → ¬ G run a) →
    ∃ e s', x s = (.error e, s') ∧ source.Refuses s e s'

theorem valid_of_run (source : Source β S E) {s : S} {run tail : List β} (hs : source.Valid s)
    (hrest : source.rest s = run ++ tail) : source.Valid (source.advance run.length s) := by
  apply source.valid_advance _ _ hs
  rw [hrest, List.length_append]
  omega

theorem rest_of_run (source : Source β S E) {s : S} {run tail : List β}
    (hrest : source.rest s = run ++ tail) : source.rest (source.advance run.length s) = tail := by
  rw [source.rest_advance, hrest, List.drop_left]

/-- What a reader does: it takes a run, or refuses. -/
theorem Reads.cases {x : Persist S E α} {G : Format β α} (h : Reads source x G) {s : S}
    (hs : source.Valid s) :
    (∃ run tail a, source.rest s = run ++ tail ∧ G run a ∧
      x s = (.ok a, source.advance run.length s)) ∨
    ((∀ run tail a, source.rest s = run ++ tail → ¬ G run a) ∧
      ∃ e s', x s = (.error e, s') ∧ source.Refuses s e s') := by
  by_cases hrun : ∃ run tail a, source.rest s = run ++ tail ∧ G run a
  · obtain ⟨run, tail, a, hrest, hG⟩ := hrun
    exact .inl ⟨run, tail, a, hrest, hG, h.accepts hs hrest hG⟩
  · push Not at hrun
    exact .inr ⟨hrun, h.refuses hs hrun⟩

/-- What a reader returns has a run. -/
theorem Reads.triple {x : Persist S E α} {G : Format β α} (h : Reads source x G) :
    Triple source.Valid x (fun a s => source.Valid s ∧ ∃ run, G run a) (fun _ => True) := by
  intro s hs
  obtain ⟨run, tail, a, hrest, hG, hrun⟩ | ⟨-, e, s', hrun, -⟩ := h.cases hs
  · rw [hrun]
    exact ⟨valid_of_run source hs hrest, run, hG⟩
  · rw [hrun]
    trivial

/-- A reader returns on the inputs that begin with a run. -/
theorem Reads.returns_iff {x : Persist S E α} {G : Format β α} (h : Reads source x G) {s : S}
    (hs : source.Valid s) :
    (∃ a s', x s = (.ok a, s')) ↔ ∃ run tail a, source.rest s = run ++ tail ∧ G run a := by
  obtain ⟨run, tail, a, hrest, hG, hrun⟩ | ⟨hnone, e, s', hrun, -⟩ := h.cases hs
  · exact iff_of_true ⟨a, _, hrun⟩ ⟨run, tail, a, hrest, hG⟩
  · apply iff_of_false
    · rintro ⟨a, s'', hok⟩
      rw [hrun] at hok
      cases hok
    · rintro ⟨run, tail, a, hrest, hG⟩
      exact hnone run tail a hrest hG

/-- A source begins with one run of the format at most. -/
theorem Reads.unique {x : Persist S E α} {G : Format β α} (h : Reads source x G) {s : S}
    (hs : source.Valid s) {run run' tail tail' : List β} {a a' : α}
    (hrest : source.rest s = run ++ tail) (hG : G run a) (hrest' : source.rest s = run' ++ tail')
    (hG' : G run' a') : run = run' ∧ tail = tail' ∧ a = a' := by
  have hrun := h.accepts hs hrest hG
  rw [h.accepts hs hrest' hG'] at hrun
  obtain ⟨ha, hadvance⟩ := Prod.mk.inj hrun
  have htail : tail' = tail := by
    rw [← rest_of_run source hrest', hadvance, rest_of_run source hrest]
  subst htail
  exact ⟨List.append_cancel_right (hrest.symm.trans hrest'), rfl, (Except.ok.inj ha).symm⟩

/-- A format with a reader is unambiguous. -/
theorem Reads.unambiguous {x : Persist S E α} {G : Format β α} (h : Reads source x G)
    (hinputs : ∀ input, ∃ s, source.Valid s ∧ source.rest s = input) : G.Unambiguous := by
  intro run tail run' tail' a a' hinput hG hG'
  obtain ⟨s, hs, hrest⟩ := hinputs (run ++ tail)
  obtain ⟨hrun, -, ha⟩ := h.unique hs hrest hG (hrest.trans hinput) hG'
  exact ⟨hrun, ha⟩

theorem Reads.congr {x : Persist S E α} {G H : Format β α} (h : Reads source x G)
    (hGH : ∀ run a, G run a ↔ H run a) : Reads source x H where
  accepts hs hrest hH := h.accepts hs hrest ((hGH _ _).mpr hH)
  refuses hs hnone := h.refuses hs fun run tail a hrest hG => hnone run tail a hrest ((hGH _ _).mp hG)

theorem Reads.pure (a : α) : Reads source (Pure.pure a : Persist S E α) (Format.empty a) where
  accepts := by
    rintro s run tail b _ _ ⟨rfl, rfl⟩
    rw [List.length_nil, source.advance_zero]
    rfl
  refuses := by
    intro s _ hnone
    exact absurd ⟨rfl, rfl⟩ (hnone [] (source.rest s) a rfl)

/-- A program that always refuses reads nothing. -/
theorem Reads.refuse {x : Persist S E α}
    (h : ∀ s, ∃ e s', x s = (.error e, s') ∧ source.Refuses s e s') :
    Reads source x (fun _ _ => False) where
  accepts _ _ hG := hG.elim
  refuses _ _ := h _

theorem Reads.bind {x : Persist S E α} {f : α → Persist S E γ} {G : Format β α}
    {H : α → Format β γ} (hx : Reads source x G)
    (hf : ∀ run a, G run a → Reads source (f a) (H a)) :
    Reads source (x >>= f) (G.seq H) where
  accepts := by
    rintro s _ tail c hs hrest ⟨first, second, a, rfl, hG, hH⟩
    rw [List.append_assoc] at hrest
    rw [bind_of_ok (hx.accepts hs hrest hG),
      (hf _ a hG).accepts (valid_of_run source hs hrest) (rest_of_run source hrest) hH, ← source.advance_add,
      List.length_append]
  refuses := by
    intro s hs hnone
    obtain ⟨first, tail, a, hrest, hG, hrun⟩ | ⟨-, e, s', hrun, hrefuses⟩ := hx.cases hs
    · -- the first run is there, so it is the second one that is missing
      obtain ⟨e, s', hrun', hrefuses⟩ := (hf _ a hG).refuses (valid_of_run source hs hrest) (by
        intro second tail' c hrest' hH
        rw [rest_of_run source hrest] at hrest'
        refine hnone (first ++ second) tail' c ?_ ⟨first, second, a, rfl, hG, hH⟩
        rw [hrest, hrest', List.append_assoc])
      exact ⟨e, s', by rw [bind_of_ok hrun, hrun'], source.refuses_advance hrefuses⟩
    · exact ⟨e, s', bind_of_error hrun, hrefuses⟩

theorem Reads.times {x : Persist S E α} {G : Format β α} (hx : Reads source x G) (n : Nat) :
    Reads source (x.times n) (G.times n) := by
  induction n with
  | zero => exact (Reads.pure []).congr fun run values => Format.times_zero.symm
  | succ n ih =>
      have h : Reads source (x.times (n + 1))
          (G.seq fun a => (G.times n).seq fun as => Format.empty (a :: as)) :=
        hx.bind fun _ a _ => ih.bind fun _ as _ => Reads.pure (a :: as)
      exact h.congr fun run values => Format.times_succ.symm

end Persist

end SpatialPlatform.Lib
