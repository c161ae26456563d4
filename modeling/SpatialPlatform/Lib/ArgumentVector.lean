import Mathlib.Algebra.BigOperators.Group.List.Basic
import Mathlib.Algebra.GroupWithZero.Nat
import Mathlib.Data.List.Basic
import Mathlib.Data.List.TakeWhile

/-!
# Command lines of Windows

How `CommandLineToArgvW` is documented to take a command line apart. Backslashes
mean something only in front of a quote: of `2n` or `2n + 1` of them `n` stay,
and the quote turns quoting on or off, or is a letter. This does not depend on
whether the text is quoted, so it is done first (`marks`), and the arguments are
cut afterwards.
-/

namespace SpatialPlatform.Lib.ArgumentVector

/-- `wchar_t` of Windows. -/
abbrev Wide := UInt16

def quote : Wide := 0x22

def backslash : Wide := 0x5C

def space : Wide := 0x20

def isBlank (c : Wide) : Bool := c = space || c = 0x09

/-- What is left of a text when its backslashes are read: letters, and quotes
that turn quoting on or off. -/
inductive Mark where
  | letter (c : Wide)
  | toggle
  deriving DecidableEq

/-- The marks of a text, with `n` backslashes right before it. -/
def marks : Nat → List Wide → List Mark
  | n, [] => List.replicate n (.letter backslash)
  | n, c :: text =>
      if c = backslash then marks (n + 1) text
      else if c = quote then
        List.replicate (n / 2) (.letter backslash) ++
          (if n % 2 = 1 then .letter quote else .toggle) :: marks 0 text
      else List.replicate n (.letter backslash) ++ .letter c :: marks 0 text

/-- The arguments of marks; `current` is the argument that has begun. -/
def arguments : Bool → Option (List Wide) → List Mark → List (List Wide)
  | _, current, [] => current.toList
  | quoted, current, .toggle :: rest => arguments (!quoted) (some (current.getD [])) rest
  | quoted, current, .letter c :: rest =>
      if isBlank c && !quoted then current.toList ++ arguments quoted none rest
      else arguments quoted (some (current.getD [] ++ [c])) rest

/-- The program in front, to which backslashes mean nothing, and what follows it. -/
def programName : List Wide → List Wide × List Wide
  | [] => ([], [])
  | c :: text =>
      if c = quote then (text.takeWhile (· ≠ quote), (text.dropWhile (· ≠ quote)).tail)
      else ((c :: text).takeWhile (!isBlank ·), (c :: text).dropWhile (!isBlank ·))

/-- `CommandLineToArgvW`; a text ends at its first zero, and without any text
the program is the `executable` that runs. -/
def commandLineToArgvW (executable : List Wide) (line : List Wide) : List (List Wide) :=
  let text := line.takeWhile (· ≠ 0)
  if text = [] then [executable]
  else (programName text).1 :: arguments false none (marks 0 (programName text).2)

/-! ## Marks

The first pass over a text turns backslashes and quotes into marks. It counts
the backslashes that it has just passed, so the inductions are about any count. -/

theorem marks_backslash (n : Nat) (text : List Wide) :
    marks n (backslash :: text) = marks (n + 1) text := by
  rw [marks, if_pos rfl]

theorem marks_quote (n : Nat) (text : List Wide) : marks n (quote :: text) =
    List.replicate (n / 2) (.letter backslash) ++
      (if n % 2 = 1 then .letter quote else .toggle) :: marks 0 text := by
  rw [marks, if_neg (by decide), if_pos rfl]

theorem marks_letter {c : Wide} (hslash : c ≠ backslash) (hquote : c ≠ quote) (n : Nat)
    (text : List Wide) :
    marks n (c :: text) = List.replicate n (.letter backslash) ++ .letter c :: marks 0 text := by
  rw [marks, if_neg hslash, if_neg hquote]

/-- A text in front of which backslashes are backslashes. -/
def Plain (text : List Wide) : Prop :=
  ∀ n, marks n text = List.replicate n (.letter backslash) ++ marks 0 text

theorem plain_nil : Plain [] := by
  intro n
  simp [marks]

theorem plain_space (text : List Wide) : Plain (space :: text) := by
  intro n
  rw [marks_letter (by decide) (by decide), marks_letter (by decide) (by decide)]
  rfl

/-- Without quotes, backslashes are letters like others. -/
theorem marks_unquoted {word rest : List Wide} (hword : quote ∉ word) (hrest : Plain rest) (n : Nat) :
    marks n (word ++ rest) =
      List.replicate n (.letter backslash) ++ (word.map .letter ++ marks 0 rest) := by
  induction word generalizing n with
  | nil => exact hrest n
  | cons c word ih =>
      obtain ⟨hc, htail⟩ := not_or.mp (List.mem_cons.not.mp hword)
      by_cases hslash : c = backslash
      · subst hslash
        rw [List.cons_append, marks_backslash, ih htail, List.replicate_succ', List.append_assoc]
        rfl
      · rw [List.cons_append, marks_letter hslash (Ne.symm hc), ih htail]
        rfl

/-- What holds of the letters of a text holds of the letters that are read from it. -/
theorem forall_marks {P : Wide → Prop} (hslash : P backslash) {text : List Wide}
    (htext : ∀ c ∈ text, P c) (n : Nat) : ∀ c, .letter c ∈ marks n text → P c := by
  induction text generalizing n with
  | nil =>
      intro c hc
      rw [Mark.letter.inj (List.eq_of_mem_replicate hc)]
      exact hslash
  | cons d text ih =>
      have hd := htext d List.mem_cons_self
      have hrest := ih (fun c hc => htext c (List.mem_cons_of_mem _ hc))
      intro c hc
      unfold marks at hc
      split_ifs at hc with h1 h2
      · exact hrest _ c hc
      all_goals
        rcases List.mem_append.mp hc with hc | hc
        · rw [Mark.letter.inj (List.eq_of_mem_replicate hc)]
          exact hslash
        · rcases List.mem_cons.mp hc with hc | hc
          · grind
          · exact hrest 0 c hc

/-! ## Arguments

The second pass cuts the marks into arguments. It knows whether it is between
quotes and what it has read of the current argument; both are free in the
inductions. -/

theorem forall_arguments {P : Wide → Prop} {ms : List Mark} (hms : ∀ c, .letter c ∈ ms → P c)
    (quoted : Bool) {current : Option (List Wide)} (hcurrent : ∀ c ∈ current.getD [], P c) :
    ∀ argument ∈ arguments quoted current ms, ∀ c ∈ argument, P c := by
  induction ms generalizing quoted current with
  | nil =>
      intro argument hargument
      cases current with
      | none => cases hargument
      | some word => rwa [List.mem_singleton.mp hargument]
  | cons mark ms ih =>
      have hrest := ih (fun c hc => hms c (List.mem_cons_of_mem _ hc))
      cases mark with
      | toggle => exact hrest (!quoted) hcurrent
      | letter d =>
          unfold arguments
          split_ifs
          · intro argument hargument
            rcases List.mem_append.mp hargument with hclosed | hlater
            · cases current with
              | none => cases hclosed
              | some word => rwa [List.mem_singleton.mp hclosed]
            · exact hrest quoted (fun c hc => absurd hc List.not_mem_nil) argument hlater
          · apply hrest quoted
            intro c hc
            rcases List.mem_append.mp hc with hold | hnew
            · exact hcurrent c hold
            · rw [List.mem_singleton.mp hnew]
              exact hms d List.mem_cons_self

theorem arguments_toggle (quoted : Bool) (current : Option (List Wide)) (rest : List Mark) :
    arguments quoted current (.toggle :: rest) =
      arguments (!quoted) (some (current.getD [])) rest := by
  rw [arguments]

theorem arguments_blank (current : Option (List Wide)) {c : Wide} (hc : isBlank c = true)
    (rest : List Mark) :
    arguments false current (.letter c :: rest) = current.toList ++ arguments false none rest := by
  rw [arguments, hc]
  rfl

theorem arguments_letter {c : Wide} (hc : isBlank c = false) (quoted : Bool)
    (current : Option (List Wide)) (rest : List Mark) :
    arguments quoted current (.letter c :: rest) =
      arguments quoted (some (current.getD [] ++ [c])) rest := by
  rw [arguments, hc, Bool.false_and, if_neg Bool.false_ne_true]

/-- Letters that are not blank belong to the argument that has begun. -/
theorem arguments_letters {word : List Wide} (hword : ∀ c ∈ word, isBlank c = false)
    (quoted : Bool) (before : List Wide) (rest : List Mark) :
    arguments quoted (some before) (word.map .letter ++ rest) =
      arguments quoted (some (before ++ word)) rest := by
  induction word generalizing before with
  | nil => rw [List.append_nil]; rfl
  | cons c word ih =>
      have hc := hword c List.mem_cons_self
      rw [List.map_cons, List.cons_append, arguments_letter hc, Option.getD_some,
        ih (fun d hd => hword d (List.mem_cons_of_mem _ hd)), List.append_assoc]
      rfl

/-- Between quotes, every letter does. -/
theorem arguments_quoted (word before : List Wide) (rest : List Mark) :
    arguments true (some before) (word.map .letter ++ rest) =
      arguments true (some (before ++ word)) rest := by
  induction word generalizing before with
  | nil => rw [List.append_nil]; rfl
  | cons c word ih =>
      rw [List.map_cons, List.cons_append, arguments, Bool.not_true, Bool.and_false,
        if_neg Bool.false_ne_true, Option.getD_some, ih, List.append_assoc]
      rfl

theorem mem_of_mem_programName {text : List Wide} {c : Wide}
    (hc : c ∈ (programName text).1 ∨ c ∈ (programName text).2) : c ∈ text := by
  cases text with
  | nil => simp [programName] at hc
  | cons d text =>
      rw [programName] at hc
      split_ifs at hc
      · apply List.mem_cons_of_mem
        rcases hc with htaken | hleft
        · exact (List.takeWhile_sublist _).subset htaken
        · exact (List.dropWhile_sublist _).subset (List.mem_of_mem_tail hleft)
      · rcases hc with htaken | hleft
        · exact (List.takeWhile_sublist (!isBlank ·)).subset htaken
        · exact (List.dropWhile_sublist (!isBlank ·)).subset hleft

/-- What holds of the letters of a text, and of a backslash, holds of all that is read from it. -/
theorem forall_commandLineToArgvW {P : Wide → Prop} (hslash : P backslash) {line : List Wide}
    (hline : ∀ c ∈ line, c ≠ 0 → P c) (hsome : line.takeWhile (· ≠ 0) ≠ []) (executable : List Wide) :
    ∀ argument ∈ commandLineToArgvW executable line, ∀ c ∈ argument, P c := by
  have htext : ∀ c ∈ line.takeWhile (· ≠ 0), P c := fun c hc =>
    hline c ((List.takeWhile_sublist _).subset hc) (by simpa using List.mem_takeWhile_imp hc)
  unfold commandLineToArgvW
  simp only [hsome, if_false]
  intro argument hargument
  rcases List.mem_cons.mp hargument with rfl | hfollowing
  · exact fun c hc => htext c (mem_of_mem_programName (Or.inl hc))
  · refine forall_arguments ?_ false (fun c hc => absurd hc List.not_mem_nil) argument hfollowing
    exact forall_marks hslash (fun c hc => htext c (mem_of_mem_programName (Or.inr hc))) 0

/-! ## Weights

A text weighs at least as much as what is read from it, and more if a quote in
it was escaped or opened something. So a text that is read as itself has
neither. -/

/-- What a text weighs: a backslash 2, a quote 1. -/
def weight (text : List Wide) : Nat :=
  (text.map fun c => if c = backslash then 2 else if c = quote then 1 else 0).sum

/-- The letter that a mark stands for. -/
def Mark.letters : Mark → List Wide
  | .letter c => [c]
  | .toggle => []

/-- What the letters of marks weigh. -/
def markWeight (ms : List Mark) : Nat := weight (ms.flatMap Mark.letters)

theorem weight_cons (c : Wide) (text : List Wide) : weight (c :: text) = weight [c] + weight text := by
  simp [weight]

theorem weight_append (a b : List Wide) : weight (a ++ b) = weight a + weight b := by
  simp [weight]

theorem weight_blank {c : Wide} (hc : isBlank c = true) : weight [c] = 0 := by
  have hor : c = space ∨ c = 0x09 := by simpa [isBlank] using hc
  rcases hor with rfl | rfl <;> rfl

theorem weight_other {c : Wide} (hslash : c ≠ backslash) (hquote : c ≠ quote) : weight [c] = 0 := by
  simp [weight, hslash, hquote]

@[simp] theorem markWeight_append (a b : List Mark) :
    markWeight (a ++ b) = markWeight a + markWeight b := by
  simp [markWeight, weight_append]

@[simp] theorem markWeight_letter (c : Wide) (ms : List Mark) :
    markWeight (.letter c :: ms) = weight [c] + markWeight ms := by
  rw [markWeight, List.flatMap_cons, weight_append]
  rfl

@[simp] theorem markWeight_toggle (ms : List Mark) : markWeight (.toggle :: ms) = markWeight ms := rfl

theorem markWeight_letters (text : List Wide) : markWeight (text.map .letter) = weight text := by
  induction text with
  | nil => rfl
  | cons c text ih => rw [List.map_cons, markWeight_letter, ih, weight_cons c text]

@[simp] theorem markWeight_backslashes (n : Nat) :
    markWeight (List.replicate n (.letter backslash)) = 2 * n := by
  induction n with
  | zero => rfl
  | succ n ih =>
      have hone : weight [backslash] = 2 := rfl
      rw [List.replicate_succ, markWeight_letter, ih, hone]
      omega

/-- In front of a quote, a backslash weighs half. -/
theorem markWeight_quote (n : Nat) (text : List Wide) :
    markWeight (marks n (quote :: text)) = n + markWeight (marks 0 text) := by
  have hone : weight [quote] = 1 := rfl
  rw [marks_quote, markWeight_append, markWeight_backslashes]
  split_ifs with hodd
  · rw [markWeight_letter, hone]
    omega
  · rw [markWeight_toggle]
    omega

/-- Nothing that has a weight is lost between marks and arguments. -/
theorem weight_arguments (ms : List Mark) (quoted : Bool) (current : Option (List Wide)) :
    weight (arguments quoted current ms).flatten = weight (current.getD []) + markWeight ms := by
  induction ms generalizing quoted current with
  | nil => cases current <;> simp [arguments, weight, markWeight]
  | cons mark ms ih =>
      cases mark with
      | toggle => exact ih _ _
      | letter c =>
          rw [markWeight_letter, arguments]
          split_ifs with hblank
          · have hc : weight [c] = 0 := weight_blank (Bool.and_eq_true_iff.mp hblank).1
            have hclosed : weight current.toList.flatten = weight (current.getD []) := by
              cases current <;> simp
            have hnone : weight ((none : Option (List Wide)).getD []) = 0 := rfl
            rw [List.flatten_append, weight_append, ih, hc, hclosed, hnone]
          · rw [ih, Option.getD_some, weight_append, Nat.add_assoc]

end SpatialPlatform.Lib.ArgumentVector
