import SpatialPlatform.Lib.ArgumentVector

/-!
# Command lines of child processes

`BuildCommandLine` of `adapters/process/process_runner_win32.cpp`, and the same
text as `Spawn` of `engine/workers/child_process_win32.cpp` makes it, against
the way Windows takes a command line apart. Arguments are bytes. Each is widened
by itself, with its sign, and a quote gets a backslash in front of it; the
backslashes that stand there already are left as they are.

* `commandLine_recovered_iff` — which arguments come back.
-/

namespace SpatialPlatform.Adapters.Process

open SpatialPlatform.Lib.ArgumentVector

/-- `static_cast<wchar_t>` of a `char`, which has a sign. -/
def widen (c : UInt8) : Wide := if c < 0x80 then c.toUInt16 else 0xFF00 + c.toUInt16

/-- `find_first_of(" \t\"")` finds something. -/
def needsQuotes (arg : List UInt8) : Bool := arg.any fun c => c = 0x20 || c = 0x09 || c = 0x22

/-- An argument between its quotes, without the one in front. -/
def escaped : List UInt8 → List Wide
  | [] => [quote]
  | c :: arg => if c = 0x22 then backslash :: quote :: escaped arg else widen c :: escaped arg

def quoteArgument (arg : List UInt8) : List Wide :=
  if needsQuotes arg then quote :: escaped arg else arg.map widen

/-- The arguments after the first one, a space in front of each. -/
def followingArguments (args : List (List UInt8)) : List Wide :=
  args.flatMap fun arg => space :: quoteArgument arg

/-- `BuildCommandLine`. -/
def buildCommandLine : List (List UInt8) → List Wide
  | [] => []
  | program :: args => quoteArgument program ++ followingArguments args

/-- The command line of `ChildProcess::Spawn`. -/
def ChildProcess.commandLine (argv : List (List UInt8)) : List Wide := buildCommandLine argv

/-- The characters whose codes the bytes are. -/
def characters (arg : List UInt8) : List Wide := arg.map UInt8.toUInt16

/-! ## Widened bytes

A byte is widened with its sign. So ASCII stays, and nothing else becomes a
character that the splitter knows. -/

theorem widen_ascii {c : UInt8} (hc : c < 0x80) : widen c = c.toUInt16 := if_pos hc

/-- Above ASCII, the sign fills the upper byte. -/
theorem widen_range (c : UInt8) : widen c < 0x80 ∨ 0xFF80 ≤ widen c := by
  have hbyte := c.toNat_lt
  unfold widen
  split_ifs with hc
  · left
    rw [UInt8.lt_iff_toNat_lt] at hc
    rw [UInt16.lt_iff_toNat_lt, UInt8.toNat_toUInt16]
    exact hc
  · right
    rw [UInt8.lt_iff_toNat_lt] at hc
    rw [UInt16.le_iff_toNat_le, UInt16.toNat_add, UInt8.toNat_toUInt16]
    have h128 : (0x80 : UInt8).toNat = 128 := rfl
    have h65280 : (0xFF00 : UInt16).toNat = 65280 := rfl
    have h65408 : (0xFF80 : UInt16).toNat = 65408 := rfl
    omega

theorem widen_eq_iff {c d : UInt8} (hd : d < 0x80) : widen c = d.toUInt16 ↔ c = d := by
  constructor
  · intro h
    by_cases hc : c < 0x80
    · rw [widen_ascii hc] at h
      have hnat := congrArg UInt16.toNat h
      rw [UInt8.toNat_toUInt16, UInt8.toNat_toUInt16] at hnat
      exact UInt8.toNat_inj.mp hnat
    · exfalso
      have hbyte := c.toNat_lt
      have hnat := congrArg UInt16.toNat h
      unfold widen at hnat
      rw [if_neg hc, UInt16.toNat_add, UInt8.toNat_toUInt16, UInt8.toNat_toUInt16] at hnat
      rw [UInt8.lt_iff_toNat_lt] at hc hd
      have h128 : (0x80 : UInt8).toNat = 128 := rfl
      have h65280 : (0xFF00 : UInt16).toNat = 65280 := rfl
      omega
  · rintro rfl
    exact widen_ascii hd

theorem widen_eq_backslash {c : UInt8} : widen c = backslash ↔ c = 0x5C :=
  widen_eq_iff (d := 0x5C) (by decide)

theorem widen_eq_quote {c : UInt8} : widen c = quote ↔ c = 0x22 :=
  widen_eq_iff (d := 0x22) (by decide)

theorem isBlank_widen {c : UInt8} : isBlank (widen c) = true ↔ c = 0x20 ∨ c = 0x09 := by
  have hspace : widen c = space ↔ c = 0x20 := widen_eq_iff (d := 0x20) (by decide)
  have htab : widen c = 0x09 ↔ c = 0x09 := widen_eq_iff (d := 0x09) (by decide)
  simp [isBlank, hspace, htab]

/-! ## Arguments between quotes

What the splitter makes of an argument that was put between quotes. It counts
the backslashes that it has just passed, so the inductions over the argument are
about any number of backslashes in front of it. -/

/-- No backslash stands directly in front of a quote, of those in the argument or the closing one. -/
def Quotable (arg : List UInt8) : Prop := ¬ [0x5C, 0x22] <:+: arg ++ [0x22]

/-- The same, with `n` backslashes in front of the argument. -/
def QuotableAfter (n : Nat) (arg : List UInt8) : Prop :=
  ¬ [0x5C, 0x22] <:+: List.replicate n 0x5C ++ (arg ++ [0x22])

/-- A pair of different elements, in a text that begins with many of its first one. -/
theorem pair_infix_iff {α : Type} {a b c : α} (hab : a ≠ b) (hc : c ≠ a) (n : Nat) (text : List α) :
    [a, b] <:+: List.replicate n a ++ c :: text ↔ (n ≠ 0 ∧ c = b) ∨ [a, b] <:+: text := by
  induction n with
  | zero =>
      have hhead : ¬ [a, b] <+: c :: text := by
        rw [List.cons_prefix_cons]
        exact fun h => hc h.1.symm
      simp [List.infix_cons_iff, hhead]
  | succ n ih =>
      rw [List.replicate_succ, List.cons_append, List.infix_cons_iff, ih, List.cons_prefix_cons]
      cases n with
      | zero =>
          simp [List.cons_prefix_cons, eq_comm]
      | succ n =>
          simp [List.replicate_succ, List.cons_prefix_cons, hab.symm]

theorem quotableAfter_nil {n : Nat} : QuotableAfter n [] ↔ n = 0 := by
  unfold QuotableAfter
  rw [List.nil_append, pair_infix_iff (by decide) (by decide)]
  simp

theorem quotableAfter_backslash {n : Nat} {arg : List UInt8} :
    QuotableAfter n (0x5C :: arg) ↔ QuotableAfter (n + 1) arg := by
  unfold QuotableAfter
  rw [List.replicate_succ', List.append_assoc]
  rfl

theorem quotableAfter_quote {n : Nat} {arg : List UInt8} :
    QuotableAfter n (0x22 :: arg) ↔ n = 0 ∧ QuotableAfter 0 arg := by
  unfold QuotableAfter
  rw [List.cons_append, pair_infix_iff (by decide) (by decide)]
  simp

theorem quotableAfter_other {n : Nat} {c : UInt8} {arg : List UInt8} (hslash : c ≠ 0x5C)
    (hquote : c ≠ 0x22) : QuotableAfter n (c :: arg) ↔ QuotableAfter 0 arg := by
  unfold QuotableAfter
  rw [List.cons_append, pair_infix_iff (by decide) hslash]
  simp [hquote]

/-- Where no backslash stands in front of a quote, the text between the quotes is the argument. -/
theorem marks_escaped {n : Nat} {arg : List UInt8} (h : QuotableAfter n arg) (rest : List Wide) :
    marks n (escaped arg ++ rest) = List.replicate n (.letter backslash) ++
      ((arg.map widen).map .letter ++ .toggle :: marks 0 rest) := by
  induction arg generalizing n with
  | nil =>
      obtain rfl := quotableAfter_nil.mp h
      exact marks_quote 0 rest
  | cons c arg ih =>
      by_cases hquote : c = 0x22
      · subst hquote
        obtain ⟨rfl, htail⟩ := quotableAfter_quote.mp h
        rw [escaped, if_pos rfl, List.cons_append, List.cons_append, marks_backslash, marks_quote,
          ih htail]
        rfl
      by_cases hslash : c = 0x5C
      · subst hslash
        have hwiden : widen 0x5C = backslash := rfl
        rw [escaped, if_neg hquote, List.cons_append, hwiden, marks_backslash,
          ih (quotableAfter_backslash.mp h), List.replicate_succ', List.append_assoc]
        rfl
      · rw [escaped, if_neg hquote, List.cons_append,
          marks_letter (widen_eq_backslash.not.mpr hslash) (widen_eq_quote.not.mpr hquote),
          ih ((quotableAfter_other hslash hquote).mp h)]
        rfl

/-- Quoting never makes an argument heavier, and a backslash in front of a quote makes it lighter. -/
theorem markWeight_escaped (n : Nat) (arg : List UInt8) (rest : List Wide) :
    markWeight (marks n (escaped arg ++ rest)) ≤
        2 * n + weight (arg.map widen) + markWeight (marks 0 rest) ∧
      (¬ QuotableAfter n arg → markWeight (marks n (escaped arg ++ rest)) <
        2 * n + weight (arg.map widen) + markWeight (marks 0 rest)) := by
  induction arg generalizing n with
  | nil =>
      have hquote := markWeight_quote n rest
      have hnil : weight ([].map widen) = 0 := rfl
      rw [quotableAfter_nil, hnil]
      show markWeight (marks n (quote :: rest)) ≤ _ ∧ (_ → markWeight (marks n (quote :: rest)) < _)
      omega
  | cons c arg ih =>
      rw [List.map_cons, weight_cons]
      by_cases hquote : c = 0x22
      · subst hquote
        obtain ⟨hle, hlt⟩ := ih 0
        have hweight : weight [widen 0x22] = 1 := rfl
        rw [escaped, if_pos rfl, List.cons_append, List.cons_append, marks_backslash,
          markWeight_quote, quotableAfter_quote, hweight]
        refine ⟨by omega, ?_⟩
        intro hbad
        -- with no backslash in front the quote is escaped rightly, and the loss is behind it
        by_cases hn : n = 0
        · have := hlt fun htail => hbad ⟨hn, htail⟩
          omega
        · omega
      by_cases hslash : c = 0x5C
      · subst hslash
        obtain ⟨hle, hlt⟩ := ih (n + 1)
        have hwiden : widen 0x5C = backslash := rfl
        have hweight : weight [backslash] = 2 := rfl
        rw [escaped, if_neg hquote, List.cons_append, hwiden, marks_backslash,
          quotableAfter_backslash, hweight]
        refine ⟨by omega, ?_⟩
        intro hbad
        have := hlt hbad
        omega
      · obtain ⟨hle, hlt⟩ := ih 0
        have hslash' := widen_eq_backslash.not.mpr hslash
        have hquote' := widen_eq_quote.not.mpr hquote
        rw [escaped, if_neg hquote, List.cons_append, marks_letter hslash' hquote',
          markWeight_append, markWeight_letter, markWeight_backslashes, weight_other hslash' hquote',
          quotableAfter_other hslash hquote]
        refine ⟨by omega, ?_⟩
        intro hbad
        have := hlt hbad
        omega

/-! ## The arguments in a row

By induction over the arguments: what is left of the line after the first of
them begins with the blank that ends it. For the converse the arguments are
weighed: none becomes heavier, and one with a backslash in front of a quote
becomes lighter, so nothing later can make up for it. -/

theorem not_quote_of_bare {arg : List UInt8} (h : needsQuotes arg = false) :
    quote ∉ arg.map widen := by
  intro hmem
  obtain ⟨c, hc, hquote⟩ := List.mem_map.mp hmem
  have hclear := List.any_eq_false.mp h c hc
  rw [widen_eq_quote.mp hquote] at hclear
  exact hclear rfl

theorem not_blank_of_bare {arg : List UInt8} (h : needsQuotes arg = false) :
    ∀ w ∈ arg.map widen, isBlank w = false := by
  intro w hw
  obtain ⟨c, hc, rfl⟩ := List.mem_map.mp hw
  have hclear := List.any_eq_false.mp h c hc
  rw [← Bool.not_eq_true, isBlank_widen]
  rintro (rfl | rfl) <;> exact hclear rfl

theorem ne_nil_of_needsQuotes {arg : List UInt8} (h : needsQuotes arg = true) : arg ≠ [] := by
  rintro rfl
  cases h

theorem followingArguments_cons (arg : List UInt8) (args : List (List UInt8)) :
    followingArguments (arg :: args) = space :: (quoteArgument arg ++ followingArguments args) := rfl

theorem marks_space (text : List Wide) : marks 0 (space :: text) = .letter space :: marks 0 text :=
  marks_letter (by decide) (by decide) 0 text

theorem plain_following (args : List (List UInt8)) : Plain (followingArguments args) := by
  cases args with
  | nil => exact plain_nil
  | cons arg args => exact plain_space _

/-- An argument that has begun ends where the next one follows. -/
theorem arguments_following (word : List Wide) (args : List (List UInt8)) :
    arguments false (some word) (marks 0 (followingArguments args)) =
      word :: arguments false none (marks 0 (followingArguments args)) := by
  cases args with
  | nil => rfl
  | cons arg args =>
      rw [followingArguments_cons, marks_space, arguments_blank _ rfl, arguments_blank _ rfl]
      rfl

/-- Arguments that quoting leaves alone come back, without the empty ones. -/
theorem arguments_of_quotable {args : List (List UInt8)}
    (h : ∀ arg ∈ args, needsQuotes arg = true → Quotable arg) :
    arguments false none (marks 0 (followingArguments args)) =
      (args.filter (· ≠ [])).map (List.map widen) := by
  induction args with
  | nil => rfl
  | cons arg args ih =>
      have hrest := ih fun a ha => h a (List.mem_cons_of_mem _ ha)
      rw [followingArguments_cons, marks_space, arguments_blank _ rfl, quoteArgument,
        Option.toList_none, List.nil_append]
      split_ifs with hquotes
      · have hmarks := marks_escaped (n := 0) (h arg List.mem_cons_self hquotes)
          (followingArguments args)
        have hopen : marks 0 (quote :: (escaped arg ++ followingArguments args)) =
            .toggle :: marks 0 (escaped arg ++ followingArguments args) := marks_quote 0 _
        rw [List.replicate_zero, List.nil_append] at hmarks
        rw [List.cons_append, hopen, hmarks, arguments_toggle, Bool.not_false, arguments_quoted,
          arguments_toggle, Bool.not_true, Option.getD_none, List.nil_append, Option.getD_some,
          arguments_following, hrest,
          List.filter_cons_of_pos (by simpa using ne_nil_of_needsQuotes hquotes)]
        rfl
      · rw [Bool.not_eq_true] at hquotes
        rw [marks_unquoted (not_quote_of_bare hquotes) (plain_following args), List.replicate_zero,
          List.nil_append]
        -- an empty argument is not quoted, and nothing is left of it
        cases arg with
        | nil => exact hrest
        | cons c arg =>
            have hblank := not_blank_of_bare hquotes
            have hc : isBlank (widen c) = false := hblank _ List.mem_cons_self
            have htail : ∀ w ∈ arg.map widen, isBlank w = false :=
              fun w hw => hblank w (List.mem_cons_of_mem _ hw)
            rw [List.map_cons, List.map_cons, List.cons_append, arguments_letter hc,
              arguments_letters htail, arguments_following, hrest,
              List.filter_cons_of_pos (by simp)]
            rfl

/-- The arguments get no heavier, and lighter where a backslash stands in front of a quote. -/
theorem markWeight_following (args : List (List UInt8)) :
    markWeight (marks 0 (followingArguments args)) ≤ weight (args.map (List.map widen)).flatten ∧
      ((∃ arg ∈ args, needsQuotes arg = true ∧ ¬ Quotable arg) →
        markWeight (marks 0 (followingArguments args)) <
          weight (args.map (List.map widen)).flatten) := by
  induction args with
  | nil => exact ⟨Nat.le_refl _, fun ⟨_, hmem, _⟩ => absurd hmem List.not_mem_nil⟩
  | cons arg args ih =>
      obtain ⟨hle, hlt⟩ := ih
      have hspace : weight [space] = 0 := rfl
      rw [followingArguments_cons, marks_space, markWeight_letter, hspace, List.map_cons,
        List.flatten_cons, weight_append, quoteArgument]
      split_ifs with hquotes
      · obtain ⟨hle', hlt'⟩ := markWeight_escaped 0 arg (followingArguments args)
        have hopen := markWeight_quote 0 (escaped arg ++ followingArguments args)
        rw [List.cons_append, hopen]
        refine ⟨by omega, ?_⟩
        rintro ⟨bad, hmem, hbad⟩
        rcases List.mem_cons.mp hmem with rfl | hlater
        · have := hlt' hbad.2
          omega
        · have := hlt ⟨bad, hlater, hbad⟩
          omega
      · rw [Bool.not_eq_true] at hquotes
        rw [marks_unquoted (not_quote_of_bare hquotes) (plain_following args), List.replicate_zero,
          List.nil_append, markWeight_append, markWeight_letters]
        refine ⟨by omega, ?_⟩
        rintro ⟨bad, hmem, hbad⟩
        rcases List.mem_cons.mp hmem with rfl | hlater
        · rw [hbad.1] at hquotes
          cases hquotes
        · have := hlt ⟨bad, hlater, hbad⟩
          omega

/-! ## The program

The first word of a line is split by other rules: backslashes are letters there. -/

/-- Names that Windows has for a program. -/
structure PermittedProgram (program : List UInt8) : Prop where
  named : program ≠ []
  quoteless : 0x22 ∉ program
  terminated : 0 ∉ program

theorem escaped_of_quoteless {arg : List UInt8} (h : 0x22 ∉ arg) :
    escaped arg = arg.map widen ++ [quote] := by
  induction arg with
  | nil => rfl
  | cons c arg ih =>
      obtain ⟨hc, harg⟩ := not_or.mp (List.mem_cons.not.mp h)
      rw [escaped, if_neg (Ne.symm hc), ih harg]
      rfl

/-- Backslashes and blanks of a program name stay what they are. -/
theorem programName_built {program : List UInt8} (h : PermittedProgram program)
    (args : List (List UInt8)) :
    programName (buildCommandLine (program :: args)) =
      (program.map widen, followingArguments args) := by
  have hquoteless : ∀ w ∈ program.map widen, w ≠ quote := by
    intro w hw
    obtain ⟨c, hc, rfl⟩ := List.mem_map.mp hw
    exact fun hquote => h.quoteless (widen_eq_quote.mp hquote ▸ hc)
  rw [buildCommandLine, quoteArgument]
  split_ifs with hquotes
  · rw [escaped_of_quoteless h.quoteless, List.cons_append, List.append_assoc, programName, if_pos rfl,
      List.takeWhile_append_of_pos (by simpa using hquoteless),
      List.dropWhile_append_of_pos (by simpa using hquoteless)]
    simp
  · rw [Bool.not_eq_true] at hquotes
    have hblank : ∀ w ∈ program.map widen, (!isBlank w) = true := by
      intro w hw
      rw [not_blank_of_bare hquotes w hw]
      rfl
    obtain ⟨c, rest, rfl⟩ := List.exists_cons_of_ne_nil h.named
    have hfirst : widen c ≠ quote := hquoteless _ List.mem_cons_self
    -- what follows the program begins with a blank, or is nothing
    have hstop : (followingArguments args).takeWhile (!isBlank ·) = [] ∧
        (followingArguments args).dropWhile (!isBlank ·) = followingArguments args := by
      cases args with
      | nil => exact ⟨rfl, rfl⟩
      | cons arg args => exact ⟨rfl, rfl⟩
    show programName (widen c :: (rest.map widen ++ followingArguments args)) = _
    rw [programName, if_neg hfirst]
    show ((List.map widen (c :: rest) ++ followingArguments args).takeWhile _,
      (List.map widen (c :: rest) ++ followingArguments args).dropWhile _) = _
    rw [List.takeWhile_append_of_pos hblank, List.dropWhile_append_of_pos hblank, hstop.1, hstop.2,
      List.append_nil]

/-- What holds of widened bytes and of the signs of the builder holds of every letter of a line. -/
theorem forall_buildCommandLine {P : Wide → Prop} (hquote : P quote) (hslash : P backslash)
    (hspace : P space) {argv : List (List UInt8)} (h : ∀ arg ∈ argv, ∀ c ∈ arg, P (widen c)) :
    ∀ w ∈ buildCommandLine argv, P w := by
  -- quoting adds backslashes and quotes only
  have hescaped : ∀ arg : List UInt8, (∀ c ∈ arg, P (widen c)) → ∀ w ∈ escaped arg, P w := by
    intro arg harg
    induction arg with
    | nil =>
        intro w hw
        rwa [List.mem_singleton.mp hw]
    | cons c arg ih =>
        have hrest := ih fun d hd => harg d (List.mem_cons_of_mem _ hd)
        have hc := harg c List.mem_cons_self
        intro w hw
        unfold escaped at hw
        split_ifs at hw
        · grind
        · grind
  have hquoted : ∀ arg : List UInt8, (∀ c ∈ arg, P (widen c)) → ∀ w ∈ quoteArgument arg, P w := by
    intro arg harg w hw
    unfold quoteArgument at hw
    split_ifs at hw
    · rcases List.mem_cons.mp hw with rfl | hw
      · exact hquote
      · exact hescaped arg harg w hw
    · obtain ⟨c, hc, rfl⟩ := List.mem_map.mp hw
      exact harg c hc
  cases argv with
  | nil => exact fun w hw => absurd hw List.not_mem_nil
  | cons program args =>
      intro w hw
      rcases List.mem_append.mp hw with hprogram | hfollowing
      · exact hquoted program (h program List.mem_cons_self) w hprogram
      · obtain ⟨arg, harg, hw⟩ := List.mem_flatMap.mp hfollowing
        rcases List.mem_cons.mp hw with rfl | hw
        · exact hspace
        · exact hquoted arg (h arg (List.mem_cons_of_mem _ harg)) w hw

/-! ## What comes back

The builders widen bytes, so other bytes than ASCII are lost before any quoting;
what is left is decided by the arguments in a row. -/

/-- The bytes are characters of ASCII, and none is the zero that ends a text. -/
def Ascii (arg : List UInt8) : Prop := ∀ c ∈ arg, c ≠ 0 ∧ c < 0x80

/-- The argument is there, and quoting does not change what its backslashes mean. -/
def Kept (arg : List UInt8) : Prop := arg ≠ [] ∧ (needsQuotes arg = true → Quotable arg)

theorem characters_of_ascii {arg : List UInt8} (h : Ascii arg) : arg.map widen = characters arg :=
  List.map_congr_left fun c hc => widen_ascii (h c hc).2

theorem map_widen_of_ascii {args : List (List UInt8)} (h : ∀ arg ∈ args, Ascii arg) :
    args.map (List.map widen) = args.map characters :=
  List.map_congr_left fun arg harg => characters_of_ascii (h arg harg)

theorem widen_ne_zero {c : UInt8} (hc : c ≠ 0) : widen c ≠ 0 :=
  (widen_eq_iff (d := 0) (by decide)).not.mpr hc

/-- A line without a zero is read to its end. -/
theorem commandLineToArgvW_built (executable : List Wide) {program : List UInt8}
    (hprogram : PermittedProgram program) {args : List (List UInt8)}
    (hascii : ∀ arg ∈ program :: args, Ascii arg) :
    commandLineToArgvW executable (buildCommandLine (program :: args)) =
      program.map widen :: arguments false none (marks 0 (followingArguments args)) := by
  have hzero : ∀ w ∈ buildCommandLine (program :: args), w ≠ 0 :=
    forall_buildCommandLine (P := (· ≠ 0)) (by decide) (by decide) (by decide)
      fun arg harg c hc => widen_ne_zero (hascii arg harg c hc).1
  have htext : (buildCommandLine (program :: args)).takeWhile (· ≠ 0) =
      buildCommandLine (program :: args) :=
    List.takeWhile_eq_self_iff.mpr (by simpa using hzero)
  have hname := programName_built hprogram args
  have hsome : buildCommandLine (program :: args) ≠ [] := by
    intro hnil
    rw [hnil] at hname
    exact hprogram.named (List.map_eq_nil_iff.mp (congrArg Prod.fst hname).symm)
  simp only [commandLineToArgvW, htext, if_neg hsome, hname]

/-- A byte that comes back is one of ASCII, and not zero: others are widened to what no byte is. -/
theorem ascii_of_recovered {executable : List Wide} {program : List UInt8}
    (hprogram : PermittedProgram program) {args : List (List UInt8)}
    (h : commandLineToArgvW executable (buildCommandLine (program :: args)) =
      (program :: args).map characters) : ∀ arg ∈ program :: args, Ascii arg := by
  -- the sign of a byte is widened, so nothing between 0x7F and 0xFF80 is ever written
  let P : Wide → Prop := fun w => w ≠ 0 ∧ (w < 0x80 ∨ 0xFF80 ≤ w)
  have hline : ∀ w ∈ buildCommandLine (program :: args), w ≠ 0 → P w := by
    refine forall_buildCommandLine (P := fun w => w ≠ 0 → P w) ?_ ?_ ?_ ?_
    · exact fun hne => ⟨hne, Or.inl (by decide)⟩
    · exact fun hne => ⟨hne, Or.inl (by decide)⟩
    · exact fun hne => ⟨hne, Or.inl (by decide)⟩
    · exact fun arg _ c _ hne => ⟨hne, widen_range c⟩
  have hsome : (buildCommandLine (program :: args)).takeWhile (· ≠ 0) ≠ [] := by
    obtain ⟨c, rest, rfl⟩ := List.exists_cons_of_ne_nil hprogram.named
    have hc : widen c ≠ 0 := widen_ne_zero (List.ne_of_not_mem_cons hprogram.terminated).symm
    rw [buildCommandLine, quoteArgument]
    split_ifs
    · rw [List.cons_append, List.takeWhile_cons_of_pos (by decide)]
      exact List.cons_ne_nil _ _
    · rw [List.map_cons, List.cons_append, List.takeWhile_cons_of_pos (by simpa using hc)]
      exact List.cons_ne_nil _ _
  have hread := forall_commandLineToArgvW (P := P) ⟨by decide, Or.inl (by decide)⟩ hline hsome executable
  rw [h] at hread
  intro arg harg c hc
  obtain ⟨hne, hrange⟩ := hread _ (List.mem_map_of_mem harg) c.toUInt16 (List.mem_map_of_mem hc)
  have hbyte := c.toNat_lt
  constructor
  · rintro rfl
    exact hne rfl
  · rw [UInt16.lt_iff_toNat_lt, UInt16.le_iff_toNat_le, UInt8.toNat_toUInt16] at hrange
    rw [UInt8.lt_iff_toNat_lt]
    have h128 : (0x80 : UInt8).toNat = 128 := rfl
    have h128' : (0x80 : UInt16).toNat = 128 := rfl
    have h65408 : (0xFF80 : UInt16).toNat = 65408 := rfl
    omega

theorem recovered_iff (executable : List Wide) {program : List UInt8}
    (hprogram : PermittedProgram program) (args : List (List UInt8)) :
    commandLineToArgvW executable (buildCommandLine (program :: args)) =
        (program :: args).map characters ↔
      (∀ arg ∈ program :: args, Ascii arg) ∧ ∀ arg ∈ args, Kept arg := by
  constructor
  · intro h
    have hascii := ascii_of_recovered hprogram h
    rw [commandLineToArgvW_built executable hprogram hascii, ← map_widen_of_ascii hascii,
      List.map_cons] at h
    have hargs := (List.cons.inj h).2
    -- nothing got lighter, so no backslash stands in front of a quote
    have hquotable : ∀ arg ∈ args, needsQuotes arg = true → Quotable arg := by
      by_contra hbad
      push Not at hbad
      have hlighter := (markWeight_following args).2 hbad
      have hweight := weight_arguments (marks 0 (followingArguments args)) false none
      have hnone : weight ((none : Option (List Wide)).getD []) = 0 := rfl
      rw [hargs, hnone] at hweight
      omega
    rw [arguments_of_quotable hquotable] at hargs
    have hlength := congrArg List.length hargs
    rw [List.length_map, List.length_map, List.length_filter_eq_length_iff] at hlength
    exact ⟨hascii, fun arg harg => ⟨by simpa using hlength arg harg, hquotable arg harg⟩⟩
  · rintro ⟨hascii, hkept⟩
    have hall : args.filter (· ≠ []) = args :=
      List.filter_eq_self.mpr fun arg harg => by simpa using (hkept arg harg).1
    rw [commandLineToArgvW_built executable hprogram hascii,
      arguments_of_quotable fun arg harg => (hkept arg harg).2, hall, ← map_widen_of_ascii hascii]
    rfl

/-- Both builders give back a program that Windows permits and its arguments
exactly when all of them are ASCII text, no argument is empty, and in those with
a blank or a quote no backslash stands directly in front of a quote or at the
end. -/
theorem commandLine_recovered_iff (executable : List Wide) {program : List UInt8}
    (hprogram : PermittedProgram program) (args : List (List UInt8)) :
    (commandLineToArgvW executable (buildCommandLine (program :: args)) =
        (program :: args).map characters ↔
      (∀ arg ∈ program :: args, Ascii arg) ∧ ∀ arg ∈ args, Kept arg) ∧
    (commandLineToArgvW executable (ChildProcess.commandLine (program :: args)) =
        (program :: args).map characters ↔
      (∀ arg ∈ program :: args, Ascii arg) ∧ ∀ arg ∈ args, Kept arg) :=
  ⟨recovered_iff executable hprogram args, recovered_iff executable hprogram args⟩

/-- The program `p` with the argument `a b`. -/
theorem spaced_argument_recovered :
    commandLineToArgvW [] (buildCommandLine [[0x70], [0x61, 0x20, 0x62]]) =
      [[0x70], [0x61, 0x20, 0x62]] := by
  have hprogram : PermittedProgram [0x70] := ⟨by decide, by decide, by decide⟩
  refine (commandLine_recovered_iff [] hprogram [[0x61, 0x20, 0x62]]).1.mpr
    ⟨by simp [Ascii], ?_⟩
  intro arg harg
  rw [List.mem_singleton.mp harg]
  exact ⟨by decide, fun _ => by unfold Quotable; decide⟩

/-- The path `a b\`: its last backslash makes a letter of the closing quote. -/
theorem trailing_backslash_lost :
    ¬ ∀ (executable : List Wide) (program : List UInt8) (args : List (List UInt8)),
      PermittedProgram program →
      commandLineToArgvW executable (buildCommandLine (program :: args)) =
          (program :: args).map characters ∧
        commandLineToArgvW executable (ChildProcess.commandLine (program :: args)) =
          (program :: args).map characters := by
  intro h
  have hpath := (h [] [0x70] [[0x61, 0x20, 0x62, 0x5C]] ⟨by decide, by decide, by decide⟩).1
  revert hpath
  decide

end SpatialPlatform.Adapters.Process
