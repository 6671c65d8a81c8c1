import BuildPipeline.Proofs.Json.Scalars
import BuildPipeline.Proofs.Log.Attribution
import Mathlib.Data.List.Basic

set_option autoImplicit false

namespace BuildPipeline

theorem Number.toNat_of_isDigit {c : Char} (digit : Number.isDigit c = true) :
    48 ≤ c.toNat ∧ c.toNat < 58 := by
  simp only [Number.isDigit, Bool.and_eq_true, decide_eq_true_eq, Char.le_def,
    UInt32.le_iff_toNat_le] at digit
  exact ⟨digit.1, Nat.lt_succ_of_le digit.2⟩

theorem Text.digitValue?_of_isDigit {c : Char} (digit : Number.isDigit c = true) :
    Text.digitValue? c = some (c.toNat - 48) ∧ Number.digitOf? c = some (c.toNat - 48) := by
  refine ⟨?_, if_pos digit⟩
  simp [Text.digitValue?, Text.digitZeros, Number.toNat_of_isDigit digit]

theorem Text.digitsValue_digits (n : Nat) : Text.digitsValue (Number.digits n) = n := by
  have same : Text.digitsValue (Number.digits n) = Number.ofDigits (Number.digits n) := by
    refine List.foldl_ext _ _ _ fun total c member => ?_
    obtain ⟨here, there⟩ := Text.digitValue?_of_isDigit (Number.isDigit_of_mem_digits member)
    rw [here, there]
  rw [same, Number.ofDigits_digits]

namespace Log

open BuildPipeline.Text (Blanks IsOneLine isBlank isDigit isLineBoundary dropBlanks dropTailWhile
  dropBlanks_append dropBlanks_cons isOneLine_append)
open Sequencing

theorem digits_digits (n : Nat) : Digits (Number.digits n) := by
  refine ⟨Number.digits_ne_nil n, fun c member => ?_⟩
  rw [isDigit, (Text.digitValue?_of_isDigit (Number.isDigit_of_mem_digits member)).1]
  rfl

theorem not_mem_digits {c : Char} (other : isDigit c = false) (n : Nat) : c ∉ Number.digits n := by
  intro member
  rw [(digits_digits n).2 c member] at other
  cases other

def IsPlain (c : Char) : Prop :=
  32 ≤ c.toNat ∧ c.toNat ≤ 126

instance : DecidablePred IsPlain := fun c => inferInstanceAs (Decidable (32 ≤ c.toNat ∧ c.toNat ≤ 126))

def IsFileChar (c : Char) : Prop :=
  c.isAlphanum = true ∨ c ∈ ['.', '_', '-', '/', '@']

instance : DecidablePred IsFileChar := fun c =>
  inferInstanceAs (Decidable (c.isAlphanum = true ∨ c ∈ ['.', '_', '-', '/', '@']))

structure Frame where
  indent : Nat
  number : Nat
  source : List Char
  plain : ∀ c ∈ source, IsPlain c

structure Location where
  indent : Nat
  file : List Char
  line : Nat
  column : Nat
  frames : List Frame
  named : file ≠ []
  fileChars : ∀ c ∈ file, IsFileChar c
  short : (Number.digits line).length ≤ Number.maxDigits ∧
    (Number.digits column).length ≤ Number.maxDigits

/-- A diagnostic as it is printed, with the symbol in front of it. -/
structure Block where
  symbol : Char
  severity : Severity
  text : List Char
  location : Option Location
  solid : isBlank symbol = false
  some : text ≠ []
  plain : ∀ c ∈ text, IsPlain c
  trimmed : (∀ c ∈ text.head?, isBlank c = false) ∧ ∀ c ∈ text.getLast?, isBlank c = false

def spaces (n : Nat) : List Char :=
  List.replicate (n + 1) ' '

def Frame.gutter (f : Frame) : List Char :=
  Number.digits f.number ++ " │ ".toList

def Frame.line (f : Frame) : List Char :=
  spaces f.indent ++ f.gutter ++ f.source

def Location.place (l : Location) : Place :=
  ⟨l.file, Number.digits l.line, Number.digits l.column⟩

def Location.head (l : Location) : List Char :=
  spaces l.indent ++ l.place.text

def Block.head (b : Block) : List Char :=
  b.symbol :: ' ' :: b.severity.tag ++ ' ' :: b.text

def Location.lines (l : Location) : List (List Char) :=
  l.head :: l.frames.map Frame.line ++ [[]]

def Block.lines (b : Block) : List (List Char) :=
  b.head :: [] :: (b.location.map Location.lines).getD []

def printed (blocks : List Block) : String :=
  String.ofList ((blocks.flatMap Block.lines).flatMap (· ++ ['\n']))

def Block.frames (b : Block) : List Frame :=
  (b.location.map Location.frames).getD []

def Block.entry (b : Block) : Entry where
  fst := b.severity
  snd :=
    { text := String.ofList b.text
      file := b.location.map (String.ofList ·.file)
      line := b.location.map (·.line)
      column := b.location.map (·.column) }

/-- Code that holds, at its end, what a whole diagnostic has behind the name of its file. -/
def QuotesDiagnostic (source : List Char) : Prop :=
  ∃ before line column gap severity text,
    source = before ++ positionText line column ++ gap ++ Severity.label severity ++ text ∧
    Digits line ∧ Digits column ∧ Blanks gap ∧ text ≠ []

theorem isBlank_of_isLineBoundary {c : Char} (boundary : isLineBoundary c = true) :
    isBlank c = true := by
  simp only [isLineBoundary, Bool.or_eq_true, beq_iff_eq] at boundary
  rcases boundary with ((((((((rfl | rfl) | rfl) | rfl) | rfl) | rfl) | rfl) | rfl) | rfl) | rfl <;>
    decide

theorem not_isLineBoundary {c : Char} (solid : isBlank c = false) : isLineBoundary c = false := by
  cases boundary : isLineBoundary c with
  | false => rfl
  | true =>
    rw [isBlank_of_isLineBoundary boundary] at solid
    cases solid

theorem IsPlain.not_isBlank {c : Char} (plain : IsPlain c) (other : c ≠ ' ') : isBlank c = false := by
  have visible : c.toNat ≠ 32 := fun same => other (Char.toNat_inj.1 same)
  obtain ⟨low, high⟩ := plain
  rw [← Bool.not_eq_true, isBlank, Text.covers_iff]
  simp only [Text.blankRanges, List.mem_cons, List.not_mem_nil, or_false]
  rintro ⟨r, ranges, bounds⟩
  rcases ranges with rfl | rfl | rfl | rfl | rfl | rfl | rfl | rfl | rfl | rfl <;> omega

theorem IsPlain.not_isLineBoundary {c : Char} (plain : IsPlain c) : isLineBoundary c = false := by
  by_cases space : c = ' '
  · subst space
    decide
  · exact Log.not_isLineBoundary (plain.not_isBlank space)

theorem toNat_of_isAlphanum {c : Char} (letter : c.isAlphanum = true) :
    48 ≤ c.toNat ∧ c.toNat ≤ 122 := by
  change (decide ('A'.val ≤ c.val ∧ c.val ≤ 'Z'.val) || ('a'.val ≤ c.val && c.val ≤ 'z'.val) ||
    ('0'.val ≤ c.val && c.val ≤ '9'.val)) = true at letter
  simp only [Bool.or_eq_true, Bool.and_eq_true, decide_eq_true_eq, UInt32.le_iff_toNat_le] at letter
  change ((65 ≤ c.toNat ∧ c.toNat ≤ 90) ∨ 97 ≤ c.toNat ∧ c.toNat ≤ 122) ∨
    48 ≤ c.toNat ∧ c.toNat ≤ 57 at letter
  omega

theorem IsFileChar.isPlain {c : Char} (fileChar : IsFileChar c) : IsPlain c ∧ c ≠ ' ' := by
  rcases fileChar with letter | member
  · have bounds := toNat_of_isAlphanum letter
    constructor
    · unfold IsPlain
      omega
    · rintro rfl
      exact absurd bounds (by decide)
  · simp only [List.mem_cons, List.not_mem_nil, or_false] at member
    rcases member with rfl | rfl | rfl | rfl | rfl <;> exact ⟨by decide, by decide⟩

theorem IsFileChar.ne {c d : Char} (fileChar : IsFileChar c) (other : ¬ IsFileChar d) : c ≠ d := by
  rintro rfl
  exact other fileChar

theorem isPlain_of_mem_digits {c : Char} {n : Nat} (member : c ∈ Number.digits n) :
    IsPlain c ∧ c ≠ ' ' := by
  have bounds := Number.toNat_of_isDigit (Number.isDigit_of_mem_digits member)
  refine ⟨⟨by omega, by omega⟩, ?_⟩
  rintro rfl
  exact absurd bounds (by decide)

theorem trailingText?_of_trimmed {text : List Char} (some : text ≠ [])
    (trimmed : (∀ c ∈ text.head?, isBlank c = false) ∧ ∀ c ∈ text.getLast?, isBlank c = false) :
    trailingText? text = .some text := by
  obtain ⟨c, cs, rfl⟩ := List.exists_cons_of_ne_nil some
  have kept : dropTailWhile isBlank (c :: cs) = c :: cs := by
    rw [Text.dropTailWhile_eq_rdropWhile, List.rdropWhile_eq_self_iff]
    intro _
    have := trimmed.2 _ (List.getLast?_eq_some_getLast (List.cons_ne_nil c cs))
    simpa using this
  rw [trailingText?, dropBlanks_cons (trimmed.1 c rfl)]
  exact congrArg Option.some kept

theorem of_head (b : Block) : Line.of b.head = .header b.severity b.text := by
  have behind : dropBlanks (b.head.dropWhile (!isBlank ·)) = b.severity.tag ++ ' ' :: b.text := by
    obtain ⟨rest, opens⟩ := tag_eq_cons b.severity
    have space : isBlank ' ' = true := by decide
    rw [Block.head, List.cons_append, List.dropWhile_cons_of_pos (by simp [b.solid]),
      List.cons_append, List.dropWhile_cons_of_neg (by simp [space])]
    simp [dropBlanks, space, opens, show isBlank '[' = false by decide]
  have separated : separatedText? (' ' :: b.text) = some b.text :=
    trailingText?_of_trimmed b.some b.trimmed
  have found : header? b.head = some (b.severity, b.text) := by
    rw [header?, behind, taggedText?, severityTag?_eq_some_iff.2 rfl]
    simp [separated]
  rw [Line.of, found]

theorem of_nil : Line.of [] = .other := by
  decide

theorem IsHeader.bracket_mem {cs text : List Char} {severity : Severity}
    (header : IsHeader cs severity text) : '[' ∈ cs := by
  obtain ⟨first, blanks, gap, tail, rfl, -⟩ := header.exists_split
  obtain ⟨rest, opens⟩ := tag_eq_cons severity
  simp [opens]

theorem count_colon_text (p : Place) : 3 ≤ p.text.count ':' := by
  simp [Place.text, positionText]
  omega

theorem IsWhole.count_colon {cs text : List Char} {severity : Severity} {p : Place}
    (whole : IsWhole cs p severity text) : 4 ≤ cs.count ':' := by
  obtain ⟨-, mark, indent, gap, rest, rfl, -⟩ := whole.exists_split
  have place := count_colon_text p
  have label : 1 ≤ severity.label.count ':' := by cases severity <;> decide
  simp only [List.count_append]
  omega

theorem header?_eq_none {cs : List Char} (noHeader : ∀ severity text, ¬ IsHeader cs severity text) :
    header? cs = none := by
  rw [← Option.not_isSome_iff_eq_none, isSome_header?_iff]
  rintro ⟨severity, text, header⟩
  exact noHeader severity text header

theorem blanks_spaces (n : Nat) : Blanks (spaces n) := by
  intro c member
  rw [List.eq_of_mem_replicate member]
  decide

theorem of_location (l : Location) : Line.of l.head = .location l.place := by
  have proper : l.place.IsProper := by
    obtain ⟨c, cs, file⟩ := List.exists_cons_of_ne_nil l.named
    have first := (l.fileChars c (by simp [file])).isPlain
    exact ⟨⟨c, cs, file, first.1.not_isBlank first.2⟩, digits_digits _, digits_digits _⟩
  have noHeader : header? l.head = none := by
    refine header?_eq_none fun severity text header => ?_
    have bracket := header.bracket_mem
    have file : '[' ∉ l.file := fun member => (l.fileChars _ member).ne (by decide) rfl
    simp [Location.head, spaces, Location.place, Place.text, positionText, file,
      not_mem_digits (show isDigit '[' = false by decide)] at bracket
  have noWhole : whole? l.head = none := by
    rw [← Option.not_isSome_iff_eq_none, isSome_whole?_iff]
    rintro ⟨p, severity, text, whole⟩
    have many := whole.count_colon
    -- A location has three colons and no more.
    have file : l.file.count ':' = 0 :=
      List.count_eq_zero.2 fun member => (l.fileChars _ member).ne (by decide) rfl
    have number (n : Nat) : (Number.digits n).count ':' = 0 :=
      List.count_eq_zero.2 (not_mem_digits (by decide) n)
    simp [Location.head, spaces, Location.place, Place.text, positionText, file, number,
      List.count_replicate] at many
  have location : IsLocation (l.head ++ []) l.place :=
    isLocation_of_split proper (by simp [spaces]) (blanks_spaces l.indent) (by simp [Blanks])
  have found : location? l.head = some l.place := by
    rwa [List.append_nil, ← location?_eq_some_iff] at location
  rw [Line.of, noHeader, noWhole, found]

theorem dropBlanks_line (f : Frame) : dropBlanks f.line = f.gutter ++ f.source := by
  obtain ⟨d, ds, digits⟩ := List.exists_cons_of_ne_nil (Number.digits_ne_nil f.number)
  have solid : isBlank d = false := by
    have digit := isPlain_of_mem_digits (n := f.number) (c := d) (by simp [digits])
    exact digit.1.not_isBlank digit.2
  rw [Frame.line, List.append_assoc, dropBlanks_append (blanks_spaces f.indent), Frame.gutter, digits,
    List.cons_append, List.cons_append, dropBlanks_cons solid]

theorem not_isHeader_line (f : Frame) (severity : Severity) (text : List Char) :
    ¬ IsHeader f.line severity text := by
  intro header
  obtain ⟨first, blanks, gap, tail, same, word, blank⟩ := header.exists_split
  obtain ⟨rest, opens⟩ := tag_eq_cons severity
  cases first with
  | cons c first =>
    have starts : c = ' ' := by
      simp [Frame.line, spaces, List.replicate_succ] at same
      exact same.1.symm
    have solid := word c List.mem_cons_self
    rw [starts] at solid
    cases solid
  | nil =>
    have kept := congrArg dropBlanks same
    simp only [List.nil_append, List.append_assoc] at kept
    rw [dropBlanks_line, dropBlanks_append blank, opens, List.cons_append, dropBlanks_cons (by decide)] at kept
    obtain ⟨d, ds, digits⟩ := List.exists_cons_of_ne_nil (Number.digits_ne_nil f.number)
    rw [Frame.gutter, digits] at kept
    have bracket : d = '[' := (List.cons.inj kept).1
    exact not_mem_digits (show isDigit '[' = false by decide) f.number (by simp [digits, bracket])

theorem colon_not_mem_gutter (f : Frame) : ':' ∉ f.gutter := by
  rw [Frame.gutter, List.mem_append, not_or]
  exact ⟨not_mem_digits (by decide) f.number, by decide⟩

theorem isDiagnostic_line_iff (f : Frame) : IsDiagnostic f.line ↔ QuotesDiagnostic f.source := by
  constructor
  · rintro (⟨severity, text, header⟩ | ⟨p, severity, text, whole⟩)
    · exact absurd header (not_isHeader_line f severity text)
    · obtain ⟨proper, mark, indent, gap, rest, same, marked, blank, gapBlank, some⟩ := whole.exists_split
      have unmarked : mark = [] := by
        refine marked.resolve_right ?_
        rintro rfl
        simp [Frame.line, spaces, List.replicate_succ] at same
      subst unmarked
      have kept := congrArg dropBlanks same
      simp only [List.nil_append, List.append_assoc] at kept
      rw [dropBlanks_line, dropBlanks_append blank, proper.dropBlanks_text, Place.text, List.append_assoc] at kept
      rcases List.append_eq_append_iff.1 kept with ⟨before, file, source⟩ | ⟨inside, gutter, position⟩
      · exact ⟨before, p.line, p.column, gap, severity, rest, by simp [source], proper.line,
          proper.column, gapBlank, some⟩
      · cases inside with
        | nil =>
          exact ⟨[], p.line, p.column, gap, severity, rest, by simpa using position.symm, proper.line,
            proper.column, gapBlank, some⟩
        | cons c inside =>
          -- The place would begin in the gutter, which has no colon.
          have colon : ':' = c := (List.cons.inj position).1
          exact absurd (by simp [gutter, ← colon]) (colon_not_mem_gutter f)
  · rintro ⟨before, line, column, gap, severity, text, source, digits, digits', blank, some⟩
    have named : ∃ c cs, f.gutter ++ before = c :: cs ∧ isBlank c = false := by
      obtain ⟨d, ds, number⟩ := List.exists_cons_of_ne_nil (Number.digits_ne_nil f.number)
      have digit := isPlain_of_mem_digits (n := f.number) (c := d) (by simp [number])
      exact ⟨d, ds ++ " │ ".toList ++ before, by simp [Frame.gutter, number], digit.1.not_isBlank digit.2⟩
    have proper : Place.IsProper ⟨f.gutter ++ before, line, column⟩ := ⟨named, digits, digits'⟩
    have whole := exists_isWhole proper severity (blanks_spaces f.indent) blank some
    simp only [Place.text, List.append_assoc] at whole
    simp only [Frame.line, source, List.append_assoc]
    exact .inr whole

theorem isOneLine_of_plain {cs : List Char} (plain : ∀ c ∈ cs, IsPlain c) : IsOneLine cs := by
  intro c member
  exact (plain c member).not_isLineBoundary

theorem isOneLine_digits (n : Nat) : IsOneLine (Number.digits n) := by
  apply isOneLine_of_plain
  intro c member
  exact (isPlain_of_mem_digits member).1

theorem isOneLine_spaces (n : Nat) : IsOneLine (spaces n) := by
  apply isOneLine_of_plain
  intro c member
  rw [List.eq_of_mem_replicate member]
  exact ⟨by decide, by decide⟩

theorem Frame.isOneLine (f : Frame) : IsOneLine f.line := by
  have bar : IsOneLine " │ ".toList := by decide
  have gutter : IsOneLine f.gutter := isOneLine_append.2 ⟨isOneLine_digits f.number, bar⟩
  exact isOneLine_append.2
    ⟨isOneLine_append.2 ⟨isOneLine_spaces f.indent, gutter⟩, isOneLine_of_plain f.plain⟩

theorem Location.isOneLine (l : Location) : IsOneLine l.head := by
  have colon : IsOneLine [':'] := by decide
  have file : IsOneLine l.file := isOneLine_of_plain fun c member => (l.fileChars c member).isPlain.1
  have column : IsOneLine (':' :: Number.digits l.column ++ [':']) :=
    isOneLine_append.2 ⟨isOneLine_append.2 ⟨colon, isOneLine_digits l.column⟩, colon⟩
  have position : IsOneLine (positionText (Number.digits l.line) (Number.digits l.column)) := by
    have whole := isOneLine_append.2 ⟨isOneLine_append.2 ⟨colon, isOneLine_digits l.line⟩, column⟩
    simpa [positionText] using whole
  exact isOneLine_append.2 ⟨isOneLine_spaces l.indent, isOneLine_append.2 ⟨file, position⟩⟩

theorem Block.isOneLine_head (b : Block) : IsOneLine b.head := by
  have tag : IsOneLine b.severity.tag := fun c member =>
    Log.not_isLineBoundary (not_isBlank_of_mem_tag member)
  have symbol : IsOneLine [b.symbol] := List.forall_mem_singleton.2 (Log.not_isLineBoundary b.solid)
  have space : IsOneLine [' '] := by decide
  have text : IsOneLine b.text := isOneLine_of_plain b.plain
  have whole := isOneLine_append.2 ⟨isOneLine_append.2 ⟨symbol, space⟩,
    isOneLine_append.2 ⟨tag, isOneLine_append.2 ⟨space, text⟩⟩⟩
  simpa [Block.head] using whole

theorem Block.isOneLine {b : Block} {line : List Char} (member : line ∈ b.lines) : IsOneLine line := by
  have empty : IsOneLine [] := by simp [IsOneLine]
  cases location : b.location with
  | none =>
    simp only [Block.lines, location, List.mem_cons, Option.map_none, Option.getD_none,
      List.not_mem_nil, or_false] at member
    rcases member with rfl | rfl
    · exact b.isOneLine_head
    · exact empty
  | some l =>
    simp only [Block.lines, location, Location.lines, List.mem_cons, Option.map_some,
      Option.getD_some, List.cons_append, List.mem_append, List.mem_map, List.not_mem_nil,
      or_false] at member
    rcases member with rfl | rfl | rfl | ⟨f, -, rfl⟩ | rfl
    · exact b.isOneLine_head
    · exact empty
    · exact l.isOneLine
    · exact f.isOneLine
    · exact empty

theorem logLines_printed (blocks : List Block) :
    Text.logLines (printed blocks) = blocks.flatMap Block.lines := by
  rw [Text.logLines, printed, String.toList_ofList]
  apply Text.logLinesFrom_lines
  intro line member
  obtain ⟨b, -, member⟩ := List.mem_flatMap.1 member
  exact b.isOneLine member

def Block.report (b : Block) : Report :=
  ⟨b.severity, b.text, b.location.map Location.place⟩

def Block.quoted (b : Block) : List Report :=
  reports (b.frames.map (Line.of ·.line))

theorem quoted_eq_nil_iff (b : Block) :
    b.quoted = [] ↔ ∀ f ∈ b.frames, ¬ QuotesDiagnostic f.source := by
  have one (f : Frame) : (Line.of f.line).isDiagnostic = true ↔ QuotesDiagnostic f.source :=
    isDiagnostic_of_iff.trans (isDiagnostic_line_iff f)
  rw [← List.length_eq_zero_iff, Block.quoted, length_reports, List.countP_eq_zero, List.forall_mem_map]
  simp only [one]

theorem reports_lines (b : Block) : reports (b.lines.map Line.of) = b.report :: b.quoted := by
  cases location : b.location with
  | none =>
    simp [Block.lines, Block.report, Block.quoted, Block.frames, location, of_head, of_nil, reports,
      firstPlace?]
  | some l =>
    have behind : firstPlace? [Line.other] = none := rfl
    simp [Block.lines, Location.lines, Block.report, Block.quoted, Block.frames, location, of_head,
      of_nil, of_location, reports, firstPlace?, reports_append behind, Function.comp_def]

theorem reports_blocks (blocks : List Block) :
    reports ((blocks.flatMap Block.lines).map Line.of) =
      blocks.flatMap fun b => b.report :: b.quoted := by
  induction blocks with
  | nil => rfl
  | cons b blocks ih =>
    have starts : firstPlace? ((blocks.flatMap Block.lines).map Line.of) = none := by
      apply firstPlace?_of_diagnostic
      cases blocks with
      | nil => simp
      | cons b' blocks => simp [Block.lines, of_head, Line.isDiagnostic]
    rw [List.flatMap_cons, List.map_append, reports_append starts, ih, reports_lines,
      List.flatMap_cons]

theorem length_le_reports (blocks : List Block) :
    blocks.length ≤ (blocks.flatMap fun b => b.report :: b.quoted).length := by
  induction blocks with
  | nil => exact Nat.le_refl 0
  | cons b blocks ih =>
    simp only [List.flatMap_cons, List.length_append, List.length_cons]
    omega

theorem quoted_eq_nil_of_length {blocks : List Block}
    (count : (blocks.flatMap fun b => b.report :: b.quoted).length = blocks.length) :
    ∀ b ∈ blocks, b.quoted = [] := by
  induction blocks with
  | nil => simp
  | cons b blocks ih =>
    have least := length_le_reports blocks
    simp only [List.flatMap_cons, List.length_append, List.length_cons] at count
    rw [List.forall_mem_cons]
    constructor
    · apply List.length_eq_zero_iff.1
      omega
    · apply ih
      omega

theorem entry_report (b : Block) : b.report.entry = .ok b.entry := by
  have short : ∀ p ∈ b.report.place, p.IsShort := by
    intro p placed
    obtain ⟨l, -, rfl⟩ := Option.map_eq_some_iff.1 placed
    exact l.short
  have told : b.report.told = b.entry := by
    simp [Block.report, Report.told, Block.entry, Option.map_map, Function.comp_def, Location.place,
      Text.digitsValue_digits]
  rw [entry_of_short short, told]

/-- A printed log reads as what was printed just where no code that is quoted in it holds a whole
diagnostic. -/
theorem read_printed_iff (blocks : List Block) :
    read (printed blocks) = .ok (.ofEntries (blocks.map Block.entry)) ↔
      ∀ b ∈ blocks, ∀ f ∈ b.frames, ¬ QuotesDiagnostic f.source := by
  simp only [← quoted_eq_nil_iff]
  rw [read_eq, logLines_printed, reports_blocks]
  constructor
  · intro restored
    -- One report for each block is already as many as there are entries.
    obtain ⟨entries, given, same⟩ := map_eq_ok_iff.1 restored
    have told : entries.length = blocks.length := by
      rw [← length_ofEntries, same, length_ofEntries, List.length_map]
    rw [length_of_mapM_eq_ok given] at told
    exact quoted_eq_nil_of_length told
  · intro none
    have only : (blocks.flatMap fun b => b.report :: b.quoted) = blocks.map Block.report := by
      rw [List.map_eq_flatMap]
      apply List.flatMap_congr
      intro b member
      rw [none b member]
    have read : (blocks.map Block.report).mapM Report.entry = .ok (blocks.map Block.entry) := by
      rw [List.mapM_map]
      exact mapM_eq_ok fun b _ => entry_report b
    rw [only, read]
    rfl

-- Quoted code that holds a whole diagnostic is read as one more.
theorem read_printed_quoting : ∃ b : Block,
    printed [b] = "✘ [ERROR] m\n\n f:1:0:\n 1 │ a:1:2: error: x\n\n" ∧
    b.entry = (.error, ⟨"m", "f", some 1, some 0⟩) ∧
    read (printed [b]) = .ok ⟨[⟨"m", "f", some 1, some 0⟩, ⟨"x", "1 │ a", some 1, some 2⟩], []⟩ := by
  let f : Frame := ⟨0, 1, "a:1:2: error: x".toList, by simp [IsPlain]⟩
  let l : Location := ⟨0, ['f'], 1, 0, [f], by decide, List.forall_mem_singleton.2 (by decide),
    by decide +kernel⟩
  let b : Block := ⟨'✘', .error, ['m'], some l, by decide, by decide, by simp [IsPlain],
    by simp [show isBlank 'm' = false by decide]⟩
  refine ⟨b, ?_, ?_, ?_⟩ <;> decide +kernel

end Log

end BuildPipeline
