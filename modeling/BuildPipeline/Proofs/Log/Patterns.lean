import BuildPipeline.Diagnostic
import BuildPipeline.Proofs.Text.Blank
import BuildPipeline.Proofs.Text.Pattern

set_option autoImplicit false

namespace BuildPipeline

def Severity.tag : Severity → List Char
  | .error => "[ERROR]".toList
  | .warning => "[WARNING]".toList

def Severity.label : Severity → List Char
  | .error => "error:".toList
  | .warning => "warning:".toList

namespace Log

open BuildPipeline.Text (Blanks Pattern isBlank isDigit dropBlanks dropTailWhile dropBlanks_append
  dropBlanks_cons exists_dropBlanks)

def solid (c : Char) : Bool :=
  !isBlank c

-- No line holds a newline, so a dot stands for any character of it.
def dot (_ : Char) : Bool :=
  true

def severityPart (name : Severity → List Char) : Text.Part :=
  .word [name .error, name .warning]

-- `(.+?)\s*$`
def textEnd : Pattern :=
  [.group (.few dot dot), .pass (.star isBlank)]

-- `:(\d+):(\d+):`, and what stands behind it
def positionThen (rest : Pattern) : Pattern :=
  .pass (.word [[':']]) :: .group (.plus isDigit) :: .pass (.word [[':']]) ::
    .group (.plus isDigit) :: .pass (.word [[':']]) :: rest

-- `(\S.*?):(\d+):(\d+):`, and what stands behind it
def placeThen (rest : Pattern) : Pattern :=
  .group (.few solid dot) :: positionThen rest

-- `^\S*\s*\[(ERROR|WARNING)\]\s+(.+?)\s*$`, with the brackets in the group
def headerPattern : Pattern :=
  .pass (.star solid) :: .pass (.star isBlank) :: .group (severityPart Severity.tag) ::
    .pass (.plus isBlank) :: textEnd

-- `\s*(error|warning):\s*(.+?)\s*$`
def namedEnd : Pattern :=
  .pass (.star isBlank) :: .group (severityPart Severity.label) :: .pass (.star isBlank) :: textEnd

-- `^>?\s*(\S.*?):(\d+):(\d+):\s*(error|warning):\s*(.+?)\s*$`, with the colon in the group
def wholePattern : Pattern :=
  .pass (.word [['>'], []]) :: .pass (.star isBlank) :: placeThen namedEnd

-- `^\s+(\S.*?):(\d+):(\d+):\s*$`
def locationPattern : Pattern :=
  .pass (.plus isBlank) :: placeThen [.pass (.star isBlank)]

def Place.groups (p : Place) (more : List (List Char)) : List (List Char) :=
  p.file :: p.line :: p.column :: more

def IsHeader (cs : List Char) (severity : Severity) (text : List Char) : Prop :=
  headerPattern.find? cs = some [severity.tag, text]

def IsWhole (cs : List Char) (p : Place) (severity : Severity) (text : List Char) : Prop :=
  wholePattern.find? cs = some (p.groups [severity.label, text])

def IsLocation (cs : List Char) (p : Place) : Prop :=
  locationPattern.find? cs = some (p.groups [])

def IsDiagnostic (cs : List Char) : Prop :=
  (∃ severity text, IsHeader cs severity text) ∨ ∃ p severity text, IsWhole cs p severity text

theorem find?_blanks (cs : List Char) :
    Pattern.find? [.pass (.star isBlank)] cs = if dropBlanks cs = [] then some [] else none :=
  Pattern.find?_star (fun _ _ _ => rfl) cs

theorem dropTailWhile_blank_cons (c : Char) (cs : List Char) :
    dropTailWhile isBlank (c :: cs) =
      if dropBlanks (c :: cs) = [] then [] else c :: dropTailWhile isBlank cs := by
  have ends (cs : List Char) : dropTailWhile isBlank cs = [] ↔ dropBlanks cs = [] := by
    simp [Text.dropTailWhile_eq_rdropWhile, List.rdropWhile_eq_nil_iff, dropBlanks]
  split
  next all => exact (ends _).2 all
  next some =>
    rw [dropTailWhile]
    split
    next none =>
      rw [if_neg]
      · rw [none]
      · intro blank
        rw [ends] at none
        exact some (by rw [dropBlanks, List.dropWhile_cons_of_pos blank]; exact none)
    next kept => rw [kept]

theorem find?_textEnd (c : Char) (cs : List Char) :
    textEnd.find? (c :: cs) = some [c :: dropTailWhile isBlank cs] := by
  have shortest (head : List Char) : ((Text.runs dot cs).findSome? fun cut =>
      (Pattern.find? [.pass (.star isBlank)] cut.2).map ((head ++ cut.1) :: ·)) =
        some [head ++ dropTailWhile isBlank cs] := by
    induction cs generalizing head with
    | nil => simp [Text.runs, find?_blanks, dropBlanks, dropTailWhile]
    | cons c cs ih =>
      rw [Pattern.findSome?_runs_cons, find?_blanks, dropTailWhile_blank_cons]
      split
      · simp
      · simpa [dot] using ih (head ++ [c])
  simpa [textEnd, Pattern.find?, Text.Part.cuts, dot, List.findSome?_map, Function.comp_def] using
    shortest [c]

theorem trailingText?_cons_of_blank {c : Char} (blank : isBlank c = true) (cs : List Char) :
    trailingText? (c :: cs) = (trailingText? cs).or (some [c]) := by
  have same : dropBlanks (c :: cs) = dropBlanks cs := List.dropWhile_cons_of_pos blank
  rw [trailingText?, trailingText?, same]
  split
  · cases cs <;> simp [List.getLast?_cons]
  · rfl

theorem trailingText?_cons_of_solid {c : Char} (solid : isBlank c = false) (cs : List Char) :
    trailingText? (c :: cs) = some (c :: dropTailWhile isBlank cs) := by
  rw [trailingText?, dropBlanks_cons solid]
  change some (dropTailWhile isBlank (c :: cs)) = _
  rw [dropTailWhile_blank_cons, dropBlanks_cons solid, if_neg (by simp)]

theorem trailingText?_eq_none {cs : List Char} (none : trailingText? cs = none) : cs = [] := by
  rw [trailingText?] at none
  split at none
  · simpa using none
  · cases none

theorem find?_trailing (cs : List Char) :
    Pattern.find? (.pass (.star isBlank) :: textEnd) cs = (trailingText? cs).map ([·]) := by
  induction cs with
  | nil => rfl
  | cons c cs ih =>
    rw [Pattern.find?_star_cons, find?_textEnd]
    cases blank : isBlank c with
    | true =>
      rw [if_pos rfl, ih, trailingText?_cons_of_blank blank]
      cases found : trailingText? cs with
      | none =>
        cases trailingText?_eq_none found
        rfl
      | some text => rfl
    | false => simp [trailingText?_cons_of_solid blank]

theorem find?_separated (cs : List Char) :
    Pattern.find? (.pass (.plus isBlank) :: textEnd) cs = (separatedText? cs).map ([·]) := by
  cases cs with
  | nil => rfl
  | cons c cs =>
    rw [Pattern.find?_plus_cons, find?_trailing]
    change _ = (if isBlank c then trailingText? cs else none).map _
    split <;> rfl

theorem named_eq_some_iff (name : Severity → List Char) {cs rest : List Char} {severity : Severity}
    (apart : ∀ rest, SourceMap.after? (name .error) (name .warning ++ rest) = none) :
    (match SourceMap.after? (name .error) cs with
      | some rest => some (Severity.error, rest)
      | none =>
        match SourceMap.after? (name .warning) cs with
        | some rest => some (.warning, rest)
        | none => none) = some (severity, rest) ↔ cs = name severity ++ rest := by
  constructor
  · intro found
    split at found
    next rest error =>
      cases found
      exact SourceMap.after?_eq_some.1 error
    next =>
      split at found
      next rest warning =>
        cases found
        exact SourceMap.after?_eq_some.1 warning
      next => cases found
  · rintro rfl
    have named : SourceMap.after? (name severity) (name severity ++ rest) = some rest :=
      SourceMap.after?_eq_some.2 rfl
    cases severity with
    | error => rw [named]
    | warning => rw [apart, named]

theorem severityTag?_eq_some_iff {cs rest : List Char} {severity : Severity} :
    severityTag? cs = some (severity, rest) ↔ cs = severity.tag ++ rest :=
  named_eq_some_iff Severity.tag fun _ => rfl

theorem severityWord?_eq_some_iff {cs rest : List Char} {severity : Severity} :
    severityWord? cs = some (severity, rest) ↔ cs = severity.label ++ rest :=
  named_eq_some_iff Severity.label fun _ => rfl

theorem find?_severity {name : Severity → List Char} {cs : List Char}
    {found : Option (Severity × List Char)}
    (looks : ∀ severity rest, found = some (severity, rest) ↔ cs = name severity ++ rest)
    (behind : Pattern) :
    Pattern.find? (.group (severityPart name) :: behind) cs =
      found.bind fun (severity, rest) => (behind.find? rest).map (name severity :: ·) := by
  have here (severity : Severity) (rest : List Char) :
      SourceMap.after? (name severity) cs = some rest ↔ found = some (severity, rest) :=
    SourceMap.after?_eq_some.trans (looks severity rest).symm
  cases found with
  | none =>
    have nothing (severity : Severity) : SourceMap.after? (name severity) cs = none :=
      Option.eq_none_iff_forall_ne_some.2 fun rest some => by cases (here severity rest).1 some
    simp [severityPart, Pattern.find?_group_word_cons, Pattern.find?_group_word_nil, nothing]
  | some hit =>
    obtain ⟨severity, rest⟩ := hit
    have word (severity' : Severity) : SourceMap.after? (name severity') cs =
        if severity' = severity then some rest else none := by
      split
      next same => exact (here severity' rest).2 (same ▸ rfl)
      next apart =>
        refine Option.eq_none_iff_forall_ne_some.2 fun rest' some => apart ?_
        cases (here severity' rest').1 some
        rfl
    cases severity <;>
      simp [severityPart, Pattern.find?_group_word_cons, Pattern.find?_group_word_nil, word]

theorem tag_eq_cons (severity : Severity) : ∃ rest, severity.tag = '[' :: rest := by
  cases severity <;> exact ⟨_, rfl⟩

theorem find?_tagged (cs : List Char) :
    Pattern.find? (.group (severityPart Severity.tag) :: .pass (.plus isBlank) :: textEnd) cs =
      (taggedText? cs).map fun (severity, text) => [severity.tag, text] := by
  rw [find?_severity fun _ _ => severityTag?_eq_some_iff, taggedText?, Option.map_bind]
  simp [find?_separated, Function.comp_def]

theorem taggedText?_cons_of_blank {c : Char} (blank : isBlank c = true) (cs : List Char) :
    taggedText? (c :: cs) = none := by
  rw [taggedText?, Option.bind_eq_none_iff]
  rintro ⟨severity, rest⟩ tagged
  obtain ⟨_, opens⟩ := tag_eq_cons severity
  rw [severityTag?_eq_some_iff, opens] at tagged
  cases tagged
  cases blank

theorem tag_inj {severity severity' : Severity} : severity.tag = severity'.tag ↔ severity = severity' := by
  cases severity <;> cases severity' <;> decide

theorem find?_blankTagged (cs : List Char) :
    Pattern.find? (.pass (.star isBlank) :: .group (severityPart Severity.tag) ::
        .pass (.plus isBlank) :: textEnd) cs =
      (taggedText? (dropBlanks cs)).map fun (severity, text) => [severity.tag, text] := by
  rw [Pattern.find?_star, find?_tagged]
  · rfl
  · intro c cs blank
    rw [find?_tagged, taggedText?_cons_of_blank blank]
    rfl

theorem find?_headerPattern (cs : List Char) :
    headerPattern.find? cs = (header? cs).map fun (severity, text) => [severity.tag, text] := by
  -- On the first word: a longer part of it is tried before a shorter one.
  induction cs with
  | nil => rfl
  | cons c cs ih =>
    rw [headerPattern, Pattern.find?_star_cons, ← headerPattern, ih, find?_blankTagged]
    cases blank : isBlank c with
    | true => simp [solid, blank, header?, taggedWithin?, dropBlanks]
    | false =>
      simp [solid, blank, header?, taggedWithin?, dropBlanks_cons blank, Option.map_or, Option.or_assoc]

theorem header?_eq_some_iff {cs text : List Char} {severity : Severity} :
    header? cs = some (severity, text) ↔ IsHeader cs severity text := by
  rw [IsHeader, find?_headerPattern]
  cases header? cs with
  | none => simp
  | some found =>
    simp only [Option.map_some, Option.some.injEq, List.cons.injEq, Prod.ext_iff, tag_inj, and_true]

-- The first word is as long as can be, so that of two tags the later one counts.
example : header? "[ERROR] [WARNING] m".toList = some (.warning, ['m']) := by decide +kernel

theorem isSome_header?_iff {cs : List Char} :
    (header? cs).isSome = true ↔ ∃ severity text, IsHeader cs severity text := by
  simp only [← header?_eq_some_iff, Option.isSome_iff_exists, Prod.exists]

def Digits (cs : List Char) : Prop :=
  cs ≠ [] ∧ ∀ c ∈ cs, isDigit c = true

theorem after?_singleton_self (c : Char) (rest : List Char) :
    SourceMap.after? [c] (c :: rest) = some rest :=
  SourceMap.after?_eq_some.2 rfl

theorem after?_singleton_of_ne {c : Char} {cs : List Char} (other : ∀ rest, cs ≠ c :: rest) :
    SourceMap.after? [c] cs = none :=
  Option.eq_none_iff_forall_ne_some.2 fun rest found => other rest (SourceMap.after?_eq_some.1 found)

theorem find?_colon (rest : Pattern) (cs : List Char) :
    Pattern.find? (.pass (.word [[':']]) :: rest) cs = (SourceMap.after? [':'] cs).bind rest.find? := by
  rw [Pattern.find?_word_cons, Pattern.find?_word_nil, Option.or_none]

theorem find?_colon_cons_of_digit (rest : Pattern) {c : Char} (digit : isDigit c = true)
    (cs : List Char) : Pattern.find? (.pass (.word [[':']]) :: rest) (c :: cs) = none := by
  rw [find?_colon, after?_singleton_of_ne]
  · rfl
  · rintro rest ⟨⟩
    exact absurd digit (by decide)

theorem colonNumber?_eq (cs : List Char) :
    colonNumber? cs = (SourceMap.after? [':'] cs).bind fun behind =>
      if behind.takeWhile isDigit = [] then none
      else some (behind.takeWhile isDigit, behind.dropWhile isDigit) := by
  rw [colonNumber?.eq_def]
  split
  next behind =>
    rw [after?_singleton_self, Option.bind_some]
    split
    next none => rw [if_pos none]
    next some => rw [if_neg some]
  next other => rw [after?_singleton_of_ne fun rest same => other rest same, Option.bind_none]

theorem position?_eq (cs : List Char) :
    position? cs = (colonNumber? cs).bind fun (line, behind) =>
      (colonNumber? behind).bind fun (column, behind) =>
        (SourceMap.after? [':'] behind).map (line, column, ·) := by
  rw [position?]
  cases colonNumber? cs with
  | none => rfl
  | some first =>
    obtain ⟨line, behind⟩ := first
    change (colonNumber? behind).bind _ = (colonNumber? behind).bind _
    cases colonNumber? behind with
    | none => rfl
    | some second =>
      obtain ⟨column, behind⟩ := second
      simp only [Option.bind_some]
      split
      next => rw [after?_singleton_self, Option.map_some]
      next other => rw [after?_singleton_of_ne fun rest same => other rest same, Option.map_none]

theorem find?_colonNumber (rest : Pattern) (cs : List Char) :
    Pattern.find? (.pass (.word [[':']]) :: .group (.plus isDigit) :: .pass (.word [[':']]) :: rest) cs =
      (colonNumber? cs).bind fun (digits, behind) =>
        (Pattern.find? (.pass (.word [[':']]) :: rest) behind).map (digits :: ·) := by
  have number := Pattern.find?_group_plus fun c cs digit => find?_colon_cons_of_digit rest digit cs
  rw [find?_colon, colonNumber?_eq, Option.bind_assoc]
  congr
  funext behind
  rw [number]
  split <;> rfl

theorem find?_positionThen (rest : Pattern) (cs : List Char) :
    (positionThen rest).find? cs =
      (position? cs).bind fun (line, column, behind) =>
        (rest.find? behind).map fun groups => line :: column :: groups := by
  simp only [positionThen, find?_colonNumber, position?_eq]
  simp [find?_colon, Option.map_bind, Option.bind_assoc, Option.bind_map, Function.comp_def]

section

variable {α β : Type} {finish : List Char → Option α}

theorem placeFrom?_map (f : α → β) (name cs : List Char) :
    placeFrom? (fun rest => (finish rest).map f) name cs =
      (placeFrom? finish name cs).map fun (p, a) => (p, f a) := by
  induction cs generalizing name with
  | nil => rfl
  | cons c cs ih => simp [placeFrom?, ih, Option.map_or, Option.map_bind, Function.comp_def]

theorem place?_map (f : α → β) (cs : List Char) :
    place? (fun rest => (finish rest).map f) cs = (place? finish cs).map fun (p, a) => (p, f a) := by
  cases cs with
  | nil => rfl
  | cons c cs =>
    rw [place?, place?, placeFrom?_map]
    split <;> rfl

end

theorem find?_placeThen (rest : Pattern) (cs : List Char) :
    (placeThen rest).find? cs = (place? rest.find? cs).map fun (p, groups) => p.groups groups := by
  have shortest (name cs : List Char) : ((Text.runs dot cs).findSome? fun cut =>
      ((positionThen rest).find? cut.2).map ((name.reverse ++ cut.1) :: ·)) =
        (placeFrom? rest.find? name cs).map fun (p, groups) => p.groups groups := by
    -- On what may be the rest of the name: a shorter part of it is tried before a longer one.
    induction cs generalizing name with
    | nil => rfl
    | cons c cs ih =>
      have later := ih (c :: name)
      simp only [List.reverse_cons, List.append_assoc, List.singleton_append] at later
      rw [Pattern.findSome?_runs_cons, dot, if_pos rfl, later, find?_positionThen, placeFrom?, Option.map_or]
      simp [Option.map_bind, Function.comp_def, Place.groups]
  cases cs with
  | nil => rfl
  | cons c cs =>
    rw [placeThen, Pattern.find?, Text.Part.cuts, place?]
    cases blank : isBlank c with
    | true => simp [solid, blank]
    | false => simpa [solid, blank, List.findSome?_map, Function.comp_def] using shortest [c] cs

theorem find?_blankPlace (rest : Pattern) (cs : List Char) :
    Pattern.find? (.pass (.star isBlank) :: placeThen rest) cs =
      (place? rest.find? (dropBlanks cs)).map fun (p, groups) => p.groups groups := by
  rw [Pattern.find?_star, find?_placeThen]
  · rfl
  · intro c cs blank
    rw [find?_placeThen, place?, if_pos blank]
    rfl

theorem find?_namedEnd (cs : List Char) :
    namedEnd.find? cs = (namedText? cs).map fun (severity, text) => [severity.label, text] := by
  have named (cs : List Char) :
      Pattern.find? (.group (severityPart Severity.label) :: .pass (.star isBlank) :: textEnd) cs =
        ((severityWord? cs).bind fun (severity, rest) => (trailingText? rest).map (severity, ·)).map
          fun (severity, text) => [severity.label, text] := by
    rw [find?_severity fun _ _ => severityWord?_eq_some_iff, Option.map_bind]
    simp [find?_trailing, Function.comp_def]
  rw [namedEnd, Pattern.find?_star, named]
  · rfl
  · intro c cs blank
    have nameless : severityWord? (c :: cs) = none := by
      refine Option.eq_none_iff_forall_ne_some.2 fun ⟨severity, rest⟩ found => ?_
      rw [severityWord?_eq_some_iff] at found
      cases severity <;> cases found <;> cases blank
    rw [named, nameless]
    rfl

theorem find?_wholePattern (cs : List Char) :
    wholePattern.find? cs =
      (whole? cs).map fun (p, severity, text) => p.groups [severity.label, text] := by
  have place (cs : List Char) : Pattern.find? (.pass (.star isBlank) :: placeThen namedEnd) cs =
      (place? namedText? (dropBlanks cs)).map fun (p, severity, text) =>
        p.groups [severity.label, text] := by
    rw [find?_blankPlace, funext find?_namedEnd, place?_map]
    simp [Function.comp_def]
  have marked : wholePattern.find? cs =
      ((SourceMap.after? ['>'] cs).bind (Pattern.find? (.pass (.star isBlank) :: placeThen namedEnd))).or
        (Pattern.find? (.pass (.star isBlank) :: placeThen namedEnd) cs) := by
    rw [wholePattern, Pattern.find?_word_cons, Pattern.find?_word_cons, Pattern.find?_word_nil,
      Option.or_none]
    rfl
  rw [marked, place, whole?.eq_def]
  split
  next rest =>
    rw [after?_singleton_self, Option.bind_some, place, dropBlanks_cons (by decide), Option.map_or]
  next other => rw [after?_singleton_of_ne fun rest same => other rest same, Option.bind_none, Option.none_or]

theorem Place.groups_inj {p q : Place} {more more' : List (List Char)} :
    p.groups more = q.groups more' ↔ p = q ∧ more = more' := by
  cases p
  cases q
  simp [groups, and_assoc]

theorem label_inj {severity severity' : Severity} :
    severity.label = severity'.label ↔ severity = severity' := by
  cases severity <;> cases severity' <;> decide

theorem whole?_eq_some_iff {cs text : List Char} {severity : Severity} {p : Place} :
    whole? cs = some (p, severity, text) ↔ IsWhole cs p severity text := by
  rw [IsWhole, find?_wholePattern]
  cases whole? cs with
  | none => simp
  | some found =>
    obtain ⟨q, severity', text'⟩ := found
    simp only [Option.map_some, Option.some.injEq, Place.groups_inj, List.cons.injEq, Prod.mk.injEq,
      label_inj, and_true]

-- The file is as short as can be.
example : whole? "a:1:2: error: b:3:4: error: m".toList =
    some (⟨['a'], ['1'], ['2']⟩, .error, "b:3:4: error: m".toList) := by decide +kernel

theorem isSome_whole?_iff {cs : List Char} :
    (whole? cs).isSome = true ↔ ∃ p severity text, IsWhole cs p severity text := by
  simp only [← whole?_eq_some_iff, Option.isSome_iff_exists, Prod.exists]

theorem find?_locationPattern (cs : List Char) :
    locationPattern.find? cs = (location? cs).map fun p => p.groups [] := by
  have only (cs : List Char) :
      Pattern.find? [.pass (.star isBlank)] cs = (onlyBlanks cs).map fun _ => [] := by
    have all : dropBlanks cs = [] ↔ cs.all isBlank = true := by simp [dropBlanks]
    rw [find?_blanks, onlyBlanks]
    simp only [all]
    split <;> rfl
  cases cs with
  | nil => rfl
  | cons c cs =>
    rw [locationPattern, Pattern.find?_plus_cons, find?_blankPlace, funext only, place?_map, location?]
    split <;> simp [Function.comp_def]

theorem location?_eq_some_iff {cs : List Char} {p : Place} :
    location? cs = some p ↔ IsLocation cs p := by
  rw [IsLocation, find?_locationPattern]
  cases location? cs <;> simp [Place.groups_inj]

theorem exists_of_find?_textEnd {cs : List Char} {groups : List (List Char)}
    (found : textEnd.find? cs = some groups) :
    ∃ text tail, groups = [text] ∧ cs = text ++ tail ∧ text ≠ [] ∧ Blanks tail := by
  obtain ⟨text, rest, more, rfl, ⟨c, cs, rfl, -⟩, ends, same⟩ := Pattern.exists_of_find?_group found
  obtain ⟨tail, rest, rfl, blank, ends⟩ := Pattern.exists_of_find?_pass ends
  obtain ⟨rfl, rfl⟩ := Pattern.find?_nil_eq_some.1 ends
  exact ⟨c :: cs, tail, same, by simp, by simp, blank⟩

theorem isSome_find?_textEnd {cs : List Char} (some : cs ≠ []) : (textEnd.find? cs).isSome = true := by
  obtain ⟨c, cs, rfl⟩ := List.exists_cons_of_ne_nil some
  rw [find?_textEnd]
  rfl

theorem severityPart_matches (name : Severity → List Char) (severity : Severity) :
    (severityPart name).Matches (name severity) := by
  cases severity <;> simp [severityPart, Text.Part.Matches]

def positionText (line column : List Char) : List Char :=
  ':' :: line ++ ':' :: column ++ [':']

def Place.text (p : Place) : List Char :=
  p.file ++ positionText p.line p.column

structure Place.IsProper (p : Place) : Prop where
  file : ∃ c cs, p.file = c :: cs ∧ isBlank c = false
  line : Digits p.line
  column : Digits p.column

theorem Place.IsProper.dropBlanks_text {p : Place} (proper : p.IsProper) (rest : List Char) :
    dropBlanks (p.text ++ rest) = p.text ++ rest := by
  obtain ⟨c, more, file, solid⟩ := proper.file
  rw [Place.text, file, List.cons_append, List.cons_append, dropBlanks_cons solid]

theorem exists_of_find?_placeThen {rest : Pattern} {cs : List Char} {groups : List (List Char)}
    (found : (placeThen rest).find? cs = some groups) :
    ∃ (p : Place) (behind : List Char) (more : List (List Char)),
      p.IsProper ∧ cs = p.text ++ behind ∧ rest.find? behind = some more ∧ groups = p.groups more := by
  obtain ⟨file, _, files, rfl, ⟨c, name, rfl, first, -⟩, atColon, whole⟩ :=
    Pattern.exists_of_find?_group found
  obtain ⟨colon, _, rfl, here, atLine⟩ := Pattern.exists_of_find?_pass atColon
  obtain ⟨line, _, lines, rfl, lineDigits, atSecond, whole'⟩ := Pattern.exists_of_find?_group atLine
  obtain ⟨second, _, rfl, here', atColumn⟩ := Pattern.exists_of_find?_pass atSecond
  obtain ⟨column, _, more, rfl, columnDigits, atThird, whole''⟩ :=
    Pattern.exists_of_find?_group atColumn
  obtain ⟨third, behind, rfl, here'', ends⟩ := Pattern.exists_of_find?_pass atThird
  cases List.mem_singleton.1 here
  cases List.mem_singleton.1 here'
  cases List.mem_singleton.1 here''
  refine ⟨⟨c :: name, line, column⟩, behind, more, ⟨⟨c, name, rfl, ?_⟩, lineDigits, columnDigits⟩, ?_,
    ends, ?_⟩
  · simpa [solid] using first
  · simp [Place.text, positionText]
  · rw [whole, whole', whole'', Place.groups]

theorem isSome_find?_placeThen {rest : Pattern} {p : Place} (proper : p.IsProper) {behind : List Char}
    (found : (rest.find? behind).isSome = true) :
    ((placeThen rest).find? (p.text ++ behind)).isSome = true := by
  obtain ⟨c, cs, file, first⟩ := proper.file
  have named : (Text.Part.few solid dot).Matches p.file :=
    ⟨c, cs, file, by simp [solid, first], by simp [dot]⟩
  have colon : (Text.Part.word [[':']]).Matches [':'] := List.mem_singleton.2 rfl
  have whole := Pattern.isSome_find?_cons (.group (.few solid dot)) named
    (Pattern.isSome_find?_cons (.pass (.word [[':']])) colon
      (Pattern.isSome_find?_cons (.group (.plus isDigit)) proper.line
        (Pattern.isSome_find?_cons (.pass (.word [[':']])) colon
          (Pattern.isSome_find?_cons (.group (.plus isDigit)) proper.column
            (Pattern.isSome_find?_cons (.pass (.word [[':']])) colon found)))))
  simpa [placeThen, positionThen, Place.text, positionText] using whole

theorem IsHeader.exists_split {cs text : List Char} {severity : Severity}
    (header : IsHeader cs severity text) :
    ∃ first blanks gap tail, cs = first ++ blanks ++ severity.tag ++ gap ++ text ++ tail ∧
      (∀ c ∈ first, isBlank c = false) ∧ Blanks blanks := by
  obtain ⟨first, _, rfl, word, atBlanks⟩ := Pattern.exists_of_find?_pass header
  obtain ⟨blanks, _, rfl, blank, atTag⟩ := Pattern.exists_of_find?_pass atBlanks
  obtain ⟨tag, _, texts, rfl, -, atGap, whole⟩ := Pattern.exists_of_find?_group atTag
  obtain ⟨gap, _, rfl, -, atText⟩ := Pattern.exists_of_find?_pass atGap
  obtain ⟨text', tail, rfl, rfl, -, -⟩ := exists_of_find?_textEnd atText
  cases whole
  exact ⟨first, blanks, gap, tail, by simp, fun c member => by simpa [solid] using word c member, blank⟩

theorem IsWhole.exists_split {cs text : List Char} {p : Place} {severity : Severity}
    (whole : IsWhole cs p severity text) :
    p.IsProper ∧ ∃ mark indent gap rest,
      cs = mark ++ indent ++ p.text ++ gap ++ severity.label ++ rest ∧
      (mark = [] ∨ mark = ['>']) ∧ Blanks indent ∧ Blanks gap ∧ rest ≠ [] := by
  obtain ⟨mark, _, rfl, marked, atIndent⟩ := Pattern.exists_of_find?_pass whole
  obtain ⟨indent, _, rfl, blank, atPlace⟩ := Pattern.exists_of_find?_pass atIndent
  obtain ⟨q, _, named, proper, rfl, atGap, same⟩ := exists_of_find?_placeThen atPlace
  obtain ⟨rfl, rfl⟩ := Place.groups_inj.1 same
  obtain ⟨gap, _, rfl, gapBlank, atLabel⟩ := Pattern.exists_of_find?_pass atGap
  obtain ⟨label, _, texts, rfl, -, atBetween, same'⟩ := Pattern.exists_of_find?_group atLabel
  obtain ⟨between, _, rfl, -, atText⟩ := Pattern.exists_of_find?_pass atBetween
  obtain ⟨text', tail, rfl, rfl, some, -⟩ := exists_of_find?_textEnd atText
  cases same'
  exact ⟨proper, mark, indent, gap, between ++ (text ++ tail), by simp, (List.mem_pair.1 marked).symm,
    blank, gapBlank, by simp [some]⟩

/-- A text that can be cut as a whole diagnostic is one, though it may be cut elsewhere. -/
theorem exists_isWhole {p : Place} (proper : p.IsProper) (severity : Severity)
    {indent gap rest : List Char} (blank : Blanks indent) (gapBlank : Blanks gap) (some : rest ≠ []) :
    ∃ q severity' text,
      IsWhole (indent ++ (p.text ++ (gap ++ (severity.label ++ rest)))) q severity' text := by
  have text : (Pattern.find? (.pass (.star isBlank) :: textEnd) rest).isSome = true :=
    Pattern.isSome_find?_cons (.pass (.star isBlank)) (List.forall_mem_nil _)
      (isSome_find?_textEnd some)
  have named : (namedEnd.find? (gap ++ (severity.label ++ rest))).isSome = true :=
    Pattern.isSome_find?_cons (.pass (.star isBlank)) gapBlank
      (Pattern.isSome_find?_cons (.group (severityPart Severity.label))
        (severityPart_matches _ severity) text)
  have unmarked : (Text.Part.word [['>'], []]).Matches [] := List.mem_pair.2 (.inr rfl)
  have placed := Pattern.isSome_find?_cons (.pass (.star isBlank)) blank
    (isSome_find?_placeThen proper named)
  have found : (wholePattern.find? _).isSome = true :=
    Pattern.isSome_find?_cons (.pass (.word [['>'], []])) unmarked placed
  rwa [List.nil_append, find?_wholePattern, Option.isSome_map, isSome_whole?_iff] at found

theorem eq_of_append_tail {p : Char → Bool} {c : Char} (other : p c = false)
    {front front' tail tail' : List Char} (all : ∀ x ∈ tail, p x = true)
    (all' : ∀ x ∈ tail', p x = true) (same : front ++ c :: tail = front' ++ c :: tail') :
    front = front' := by
  have cut (front tail : List Char) (all : ∀ x ∈ tail, p x = true) :
      (front ++ c :: tail).rdropWhile p = front ++ [c] := by
    rw [List.rdropWhile, List.reverse_append, List.reverse_cons, List.append_assoc,
      List.dropWhile_append_of_pos (by simpa using all)]
    simp [other]
  have fronts := cut front tail all
  rw [same, cut front' tail' all'] at fronts
  exact (List.append_cancel_right fronts).symm

theorem Place.IsProper.eq_of_text {p q : Place} (proper : p.IsProper) (proper' : q.IsProper)
    {indent indent' tail tail' : List Char} (blank : Blanks indent) (blank' : Blanks indent')
    (ends : Blanks tail) (ends' : Blanks tail')
    (same : indent ++ p.text ++ tail = indent' ++ q.text ++ tail') : p = q := by
  -- From the end: blanks behind a colon, digits behind one, digits behind one, and the file.
  have columns : (indent ++ p.file ++ ':' :: p.line) ++ ':' :: p.column =
      (indent' ++ q.file ++ ':' :: q.line) ++ ':' :: q.column :=
    eq_of_append_tail (c := ':') (by decide) ends ends'
      (by simpa [Place.text, positionText] using same)
  have lines : (indent ++ p.file) ++ ':' :: p.line = (indent' ++ q.file) ++ ':' :: q.line :=
    eq_of_append_tail (by decide) proper.column.2 proper'.column.2 columns
  have files : indent ++ p.file = indent' ++ q.file :=
    eq_of_append_tail (by decide) proper.line.2 proper'.line.2 lines
  have file : p.file = q.file := by
    obtain ⟨c, cs, starts, solid⟩ := proper.file
    obtain ⟨c', cs', starts', solid'⟩ := proper'.file
    have kept := congrArg dropBlanks files
    rwa [dropBlanks_append blank, dropBlanks_append blank', starts, starts',
      dropBlanks_cons solid, dropBlanks_cons solid', ← starts, ← starts'] at kept
  rw [lines, List.append_cancel_left_eq] at columns
  rw [files, List.append_cancel_left_eq] at lines
  obtain ⟨file₁, line₁, column₁⟩ := p
  simp_all

theorem isLocation_of_split {p : Place} (proper : p.IsProper) {indent tail : List Char}
    (some : indent ≠ []) (blank : Blanks indent) (ends : Blanks tail) :
    IsLocation (indent ++ p.text ++ tail) p := by
  have blankEnd : (Pattern.find? [.pass (.star isBlank)] (tail ++ [])).isSome = true :=
    Pattern.isSome_find?_cons (.pass (.star isBlank)) ends rfl
  have found : (locationPattern.find? (indent ++ (p.text ++ (tail ++ [])))).isSome = true :=
    Pattern.isSome_find?_cons (.pass (.plus isBlank)) ⟨some, blank⟩
      (isSome_find?_placeThen proper blankEnd)
  obtain ⟨groups, found⟩ := Option.isSome_iff_exists.1 found
  rw [List.append_nil, ← List.append_assoc] at found
  obtain ⟨indent', _, split, ⟨-, blank'⟩, atPlace⟩ := Pattern.exists_of_find?_pass found
  obtain ⟨q, _, nothing, proper', rfl, atTail, rfl⟩ := exists_of_find?_placeThen atPlace
  obtain ⟨tail', _, rfl, ends', atEnd⟩ := Pattern.exists_of_find?_pass atTail
  obtain ⟨rfl, rfl⟩ := Pattern.find?_nil_eq_some.1 atEnd
  rw [List.append_nil, ← List.append_assoc] at split
  rw [IsLocation, found, proper.eq_of_text proper' blank blank' ends ends' split]

theorem isDiagnostic_iff {cs : List Char} :
    ((header? cs).isSome || (whole? cs).isSome) = true ↔ IsDiagnostic cs := by
  rw [Bool.or_eq_true, isSome_header?_iff, isSome_whole?_iff, IsDiagnostic]

instance (cs : List Char) : Decidable (IsDiagnostic cs) :=
  decidable_of_iff _ isDiagnostic_iff

theorem header?_of_header {cs text : List Char} {severity : Severity}
    (read : Line.of cs = .header severity text) : header? cs = some (severity, text) := by
  grind [Line.of]

theorem whole?_of_whole {cs text : List Char} {severity : Severity} {p : Place}
    (read : Line.of cs = .whole severity text p) :
    header? cs = none ∧ whole? cs = some (p, severity, text) := by
  grind [Line.of]

theorem location?_of_location {cs : List Char} {p : Place} (read : Line.of cs = .location p) :
    header? cs = none ∧ whole? cs = none ∧ location? cs = some p := by
  grind [Line.of]

theorem location?_of_other {cs : List Char} (read : Line.of cs = .other) :
    header? cs = none ∧ whole? cs = none ∧ location? cs = none := by
  grind [Line.of]

theorem not_isBlank_of_mem_tag {severity : Severity} {c : Char} (member : c ∈ severity.tag) :
    isBlank c = false := by
  have solid : (severity.tag.all fun c => !isBlank c) = true := by cases severity <;> decide
  simpa using List.all_eq_true.1 solid c member

end Log

end BuildPipeline
