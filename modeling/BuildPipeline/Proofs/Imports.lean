import BuildPipeline.Imports
import BuildPipeline.Proofs.Text.Blank

set_option autoImplicit false

namespace BuildPipeline.Imports

open BuildPipeline.Text (Blanks isBlank isWord dropBlanks dropBlanks_append dropBlanks_cons)

structure Gap where
  chars : List Char
  all : ∀ c ∈ chars, c = ' ' ∨ c = '\t' ∨ c = '\n'

structure Quoted where
  quote : Char
  specifier : List Char
  isQuote : quote = '\'' ∨ quote = '"'
  some : specifier ≠ []
  plain : ∀ c ∈ specifier, isSpecifierChar c = true

def Quoted.text (q : Quoted) : List Char :=
  q.quote :: q.specifier ++ [q.quote]

structure Bindings where
  left : Gap
  names : List Char
  right : Gap
  some : names ≠ []
  all : ∀ c ∈ names, isBindingChar c = true
  opens : left.chars ≠ [] ∨ ∀ c ∈ names.head?, isWord c = false
  closes : right.chars ≠ [] ∨ ∀ c ∈ names.getLast?, isWord c = false

def Bindings.text (b : Bindings) : List Char :=
  b.left.chars ++ b.names ++ b.right.chars

inductive Statement where
  | plain (gap : Gap) (q : Quoted)
  | called (before inside : Gap) (q : Quoted)
  | bound (bindings : Bindings) (gap : Gap) (q : Quoted)

namespace Statement

def quoted : Statement → Quoted
  | plain _ q | called _ _ q | bound _ _ q => q

def specifier (s : Statement) : String :=
  String.ofList s.quoted.specifier

def inside : Statement → List Char
  | plain gap _ => gap.chars
  | called before inside _ => before.chars ++ '(' :: inside.chars
  | bound bindings gap _ => bindings.text ++ "from".toList ++ gap.chars

def closing : Statement → List Char
  | called .. => [')']
  | _ => []

def text (s : Statement) : List Char :=
  ['i', 'm', 'p', 'o', 'r', 't'] ++ s.inside ++ s.quoted.text ++ s.closing

end Statement

/-- A script of these statements, with semicolons and newlines behind each but perhaps the last. -/
inductive Joined : List Statement → List Char → Prop
  | none : Joined [] []
  | last (s : Statement) : Joined [s] s.text
  | next (s : Statement) {others : List Statement} {between script : List Char}
      (some : between ≠ []) (separates : ∀ c ∈ between, c = ';' ∨ c = '\n')
      (later : Joined others script) : Joined (s :: others) (s.text ++ between ++ script)

theorem Gap.blanks (g : Gap) : Blanks g.chars := by
  intro c member
  rcases g.all c member with rfl | rfl | rfl <;> decide

theorem Gap.not_isWord {g : Gap} {c : Char} (member : c ∈ g.chars) : isWord c = false := by
  rcases g.all c member with rfl | rfl | rfl <;> decide

theorem isBindingChar_of_isBlank {c : Char} (blank : isBlank c = true) : isBindingChar c = true := by
  simp [isBindingChar, blank]

theorem Gap.isBindingChar {g : Gap} {c : Char} (member : c ∈ g.chars) : isBindingChar c = true :=
  isBindingChar_of_isBlank (g.blanks c member)

theorem isBindingChar_quote (q : Quoted) : isBindingChar q.quote = false := by
  rcases q.isQuote with quote | quote <;> rw [quote] <;> decide

theorem not_isBlank {c : Char} (other : isBindingChar c = false) : isBlank c = false := by
  cases blank : isBlank c with
  | false => rfl
  | true =>
    rw [isBindingChar_of_isBlank blank] at other
    cases other

theorem not_isWord {c : Char} (other : isBindingChar c = false) : isWord c = false := by
  cases word : isWord c with
  | false => rfl
  | true => simp [isBindingChar, word] at other

theorem ne_of_isBindingChar {c d : Char} (binding : isBindingChar c = true)
    (stops : isBindingChar d = false) : c ≠ d := by
  rintro rfl
  rw [stops] at binding
  cases binding

theorem quotedSpecifier?_text (q : Quoted) (rest : List Char) :
    quotedSpecifier? (q.text ++ rest) = some (q.specifier, rest) := by
  have quote : (q.quote == '\'' || q.quote == '"') = true := by simpa using q.isQuote
  have stops : isSpecifierChar q.quote = false := by
    rcases q.isQuote with same | same <;> rw [same] <;> decide
  have taken : (q.specifier ++ q.quote :: rest).takeWhile isSpecifierChar = q.specifier := by
    rw [List.takeWhile_append_of_pos q.plain]
    simp [stops]
  have left : (q.specifier ++ q.quote :: rest).dropWhile isSpecifierChar = q.quote :: rest := by
    rw [List.dropWhile_append_of_pos q.plain]
    simp [stops]
  obtain ⟨c, cs, opens⟩ := List.exists_cons_of_ne_nil q.some
  have text : q.text ++ rest = q.quote :: (q.specifier ++ q.quote :: rest) := by simp [Quoted.text]
  rw [text, quotedSpecifier?, if_pos quote, taken, left, opens]
  exact if_pos rfl

theorem dropBlanks_text (q : Quoted) (rest : List Char) :
    dropBlanks (q.text ++ rest) = q.text ++ rest :=
  dropBlanks_cons (not_isBlank (isBindingChar_quote q)) _

theorem specifier?_quoted (gap : Gap) (q : Quoted) (rest : List Char) :
    specifier? (gap.chars ++ (q.text ++ rest)) = some (q.specifier, rest) := by
  have other : q.quote ≠ '(' := by
    rcases q.isQuote with same | same <;> rw [same] <;> decide
  have here : specifier? (q.text ++ rest) = quotedSpecifier? (q.text ++ rest) := by
    rw [specifier?, dropBlanks_text]
    split
    next starts => exact absurd (List.cons.inj starts).1 other
    next => rfl
  rw [specifier?, dropBlanks_append gap.blanks, ← specifier?, here, quotedSpecifier?_text]

theorem specifier?_called (before inside : Gap) (q : Quoted) (rest : List Char) :
    specifier? (before.chars ++ '(' :: (inside.chars ++ (q.text ++ rest))) =
      some (q.specifier, rest) := by
  rw [specifier?, dropBlanks_append before.blanks, dropBlanks_cons (by decide)]
  change quotedSpecifier? (dropBlanks (inside.chars ++ (q.text ++ rest))) = _
  rw [dropBlanks_append inside.blanks, dropBlanks_text, quotedSpecifier?_text]

theorem fromSpecifier?_other {c : Char} (other : c ≠ 'f') (before : Char) (cs : List Char) :
    fromSpecifier? before (c :: cs) = none := by
  rw [fromSpecifier?.eq_def]
  split
  next same => exact absurd (List.cons.inj same).1 other
  next => rfl

theorem specifier?_bindings {cs : List Char} (all : ∀ c ∈ cs, isBindingChar c = true)
    (rest : List Char) : specifier? (cs ++ 'f' :: rest) = none := by
  have starts : ∃ d more, dropBlanks (cs ++ 'f' :: rest) = d :: more ∧ isBindingChar d = true := by
    induction cs with
    | nil => exact ⟨'f', rest, dropBlanks_cons (by decide) rest, by decide⟩
    | cons c cs ih =>
      obtain ⟨first, others⟩ := List.forall_mem_cons.1 all
      cases blank : isBlank c with
      | true =>
        obtain ⟨d, more, kept, binding⟩ := ih others
        have skipped : dropBlanks ([c] ++ (cs ++ 'f' :: rest)) = dropBlanks (cs ++ 'f' :: rest) :=
          dropBlanks_append (List.forall_mem_singleton.2 blank) _
        exact ⟨d, more, skipped.trans kept, binding⟩
      | false => exact ⟨c, cs ++ 'f' :: rest, dropBlanks_cons blank _, first⟩
  obtain ⟨d, more, kept, binding⟩ := starts
  have parenthesis : d ≠ '(' := ne_of_isBindingChar binding (by decide)
  have single : d ≠ '\'' := ne_of_isBindingChar binding (by decide)
  have double : d ≠ '"' := ne_of_isBindingChar binding (by decide)
  rw [specifier?, kept]
  split
  next same => exact absurd (List.cons.inj same).1 parenthesis
  next => simp [quotedSpecifier?, single, double]

theorem fromSpecifier?_bindings {c : Char} {cs : List Char}
    (all : ∀ x ∈ c :: cs, isBindingChar x = true) (before : Char) (rest : List Char) :
    fromSpecifier? before (c :: cs ++ 'f' :: 'r' :: 'o' :: 'm' :: rest) = none := by
  rw [fromSpecifier?.eq_def]
  split
  next behind same =>
    -- The letters of the two words do not overlap, so all of the first one is in the bindings.
    have inside : ∃ more, behind = more ++ 'f' :: 'r' :: 'o' :: 'm' :: rest ∧
        ∀ x ∈ more, isBindingChar x = true := by
      rcases cs with _ | ⟨c₁, _ | ⟨c₂, _ | ⟨c₃, more⟩⟩⟩
      · simp at same
      · simp at same
      · simp at same
      · exact ⟨more, by simp_all, fun x member => all x (by simp [member])⟩
    obtain ⟨more, rfl, bindings⟩ := inside
    rw [specifier?_bindings bindings]
    exact ite_self none
  next => rfl

theorem wordEnds_quoted (gap : Gap) (q : Quoted) (rest : List Char) :
    wordEnds (gap.chars ++ (q.text ++ rest)) = true := by
  cases chars : gap.chars with
  | nil => simp [Quoted.text, wordEnds, not_isWord (isBindingChar_quote q)]
  | cons c cs =>
    have solid : isWord c = false := gap.not_isWord (by simp [chars])
    simp [wordEnds, solid]

theorem fromSpecifier?_from {before : Char} (apart : isWord before = false) (gap : Gap) (q : Quoted)
    (rest : List Char) :
    fromSpecifier? before ('f' :: 'r' :: 'o' :: 'm' :: (gap.chars ++ (q.text ++ rest))) =
      some (q.specifier, rest) := by
  rw [fromSpecifier?, apart, wordEnds_quoted, specifier?_quoted]
  rfl

theorem afterBindings?_from {cs : List Char} (all : ∀ c ∈ cs, isBindingChar c = true) {before : Char}
    (apart : isWord (cs.getLast?.getD before) = false) (gap : Gap) (q : Quoted) (rest : List Char) :
    afterBindings? before (cs ++ ('f' :: 'r' :: 'o' :: 'm' :: (gap.chars ++ (q.text ++ rest)))) =
      some (q.specifier, rest) := by
  induction cs generalizing before with
  | nil =>
    have here : isWord before = false := apart
    rw [List.nil_append, afterBindings?, fromSpecifier?_from here]
    rfl
  | cons c cs ih =>
    obtain ⟨first, others⟩ := List.forall_mem_cons.1 all
    have later : afterBindings? c (cs ++ ('f' :: 'r' :: 'o' :: 'm' :: (gap.chars ++ (q.text ++ rest)))) =
        some (q.specifier, rest) := by
      apply ih others
      rwa [List.getLast?_cons, Option.getD_some] at apart
    rw [List.cons_append, afterBindings?, ← List.cons_append, fromSpecifier?_bindings all, if_pos first,
      later]
    rfl

theorem afterBindings?_eq_none {cs : List Char} (noFrom : 'f' ∉ cs) {d : Char}
    (stops : isBindingChar d = false) (before : Char) (rest : List Char) :
    afterBindings? before (cs ++ d :: rest) = none := by
  have other : 'f' ≠ d := ne_of_isBindingChar (by decide) stops
  induction cs generalizing before with
  | nil =>
    rw [List.nil_append, afterBindings?, fromSpecifier?_other other.symm, if_neg (by simp [stops])]
    rfl
  | cons c cs ih =>
    rw [List.mem_cons, not_or] at noFrom
    rw [List.cons_append, afterBindings?, fromSpecifier?_other (Ne.symm noFrom.1), ih noFrom.2]
    simp

theorem Bindings.isBindingChar {b : Bindings} {c : Char} (member : c ∈ b.text) :
    isBindingChar c = true := by
  simp only [Bindings.text, List.mem_append] at member
  rcases member with (left | name) | right
  · exact Gap.isBindingChar left
  · exact b.all c name
  · exact Gap.isBindingChar right

theorem Bindings.text_ne_nil (b : Bindings) : b.text ≠ [] := by
  simp [Bindings.text, b.some]

theorem Bindings.opens_text {b : Bindings} {c : Char} (first : c ∈ b.text.head?) :
    isWord c = false := by
  cases left : b.left.chars with
  | nil =>
    apply b.opens.resolve_left (by simp [left])
    simpa [Bindings.text, left, List.head?_append_of_ne_nil _ b.some] using first
  | cons d ds =>
    have same : d = c := by simpa [Bindings.text, left] using first
    exact b.left.not_isWord (by simp [left, same])

theorem Bindings.closes_text {b : Bindings} {c : Char} (last : c ∈ b.text.getLast?) :
    isWord c = false := by
  rcases List.eq_nil_or_concat b.right.chars with right | ⟨ds, d, right⟩
  · apply b.closes.resolve_left (by simp [right])
    simpa [Bindings.text, right, List.getLast?_append_of_ne_nil _ b.some] using last
  · have same : d = c := by simpa [Bindings.text, right] using last
    exact b.right.not_isWord (by simp [right, same])

theorem boundSpecifier?_eq_none {c : Char} (stops : isBindingChar c = false) (gap : Gap)
    (rest : List Char) : boundSpecifier? (gap.chars ++ c :: rest) = none := by
  have other : 'f' ≠ c := ne_of_isBindingChar (by decide) stops
  rw [boundSpecifier?, dropBlanks_append gap.blanks, dropBlanks_cons (not_isBlank stops)]
  simp [stops, fromSpecifier?_other other.symm]

theorem boundSpecifier?_blanks {cs : List Char} (some : cs ≠ []) (only : Blanks cs) (gap : Gap)
    (q : Quoted) (rest : List Char) :
    boundSpecifier? (cs ++ 'f' :: 'r' :: 'o' :: 'm' :: (gap.chars ++ (q.text ++ rest))) =
      .some (q.specifier, rest) := by
  have noBindings : afterBindings? 'f' ('r' :: 'o' :: 'm' :: (gap.chars ++ (q.text ++ rest))) =
      none := by
    have noFrom : 'f' ∉ 'r' :: 'o' :: 'm' :: gap.chars := by
      intro member
      have inside : 'f' ∈ gap.chars := by simpa using member
      exact absurd (gap.all 'f' inside) (by decide)
    exact afterBindings?_eq_none noFrom (isBindingChar_quote q) 'f' (q.specifier ++ [q.quote] ++ rest)
  have shorter : 0 < cs.length := List.length_pos_iff.2 some
  have later : (gap.chars ++ (q.text ++ rest)).length + 4 <
      (cs ++ 'f' :: 'r' :: 'o' :: 'm' :: (gap.chars ++ (q.text ++ rest))).length := by
    simp only [List.length_append, List.length_cons]
    omega
  rw [boundSpecifier?, dropBlanks_append only, dropBlanks_cons (by decide)]
  dsimp only [List.length_cons]
  rw [noBindings, if_pos later, fromSpecifier?_from (by decide), ite_self]
  rfl

theorem boundSpecifier?_solid {blanks : List Char} (blank : Blanks blanks) {c : Char} {cs : List Char}
    (solid : isBlank c = false) (all : ∀ x ∈ c :: cs, isBindingChar x = true)
    (apart : isWord (cs.getLast?.getD c) = false) (gap : Gap) (q : Quoted) (rest : List Char) :
    boundSpecifier? (blanks ++ c :: cs ++ 'f' :: 'r' :: 'o' :: 'm' :: (gap.chars ++ (q.text ++ rest))) =
      some (q.specifier, rest) := by
  obtain ⟨first, others⟩ := List.forall_mem_cons.1 all
  rw [List.append_assoc, List.cons_append, boundSpecifier?, dropBlanks_append blank,
    dropBlanks_cons solid]
  dsimp only
  rw [if_pos first, afterBindings?_from others apart]
  rfl

theorem boundSpecifier?_text (b : Bindings) (gap : Gap) (q : Quoted) (rest : List Char) :
    boundSpecifier? (b.text ++ 'f' :: 'r' :: 'o' :: 'm' :: (gap.chars ++ (q.text ++ rest))) =
      some (q.specifier, rest) := by
  obtain ⟨blanks, split, blank⟩ := Text.exists_dropBlanks b.text
  cases kept : dropBlanks b.text with
  | nil =>
    rw [kept, List.append_nil] at split
    rw [← split] at blank
    exact boundSpecifier?_blanks b.text_ne_nil blank gap q rest
  | cons c cs =>
    rw [kept] at split
    have all : ∀ x ∈ c :: cs, isBindingChar x = true := by
      intro x member
      apply Bindings.isBindingChar (b := b)
      rw [split]
      exact List.mem_append_right blanks member
    have apart : isWord (cs.getLast?.getD c) = false := by
      apply Bindings.closes_text (b := b)
      rw [split, List.getLast?_append_of_ne_nil _ (List.cons_ne_nil c cs), List.getLast?_cons]
      rfl
    rw [split]
    exact boundSpecifier?_solid blank (Text.head_of_dropBlanks kept) all apart gap q rest

theorem wordEnds_inside (s : Statement) (rest : List Char) :
    wordEnds (s.inside ++ (s.quoted.text ++ rest)) = true := by
  cases s with
  | plain gap q => exact wordEnds_quoted gap q rest
  | called before inside q =>
    cases chars : before.chars with
    | nil =>
      simp only [Statement.inside, chars, List.nil_append, List.cons_append, wordEnds]
      decide
    | cons c cs =>
      have solid : isWord c = false := before.not_isWord (by simp [chars])
      simp [Statement.inside, chars, wordEnds, solid]
  | bound bindings gap q =>
    obtain ⟨c, cs, chars⟩ := List.exists_cons_of_ne_nil bindings.text_ne_nil
    have solid : isWord c = false := Bindings.opens_text (b := bindings) (by simp [chars])
    simp [Statement.inside, chars, wordEnds, solid]

theorem specifier_inside (s : Statement) (rest : List Char) :
    (boundSpecifier? (s.inside ++ (s.quoted.text ++ rest))).or
      (specifier? (s.inside ++ (s.quoted.text ++ rest))) = some (s.quoted.specifier, rest) := by
  cases s with
  | plain gap q =>
    have unbound : boundSpecifier? (gap.chars ++ (q.text ++ rest)) = none :=
      boundSpecifier?_eq_none (isBindingChar_quote q) gap _
    rw [Statement.inside, Statement.quoted, unbound, specifier?_quoted]
    rfl
  | called before inside q =>
    rw [Statement.inside, Statement.quoted, List.append_assoc, List.cons_append,
      boundSpecifier?_eq_none (by decide), specifier?_called]
    rfl
  | bound bindings gap q =>
    have whole : bindings.text ++ "from".toList ++ gap.chars ++ (q.text ++ rest) =
        bindings.text ++ 'f' :: 'r' :: 'o' :: 'm' :: (gap.chars ++ (q.text ++ rest)) := by simp
    rw [Statement.inside, Statement.quoted, whole, boundSpecifier?_text]
    rfl

theorem import?_text (s : Statement) {before : Option Char} (apart : ∀ c ∈ before, isWord c = false)
    (rest : List Char) : import? before
      ('i' :: 'm' :: 'p' :: 'o' :: 'r' :: 't' :: (s.inside ++ (s.quoted.text ++ rest))) =
        some (s.quoted.specifier, rest) := by
  have free : (before.all fun c => !isWord c) = true := by
    cases before with
    | none => rfl
    | some c => simp [apart c rfl]
  have behind : SourceMap.after? "import".toList
      ('i' :: 'm' :: 'p' :: 'o' :: 'r' :: 't' :: (s.inside ++ (s.quoted.text ++ rest))) =
        some (s.inside ++ (s.quoted.text ++ rest)) := SourceMap.after?_eq_some.2 rfl
  rw [import?, behind]
  dsimp only
  rw [free, wordEnds_inside, Bool.and_true, if_pos rfl, specifier_inside]

theorem import?_other {c : Char} (other : c ≠ 'i') (before : Option Char)
    (cs : List Char) : import? before (c :: cs) = none := by
  have elsewhere : SourceMap.after? "import".toList (c :: cs) = none := if_neg (Ne.symm other)
  rw [import?, elsewhere]

theorem specifiersFrom_inside (cs rest : List Char) (before : Option Char) :
    specifiersFrom before cs.length (cs ++ rest) = specifiersFrom (cs.getLast?.or before) 0 rest := by
  induction cs generalizing before with
  | nil => rfl
  | cons c cs ih =>
    rw [List.length_cons, List.cons_append, specifiersFrom, ih, List.getLast?_cons]
    cases cs.getLast? <;> rfl

theorem specifiersFrom_between {cs : List Char} (noImport : 'i' ∉ cs) (rest : List Char)
    (before : Option Char) :
    specifiersFrom before 0 (cs ++ rest) = specifiersFrom (cs.getLast?.or before) 0 rest := by
  induction cs generalizing before with
  | nil => rfl
  | cons c cs ih =>
    rw [List.mem_cons, not_or] at noImport
    rw [List.cons_append, specifiersFrom, import?_other (Ne.symm noImport.1)]
    dsimp only
    rw [ih noImport.2, List.getLast?_cons]
    cases cs.getLast? <;> rfl

theorem specifiersFrom_text (s : Statement) {before : Option Char}
    (apart : ∀ c ∈ before, isWord c = false) (rest : List Char) :
    ∃ last, specifiersFrom before 0 (s.text ++ rest) = s.specifier :: specifiersFrom last 0 rest := by
  have noImport : 'i' ∉ s.closing := by
    cases s with
    | plain | bound => exact List.not_mem_nil
    | called => exact fun member => absurd (List.mem_singleton.1 member) (by decide)
  obtain ⟨body, starts⟩ : ∃ body, ['i', 'm', 'p', 'o', 'r', 't'] ++ s.inside ++ s.quoted.text =
      'i' :: body := ⟨_, rfl⟩
  have whole : s.text ++ rest = 'i' :: (body ++ (s.closing ++ rest)) := by
    rw [Statement.text, starts, List.append_assoc, List.cons_append]
  have found : import? before ('i' :: (body ++ (s.closing ++ rest))) =
      some (s.quoted.specifier, s.closing ++ rest) := by
    rw [← List.cons_append, ← starts]
    simpa using import?_text s apart (s.closing ++ rest)
  refine ⟨s.closing.getLast?.or (body.getLast?.or (some 'i')), ?_⟩
  rw [whole, specifiersFrom, found]
  dsimp only
  rw [List.length_append, Nat.add_sub_cancel, specifiersFrom_inside, specifiersFrom_between noImport]
  rfl

theorem specifiersFrom_joined {statements : List Statement} {script : List Char}
    (joined : Joined statements script) {before : Option Char} (apart : ∀ c ∈ before, isWord c = false) :
    specifiersFrom before 0 script = statements.map Statement.specifier := by
  induction joined generalizing before with
  | none => simp [specifiersFrom]
  | last s =>
    obtain ⟨last, found⟩ := specifiersFrom_text s apart []
    rw [List.append_nil] at found
    rw [found]
    rfl
  | @next s others between script some separates later ih =>
    have noImport : 'i' ∉ between := by
      intro member
      exact absurd (separates 'i' member) (by decide)
    -- The next statement stands behind a separator, so no word runs into it.
    obtain ⟨d, last⟩ := Option.ne_none_iff_exists'.1 (mt List.getLast?_eq_none_iff.1 some)
    have free : isWord d = false := by
      rcases separates d (List.mem_of_getLast? last) with rfl | rfl <;> decide
    obtain ⟨behind, found⟩ := specifiersFrom_text s apart (between ++ script)
    rw [List.append_assoc, found, specifiersFrom_between noImport, last, Option.some_or,
      ih (by simpa using free)]
    rfl

/-- A script of import statements has the specifiers of these, in order. -/
theorem specifiers_joined {statements : List Statement} {script : List Char}
    (joined : Joined statements script) : specifiers script = statements.map Statement.specifier := by
  apply specifiersFrom_joined joined
  simp

-- Bindings may hold the two words themselves.
theorem specifiers_joined_words : ∃ statements : List Statement,
    Joined statements "import from, import from 'x';\nimport( \"y\")".toList ∧
      specifiers "import from, import from 'x';\nimport( \"y\")".toList = ["x", "y"] := by
  let nothing : Gap := ⟨[], by simp⟩
  let space : Gap := ⟨[' '], by simp⟩
  let names : Bindings := ⟨space, "from, import".toList, space, by decide,
    List.all_eq_true.1 (by decide), .inl (by decide), .inl (by decide)⟩
  let x : Statement :=
    .bound names space ⟨'\'', ['x'], .inl rfl, by decide, List.all_eq_true.1 (by decide)⟩
  let y : Statement :=
    .called nothing space ⟨'"', ['y'], .inr rfl, by decide, List.all_eq_true.1 (by decide)⟩
  have joined : Joined [x, y] (x.text ++ [';', '\n'] ++ y.text) :=
    .next x (by decide) (by simp) (.last y)
  have whole : x.text ++ [';', '\n'] ++ y.text =
      "import from, import from 'x';\nimport( \"y\")".toList := by decide
  rw [whole] at joined
  exact ⟨[x, y], joined, specifiers_joined joined⟩

end BuildPipeline.Imports
