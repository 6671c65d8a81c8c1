import BuildPipeline.Json.Reader
import BuildPipeline.Json.Writer
import Mathlib.Algebra.Group.Nat.Defs

set_option autoImplicit false

namespace BuildPipeline.Number

theorem isDigit_digitChar {n : Nat} (small : n < 10) : isDigit (digitChar n) = true := by
  have all : ∀ m : Fin 10, isDigit (digitChar m.val) = true := by decide
  exact all ⟨n, small⟩

theorem ne_of_isDigit {c d : Char} (digit : isDigit c = true) (other : isDigit d = false) :
    c ≠ d := by
  rintro rfl
  simp [digit] at other

theorem isDigit_of_mem_digits {n : Nat} {c : Char} (member : c ∈ digits n) : isDigit c = true := by
  induction n using digits.induct with
  | case1 n small =>
    rw [digits, if_pos small, List.mem_singleton] at member
    rw [member, isDigit_digitChar small]
  | case2 n big ih =>
    rw [digits, if_neg big, List.mem_append, List.mem_singleton] at member
    rcases member with front | rfl
    · exact ih front
    · exact isDigit_digitChar (by omega)

theorem exists_digits_eq_cons (n : Nat) : ∃ d ds, digits n = d :: ds ∧ isDigit d = true := by
  cases shape : digits n with
  | nil => exact absurd shape (digits_ne_nil n)
  | cons d ds => exact ⟨d, ds, rfl, isDigit_of_mem_digits (n := n) (by simp [shape])⟩

theorem head?_digits_ne_zero {n : Nat} (positive : 0 < n) : (digits n).head? ≠ some '0' := by
  induction n using digits.induct with
  | case1 n small =>
    have all : ∀ m : Fin 10, 0 < m.val → digitChar m.val ≠ '0' := by decide
    rw [digits, if_pos small]
    simpa using all ⟨n, small⟩ positive
  | case2 n big ih =>
    have front := ih (by omega)
    obtain ⟨d, ds, shape, -⟩ := exists_digits_eq_cons (n / 10)
    rw [digits, if_neg big, shape]
    simpa [shape] using front

theorem length_digits_le {n k : Nat} (positive : 0 < k) (bound : n < 10 ^ k) :
    (digits n).length ≤ k := by
  induction k generalizing n with
  | zero => omega
  | succ k ih =>
    rw [digits]
    split
    · simp
    · have shorter : (digits (n / 10)).length ≤ k := by
        rcases Nat.eq_zero_or_pos k with rfl | more
        · omega
        · apply ih more
          rw [Nat.pow_succ] at bound
          omega
      simpa using shorter

theorem length_digits_of_not_isTooLong {n : Nat} (short : isTooLong n = false) :
    (digits n).length ≤ maxDigits := by
  have positive : 0 < maxDigits := by decide
  simp only [isTooLong, decide_eq_false_iff_not] at short
  generalize maxDigits = k at positive short ⊢
  exact length_digits_le positive (Nat.not_le.1 short)

end BuildPipeline.Number

namespace BuildPipeline.Json

open Number (digits)

def Stops (rest : List Char) : Prop :=
  ∀ c ∈ rest.head?, c = ',' ∨ c = ']' ∨ c = '\x7d'

theorem Stops.not_isDigit {c : Char} {rest : List Char} (stops : Stops (c :: rest)) :
    Number.isDigit c = false := by
  rcases stops c rfl with rfl | rfl | rfl <;> rfl

theorem span_digits (n : Nat) {rest : List Char} (stops : Stops rest) :
    (digits n ++ rest).takeWhile Number.isDigit = digits n ∧
      (digits n ++ rest).dropWhile Number.isDigit = rest := by
  have all : ∀ c ∈ digits n, Number.isDigit c = true := fun c => Number.isDigit_of_mem_digits
  rw [List.takeWhile_append_of_pos all, List.dropWhile_append_of_pos all]
  cases rest with
  | nil => simp
  | cons c rest => simp [stops.not_isDigit]

theorem readWhole?_digits (n : Nat) {rest : List Char} (stops : Stops rest) :
    readWhole? (digits n ++ rest) = some (digits n, rest) := by
  obtain ⟨taken, dropped⟩ := span_digits n stops
  rcases Nat.eq_zero_or_pos n with rfl | positive
  · rw [digits, if_pos (by decide)]
    rfl
  obtain ⟨d, ds, shape, digit⟩ := Number.exists_digits_eq_cons n
  -- The first digit is not zero, so that all digits are taken.
  have first : d ≠ '0' := by
    have head := Number.head?_digits_ne_zero positive
    simpa [shape] using head
  rw [shape, List.cons_append] at taken dropped
  rw [shape, List.cons_append, readWhole?, if_pos digit, taken, dropped]
  exact first

theorem readFraction_of_stops {rest : List Char} (stops : Stops rest) :
    readFraction rest = ([], rest) := by
  rw [readFraction]
  rintro d others rfl
  rcases stops '.' rfl with h | h | h <;> cases h

theorem readExponent?_of_stops {rest : List Char} (stops : Stops rest) :
    readExponent? rest = none := by
  cases rest with
  | nil => rfl
  | cons c rest => rcases stops c rfl with rfl | rfl | rfl <;> rfl

theorem numberOf_digits {n : Nat} (short : Number.isTooLong n = false) (negative : Bool) :
    numberOf negative (digits n) [] none = .ok (.int (Number.signed negative n)) := by
  have bound := Number.length_digits_of_not_isTooLong short
  simp [numberOf, Nat.not_lt.2 bound, Number.ofDigits_digits, Number.signed]

theorem digits_append_ne_minus (n : Nat) (rest body : List Char) : digits n ++ rest ≠ '-' :: body := by
  intro same
  obtain ⟨d, ds, shape, digit⟩ := Number.exists_digits_eq_cons n
  rw [shape, List.cons_append, List.cons.injEq] at same
  exact Number.ne_of_isDigit digit rfl same.1

theorem readNumber_digits {n : Nat} (short : Number.isTooLong n = false) {rest : List Char}
    (stops : Stops rest) : readNumber (digits n ++ rest) = .ok (.int n, rest) := by
  unfold readNumber
  split
  next body unsigned =>
    split at unsigned
    next same => exact absurd same (digits_append_ne_minus n rest _)
    next =>
      cases unsigned
      simp [readWhole?_digits n stops, readFraction_of_stops stops, readExponent?_of_stops stops,
        numberOf_digits short, Except.map, Number.signed]

theorem readNumber_minus {n : Nat} (short : Number.isTooLong n = false) {rest : List Char}
    (stops : Stops rest) : readNumber ('-' :: (digits n ++ rest)) = .ok (.int (-n), rest) := by
  unfold readNumber
  simp [readWhole?_digits n stops, readFraction_of_stops stops, readExponent?_of_stops stops,
    numberOf_digits short, Except.map, Number.signed]

theorem hex4?_hexDigits {n : Nat} (small : n < 0x10000) (more : List Char) :
    hex4? (Text.hexDigits 4 n ++ more) = some (n, more) := by
  have number := Text.hexNumber?_hexDigits 4 n
  rw [show n % Nat.pow 16 4 = n from Nat.mod_eq_of_lt small] at number
  have shape : ∃ a b c d, Text.hexDigits 4 n = [a, b, c, d] := ⟨_, _, _, _, rfl⟩
  obtain ⟨a, b, c, d, shape⟩ := shape
  rw [shape] at number ⊢
  simp [hex4?, number]

theorem readUnicode_of_hex4? {cs more : List Char} {n : Nat} (found : hex4? cs = some (n, more))
    (low : isHighSurrogate n = false) (nonempty : more ≠ []) (mark : List Char) :
    readUnicode mark cs = .ok (charOf n, more) := by
  rw [readUnicode, found]
  split
  next impossible => cases impossible
  next same =>
    cases same
    exact absurd rfl nonempty
  next same =>
    cases same
    simp [low]
  next same =>
    cases same
    rfl

theorem readChars_unicode (start : List Char) (fuel : Nat) {rest more : List Char} {c : Char}
    (read : readUnicode ('u' :: rest) rest = .ok (c, more)) :
    readChars start (fuel + 1) ('\\' :: 'u' :: rest) =
      (readChars start fuel more).map fun r => (c :: r.1, r.2) := by
  rw [readChars, read]
  cases more' : readChars start fuel more <;> simp [bind, Except.bind, Except.map, more']

theorem readChars_escape (start : List Char) (fuel : Nat) {e c : Char} (other : e ≠ 'u')
    (escape : simpleEscape? e = some c) (more : List Char) :
    readChars start (fuel + 1) ('\\' :: e :: more) =
      (readChars start fuel more).map fun r => (c :: r.1, r.2) := by
  rw [readChars]
  · simp only [escape]
    cases readChars start fuel more <;> rfl
  · exact other

theorem readChars_plain (start : List Char) (fuel : Nat) {c : Char} (quote : c ≠ '"')
    (backslash : c ≠ '\\') (printable : ¬ c.toNat < 0x20) (more : List Char) :
    readChars start (fuel + 1) (c :: more) =
      (readChars start fuel more).map fun r => (c :: r.1, r.2) := by
  rw [readChars]
  · rw [if_neg printable]
    cases readChars start fuel more <;> rfl
  · exact quote
  · exact fun same _ => backslash same
  · exact fun _ same _ => backslash same
  · exact fun _ _ same _ => backslash same

theorem charOf_toNat (c : Char) : charOf c.toNat = c := by
  have valid := c.valid
  have not : ¬ (0xD800 ≤ c.toNat ∧ c.toNat < 0xE000) := by
    rcases valid with low | high
    · have : c.toNat < 0xD800 := low
      omega
    · have : 0xDFFF < c.toNat := high.1
      omega
  have plain : (isHighSurrogate c.toNat || isLowSurrogate c.toNat) = false := by
    simp only [isHighSurrogate, isLowSurrogate, Bool.or_eq_false_iff, Bool.and_eq_false_iff,
      decide_eq_false_iff_not]
    omega
  rw [charOf, plain]
  simp

theorem writeChar_cases (c : Char) :
    (∃ e, e ≠ 'u' ∧ simpleEscape? e = some c ∧ writeChar .compact c = ['\\', e]) ∨
      (c.toNat < 0x20 ∧ writeChar .compact c = unicodeEscape c.toNat) ∨
      (c ≠ '"' ∧ c ≠ '\\' ∧ ¬ c.toNat < 0x20 ∧ writeChar .compact c = [c]) := by
  by_cases escaped : c ∈ ['"', '\\', '\n', '\r', '\t', '\x0c', '\x08']
  · simp only [List.mem_cons, List.not_mem_nil, or_false] at escaped
    rcases escaped with rfl | rfl | rfl | rfl | rfl | rfl | rfl <;>
      exact .inl ⟨_, by decide, rfl, rfl⟩
  · simp only [List.mem_cons, List.not_mem_nil, or_false, not_or] at escaped
    by_cases control : c.toNat < 0x20
    · exact .inr (.inl ⟨control, by simp [writeChar, escaped, control]⟩)
    · refine .inr (.inr ⟨escaped.1, escaped.2.1, control, ?_⟩)
      simp [writeChar, escaped, control, Layout.compact]

theorem readChars_writeChar (start : List Char) (fuel : Nat) (c : Char) {more : List Char}
    (nonempty : more ≠ []) :
    readChars start (fuel + 1) (writeChar .compact c ++ more) =
      (readChars start fuel more).map fun r => (c :: r.1, r.2) := by
  rcases writeChar_cases c with
    ⟨e, other, escape, text⟩ | ⟨control, text⟩ | ⟨quote, backslash, printable, text⟩
  · rw [text]
    exact readChars_escape start fuel other escape more
  · have low : isHighSurrogate c.toNat = false := by
      simp only [isHighSurrogate, Bool.and_eq_false_iff, decide_eq_false_iff_not]
      omega
    have found := hex4?_hexDigits (n := c.toNat) (by omega) more
    rw [text, unicodeEscape, List.cons_append, List.cons_append, readChars_unicode start fuel
      (readUnicode_of_hex4? found low nonempty _), charOf_toNat]
  · rw [text, List.singleton_append, readChars_plain start fuel quote backslash printable]

theorem readChars_writeChars (start : List Char) (cs rest : List Char) (fuel : Nat)
    (enough : cs.length < fuel) :
    readChars start fuel (cs.flatMap (writeChar .compact) ++ '"' :: rest) = .ok (cs, rest) := by
  induction cs generalizing fuel with
  | nil =>
    cases fuel with
    | zero => omega
    | succ fuel => simp [readChars]
  | cons c cs ih =>
    cases fuel with
    | zero => omega
    | succ fuel =>
      rw [List.length_cons] at enough
      rw [List.flatMap_cons, List.append_assoc,
        readChars_writeChar start fuel c (by simp), ih fuel (by omega)]
      rfl

theorem writeChar_ne_nil (layout : Layout) (c : Char) : writeChar layout c ≠ [] := by
  have either {p : Prop} [Decidable p] {first second : List Char} (one : first ≠ [])
      (other : second ≠ []) : (if p then first else second) ≠ [] := by
    split <;> assumption
  rw [writeChar]
  repeat' apply either
  all_goals exact List.cons_ne_nil _ _

theorem length_le_length_writeChars (cs : List Char) :
    cs.length ≤ (cs.flatMap (writeChar .compact)).length := by
  induction cs with
  | nil => exact Nat.le_refl 0
  | cons c cs ih =>
    have positive := List.length_pos_iff.2 (writeChar_ne_nil .compact c)
    rw [List.flatMap_cons, List.length_append, List.length_cons]
    omega

theorem readString_writeString (s : String) (rest : List Char) :
    ∃ tail, writeString .compact s ++ rest = '"' :: tail ∧ readString tail = .ok (s, rest) := by
  refine ⟨s.toList.flatMap (writeChar .compact) ++ '"' :: rest, ?_, ?_⟩
  · simp [writeString, writeChars]
  · have shorter := length_le_length_writeChars s.toList
    rw [readString, readChars_writeChars]
    · simp [bind, Except.bind]
    · rw [List.length_append]
      omega

end BuildPipeline.Json
