import BuildPipeline.Markup.NamedReference
import BuildPipeline.Number.Decimal
import BuildPipeline.Text.Hex

set_option autoImplicit false

namespace BuildPipeline.Markup

def referencedChar (n : Nat) : Char :=
  if n = 0 || 0x10FFFF < n || (0xD800 ≤ n && n < 0xE000) then '\ufffd'
  else if 128 ≤ n && n < 160 then Char.ofNat ((remappedControls[n - 128]?).getD n)
  else Char.ofNat n

def dropSemicolon : List Char → List Char
  | ';' :: rest => rest
  | rest => rest

def digitRun (value? : Char → Option Nat) (base : Nat) (cs : List Char) : Nat :=
  (cs.takeWhile fun c => (value? c).isSome).foldl (fun n c => base * n + (value? c).getD 0) 0

def numericReference (value? : Char → Option Nat) (base : Nat) (cs : List Char) :
    Option (List Char × List Char) :=
  match cs.dropWhile fun c => (value? c).isSome with
  | rest =>
    if rest.length = cs.length then none
    else some ([referencedChar (digitRun value? base cs)], dropSemicolon rest)

def namedReference (cs : List Char) : Nat → Option (List Char × List Char)
  | 0 => none
  | n + 1 =>
    let name := String.ofList (cs.take (n + 1))
    let rest := cs.drop (n + 1)
    match namedReferences.find? (·.1 = name) with
    | none => namedReference cs n
    | some (_, codes) =>
      match rest with
      | ';' :: rest => some (codes.map Char.ofNat, rest)
      | rest =>
        -- An old name needs no semicolon, unless a word or an equals sign goes on behind it.
        if bareReferences.contains name then
          match rest with
          | c :: _ =>
            if c == '=' || c.isAlphanum then none else some (codes.map Char.ofNat, rest)
          | [] => some (codes.map Char.ofNat, rest)
        else namedReference cs n

def reference? : List Char → Option (List Char × List Char)
  | '#' :: 'x' :: rest => numericReference Text.hexValue? 16 rest
  | '#' :: 'X' :: rest => numericReference Text.hexValue? 16 rest
  | '#' :: rest => numericReference Number.digitOf? 10 rest
  | cs => namedReference cs (min 32 (cs.takeWhile (·.isAlphanum)).length)

def resolveFrom : Nat → List Char → List Char
  | _, [] => []
  | 0, '&' :: cs =>
    match reference? cs with
    | none => '&' :: resolveFrom 0 cs
    | some (meant, rest) => meant ++ resolveFrom (cs.length - rest.length) cs
  | 0, c :: cs => c :: resolveFrom 0 cs
  | inside + 1, _ :: cs => resolveFrom inside cs

def resolveReferences (cs : List Char) : List Char :=
  resolveFrom 0 cs

end BuildPipeline.Markup
