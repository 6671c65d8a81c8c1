import BuildPipeline.Text.Blank

set_option autoImplicit false

namespace BuildPipeline.SourceMap

def markerName : List Char :=
  "sourceMappingURL=".toList

def after? : List Char → List Char → Option (List Char)
  | [], cs => some cs
  | _ :: _, [] => none
  | p :: ps, c :: cs => if p = c then after? ps cs else none

theorem after?_eq_some {ps cs rest : List Char} :
    after? ps cs = some rest ↔ cs = ps ++ rest := by
  induction ps generalizing cs with
  | nil => simp [after?]
  | cons p ps ih =>
    cases cs with
    | nil => simp [after?]
    | cons c cs =>
      by_cases h : p = c
      · simp [after?, h, ih]
      · simp [after?, h, Ne.symm h]

def isPad (c : Char) : Bool :=
  c == ' ' || c == '\t'

def opening? (second : Char) : List Char → Option (List Char)
  | '/' :: c :: sign :: pad :: rest =>
    if c = second && (sign == '#' || sign == '@') && isPad pad then
      after? markerName (rest.dropWhile isPad)
    else none
  | _ => none

def isLineEnd (c : Char) : Bool :=
  c == '\r' || c == '\n'

def afterCommentEnd? : List Char → Option (List Char)
  | [] => none
  | '*' :: '/' :: rest => some rest
  | _ :: rest => afterCommentEnd? rest

def afterLineMarker? (cs : List Char) : Option (List Char) :=
  (opening? '/' cs).map (·.dropWhile (!isLineEnd ·))

def afterBlockMarker? (cs : List Char) : Option (List Char) :=
  (opening? '*' cs).bind afterCommentEnd?

def markerLength? (cs : List Char) : Option Nat :=
  ((afterLineMarker? cs).or (afterBlockMarker? cs)).map fun rest => cs.length - rest.length

/-- Removes markers from the left, all but their newlines. The first `inside` characters belong to
a marker found before them. -/
def stripFrom : Nat → List Char → List Char
  | _, [] => []
  | 0, c :: cs =>
    match markerLength? (c :: cs) with
    | none => c :: stripFrom 0 cs
    | some n => if c = '\n' then c :: stripFrom (n - 1) cs else stripFrom (n - 1) cs
  | inside + 1, c :: cs =>
    if c = '\n' then c :: stripFrom inside cs else stripFrom inside cs

def stripMarkers (cs : List Char) : List Char :=
  stripFrom 0 cs

theorem count_newline_stripFrom (inside : Nat) (cs : List Char) :
    (stripFrom inside cs).count '\n' = cs.count '\n' := by
  fun_induction stripFrom inside cs <;> simp_all [List.count_cons]

theorem count_newline_stripMarkers (cs : List Char) :
    (stripMarkers cs).count '\n' = cs.count '\n' :=
  count_newline_stripFrom 0 cs

/-- The code under its map: no markers, and no line ends at its end. -/
def body (code : List Char) : List Char :=
  Text.dropTailWhile isLineEnd (stripMarkers code)

end BuildPipeline.SourceMap
