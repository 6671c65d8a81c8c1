import BuildPipeline.Text.Pieces

set_option autoImplicit false

namespace BuildPipeline.Command

def isSafeChar (c : Char) : Bool :=
  c.isAlphanum || "@%+=:,./-_".toList.contains c

def quotedChar (c : Char) : List Char :=
  if c = '\'' then ['\'', '"', '\'', '"', '\''] else [c]

def quoteChars (word : List Char) : List Char :=
  if word ≠ [] && word.all isSafeChar then word
  else '\'' :: word.flatMap quotedChar ++ ['\'']

def quoteWord (word : String) : String :=
  String.ofList (quoteChars word.toList)

def line (words : List String) : String :=
  Text.join " " (words.map quoteWord)

theorem quoteChars_ne_nil (word : List Char) : quoteChars word ≠ [] := by
  unfold quoteChars
  split
  · rename_i h
    simp only [Bool.and_eq_true, decide_eq_true_eq] at h
    exact h.1
  · simp

end BuildPipeline.Command
