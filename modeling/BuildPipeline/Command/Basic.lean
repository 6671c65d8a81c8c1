import BuildPipeline.Command.Quoting
import BuildPipeline.FileSystem.Basic
import BuildPipeline.FileSystem.Fault
import BuildPipeline.Path.Basic
import BuildPipeline.Text.Blank

set_option autoImplicit false

namespace BuildPipeline.Command

structure Job where
  words : List String
  cwd : Option Path := none
  env : List (String × String) := []
  input : Option String := none
  deriving DecidableEq, Repr

structure Outcome where
  code : Int := 0
  stdout : String := ""
  stderr : String := ""
  deriving DecidableEq, Repr

structure Failed where
  words : List String
  outcome : Outcome
  deriving DecidableEq, Repr

def Failed.message (f : Failed) : String :=
  let complaint := Text.trim f.outcome.stderr
  "Command failed with exit code " ++ Number.intText f.outcome.code ++ ": " ++ line f.words
    ++ (if complaint = "" then "" else "\nstderr: " ++ complaint)

def Job.check (job : Job) (outcome : Outcome) : Except Failed Outcome :=
  if outcome.code = 0 then .ok outcome else .error ⟨job.words, outcome⟩

/-- Why a job came to no outcome: the system could not start it, there is no word to name the
program, a text holds the null character, a variable has no proper name, or what was written is no
UTF-8. -/
inductive Fault where
  | system (cause : FileSystem.Fault)
  | noProgram
  | nullCharacter
  | variableName
  | undecodable
  deriving DecidableEq, Repr

abbrev Answer := Except Fault Outcome

/-- What runs a job; it may change the files, also when it gives no outcome. -/
abbrev System := Job → FileSystem → Answer × FileSystem

theorem Job.check_eq_ok_iff {job : Job} {o r : Outcome} :
    job.check o = .ok r ↔ o.code = 0 ∧ r = o := by
  unfold check
  split
  next h => simp [h, eq_comm]
  next h => simp [h]

end BuildPipeline.Command
