import BuildPipeline.Number.Decimal
import BuildPipeline.Text.Quoted

set_option autoImplicit false

namespace BuildPipeline.FileSystem

inductive Cause where
  | missing
  | busy
  | alreadyThere
  | notDirectory
  | isDirectory
  | invalid
  | nameTooLong
  | notEmpty
  | tooManyLinks
  deriving DecidableEq, Repr

def Cause.number : Cause → Nat
  | .missing => 2
  | .busy => 16
  | .alreadyThere => 17
  | .notDirectory => 20
  | .isDirectory => 21
  | .invalid => 22
  | .nameTooLong => 36
  | .notEmpty => 39
  | .tooManyLinks => 40

def Cause.text : Cause → String
  | .missing => "No such file or directory"
  | .busy => "Device or resource busy"
  | .alreadyThere => "File exists"
  | .notDirectory => "Not a directory"
  | .isDirectory => "Is a directory"
  | .invalid => "Invalid argument"
  | .nameTooLong => "File name too long"
  | .notEmpty => "Directory not empty"
  | .tooManyLinks => "Too many levels of symbolic links"

structure Fault where
  cause : Cause
  path : String
  destination : Option String := none
  deriving DecidableEq, Repr

def Fault.message (f : Fault) : String :=
  "[Errno " ++ Number.natText f.cause.number ++ "] " ++ f.cause.text ++ ": " ++ Text.quoted f.path
    ++ (match f.destination with
        | none => ""
        | some d => " -> " ++ Text.quoted d)

end BuildPipeline.FileSystem
