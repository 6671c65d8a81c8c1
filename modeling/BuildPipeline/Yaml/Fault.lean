import BuildPipeline.Number.Reading
import BuildPipeline.Value.Basic
import BuildPipeline.Value.Moment

set_option autoImplicit false

namespace BuildPipeline.Yaml

inductive ScalarFault where
  | codeOutOfRange
  | whole (cause : Number.WholeFault)
  | notNumber (text : List Char)
  | year (n : Nat)
  | month
  | day
  | hour
  | minute
  | second
  | offset (minutes : Int)
  deriving DecidableEq, Repr

def ScalarFault.message : ScalarFault → String
  | .codeOutOfRange => "chr() arg not in range(0x110000)"
  | .whole cause => cause.message
  | .notNumber text => "could not convert string to float: " ++ String.ofList (Text.quotedChars text)
  | .year n => "year " ++ Number.natText n ++ " is out of range"
  | .month => "month must be in 1..12"
  | .day => "day is out of range for month"
  | .hour => "hour must be in 0..23"
  | .minute => "minute must be in 0..59"
  | .second => "second must be in 0..59"
  | .offset minutes =>
    "offset must be a timedelta strictly between -timedelta(hours=24) and timedelta(hours=24), not "
      ++ spanQuoted minutes ++ "."

/-- What the form of a text rules out, unless an escape or a tag of its own asks for it. -/
inductive Misfit where
  | noCharacter
  | notTruthWord (word : String)
  | notMoment
  | codeTooLarge
  | tooManyParts
  deriving DecidableEq, Repr

def Misfit.message : Misfit → String
  | .noCharacter => "string index out of range"
  | .notTruthWord word => Text.quoted word
  | .notMoment => "not a date or a time"
  | .codeTooLarge => "Python int too large to convert to C int"
  | .tooManyParts => "int too large to convert to float"

inductive Fault where
  | malformed
  | scalar (cause : ScalarFault)
  | mappingForMoment
  | misfit (cause : Misfit)
  deriving DecidableEq, Repr

def Fault.message : Fault → String
  | .malformed => "<yaml error>"
  | .scalar cause => cause.message
  | .mappingForMoment => "expected string or bytes-like object, got 'list'"
  | .misfit cause => cause.message

/-- What reads a text of YAML; one without a document is null. -/
abbrev Reader := List Char → Except Fault Value

end BuildPipeline.Yaml
