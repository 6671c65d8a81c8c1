import BuildPipeline.Command.Basic
import BuildPipeline.Json.Reader
import BuildPipeline.Json.Writer
import BuildPipeline.SourceMap.InlineMap

set_option autoImplicit false

namespace BuildPipeline

def compilerScript : String :=
  "\nconst compiler = require(process.env.IMBAPACK_COMPILER);\n"
  ++ "let input = '';\n"
  ++ "process.stdin.setEncoding('utf8');\n"
  ++ "process.stdin.on('data', (chunk) => \x7b input += chunk; \x7d);\n"
  ++ "process.stdin.on('end', () => \x7b\n"
  ++ "  const request = JSON.parse(input);\n"
  ++ "  const result = compiler.compile(request.source, request.options);\n"
  ++ "  const errors = (result.errors || []).map((e) => String((e && e.message) || e));\n"
  ++ "  process.stdout.write(JSON.stringify(\x7b\n"
  ++ "    code: result.js,\n"
  ++ "    sourceMap: result.sourcemap || null,\n"
  ++ "    errors: errors,\n"
  ++ "  \x7d));\n"
  ++ "\x7d);\n"

structure Compiled where
  code : String
  map : Option Mapping
  deriving DecidableEq, Repr

-- Why nothing was compiled. `label` names the source in messages.
inductive CompileFault where
  | unwritable (cause : Json.WriteError)
  | system (cause : FileSystem.Fault)
  | unanswered (cause : Command.Fault)
  | failed (label : String) (cause : Command.Failed)
  | unreadable (label : String) (cause : Json.ReadError)
  | noCode (label : String)
  | rejected (label : String) (messages : List String)
  | shapelessErrors (kind : String)
  deriving DecidableEq, Repr

def CompileFault.message : CompileFault → String
  | .unwritable cause => cause.message
  | .system cause => "Cannot start the Imba compiler: " ++ cause.message
  | .unanswered _ => "Cannot run the Imba compiler"
  | .failed label cause => "Imba compiler failed for " ++ label ++ ": " ++ cause.message
  | .unreadable label cause =>
    "Imba compiler returned invalid output for " ++ label ++ ": " ++ cause.message
  | .noCode label => "Imba compiler returned no code for " ++ label
  | .rejected label messages => label ++ ": " ++ Text.join "\n" messages
  | .shapelessErrors kind => "'" ++ kind ++ "' object is not iterable"

/-- What a stage asks of any compiler: code for a source text and its options. A job that was run for
it is told beside. -/
abbrev Compile := String → Mapping → Except CompileFault Compiled × Option Command.Job

structure Compiler where
  node : List String := ["node"]
  moduleName : String := "imba/dist/compiler.js"
  cwd : Option Path := none
  deriving DecidableEq, Repr

namespace Compiler

def label (options : Mapping) : String :=
  if (options.member "sourcePath").truthy then (options.member "sourcePath").text
  else if (options.member "filename").truthy then (options.member "filename").text
  else "<source>"

def request (source : String) (options : Mapping) : Value :=
  .map [(.str "source", .str source), (.str "options", .map options)]

def words (c : Compiler) : List String :=
  c.node ++ ["-e", compilerScript]

def job (c : Compiler) (source : String) (options : Mapping) : Except CompileFault Command.Job := do
  let text ← (Json.write .spaced (request source options)).mapError .unwritable
  .ok { words := c.words, cwd := c.cwd, env := [("IMBAPACK_COMPILER", c.moduleName)],
        input := some text }

/-- The errors of an answer, one message each; of a text every character counts as one. -/
def errorTexts? : Value → Option (List String)
  | .list items => some (items.map Value.text)
  | .map members => some (members.map (·.1.text))
  | .str s => some (s.toList.map (String.ofList [·]))
  | v => if v.truthy then none else some []

def mapOf (payload : Mapping) (code : String) : Option Mapping :=
  match payload.member "sourceMap" with
  | .map members => some members
  | _ => SourceMap.readInlineMap code.toList

def readMembers (label : String) (payload : Mapping) : Except CompileFault Compiled :=
  match payload.member "code" with
  | .str code =>
    match errorTexts? (payload.member "errors") with
    | none => .error (.shapelessErrors (payload.member "errors").kind)
    | some [] => .ok ⟨code, mapOf payload code⟩
    | some messages => .error (.rejected label messages)
  | _ => .error (.noCode label)

def readOutcome (label : String) (job : Command.Job) (o : Command.Outcome) :
    Except CompileFault Compiled := do
  let o ← (job.check o).mapError (.failed label)
  match ← (Json.read o.stdout).mapError (.unreadable label) with
  | .map payload => readMembers label payload
  | _ => .error (.noCode label)

def conclude (label : String) (job : Command.Job) : Command.Answer → Except CompileFault Compiled
  | .ok o => readOutcome label job o
  | .error (.system cause) => .error (.system cause)
  | .error cause => .error (.unanswered cause)

def compile (c : Compiler) (run : Command.Job → Command.Answer) : Compile := fun source options =>
  match c.job source options with
  | .error fault => (.error fault, none)
  | .ok job => (conclude (label options) job (run job), some job)

end Compiler

end BuildPipeline
