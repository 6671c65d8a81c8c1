import BuildPipeline.Number.Decimal

set_option autoImplicit false

namespace BuildPipeline

inductive Level where
  | none
  | error
  | warning
  | info
  | debug
  deriving DecidableEq, Repr

namespace Level

def rank : Level → Nat
  | .none => 0
  | .error => 1
  | .warning => 2
  | .info => 3
  | .debug => 4

def name : Level → String
  | .none => "none"
  | .error => "error"
  | .warning => "warning"
  | .info => "info"
  | .debug => "debug"

def all : List Level :=
  [.none, .error, .warning, .info, .debug]

def ofName (s : String) : Level :=
  (all.find? (·.name = s)).getD .info

theorem ofName_name (level : Level) : ofName level.name = level := by
  cases level <;> rfl

end Level

structure Console where
  level : Level
  traced : Nat := 0
  printed : String := ""
  complained : String := ""
  deriving DecidableEq, Repr

namespace Console

def named (name : String) : Console :=
  { level := .ofName name }

def forDebug (debug : Bool) : Console :=
  { level := if debug then .debug else .info }

def lets (c : Console) (level : Level) : Bool :=
  level.rank ≤ c.level.rank

def debugEnabled (c : Console) : Bool :=
  c.lets .debug

def info (c : Console) (message : String) : Console :=
  if c.lets .info then { c with printed := c.printed ++ "[INFO] " ++ message ++ "\n" } else c

def warning (c : Console) (message : String) : Console :=
  if c.lets .warning then
    { c with complained := c.complained ++ "[WARNING] " ++ message ++ "\n" }
  else c

def error (c : Console) (message : String) : Console :=
  if c.lets .error then
    { c with complained := c.complained ++ "[ERROR] " ++ message ++ "\n" }
  else c

/-- Trace lines are numbered, those that are let through alone. -/
def debug (c : Console) (message : String) : Console :=
  if c.debugEnabled then
    { c with
      traced := c.traced + 1
      printed :=
        c.printed ++ "[DEBUG " ++ Number.natText (c.traced + 1) ++ "] " ++ message ++ "\n" }
  else c

def flushed (c : Console) : Console :=
  { c with printed := "", complained := "" }

theorem level_info (c : Console) (m : String) : (c.info m).level = c.level := by
  unfold info; split <;> rfl

theorem level_warning (c : Console) (m : String) : (c.warning m).level = c.level := by
  unfold warning; split <;> rfl

theorem level_error (c : Console) (m : String) : (c.error m).level = c.level := by
  unfold error; split <;> rfl

theorem level_debug (c : Console) (m : String) : (c.debug m).level = c.level := by
  unfold debug; split <;> rfl

end Console

end BuildPipeline
