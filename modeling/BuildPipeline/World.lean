import BuildPipeline.Console
import BuildPipeline.FileSystem.Access

set_option autoImplicit false

namespace BuildPipeline

structure World where
  files : FileSystem
  console : Console
  deriving DecidableEq, Repr

namespace World

def debug (w : World) (message : String) : World :=
  { w with console := w.console.debug message }

def warning (w : World) (message : String) : World :=
  { w with console := w.console.warning message }

def error (w : World) (message : String) : World :=
  { w with console := w.console.error message }

@[simp] theorem files_debug (w : World) (message : String) : (w.debug message).files = w.files := rfl

@[simp] theorem files_warning (w : World) (message : String) :
    (w.warning message).files = w.files := rfl

@[simp] theorem files_error (w : World) (message : String) : (w.error message).files = w.files := rfl

end World

end BuildPipeline
