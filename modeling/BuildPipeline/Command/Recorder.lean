import BuildPipeline.Command.Basic

set_option autoImplicit false

namespace BuildPipeline.Command

structure Recorder where
  outcomes : List Outcome := []
  jobs : List Job := []
  deriving DecidableEq, Repr

namespace Recorder

def next (r : Recorder) : Outcome :=
  r.outcomes.headD {}

def noted (r : Recorder) (job : Job) : Recorder :=
  ⟨r.outcomes.tail, r.jobs ++ [job]⟩

def notedAny (r : Recorder) : Option Job → Recorder
  | none => r
  | some job => r.noted job

def run (r : Recorder) (job : Job) : Outcome × Recorder :=
  (r.next, r.noted job)

def formattedJob (job : Job) : String :=
  Text.join " " (["[recorded]"]
    ++ (job.cwd.map fun cwd => "(cwd=" ++ cwd.text ++ ")").toList ++ [line job.words])

def formatted (r : Recorder) : List String :=
  r.jobs.map formattedJob

theorem jobs_run (r : Recorder) (job : Job) : (r.run job).2.jobs = r.jobs ++ [job] := rfl

end Recorder

end BuildPipeline.Command
