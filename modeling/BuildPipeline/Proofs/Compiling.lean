import BuildPipeline.Proofs.Delivery

set_option autoImplicit false

namespace BuildPipeline

open Value Sequencing

def CompileFault.IsReported : CompileFault → Prop
  | .system _ | .failed .. | .unreadable .. | .noCode _ | .rejected .. => True
  | .unwritable _ | .unanswered _ | .shapelessErrors _ => False

namespace Compiler

def HasCode (answer : Command.Answer) (payload : Mapping) (code : String) : Prop :=
  ∃ o : Command.Outcome, answer = .ok o ∧ o.code = 0 ∧ Json.read o.stdout = .ok (.map payload) ∧
    payload.member "code" = .str code

def IsIterable : Value → Prop
  | .list _ | .map _ | .str _ => True
  | _ => False

theorem errorTexts?_eq_none_iff {errors : Value} :
    errorTexts? errors = none ↔ errors.truthy = true ∧ ¬ IsIterable errors := by
  cases errors <;> simp [errorTexts?, IsIterable]

theorem errorTexts?_eq_nil_iff {errors : Value} :
    errorTexts? errors = some [] ↔ errors.truthy = false := by
  refine ⟨fun none => ?_, errorTexts?_of_falsy⟩
  cases errors with
  | list items => simpa [errorTexts?, truthy] using none
  | map members => simpa [errorTexts?, truthy] using none
  | str s => simpa [errorTexts?, truthy] using none
  | _ => simpa [errorTexts?] using none

variable {label : String} {payload : Mapping} {compiled : Compiled} {kind : String}

theorem readMembers_eq_ok_iff :
    readMembers label payload = .ok compiled ↔ ∃ code, payload.member "code" = .str code ∧
      (payload.member "errors").truthy = false ∧ compiled = ⟨code, mapOf payload code⟩ := by
  constructor
  · intro read
    unfold readMembers at read
    split at read
    next code named =>
      split at read <;> cases read
      next none => exact ⟨code, named, errorTexts?_eq_nil_iff.1 none, rfl⟩
    next => cases read
  · rintro ⟨code, named, falsy, rfl⟩
    simp only [readMembers, named, errorTexts?_of_falsy falsy]

theorem readMembers_eq_shapeless_iff :
    readMembers label payload = .error (.shapelessErrors kind) ↔
      ∃ code, payload.member "code" = .str code ∧ (payload.member "errors").truthy = true ∧
        ¬ IsIterable (payload.member "errors") ∧ kind = (payload.member "errors").kind := by
  constructor
  · intro read
    unfold readMembers at read
    split at read
    next code named =>
      split at read <;> cases read
      next shapeless =>
        obtain ⟨there, other⟩ := errorTexts?_eq_none_iff.1 shapeless
        exact ⟨code, named, there, other, rfl⟩
    next => cases read
  · rintro ⟨code, named, there, other, rfl⟩
    simp only [readMembers, named, errorTexts?_eq_none_iff.2 ⟨there, other⟩]

theorem isReported_of_readMembers {fault : CompileFault}
    (failed : readMembers label payload = .error fault) :
    fault.IsReported ∨ ∃ kind, fault = .shapelessErrors kind := by
  unfold readMembers at failed
  split at failed
  · split at failed <;> cases failed
    · exact .inr ⟨_, rfl⟩
    · exact .inl trivial
  · cases failed
    exact .inl trivial

variable {job : Command.Job} {answer : Command.Answer}

def IsOutcome (answer : Command.Answer) : Prop :=
  (∃ o, answer = .ok o) ∨ ∃ cause, answer = .error (.system cause)

theorem conclude_of_map {o : Command.Outcome} (ended : o.code = 0)
    (read : Json.read o.stdout = .ok (.map payload)) :
    conclude label job (.ok o) = readMembers label payload := by
  have checked : job.check o = .ok o := Command.Job.check_eq_ok_iff.2 ⟨ended, rfl⟩
  simp only [conclude, readOutcome, checked, mapError_ok, ok_bind, read]

theorem conclude_cases (outcome : IsOutcome answer) (label : String) (job : Command.Job) :
    (∃ (o : Command.Outcome) (payload : Mapping), answer = .ok o ∧ o.code = 0 ∧
      Json.read o.stdout = .ok (.map payload) ∧
      conclude label job answer = readMembers label payload) ∨
    ∃ fault, conclude label job answer = .error fault ∧ fault.IsReported := by
  obtain ⟨o, rfl⟩ | ⟨cause, rfl⟩ := outcome
  · by_cases ended : o.code = 0
    · have checked : job.check o = .ok o := Command.Job.check_eq_ok_iff.2 ⟨ended, rfl⟩
      cases read : Json.read o.stdout with
      | error cause =>
        refine .inr ⟨.unreadable label cause, ?_, trivial⟩
        simp only [conclude, readOutcome, checked, mapError_ok, ok_bind, read]
        rfl
      | ok v =>
        -- Only an object has members to look at.
        by_cases object : ∃ payload, v = .map payload
        · obtain ⟨payload, rfl⟩ := object
          exact .inl ⟨o, payload, rfl, ended, read, conclude_of_map ended read⟩
        · refine .inr ⟨.noCode label, ?_, trivial⟩
          simp only [conclude, readOutcome, checked, mapError_ok, ok_bind, read]
          cases v <;> first | rfl | exact absurd ⟨_, rfl⟩ object
    · refine .inr ⟨.failed label ⟨job.words, o⟩, ?_, trivial⟩
      simp only [conclude, readOutcome, Command.Job.check, if_neg ended]
      rfl
  · exact .inr ⟨.system cause, rfl, trivial⟩

theorem conclude_eq_ok_iff (outcome : IsOutcome answer) :
    conclude label job answer = .ok compiled ↔ ∃ payload code, HasCode answer payload code ∧
      (payload.member "errors").truthy = false ∧ compiled = ⟨code, mapOf payload code⟩ := by
  constructor
  · intro concluded
    obtain ⟨o, payload, rfl, ended, read, same⟩ | ⟨fault, failed, -⟩ :=
      conclude_cases outcome label job
    · rw [same] at concluded
      obtain ⟨code, named, falsy, rfl⟩ := readMembers_eq_ok_iff.1 concluded
      exact ⟨payload, code, ⟨o, rfl, ended, read, named⟩, falsy, rfl⟩
    · rw [failed] at concluded
      cases concluded
  · rintro ⟨payload, code, ⟨o, rfl, ended, read, named⟩, falsy, rfl⟩
    rw [conclude_of_map ended read]
    exact readMembers_eq_ok_iff.2 ⟨code, named, falsy, rfl⟩

theorem conclude_eq_shapeless_iff (outcome : IsOutcome answer) :
    conclude label job answer = .error (.shapelessErrors kind) ↔
      ∃ payload code, HasCode answer payload code ∧ (payload.member "errors").truthy = true ∧
        ¬ IsIterable (payload.member "errors") ∧ kind = (payload.member "errors").kind := by
  constructor
  · intro concluded
    obtain ⟨o, payload, rfl, ended, read, same⟩ | ⟨fault, failed, told⟩ :=
      conclude_cases outcome label job
    · rw [same] at concluded
      obtain ⟨code, named, shapeless⟩ := readMembers_eq_shapeless_iff.1 concluded
      exact ⟨payload, code, ⟨o, rfl, ended, read, named⟩, shapeless⟩
    · rw [failed] at concluded
      cases concluded
      exact told.elim
  · rintro ⟨payload, code, ⟨o, rfl, ended, read, named⟩, shapeless⟩
    rw [conclude_of_map ended read]
    exact readMembers_eq_shapeless_iff.2 ⟨code, named, shapeless⟩

theorem isReported_of_conclude (outcome : IsOutcome answer) {fault : CompileFault}
    (failed : conclude label job answer = .error fault) :
    fault.IsReported ∨ ∃ kind, fault = .shapelessErrors kind := by
  obtain ⟨o, payload, rfl, ended, read, same⟩ | ⟨other, failed', told⟩ :=
    conclude_cases outcome label job
  · exact isReported_of_readMembers (same.symm.trans failed)
  · cases failed'.symm.trans failed
    exact .inl told

theorem exists_job {options : Mapping} {text : String}
    (written : Json.write .spaced (.map options) = .ok text) (c : Compiler) (source : String) :
    ∃ job, c.job source options = .ok job := by
  obtain ⟨chars, own, -⟩ := map_eq_ok_iff.1 written
  have members : ∃ parts, Json.writeMembers .spaced
      [(.str "source", .str source), (.str "options", .map options)] = .ok parts := by
    simp only [Json.exists_writeMembers_cons_iff]
    exact ⟨⟨_, rfl⟩, ⟨_, rfl⟩, ⟨_, rfl⟩, ⟨chars, own⟩, _, rfl⟩
  obtain ⟨parts, members⟩ := members
  simp only [job, request, Json.write, Json.writeValue, members]
  exact ⟨_, rfl⟩

/-- If the options can be written, the job is run. What is compiled is the code of an answer that
has no errors, and where nothing is compiled an error is reported, unless the errors of an answer
with code cannot be gone through. -/
theorem compile_eq_ok_iff (c : Compiler) (source : String) {options : Mapping} {text : String}
    (written : Json.write .spaced (.map options) = .ok text) (run : Command.Job → Command.Answer)
    (outcome : ∀ job, IsOutcome (run job)) :
    ∃ job, c.job source options = .ok job ∧ (c.compile run source options).2 = some job ∧
      (∀ compiled, (c.compile run source options).1 = .ok compiled ↔
        ∃ payload code, HasCode (run job) payload code ∧
          (payload.member "errors").truthy = false ∧ compiled = ⟨code, mapOf payload code⟩) ∧
      (∀ fault, (c.compile run source options).1 = .error fault →
        fault.IsReported ∨ ∃ kind, fault = .shapelessErrors kind) ∧
      ∀ kind, (c.compile run source options).1 = .error (.shapelessErrors kind) ↔
        ∃ payload code, HasCode (run job) payload code ∧ (payload.member "errors").truthy = true ∧
          ¬ IsIterable (payload.member "errors") ∧ kind = (payload.member "errors").kind := by
  obtain ⟨job, asked⟩ := exists_job written c source
  have ran : c.compile run source options = (conclude (label options) job (run job), some job) := by
    simp only [compile, asked]
  refine ⟨job, asked, by rw [ran], fun compiled => ?_, fun fault failed => ?_, fun kind => ?_⟩
  · rw [ran]
    exact conclude_eq_ok_iff (outcome job)
  · rw [ran] at failed
    exact isReported_of_conclude (outcome job) failed
  · rw [ran]
    exact conclude_eq_shapeless_iff (outcome job)

def countedErrors : Command.Outcome where
  stdout := "\x7b\"code\":\"a\",\"errors\":1\x7d"

def countedPayload : Mapping :=
  [(.str "code", .str "a"), (.str "errors", .int 1)]

theorem compile_eq_ok_iff_countedErrors :
    (Compiler.compile {} (fun _ => .ok Transpiler.mappedAnswer) "tag app" []).1 =
      .ok Transpiler.mappedCode ∧
    (Compiler.compile {} (fun _ => .ok countedErrors) "tag app" []).1 =
      .error (.shapelessErrors "int") := by
  have written : Json.write .spaced (.map []) = .ok "\x7b\x7d" := by decide +kernel
  have mapped : Json.read Transpiler.mappedAnswer.stdout =
      .ok (.map [(.str "code", .str "a;\n"), (.str "sourceMap", .map Transpiler.mappedMap)]) := by
    decide +kernel
  have counted : Json.read countedErrors.stdout = .ok (.map countedPayload) := by decide +kernel
  obtain ⟨_, -, -, returns, -⟩ := compile_eq_ok_iff {} "tag app" written
    (fun _ => .ok Transpiler.mappedAnswer) fun _ => .inl ⟨_, rfl⟩
  obtain ⟨_, -, -, -, -, shapeless⟩ := compile_eq_ok_iff {} "tag app" written
    (fun _ => .ok countedErrors) fun _ => .inl ⟨_, rfl⟩
  exact ⟨(returns _).2 ⟨_, _, ⟨_, rfl, rfl, mapped, rfl⟩, rfl, rfl⟩,
    (shapeless _).2 ⟨_, _, ⟨_, rfl, rfl, counted, rfl⟩, rfl, id, rfl⟩⟩

end Compiler

end BuildPipeline
