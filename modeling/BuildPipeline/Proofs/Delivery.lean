import BuildPipeline.Proofs.SourceMap.Restitching
import BuildPipeline.Proofs.Transpile

set_option autoImplicit false

namespace BuildPipeline

open Value Sequencing

namespace SourceMap

variable {code other lead : String} {map : Mapping} {file : Option String}

theorem stitch_congr (same : body code.toList = body other.toList) {s : Stitched}
    (stitches : stitchMap code.toList map lead.toList file = .ok s) (console : Console) :
    stitch console code (.map map) lead file = stitch console other (.map map) lead file := by
  have again : stitchMap other.toList map lead.toList file = .ok s := by
    simpa only [stitchMap, same] using stitches
  simp only [stitch, stitch?, stitches, again]

theorem exists_isAcceptable_of_isSome (whole : MembersWhole map) {name : String} (named : name ≠ "")
    {console : Console} (accepted : (stitch console code (.map map) lead (some name)).1.map.isSome) :
    ∃ sources names lines, IsAcceptable map sources names lines := by
  simp only [stitch, stitch?] at accepted
  split at accepted
  next s stitches => exact (exists_stitchMap_iff whole named _ _).1 ⟨s, stitches⟩
  next => cases accepted

theorem exists_stitchMap_without (whole : MembersWhole map) {name : String} (named : name ≠ "")
    (acceptable : ∃ sources names lines, IsAcceptable map sources names lines)
    (code lead : List Char) : ∃ s, stitchMap code (map.without "maps") lead (some name) = .ok s := by
  have kept : MembersWhole (map.without "maps") := membersWhole_filter whole _
  rw [exists_stitchMap_iff kept named]
  simpa only [isAcceptable_without] using acceptable

end SourceMap

namespace Compiler

/-- An answer with this code and no errors, and with `map` in its member for the map, which is null
where there is no such member. -/
def Gives (answer : Command.Answer) (code : String) (map : Value) : Prop :=
  ∃ (o : Command.Outcome) (payload : Mapping), answer = .ok o ∧ o.code = 0 ∧
    Json.read o.stdout = .ok (.map payload) ∧ payload.member "code" = .str code ∧
    payload.member "sourceMap" = map ∧ (payload.member "errors").truthy = false

theorem errorTexts?_of_falsy {errors : Value} (falsy : errors.truthy = false) :
    errorTexts? errors = some [] := by
  cases errors with
  | list items => simpa [errorTexts?, truthy] using falsy
  | map members => simpa [errorTexts?, truthy] using falsy
  | str s => simpa [errorTexts?, truthy] using falsy
  | _ => simp [errorTexts?, falsy]

theorem exists_payload_of_gives {answer : Command.Answer} {code : String} {given : Value}
    (gives : Gives answer code given) : ∃ payload : Mapping, payload.member "sourceMap" = given ∧
      ∀ label job, conclude label job answer = .ok ⟨code, mapOf payload code⟩ := by
  obtain ⟨o, payload, rfl, ended, read, named, there, falsy⟩ := gives
  refine ⟨payload, there, fun label job => ?_⟩
  have checked : job.check o = .ok o := Command.Job.check_eq_ok_iff.2 ⟨ended, rfl⟩
  rw [conclude, readOutcome, checked]
  simp only [mapError_ok, ok_bind, read, readMembers, named, errorTexts?_of_falsy falsy]

theorem conclude_of_gives_map {answer : Command.Answer} {code : String} {map : Mapping}
    (gives : Gives answer code (.map map)) (label : String) (job : Command.Job) :
    conclude label job answer = .ok ⟨code, some map⟩ := by
  obtain ⟨payload, there, concludes⟩ := exists_payload_of_gives gives
  rw [concludes, mapOf, there]

theorem conclude_of_gives_null {answer : Command.Answer} {code : String}
    (gives : Gives answer code .null) (label : String) (job : Command.Job) :
    conclude label job answer = .ok ⟨code, SourceMap.readInlineMap code.toList⟩ := by
  obtain ⟨payload, there, concludes⟩ := exists_payload_of_gives gives
  rw [concludes, mapOf, there]

theorem exists_gives (code : String) (given : Value) (exact' : given.IsExact) :
    ∃ o : Command.Outcome, Gives (.ok o) code given := by
  let payload : Mapping := [(.str "code", .str code), (.str "sourceMap", given)]
  have whole : (Value.map payload).IsExact := by
    simp [payload, IsExact, MembersExact, Mapping.get?_cons_str, exact']
  obtain ⟨text, written⟩ := Json.exists_writeValue .compact whole.isJson
  refine ⟨{ stdout := String.ofList text }, _, payload, rfl, rfl, ?_, rfl, rfl, rfl⟩
  rw [Json.read, String.toList_ofList, Json.readAll_writeValue whole written]
  rfl

end Compiler

namespace Transpiler

open SourceMap

def sourceAt (t : Transpiler) (fs : FileSystem) (path : Path) : Path :=
  Path.relativeTo ⟨.root, fs.cwd⟩ path (t.workingDir.getD ⟨.root, fs.cwd⟩)

section

variable {t : Transpiler} {source output : Path} {options : Mapping} {map : Mapping}

theorem assemble_congr (whole : MembersWhole map) (named : output.name ≠ "")
    (acceptable : ∃ sources names lines, IsAcceptable map sources names lines)
    (on : options.member "sourceMap" ≠ .bool false) {code other : String}
    (same : body code.toList = body other.toList) (console : Console) :
    t.assemble console source output options ⟨code, some map⟩ =
      t.assemble console source output options ⟨other, some map⟩ := by
  obtain ⟨s, stitches⟩ := exists_stitchMap_without whole named acceptable code.toList
    (helperImport t.host.webModulesUrl).toList
  simp only [assemble, stitch_congr same stitches]

theorem isSome_map_assemble (whole : MembersWhole map) (named : output.name ≠ "")
    (acceptable : ∃ sources names lines, IsAcceptable map sources names lines)
    (on : options.member "sourceMap" ≠ .bool false) (code : String) (console : Console) :
    (t.assemble console source output options ⟨code, some map⟩).1.map.isSome := by
  obtain ⟨s, stitches⟩ := exists_stitchMap_without whole named acceptable code.toList
    (helperImport t.host.webModulesUrl).toList
  rw [assemble_of_on on rfl]
  simp only [stitch, stitch?, stitches, Option.isSome_some]

end

section

variable {t : Transpiler} {c : Compiler} {fs : FileSystem} {console : Console} {path output : Path}
  {run other : Command.Job → Command.Answer} {compiled compiled' : Compiled}

theorem transpile_congr (named : FileName.output? (t.sourceAt fs path) = some output)
    (gives : ∀ label job, Compiler.conclude label job (run job) = .ok compiled)
    (gives' : ∀ label job, Compiler.conclude label job (other job) = .ok compiled')
    (same : ∀ console,
      t.assemble console (t.sourceAt fs path) output (t.record (t.sourceAt fs path) output) compiled =
        t.assemble console (t.sourceAt fs path) output (t.record (t.sourceAt fs path) output)
          compiled') :
    t.transpile (c.compile run) fs console path = t.transpile (c.compile other) fs console path := by
  rw [sourceAt] at named same
  simp only [transpile, named]
  split
  · rfl
  next text read =>
    simp only [Compiler.compile]
    cases c.job text _ with
    | error fault => rfl
    | ok job => simp only [gives, gives', same]

theorem exists_unit_of_conclude (named : FileName.output? (t.sourceAt fs path) = some output)
    (gives : ∀ label job, Compiler.conclude label job (run job) = .ok compiled)
    {text : String} {job : Command.Job}
    (read : readSource fs (t.workingDir.getD ⟨.root, fs.cwd⟩) (t.sourceAt fs path) = .ok text)
    (asked : c.job text (t.record (t.sourceAt fs path) output) = .ok job) :
    ∃ console', (t.transpile (c.compile run) fs console path).unit =
      .ok (t.assemble console' (t.sourceAt fs path) output
        (t.record (t.sourceAt fs path) output) compiled).1 := by
  rw [sourceAt] at named read asked ⊢
  simp only [transpile, named, read, Compiler.compile, asked, gives]
  exact ⟨_, rfl⟩

end

/-- However the compiler delivers a map that the stitcher accepts for the file put out, the same
comes of it; and that has a map, if the source can be read and the request be written. -/
theorem transpile_eq_of_gives (t : Transpiler) (c : Compiler) (fs : FileSystem) (console : Console)
    (path : Path) {output : Path} (named : FileName.output? (t.sourceAt fs path) = some output)
    (on : (t.record (t.sourceAt fs path) output).member "sourceMap" ≠ .bool false)
    {map : Mapping} (whole : MembersWhole map) {comment : List Char}
    (written : mapComment map = .ok comment) {elsewhere : Console} {code lead : String}
    (accepted : (stitch elsewhere code (.map map) lead (some output.name)).1.map.isSome)
    {body : String} {inAnswer behind both : Command.Job → Command.Answer}
    (answers : ∀ job, Compiler.Gives (inAnswer job) body (.map map))
    (holds : ∀ job, Compiler.Gives (behind job) (body ++ "\n" ++ String.ofList comment) .null)
    (doubles : ∀ job,
      Compiler.Gives (both job) (body ++ "\n" ++ String.ofList comment) (.map map)) :
    t.transpile (c.compile inAnswer) fs console path =
      t.transpile (c.compile behind) fs console path ∧
    t.transpile (c.compile inAnswer) fs console path =
      t.transpile (c.compile both) fs console path ∧
    ∀ text job,
      readSource fs (t.workingDir.getD ⟨.root, fs.cwd⟩) (t.sourceAt fs path) = .ok text →
      c.job text (t.record (t.sourceAt fs path) output) = .ok job →
      ∃ unit, (t.transpile (c.compile inAnswer) fs console path).unit = .ok unit ∧
        unit.map.isSome := by
  have nonempty := FileName.name_ne_empty_of_output? named
  have acceptable := exists_isAcceptable_of_isSome whole nonempty accepted
  obtain ⟨json, wrote, -⟩ := bind_eq_ok_iff.1 written
  have exact' : (Value.map map).IsExact :=
    IsWhole.isExact (v := .map map) whole (Json.isTooLong_of_writeValue _ json wrote)
  have code' : (body ++ "\n" ++ String.ofList comment).toList = body.toList ++ '\n' :: comment := by
    simp
  -- The comment read back is the map, and taken out again it leaves the body of the code.
  have reads : readInlineMap (body ++ "\n" ++ String.ofList comment).toList = some map := by
    obtain ⟨comment', written', reads⟩ := readInlineMap_mapComment exact' body.toList
    cases written.symm.trans written'
    rw [code', reads]
  have same : SourceMap.body body.toList =
      SourceMap.body (body ++ "\n" ++ String.ofList comment).toList := by
    rw [code', body_comment written]
  have first label job := Compiler.conclude_of_gives_map (answers job) label job
  have second label job := Compiler.conclude_of_gives_null (holds job) label job
  have third label job := Compiler.conclude_of_gives_map (doubles job) label job
  simp only [reads] at second
  refine ⟨transpile_congr named first second (assemble_congr whole nonempty acceptable on same),
    transpile_congr named first third (assemble_congr whole nonempty acceptable on same),
    fun text job read asked => ?_⟩
  obtain ⟨console', returns⟩ := exists_unit_of_conclude named first read asked
  exact ⟨_, returns, isSome_map_assemble whole nonempty acceptable on body console'⟩

theorem transpile_eq_of_gives_unfinished :
    ∃ (comment : List Char) (inAnswer behind both : Command.Outcome),
      mapComment mappedMap = .ok comment ∧
      Compiler.Gives (.ok inAnswer) "a;/*# sourceMappingURL=x\n//# \n\n" (.map mappedMap) ∧
      Compiler.Gives (.ok behind)
        ("a;/*# sourceMappingURL=x\n//# \n\n" ++ "\n" ++ String.ofList comment) .null ∧
      Compiler.Gives (.ok both)
        ("a;/*# sourceMappingURL=x\n//# \n\n" ++ "\n" ++ String.ofList comment) (.map mappedMap) ∧
      ∃ unit, transpiled (Compiler.compile {} fun _ => .ok inAnswer) = .ok unit ∧
        unit.map.isSome ∧
        transpiled (Compiler.compile {} fun _ => .ok behind) = .ok unit ∧
        transpiled (Compiler.compile {} fun _ => .ok both) = .ok unit := by
  have whole : MembersWhole mappedMap := membersWhole_mappedCode rfl
  have short : (Value.map mappedMap).isTooLong = false := by decide +kernel
  have exact' : (Value.map mappedMap).IsExact := IsWhole.isExact (v := .map mappedMap) whole short
  obtain ⟨comment, written, -⟩ := readInlineMap_mapComment exact' []
  obtain ⟨inAnswer, answers⟩ :=
    Compiler.exists_gives "a;/*# sourceMappingURL=x\n//# \n\n" (.map mappedMap) exact'
  obtain ⟨behind, holds⟩ := Compiler.exists_gives
    ("a;/*# sourceMappingURL=x\n//# \n\n" ++ "\n" ++ String.ofList comment) .null trivial
  obtain ⟨both, doubles⟩ := Compiler.exists_gives
    ("a;/*# sourceMappingURL=x\n//# \n\n" ++ "\n" ++ String.ofList comment) (.map mappedMap) exact'
  have named : FileName.output? (plainTranspiler.sourceAt oneSource ⟨.relative, ["a.imba"]⟩) =
      some ⟨.relative, ["a.js"]⟩ := by decide +kernel
  have accepted : (stitch (.named "none") "" (.map mappedMap) ""
      (some (Path.name ⟨.relative, ["a.js"]⟩))).1.map.isSome := by decide +kernel
  obtain ⟨second, third, returns⟩ := transpile_eq_of_gives plainTranspiler {} oneSource (.named "none")
    ⟨.relative, ["a.imba"]⟩ named (by decide +kernel) whole written accepted (fun _ => answers)
    (fun _ => holds) (fun _ => doubles)
  refine ⟨comment, inAnswer, behind, both, written, answers, holds, doubles, ?_⟩
  cases asked : Compiler.job {} "" (plainTranspiler.record
      (plainTranspiler.sourceAt oneSource ⟨.relative, ["a.imba"]⟩) ⟨.relative, ["a.js"]⟩) with
  | error fault =>
    have wrote : (Compiler.job {} "" (plainTranspiler.record
        (plainTranspiler.sourceAt oneSource ⟨.relative, ["a.imba"]⟩)
        ⟨.relative, ["a.js"]⟩)).toOption.isSome := by decide +kernel
    simp [asked, Except.toOption] at wrote
  | ok job =>
    obtain ⟨unit, returned, mapped⟩ := returns "" job (by decide +kernel) asked
    exact ⟨unit, returned, mapped, (congrArg Transpiled.unit second).symm.trans returned,
      (congrArg Transpiled.unit third).symm.trans returned⟩

end Transpiler

end BuildPipeline
