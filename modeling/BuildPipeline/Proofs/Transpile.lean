import BuildPipeline.Proofs.Path.Text
import BuildPipeline.Proofs.SourceMap.Acceptance
import BuildPipeline.Transpile

set_option autoImplicit false

namespace BuildPipeline

open Value

namespace FileName

theorem j_mem_of_replaceSourceSuffix? {cs replaced : List Char}
    (found : replaceSourceSuffix? cs = some replaced) : 'j' ∈ replaced := by
  have js : 'j' ∈ outputSuffix := by decide
  rw [replaceSourceSuffix?] at found
  split at found
  · obtain ⟨stem, -, rfl⟩ := Option.map_eq_some_iff.1 found
    simp [js]
  · obtain ⟨stem, -, rfl⟩ := Option.map_eq_some_iff.1 found
    simp [js]

theorem name_ne_empty_of_output? {source output : Path} (found : output? source = some output) :
    output.name ≠ "" := by
  rw [output?] at found
  split at found
  next replaced suffixed =>
    cases found
    have js := j_mem_of_replaceSourceSuffix? suffixed
    exact Path.name_ofText_ne_empty (by rwa [String.toList_ofList]) (by decide : 'j' ≠ '/') (by decide)
  next =>
    rw [Path.withSuffix?] at found
    split at found
    · cases found
    · cases found
      simp [Path.child, Path.name, outputSuffix]

end FileName

theorem getLast?_helperImport (url : String) : (helperImport url).toList.getLast? = some '\n' := by
  rw [helperImport, String.toList_append, List.getLast?_append]
  rfl

namespace Transpiler

open SourceMap

/-- A map that agrees with the code that it comes with: the code holds it, it is for the file that
the unit is put out to, and its lines are those of the compiler's map, moved down past `lead`. -/
structure IsMapped (lead code : String) (map : Mapping) (unit : CompiledUnit) (stitched : Mapping) :
    Prop where
  held : readInlineMap unit.code.toList = some stitched
  file : stitched.get? (.str "file") = some (.str unit.output.name)
  noMaps : stitched.get? (.str "maps") = none
  lines : ∃ sources names lines text, IsAcceptable map sources names lines ∧
    stitched.get? (.str "sources") = some (.list sources) ∧
    stitched.get? (.str "names") = some (.list names) ∧
    stitched.get? (.str "mappings") = some (.str text) ∧
    Lines.read ⟨sources.length, names.length⟩ text.toList =
      .ok (List.replicate (lead.toList.count '\n') [] ++
        lines.take ((body code.toList).count '\n' + 1))

/-- How a unit goes with what the compiler was told and what it gave. -/
structure IsCoherent (lead : String) (options : Mapping) (compiled : Compiled)
    (unit : CompiledUnit) : Prop where
  starts : ∃ rest, unit.code = lead ++ rest
  plain : unit.map = none → unit.code = lead ++ compiled.code
  mapped : ∀ stitched, unit.map = some stitched →
    ∃ map, compiled.map = some map ∧ IsMapped lead compiled.code map unit stitched
  unmapped : unit.map = none ↔ options.member "sourceMap" = .bool false ∨ compiled.map = none ∨
    ∃ map, compiled.map = some map ∧ ¬ ∃ sources names lines, IsAcceptable map sources names lines

section

variable {t : Transpiler} {console : Console} {source output : Path} {options : Mapping}
  {compiled : Compiled} {map : Mapping}

theorem source_assemble :
    (t.assemble console source output options compiled).1.source = source := by
  rw [assemble]
  split <;> rfl

theorem output_assemble :
    (t.assemble console source output options compiled).1.output = output := by
  rw [assemble]
  split <;> rfl

theorem assemble_of_off
    (off : options.member "sourceMap" = .bool false ∨ compiled.map = none) :
    (t.assemble console source output options compiled).1 =
      ⟨source, output, helperImport t.host.webModulesUrl ++ compiled.code, none⟩ := by
  rcases off with off | none
  · simp only [assemble, off]
  · simp only [assemble, none]
    split
    · rfl
    · rfl
    next given _ => cases given

theorem assemble_of_on (on : options.member "sourceMap" ≠ .bool false)
    (given : compiled.map = some map) :
    (t.assemble console source output options compiled).1 =
      let stitched := (stitch console compiled.code (.map (map.without "maps"))
        (helperImport t.host.webModulesUrl) (some output.name)).1
      ⟨source, output, stitched.code, stitched.map⟩ := by
  simp only [assemble, given]

theorem isCoherent_of_off {unit : CompiledUnit} {lead : String}
    (off : options.member "sourceMap" = .bool false ∨ compiled.map = none)
    (plain : unit.map = none ∧ unit.code = lead ++ compiled.code) :
    IsCoherent lead options compiled unit where
  starts := ⟨compiled.code, plain.2⟩
  plain := fun _ => plain.2
  mapped := fun stitched given => by simp [plain.1] at given
  unmapped := ⟨fun _ => off.elim .inl (.inr ∘ .inl), fun _ => plain.1⟩

theorem isMapped_of_stitchMap {unit : CompiledUnit} {lead code : String} {s : Stitched}
    (whole : MembersWhole map) (named : unit.output.name ≠ "")
    (ends : lead.toList.getLast? = some '\n')
    (stitches : stitchMap code.toList (map.without "maps") lead.toList (some unit.output.name) = .ok s)
    (code' : unit.code = String.ofList s.code) : IsMapped lead code map unit s.map := by
  have kept : MembersWhole (map.without "maps") := membersWhole_filter whole _
  obtain ⟨p, lines, comment, acceptable, file, written, text, same⟩ :=
    isAcceptable_of_stitchMap named stitches
  obtain ⟨mappings, -, decoded⟩ := acceptable.mappings
  -- The comment at the end of the code is read back to the very map that it was written from.
  have exact' := acceptable.isExact kept (stitchLines lead.toList (body code.toList) lines)
  rw [same] at written ⊢
  obtain ⟨comment', written', read⟩ := readInlineMap_mapComment exact' (lead.toList ++ body code.toList)
  cases written.symm.trans written'
  refine ⟨?_, ?_, ?_, p.sources, p.names, lines, _, isAcceptable_without.1 acceptable, ?_, ?_,
    get?_stitchedMap .., ?_⟩
  · rw [code', text, String.toList_ofList, read]
  · simp [get?_stitchedMap, file, Value.text]
  · simp [get?_stitchedMap]
  · simp [get?_stitchedMap]
  · simp [get?_stitchedMap]
  · rw [String.toList_ofList, read_write_stitchLines decoded,
      stitchLines_of_lastLine (lastLine_of_getLast? ends)]

theorem isCoherent_assemble (named : output.name ≠ "")
    (whole : ∀ map, compiled.map = some map → MembersWhole map) :
    IsCoherent (helperImport t.host.webModulesUrl) options compiled
      (t.assemble console source output options compiled).1 := by
  by_cases off : options.member "sourceMap" = .bool false ∨ compiled.map = none
  · rw [assemble_of_off off]
    exact isCoherent_of_off off ⟨rfl, rfl⟩
  · obtain ⟨on, there⟩ := not_or.1 off
    obtain ⟨map, given⟩ := Option.ne_none_iff_exists'.1 there
    have kept : MembersWhole (map.without "maps") := membersWhole_filter (whole map given) _
    have accepts := exists_stitchMap_iff kept named compiled.code.toList
      (helperImport t.host.webModulesUrl).toList
    simp only [isAcceptable_without] at accepts
    -- With maps wanted and a map given, only the stitcher can refuse.
    have other : options.member "sourceMap" = .bool false ∨ compiled.map = none ∨
        (∃ map, compiled.map = some map ∧
          ¬ ∃ sources names lines, IsAcceptable map sources names lines) ↔
        ¬ ∃ sources names lines, IsAcceptable map sources names lines := by
      simp [on, given]
    rw [assemble_of_on on given, stitch, stitch?]
    cases stitches : stitchMap compiled.code.toList (map.without "maps")
        (helperImport t.host.webModulesUrl).toList (some output.name) with
    | error fault =>
      refine ⟨⟨compiled.code, rfl⟩, fun _ => rfl, fun _ never => (by cases never), ?_⟩
      rw [other, ← accepts]
      simp [stitches]
    | ok s =>
      refine ⟨?_, fun never => (by cases never), ?_, ?_⟩
      · obtain ⟨_, _, comment, -, -, -, text, -⟩ := isAcceptable_of_stitchMap named stitches
        refine ⟨String.ofList (body compiled.code.toList ++ '\n' :: comment), ?_⟩
        rw [← String.toList_inj]
        simp [text]
      · rintro stitched ⟨⟩
        exact ⟨map, given, isMapped_of_stitchMap (whole map given) named
          (getLast?_helperImport _) stitches rfl⟩
      · rw [other, ← accepts]
        simp [stitches]

end

/-- Whatever compiler is asked, a unit that comes out is coherent with what that compiler gave for it,
if the map holds whole numbers alone. -/
theorem transpile_coherent (t : Transpiler) (compile : Compile) (fs : FileSystem)
    (console : Console) (path : Path) (unit : CompiledUnit)
    (returned : (t.transpile compile fs console path).unit = .ok unit) :
    ∃ text compiled,
      readSource fs (t.workingDir.getD ⟨.root, fs.cwd⟩) unit.source = .ok text ∧
      (compile text (t.record unit.source unit.output)).1 = .ok compiled ∧
      ((∀ map, compiled.map = some map → MembersWhole map) →
        IsCoherent (helperImport t.host.webModulesUrl) (t.record unit.source unit.output) compiled
          unit) := by
  rw [transpile] at returned
  split at returned
  · cases returned
  next output out =>
    split at returned
    · cases returned
    next text read =>
      simp only at returned
      split at returned
      · cases returned
      next compiled job compiles =>
        cases returned
        rw [source_assemble, output_assemble]
        exact ⟨text, compiled, read, by rw [compiles],
          isCoherent_assemble (FileName.name_ne_empty_of_output? out)⟩

def mappedAnswer : Command.Outcome where
  stdout := "\x7b\"code\":\"a;\\n\",\"sourceMap\":\x7b\"mappings\":\"AAAA;C\","
    ++ "\"sources\":[null],\"maps\":0\x7d\x7d"

def mappedMap : Mapping :=
  [(.str "mappings", .str "AAAA;C"), (.str "sources", .list [.null]), (.str "maps", .int 0)]

def mappedCode : Compiled where
  code := "a;\n"
  map := some mappedMap

def plainTranspiler : Transpiler where
  host := {}
  options := {}
  workingDir := none

def oneSource : FileSystem :=
  ⟨["w"], [(["w"], .directory), (["w", "a.imba"], .file [])]⟩

theorem conclude_mappedAnswer (label : String) (job : Command.Job) :
    Compiler.conclude label job (.ok mappedAnswer) = .ok mappedCode := by
  have read : Json.read mappedAnswer.stdout =
      .ok (.map [(.str "code", .str "a;\n"), (.str "sourceMap", .map mappedMap)]) := by
    decide +kernel
  have checked : job.check mappedAnswer = .ok mappedAnswer := rfl
  rw [Compiler.conclude, Compiler.readOutcome, checked]
  simp only [Sequencing.mapError_ok, Sequencing.ok_bind, read]
  rfl

theorem membersWhole_mappedCode {map : Mapping} (given : mappedCode.map = some map) :
    MembersWhole map := by
  cases given
  simp [mappedMap, MembersWhole, IsWhole, AllWhole, Mapping.get?_cons_str]

def transpiled (compile : Compile) : Except TranspileFault CompiledUnit :=
  (plainTranspiler.transpile compile oneSource (.named "none") ⟨.relative, ["a.imba"]⟩).unit

def mappedRun : Except TranspileFault CompiledUnit :=
  transpiled (Compiler.compile {} fun _ => .ok mappedAnswer)

-- Its code holds a map that can be read, and no map is given.
def staleCode : Compiled where
  code := "a;\n//# sourceMappingURL=data:application/json;base64,e30="
  map := none

def staleRun : Except TranspileFault CompiledUnit :=
  transpiled fun _ _ => (.ok staleCode, none)

theorem transpile_coherent_mapped :
    (∃ unit, mappedRun = .ok unit ∧ unit.map.isSome = true ∧
      IsCoherent (helperImport "/web_modules")
        (plainTranspiler.record unit.source unit.output) mappedCode unit) ∧
    ∃ unit, staleRun = .ok unit ∧ (readInlineMap staleCode.code.toList).isSome = true ∧
      unit.map = none ∧ IsCoherent (helperImport "/web_modules")
        (plainTranspiler.record unit.source unit.output) staleCode unit := by
  constructor
  · have mapped : (mappedRun.toOption.bind CompiledUnit.map).isSome = true := by decide +kernel
    cases returned : mappedRun with
    | error fault => simp [returned, Except.toOption] at mapped
    | ok unit =>
      obtain ⟨text, compiled, -, compiles, coherent⟩ :=
        transpile_coherent plainTranspiler _ oneSource (.named "none") _ unit returned
      -- The compiler is run for its answer only, whatever job it is given.
      have given : compiled = mappedCode := by
        rw [Compiler.compile] at compiles
        split at compiles
        · cases compiles
        next job written =>
          rw [conclude_mappedAnswer] at compiles
          exact (Except.ok.inj compiles).symm
      subst given
      exact ⟨unit, rfl, by simpa [returned, Except.toOption] using mapped,
        coherent fun _ => membersWhole_mappedCode⟩
  · have held : (readInlineMap staleCode.code.toList).isSome = true := by decide +kernel
    have ran : staleRun.toOption.isSome = true := by decide +kernel
    cases returned : staleRun with
    | error fault => simp [returned, Except.toOption] at ran
    | ok unit =>
      obtain ⟨text, compiled, -, compiles, coherent⟩ :=
        transpile_coherent plainTranspiler _ oneSource (.named "none") _ unit returned
      cases compiles
      have whole := coherent fun map given => by cases given
      exact ⟨unit, rfl, held, whole.unmapped.2 (.inr (.inl rfl)), whole⟩

end Transpiler

end BuildPipeline
