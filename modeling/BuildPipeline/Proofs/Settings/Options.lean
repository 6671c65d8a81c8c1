import BuildPipeline.Proofs.Sequencing
import BuildPipeline.Proofs.Settings.Layers
import BuildPipeline.Settings.Plugin

set_option autoImplicit false

namespace BuildPipeline.Settings

open Mapping Sequencing

def sectionMember (data : Mapping) (name key : String) : Value :=
  match data.member name with
  | .map members => Mapping.member members key
  | _ => .null

def outside (data : Mapping) : Mapping :=
  data.filter fun m => !isStageKey m.1

def lastForwarded? (data : Mapping) (key : String) : Option Value :=
  (data.reverse.find? fun m => !isStageKey m.1 && m.1.text = key).map (·.2)

theorem member_of_sectionOf {data members : Mapping} {name : String}
    (found : sectionOf data name = .ok members) (key : String) :
    members.member key = sectionMember data name key := by
  rw [sectionOf] at found
  rw [sectionMember]
  split at found
  next absent => cases found; rw [absent]; rfl
  next there => cases found; rw [there]
  next => cases found

theorem boolValue_of_flag? {field : String} {v : Value} {flag : Option Bool}
    (read : flag? field v = .ok flag) : boolValue flag = v := by
  cases v <;> cases read <;> rfl

theorem sourceMap_of_ofMapping {data : Mapping} {host : Host}
    (read : Host.ofMapping data = .ok host) :
    boolValue host.sourceMap = sectionMember data "installOptions" "sourceMap" ∧
      host.buildMinify = (sectionMember data "buildOptions" "minify").truthy := by
  obtain ⟨install, installed, read⟩ := bind_eq_ok_iff.1 read
  obtain ⟨build, built, read⟩ := bind_eq_ok_iff.1 read
  obtain ⟨dev, -, read⟩ := bind_eq_ok_iff.1 read
  obtain ⟨sourceMap, flag, read⟩ := bind_eq_ok_iff.1 read
  obtain ⟨webModulesUrl, -, read⟩ := bind_eq_ok_iff.1 read
  obtain ⟨metaDir, -, read⟩ := bind_eq_ok_iff.1 read
  obtain ⟨outDir, -, read⟩ := bind_eq_ok_iff.1 read
  cases read
  rw [← member_of_sectionOf installed, ← member_of_sectionOf built]
  exact ⟨boolValue_of_flag? flag, rfl⟩

theorem text_of_textOf {v : Value} {s : String} (read : textOf v = .ok s) : s = v.text := by
  rw [textOf] at read
  split at read <;> cases read
  rfl

def textKeys (m : Mapping) : Mapping :=
  m.map fun member => (.str member.1.text, member.2)

theorem textKeys_texts (m : Mapping) : ∀ member ∈ textKeys m, ∃ name, member.1 = .str name := by
  intro member there
  obtain ⟨own, -, rfl⟩ := List.mem_map.1 there
  exact ⟨own.1.text, rfl⟩

theorem mapM_textKey {m named : Mapping} (read : m.mapM textKey = .ok named) :
    named = textKeys m := by
  induction m generalizing named with
  | nil => cases read; rfl
  | cons first rest ih =>
    rw [List.mapM_cons] at read
    obtain ⟨head, first', read⟩ := bind_eq_ok_iff.1 read
    obtain ⟨tail, later, read⟩ := bind_eq_ok_iff.1 read
    cases read
    obtain ⟨key, text, rfl⟩ := map_eq_ok_iff.1 first'
    rw [ih later, text_of_textOf text]
    rfl

theorem forwarded_eq {data compiler : Mapping} (read : forwarded data = .ok compiler) :
    compiler = Mapping.ofList (textKeys (outside data)) := by
  obtain ⟨named, texts, rfl⟩ := map_eq_ok_iff.1 read
  rw [mapM_textKey texts, outside]

theorem fields_of_ofMapping {data : Mapping} {options : Options}
    (read : Options.ofMapping data = .ok options) :
    options.compiler = Mapping.ofList (textKeys (outside data)) ∧
      flag? "splitting" (data.member "splitting") = .ok options.splitting ∧
      targetOf (data.member "target") = .ok options.target ∧
      flag? "minify" (data.member "minify") = .ok options.minify := by
  obtain ⟨entrypoints, -, read⟩ := bind_eq_ok_iff.1 read
  obtain ⟨smartscan, -, read⟩ := bind_eq_ok_iff.1 read
  obtain ⟨splitting, split, read⟩ := bind_eq_ok_iff.1 read
  obtain ⟨target, aimed, read⟩ := bind_eq_ok_iff.1 read
  obtain ⟨minify, minified, read⟩ := bind_eq_ok_iff.1 read
  obtain ⟨compiler, own, read⟩ := bind_eq_ok_iff.1 read
  cases read
  exact ⟨forwarded_eq own, split, aimed, minified⟩

theorem get?_compiler {data : Mapping} {options : Options}
    (read : Options.ofMapping data = .ok options) (key : String) :
    options.compiler.get? (.str key) = lastForwarded? data key := by
  obtain ⟨own, -⟩ := fields_of_ofMapping read
  rw [own, Mapping.ofList, get?_insertAll_str [] (textKeys_texts _), get?_nil, Option.or_none,
    textKeys, ← List.map_reverse, List.find?_map, outside, ← List.filter_reverse,
    List.find?_filter, lastForwarded?, Option.map_map]
  simp [Function.comp_def]

theorem isRecord_compiler {data : Mapping} {options : Options}
    (read : Options.ofMapping data = .ok options) : options.compiler.IsRecord := by
  obtain ⟨own, -⟩ := fields_of_ofMapping read
  rw [own]
  exact IsRecord.nil.insertAll (textKeys_texts _)

theorem isRecord_compilerDefaults : compilerDefaults.IsRecord :=
  ⟨by simp [compilerDefaults], by decide⟩

def hostDefault? (data : Mapping) (key : String) : Option Value :=
  if key = "sourceMap" then
    some (sectionMember data "installOptions" "sourceMap") |>.filter fun v => !v.isNull
  else none

/-- The value of a key that is no path: what the plugin sets, else what the host sets, else the
default, else null where the plugin has the key. -/
def layered? (hostData data : Mapping) (key : String) : Option Value :=
  ((lastForwarded? data key).filter fun v => !v.isNull).or
    ((hostDefault? hostData key).or
      ((compilerDefaults.get? (.str key)).or ((lastForwarded? data key).map fun _ => .null)))

def hostDefaults (host : Host) : Mapping :=
  match host.sourceMap with
  | none => compilerDefaults
  | some b => compilerDefaults.insert (.str "sourceMap") (.bool b)

theorem get?_hostDefaults {data : Mapping} {host : Host} (read : Host.ofMapping data = .ok host)
    (key : String) : (hostDefaults host).get? (.str key) =
      (hostDefault? data key).or (compilerDefaults.get? (.str key)) := by
  obtain ⟨sourceMap, -⟩ := sourceMap_of_ofMapping read
  rw [hostDefaults, hostDefault?, ← sourceMap]
  cases host.sourceMap with
  | none => simp [boolValue, Value.isNull, Option.filter]
  | some b =>
    by_cases same : key = "sourceMap"
    · simp [get?_insert_str, same, boolValue, Value.isNull, Option.filter]
    · simp [get?_insert_str, same, Ne.symm same]

theorem isRecord_hostDefaults (host : Host) : (hostDefaults host).IsRecord := by
  rw [hostDefaults]
  split
  · exact isRecord_compilerDefaults
  · exact isRecord_compilerDefaults.insert _ _

theorem compilerRecord_eq (host : Host) (options : Options) (paths : FilePaths) :
    compilerRecord host options paths =
      (layOver (layOver [] (some (hostDefaults host))) (some options.compiler)).insertAll
        paths.members :=
  rfl

theorem isRecord_compilerRecord (host : Host) (options : Options) (paths : FilePaths) :
    (compilerRecord host options paths).IsRecord := by
  rw [compilerRecord_eq]
  exact (isRecord_layOver (isRecord_layOver .nil _) _).insertAll (by simp [FilePaths.members])

theorem get?_paths (paths : FilePaths) (key : String) :
    (paths.members.reverse.find? fun member => member.1 = .str key).map (·.2) =
      paths.members.get? (.str key) := by
  by_cases name : key = "filename"
  · subst name; rfl
  by_cases source : key = "sourcePath"
  · subst source; rfl
  by_cases target : key = "targetPath"
  · subst target; rfl
  simp [FilePaths.members, get?_str, Ne.symm name, Ne.symm source, Ne.symm target]

theorem get?_compilerRecord {hostData data : Mapping} {host : Host} {options : Options}
    (hosted : Host.ofMapping hostData = .ok host) (opted : Options.ofMapping data = .ok options)
    (paths : FilePaths) (key : String) :
    (compilerRecord host options paths).get? (.str key) =
      (paths.members.get? (.str key)).or (layered? hostData data key) := by
  have below : (layOver [] (some (hostDefaults host))).get? (.str key) =
      (hostDefault? hostData key).or (compilerDefaults.get? (.str key)) := by
    rw [get?_layOver_nil (isRecord_hostDefaults host), get?_hostDefaults hosted]
  rw [compilerRecord_eq, get?_insertAll_str _ (by simp [FilePaths.members]), get?_paths,
    get?_layOver_str _ (isRecord_compiler opted), get?_compiler opted, member, below, layered?]
  congr 1
  -- A null of the plugin counts only where nothing stands below it.
  cases lastForwarded? data key with
  | none => simp
  | some v =>
    by_cases null : v.isNull = true
    · cases hostDefault? hostData key <;> cases compilerDefaults.get? (.str key) <;>
        simp [null, Option.filter]
    · simp [null, Option.filter]

theorem get?_compilerRecord_congr {hostData data data' : Mapping} {host : Host}
    {options options' : Options} (hosted : Host.ofMapping hostData = .ok host)
    (opted : Options.ofMapping data = .ok options) (opted' : Options.ofMapping data' = .ok options')
    (same : ∀ key, lastForwarded? data' key = lastForwarded? data key) (paths : FilePaths)
    (key : Value) : (compilerRecord host options' paths).get? key =
      (compilerRecord host options paths).get? key := by
  by_cases text : ∃ name, key = .str name
  · obtain ⟨name, rfl⟩ := text
    rw [get?_compilerRecord hosted opted, get?_compilerRecord hosted opted', layered?, layered?, same]
  · have other : ∀ name, key ≠ .str name := fun name equal => text ⟨name, equal⟩
    rw [(isRecord_compilerRecord host options paths).get?_eq_none other,
      (isRecord_compilerRecord host options' paths).get?_eq_none other]

theorem bundlerSettings_of_members {hostData hostData' data data' : Mapping} {host host' : Host}
    {options options' : Options} (hosted : Host.ofMapping hostData = .ok host)
    (hosted' : Host.ofMapping hostData' = .ok host') (opted : Options.ofMapping data = .ok options)
    (opted' : Options.ofMapping data' = .ok options')
    (minify : sectionMember hostData' "buildOptions" "minify" =
      sectionMember hostData "buildOptions" "minify")
    (same : ∀ key ∈ ["splitting", "target", "minify"], data'.member key = data.member key) :
    bundlerSettings host' options' = bundlerSettings host options := by
  simp only [List.mem_cons, List.not_mem_nil, or_false, forall_eq_or_imp, forall_eq] at same
  obtain ⟨-, split, aimed, minified⟩ := fields_of_ofMapping opted
  obtain ⟨-, split', aimed', minified'⟩ := fields_of_ofMapping opted'
  rw [same.1, split] at split'
  rw [same.2.1, aimed] at aimed'
  rw [same.2.2, minified] at minified'
  rw [bundlerSettings, bundlerSettings, (sourceMap_of_ofMapping hosted).2,
    (sourceMap_of_ofMapping hosted').2, minify, Except.ok.inj split', Except.ok.inj aimed',
    Except.ok.inj minified']

/-- The compiler's record holds the paths, and of every other key what `layered?` says, and nothing
more. It stays the same whatever the plugin says under the keys of the stages, and the bundler's
settings whatever it says under any other key. -/
theorem compilerRecord_layered {hostData data : Mapping} {host : Host} {options : Options}
    (hosted : Host.ofMapping hostData = .ok host) (opted : Options.ofMapping data = .ok options)
    (paths : FilePaths) :
    (compilerRecord host options paths).IsRecord ∧
    (compilerRecord host options paths).get? (.str "filename") = some (.str paths.filename) ∧
    (compilerRecord host options paths).get? (.str "sourcePath") = some (.str paths.sourcePath) ∧
    (compilerRecord host options paths).get? (.str "targetPath") = some (.str paths.targetPath) ∧
    (∀ key, key ∉ ["filename", "sourcePath", "targetPath"] →
      (compilerRecord host options paths).get? (.str key) = layered? hostData data key) ∧
    (∀ data' options', Options.ofMapping data' = .ok options' →
      (outside data' = outside data →
        compilerRecord host options' paths = compilerRecord host options paths) ∧
      ((∀ key, lastForwarded? data' key = lastForwarded? data key) →
        ∀ key, (compilerRecord host options' paths).get? key =
          (compilerRecord host options paths).get? key)) ∧
    ∀ hostData' host' data' options', Host.ofMapping hostData' = .ok host' →
      Options.ofMapping data' = .ok options' →
      sectionMember hostData' "buildOptions" "minify" =
        sectionMember hostData "buildOptions" "minify" →
      (∀ key ∈ ["splitting", "target", "minify"], data'.member key = data.member key) →
      bundlerSettings host' options' = bundlerSettings host options := by
  have holds := get?_compilerRecord hosted opted paths
  refine ⟨isRecord_compilerRecord host options paths, holds _, holds _, holds _,
    ?_, ?_, ?_⟩
  · intro key other
    simp only [List.mem_cons, List.not_mem_nil, or_false, not_or] at other
    obtain ⟨name, source, target⟩ := other
    rw [holds]
    simp [FilePaths.members, get?_cons_str, Ne.symm name, Ne.symm source, Ne.symm target]
  · intro data' options' opted'
    constructor
    · intro same
      obtain ⟨own, -⟩ := fields_of_ofMapping opted
      obtain ⟨own', -⟩ := fields_of_ofMapping opted'
      rw [compilerRecord_eq, compilerRecord_eq, own, own', same]
    · exact fun same => get?_compilerRecord_congr hosted opted opted' same paths
  · intro hostData' host' data' options' hosted' opted'
    exact bundlerSettings_of_members hosted hosted' opted opted'

def bareHost : Mapping :=
  [(.str "installOptions", .map [(.str "sourceMap", .bool false)]),
    (.str "buildOptions", .map [(.str "minify", .bool true)])]

def mixedKeys : Mapping :=
  [(.int 1, .str "a"), (.str "1", .null), (.str "filename", .str "x"), (.str "format", .str "cjs"),
    (.str "es6", .null), (.str "sourceMap", .null)]

def mixedOptions : Options where
  compiler := [(.str "1", .null), (.str "filename", .str "x"), (.str "format", .str "cjs"),
    (.str "es6", .null), (.str "sourceMap", .null)]

theorem compilerRecord_layered_mixedKeys :
    ∃ host options options' bare record, Host.ofMapping bareHost = .ok host ∧
      Options.ofMapping ((.str "target", .str "es2020") :: mixedKeys) = .ok options ∧
      Options.ofMapping ((.str "minify", .bool false) :: mixedKeys) = .ok options' ∧
      Options.ofMapping [(.str "target", .str "es2020")] = .ok bare ∧
      record = compilerRecord host options ⟨"m", "a/m", "a/n"⟩ ∧
      record.get? (.str "filename") = some (.str "m") ∧
      record.get? (.str "1") = some .null ∧
      record.get? (.str "format") = some (.str "cjs") ∧
      record.get? (.str "es6") = some (.bool true) ∧
      record.get? (.str "sourceMap") = some (.bool false) ∧
      record.get? (.str "target") = some (.str "web") ∧
      record.get? (.str "minify") = none ∧
      compilerRecord host options' ⟨"m", "a/m", "a/n"⟩ = record ∧
      bundlerSettings host bare = bundlerSettings host options := by
  have hosted : Host.ofMapping bareHost = .ok { sourceMap := some false, buildMinify := true } := by
    decide +kernel
  have opted : Options.ofMapping ((.str "target", .str "es2020") :: mixedKeys) =
      .ok { mixedOptions with target := some "es2020" } := by
    decide +kernel
  have opted' : Options.ofMapping ((.str "minify", .bool false) :: mixedKeys) =
      .ok { mixedOptions with minify := some false } := by
    decide +kernel
  have bare : Options.ofMapping [(.str "target", .str "es2020")] =
      .ok { target := some "es2020" } := by
    decide +kernel
  obtain ⟨-, filename, -, -, holds, own, apart⟩ :=
    compilerRecord_layered hosted opted ⟨"m", "a/m", "a/n"⟩
  refine ⟨_, _, _, _, _, hosted, opted, opted', bare, rfl, filename,
    (holds "1" (by decide)).trans ?_, (holds "format" (by decide)).trans ?_,
    (holds "es6" (by decide)).trans ?_, (holds "sourceMap" (by decide)).trans ?_,
    (holds "target" (by decide)).trans ?_, (holds "minify" (by decide)).trans ?_,
    (own _ _ opted').1 (by decide +kernel), apart _ _ _ _ hosted bare rfl (by decide +kernel)⟩ <;>
    decide +kernel

end BuildPipeline.Settings
