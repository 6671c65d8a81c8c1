import BuildPipeline.Proofs.Json.Keys
import BuildPipeline.Proofs.Toml.Keys
import BuildPipeline.Settings.Project

set_option autoImplicit false

namespace BuildPipeline

/-- No mapping that is read has a key twice, at no depth. -/
def Yaml.Reader.IsKeyed (readYaml : Yaml.Reader) : Prop :=
  ∀ cs v, readYaml cs = .ok v → v.IsKeyed

namespace Settings

open Sequencing Value

section

variable {readYaml : Yaml.Reader} (keyed : readYaml.IsKeyed)

include keyed

theorem isKeyed_of_parse {format : Format} {bytes : List UInt8} {v : Value}
    (parsed : format.parse readYaml bytes = .ok v) : v.IsKeyed := by
  cases format with
  | json =>
    obtain ⟨cs, -, parsed⟩ := bind_eq_ok_iff.1 parsed
    exact Json.isKeyed_of_read (mapError_eq_ok_iff.1 parsed)
  | toml =>
    obtain ⟨cs, -, parsed⟩ := bind_eq_ok_iff.1 parsed
    obtain ⟨table, read, rfl⟩ := map_eq_ok_iff.1 (mapError_eq_ok_iff.1 parsed)
    exact Toml.keyed_read read
  | yaml =>
    obtain ⟨cs, -, parsed⟩ := bind_eq_ok_iff.1 parsed
    exact keyed _ _ (mapError_eq_ok_iff.1 parsed)

theorem membersKeyed_of_load {fs : FileSystem} {p : Path} {m : Mapping}
    (loaded : load readYaml fs p = .ok m) : MembersKeyed m := by
  unfold load at loaded
  split at loaded
  · cases loaded
  · obtain ⟨bytes, -, loaded⟩ := bind_eq_ok_iff.1 loaded
    obtain ⟨v, parsed, loaded⟩ := bind_eq_ok_iff.1 loaded
    have whole := isKeyed_of_parse keyed parsed
    unfold rootMembers at loaded
    split at loaded <;> cases loaded
    · exact membersKeyed_nil
    · exact whole

theorem membersKeyed_of_loadEach {fs : FileSystem} {paths : List Path} {files : List Mapping}
    (loaded : loadEach readYaml fs paths = .ok files) : ∀ file ∈ files, MembersKeyed file := by
  intro file there
  obtain ⟨p, -, loaded⟩ := exists_of_mem_of_mapM_eq_ok loaded file there
  exact membersKeyed_of_load keyed (mapError_eq_ok_iff.1 loaded)

end

end Settings

end BuildPipeline
