import BuildPipeline.Proofs.Json.Whole
import BuildPipeline.Proofs.SourceMap.InlineMap
import BuildPipeline.Proofs.Value.Mapping
import Mathlib.Tactic.MkIffOfInductiveProp

set_option autoImplicit false

namespace BuildPipeline.SourceMap

open Value Sequencing

@[mk_iff]
structure IsAcceptable (map : Mapping) (sources names : List Value) (lines : Lines) : Prop where
  version : ∀ v, map.get? (.str "version") = some v → v.sameKey (.int 3) = true
  mappings : ∃ mappings, map.member "mappings" = .str mappings ∧
    Lines.read ⟨sources.length, names.length⟩ mappings.toList = .ok lines
  sources : Lists map "sources" sources ∧ anyTooLong sources = false
  names : Lists map "names" names ∧ anyTooLong names = false
  root : ∀ v, map.get? (.str "sourceRoot") = some v → v.isTooLong = false
  content : ∀ v, contents? map = some v → v.isTooLong = false

variable {map : Mapping} {sources names items : List Value} {lines : Lines} {key : String}

theorem get?_without {name : String} (other : key ≠ name) :
    (map.without name).get? (.str key) = map.get? (.str key) := by
  rw [Mapping.without, Mapping.get?, Mapping.get?, List.find?_filter]
  congr 2
  funext member
  rw [Bool.eq_iff_iff, decide_eq_true_iff, and_iff_right_iff_imp]
  intro same
  rw [sameKey_str_iff.1 same]
  simpa [sameKey, numeric] using other

theorem member_without {name : String} (other : key ≠ name) :
    (map.without name).member key = map.member key := by
  rw [Mapping.member, get?_without other, Mapping.member]

theorem isAcceptable_without : IsAcceptable (map.without "maps") sources names lines ↔
    IsAcceptable map sources names lines := by
  have lists (key : String) (other : key ≠ "maps") (items : List Value) :
      Lists (map.without "maps") key items ↔ Lists map key items := by
    rw [Lists, Lists, member_without other]
  simp only [isAcceptable_iff, contents?, lists _ (show "sources" ≠ "maps" by decide),
    lists _ (show "names" ≠ "maps" by decide), get?_without (show "version" ≠ "maps" by decide),
    get?_without (show "sourceRoot" ≠ "maps" by decide),
    member_without (show "mappings" ≠ "maps" by decide),
    member_without (show "sourcesContent" ≠ "maps" by decide)]

theorem allWhole_of_lists (members : MembersWhole map) (lists : Lists map key items) :
    AllWhole items := by
  rcases lists with found | ⟨-, rfl⟩
  · have value := isWhole_member members key
    rwa [found] at value
  · trivial

theorem isWhole_of_contents? (members : MembersWhole map) {v : Value}
    (found : contents? map = some v) : v.IsWhole := by
  rw [contents?] at found
  split at found
  next items there =>
    cases found
    exact there ▸ isWhole_member members "sourcesContent"
  next => cases found

theorem IsAcceptable.isExact {p : Parts} (members : MembersWhole map)
    (acceptable : IsAcceptable map p.sources p.names lines) (moved : Lines) :
    (Value.map (stitchedMap map p moved)).IsExact :=
  membersExact_stitchedMap
    (fun v found => (isWhole_of_get? members found).isExact (acceptable.root v found))
    (fun v found => (isWhole_of_contents? members found).isExact (acceptable.content v found))
    ((allWhole_of_lists members acceptable.sources.1).allExact acceptable.sources.2)
    ((allWhole_of_lists members acceptable.names.1).allExact acceptable.names.2) moved

variable {code lead : List Char} {name : String}

theorem isAcceptable_of_stitchMap {s : Stitched} (named : name ≠ "")
    (stitches : stitchMap code map lead (some name) = .ok s) :
    ∃ p lines comment, IsAcceptable map p.sources p.names lines ∧ p.file = .str name ∧
      mapComment s.map = .ok comment ∧ s.code = lead ++ body code ++ '\n' :: comment ∧
      s.map = stitchedMap map p (stitchLines lead (body code) lines) := by
  obtain ⟨p, lines, comment, parts, decoded, -, written, rfl⟩ := stitchMap_eq_ok_iff.1 stitches
  obtain ⟨version, mappings, listed, names, aim, -⟩ := exists_of_parts parts
  -- The comment is there, so nothing in the map is too long.
  obtain ⟨text, whole, -⟩ := bind_eq_ok_iff.1 written
  have short := Json.isTooLong_of_writeValue _ text whole
  rw [isTooLong] at short
  have kept (key : String) (v : Value)
      (found : (stitchedMap map p (stitchLines lead (body code) lines)).get? (.str key) = some v) :
      v.isTooLong = false := isTooLong_of_get? short found
  simp only [get?_stitchedMap] at kept
  refine ⟨p, lines, comment, ⟨version, ⟨_, mappings, ?_⟩, ⟨listed, ?_⟩, ⟨names, ?_⟩, ?_, ?_⟩, ?_,
    written, rfl, rfl⟩
  · rw [String.toList_ofList]
    exact decoded
  · exact kept "sources" (.list p.sources) (by simp)
  · exact kept "names" (.list p.names) (by simp)
  · exact fun v found => kept "sourceRoot" v (by simpa using found)
  · exact fun v found => kept "sourcesContent" v (by simpa using found)
  · rw [aim, target, if_neg named]

theorem exists_stitchMap_of_isAcceptable (members : MembersWhole map) (named : name ≠ "")
    (acceptable : IsAcceptable map sources names lines) (code lead : List Char) :
    ∃ s, stitchMap code map lead (some name) = .ok s := by
  obtain ⟨mappings, encoded, decoded⟩ := acceptable.mappings
  have aimed : target map (some name) = .str name := by rw [target, if_neg named]
  have parts : Parts.of map (some name) = .ok ⟨mappings.toList, sources, names, .str name⟩ := by
    rw [Parts.of_eq_ok acceptable.version encoded acceptable.sources.1 acceptable.names.1, aimed]
    simpa [aimed, truthy] using named
  obtain ⟨comment, written, -⟩ := readInlineMap_mapComment
    (acceptable.isExact (p := ⟨mappings.toList, sources, names, .str name⟩) members
      (stitchLines lead (body code) lines)) []
  exact ⟨_, stitchMap_eq_ok_iff.2 ⟨_, lines, comment, parts, decoded, rfl, written, rfl⟩⟩

theorem exists_stitchMap_iff (members : MembersWhole map) (named : name ≠ "")
    (code lead : List Char) : (∃ s, stitchMap code map lead (some name) = .ok s) ↔
      ∃ sources names lines, IsAcceptable map sources names lines := by
  constructor
  · rintro ⟨s, stitches⟩
    obtain ⟨p, lines, -, acceptable, -⟩ := isAcceptable_of_stitchMap named stitches
    exact ⟨p.sources, p.names, lines, acceptable⟩
  · rintro ⟨sources, names, lines, acceptable⟩
    exact exists_stitchMap_of_isAcceptable members named acceptable code lead

end BuildPipeline.SourceMap
