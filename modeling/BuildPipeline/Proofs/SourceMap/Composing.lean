import BuildPipeline.Proofs.SourceMap.Occurrences

set_option autoImplicit false

namespace BuildPipeline.SourceMap

theorem rdropWhile_isLineEnd_eq_self_iff {cs : List Char} :
    cs.rdropWhile isLineEnd = cs ↔ ∀ c ∈ cs.getLast?, isLineEnd c = false := by
  rw [List.rdropWhile_eq_self_iff]
  cases cs using List.reverseRecOn <;> simp

theorem body_eq_self_iff {cs : List Char} :
    body cs = cs ↔ Unmarked cs ∧ ∀ c ∈ cs.getLast?, isLineEnd c = false := by
  rw [body_eq_rdropWhile, ← stripMarkers_eq_self_iff, ← rdropWhile_isLineEnd_eq_self_iff]
  -- Both steps only take away, so together they leave a text as it is where each of them does.
  constructor
  · intro kept
    have shorter := (List.rdropWhile_prefix isLineEnd (l := stripMarkers cs)).length_le
    rw [kept] at shorter
    have whole : stripMarkers cs = cs := (stripFrom_sublist 0 cs).eq_of_length_le shorter
    exact ⟨whole, by rwa [whole] at kept⟩
  · rintro ⟨whole, ends⟩
    rw [whole, ends]

/-- Code stitched behind `lead` and then, with the map it was given, behind `first`, is the code
stitched behind both, if what stands before the comment has no marker and no line end at its end. -/
theorem stitch_append (console console' console'' : Console) (code lead first : String)
    (map : Value) (file : Option String) (unmarked : Unmarked (lead.toList ++ body code.toList))
    (ends : ∀ c ∈ (lead.toList ++ body code.toList).getLast?, isLineEnd c = false) {out : String}
    {stitched : Mapping} (accepted : (stitch console code map lead file).1 = ⟨out, some stitched⟩) :
    (stitch console' out (.map stitched) first none).1 =
        (stitch console'' code map (first ++ lead) file).1 ∧
      (stitch console'' code map (first ++ lead) file).1.map.isSome = true := by
  obtain ⟨members, s, rfl, stitches, text, rfl⟩ := stitch_eq_some_iff.1 accepted
  obtain ⟨p, lines, comment, parts, decoded, short, written, rfl⟩ := stitchMap_eq_ok_iff.1 stitches
  obtain ⟨-, -, -, -, -, truthy⟩ := exists_of_parts parts
  have front : body out.toList = lead.toList ++ body code.toList := by
    rw [← text, String.toList_ofList, body_comment written, body_eq_self_iff]
    exact ⟨unmarked, ends⟩
  obtain ⟨comment', written', again⟩ := stitchMap_stitchedMap (text_ne_empty truthy)
    (read_write_stitchLines decoded lead.toList (body code.toList)) written out.toList first.toList
  -- So the second time all of the front stands below, and the lines that were moved move on.
  rw [front, stitchLines_append] at written' again
  have once := stitchMap_eq_ok_iff.2 ⟨p, lines, comment', parts, decoded, short, written', rfl⟩
  rw [← String.toList_append] at once
  have twice : (stitch console' out _ first none).1 = _ :=
    stitch_eq_some_iff.2 ⟨_, _, rfl, again, rfl, rfl⟩
  have once' : (stitch console'' code _ (first ++ lead) file).1 = _ :=
    stitch_eq_some_iff.2 ⟨_, _, rfl, once, rfl, rfl⟩
  rw [once']
  refine ⟨twice.trans ?_, rfl⟩
  simp

theorem stitch_append_in_lines : ∃ out stitched twice,
    (stitch (.named "none") "a;\nb;\n//# sourceMappingURL=x\n" (.map oneLineMap)
      "import 'x';\n\x7b " none).1 = ⟨out, some stitched⟩ ∧
    (stitch (.named "none") out (.map stitched) "/**/ " none).1 = twice ∧
    (stitch (.named "none") "a;\nb;\n//# sourceMappingURL=x\n" (.map oneLineMap)
      "/**/ import 'x';\n\x7b " none).1 = twice ∧ twice.map.isSome = true := by
  obtain ⟨out, stitched, accepted⟩ := Output.eq_of_isSome (o := (stitch (.named "none")
    "a;\nb;\n//# sourceMappingURL=x\n" (.map oneLineMap) "import 'x';\n\x7b " none).1)
    (by decide +kernel)
  have last : ("import 'x';\n\x7b ".toList
      ++ body "a;\nb;\n//# sourceMappingURL=x\n".toList).getLast? = some ';' := by decide +kernel
  have ends : ∀ c ∈ ("import 'x';\n\x7b ".toList
      ++ body "a;\nb;\n//# sourceMappingURL=x\n".toList).getLast?, isLineEnd c = false := by
    rw [last]
    rintro c ⟨⟩
    rfl
  obtain ⟨same, kept⟩ := stitch_append (.named "none") (.named "none") (.named "none")
    "a;\nb;\n//# sourceMappingURL=x\n" "import 'x';\n\x7b " "/**/ " (.map oneLineMap) none
    (stripMarkers_eq_self_iff.1 (by decide +kernel)) ends accepted
  exact ⟨out, stitched, _, accepted, same, rfl, kept⟩

end BuildPipeline.SourceMap
