import BuildPipeline.Proofs.Entrypoints
import BuildPipeline.Proofs.Settings.Options

set_option autoImplicit false

namespace BuildPipeline

namespace Settings

open Sequencing

def ListFault.IsConfig : ListFault → Prop
  | .entry _ | .shape _ => True
  | .undecodable _ => False

def ValueFault.IsConfig : ValueFault → Prop
  | .section _ | .flag _ => True
  | .names cause => cause.IsConfig
  | .tooLong => False

def FirstUndecodable (items : List Value) (cause : Text.Utf8.Misread) : Prop :=
  ∃ before bytes after, items = before ++ .bytes bytes :: after ∧
    (∀ item ∈ before, (text? item).isSome = true) ∧ Text.Utf8.decode bytes = .error cause

/-- Reading the names of a value comes to bytes that are no UTF-8. -/
def Undecodable (cause : Text.Utf8.Misread) : Value → Prop
  | .bytes bytes => Text.Utf8.decode bytes = .error cause
  | .list items | .tuple items => FirstUndecodable items cause
  | _ => False

def IsTextual : Value → Prop
  | .null => True
  | .list items | .tuple items => ∀ item ∈ items, (text? item).isSome = true
  | v => (text? v).isSome = true

variable {field : String} {cause : Text.Utf8.Misread}

theorem trimmed?_eq_error_iff {v : Value} {fault : ListFault} :
    trimmed? v = .error fault ↔
      ∃ bytes cause, v = .bytes bytes ∧ Text.Utf8.decode bytes = .error cause ∧
        fault = .undecodable cause := by
  cases v with
  | bytes bytes => cases read : Text.Utf8.decode bytes <;> simp [trimmed?, read, eq_comm]
  | _ => simp [trimmed?]

theorem trimmed?_of_text? {v : Value} {text : String} (found : text? v = some text) :
    trimmed? v = .ok (some (Text.trim text)) := by
  cases read : trimmed? v with
  | ok trimmed => rw [trimmed?_eq_ok read, found, Option.map_some]
  | error fault =>
    obtain ⟨bytes, cause, rfl, undecoded, -⟩ := trimmed?_eq_error_iff.1 read
    simp [text?, undecoded] at found

theorem exists_trimmed?_iff {v : Value} :
    (∃ text, trimmed? v = .ok (some text)) ↔ (text? v).isSome = true := by
  constructor
  · rintro ⟨text, read⟩
    rw [← Option.isSome_map, ← trimmed?_eq_ok read]
    rfl
  · intro there
    obtain ⟨text, found⟩ := Option.isSome_iff_exists.1 there
    exact ⟨_, trimmed?_of_text? found⟩

theorem exists_stringItems_iff {items : List Value} :
    (∃ named, stringItems field items = .ok named) ↔ ∀ item ∈ items, (text? item).isSome = true := by
  induction items with
  | nil => simp [stringItems]
  | cons item rest ih =>
    rw [List.forall_mem_cons, ← ih, ← exists_trimmed?_iff]
    constructor
    · rintro ⟨named, read⟩
      obtain ⟨trimmed, first, read⟩ := bind_eq_ok_iff.1 read
      split at read
      · cases read
      next text =>
        obtain ⟨tail, later, -⟩ := bind_eq_ok_iff.1 read
        exact ⟨⟨text, first⟩, tail, later⟩
    · rintro ⟨⟨text, first⟩, tail, later⟩
      exact ⟨_, by simp only [stringItems, first, later, ok_bind]; rfl⟩

theorem exists_stringList_iff {v : Value} :
    (∃ named, stringList field v = .ok named) ↔ IsTextual v := by
  cases v with
  | null => simp [stringList, IsTextual]
  | list items | tuple items => exact exists_stringItems_iff
  | bytes bytes =>
    cases read : Text.Utf8.decode bytes <;>
      simp [stringList, trimmed?, text?, read, IsTextual, bind_eq_ok_iff]
  | _ => simp [stringList, trimmed?, text?, IsTextual, ok_bind]

theorem firstUndecodable_cons_iff {item : Value} {rest : List Value} :
    FirstUndecodable (item :: rest) cause ↔
      trimmed? item = .error (.undecodable cause) ∨
        (text? item).isSome = true ∧ FirstUndecodable rest cause := by
  rw [trimmed?_eq_error_iff]
  constructor
  · rintro ⟨before, bytes, after, split, texts, undecoded⟩
    cases before with
    | nil =>
      cases split
      exact .inl ⟨bytes, cause, rfl, undecoded, rfl⟩
    | cons first before =>
      cases split
      rw [List.forall_mem_cons] at texts
      exact .inr ⟨texts.1, before, bytes, after, rfl, texts.2, undecoded⟩
  · rintro (⟨bytes, cause, rfl, undecoded, same⟩ |
      ⟨text, before, bytes, after, rfl, texts, undecoded⟩)
    · cases same
      exact ⟨[], bytes, rest, rfl, by simp, undecoded⟩
    · exact ⟨item :: before, bytes, after, rfl, List.forall_mem_cons.2 ⟨text, texts⟩, undecoded⟩

theorem stringItems_eq_undecodable_iff {items : List Value} :
    stringItems field items = .error (.undecodable cause) ↔ FirstUndecodable items cause := by
  induction items with
  | nil => simp [stringItems, FirstUndecodable]
  | cons item rest ih =>
    rw [stringItems, firstUndecodable_cons_iff, ← ih, bind_eq_error_iff]
    refine or_congr_right ⟨?_, ?_⟩
    · rintro ⟨trimmed, read, failed⟩
      have same := trimmed?_eq_ok read
      split at failed
      · cases failed
      next s =>
        obtain ⟨text, found, -⟩ := Option.map_eq_some_iff.1 same.symm
        refine ⟨by simp [found], ?_⟩
        rcases bind_eq_error_iff.1 failed with later | ⟨tail, -, never⟩
        · exact later
        · cases never
    · rintro ⟨text, later⟩
      obtain ⟨text, found⟩ := Option.isSome_iff_exists.1 text
      refine ⟨_, trimmed?_of_text? found, ?_⟩
      simp only [later]
      rfl

theorem stringList_eq_undecodable_iff {v : Value} :
    stringList field v = .error (.undecodable cause) ↔ Undecodable cause v := by
  cases v with
  | list items | tuple items => exact stringItems_eq_undecodable_iff
  | bytes bytes =>
    cases read : Text.Utf8.decode bytes <;>
      simp [stringList, trimmed?, read, Undecodable, bind_eq_error_iff]
  | _ => simp [stringList, trimmed?, Undecodable, ok_bind]

theorem ListFault.isConfig_or_undecodable (fault : ListFault) :
    fault.IsConfig ∨ ∃ cause, fault = .undecodable cause := by
  cases fault with
  | undecodable cause => exact .inr ⟨cause, rfl⟩
  | _ => exact .inl trivial

variable {data : Mapping}

theorem short_of_mem (short : Value.anyMemberTooLong data = false) :
    ∀ member ∈ data, member.1.isTooLong = false ∧ member.2.isTooLong = false := by
  induction data with
  | nil => simp
  | cons member rest ih =>
    simp only [Value.anyMemberTooLong, Bool.or_eq_false_iff] at short
    exact List.forall_mem_cons.2 ⟨short.1, ih short.2⟩

theorem textOf_of_short {v : Value} (short : v.isTooLong = false) : textOf v = .ok v.text := by
  rw [textOf, short]
  rfl

theorem targetOf_ne_error {v : Value} (short : v.isTooLong = false) (fault : ValueFault) :
    targetOf v ≠ .error fault := by
  cases v <;> simp [targetOf, textOf_of_short short, Except.map]

theorem forwarded_ne_error (short : Value.anyMemberTooLong data = false) (fault : ValueFault) :
    forwarded data ≠ .error fault := by
  intro failed
  obtain ⟨member, there, failed⟩ := exists_of_mapM_eq_error (map_eq_error_iff.1 failed)
  have written := textOf_of_short (short_of_mem short member (List.mem_of_mem_filter there)).1
  rw [textKey, written] at failed
  cases failed

theorem exists_flag?_iff {v : Value} :
    (∃ flag, flag? field v = .ok flag) ↔ ∃ flag, v = boolValue flag := by
  constructor
  · rintro ⟨flag, read⟩
    exact ⟨flag, (boolValue_of_flag? read).symm⟩
  · rintro ⟨flag, rfl⟩
    cases flag <;> exact ⟨_, rfl⟩

theorem isConfig_of_flag? {v : Value} {fault : ValueFault} (failed : flag? field v = .error fault) :
    fault.IsConfig := by
  unfold flag? at failed
  split at failed <;> cases failed
  exact trivial

def flagKeys : List String :=
  ["smartscan", "splitting", "minify"]

theorem ofMapping_eq_error (short : Value.anyMemberTooLong data = false) {fault : ValueFault}
    (failed : Options.ofMapping data = .error fault) :
    (∃ cause, stringList "entrypoints" (data.member "entrypoints") = .error cause ∧
      fault = .names cause) ∨
      ∃ field ∈ flagKeys, flag? field (data.member field) = .error fault := by
  have target : (data.member "target").isTooLong = false := by
    cases found : data.get? (.str "target") with
    | none => simp [Mapping.member, found, Value.isTooLong]
    | some v =>
      have short' : v.isTooLong = false :=
        Mapping.of_get? (P := (·.isTooLong = false))
          (fun member there => (short_of_mem short member there).2) found
      simpa [Mapping.member, found] using short'
  -- Where no number is too long, only the names and the flags can fail.
  rcases bind_eq_error_iff.1 failed with names | ⟨entrypoints, -, failed⟩
  · obtain ⟨cause, refused, rfl⟩ := mapError_eq_error_iff.1 names
    exact .inl ⟨cause, refused, rfl⟩
  refine .inr ?_
  rcases bind_eq_error_iff.1 failed with flag | ⟨smartscan, -, failed⟩
  · exact ⟨_, by simp [flagKeys], flag⟩
  rcases bind_eq_error_iff.1 failed with flag | ⟨splitting, -, failed⟩
  · exact ⟨_, by simp [flagKeys], flag⟩
  rcases bind_eq_error_iff.1 failed with aimed | ⟨target, -, failed⟩
  · exact absurd aimed (targetOf_ne_error target fault)
  rcases bind_eq_error_iff.1 failed with flag | ⟨minify, -, failed⟩
  · exact ⟨_, by simp [flagKeys], flag⟩
  rcases bind_eq_error_iff.1 failed with own | ⟨compiler, -, never⟩
  · exact absurd own (forwarded_ne_error short fault)
  · cases never

theorem ofMapping_eq_undecodable_iff (short : Value.anyMemberTooLong data = false) :
    Options.ofMapping data = .error (.names (.undecodable cause)) ↔
      Undecodable cause (data.member "entrypoints") := by
  rw [← stringList_eq_undecodable_iff]
  constructor
  · intro failed
    rcases ofMapping_eq_error short failed with ⟨fault, names, same⟩ | ⟨field, -, flag⟩
    · cases same
      exact names
    · exact (isConfig_of_flag? flag).elim
  · intro names
    rw [Options.ofMapping, names]
    rfl

theorem exists_ofMapping_iff (short : Value.anyMemberTooLong data = false) :
    (∃ options, Options.ofMapping data = .ok options) ↔
      IsTextual (data.member "entrypoints") ∧
        ∀ field ∈ flagKeys, ∃ flag, data.member field = boolValue flag := by
  constructor
  · rintro ⟨options, read⟩
    obtain ⟨-, split, -, minified⟩ := fields_of_ofMapping read
    obtain ⟨entrypoints, names, read⟩ := bind_eq_ok_iff.1 read
    obtain ⟨smartscan, scan, -⟩ := bind_eq_ok_iff.1 read
    refine ⟨exists_stringList_iff.1 ⟨_, mapError_eq_ok_iff.1 names⟩, ?_⟩
    simp only [flagKeys, List.forall_mem_cons, List.not_mem_nil, false_imp_iff, forall_true_iff,
      and_true]
    exact ⟨exists_flag?_iff.1 ⟨_, scan⟩, exists_flag?_iff.1 ⟨_, split⟩,
      exists_flag?_iff.1 ⟨_, minified⟩⟩
  · rintro ⟨textual, flags⟩
    cases read : Options.ofMapping data with
    | ok options => exact ⟨options, rfl⟩
    | error fault =>
      rcases ofMapping_eq_error short read with ⟨cause, names, -⟩ | ⟨field, there, flag⟩
      · obtain ⟨named, accepted⟩ := exists_stringList_iff.2 textual
        cases accepted.symm.trans names
      · obtain ⟨_, accepted⟩ := exists_flag?_iff.2 (flags field there)
        cases accepted.symm.trans flag

theorem isConfig_or_undecodable_of_ofMapping (short : Value.anyMemberTooLong data = false)
    {fault : ValueFault} (failed : Options.ofMapping data = .error fault) :
    fault.IsConfig ∨ ∃ cause, fault = .names (.undecodable cause) := by
  rcases ofMapping_eq_error short failed with ⟨cause, -, rfl⟩ | ⟨field, -, flag⟩
  · rcases cause.isConfig_or_undecodable with told | ⟨cause, rfl⟩
    · exact .inl told
    · exact .inr ⟨cause, rfl⟩
  · exact .inl (isConfig_of_flag? flag)

end Settings

namespace Entrypoints

open BuildTree FileSystem

def Fault.IsConfig : Fault → Prop
  | .names cause => cause.IsConfig
  | .noneNamed => True
  | .walk _ | .markup _ _ => False

variable {fs : FileSystem} {region : Location} {scanMarkup : Bool}

section

variable {parse : Page.Parser} {root : Path} {console : Console} {configured : Value}
  (walkable : Walkable fs (Path.absolute ⟨.root, fs.cwd⟩ root) region)
  (readable : ∀ names, fs.IsBranch region names →
    Readable fs (Path.absolute ⟨.root, fs.cwd⟩ root) region names)
  (pages : scanMarkup = true → PagesReadable fs (Path.absolute ⟨.root, fs.cwd⟩ root) region)

include walkable readable pages

theorem resolve_eq_error_of_readable {fault : Fault}
    (failed : (resolve parse fs console configured root scanMarkup).1 = .error fault) :
    Settings.stringList "entrypoints" configured = .ok [] ∧ fault = .noneNamed ∨
      ∃ cause, Settings.stringList "entrypoints" configured = .error cause ∧
        fault = .names cause := by
  cases named : Settings.stringList "entrypoints" configured with
  | error cause =>
    rw [resolve, named] at failed
    cases failed
    exact .inr ⟨cause, rfl, rfl⟩
  | ok names =>
    -- A tree that can be read leaves nothing to go wrong but that nothing was named.
    obtain ⟨files, walked, listed, listing⟩ := walk_eq_ok .standard walkable readable
    obtain ⟨told, resolved⟩ := resolve_eq_of_walk console named listed listing pages
    rw [resolved] at failed
    simp only at failed
    split at failed <;> cases failed
    next nothing => exact .inl ⟨congrArg Except.ok nothing.2, rfl⟩

theorem exists_resolve_of_textual (textual : Settings.IsTextual configured)
    (named : ∃ text ∈ Settings.texts configured, Text.trim text ≠ "") :
    ∃ picked, (resolve parse fs console configured root scanMarkup).1 = .ok picked := by
  cases resolved : (resolve parse fs console configured root scanMarkup).1 with
  | ok picked => exact ⟨picked, rfl⟩
  | error fault =>
    rcases resolve_eq_error_of_readable walkable readable pages resolved with
      ⟨nothing, -⟩ | ⟨cause, refused, -⟩
    · obtain ⟨text, there, marked⟩ := named
      exact absurd ((Settings.stringList_eq_nil_iff nothing).1 rfl text there) marked
    · obtain ⟨_, accepted⟩ := Settings.exists_stringList_iff.2 textual
      cases accepted.symm.trans refused

end

/-- Options are returned where the names are texts and the flags are flags, and where the tree can
be read the entrypoints where the names are texts, not all of them blank. Else both fail with an
error of the configuration, unless they come upon a name in bytes that are no UTF-8. -/
theorem fails_by_config_or_undecodable (parse : Page.Parser) (root : Path) {data : Mapping}
    (short : Value.anyMemberTooLong data = false)
    (walkable : Walkable fs (Path.absolute ⟨.root, fs.cwd⟩ root) region)
    (readable : ∀ names, fs.IsBranch region names →
      Readable fs (Path.absolute ⟨.root, fs.cwd⟩ root) region names)
    (pages : scanMarkup = true → PagesReadable fs (Path.absolute ⟨.root, fs.cwd⟩ root) region)
    (console : Console) (configured : Value) :
    ((∃ options, Settings.Options.ofMapping data = .ok options) ↔
      Settings.IsTextual (data.member "entrypoints") ∧
        ∀ field ∈ Settings.flagKeys, ∃ flag, data.member field = Settings.boolValue flag) ∧
    (∀ fault, Settings.Options.ofMapping data = .error fault →
      fault.IsConfig ∨ ∃ cause, fault = .names (.undecodable cause)) ∧
    (∀ cause, Settings.Options.ofMapping data = .error (.names (.undecodable cause)) ↔
      Settings.Undecodable cause (data.member "entrypoints")) ∧
    (Settings.IsTextual configured → (∃ text ∈ Settings.texts configured, Text.trim text ≠ "") →
      ∃ picked, (resolve parse fs console configured root scanMarkup).1 = .ok picked) ∧
    (∀ fault, (resolve parse fs console configured root scanMarkup).1 = .error fault →
      fault.IsConfig ∨ ∃ cause, fault = .names (.undecodable cause)) ∧
    ∀ cause, (resolve parse fs console configured root scanMarkup).1 =
      .error (.names (.undecodable cause)) ↔ Settings.Undecodable cause configured := by
  refine ⟨Settings.exists_ofMapping_iff short,
    fun fault => Settings.isConfig_or_undecodable_of_ofMapping short,
    fun cause => Settings.ofMapping_eq_undecodable_iff short, fun textual named => ?_,
    fun fault failed => ?_, fun cause => ⟨fun failed => ?_, fun undecodable => ?_⟩⟩
  · exact exists_resolve_of_textual walkable readable pages textual named
  · rcases resolve_eq_error_of_readable walkable readable pages failed with
      ⟨-, rfl⟩ | ⟨cause, -, rfl⟩
    · exact .inl trivial
    · rcases cause.isConfig_or_undecodable with told | ⟨cause, rfl⟩
      · exact .inl told
      · exact .inr ⟨cause, rfl⟩
  · rcases resolve_eq_error_of_readable walkable readable pages failed with
      ⟨-, never⟩ | ⟨_, named, same⟩
    · cases never
    · cases same
      exact Settings.stringList_eq_undecodable_iff.1 named
  · rw [resolve, Settings.stringList_eq_undecodable_iff.2 undecodable]

def badNames : Value :=
  .list [.str "main", .bytes [0xff], .int 1]

def badOptions : Mapping :=
  [(.str "minify", .int 1), (.str "entrypoints", badNames)]

theorem fails_by_config_or_undecodable_badNames : ∃ cause,
    Settings.Options.ofMapping badOptions = .error (.names (.undecodable cause)) ∧
    (resolve Markup.parse linkedTree (.named "info") badNames ⟨.relative, ["b"]⟩ true).1 =
      .error (.names (.undecodable cause)) := by
  have short : Value.anyMemberTooLong badOptions = false := by decide +kernel
  have pages : PagesReadable linkedTree ⟨.root, ["w", "b"]⟩ ["w", "b"] :=
    pagesReadable_of_entries (by decide +kernel)
  obtain ⟨cause, undecoded⟩ : ∃ cause, Text.Utf8.decode [0xff] = .error cause := ⟨_, rfl⟩
  have undecodable : Settings.Undecodable cause badNames :=
    ⟨[.str "main"], [0xff], [.int 1], rfl, by simp [Settings.text?], undecoded⟩
  obtain ⟨-, -, options, -, -, resolved⟩ :=
    fails_by_config_or_undecodable Markup.parse ⟨.relative, ["b"]⟩ short walkable_linkedTree
      readable_linkedTree (fun _ => pages) (.named "info") badNames
  have named : badOptions.member "entrypoints" = badNames := rfl
  rw [named] at options
  exact ⟨cause, (options cause).2 undecodable, (resolved cause).2 undecodable⟩

end Entrypoints

end BuildPipeline
