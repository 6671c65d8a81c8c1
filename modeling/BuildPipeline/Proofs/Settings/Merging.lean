import BuildPipeline.Proofs.Settings.ConfigFile
import BuildPipeline.Proofs.Yaml.Keys

set_option autoImplicit false

namespace BuildPipeline

namespace Value

def at? : List Value → Value → Option Value
  | [], v => some v
  | key :: path, .map m => (Mapping.get? m key).bind (at? path)
  | _ :: _, _ => none

/-- A value that is no mapping stands above the path. -/
def Cuts (v : Value) (path : List Value) : Prop :=
  ∃ above below w, path = above ++ below ∧ below ≠ [] ∧ v.at? above = some w ∧ w.members? = none

end Value

namespace Settings

open Mapping Value

theorem mergeValue_map (m n : Mapping) : mergeValue (some (.map m)) (.map n) = .map (merge m n) := by
  rw [mergeValue, merge]

theorem mergeValue_of_apart {old : Option Value} {v : Value}
    (apart : ∀ m n, old = some (.map m) → v ≠ .map n) : mergeValue old v = v := by
  unfold mergeValue
  split
  next m n => exact absurd rfl (apart m n rfl)
  next => rfl

theorem mergeValue_none (v : Value) : mergeValue none v = v :=
  mergeValue_of_apart fun _ _ none => by cases none

theorem mergeMembers_cons (base : Mapping) (k v : Value) (rest : Mapping) :
    mergeMembers base ((k, v) :: rest) =
      mergeMembers (base.insert k (mergeValue (base.get? k) v)) rest := by
  rw [mergeMembers]

variable {a b : Mapping}

theorem get?_merge (a : Mapping) (keyed : MembersKeyed b) (key : Value) :
    (merge a b).get? key =
      match b.get? key with
      | none => a.get? key
      | some v => some (mergeValue (a.get? key) v) := by
  rw [merge]
  induction b generalizing a with
  | nil => rw [mergeMembers]; rfl
  | cons first rest ih =>
    obtain ⟨k, v⟩ := first
    obtain ⟨only, -, later⟩ := keyed
    rw [mergeMembers_cons, ih _ later, get?_cons, get?_insert]
    by_cases same : k.sameKey key = true
    · rw [get?_congr same] at only
      simp only [only, if_pos same, get?_congr same a]
    · simp only [if_neg same]

theorem keys_merge (a : Mapping) (keyed : MembersKeyed b) :
    (merge a b).keys = a.keys ++ b.keys.filter fun key => !a.contains key := by
  rw [merge]
  induction b generalizing a with
  | nil => rw [mergeMembers]; simp [keys]
  | cons first rest ih =>
    obtain ⟨k, v⟩ := first
    have contains' : ∀ key ∈ Mapping.keys rest,
        (a.insert k (mergeValue (a.get? k) v)).contains key = a.contains key := by
      intro key there
      obtain ⟨member, found, rfl⟩ := List.mem_map.1 there
      rw [contains_eq, contains_eq, get?_insert, if_neg (not_sameKey_of_mem keyed member found)]
    rw [mergeMembers_cons, ih _ keyed.2.2,
      List.filter_congr fun key there => by rw [contains' key there], keys_insert]
    by_cases there : a.contains k = true <;> simp [there, keys]

theorem merge_nil (a : Mapping) : merge a [] = a := by
  rw [merge, mergeMembers]

theorem mergeMembers_of_new (a : Mapping) (keyed : MembersKeyed b)
    (new : ∀ member ∈ b, a.get? member.1 = none) : mergeMembers a b = a ++ b := by
  induction b generalizing a with
  | nil => rw [mergeMembers, List.append_nil]
  | cons first rest ih =>
    obtain ⟨k, v⟩ := first
    rw [List.forall_mem_cons] at new
    rw [mergeMembers_cons, new.1, mergeValue_none, insert_of_get?_eq_none new.1, ih _ keyed.2.2,
      List.append_assoc, List.singleton_append]
    intro member there
    rw [get?_append, new.2 member there, Option.none_or, get?_cons,
      if_neg (not_sameKey_of_mem keyed member there)]
    rfl

theorem nil_merge (keyed : MembersKeyed b) : merge [] b = b :=
  mergeMembers_of_new [] keyed (by simp)

theorem mergeMembers_of_merged (a b : Mapping)
    (merged : ∀ member ∈ b, ∃ v, a.get? member.1 = some v ∧ mergeValue (some v) member.2 = v) :
    mergeMembers a b = a := by
  induction b with
  | nil => rw [mergeMembers]
  | cons first rest ih =>
    obtain ⟨k, v⟩ := first
    rw [List.forall_mem_cons] at merged
    obtain ⟨⟨w, there, settled⟩, merged⟩ := merged
    rw [mergeMembers_cons, there, settled, insert_of_get?_eq_some there, ih merged]

theorem merge_again_of_members (a : Mapping) (keyed : MembersKeyed b)
    (members : ∀ member ∈ b, ∀ old, mergeValue (some (mergeValue old member.2)) member.2 =
      mergeValue old member.2) : merge (merge a b) b = merge a b := by
  refine mergeMembers_of_merged _ _ fun member there => ?_
  rw [get?_merge a keyed, get?_of_mem keyed there]
  exact ⟨_, rfl, members member there _⟩

mutual

theorem mergeValue_again : ∀ {v : Value}, v.IsKeyed → ∀ old : Option Value,
    mergeValue (some (mergeValue old v)) v = mergeValue old v
  | .map members, keyed, old => by
    have again (base : Mapping) := merge_again_of_members base keyed (members_again keyed)
    by_cases both : ∃ base, old = some (.map base)
    · obtain ⟨base, rfl⟩ := both
      rw [mergeValue_map, mergeValue_map, again]
    · have new : mergeValue old (.map members) = .map members :=
        mergeValue_of_apart fun base _ there => absurd ⟨base, there⟩ both
      have self : merge members members = members := by
        simpa only [nil_merge keyed] using again []
      rw [new, mergeValue_map, self]
  | .null, _, _ | .bool _, _, _ | .int _, _, _ | .float _, _, _ | .str _, _, _ | .bytes _, _, _
  | .moment _, _, _ | .list _, _, _ | .tuple _, _, _ | .set _, _, _ | .enclosing _, _, _ => by
    rw [mergeValue_of_apart (by simp), mergeValue_of_apart (by simp)]

theorem members_again : ∀ {members : List (Value × Value)}, MembersKeyed members →
    ∀ member ∈ members, ∀ old : Option Value,
      mergeValue (some (mergeValue old member.2)) member.2 = mergeValue old member.2
  | [], _, _, there, _ => by cases there
  | (_, _) :: _, ⟨_, value, later⟩, _, there, old => by
    rcases List.mem_cons.1 there with rfl | there
    · exact mergeValue_again value old
    · exact members_again later _ there old

end

theorem merge_again (a : Mapping) (keyed : MembersKeyed b) : merge (merge a b) b = merge a b :=
  merge_again_of_members a keyed (members_again keyed)

theorem at?_cons (m : Mapping) (key : Value) (path : List Value) :
    (Value.map m).at? (key :: path) = (m.get? key).bind (·.at? path) :=
  rfl

theorem at?_cons_of_not_map {v : Value} (other : v.members? = none) (key : Value)
    (path : List Value) : v.at? (key :: path) = none := by
  cases v <;> first | rfl | cases other

theorem cuts_of_not_map {v : Value} (other : v.members? = none) (key : Value) (path : List Value) :
    v.Cuts (key :: path) :=
  ⟨[], key :: path, v, rfl, by simp, rfl, other⟩

theorem cuts_cons_iff {m : Mapping} {key : Value} {path : List Value} :
    (Value.map m).Cuts (key :: path) ↔ ∃ w, m.get? key = some w ∧ w.Cuts path := by
  constructor
  · rintro ⟨above, below, w, whole, more, there, other⟩
    cases above with
    | nil => cases there; cases other
    | cons first above =>
      rw [List.cons_append, List.cons.injEq] at whole
      obtain ⟨rfl, rfl⟩ := whole
      obtain ⟨v, found, there⟩ := Option.bind_eq_some_iff.1 there
      exact ⟨v, found, above, below, w, rfl, more, there, other⟩
  · rintro ⟨v, found, above, below, w, rfl, more, there, other⟩
    exact ⟨key :: above, below, w, rfl, more, Option.bind_eq_some_iff.2 ⟨v, found, there⟩, other⟩

theorem not_cuts_of_absent {m : Mapping} {key : Value} {path : List Value}
    (absent : m.get? key = none) : ¬ (Value.map m).Cuts (key :: path) := by
  simp [cuts_cons_iff, absent]

theorem cuts_cons_of_get? {m : Mapping} {key v : Value} {path : List Value}
    (found : m.get? key = some v) : (Value.map m).Cuts (key :: path) ↔ v.Cuts path := by
  simp [cuts_cons_iff, found]

theorem mergeValue_cases (old : Option Value) (v : Value) :
    (∃ m n, old = some (.map m) ∧ v = .map n ∧ mergeValue old v = .map (merge m n)) ∨
      ((∀ m n, old = some (.map m) → v ≠ .map n) ∧ mergeValue old v = v) := by
  by_cases both : ∃ m n, old = some (.map m) ∧ v = .map n
  · obtain ⟨m, n, rfl, rfl⟩ := both
    exact .inl ⟨m, n, rfl, rfl, mergeValue_map m n⟩
  · have apart : ∀ m n, old = some (.map m) → v ≠ .map n := fun m n first second =>
      both ⟨m, n, first, second⟩
    exact .inr ⟨apart, mergeValue_of_apart apart⟩

theorem at?_below_none {old : Option Value} (other : ∀ m, old ≠ some (.map m)) (key : Value)
    (path : List Value) : old.bind (·.at? (key :: path)) = none := by
  cases old with
  | none => rfl
  | some v =>
    refine at?_cons_of_not_map ?_ key path
    cases v <;> first | rfl | exact absurd rfl (other _)

theorem exists_map_of_at? {w v : Value} {key : Value} {path : List Value}
    (there : w.at? (key :: path) = some v) : ∃ n, w = .map n := by
  cases w <;> first | exact ⟨_, rfl⟩ | cases there

theorem isKeyed_of_at? {v w : Value} (keyed : v.IsKeyed) {path : List Value}
    (there : v.at? path = some w) : w.IsKeyed := by
  induction path generalizing v with
  | nil =>
    cases there
    exact keyed
  | cons key path ih =>
    obtain ⟨m, rfl⟩ := exists_map_of_at? there
    obtain ⟨u, found, there⟩ := Option.bind_eq_some_iff.1 there
    exact ih (isKeyed_of_get? keyed found) there

theorem at?_merge_of_some (a : Mapping) (keyed : MembersKeyed b) {path : List Value} {v : Value}
    (there : (Value.map b).at? path = some v) :
    (Value.map (merge a b)).at? path = some (mergeValue ((Value.map a).at? path) v) := by
  induction path generalizing a b with
  | nil =>
    cases there
    rw [at?, at?, mergeValue_map]
  | cons key path ih =>
    obtain ⟨w, found, there⟩ := Option.bind_eq_some_iff.1 there
    rw [at?_cons, at?_cons, get?_merge a keyed, found]
    simp only [Option.bind_some]
    rcases mergeValue_cases (a.get? key) w with ⟨m, n, old, rfl, merged⟩ | ⟨apart, merged⟩
    · rw [merged, old, ih m (isKeyed_of_get? keyed found) there, Option.bind_some]
    · rw [merged, there]
      cases path with
      | nil =>
        cases there
        have here : (a.get? key).bind (·.at? []) = a.get? key := by cases a.get? key <;> rfl
        rw [here, merged]
      | cons next path =>
        -- Of the two values at the key only the upper one has anything further down.
        obtain ⟨n, rfl⟩ := exists_map_of_at? there
        have none := at?_below_none (fun m old => apart m n old rfl) next path
        rw [none, mergeValue_none]

theorem at?_merge_of_none (a : Mapping) (keyed : MembersKeyed b) {path : List Value}
    (absent : (Value.map b).at? path = none) :
    ((Value.map b).Cuts path → (Value.map (merge a b)).at? path = none) ∧
      (¬ (Value.map b).Cuts path → (Value.map (merge a b)).at? path = (Value.map a).at? path) := by
  induction path generalizing a b with
  | nil => cases absent
  | cons key path ih =>
    rw [at?_cons] at absent
    rw [at?_cons, at?_cons, cuts_cons_iff, get?_merge a keyed]
    cases found : b.get? key with
    | none => simp
    | some w =>
      rw [found, Option.bind_some] at absent
      simp only [Option.some.injEq, exists_eq_left', Option.bind_some]
      rcases mergeValue_cases (a.get? key) w with ⟨m, n, old, rfl, merged⟩ | ⟨apart, merged⟩
      · rw [merged, old]
        exact ih m (isKeyed_of_get? keyed found) absent
      · rw [merged, absent]
        refine ⟨fun _ => rfl, fun uncut => ?_⟩
        cases path with
        | nil => cases absent
        | cons next path =>
          -- A new mapping hides nothing, and any other value cuts the path off.
          by_cases mapping : ∃ n, w = .map n
          · obtain ⟨n, rfl⟩ := mapping
            exact (at?_below_none (fun m old => apart m n old rfl) next path).symm
          · have other : w.members? = none := by
              cases w <;> first | rfl | exact absurd ⟨_, rfl⟩ mapping
            exact absurd (cuts_of_not_map other next path) uncut

theorem at?_foldl_merge {later : List Mapping} (keyed : ∀ file ∈ later, MembersKeyed file)
    {m : Mapping} {path : List Value}
    (silent : ∀ file ∈ later, (Value.map file).at? path = none ∧ ¬ (Value.map file).Cuts path) :
    (Value.map (later.foldl merge m)).at? path = (Value.map m).at? path := by
  induction later generalizing m with
  | nil => rfl
  | cons file later ih =>
    rw [List.forall_mem_cons] at keyed silent
    rw [List.foldl_cons, ih keyed.2 silent.2]
    exact (at?_merge_of_none m keyed.1 silent.1.1).2 silent.1.2

theorem at?_combined {earlier later : List Mapping} {file : Mapping}
    (keyed : ∀ m ∈ earlier ++ file :: later, MembersKeyed m) {path : List Value} {v : Value}
    (set : (Value.map file).at? path = some v) (plain : v.members? = none)
    (silent : ∀ m ∈ later, (Value.map m).at? path = none ∧ ¬ (Value.map m).Cuts path) :
    (Value.map (combined (earlier ++ file :: later))).at? path = some v := by
  simp only [List.mem_append, List.mem_cons, or_imp, forall_and, forall_eq] at keyed
  obtain ⟨-, here, rest⟩ := keyed
  rw [combined, List.foldl_append, List.foldl_cons, at?_foldl_merge rest silent,
    at?_merge_of_some _ here set, mergeValue_of_apart]
  rintro m n - rfl
  cases plain

/-- At a path at which both have a mapping the two are merged; else the upper one counts where it
says anything of the path, be it that the path is cut off. To merge again changes nothing, nor does
an empty mapping. So of a project's files the last that sets an option counts, if it is not cut off
later. -/
theorem merge_by_path (a : Mapping) (keyed : MembersKeyed b) :
    (∀ path v, (Value.map b).at? path = some v →
      (∀ m n, (Value.map a).at? path = some (.map m) → v ≠ .map n) →
        (Value.map (merge a b)).at? path = some v) ∧
    (∀ path (m n : Mapping), (Value.map a).at? path = some (.map m) →
      (Value.map b).at? path = some (.map n) →
      (Value.map (merge a b)).at? path = some (.map (merge m n)) ∧
        (merge m n).keys = m.keys ++ n.keys.filter fun key => !m.contains key) ∧
    (∀ path, (Value.map b).at? path = none →
      ((Value.map b).Cuts path → (Value.map (merge a b)).at? path = none) ∧
        (¬ (Value.map b).Cuts path → (Value.map (merge a b)).at? path = (Value.map a).at? path)) ∧
    merge (merge a b) b = merge a b ∧ merge a [] = a ∧ merge [] b = b ∧
    ∀ (readYaml : Yaml.Reader), readYaml.IsKeyed → ∀ fs paths files,
      loadEach readYaml fs paths = .ok files →
      (paths ≠ [] →
        Project.load readYaml fs paths = (Project.ofMapping (combined files)).mapError .values) ∧
      ∀ earlier file later path v, files = earlier ++ file :: later →
        (Value.map file).at? path = some v → v.members? = none →
        (∀ m ∈ later, (Value.map m).at? path = none ∧ ¬ (Value.map m).Cuts path) →
          (Value.map (combined files)).at? path = some v := by
  have whole : (Value.map b).IsKeyed := keyed
  refine ⟨fun path v there apart => ?_, fun path m n old new => ⟨?_, ?_⟩,
    fun path absent => at?_merge_of_none a keyed absent, merge_again a keyed, merge_nil a,
    nil_merge keyed, fun readYaml distinct fs paths files loaded => ⟨fun given => ?_, ?_⟩⟩
  · rw [at?_merge_of_some a keyed there, mergeValue_of_apart apart]
  · rw [at?_merge_of_some a keyed new, old, mergeValue_map]
  · exact keys_merge m (isKeyed_of_at? whole new)
  · simp only [Project.load, List.isEmpty_iff, given, if_false, loaded]
    rfl
  · rintro earlier file later path v rfl set plain silent
    exact at?_combined (membersKeyed_of_loadEach distinct loaded) set plain silent

def lowerFile : Mapping :=
  [(.str "build", .map [(.str "minify", .bool true), (.str "out", .map [(.str "dir", .str "b")])]),
    (.int 1, .map [(.str "x", .int 1)]), (.str "host", .map [(.str "port", .int 80)])]

def upperFile : Mapping :=
  [(.str "build", .map [(.str "out", .int 5), (.str "base", .null)]),
    (.bool true, .map [(.str "y", .int 2)])]

theorem membersKeyed_upperFile : MembersKeyed upperFile := by
  simp [upperFile, MembersKeyed, IsKeyed, get?_cons]
  decide

def targetFile : Mapping :=
  [(.str "plugin", .map [(.str "target", .str "es2020")])]

def minifyFile : Mapping :=
  [(.str "plugin", .map [(.str "minify", .bool true)])]

def twoFiles : FileSystem :=
  ⟨["w"], [(["w"], .directory),
    (["w", "a.json"],
      .file (Text.Utf8.encode "\x7b\"plugin\": \x7b\"target\": \"es2020\"\x7d\x7d".toList)),
    (["w", "b.toml"], .file (Text.Utf8.encode "[plugin]\nminify = true\n".toList))]⟩

theorem loadEach_twoFiles :
    loadEach Yaml.read twoFiles [⟨.relative, ["a.json"]⟩, ⟨.relative, ["b.toml"]⟩] =
      .ok [targetFile, minifyFile] := by
  decide +kernel

theorem merge_by_path_upperFile :
    (Value.map (merge lowerFile upperFile)).at? [.str "build", .str "out"] = some (.int 5) ∧
    (Value.map (merge lowerFile upperFile)).at? [.str "build", .str "base"] = some .null ∧
    (Value.map (merge lowerFile upperFile)).at? [.bool true] =
      some (.map (merge [(.str "x", .int 1)] [(.str "y", .int 2)])) ∧
    (merge lowerFile upperFile).keys = [.str "build", .int 1, .str "host"] ∧
    (Value.map (merge lowerFile upperFile)).at? [.str "build", .str "out", .str "dir"] = none ∧
    (Value.map (merge lowerFile upperFile)).at? [.str "build", .str "minify"] = some (.bool true) ∧
    (Value.map (merge lowerFile upperFile)).at? [.str "host", .str "port"] = some (.int 80) ∧
    Project.load Yaml.read twoFiles [⟨.relative, ["a.json"]⟩, ⟨.relative, ["b.toml"]⟩] =
      (Project.ofMapping (combined [targetFile, minifyFile])).mapError .values ∧
    (Value.map (combined [targetFile, minifyFile])).at? [.str "plugin", .str "target"] =
      some (.str "es2020") := by
  obtain ⟨upper, both, lower, -, -, -, files⟩ := merge_by_path lowerFile membersKeyed_upperFile
  obtain ⟨loaded, last⟩ := files Yaml.read (fun _ _ => Yaml.isKeyed_of_read) _ _ _ loadEach_twoFiles
  refine ⟨upper [.str "build", .str "out"] _ rfl ?_, upper [.str "build", .str "base"] _ rfl ?_,
    (both [.bool true] _ _ rfl rfl).1, (both [] _ _ rfl rfl).2,
    (lower [.str "build", .str "out", .str "dir"] rfl).1 ?_,
    (lower [.str "build", .str "minify"] rfl).2 ?_, (lower [.str "host", .str "port"] rfl).2 ?_,
    loaded (by simp), last [] _ [minifyFile] _ _ rfl rfl rfl ?_⟩
  · rintro m n - ⟨⟩
  · rintro m n - ⟨⟩
  · exact (cuts_cons_of_get? rfl).2 ((cuts_cons_of_get? rfl).2 (cuts_of_not_map rfl _ _))
  · exact fun cuts => not_cuts_of_absent rfl ((cuts_cons_of_get? rfl).1 cuts)
  · exact not_cuts_of_absent rfl
  · rw [List.forall_mem_singleton]
    exact ⟨rfl, fun cuts => not_cuts_of_absent rfl ((cuts_cons_of_get? rfl).1 cuts)⟩

end Settings

end BuildPipeline
