import BuildPipeline.Proofs.Json.Scalars
import BuildPipeline.Proofs.Json.Writable
import BuildPipeline.Proofs.Value.Mapping

set_option autoImplicit false

namespace BuildPipeline

namespace Value

mutual

/-- What JSON text gives back as it is: no key comes twice, and no number has a fraction. -/
def IsExact : Value → Prop
  | .null | .bool _ | .str _ => True
  | .int n => Number.isTooLong n = false
  | .list items => AllExact items
  | .map members => MembersExact members
  | .float _ | .bytes _ | .moment _ | .tuple _ | .set _ | .enclosing _ => False

def AllExact : List Value → Prop
  | [] => True
  | v :: vs => v.IsExact ∧ AllExact vs

def MembersExact : List (Value × Value) → Prop
  | [] => True
  | (k, v) :: rest =>
    (∃ name, k = .str name) ∧ v.IsExact ∧ Mapping.get? rest k = none ∧ MembersExact rest

end

mutual

theorem IsExact.isJson : ∀ {v : Value}, v.IsExact → v.IsJson
  | .null, _ | .bool _, _ | .str _, _ => trivial
  | .int _, exact' => exact'
  | .list _, exact' => AllExact.allJson exact'
  | .map _, exact' => MembersExact.membersJson exact'

theorem AllExact.allJson : ∀ {items : List Value}, AllExact items → AllJson items
  | [], _ => trivial
  | _ :: _, ⟨first, later⟩ => ⟨first.isJson, AllExact.allJson later⟩

theorem MembersExact.membersJson :
    ∀ {members : List (Value × Value)}, MembersExact members → MembersJson members
  | [], _ => trivial
  | (_, _) :: _, ⟨key, value, _, later⟩ => ⟨key, value.isJson, MembersExact.membersJson later⟩

end

theorem isExact_of_mem {m : Mapping} (members : MembersExact m) :
    ∀ member ∈ m, member.2.IsExact := by
  induction m with
  | nil => simp
  | cons member m ih =>
    rw [List.forall_mem_cons]
    exact ⟨members.2.1, ih members.2.2.2⟩

theorem isExact_of_get? {m : Mapping} {key v : Value} (members : MembersExact m)
    (found : m.get? key = some v) : v.IsExact :=
  Mapping.of_get? (isExact_of_mem members) found

theorem isExact_member {m : Mapping} (members : MembersExact m) (key : String) :
    (m.member key).IsExact := by
  cases found : m.get? (.str key) with
  | none => simp [Mapping.member, found, IsExact]
  | some v => simpa [Mapping.member, found] using isExact_of_get? members found

end Value

namespace Json

open Value
open Number (digits)

def opensValue (c : Char) : Bool :=
  !isSpace c && c != ']' && c != '\x7d' && c != '\ufeff'

def Begins (text : List Char) : Prop :=
  ∃ c tail, text = c :: tail ∧ opensValue c = true

theorem Begins.skipSpace_eq {text : List Char} (begins : Begins text) : skipSpace text = text := by
  obtain ⟨c, tail, rfl, opens⟩ := begins
  simp only [opensValue, Bool.and_eq_true, Bool.not_eq_true'] at opens
  simp [skipSpace, opens]

theorem Begins.ne_of_closes {text : List Char} (begins : Begins text) {c : Char}
    (closes : opensValue c = false) (tail : List Char) : text ≠ c :: tail := by
  obtain ⟨c', tail', rfl, opens⟩ := begins
  rintro ⟨⟩
  simp [closes] at opens

theorem Begins.append {text : List Char} (begins : Begins text) (rest : List Char) :
    Begins (text ++ rest) := by
  obtain ⟨c, tail, rfl, first⟩ := begins
  exact ⟨c, tail ++ rest, rfl, first⟩

theorem Begins.glue {part : List Char} (begins : Begins part) (parts : List (List Char)) :
    Begins (Text.glue [','] (part :: parts)) := by
  cases parts with
  | nil => exact begins
  | cons next parts =>
    rw [Text.glue, List.append_assoc]
    exact begins.append _

theorem begins_writeString (s : String) : Begins (writeString .compact s) :=
  ⟨'"', _, rfl, rfl⟩

theorem begins_digits (n : Nat) : Begins (digits n) := by
  obtain ⟨d, ds, shape, digit⟩ := Number.exists_digits_eq_cons n
  have other := fun c => Number.ne_of_isDigit (d := c) digit
  refine ⟨d, ds, shape, ?_⟩
  simp [opensValue, isSpace, other ' ' rfl, other '\t' rfl, other '\n' rfl, other '\r' rfl,
    other ']' rfl, other '\x7d' rfl, other '\ufeff' rfl]

theorem writeValue_int {n : Int} (short : Number.isTooLong n = false) (layout : Layout) :
    writeValue layout (.int n) = .ok (Number.intChars n) := by
  rw [writeValue, writeInt, short]
  rfl

theorem writeValue_list_eq_ok {items : List Value} {text : List Char}
    (written : writeValue .compact (.list items) = .ok text) :
    ∃ parts, text = '[' :: (Text.glue [','] parts ++ [']']) ∧
      writeItems .compact items = .ok parts := by
  obtain ⟨parts, inner, same⟩ := Sequencing.bind_eq_ok_iff.1 written
  cases same
  exact ⟨parts, rfl, inner⟩

theorem writeValue_map_eq_ok {members : Mapping} {text : List Char}
    (written : writeValue .compact (.map members) = .ok text) :
    ∃ parts, text = '\x7b' :: (Text.glue [','] parts ++ ['\x7d']) ∧
      writeMembers .compact members = .ok parts := by
  obtain ⟨parts, inner, same⟩ := Sequencing.bind_eq_ok_iff.1 written
  cases same
  exact ⟨parts, rfl, inner⟩

theorem begins_of_writeValue {v : Value} {text : List Char} (exact' : v.IsExact)
    (written : writeValue .compact v = .ok text) : Begins text := by
  cases v with
  | null =>
    cases written
    exact ⟨'n', _, rfl, rfl⟩
  | bool b =>
    cases written
    cases b
    · exact ⟨'f', _, rfl, rfl⟩
    · exact ⟨'t', _, rfl, rfl⟩
  | int n =>
    rw [writeValue_int exact'] at written
    cases written
    cases n with
    | ofNat n => exact begins_digits n
    | negSucc n => exact ⟨'-', _, rfl, rfl⟩
  | str s =>
    cases written
    exact begins_writeString s
  | list items =>
    obtain ⟨parts, rfl, -⟩ := writeValue_list_eq_ok written
    exact ⟨'[', _, rfl, rfl⟩
  | map members =>
    obtain ⟨parts, rfl, -⟩ := writeValue_map_eq_ok written
    exact ⟨'\x7b', _, rfl, rfl⟩
  | float _ | bytes _ | moment _ | tuple _ | set _ | enclosing _ => cases exact'

theorem readValue_digits (fuel n : Nat) (rest : List Char) :
    readValue (fuel + 1) (digits n ++ rest) = readNumber (digits n ++ rest) := by
  obtain ⟨d, ds, shape, digit⟩ := Number.exists_digits_eq_cons n
  rw [shape, List.cons_append, readValue]
  all_goals exact fun _ same => Number.ne_of_isDigit digit rfl (List.cons.inj same).1

theorem readValue_minus_digits (fuel n : Nat) (rest : List Char) :
    readValue (fuel + 1) ('-' :: (digits n ++ rest)) = readNumber ('-' :: (digits n ++ rest)) := by
  obtain ⟨d, ds, shape, digit⟩ := Number.exists_digits_eq_cons n
  rw [shape, List.cons_append, readValue]
  case x_10 =>
    -- Only the text of minus infinity begins with a minus too.
    exact fun _ same => Number.ne_of_isDigit digit rfl (List.cons.inj (List.cons.inj same).2).1
  all_goals
    intro _ same
    cases same

theorem readValue_intChars {n : Int} (short : Number.isTooLong n = false) (fuel : Nat)
    {rest : List Char} (stops : Stops rest) :
    readValue (fuel + 1) (Number.intChars n ++ rest) = .ok (.int n, rest) := by
  cases n with
  | ofNat n => rw [Number.intChars, readValue_digits, readNumber_digits short stops]; rfl
  | negSucc n =>
    have short' : Number.isTooLong (n + 1 : Nat) = false := short
    rw [Number.intChars, List.cons_append, readValue_minus_digits, readNumber_minus short' stops]
    rfl

theorem readValue_quote (fuel : Nat) (s : String) (rest : List Char) :
    readValue (fuel + 1) (writeString .compact s ++ rest) = .ok (.str s, rest) := by
  obtain ⟨tail, shape, read⟩ := readString_writeString s rest
  rw [shape, readValue, read]
  rfl

def ReadsBack (v : Value) : Prop :=
  ∀ text, writeValue .compact v = .ok text → ∀ fuel rest, text.length ≤ fuel → Stops rest →
    readValue fuel (text ++ rest) = .ok (v, rest)

def ItemsReadBack (items : List Value) : Prop :=
  ∀ parts, writeItems .compact items = .ok parts → items ≠ [] →
    ∀ fuel rest, (Text.glue [','] parts).length < fuel →
      readItems fuel (Text.glue [','] parts ++ ']' :: rest) = .ok (items, rest)

def MembersReadBack (members : Mapping) : Prop :=
  ∀ parts, writeMembers .compact members = .ok parts → members ≠ [] →
    ∀ (done : Mapping) fuel rest, (Text.glue [','] parts).length < fuel →
      (∀ key, (members.get? (.str key)).isSome = true → done.get? (.str key) = none) →
      readMembers fuel done (Text.glue [','] parts ++ '\x7d' :: rest) = .ok (done ++ members, rest)

theorem glue_cons (part : List Char) {parts : List (List Char)} (nonempty : parts ≠ []) :
    Text.glue [','] (part :: parts) = part ++ ',' :: Text.glue [','] parts := by
  cases parts with
  | nil => exact absurd rfl nonempty
  | cons next parts => simp [Text.glue]

theorem writeItems_cons_eq_ok {layout : Layout} {item : Value} {items : List Value}
    {parts : List (List Char)} (written : writeItems layout (item :: items) = .ok parts) :
    ∃ part later, parts = part :: later ∧ writeValue layout item = .ok part ∧
      writeItems layout items = .ok later := by
  obtain ⟨part, first, written⟩ := Sequencing.bind_eq_ok_iff.1 written
  obtain ⟨later, rest, same⟩ := Sequencing.bind_eq_ok_iff.1 written
  cases same
  exact ⟨part, later, rfl, first, rest⟩

theorem writeMembers_cons_eq_ok {name : String} {v : Value} {members : Mapping}
    {parts : List (List Char)} (written : writeMembers .compact ((.str name, v) :: members) = .ok parts) :
    ∃ part later, parts = (writeString .compact name ++ ':' :: part) :: later ∧
      writeValue .compact v = .ok part ∧ writeMembers .compact members = .ok later := by
  obtain ⟨key, named, written⟩ := Sequencing.bind_eq_ok_iff.1 written
  obtain ⟨part, first, written⟩ := Sequencing.bind_eq_ok_iff.1 written
  obtain ⟨later, rest, same⟩ := Sequencing.bind_eq_ok_iff.1 written
  cases named
  cases same
  exact ⟨part, later, by simp [Layout.compact], first, rest⟩

theorem readItems_last {fuel : Nat} {cs rest : List Char} {item : Value}
    (read : readValue fuel cs = .ok (item, ']' :: rest)) :
    readItems (fuel + 1) cs = .ok ([item], rest) := by
  rw [readItems, read]
  rfl

theorem readItems_comma {fuel : Nat} {cs text : List Char} {item : Value}
    (read : readValue fuel cs = .ok (item, ',' :: text)) (begins : Begins text) :
    readItems (fuel + 1) cs = (readItems fuel text).map fun r => (item :: r.1, r.2) := by
  rw [readItems, read]
  simp only [bind, Except.bind]
  rw [show skipSpace (',' :: text) = ',' :: text from rfl]
  simp only [begins.skipSpace_eq]
  cases readItems fuel text <;> rfl

theorem readMembers_last {fuel : Nat} {text rest : List Char} {name : String} {v : Value}
    {done : Mapping} (begins : Begins text) (read : readValue fuel text = .ok (v, '\x7d' :: rest)) :
    readMembers (fuel + 1) done (writeString .compact name ++ ':' :: text) =
      .ok (done.insert (.str name) v, rest) := by
  obtain ⟨tail, shape, named⟩ := readString_writeString name (':' :: text)
  rw [shape, readMembers, named]
  simp only [bind, Except.bind]
  rw [show skipSpace (':' :: text) = ':' :: text from rfl]
  simp only [begins.skipSpace_eq, read]
  rfl

theorem readMembers_comma {fuel : Nat} {text text' : List Char} {name : String} {v : Value}
    {done : Mapping} (begins : Begins text) (read : readValue fuel text = .ok (v, ',' :: text'))
    (begins' : Begins text') :
    readMembers (fuel + 1) done (writeString .compact name ++ ':' :: text) =
      readMembers fuel (done.insert (.str name) v) text' := by
  obtain ⟨tail, shape, named⟩ := readString_writeString name (':' :: text)
  rw [shape, readMembers, named]
  simp only [bind, Except.bind]
  rw [show skipSpace (':' :: text) = ':' :: text from rfl]
  simp only [begins.skipSpace_eq, read]
  rw [show skipSpace (',' :: text') = ',' :: text' from rfl]
  simp only [begins'.skipSpace_eq]

theorem readValue_bracket (fuel : Nat) {text : List Char} (begins : Begins text) :
    readValue (fuel + 1) ('[' :: text) =
      (readItems fuel text).map fun r => (.list r.1, r.2) := by
  rw [readValue, begins.skipSpace_eq]
  split
  next => exact absurd rfl (begins.ne_of_closes rfl _)
  next => cases readItems fuel text <;> rfl

theorem readValue_brace (fuel : Nat) {text : List Char} (begins : Begins text) :
    readValue (fuel + 1) ('\x7b' :: text) =
      (readMembers fuel [] text).map fun r => (.map r.1, r.2) := by
  rw [readValue, begins.skipSpace_eq]
  split
  next => exact absurd rfl (begins.ne_of_closes rfl _)
  next => cases readMembers fuel [] text <;> rfl

theorem itemsReadBack_cons {item : Value} {items : List Value} (head : ReadsBack item)
    (all : AllExact items) (tail : ItemsReadBack items) :
    ItemsReadBack (item :: items) := by
  intro parts written _ fuel rest enough
  obtain ⟨part, later, rfl, first, written⟩ := writeItems_cons_eq_ok written
  cases fuel with
  | zero => omega
  | succ fuel =>
    cases items with
    | nil =>
      cases written
      rw [Text.glue] at enough ⊢
      exact readItems_last (head part first fuel _ (by omega) (by simp [Stops]))
    | cons next items =>
      obtain ⟨part', later', rfl, first', -⟩ := writeItems_cons_eq_ok written
      have begins := (begins_of_writeValue all.1 first').glue later'
      rw [glue_cons part (by simp)] at enough ⊢
      rw [List.length_append, List.length_cons] at enough
      rw [List.append_assoc, List.cons_append,
        readItems_comma (head part first fuel _ (by omega) (by simp [Stops])) (begins.append _),
        tail _ written (by simp) fuel rest (by omega)]
      rfl

theorem membersReadBack_cons {name : String} {v : Value} {members : Mapping} (exact' : v.IsExact)
    (fresh : members.get? (.str name) = none) (head : ReadsBack v) (tail : MembersReadBack members)
    (all : MembersExact members) : MembersReadBack ((.str name, v) :: members) := by
  intro parts written _ done fuel rest enough apart
  obtain ⟨part, later, rfl, first, written⟩ := writeMembers_cons_eq_ok written
  have new : done.get? (.str name) = none := apart name (by simp [Mapping.get?_cons_str])
  have begins := begins_of_writeValue exact' first
  cases fuel with
  | zero => omega
  | succ fuel =>
    cases members with
    | nil =>
      cases written
      rw [Text.glue, List.length_append, List.length_cons] at enough
      have read := head part first fuel ('\x7d' :: rest) (by omega) (by simp [Stops])
      rw [Text.glue, List.append_assoc, List.cons_append, readMembers_last (begins.append _) read,
        Mapping.insert_of_get?_eq_none new]
    | cons next members =>
      obtain ⟨k, w⟩ := next
      obtain ⟨⟨name', rfl⟩, -⟩ := all
      obtain ⟨part', later', rfl, -, -⟩ := writeMembers_cons_eq_ok written
      have begins' := ((begins_writeString name').append (':' :: part')).glue later'
      rw [glue_cons _ (by simp)] at enough ⊢
      simp only [List.length_append, List.length_cons] at enough
      have read := fun rest => head part first fuel (',' :: rest) (by omega) (by simp [Stops])
      -- The members that follow are new to those read so far and to this one.
      have apart' : ∀ key, (Mapping.get? ((.str name', w) :: members) (.str key)).isSome = true →
          Mapping.get? (done ++ [(.str name, v)]) (.str key) = none := by
        intro key later
        have other : name ≠ key := by
          rintro rfl
          simp [fresh] at later
        have old := apart key (by simpa [Mapping.get?_cons_str, other] using later)
        simp [Mapping.get?_append, Mapping.get?_cons_str, old, other]
      have rest' := tail _ written (by simp) (done ++ [(.str name, v)]) fuel rest
        (by omega) apart'
      simp only [List.append_assoc, List.cons_append]
      rw [readMembers_comma (begins.append _) (read _) (begins'.append _),
        Mapping.insert_of_get?_eq_none new, rest']
      simp

theorem readsBack_list {items : List Value} (all : AllExact items) (back : ItemsReadBack items) :
    ReadsBack (.list items) := by
  intro text written fuel rest enough stops
  obtain ⟨parts, rfl, written'⟩ := writeValue_list_eq_ok written
  simp only [List.length_append, List.length_cons] at enough
  cases fuel with
  | zero => omega
  | succ fuel =>
    cases items with
    | nil =>
      cases written'
      rfl
    | cons item items =>
      obtain ⟨part, later, rfl, first, -⟩ := writeItems_cons_eq_ok written'
      have begins := (begins_of_writeValue all.1 first).glue later
      have read := back _ written' (by simp) fuel rest (by omega)
      rw [List.cons_append, List.append_assoc, List.singleton_append,
        readValue_bracket fuel (begins.append _), read]
      rfl

theorem readsBack_map {members : Mapping} (all : MembersExact members)
    (back : MembersReadBack members) : ReadsBack (.map members) := by
  intro text written fuel rest enough stops
  obtain ⟨parts, rfl, written'⟩ := writeValue_map_eq_ok written
  simp only [List.length_append, List.length_cons] at enough
  cases fuel with
  | zero => omega
  | succ fuel =>
    cases members with
    | nil =>
      cases written'
      rfl
    | cons member members =>
      obtain ⟨k, v⟩ := member
      obtain ⟨⟨name, rfl⟩, -⟩ := all
      obtain ⟨part, later, rfl, -, -⟩ := writeMembers_cons_eq_ok written'
      have begins := ((begins_writeString name).append (':' :: part)).glue later
      have read := back _ written' (by simp) [] fuel rest (by omega) (by simp)
      rw [List.cons_append, List.append_assoc, List.singleton_append,
        readValue_brace fuel (begins.append _), read]
      rfl

theorem readsBack_scalar {v : Value} (exact' : v.IsExact)
    (read : ∀ text, writeValue .compact v = .ok text → ∀ fuel rest, Stops rest →
      readValue (fuel + 1) (text ++ rest) = .ok (v, rest)) : ReadsBack v := by
  intro text written fuel rest enough stops
  obtain ⟨c, tail, rfl, -⟩ := begins_of_writeValue exact' written
  cases fuel with
  | zero => simp at enough
  | succ fuel => exact read _ written fuel rest stops

mutual

theorem readsBack : ∀ {v : Value}, v.IsExact → ReadsBack v
  | .null, exact' => readsBack_scalar exact' fun text written fuel rest _ => by
    cases written
    rfl
  | .bool b, exact' => readsBack_scalar exact' fun text written fuel rest _ => by
    cases written
    cases b <;> rfl
  | .int n, exact' => readsBack_scalar exact' fun text written fuel rest stops => by
    rw [writeValue_int exact'] at written
    cases written
    exact readValue_intChars exact' fuel stops
  | .str s, exact' => readsBack_scalar exact' fun text written fuel rest _ => by
    cases written
    exact readValue_quote fuel s rest
  | .list items, exact' => readsBack_list exact' (itemsReadBack exact')
  | .map members, exact' => readsBack_map exact' (membersReadBack exact')

theorem itemsReadBack : ∀ {items : List Value}, AllExact items → ItemsReadBack items
  | [], _ => fun _ _ nonempty => absurd rfl nonempty
  | _ :: _, ⟨first, later⟩ => itemsReadBack_cons (readsBack first) later (itemsReadBack later)

theorem membersReadBack : ∀ {members : Mapping}, MembersExact members → MembersReadBack members
  | [], _ => fun _ _ nonempty => absurd rfl nonempty
  | (_, _) :: _, ⟨⟨_, rfl⟩, value, fresh, later⟩ =>
    membersReadBack_cons value fresh (readsBack value) (membersReadBack later) later

end

theorem readAll_writeValue {v : Value} {text : List Char} (exact' : v.IsExact)
    (written : writeValue .compact v = .ok text) : readAll text = .ok v := by
  have read := readsBack exact' text written (text.length + 1) [] (by omega) (by simp [Stops])
  have begins := begins_of_writeValue exact' written
  rw [List.append_nil] at read
  rw [readAll]
  · simp only [begins.skipSpace_eq, read]
    rfl
  · exact fun tail => begins.ne_of_closes rfl tail

end Json

end BuildPipeline
