import BuildPipeline.Json.Reader
import BuildPipeline.Proofs.Sequencing
import BuildPipeline.Proofs.Value.Keyed

set_option autoImplicit false

namespace BuildPipeline.Json

open Sequencing Value

theorem isKeyed_of_numberOf {negative : Bool} {whole fraction : List Char} {exponent : Option Int}
    {v : Value} (read : numberOf negative whole fraction exponent = .ok v) : v.IsKeyed := by
  unfold numberOf at read
  split at read
  · split at read
    · cases read
    · cases read; exact trivial
  · cases read; exact trivial

theorem isKeyed_of_readNumber {cs rest : List Char} {v : Value}
    (read : readNumber cs = .ok (v, rest)) : v.IsKeyed := by
  unfold readNumber at read
  split at read
  split at read
  · cases read
  · split at read
    split at read <;>
    · obtain ⟨w, number, equal⟩ := map_eq_ok_iff.1 read
      cases equal
      exact isKeyed_of_numberOf number

mutual

theorem isKeyed_of_readValue : ∀ {fuel : Nat} {cs rest : List Char} {v : Value},
    readValue fuel cs = .ok (v, rest) → v.IsKeyed
  | 0, _, _, _, read => by cases read
  | fuel + 1, cs, rest, v, read => by
    unfold readValue at read
    split at read
    · obtain ⟨s, -, read⟩ := bind_eq_ok_iff.1 read
      cases read
      exact trivial
    · split at read
      · cases read
        exact trivial
      · obtain ⟨⟨members, rest'⟩, inner, read⟩ := bind_eq_ok_iff.1 read
        cases read
        exact membersKeyed_of_readMembers membersKeyed_nil inner
    · split at read
      · cases read
        exact trivial
      · obtain ⟨⟨items, rest'⟩, inner, read⟩ := bind_eq_ok_iff.1 read
        cases read
        exact allKeyed_of_readItems inner
    all_goals first | (cases read; exact trivial) | exact isKeyed_of_readNumber read

theorem membersKeyed_of_readMembers : ∀ {fuel : Nat} {done : Mapping} {cs rest : List Char}
    {m : Mapping}, MembersKeyed done → readMembers fuel done cs = .ok (m, rest) → MembersKeyed m
  | 0, _, _, _, _, _, read => by cases read
  | fuel + 1, done, cs, rest, m, keyed, read => by
    unfold readMembers at read
    split at read
    · obtain ⟨⟨key, rest'⟩, -, read⟩ := bind_eq_ok_iff.1 read
      dsimp only at read
      split at read
      · obtain ⟨⟨value, rest''⟩, inner, read⟩ := bind_eq_ok_iff.1 read
        dsimp only at read
        have more := membersKeyed_insert keyed (.str key) (isKeyed_of_readValue inner)
        split at read
        · cases read
          exact more
        · exact membersKeyed_of_readMembers more read
        · cases read
      · cases read
    · cases read

theorem allKeyed_of_readItems : ∀ {fuel : Nat} {cs rest : List Char} {items : List Value},
    readItems fuel cs = .ok (items, rest) → AllKeyed items
  | 0, _, _, _, read => by cases read
  | fuel + 1, cs, rest, items, read => by
    unfold readItems at read
    obtain ⟨⟨item, rest'⟩, first, read⟩ := bind_eq_ok_iff.1 read
    dsimp only at read
    split at read
    · cases read
      exact ⟨isKeyed_of_readValue first, trivial⟩
    · obtain ⟨⟨others, rest''⟩, later, read⟩ := bind_eq_ok_iff.1 read
      cases read
      exact ⟨isKeyed_of_readValue first, allKeyed_of_readItems later⟩
    · cases read

end

theorem isKeyed_of_readAll {cs : List Char} {v : Value} (read : readAll cs = .ok v) :
    v.IsKeyed := by
  unfold readAll at read
  split at read
  · cases read
  · obtain ⟨⟨w, rest⟩, inner, read⟩ := bind_eq_ok_iff.1 read
    dsimp only at read
    split at read
    · cases read
      exact isKeyed_of_readValue inner
    · cases read

theorem isKeyed_of_read {text : String} {v : Value} (read : Json.read text = .ok v) : v.IsKeyed :=
  isKeyed_of_readAll (mapError_eq_ok_iff.1 read)

end BuildPipeline.Json
