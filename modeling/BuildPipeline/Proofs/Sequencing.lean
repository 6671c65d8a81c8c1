set_option autoImplicit false

namespace BuildPipeline.Sequencing

variable {ε δ α β : Type}

theorem ok_bind {a : α} {f : α → Except ε β} : (.ok a : Except ε α) >>= f = f a :=
  rfl

theorem bind_eq_ok_iff {x : Except ε α} {f : α → Except ε β} {b : β} :
    x >>= f = .ok b ↔ ∃ a, x = .ok a ∧ f a = .ok b := by
  cases x <;> simp [bind, Except.bind]

theorem bind_eq_error_iff {x : Except ε α} {f : α → Except ε β} {e : ε} :
    x >>= f = .error e ↔ x = .error e ∨ ∃ a, x = .ok a ∧ f a = .error e := by
  cases x <;> simp [bind, Except.bind]

theorem map_eq_ok_iff {x : Except ε α} {f : α → β} {b : β} :
    x.map f = .ok b ↔ ∃ a, x = .ok a ∧ f a = b := by
  cases x <;> simp [Except.map]

@[simp] theorem mapError_ok {f : ε → δ} {a : α} : (.ok a : Except ε α).mapError f = .ok a :=
  rfl

@[simp] theorem mapError_error {f : ε → δ} {e : ε} :
    (.error e : Except ε α).mapError f = .error (f e) :=
  rfl

theorem mapError_eq_ok_iff {x : Except ε α} {f : ε → δ} {a : α} :
    x.mapError f = .ok a ↔ x = .ok a := by
  cases x <;> simp

theorem map_eq_error_iff {x : Except ε α} {f : α → β} {e : ε} :
    x.map f = .error e ↔ x = .error e := by
  cases x <;> simp [Except.map]

theorem mapError_eq_error_iff {x : Except ε α} {f : ε → δ} {d : δ} :
    x.mapError f = .error d ↔ ∃ e, x = .error e ∧ f e = d := by
  cases x <;> simp

theorem mapM_eq_ok {f : α → Except ε β} {g : α → β} {l : List α} (all : ∀ a ∈ l, f a = .ok (g a)) :
    l.mapM f = .ok (l.map g) := by
  induction l with
  | nil => rfl
  | cons a rest ih =>
    simp only [List.mem_cons, forall_eq_or_imp] at all
    rw [List.mapM_cons, all.1, ok_bind, ih all.2]
    rfl

theorem length_of_mapM_eq_ok {f : α → Except ε β} {l : List α} {bs : List β}
    (mapped : l.mapM f = .ok bs) : bs.length = l.length := by
  induction l generalizing bs with
  | nil =>
    cases mapped
    rfl
  | cons a rest ih =>
    rw [List.mapM_cons] at mapped
    obtain ⟨b, -, mapped⟩ := bind_eq_ok_iff.1 mapped
    obtain ⟨bs, others, mapped⟩ := bind_eq_ok_iff.1 mapped
    cases mapped
    rw [List.length_cons, List.length_cons, ih others]

theorem exists_of_mapM_eq_ok {f : α → Except ε β} {l : List α} {bs : List β}
    (mapped : l.mapM f = .ok bs) : ∀ a ∈ l, ∃ b, f a = .ok b := by
  induction l generalizing bs with
  | nil => simp
  | cons a rest ih =>
    rw [List.mapM_cons] at mapped
    obtain ⟨b, first, mapped⟩ := bind_eq_ok_iff.1 mapped
    obtain ⟨bs, others, -⟩ := bind_eq_ok_iff.1 mapped
    simp only [List.mem_cons, forall_eq_or_imp]
    exact ⟨⟨b, first⟩, ih others⟩

theorem exists_of_mem_of_mapM_eq_ok {f : α → Except ε β} {l : List α} {bs : List β}
    (mapped : l.mapM f = .ok bs) : ∀ b ∈ bs, ∃ a ∈ l, f a = .ok b := by
  induction l generalizing bs with
  | nil => cases mapped; simp
  | cons a rest ih =>
    rw [List.mapM_cons] at mapped
    obtain ⟨b, first, mapped⟩ := bind_eq_ok_iff.1 mapped
    obtain ⟨others, later, mapped⟩ := bind_eq_ok_iff.1 mapped
    cases mapped
    rw [List.forall_mem_cons]
    refine ⟨⟨a, by simp, first⟩, fun b' there => ?_⟩
    obtain ⟨a', member, read⟩ := ih later b' there
    exact ⟨a', by simp [member], read⟩

theorem exists_of_mapM_eq_error {f : α → Except ε β} {l : List α} {e : ε}
    (fails : l.mapM f = .error e) : ∃ a ∈ l, f a = .error e := by
  induction l with
  | nil => cases fails
  | cons a rest ih =>
    rw [List.mapM_cons, bind_eq_error_iff] at fails
    rcases fails with first | ⟨b, -, fails⟩
    · exact ⟨a, by simp, first⟩
    · rcases bind_eq_error_iff.1 fails with others | ⟨_, -, never⟩
      · obtain ⟨a', member, fails⟩ := ih others
        exact ⟨a', by simp [member], fails⟩
      · cases never

end BuildPipeline.Sequencing
