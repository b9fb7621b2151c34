namespace GuardedRecords

variable {ε ε' α β : Type}

@[simp] theorem ok_bind (a : α) (next : α → Except ε β) : (Except.ok a >>= next) = next a := rfl

@[simp] theorem error_bind (fault : ε) (next : α → Except ε β) :
    (Except.error fault >>= next) = Except.error fault := rfl

@[simp] theorem ok_mapError (a : α) (f : ε → ε') :
    (Except.ok a : Except ε α).mapError f = .ok a := rfl

@[simp] theorem error_mapError (fault : ε) (f : ε → ε') :
    (Except.error fault : Except ε α).mapError f = .error (f fault) := rfl

/-- A computation of two steps succeeds when both of its steps do. -/
theorem bind_eq_ok_iff {run : Except ε α} {next : α → Except ε β} {b : β} :
    (run >>= next) = .ok b ↔ ∃ a, run = .ok a ∧ next a = .ok b := by
  cases run with
  | error fault => simp
  | ok a => simp

/-- A computation of two steps fails with the fault of the step that fails. -/
theorem bind_eq_error_iff {run : Except ε α} {next : α → Except ε β} {fault : ε} :
    (run >>= next) = .error fault ↔
      run = .error fault ∨ ∃ a, run = .ok a ∧ next a = .error fault := by
  cases run with
  | error fault => simp
  | ok a => simp

theorem bind_ok_eq_error_iff {run : Except ε α} {f : α → β} {fault : ε} :
    (run >>= fun a => .ok (f a)) = .error fault ↔ run = .error fault := by
  cases run with
  | error cause => simp
  | ok a => simp

theorem map_eq_ok_iff {run : Except ε α} {f : α → β} {b : β} :
    run.map f = .ok b ↔ ∃ a, run = .ok a ∧ f a = b := by
  cases run with
  | error fault => simp [Except.map]
  | ok a => simp [Except.map]

theorem map_eq_error_iff {run : Except ε α} {f : α → β} {fault : ε} :
    run.map f = .error fault ↔ run = .error fault := by
  cases run with
  | error cause => simp [Except.map]
  | ok a => simp [Except.map]

theorem mapError_eq_ok_iff {run : Except ε α} {f : ε → ε'} {a : α} :
    run.mapError f = .ok a ↔ run = .ok a := by
  cases run with
  | error fault => simp
  | ok b => simp

theorem mapError_eq_error_iff {run : Except ε α} {f : ε → ε'} {fault : ε'} :
    run.mapError f = .error fault ↔ ∃ cause, run = .error cause ∧ f cause = fault := by
  cases run with
  | error cause => simp
  | ok a => simp

theorem toOption_eq_some_iff {run : Except ε α} {a : α} :
    run.toOption = some a ↔ run = .ok a := by
  cases run with
  | error fault => simp [Except.toOption]
  | ok b => simp [Except.toOption]

/-- A fault can be renamed before or after the next step. Where both steps fail in the same way, the
renaming is done once around them. -/
theorem bind_mapError (run : Except ε α) (next : α → Except ε β) (f : ε → ε') :
    (run >>= next).mapError f = run.mapError f >>= fun a => (next a).mapError f := by
  cases run <;> rfl

theorem map_mapError (run : Except ε α) (g : α → β) (f : ε → ε') :
    (run.map g).mapError f = (run.mapError f).map g := by
  cases run <;> rfl

/-- Whatever is among the results was made of one of the inputs. -/
theorem exists_of_mem_mapM {f : α → Except ε β} {inputs : List α} {results : List β} {b : β}
    (run : inputs.mapM f = .ok results) (member : b ∈ results) : ∃ a ∈ inputs, f a = .ok b := by
  induction inputs generalizing results with
  | nil =>
    cases run
    cases member
  | cons a rest ih =>
    rw [List.mapM_cons] at run
    obtain ⟨first, made, run⟩ := bind_eq_ok_iff.mp run
    obtain ⟨others, more, same⟩ := bind_eq_ok_iff.mp run
    cases same
    rcases List.mem_cons.mp member with rfl | later
    · exact ⟨a, List.mem_cons_self, made⟩
    · obtain ⟨input, inside, result⟩ := ih more later
      exact ⟨input, List.mem_cons_of_mem a inside, result⟩

theorem exists_mem_of_mapM {f : α → Except ε β} {inputs : List α} {results : List β} {a : α}
    (run : inputs.mapM f = .ok results) (member : a ∈ inputs) : ∃ b ∈ results, f a = .ok b := by
  induction inputs generalizing results with
  | nil => cases member
  | cons input rest ih =>
    rw [List.mapM_cons] at run
    obtain ⟨first, made, run⟩ := bind_eq_ok_iff.mp run
    obtain ⟨others, more, same⟩ := bind_eq_ok_iff.mp run
    cases same
    rcases List.mem_cons.mp member with rfl | later
    · exact ⟨first, List.mem_cons_self, made⟩
    · obtain ⟨b, inside, result⟩ := ih more later
      exact ⟨b, List.mem_cons_of_mem first inside, result⟩

theorem eq_nil_of_mapM {f : α → Except ε β} {inputs : List α}
    (run : inputs.mapM f = .ok []) : inputs = [] := by
  cases inputs with
  | nil => rfl
  | cons a rest =>
    rw [List.mapM_cons] at run
    obtain ⟨b, -, run⟩ := bind_eq_ok_iff.mp run
    obtain ⟨bs, -, same⟩ := bind_eq_ok_iff.mp run
    cases same

theorem exists_of_mapM_error {f : α → Except ε β} {inputs : List α} {fault : ε}
    (run : inputs.mapM f = .error fault) : ∃ a ∈ inputs, f a = .error fault := by
  induction inputs with
  | nil => cases run
  | cons input rest ih =>
    rw [List.mapM_cons] at run
    rcases bind_eq_error_iff.mp run with first | ⟨_, -, run⟩
    · exact ⟨input, List.mem_cons_self, first⟩
    · rcases bind_eq_error_iff.mp run with later | ⟨_, -, none⟩
      · obtain ⟨a, inside, failed⟩ := ih later
        exact ⟨a, List.mem_cons_of_mem input inside, failed⟩
      · cases none

end GuardedRecords
