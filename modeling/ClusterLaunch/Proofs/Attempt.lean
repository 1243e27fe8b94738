import Mathlib.Data.List.Forall2

/-! # Attempts in a row

An attempt gives a result or an error. A row of attempts that stops at the first
error gives results exactly if each attempt gives its own.
-/

namespace ClusterLaunch

variable {α β ε ε' : Type}

theorem exists_of_isOk {attempt : Except ε α} (h : attempt.isOk = true) :
    ∃ result, attempt = .ok result := by
  cases attempt with
  | ok result => exact ⟨result, rfl⟩
  | error fault => cases h

theorem exists_of_any {attempt : Except ε α} {holds : α → Bool}
    (h : attempt.toOption.any holds = true) :
    ∃ result, attempt = .ok result ∧ holds result = true := by
  cases attempt with
  | ok result => exact ⟨result, rfl, h⟩
  | error fault => cases h

theorem eq_ok_of_toOption {attempt : Except ε α} {result : α}
    (h : attempt.toOption = some result) : attempt = .ok result := by
  cases attempt with
  | ok found => exact congrArg Except.ok (Option.some.inj h)
  | error fault => cases h

theorem bind_eq_ok_iff {attempt : Except ε α} {next : α → Except ε β} {result : β} :
    (attempt >>= next) = .ok result ↔ ∃ value, attempt = .ok value ∧ next value = .ok result := by
  cases attempt <;> simp [bind, Except.bind]

theorem bind_eq_error_iff {attempt : Except ε α} {next : α → Except ε β} {fault : ε} :
    (attempt >>= next) = .error fault ↔
      attempt = .error fault ∨ ∃ value, attempt = .ok value ∧ next value = .error fault := by
  cases attempt <;> simp [bind, Except.bind]

theorem mapError_eq_error_iff {attempt : Except ε α} {f : ε → ε'} {fault : ε'} :
    attempt.mapError f = .error fault ↔ ∃ cause, attempt = .error cause ∧ f cause = fault := by
  cases attempt <;> simp [Except.mapError]

theorem mapError_eq_ok_iff {attempt : Except ε α} {f : ε → ε'} {result : α} :
    attempt.mapError f = .ok result ↔ attempt = .ok result := by
  cases attempt <;> simp [Except.mapError]

theorem map_eq_ok_iff {attempt : Except ε α} {f : α → β} {result : β} :
    attempt.map f = .ok result ↔ ∃ value, attempt = .ok value ∧ f value = result := by
  cases attempt <;> simp [Except.map]

theorem map_eq_error_iff {attempt : Except ε α} {f : α → β} {fault : ε} :
    attempt.map f = .error fault ↔ attempt = .error fault := by
  cases attempt <;> simp [Except.map]

theorem isOk_map {attempt : Except ε α} {f : α → β} : (attempt.map f).isOk = attempt.isOk := by
  cases attempt <;> rfl

theorem mapM_eq_ok_iff {f : α → Except ε β} {inputs : List α} {results : List β} :
    inputs.mapM f = .ok results ↔
      List.Forall₂ (fun input result => f input = .ok result) inputs results := by
  induction inputs generalizing results with
  | nil => cases results <;> simp [pure, Except.pure]
  | cons input rest ih =>
      simp only [List.mapM_cons, bind_eq_ok_iff, List.forall₂_cons_left_iff]
      constructor
      · rintro ⟨result, first, others, row, same⟩
        cases same
        exact ⟨result, others, first, ih.1 row, rfl⟩
      · rintro ⟨result, others, first, row, rfl⟩
        exact ⟨result, first, others, ih.2 row, rfl⟩

theorem exists_mapM {f : α → Except ε β} {inputs : List α}
    (each : ∀ input ∈ inputs, ∃ result, f input = .ok result) :
    ∃ results, inputs.mapM f = .ok results := by
  induction inputs with
  | nil => exact ⟨[], rfl⟩
  | cons input rest ih =>
      obtain ⟨⟨result, first⟩, others⟩ := List.forall_mem_cons.1 each
      obtain ⟨results, row⟩ := ih others
      exact ⟨result :: results, mapM_eq_ok_iff.2 (.cons first (mapM_eq_ok_iff.1 row))⟩

end ClusterLaunch
