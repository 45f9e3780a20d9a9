import CollectionScript.Form.Builtin
import CollectionScript.Proofs.Run

/-! What forms build, and what the built-in ones do. A form builds from the values that its arguments are bound
to; where binding fails, its error is the error of the form. -/
namespace CollectionScript

def Error.IsInvalid (e : Error) : Prop :=
  ∃ command parameter reason, e = .invalidArgument command parameter reason

theorem Bindings.require_eq_error_iff {bindings : Bindings} {parameter : Text} {e : Error} :
    bindings.require parameter = .error e ↔
      bindings.get? parameter = none ∧ e = .missingArgument bindings.command parameter := by
  cases h : bindings.get? parameter <;> simp [require, h, eq_comm]

namespace Form

section
variable {form : Form} {arguments : List Argument}

theorem outcome_construct_of_bind {bindings : Bindings}
    (h : (form.schema.bind form.keyword arguments).outcome = .ok bindings) :
    (form.construct arguments).outcome = form.build bindings := by
  rw [construct, Run.outcome_bind_of_ok h]
  rfl

theorem outcome_construct_of_error {e : Error}
    (h : (form.schema.bind form.keyword arguments).outcome = .error e) :
    (form.construct arguments).outcome = .error e := by
  rw [construct, Run.bind_of_error h]

end

theorem keyword_of_build {form : Form} (hform : form ∈ builtins) {bindings : Bindings}
    {command : Command} (h : form.build bindings = .ok command) :
    command.keyword = form.keyword := by
  cases hform using builtins_cases
  all_goals
    simp only [output, workdir, source, runAs, kubeconfig, login, exports, copy, capture, run,
      preamble, action, except_bind_eq_ok_iff] at h
  case source =>
    obtain ⟨value, -, hosts, -, h⟩ := h
    cases hport : bindings.get? "port" with
    | none =>
      simp only [hport, except_bind_eq_ok_iff] at h
      obtain ⟨port, -, ⟨⟩⟩ := h
      rfl
    | some text =>
      simp only [hport, except_bind_eq_ok_iff] at h
      obtain ⟨port, -, ⟨⟩⟩ := h
      rfl
  case exports =>
    obtain ⟨value, -, items, -, assignments, -, ⟨⟩⟩ := h
    rfl
  case copy =>
    obtain ⟨value, -, paths, -, ⟨⟩⟩ := h
    rfl
  case output | workdir | runAs | kubeconfig | login | capture | run =>
    obtain ⟨value, -, ⟨⟩⟩ := h
    rfl

/-- The error of a value that the form does not take for one of its parameters. -/
def IsValueFault (form : Form) (e : Error) : Prop :=
  ∃ p ∈ form.schema.parameters, ∃ reason, e = .invalidArgument form.keyword p.name reason

theorem error_of_readList {command parameter value : Text} {e : Error}
    (h : readList command parameter value = .error e) :
    ∃ reason, e = .invalidArgument command parameter reason := by
  unfold readList at h
  split at h
  · exact ⟨_, (Except.error.inj h).symm⟩
  · cases h

theorem isInvalid_of_readList {command parameter value : Text} {e : Error}
    (h : readList command parameter value = .error e) : e.IsInvalid :=
  ⟨command, parameter, error_of_readList h⟩

theorem error_of_readPort {value : Text} {e : Error} (h : readPort value = .error e) :
    ∃ reason, e = .invalidArgument "FROM" "port" reason := by
  unfold readPort at h
  split at h
  · cases h
  · exact ⟨_, (Except.error.inj h).symm⟩

theorem error_of_readAssignments {items : List Text} {e : Error}
    (h : readAssignments items = .error e) : ∃ reason, e = .invalidArgument "ENV" "vars" reason := by
  induction items with
  | nil => cases h
  | cons item items ih =>
    rw [readAssignments, except_bind_eq_error_iff] at h
    rcases h with h | ⟨assignment, -, h⟩
    · unfold readAssignment at h
      split at h
      · cases h
      · exact ⟨_, (Except.error.inj h).symm⟩
    · rcases except_bind_eq_error_iff.1 h with h | ⟨assignments, -, ⟨⟩⟩
      exact ih h

theorem isInvalid_of_readAssignments {items : List Text} {e : Error}
    (h : readAssignments items = .error e) : e.IsInvalid :=
  ⟨"ENV", "vars", error_of_readAssignments h⟩

/-- A built-in constructor fails for a required parameter that has no value or for a value that it does
not take. -/
theorem error_of_build {form : Form} (hform : form ∈ builtins) {bindings : Bindings} {e : Error}
    (h : form.build bindings = .error e) :
    (∃ p ∈ form.schema.required, bindings.require p.name = .error e) ∨ form.IsValueFault e := by
  cases hform using builtins_cases
  all_goals
    simp only [output, workdir, source, runAs, kubeconfig, login, exports, copy, capture, run,
      preamble, action, except_bind_eq_error_iff, reduceCtorEq, and_false, exists_false, or_false] at h
  case output | workdir | kubeconfig => exact .inl ⟨⟨"path", true, true⟩, by decide, h⟩
  case source =>
    rcases h with h | ⟨value, -, h | ⟨hosts, -, h⟩⟩
    · exact .inl ⟨⟨"hosts", true, true⟩, by decide, h⟩
    · exact .inr ⟨⟨"hosts", true, true⟩, by decide, error_of_readList h⟩
    · cases hport : bindings.get? "port" with
      | none =>
        rw [hport] at h
        cases h
      | some value =>
        rw [hport] at h
        rcases except_bind_eq_error_iff.1 h with h | ⟨port, -, ⟨⟩⟩
        exact .inr ⟨⟨"port", false, false⟩, by decide, error_of_readPort h⟩
  case runAs => exact .inl ⟨⟨"userid", true, true⟩, by decide, h⟩
  case login => exact .inl ⟨⟨"username", false, true⟩, by decide, h⟩
  case exports =>
    rcases h with h | ⟨value, -, h | ⟨items, -, h⟩⟩
    · exact .inl ⟨⟨"vars", true, true⟩, by decide, h⟩
    · exact .inr ⟨⟨"vars", true, true⟩, by decide, error_of_readList h⟩
    · exact .inr ⟨⟨"vars", true, true⟩, by decide, error_of_readAssignments h⟩
  case copy =>
    rcases h with h | ⟨value, -, h⟩
    · exact .inl ⟨⟨"paths", true, true⟩, by decide, h⟩
    · exact .inr ⟨⟨"paths", true, true⟩, by decide, error_of_readList h⟩
  case capture | run => exact .inl ⟨⟨"cmd", true, true⟩, by decide, h⟩

end Form
end CollectionScript
