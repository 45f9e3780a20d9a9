import CollectionScript.Proofs.Form.Builtin
import CollectionScript.Proofs.Schema.Binding
import Mathlib.Data.List.Induction
import Mathlib.Data.List.Nodup

/-! The order of the arguments. Every argument has a place if each is for some parameter and no two are for
the same one, which does not depend on the order; nor does what is bound then, or what is missing. Only
which of the arguments is left over does. -/
namespace CollectionScript
namespace Schema

variable {schema : Schema} {before arguments arguments' : List Argument} {a : Argument}

theorem names_concat (before : List Argument) (a : Argument) :
    schema.names (before ++ [a]) = schema.names before ++ (schema.name? a).toList := by
  rw [names, List.filterMap_append, ← names]
  cases h : schema.name? a <;> simp [h]

theorem mem_names_iff {name : Text} :
    name ∈ schema.names arguments ↔ ∃ a ∈ arguments, ∃ value, schema.Target a name value := by
  simp only [names, List.mem_filterMap, name?_eq_some_iff]

theorem surplus_iff :
    schema.Surplus before a ↔ ∀ name, schema.name? a = some name → name ∈ schema.names before := by
  simp only [name?_eq_some_iff, mem_names_iff]
  constructor
  · rintro (hnone | ⟨name, value, htarget, hbefore⟩) name' ⟨value', htarget'⟩
    · exact absurd ⟨name', value', htarget'⟩ hnone
    · rwa [← (htarget.unique htarget').1]
  · intro htaken
    by_cases hsome : ∃ name value, schema.Target a name value
    · obtain ⟨name, value, htarget⟩ := hsome
      exact .inr ⟨name, value, htarget, htaken name ⟨value, htarget⟩⟩
    · exact .inl hsome

theorem placed_iff :
    schema.Placed arguments ↔
      (schema.names arguments).length = arguments.length ∧ (schema.names arguments).Nodup := by
  -- From the end, since an argument is surplus for what is before it.
  induction arguments using List.reverseRecOn with
  | nil => simp [names]
  | append_singleton before a ih =>
    have hle : (schema.names before).length ≤ before.length := List.length_filterMap_le _ _
    rw [placed_concat_iff, ih, surplus_iff, names_concat, List.length_append, List.length_append]
    cases schema.name? a with
    | none =>
      have hshort : (schema.names before).length ≠ before.length + 1 := by omega
      simp [hshort]
    | some name =>
      rw [Option.toList_some, List.nodup_append_comm, List.singleton_append, List.nodup_cons]
      simp only [Option.some.injEq, forall_eq', List.length_singleton, Nat.add_right_cancel_iff]
      exact ⟨fun h => ⟨h.1.1, h.2, h.1.2⟩, fun h => ⟨⟨h.1, h.2.2⟩, h.2.1⟩⟩

theorem Placed.perm (h : schema.Placed arguments) (hperm : arguments.Perm arguments') :
    schema.Placed arguments' := by
  have hnames : (schema.names arguments).Perm (schema.names arguments') := hperm.filterMap _
  obtain ⟨hlength, hnodup⟩ := placed_iff.1 h
  exact placed_iff.2 ⟨by rw [← hnames.length_eq, hlength, hperm.length_eq], hnames.nodup_iff.1 hnodup⟩

theorem placed_perm_iff (hperm : arguments.Perm arguments') :
    schema.Placed arguments ↔ schema.Placed arguments' := ⟨(·.perm hperm), (·.perm hperm.symm)⟩

/-- Arguments in another order have the same targets. -/
theorem Holds.eq_of_perm {bound bound' : Dictionary Text} (h : schema.Holds arguments bound)
    (h' : schema.Holds arguments' bound') (hperm : arguments.Perm arguments') : bound = bound' := by
  refine Dictionary.ext_get? fun name => Option.ext fun value => ?_
  rw [h.get?_iff, h'.get?_iff]
  simp only [hperm.mem_iff]

theorem missing?_perm (hperm : arguments.Perm arguments') (bound : Dictionary Text) :
    schema.missing? arguments bound = schema.missing? arguments' bound := by
  cases arguments with
  | nil => rw [hperm.nil_eq]
  | cons a arguments =>
    cases arguments' with
    | nil => exact absurd hperm.eq_nil (List.cons_ne_nil _ _)
    | cons a' arguments' => rfl

theorem Placed.outcome_bind_perm (h : schema.Placed arguments) (hperm : arguments.Perm arguments')
    (command : Text) :
    (schema.bind command arguments).outcome = (schema.bind command arguments').outcome := by
  obtain ⟨bound, hholds, hrun⟩ := bind_of_placed command h
  obtain ⟨bound', hholds', hrun'⟩ := bind_of_placed command (h.perm hperm)
  obtain rfl := hholds.eq_of_perm hholds' hperm
  rw [hrun, hrun', missing?_perm hperm]

theorem bind_of_not_placed (command : Text) (h : ¬ schema.Placed arguments) :
    ∃ index token, (schema.bind command arguments).outcome = .error (.tooManyArguments command index token) := by
  obtain ⟨before, a, after, rfl, hbefore, ha⟩ := (placed_or_surplus arguments).resolve_left h
  exact ⟨_, _, bind_of_surplus command hbefore ha after⟩

/-- Either the order makes no difference or, in either order, one of the arguments is left over. -/
theorem bind_perm_cases (schema : Schema) (command : Text) (hperm : arguments.Perm arguments') :
    (schema.bind command arguments).outcome = (schema.bind command arguments').outcome ∨
      (∃ index token, (schema.bind command arguments).outcome =
        .error (.tooManyArguments command index token)) ∧
      ∃ index token, (schema.bind command arguments').outcome =
        .error (.tooManyArguments command index token) := by
  by_cases h : schema.Placed arguments
  · exact .inl (h.outcome_bind_perm hperm command)
  · exact .inr ⟨bind_of_not_placed command h, bind_of_not_placed command (mt (placed_perm_iff hperm).2 h)⟩

end Schema

/-- A constructor sees what is bound and not the order that it was given in. -/
theorem Form.construct_perm_cases (form : Form) {arguments arguments' : List Argument}
    (hperm : arguments.Perm arguments') :
    (form.construct arguments).outcome = (form.construct arguments').outcome ∨
      (∃ index token, (form.construct arguments).outcome =
        .error (.tooManyArguments form.keyword index token)) ∧
      ∃ index token, (form.construct arguments').outcome =
        .error (.tooManyArguments form.keyword index token) := by
  rcases form.schema.bind_perm_cases form.keyword hperm with
    heq | ⟨⟨index, token, h⟩, ⟨index', token', h'⟩⟩
  · left
    rw [construct, construct, Run.outcome_bind, Run.outcome_bind, heq]
  · right
    exact ⟨⟨index, token, outcome_construct_of_error h⟩, ⟨index', token', outcome_construct_of_error h'⟩⟩

namespace Schema

/-- Arguments in another order are bound to the same values, lack the same parameter, or are too many as
well. So whatever the form is, the same command is built or the same error found, unless they are too many. -/
theorem bind_perm (schema : Schema) (command : Text) {arguments arguments' : List Argument}
    (hperm : arguments.Perm arguments') :
    (∀ bindings, (schema.bind command arguments).outcome = .ok bindings ↔
      (schema.bind command arguments').outcome = .ok bindings) ∧
    (∀ parameter, (schema.bind command arguments).outcome = .error (.missingArgument command parameter) ↔
      (schema.bind command arguments').outcome = .error (.missingArgument command parameter)) ∧
    ((∃ index token, (schema.bind command arguments).outcome =
        .error (.tooManyArguments command index token)) ↔
      ∃ index token, (schema.bind command arguments').outcome =
        .error (.tooManyArguments command index token)) ∧
    ∀ form : Form, (form.construct arguments).outcome = (form.construct arguments').outcome ∨
      (∃ index token, (form.construct arguments).outcome =
        .error (.tooManyArguments form.keyword index token)) ∧
      ∃ index token, (form.construct arguments').outcome =
        .error (.tooManyArguments form.keyword index token) := by
  have hform (form : Form) := form.construct_perm_cases hperm
  rcases schema.bind_perm_cases command hperm with heq | ⟨hleft, hright⟩
  · rw [heq]
    exact ⟨fun _ => Iff.rfl, fun _ => Iff.rfl, Iff.rfl, hform⟩
  · refine ⟨fun bindings => ?_, fun parameter => ?_, iff_of_true hleft hright, hform⟩
    all_goals
      obtain ⟨index, token, h⟩ := hleft
      obtain ⟨index', token', h'⟩ := hright
      simp [h, h']

theorem bind_perm_port_first :
    [Argument.written "port:22", .substituted "a:b"].Perm [.substituted "a:b", .written "port:22"] ∧
      ∃ bindings, (Form.source.schema.bind "FROM" [.written "port:22", .substituted "a:b"]).outcome = .ok bindings ∧
        (Form.source.schema.bind "FROM" [.substituted "a:b", .written "port:22"]).outcome = .ok bindings := by
  have hperm : [Argument.written "port:22", .substituted "a:b"].Perm [.substituted "a:b", .written "port:22"] :=
    .swap _ _ _
  have hbind : (Form.source.schema.bind "FROM" [.written "port:22", .substituted "a:b"]).outcome =
      .ok ⟨"FROM", .ofList [("hosts", "a:b"), ("port", "22")]⟩ := by decide +kernel
  exact ⟨hperm, _, hbind, ((bind_perm Form.source.schema "FROM" hperm).1 _).1 hbind⟩

end Schema
end CollectionScript
