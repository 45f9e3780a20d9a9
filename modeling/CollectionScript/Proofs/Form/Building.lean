import CollectionScript.Proofs.Command.Rendering
import CollectionScript.Proofs.Form.Builtin

/-! What the built-in forms make of values. The commands that they build have well-formed values, and
where they build none a value is at fault: no value that they require is missing once arguments have been
bound. -/
namespace CollectionScript

namespace Schema

variable {schema : Schema} {command : Text} {arguments : List Argument}

theorem isSome_of_missing? {bound : Dictionary Text} (h : schema.missing? arguments bound = none)
    {p : Parameter} (hp : p ∈ schema.required) : (bound.get? p.name).isSome := by
  cases arguments with
  | nil =>
    obtain ⟨-, hhead⟩ := Option.or_eq_none_iff.1 h
    rw [List.head?_eq_none_iff.1 hhead] at hp
    cases hp
  | cons argument arguments =>
    have hbound : ¬ bound.get? p.name = none := by simpa using List.find?_eq_none.1 h p hp
    exact Option.isSome_iff_ne_none.2 hbound

theorem require_of_bind {bindings : Bindings}
    (h : (schema.bind command arguments).outcome = .ok bindings) {p : Parameter}
    (hp : p ∈ schema.required) : ∃ value, bindings.require p.name = .ok value := by
  obtain ⟨bound, -, hbound⟩ := Run.outcome_bind_eq_ok_iff.1 h
  cases hmissing : schema.missing? arguments bound with
  | some q =>
    rw [hmissing] at hbound
    cases hbound
  | none =>
    rw [hmissing] at hbound
    obtain rfl := Except.ok.inj hbound
    obtain ⟨value, hvalue⟩ := Option.isSome_iff_exists.1 (isSome_of_missing? hmissing hp)
    exact ⟨value, Command.require_of_get? hvalue⟩

end Schema

namespace Form

variable {form : Form} {bindings : Bindings}

theorem isItem_of_readList {command parameter value : Text} {items : List Text}
    (h : readList command parameter value = .ok items) :
    items ≠ [] ∧ ∀ item ∈ items, Text.IsItem item := by
  rw [readList] at h
  split at h
  · cases h
  · next hne =>
    obtain rfl := Except.ok.inj h
    refine ⟨hne, fun item hitem => ?_⟩
    exact ⟨Text.ne_nil_of_mem_fields hitem, Text.not_isBlank_of_mem_fields hitem⟩

theorem port_of_readPort {value : Text} {port : Nat} (h : readPort value = .ok port) :
    1 ≤ port ∧ port ≤ 65535 := by
  rw [readPort] at h
  split at h
  · next n hn =>
    obtain rfl := Except.ok.inj h
    simpa using (Option.filter_eq_some_iff.1 hn).2
  · cases h

theorem unbroken_of_item {assignment : Assignment} (h : Text.IsItem assignment.item) :
    Text.Unbroken assignment.value := fun c hc =>
  h.2 c (List.mem_append_right _ (List.mem_cons_of_mem _ hc))

theorem wellFormed_of_build (hform : form ∈ builtins) {command : Command}
    (h : form.build bindings = .ok command) : command.WellFormed := by
  cases hform using builtins_cases
  all_goals
    simp only [output, workdir, source, runAs, kubeconfig, login, exports, copy, capture, run,
      preamble, action, except_bind_eq_ok_iff] at h
  case source =>
    obtain ⟨value, -, hosts, hhosts, h⟩ := h
    obtain ⟨hne, hitems⟩ := isItem_of_readList hhosts
    cases hport : bindings.get? "port" with
    | none =>
      simp only [hport, except_bind_eq_ok_iff] at h
      obtain ⟨port, ⟨⟩, ⟨⟩⟩ := h
      exact ⟨hne, hitems, by decide, by decide⟩
    | some text =>
      simp only [hport, except_bind_eq_ok_iff] at h
      obtain ⟨port, hport, ⟨⟩⟩ := h
      exact ⟨hne, hitems, port_of_readPort hport⟩
  case exports =>
    obtain ⟨value, -, items, hlist, assignments, hassignments, ⟨⟩⟩ := h
    obtain ⟨hne, hitems⟩ := isItem_of_readList hlist
    obtain ⟨rfl, hnames⟩ := items_of_readAssignments hassignments
    refine ⟨by simpa using hne, fun a ha => ⟨hnames a ha, ?_⟩⟩
    exact unbroken_of_item (hitems _ (List.mem_map_of_mem ha))
  case copy =>
    obtain ⟨value, -, paths, hpaths, ⟨⟩⟩ := h
    exact isItem_of_readList hpaths
  case output | workdir | runAs | kubeconfig | login | capture | run =>
    obtain ⟨value, -, ⟨⟩⟩ := h
    trivial

/-- Once arguments have been bound, a built-in form fails for a value only. -/
theorem isValueFault_of_bind (hform : form ∈ builtins) {command : Text} {arguments : List Argument}
    (hbind : (form.schema.bind command arguments).outcome = .ok bindings) {e : Error}
    (h : form.build bindings = .error e) : form.IsValueFault e := by
  rcases error_of_build hform h with ⟨p, hp, hmissing⟩ | hfault
  · obtain ⟨value, hvalue⟩ := Schema.require_of_bind hbind hp
    rw [hvalue] at hmissing
    cases hmissing
  · exact hfault

end Form
end CollectionScript
