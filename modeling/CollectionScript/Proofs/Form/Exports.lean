import CollectionScript.Proofs.Command.Rendering
import CollectionScript.Proofs.Schema.Supplying
import CollectionScript.Proofs.Text.Fields

/-! Which variables can be exported. Every item of the list has to be an assignment, and then the assignments
are those that the items spell, in their order; one item that is none is enough for nothing to be exported,
and the first such item is the one that is reported. -/
namespace CollectionScript

def Text.IsAssignment (item : Text) : Prop := ∃ assignment : Assignment, assignment.WrittenAs item

namespace Form

def assignmentFault (item : Text) : Error :=
  .invalidArgument "ENV" "vars" ("expected KEY=VALUE, got '" ++ item ++ "'")

variable {item value : Text} {items : List Text}

theorem readAssignment_of_not_isAssignment (h : ¬ item.IsAssignment) :
    readAssignment item = .error (assignmentFault item) := by
  cases hread : readAssignment item with
  | ok assignment => exact absurd ⟨assignment, readAssignment_eq_ok_iff.1 hread⟩ h
  | error e =>
    rw [readAssignment] at hread
    split at hread
    · cases hread
    · exact hread.symm

theorem exists_writtenAs_iff :
    (∃ assignments, List.Forall₂ Assignment.WrittenAs assignments items) ↔
      ∀ item ∈ items, item.IsAssignment := by
  induction items with
  | nil => simp
  | cons item items ih =>
    rw [List.forall_mem_cons, ← ih]
    constructor
    · rintro ⟨_, h⟩
      obtain ⟨assignment, assignments, hitem, hitems, rfl⟩ := List.forall₂_cons_right_iff.1 h
      exact ⟨⟨assignment, hitem⟩, ⟨assignments, hitems⟩⟩
    · rintro ⟨⟨assignment, hitem⟩, ⟨assignments, hitems⟩⟩
      exact ⟨assignment :: assignments, .cons hitem hitems⟩

/-- The items before the one at fault are read and then forgotten. -/
theorem readAssignments_of_fault {before after : List Text} (hbefore : ∀ i ∈ before, i.IsAssignment)
    (hitem : ¬ item.IsAssignment) :
    readAssignments (before ++ item :: after) = .error (assignmentFault item) := by
  induction before with
  | nil =>
    rw [List.nil_append, readAssignments, readAssignment_of_not_isAssignment hitem]
    rfl
  | cons i before ih =>
    obtain ⟨⟨assignment, hi⟩, hbefore⟩ := List.forall_mem_cons.1 hbefore
    rw [List.cons_append, readAssignments, readAssignment_eq_ok_iff.2 hi, except_ok_bind, ih hbefore]
    rfl

theorem build_exports {bindings : Bindings} (hvars : bindings.get? "vars" = some value) :
    exports.build bindings = (do
      let items ← readList "ENV" "vars" value
      .ok (.exports (← readAssignments items))) := by
  have hrequire : bindings.require "vars" = .ok value := Command.require_of_get? hvars
  simp only [exports, preamble, hrequire, except_ok_bind]

/-- The value has one list of items. Exports are built from it if there is an item and every item is an
assignment, and then they are the assignments that the items spell, one for each and in their order.
Otherwise there are none at all: the error says that there is no item, or names the first that is no
assignment. -/
theorem construct_exports {argument : Argument} {value : Text}
    (hargument : exports.schema.Target argument "vars" value) :
    ∃ items, (∀ items', Text.Items value items' ↔ items' = items) ∧
      ((∃ command, (exports.construct [argument]).outcome = .ok command) ↔
        items ≠ [] ∧ ∀ item ∈ items, item.IsAssignment) ∧
      (∀ command, (exports.construct [argument]).outcome = .ok command → ∃ assignments,
        command = .exports assignments ∧ List.Forall₂ Assignment.WrittenAs assignments items) ∧
      (items = [] → (exports.construct [argument]).outcome =
        .error (.invalidArgument "ENV" "vars" "expected at least one item")) ∧
      ∀ before item after, items = before ++ item :: after → (∀ i ∈ before, i.IsAssignment) →
        ¬ item.IsAssignment → (exports.construct [argument]).outcome = .error (assignmentFault item) := by
  have hsupplies : exports.schema.Supplies [argument] [("vars", value)] := .cons hargument .nil
  have hdistinct : ["vars".toList].Nodup := by decide
  have hrequired : ∀ p ∈ exports.schema.parameters, p.isRequired = true → p.name ∈ ["vars".toList] := by
    decide
  obtain ⟨bindings, hbind, -, hget⟩ :=
    hsupplies.bind (.refl _) (List.cons_ne_nil _ _) hdistinct hrequired exports.keyword
  have hbuild := outcome_construct_of_bind hbind
  rw [build_exports (hget "vars")] at hbuild
  have hnil (h : Text.fields value = []) : (exports.construct [argument]).outcome =
      .error (.invalidArgument "ENV" "vars" "expected at least one item") := by
    rw [hbuild, readList_of_nil h]
    rfl
  have hread (h : Text.fields value ≠ []) : (exports.construct [argument]).outcome = (do
      .ok (.exports (← readAssignments (Text.fields value)))) := by
    rw [hbuild, readList_of_ne_nil h, except_ok_bind]
  have hcommand {command : Command} (h : (exports.construct [argument]).outcome = .ok command) :
      Text.fields value ≠ [] ∧ ∃ assignments, command = .exports assignments ∧
        List.Forall₂ Assignment.WrittenAs assignments (Text.fields value) := by
    have hne : Text.fields value ≠ [] := by
      intro hempty
      rw [hnil hempty] at h
      cases h
    rw [hread hne, except_bind_eq_ok_iff] at h
    obtain ⟨assignments, hassignments, ⟨⟩⟩ := h
    exact ⟨hne, assignments, rfl, readAssignments_eq_ok_iff.1 hassignments⟩
  refine ⟨Text.fields value, fun items' => Text.items_iff.trans eq_comm, ?_, fun command h => (hcommand h).2,
    hnil, fun before item after hsplit hbefore hitem => ?_⟩
  · constructor
    · rintro ⟨command, h⟩
      obtain ⟨hne, assignments, -, hassignments⟩ := hcommand h
      exact ⟨hne, exists_writtenAs_iff.1 ⟨assignments, hassignments⟩⟩
    · rintro ⟨hne, hitems⟩
      obtain ⟨assignments, hassignments⟩ := exists_writtenAs_iff.2 hitems
      refine ⟨.exports assignments, ?_⟩
      rw [hread hne, readAssignments_eq_ok_iff.2 hassignments, except_ok_bind]
  · have hne : Text.fields value ≠ [] := by simp [hsplit]
    rw [hread hne, hsplit, readAssignments_of_fault hbefore hitem]
    rfl

/-- The name of the third item starts with a digit. -/
theorem construct_exports_third_item :
    exports.schema.Target (.written "vars: A=1\tB== 9=z C ") "vars" " A=1\tB== 9=z C " ∧
      (exports.construct [.written "vars: A=1\tB== 9=z C "]).outcome = .error (assignmentFault "9=z") := by
  have hargument : exports.schema.Target (.written "vars: A=1\tB== 9=z C ") "vars" " A=1\tB== 9=z C " :=
    .named (.intro (p := ⟨"vars", true, true⟩) (by decide) (by decide))
  have hfields : Text.fields " A=1\tB== 9=z C " = ["A=1".toList, "B==".toList, "9=z".toList, "C".toList] := by
    decide +kernel
  have hbefore : ∀ i ∈ ["A=1".toList, "B==".toList], Text.IsAssignment i := by
    simp only [List.forall_mem_cons, List.not_mem_nil, false_imp_iff, implies_true, and_true]
    exact ⟨⟨⟨"A", "1"⟩, rfl, by decide, by decide⟩, ⟨⟨"B", "="⟩, rfl, by decide, by decide⟩⟩
  have hitem : ¬ Text.IsAssignment "9=z" := by
    rintro ⟨assignment, h⟩
    have hrefused : readAssignment "9=z" = .error (assignmentFault "9=z") := by decide +kernel
    rw [readAssignment_eq_ok_iff.2 h] at hrefused
    cases hrefused
  obtain ⟨items, hitems, -, -, -, hfault⟩ := construct_exports hargument
  obtain rfl := (hitems _).1 (Text.items_iff.2 hfields)
  exact ⟨hargument, hfault ["A=1".toList, "B==".toList] _ ["C".toList] rfl hbefore hitem⟩

end Form
end CollectionScript
