import CollectionScript.Form.Builtin
import CollectionScript.Proofs.Run
import CollectionScript.Proofs.Text.Splitting
import Mathlib.Data.List.Forall2

/-! Lists, ports and assignments: how the built-in forms read them, and that they are read back as they were
written. -/
namespace CollectionScript

def Text.Unbroken (t : Text) : Prop := ∀ c ∈ t, Text.isBlank c = false

instance (t : Text) : Decidable (Text.Unbroken t) := List.decidableBAll _ t

def Text.IsItem (t : Text) : Prop := t ≠ [] ∧ Text.Unbroken t

instance (t : Text) : Decidable (Text.IsItem t) := inferInstanceAs (Decidable (_ ∧ _))

theorem Text.toNat_of_isAlphanum {c : Char} (h : c.isAlphanum = true) :
    0x30 ≤ c.toNat ∧ c.toNat ≤ 0x39 ∨ 0x41 ≤ c.toNat ∧ c.toNat ≤ 0x7A := by
  have hcases : (decide (c.val ≥ 'A'.val ∧ c.val ≤ 'Z'.val) || c.val ≥ 'a'.val && c.val ≤ 'z'.val ||
      c.val ≥ '0'.val && c.val ≤ '9'.val) = true := h
  simp only [Bool.or_eq_true, Bool.and_eq_true, decide_eq_true_eq, ge_iff_le,
    UInt32.le_iff_toNat_le] at hcases
  change (0x41 ≤ c.toNat ∧ c.toNat ≤ 0x5A ∨ 0x61 ≤ c.toNat ∧ c.toNat ≤ 0x7A) ∨
    0x30 ≤ c.toNat ∧ c.toNat ≤ 0x39 at hcases
  omega

namespace Assignment

def item (assignment : Assignment) : Text := assignment.name ++ '=' :: assignment.value

/-- The item is the assignment as it is written: a name, the first equals sign, and the value. -/
structure WrittenAs (assignment : Assignment) (item : Text) : Prop where
  text : item = assignment.name ++ '=' :: assignment.value
  first : '=' ∉ assignment.name
  name : Variable.isName assignment.name = true

end Assignment

namespace Variable

theorem mem_of_isName {name : Text} (h : isName name = true) {c : Char} (hc : c ∈ name) :
    c.isAlphanum = true ∨ c = '_' := by
  cases name with
  | nil => cases hc
  | cons d r =>
    simp only [isName, Bool.and_eq_true, Bool.or_eq_true, beq_iff_eq, List.all_eq_true] at h
    obtain ⟨hd, hr⟩ := h
    rcases List.mem_cons.1 hc with rfl | hc
    · exact hd.imp_left fun halpha => by simp [Char.isAlphanum, halpha]
    · exact hr c hc

/-- The code points of the characters that a name may have. -/
theorem toNat_of_mem {name : Text} (h : isName name = true) {c : Char} (hc : c ∈ name) :
    0x30 ≤ c.toNat ∧ c.toNat ≤ 0x39 ∨ 0x41 ≤ c.toNat ∧ c.toNat ≤ 0x7A := by
  rcases mem_of_isName h hc with halphanum | rfl
  · exact Text.toNat_of_isAlphanum halphanum
  · decide

theorem not_isBlank_of_mem {name : Text} (h : isName name = true) {c : Char} (hc : c ∈ name) :
    Text.isBlank c = false ∧ c ≠ '=' := by
  have hrange := toNat_of_mem h hc
  constructor
  · simp [Text.isBlank, Text.inRuns, Text.blankRuns]
    omega
  · rintro rfl
    revert hrange
    decide

end Variable

namespace Form

variable {item : Text} {items : List Text} {assignment : Assignment} {assignments : List Assignment}

theorem readList_of_nil {value : Text} (h : Text.fields value = []) (command parameter : Text) :
    readList command parameter value =
      .error (.invalidArgument command parameter "expected at least one item") := by
  rw [readList, h]

theorem readList_of_ne_nil {value : Text} (h : Text.fields value ≠ []) (command parameter : Text) :
    readList command parameter value = .ok (Text.fields value) := by
  rw [readList]
  split
  · next hnil => exact absurd hnil h
  · rfl

theorem readList_intercalate (hne : items ≠ [])
    (h : ∀ item ∈ items, Text.IsItem item) (command parameter : Text) :
    readList command parameter ([' '].intercalate items) = .ok items := by
  have hfields : Text.fields ([' '].intercalate items) = items := Text.fields_intercalate h
  rw [readList_of_ne_nil (by rwa [hfields]), hfields]

theorem readPort_decimal {port : Nat} (hlow : 1 ≤ port) (hhigh : port ≤ 65535) :
    readPort (Text.decimal port) = .ok port := by
  have hfilter : ((Text.natural? (Text.decimal port)).filter fun n => 1 ≤ n && n ≤ 65535) =
      some port := by
    rw [Text.natural?_decimal]
    simp [hlow, hhigh]
  rw [readPort, hfilter]

/-- A name has no equals sign that could be taken for the one behind it. -/
theorem writtenAs_iff : assignment.WrittenAs item ↔
    Variable.isName assignment.name = true ∧ assignment.item = item := by
  constructor
  · rintro ⟨rfl, -, hname⟩
    exact ⟨hname, rfl⟩
  · rintro ⟨hname, rfl⟩
    exact ⟨rfl, fun hmem => (Variable.not_isBlank_of_mem hname hmem).2 rfl, hname⟩

theorem forall₂_writtenAs_iff : List.Forall₂ Assignment.WrittenAs assignments items ↔
    (∀ a ∈ assignments, Variable.isName a.name = true) ∧ assignments.map Assignment.item = items := by
  have hwritten : Assignment.WrittenAs =
      fun assignment item => Variable.isName assignment.name = true ∧ assignment.item = item :=
    funext₂ fun _ _ => propext writtenAs_iff
  rw [hwritten, List.forall₂_and_left, ← List.forall₂_map_left_iff (R := Eq), List.forall₂_eq_eq_eq]

theorem readAssignment_eq_ok_iff : readAssignment item = .ok assignment ↔ assignment.WrittenAs item := by
  have hwritten : assignment.WrittenAs item ↔
      ((Text.cut? '=' item).filter fun p => Variable.isName p.1) = some (assignment.name, assignment.value) := by
    rw [Option.filter_eq_some_iff, Text.cut?_eq_some_iff]
    exact ⟨fun h => ⟨⟨h.text, h.first⟩, h.name⟩, fun h => ⟨h.1.1, h.1.2, h.2⟩⟩
  rw [hwritten, readAssignment]
  split
  · next name value hcut =>
    rw [hcut]
    cases assignment
    simp
  · next hnone => simp [hnone]

theorem readAssignments_eq_ok_iff :
    readAssignments items = .ok assignments ↔ List.Forall₂ Assignment.WrittenAs assignments items := by
  induction items generalizing assignments with
  | nil => simp [readAssignments, eq_comm]
  | cons item items ih =>
    simp only [readAssignments, except_bind_eq_ok_iff, readAssignment_eq_ok_iff, ih,
      List.forall₂_cons_right_iff, Except.ok.injEq]
    constructor
    · rintro ⟨first, hfirst, rest, hrest, rfl⟩
      exact ⟨first, rest, hfirst, hrest, rfl⟩
    · rintro ⟨first, rest, hfirst, hrest, rfl⟩
      exact ⟨first, hfirst, rest, hrest, rfl⟩

theorem readAssignments_items (h : ∀ a ∈ assignments, Variable.isName a.name = true) :
    readAssignments (assignments.map Assignment.item) = .ok assignments :=
  readAssignments_eq_ok_iff.2 (forall₂_writtenAs_iff.2 ⟨h, rfl⟩)

theorem items_of_readAssignments (h : readAssignments items = .ok assignments) :
    items = assignments.map Assignment.item ∧ ∀ a ∈ assignments, Variable.isName a.name = true := by
  obtain ⟨hnames, hitems⟩ := forall₂_writtenAs_iff.1 (readAssignments_eq_ok_iff.1 h)
  exact ⟨hitems.symm, hnames⟩

theorem isItem_item (hname : Variable.isName assignment.name = true)
    (hvalue : Text.Unbroken assignment.value) : Text.IsItem assignment.item := by
  constructor
  · exact List.append_ne_nil_of_right_ne_nil _ (List.cons_ne_nil _ _)
  · intro c hc
    rcases List.mem_append.1 hc with hc | hc
    · exact (Variable.not_isBlank_of_mem hname hc).1
    · rcases List.mem_cons.1 hc with rfl | hc
      · decide
      · exact hvalue c hc

end Form
end CollectionScript
