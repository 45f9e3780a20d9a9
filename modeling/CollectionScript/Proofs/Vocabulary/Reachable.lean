import CollectionScript.Vocabulary
import CollectionScript.Proofs.Dictionary
import CollectionScript.Proofs.Schema.Validation

/-! The vocabularies that registering forms and setting the policy of redeclaration lead to. Only
well-formed forms can be registered, and in each of these vocabularies a form stands under its own
keyword. -/
namespace CollectionScript

/-- The keyword is one word, and the schema is well-formed. -/
structure Form.WellFormed (form : Form) : Prop where
  keyword_ne_nil : form.keyword ≠ []
  not_blank : ∀ c ∈ form.keyword, Text.isBlank c = false
  schema : form.schema.WellFormed

theorem Form.wellFormed_iff {form : Form} : form.WellFormed ↔
    form.keyword ≠ [] ∧ (∀ c ∈ form.keyword, Text.isBlank c = false) ∧ form.schema.WellFormed :=
  ⟨fun h => ⟨h.keyword_ne_nil, h.not_blank, h.schema⟩, fun h => ⟨h.1, h.2.1, h.2.2⟩⟩

instance (form : Form) : Decidable form.WellFormed :=
  have : Decidable (∀ c ∈ form.keyword, Text.isBlank c = false) := List.decidableBAll _ form.keyword
  decidable_of_iff' _ Form.wellFormed_iff

namespace Vocabulary

inductive Reachable : Vocabulary → Prop
  | empty : Reachable .empty
  | builtin : Reachable .builtin
  | register {vocabulary vocabulary' : Vocabulary} {form : Form} (h : Reachable vocabulary)
    (hregister : vocabulary.register form = .ok vocabulary') : Reachable vocabulary'
  | withRedeclare {vocabulary : Vocabulary} (h : Reachable vocabulary) (redeclare : Redeclare) :
    Reachable (vocabulary.withRedeclare redeclare)

theorem find_eq_ok_iff {vocabulary : Vocabulary} {keyword : Text} {form : Form} :
    vocabulary.find keyword = .ok form ↔ vocabulary.forms.get? keyword = some form := by
  cases h : vocabulary.forms.get? keyword <;> simp [find, h]

theorem find_of_not_contains {vocabulary : Vocabulary} {keyword : Text}
    (h : vocabulary.contains keyword = false) :
    vocabulary.find keyword = .error (.unknownCommand keyword) := by
  have hnone : vocabulary.forms.get? keyword = none := by simpa [contains] using h
  rw [find, hnone]

theorem register_of_wellFormed {form : Form} (h : form.WellFormed) (vocabulary : Vocabulary) :
    vocabulary.register form = .ok ⟨vocabulary.forms.insert form.keyword form⟩ := by
  have hword : ¬ (form.keyword = [] ∨ form.keyword.any Text.isBlank) := by
    rintro (hnil | hblank)
    · exact h.keyword_ne_nil hnil
    · obtain ⟨c, hc, hblank⟩ := List.any_eq_true.1 hblank
      rw [h.not_blank c hc] at hblank
      cases hblank
  rw [register, if_neg hword, Schema.validate_eq_ok_iff.2 h.schema]
  rfl

theorem register_of_not_wellFormed {form : Form} (h : ¬ form.WellFormed) (vocabulary : Vocabulary) :
    ∃ reason, vocabulary.register form = .error (.invalidSchema form.keyword reason) := by
  rw [register]
  by_cases hword : form.keyword = [] ∨ form.keyword.any Text.isBlank
  · rw [if_pos hword]
    exact ⟨_, rfl⟩
  · obtain ⟨hne, hblank⟩ := not_or.1 hword
    have hschema : ¬ form.schema.WellFormed := fun hschema =>
      h ⟨hne, by simpa using hblank, hschema⟩
    obtain ⟨reason, hreason⟩ := Schema.validate_of_not_wellFormed hschema form.keyword
    rw [if_neg hword, hreason]
    exact ⟨reason, rfl⟩

theorem register_eq_ok_iff {vocabulary vocabulary' : Vocabulary} {form : Form} :
    vocabulary.register form = .ok vocabulary' ↔
      form.WellFormed ∧ vocabulary' = ⟨vocabulary.forms.insert form.keyword form⟩ := by
  by_cases h : form.WellFormed
  · rw [register_of_wellFormed h, Except.ok.injEq]
    exact ⟨fun heq => ⟨h, heq.symm⟩, fun heq => heq.2.symm⟩
  · obtain ⟨reason, hreason⟩ := register_of_not_wellFormed h vocabulary
    simp [hreason, h]

theorem find_register {vocabulary vocabulary' : Vocabulary} {form : Form}
    (h : vocabulary.register form = .ok vocabulary') (keyword : Text) :
    vocabulary'.find keyword =
      if keyword = form.keyword then .ok form else vocabulary.find keyword := by
  obtain ⟨-, rfl⟩ := register_eq_ok_iff.1 h
  rw [find, Dictionary.get?_insert]
  by_cases hkeyword : keyword = form.keyword
  · rw [if_pos hkeyword, if_pos hkeyword]
  · rw [if_neg hkeyword, if_neg hkeyword, find]

theorem find_withRedeclare (vocabulary : Vocabulary) (redeclare : Redeclare) (keyword : Text) :
    (vocabulary.withRedeclare redeclare).find keyword =
      (vocabulary.find keyword).map fun form =>
        { form with redeclare := if form.cardinality = .singleton then redeclare else form.redeclare } := by
  rw [find, withRedeclare, Dictionary.get?_map, find]
  cases vocabulary.forms.get? keyword with
  | none => rfl
  | some form =>
    obtain ⟨_, _, cardinality, _, _, _⟩ := form
    cases cardinality <;> rfl

theorem keyword_of_find_builtin {keyword : Text} {form : Form}
    (h : builtin.find keyword = .ok form) : form ∈ Form.builtins ∧ form.keyword = keyword := by
  have hmem := Dictionary.mem_of_get?_ofList (find_eq_ok_iff.1 h)
  obtain ⟨form', hform', heq⟩ := List.mem_map.1 hmem
  obtain ⟨rfl, rfl⟩ := Prod.mk.inj heq
  exact ⟨hform', rfl⟩

theorem find_builtin {form : Form} (h : form ∈ Form.builtins) :
    builtin.find form.keyword = .ok form := by
  cases h using Form.builtins_cases <;> rfl

theorem Reachable.keyword_eq {vocabulary : Vocabulary} (h : vocabulary.Reachable)
    {keyword : Text} {form : Form} (hfind : vocabulary.find keyword = .ok form) :
    form.keyword = keyword := by
  induction h generalizing form with
  | empty => cases hfind
  | builtin => exact (keyword_of_find_builtin hfind).2
  | register _ hregister ih =>
    rw [find_register hregister] at hfind
    split at hfind
    · next hkeyword =>
      obtain rfl := Except.ok.inj hfind
      exact hkeyword.symm
    · exact ih hfind
  | withRedeclare _ redeclare ih =>
    rw [find_withRedeclare] at hfind
    obtain ⟨form', hform', rfl⟩ := except_map_eq_ok_iff.1 hfind
    have hkeyword : form'.keyword = keyword := ih hform'
    exact hkeyword

/-- The vocabularies of the built-in forms alone, under any policies of redeclaration. -/
inductive Standard : Vocabulary → Prop
  | builtin : Standard .builtin
  | withRedeclare {vocabulary : Vocabulary} (h : Standard vocabulary) (redeclare : Redeclare) :
    Standard (vocabulary.withRedeclare redeclare)

theorem Standard.exists_policy {vocabulary : Vocabulary} (h : vocabulary.Standard) :
    ∃ policy : Form → Redeclare, ∀ keyword, vocabulary.find keyword =
      (Vocabulary.builtin.find keyword).map fun form => { form with redeclare := policy form } := by
  induction h with
  | builtin =>
    refine ⟨Form.redeclare, fun keyword => ?_⟩
    cases Vocabulary.builtin.find keyword <;> rfl
  | withRedeclare _ redeclare ih =>
    obtain ⟨policy, hpolicy⟩ := ih
    refine ⟨fun form => if form.cardinality = .singleton then redeclare else policy form,
      fun keyword => ?_⟩
    rw [find_withRedeclare, hpolicy]
    cases Vocabulary.builtin.find keyword <;> rfl

theorem Standard.exists_builtin {vocabulary : Vocabulary} (h : vocabulary.Standard) {keyword : Text}
    {form : Form} (hform : vocabulary.find keyword = .ok form) :
    ∃ builtin ∈ Form.builtins, ∃ redeclare, form = { builtin with redeclare } := by
  obtain ⟨policy, hpolicy⟩ := h.exists_policy
  rw [hpolicy] at hform
  obtain ⟨builtin, hbuiltin, rfl⟩ := except_map_eq_ok_iff.1 hform
  exact ⟨builtin, (keyword_of_find_builtin hbuiltin).1, policy builtin, rfl⟩

end Vocabulary
end CollectionScript
