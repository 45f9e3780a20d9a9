import CollectionScript.Proofs.Json.Delimiting
import CollectionScript.Script

/-! The JSON text of a script, or of a command, is that of no other one. The keyword tells which fields a
command has, and a field that is left out tells that it has no value. -/
namespace CollectionScript

open Function (Injective)

theorem Json.array_map_injective {α : Type} {f : α → Json} (h : Injective f) :
    Injective fun items : List α => Json.array (items.map f) := fun _ _ heq =>
  (List.map_inj_right fun _ _ hitem => h hitem).1 (Json.array.inj heq)

theorem Json.strings_injective : Injective Json.strings :=
  array_map_injective fun _ _ heq => Json.string.inj heq

theorem Json.optional_injective (name : Text) : Injective (Json.optional name) := by
  intro value value' h
  cases value with
  | none =>
    cases value' with
    | none => rfl
    | some => cases h
  | some =>
    cases value' with
    | none => cases h
    | some =>
      cases h
      rfl

theorem Assignment.toJson_injective : Injective Assignment.toJson := by
  rintro ⟨name, value⟩ ⟨name', value'⟩ h
  cases h
  rfl

/-- A field that is there, with one after it that may be left out. -/
theorem Json.field_optional_inj {field name text text' : Text} {value value' : Option Text}
    (h : (field, Json.string text) :: Json.optional name value =
      (field, Json.string text') :: Json.optional name value') : text = text' ∧ value = value' := by
  obtain ⟨hfield, hvalue⟩ := List.cons.inj h
  exact ⟨Json.string.inj (congrArg Prod.snd hfield), optional_injective name hvalue⟩

theorem ShellCall.toFields_injective : Injective ShellCall.toFields := by
  rintro ⟨text, shell⟩ ⟨text', shell'⟩ h
  obtain ⟨rfl, rfl⟩ := Json.field_optional_inj h
  rfl

namespace Command

theorem eq_of_toFields {c d : Command} (hkeyword : c.keyword = d.keyword) (h : c.toFields = d.toFields) :
    c = d := by
  cases c <;> cases d
  case output.output | workdir.workdir | kubeconfig.kubeconfig =>
    cases h
    rfl
  case source.source origin origin' =>
    obtain ⟨hosts, port⟩ := origin
    obtain ⟨hosts', port'⟩ := origin'
    simp only [toFields, List.cons.injEq, Prod.mk.injEq, Json.number.injEq, true_and, and_true] at h
    obtain ⟨hhosts, rfl⟩ := h
    rw [Json.strings_injective hhosts]
  case runAs.runAs identity identity' =>
    obtain ⟨user, group⟩ := identity
    obtain ⟨user', group'⟩ := identity'
    obtain ⟨rfl, rfl⟩ := Json.field_optional_inj h
    rfl
  case login.login account account' =>
    obtain ⟨username, key⟩ := account
    obtain ⟨username', key'⟩ := account'
    obtain ⟨rfl, rfl⟩ := Json.field_optional_inj h
    rfl
  case exports.exports assignments assignments' =>
    have hvars := congrArg Prod.snd (List.cons.inj h).1
    rw [Json.array_map_injective Assignment.toJson_injective hvars]
  case copy.copy paths paths' => rw [Json.strings_injective (congrArg Prod.snd (List.cons.inj h).1)]
  case capture.capture call call' | run.run call call' => rw [ShellCall.toFields_injective h]
  -- What is left are commands of two keywords.
  all_goals exact absurd (String.toList_inj.1 hkeyword) (by decide)

theorem toJson_injective : Injective toJson := by
  intro c d h
  obtain ⟨hkeyword, hfields⟩ := List.cons.inj (Json.object.inj h)
  exact eq_of_toFields (Json.string.inj (congrArg Prod.snd hkeyword)) hfields

end Command

theorem Declarations.toJson_injective : Injective Declarations.toJson := by
  rintro ⟨entries, _⟩ ⟨entries', _⟩ h
  have hgroup : Injective fun group : Text × List Command =>
      (group.1, Json.array (group.2.map Command.toJson)) := by
    rintro ⟨keyword, commands⟩ ⟨keyword', commands'⟩ hgroup
    obtain ⟨rfl, hcommands⟩ := Prod.mk.inj hgroup
    obtain rfl := Json.array_map_injective Command.toJson_injective hcommands
    rfl
  obtain rfl := (List.map_inj_right fun _ _ heq => hgroup heq).1 (Json.object.inj h)
  rfl

theorem Script.toJson_injective : Injective Script.toJson := by
  rintro ⟨preambles, actions⟩ ⟨preambles', actions'⟩ h
  simp only [toJson, Json.object.injEq, List.cons.injEq, Prod.mk.injEq, true_and, and_true] at h
  obtain ⟨hpreambles, hactions⟩ := h
  obtain rfl := Declarations.toJson_injective hpreambles
  obtain rfl := Json.array_map_injective Command.toJson_injective hactions
  rfl

/-- Scripts of any commands, declared under any keywords, have the same text only if they are the same, and
so have single commands. -/
theorem Script.compact_toJson_inj :
    (∀ s t : Script, s.toJson.compact = t.toJson.compact ↔ s = t) ∧
    ∀ c d : Command, c.toJson.compact = d.toJson.compact ↔ c = d :=
  ⟨fun _ _ => (Json.compact_injective.comp toJson_injective).eq_iff,
    fun _ _ => (Json.compact_injective.comp Command.toJson_injective).eq_iff⟩

-- A text that imitates the rest of the object is not taken for it.
example : (Command.runAs ⟨"a\",\"groupid\":\"b", none⟩).toJson.compact ≠
    (Command.runAs ⟨"a", some "b"⟩).toJson.compact := by decide

end CollectionScript
