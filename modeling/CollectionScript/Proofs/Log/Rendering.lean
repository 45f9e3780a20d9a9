import CollectionScript.Log.Policy
import CollectionScript.Proofs.Form.Values

/-! What the rendering of a text for the log can hold. A line of the script is rendered without control
characters, whatever stands in it; the value of a variable keeps those that it has. -/
namespace CollectionScript
namespace Text

def Printable (t : Text) : Prop := ∀ c ∈ t, isControl c = false

instance (t : Text) : Decidable (Printable t) := List.decidableBAll _ t

theorem printable_append {s t : Text} : Printable (s ++ t) ↔ Printable s ∧ Printable t :=
  List.forall_mem_append

theorem printable_oneLine (t : Text) : Printable (oneLine t) := fun _ => not_isControl_of_mem_oneLine

theorem isControl_eq_false_of_range {c : Char} (h : 0x20 ≤ c.toNat ∧ c.toNat ≤ 0x7E) :
    isControl c = false := by
  simp [isControl, inRuns]
  omega

theorem printable_decimal (n : Nat) : Printable (decimal n) := by
  intro c hc
  have hdigit : c.isDigit = true := Nat.isDigit_of_mem_toDigits (by decide) (by decide) hc
  simp only [Char.isDigit, Bool.and_eq_true, decide_eq_true_eq, ge_iff_le, UInt32.le_iff_toNat_le] at hdigit
  change 0x30 ≤ c.toNat ∧ c.toNat ≤ 0x39 at hdigit
  exact isControl_eq_false_of_range (by omega)

end Text

theorem Variable.printable_of_isName {name : Text} (h : isName name = true) : Text.Printable name := by
  intro c hc
  have hrange := toNat_of_mem h hc
  exact Text.isControl_eq_false_of_range (by omega)

namespace LogPolicy

variable {policy : LogPolicy}

theorem prefix_takeBytes (n : Nat) (t : Text) : takeBytes n t <+: t := by
  induction t generalizing n with
  | nil => exact List.prefix_refl []
  | cons c r ih =>
    rw [takeBytes]
    split
    · exact (List.prefix_cons_inj c).2 (ih _)
    · exact List.nil_prefix

theorem printable_truncate {value : Text} (h : value.Printable) : (policy.truncate value).Printable := by
  rw [truncate]
  split
  · exact h
  · simp only [Text.printable_append]
    refine ⟨⟨⟨?_, by decide⟩, Text.printable_decimal _⟩, by decide⟩
    exact fun c hc => h c ((prefix_takeBytes _ value).subset hc)

theorem printable_renderLine (policy : LogPolicy) (line : Text) : (policy.renderLine line).Printable := by
  rw [renderLine]
  split
  · exact printable_truncate (Text.printable_oneLine line)
  · simp only [Text.printable_append]
    exact ⟨⟨by decide, Text.printable_decimal _⟩, by decide⟩

/-- The value of a variable is shown as it is, so what cannot be printed of it cannot be printed in the log
either, unless it is left out or cut off. -/
theorem not_printable_renderVariable {name value : Text}
    (h : ¬ (policy.renderVariable name value).Printable) :
    ¬ value.Printable ∧ policy.hides name = false ∧
      policy.renderVariable name value = policy.truncate value := by
  have hredacted : redacted.Printable := by decide
  rw [renderVariable] at h ⊢
  split at h
  · exact absurd hredacted h
  · next hhides =>
    rw [renderValue] at h ⊢
    split at h
    · exact absurd hredacted h
    · next hsecret =>
      rw [if_neg hhides, if_neg hsecret]
      exact ⟨fun hvalue => h (printable_truncate hvalue), Bool.eq_false_iff.2 hhides, rfl⟩

end LogPolicy
end CollectionScript
