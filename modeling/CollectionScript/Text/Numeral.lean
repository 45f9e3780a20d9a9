import CollectionScript.Text

/-! Decimal numerals, written and read. -/
namespace CollectionScript
namespace Text

def decimal (n : Nat) : Text := Nat.toDigits 10 n

/-- Reads one or more decimal digits, which one plus sign may precede. -/
def natural? (t : Text) : Option Nat :=
  let digits := match t with
    | '+' :: r => r
    | _ => t
  if digits ≠ [] ∧ digits.all Char.isDigit then some (Nat.ofDigitChars 10 digits 0) else none

theorem natural?_decimal (n : Nat) : natural? (decimal n) = some n := by
  have hall : ∀ c ∈ decimal n, c.isDigit := fun c hc =>
    Nat.isDigit_of_mem_toDigits (by decide) (by decide) hc
  have hsign : (match decimal n with | '+' :: r => r | _ => decimal n) = decimal n := by
    split
    · next r hr =>
      have := hall '+' (by simp [hr])
      simp at this
    · rfl
  simp only [natural?, hsign]
  rw [if_pos ⟨Nat.toDigits_ne_nil, List.all_eq_true.2 hall⟩]
  simp [decimal, Nat.ofDigitChars_toDigits]

end Text
end CollectionScript
