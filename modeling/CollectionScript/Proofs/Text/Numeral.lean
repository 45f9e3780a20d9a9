import CollectionScript.Text.Numeral
import Mathlib.Tactic.Ring

/-! Numerals and their values. A numeral is read into sixteen bits digit by digit, and refused where it would
not fit; that finds the value of exactly the numerals that sixteen bits can hold, however many zeros stand in
front. -/
namespace CollectionScript
namespace Text

def digitValue (c : Char) : Nat := c.toNat - '0'.toNat

def placeValue : Text → Nat
  | [] => 0
  | c :: r => digitValue c * 10 ^ r.length + placeValue r

/-- One or more ASCII digits, which one plus sign may precede, with their value. -/
inductive Numeral : Text → Nat → Prop
  | unsigned {digits : Text} (hne : digits ≠ []) (h : ∀ c ∈ digits, c.isDigit = true) :
    Numeral digits (placeValue digits)
  | signed {digits : Text} (hne : digits ≠ []) (h : ∀ c ∈ digits, c.isDigit = true) :
    Numeral ('+' :: digits) (placeValue digits)

def mul? (a b : UInt16) : Option UInt16 := if a.toNat * b.toNat < 2 ^ 16 then some (a * b) else none

def add? (a b : UInt16) : Option UInt16 := if a.toNat + b.toNat < 2 ^ 16 then some (a + b) else none

/-- Takes in the digits one by one, as long as the value fits. -/
def checkedDigits? : UInt16 → Text → Option UInt16
  | n, [] => some n
  | n, c :: r =>
    if c.isDigit then
      (mul? n 10).bind fun tenfold => (add? tenfold (.ofNat (digitValue c))).bind fun sum =>
        checkedDigits? sum r
    else none

/-- Takes in the digits one by one without a check; a value that does not fit would wrap around. -/
def wrappingDigits? : UInt16 → Text → Option UInt16
  | n, [] => some n
  | n, c :: r => if c.isDigit then wrappingDigits? (n * 10 + .ofNat (digitValue c)) r else none

def unsigned : Text → Text
  | '+' :: r => r
  | t => t

/-- Reads a numeral into sixteen bits. Four digits cannot be too much for them, so up to there no step is
checked. -/
def sixteenBits? (t : Text) : Option UInt16 :=
  if t = [] ∨ t = ['+'] ∨ t = ['-'] then none
  else if (unsigned t).byteSize ≤ 4 then wrappingDigits? 0 (unsigned t)
  else checkedDigits? 0 (unsigned t)

theorem digitValue_le {c : Char} (h : c.isDigit = true) : digitValue c ≤ 9 := by
  have hrange : c.toNat ≤ '9'.toNat := (Char.isDigit_iff_toNat.1 h).2
  have hvalue : '0'.toNat = 48 ∧ '9'.toNat = 57 := by decide
  rw [digitValue]
  omega

theorem toNat_ofNat_digitValue {c : Char} (h : c.isDigit = true) :
    (UInt16.ofNat (digitValue c)).toNat = digitValue c := by
  have hle := digitValue_le h
  exact UInt16.toNat_ofNat_of_lt' (by simp [UInt16.size]; omega)

theorem exists_toNat_eq {n : Nat} (h : n < 2 ^ 16) : ∃ w : UInt16, w.toNat = n :=
  ⟨.ofNat n, UInt16.toNat_ofNat_of_lt' h⟩

theorem mul?_eq_some_iff {a b c : UInt16} : mul? a b = some c ↔ c.toNat = a.toNat * b.toNat := by
  have hc := c.toNat_lt
  rw [mul?]
  split
  · next h => rw [Option.some.injEq, ← UInt16.toNat_inj, UInt16.toNat_mul, Nat.mod_eq_of_lt h, eq_comm]
  · next h =>
    simp only [reduceCtorEq, false_iff]
    omega

theorem add?_eq_some_iff {a b c : UInt16} : add? a b = some c ↔ c.toNat = a.toNat + b.toNat := by
  have hc := c.toNat_lt
  rw [add?]
  split
  · next h => rw [Option.some.injEq, ← UInt16.toNat_inj, UInt16.toNat_add, Nat.mod_eq_of_lt h, eq_comm]
  · next h =>
    simp only [reduceCtorEq, false_iff]
    omega

/-- What is read is the value of the digits behind the number that reading starts from. -/
theorem checkedDigits?_eq_some_iff {n m : UInt16} {t : Text} :
    checkedDigits? n t = some m ↔
      (∀ c ∈ t, c.isDigit = true) ∧ m.toNat = n.toNat * 10 ^ t.length + placeValue t := by
  induction t generalizing n with
  | nil =>
    rw [checkedDigits?, Option.some.injEq, ← UInt16.toNat_inj, eq_comm]
    simp [placeValue]
  | cons c t ih =>
    rw [checkedDigits?, List.forall_mem_cons, placeValue, List.length_cons]
    split
    · next hc =>
      have hdigit := toNat_ofNat_digitValue hc
      have hshift : n.toNat * 10 ^ (t.length + 1) + (digitValue c * 10 ^ t.length + placeValue t) =
          (n.toNat * 10 + digitValue c) * 10 ^ t.length + placeValue t := by ring
      simp only [Option.bind_eq_some_iff, mul?_eq_some_iff, add?_eq_some_iff, hdigit, ih, hshift]
      constructor
      · rintro ⟨tenfold, htenfold, sum, hsum, ht, hm⟩
        rw [hsum, htenfold] at hm
        exact ⟨⟨hc, ht⟩, hm⟩
      · -- Every number on the way is at most the last one, which fits.
        rintro ⟨⟨-, ht⟩, hm⟩
        have hpos : 0 < 10 ^ t.length := Nat.pow_pos (by decide)
        have hle : n.toNat * 10 + digitValue c ≤ m.toNat :=
          hm ▸ Nat.le_add_right_of_le (Nat.le_mul_of_pos_right _ hpos)
        have hfits := m.toNat_lt
        obtain ⟨tenfold, htenfold⟩ := exists_toNat_eq (n := n.toNat * 10) (by omega)
        obtain ⟨sum, hsum⟩ := exists_toNat_eq (n := n.toNat * 10 + digitValue c) (by omega)
        exact ⟨tenfold, htenfold, sum, by rw [hsum, htenfold], ht, by rw [hm, hsum]⟩
    · next hc => simp [hc]

/-- As long as the number with all its further digits is sure to fit, nothing wraps around. -/
theorem wrappingDigits?_eq {n : UInt16} {t : Text} (h : (n.toNat + 1) * 10 ^ t.length ≤ 2 ^ 16) :
    wrappingDigits? n t = checkedDigits? n t := by
  induction t generalizing n with
  | nil => rfl
  | cons c t ih =>
    rw [wrappingDigits?, checkedDigits?]
    split
    · next hc =>
      have hdigit := toNat_ofNat_digitValue hc
      have hle := digitValue_le hc
      rw [List.length_cons, Nat.pow_succ'] at h
      have hnext : (n.toNat * 10 + digitValue c + 1) * 10 ^ t.length ≤ 2 ^ 16 := by
        refine Nat.le_trans (Nat.mul_le_mul_right _ ?_) (Nat.mul_assoc _ _ _ ▸ h)
        omega
      have hpos : 0 < 10 ^ t.length := Nat.pow_pos (by decide)
      have hfits : n.toNat * 10 + digitValue c < 2 ^ 16 :=
        Nat.lt_of_lt_of_le (Nat.le_mul_of_pos_right _ hpos) hnext
      have htenfold : (n * 10).toNat = n.toNat * 10 := by
        rw [UInt16.toNat_mul]
        exact Nat.mod_eq_of_lt (by simp; omega)
      have hsum : (n * 10 + .ofNat (digitValue c)).toNat = n.toNat * 10 + digitValue c := by
        rw [UInt16.toNat_add, htenfold, hdigit, Nat.mod_eq_of_lt hfits]
      have hmul : mul? n 10 = some (n * 10) := mul?_eq_some_iff.2 htenfold
      have hadd : add? (n * 10) (.ofNat (digitValue c)) = some (n * 10 + .ofNat (digitValue c)) :=
        add?_eq_some_iff.2 (by rw [hsum, htenfold, hdigit])
      rw [hmul, Option.bind_some, hadd, Option.bind_some]
      exact ih (by rwa [hsum])
    · rfl

theorem length_le_byteSize (t : Text) : t.length ≤ t.byteSize := by
  induction t with
  | nil => simp
  | cons c t ih =>
    have hpos := c.utf8Size_pos
    rw [List.length_cons, byteSize_cons]
    omega

theorem eq_cons_or_unsigned_eq (t : Text) : t = '+' :: unsigned t ∨ unsigned t = t := by
  rw [unsigned.eq_def]
  split
  · exact .inl rfl
  · exact .inr rfl

theorem numeral_iff {t : Text} {n : Nat} :
    Numeral t n ↔
      unsigned t ≠ [] ∧ (∀ c ∈ unsigned t, c.isDigit = true) ∧ n = placeValue (unsigned t) := by
  constructor
  · rintro (⟨hne, h⟩ | ⟨hne, h⟩)
    · -- A plus sign is no digit, so there is none to take off.
      have hsame : unsigned t = t := by
        refine (eq_cons_or_unsigned_eq t).resolve_left fun ht => ?_
        exact absurd (h '+' (ht ▸ List.mem_cons_self)) (by decide)
      rw [hsame]
      exact ⟨hne, h, rfl⟩
    · exact ⟨hne, h, rfl⟩
  · rintro ⟨hne, h, rfl⟩
    rcases eq_cons_or_unsigned_eq t with ht | ht
    · rw [ht]
      exact .signed hne h
    · rw [ht] at hne h ⊢
      exact .unsigned hne h

theorem ofDigitChars_eq (t : Text) (n : Nat) :
    Nat.ofDigitChars 10 t n = n * 10 ^ t.length + placeValue t := by
  induction t generalizing n with
  | nil => simp [placeValue]
  | cons c t ih =>
    rw [Nat.ofDigitChars_cons, ih, placeValue, List.length_cons, ← digitValue]
    ring

theorem natural?_eq_some_iff {t : Text} {n : Nat} : natural? t = some n ↔ Numeral t n := by
  have hvalue : natural? t = if unsigned t ≠ [] ∧ (unsigned t).all Char.isDigit then
      some (Nat.ofDigitChars 10 (unsigned t) 0) else none := by
    rw [unsigned.eq_def]
    split
    · rfl
    · simp only [natural?]
  rw [hvalue, numeral_iff, ofDigitChars_eq]
  split
  · next h =>
    rw [Option.some.injEq, Nat.zero_mul, Nat.zero_add, eq_comm]
    exact ⟨fun hn => ⟨h.1, List.all_eq_true.1 h.2, hn⟩, fun hn => hn.2.2⟩
  · next h =>
    simp only [reduceCtorEq, false_iff]
    rintro ⟨hne, hdigits, -⟩
    exact h ⟨hne, List.all_eq_true.2 hdigits⟩

theorem sixteenBits?_eq (t : Text) (h : unsigned t ≠ []) : sixteenBits? t = checkedDigits? 0 (unsigned t) := by
  by_cases hminus : t = ['-']
  · subst hminus
    rfl
  have hrefused : ¬ (t = [] ∨ t = ['+'] ∨ t = ['-']) := by
    rintro (rfl | rfl | hsign)
    · exact h rfl
    · exact h rfl
    · exact hminus hsign
  rw [sixteenBits?, if_neg hrefused]
  split
  · next hshort =>
    refine wrappingDigits?_eq ?_
    have hlength : (unsigned t).length ≤ 4 := Nat.le_trans (length_le_byteSize _) hshort
    have hpow : 10 ^ (unsigned t).length ≤ 10 ^ 4 := Nat.pow_le_pow_right (by decide) hlength
    simp
    omega
  · rfl

theorem sixteenBits?_eq_some_iff {t : Text} {w : UInt16} : sixteenBits? t = some w ↔ Numeral t w.toNat := by
  rw [numeral_iff]
  by_cases hne : unsigned t = []
  · have hnone : sixteenBits? t = none := by
      rw [sixteenBits?, if_pos]
      rcases eq_cons_or_unsigned_eq t with ht | ht
      · exact .inr (.inl (by rw [ht, hne]))
      · exact .inl (ht ▸ hne)
    simp [hnone, hne]
  · rw [sixteenBits?_eq t hne, checkedDigits?_eq_some_iff]
    simp [hne]

end Text
end CollectionScript
