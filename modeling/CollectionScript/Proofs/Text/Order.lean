import CollectionScript.Dictionary

/-! The order of texts is the order of their bytes under UTF-8. -/
namespace CollectionScript
namespace Text

def bytes (t : Text) : List UInt8 := t.flatMap String.utf8EncodeChar

theorem codePoint_lt (c : Char) : c.val.toNat < 0x110000 := by
  have hvalid : c.val.toNat < 0xd800 ∨ 0xdfff < c.val.toNat ∧ c.val.toNat < 0x110000 := c.valid
  omega

/-- Two characters differ in a byte that both have, so it does not matter what follows them. -/
theorem utf8EncodeChar_append_lt {c d : Char} (h : c < d) (s t : List UInt8) :
    String.utf8EncodeChar c ++ s < String.utf8EncodeChar d ++ t := by
  have hlt : c.val.toNat < d.val.toNat := h
  have hd : d.val.toNat < 0x110000 := codePoint_lt d
  simp only [String.utf8EncodeChar]
  generalize c.val.toNat = m at *
  generalize d.val.toNat = n at *
  have hm₁ : m / 4096 = m / 64 / 64 := by omega
  have hm₂ : m / 262144 = m / 64 / 64 / 64 := by omega
  have hn₁ : n / 4096 = n / 64 / 64 := by omega
  have hn₂ : n / 262144 = n / 64 / 64 / 64 := by omega
  rw [hm₁, hm₂, hn₁, hn₂]
  clear hm₁ hm₂ hn₁ hn₂
  -- one case for each pair of lengths
  repeat' split
  all_goals
    simp only [List.cons_append, List.cons_lt_cons_iff, UInt8.lt_iff_toNat_lt, ← UInt8.toNat_inj,
      UInt8.toNat_ofNat']
    omega

theorem bytes_lt_of_lt {s t : Text} (h : s < t) : bytes s < bytes t := by
  induction s generalizing t with
  | nil =>
    cases t with
    | nil => exact absurd h (List.not_lt_nil [])
    | cons d t =>
      obtain ⟨b, r, hbytes⟩ := List.exists_cons_of_ne_nil (String.utf8EncodeChar_ne_nil (c := d))
      simp [bytes, hbytes]
  | cons c s ih =>
    cases t with
    | nil => exact absurd h (List.not_lt_nil _)
    | cons d t =>
      simp only [bytes, List.flatMap_cons]
      rcases List.cons_lt_cons_iff.1 h with hc | ⟨rfl, hs⟩
      · exact utf8EncodeChar_append_lt hc _ _
      · exact List.append_left_lt (ih hs)

theorem bytes_lt_iff {s t : Text} : bytes s < bytes t ↔ s < t := by
  refine ⟨fun h => ?_, bytes_lt_of_lt⟩
  by_cases hlt : s < t
  · exact hlt
  · by_cases heq : s = t
    · subst heq
      exact absurd h (List.lt_irrefl _)
    · have hts : t < s := Dictionary.lt_of_not_lt hlt heq
      exact absurd h (List.lt_asymm (bytes_lt_of_lt hts))

end Text
end CollectionScript
