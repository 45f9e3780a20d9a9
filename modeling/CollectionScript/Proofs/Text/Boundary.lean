import CollectionScript.Proofs.Text.Order
import Mathlib.Data.Nat.Find

/-! Where the bytes of a text may be cut. Between two characters, at the start and at the end they may; from
any other place one has to go back to the start of the character. -/
namespace CollectionScript
namespace Text

/-- A character starts after so many bytes, or the text ends there. -/
def isBoundary (bytes : List UInt8) (n : Nat) : Bool :=
  match bytes[n]? with
  | some b => decide b.IsUTF8FirstByte
  | none => n == bytes.length

/-- The last boundary that is reached by going back from so many bytes, a byte at a time. -/
def lastBoundary (bytes : List UInt8) (n : Nat) : Nat := Nat.findGreatest (isBoundary bytes · = true) n

@[simp] theorem length_bytes (t : Text) : (bytes t).length = t.byteSize := by
  induction t with
  | nil => rfl
  | cons c t ih =>
    rw [bytes, List.flatMap_cons, ← bytes, List.length_append, ih, String.length_utf8EncodeChar,
      byteSize_cons]

theorem bytes_append (s t : Text) : bytes (s ++ t) = bytes s ++ bytes t := List.flatMap_append

theorem take_bytes_of_prefix {p t : Text} (h : p <+: t) : (bytes t).take p.byteSize = bytes p := by
  obtain ⟨rest, rfl⟩ := h
  rw [bytes_append, ← length_bytes p, List.take_left]

/-- Within a character there is a boundary before its first byte only. -/
theorem isBoundary_char_append {c : Char} {n : Nat} (h : n < c.utf8Size) (bs : List UInt8) :
    isBoundary (String.utf8EncodeChar c ++ bs) n = true ↔ n = 0 := by
  have hlength : n < (String.utf8EncodeChar c).length := by rwa [String.length_utf8EncodeChar]
  have hbyte : (String.utf8EncodeChar c ++ bs)[n]? = some (String.utf8EncodeChar c)[n] := by
    rw [List.getElem?_append_left hlength, List.getElem?_eq_getElem hlength]
  rw [isBoundary, hbyte, decide_eq_true_eq]
  exact UInt8.isUTF8FirstByte_getElem_utf8EncodeChar

theorem isBoundary_append_length (bs bs' : List UInt8) (n : Nat) :
    isBoundary (bs ++ bs') (bs.length + n) = isBoundary bs' n := by
  have hbyte : (bs ++ bs')[bs.length + n]? = bs'[n]? := by
    rw [List.getElem?_append_right (Nat.le_add_right _ _), Nat.add_sub_cancel_left]
  rw [isBoundary, isBoundary, hbyte]
  cases bs'[n]? with
  | none => exact Bool.eq_iff_iff.2 (by simp)
  | some b => rfl

theorem isBoundary_bytes_iff {t : Text} {n : Nat} :
    isBoundary (bytes t) n = true ↔ ∃ p : Text, p <+: t ∧ p.byteSize = n := by
  induction t generalizing n with
  | nil => simp [isBoundary, bytes, @eq_comm Nat 0]
  | cons c t ih =>
    rw [bytes, List.flatMap_cons, ← bytes]
    by_cases hn : n < c.utf8Size
    · rw [isBoundary_char_append hn]
      constructor
      · rintro rfl
        exact ⟨[], List.nil_prefix, rfl⟩
      · rintro ⟨p, hp, hsize⟩
        rcases List.prefix_cons_iff.1 hp with rfl | ⟨q, rfl, -⟩
        · exact hsize.symm
        · rw [byteSize_cons] at hsize
          omega
    · obtain ⟨m, rfl⟩ := Nat.exists_eq_add_of_le (Nat.le_of_not_lt hn)
      rw [← String.length_utf8EncodeChar c, isBoundary_append_length, ih, String.length_utf8EncodeChar]
      constructor
      · rintro ⟨p, hp, rfl⟩
        exact ⟨c :: p, (List.prefix_cons_inj c).2 hp, rfl⟩
      · rintro ⟨p, hp, hsize⟩
        rcases List.prefix_cons_iff.1 hp with rfl | ⟨q, rfl, hq⟩
        · have hpos : 0 < c.utf8Size := c.utf8Size_pos
          rw [byteSize_nil] at hsize
          omega
        · exact ⟨q, hq, Nat.add_left_cancel hsize⟩

end Text
end CollectionScript
