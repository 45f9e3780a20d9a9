import CollectionScript.Proofs.Log.Rendering
import CollectionScript.Proofs.Text.Boundary

/-! How a long value is cut for the log. What is kept of it is the longest front in whole characters that is
within the limit, which going back from the limit to a character's first byte finds as well. -/
namespace CollectionScript
namespace LogPolicy

/-- The longest front of a text that has at most so many bytes. -/
structure LongestWithin (n : Nat) (t p : Text) : Prop where
  front : p <+: t
  within : p.byteSize ≤ n
  longest : ∀ q : Text, q <+: t → q.byteSize ≤ n → q <+: p

theorem byteSize_takeBytes_le (n : Nat) (t : Text) : (takeBytes n t).byteSize ≤ n := by
  induction t generalizing n with
  | nil => simp [takeBytes]
  | cons c t ih =>
    rw [takeBytes]
    split
    · have htail := ih (n - c.utf8Size)
      rw [Text.byteSize_cons]
      omega
    · simp

theorem prefix_takeBytes_of_le {n : Nat} {q t : Text} (hq : q <+: t) (hn : q.byteSize ≤ n) :
    q <+: takeBytes n t := by
  induction t generalizing n q with
  | nil => simpa [takeBytes] using hq
  | cons c t ih =>
    rcases List.prefix_cons_iff.1 hq with rfl | ⟨r, rfl, hr⟩
    · exact List.nil_prefix
    · rw [Text.byteSize_cons] at hn
      have hfits : c.utf8Size ≤ n := by omega
      rw [takeBytes, if_pos hfits]
      exact (List.prefix_cons_inj c).2 (ih hr (by omega))

theorem longestWithin_takeBytes (n : Nat) (t : Text) : LongestWithin n t (takeBytes n t) where
  front := prefix_takeBytes n t
  within := byteSize_takeBytes_le n t
  longest _ := prefix_takeBytes_of_le

/-- The character that is not kept has at most four bytes. -/
theorem lt_byteSize_takeBytes {n : Nat} {t : Text} (h : n < t.byteSize) :
    n < (takeBytes n t).byteSize + 4 := by
  induction t generalizing n with
  | nil => simp at h
  | cons c t ih =>
    rw [Text.byteSize_cons] at h
    rw [takeBytes]
    split
    · have htail := ih (n := n - c.utf8Size) (by omega)
      rw [Text.byteSize_cons]
      omega
    · have hfour : c.utf8Size ≤ 4 := c.utf8Size_le_four
      simp
      omega

namespace LongestWithin

variable {n : Nat} {t p : Text}

theorem isBoundary (h : LongestWithin n t p) : Text.isBoundary t.bytes p.byteSize = true :=
  Text.isBoundary_bytes_iff.2 ⟨p, h.front, rfl⟩

theorem lastBoundary_eq (h : LongestWithin n t p) : Text.lastBoundary t.bytes n = p.byteSize := by
  rw [Text.lastBoundary, Nat.findGreatest_eq_iff]
  refine ⟨h.within, fun _ => h.isBoundary, fun m hm hmn hboundary => ?_⟩
  obtain ⟨q, hq, rfl⟩ := Text.isBoundary_bytes_iff.1 hboundary
  obtain ⟨rest, rfl⟩ := h.longest q hq hmn
  rw [Text.byteSize_append] at hm
  omega

theorem byteSize_le (h : LongestWithin n t p) : p.byteSize ≤ t.byteSize := by
  obtain ⟨rest, rfl⟩ := h.front
  simp

end LongestWithin

/-- A value that is shown is shown whole if it is within the limit, and else cut so that as much as possible
is kept in whole characters, with the number of the other bytes behind it. Going back from the limit to a
boundary of the bytes gives the same place, never beyond the end of the value, at most three bytes before the
limit. -/
theorem renderValue_cut (policy : LogPolicy) (value : Text)
    (hshown : policy.redacts = true → isLikelySecret value = false) :
    (value.byteSize ≤ policy.maxValueBytes → policy.renderValue value = value) ∧
    (policy.maxValueBytes < value.byteSize → ∃ kept dropped,
      policy.renderValue value =
        kept ++ "...[truncated ".toList ++ Text.decimal dropped ++ " bytes]".toList ∧
      LongestWithin policy.maxValueBytes value kept ∧
      dropped + kept.byteSize = value.byteSize ∧
      policy.maxValueBytes - kept.byteSize ≤ 3 ∧
      Text.lastBoundary value.bytes policy.maxValueBytes = kept.byteSize ∧
      Text.isBoundary value.bytes kept.byteSize = true ∧
      value.bytes.take kept.byteSize = kept.bytes) := by
  have hrender : policy.renderValue value = policy.truncate value := by
    rw [renderValue, if_neg]
    simpa using hshown
  rw [hrender, truncate]
  refine ⟨fun hle => if_pos hle, fun hlt => ?_⟩
  rw [if_neg (Nat.not_le_of_lt hlt)]
  have hkept := longestWithin_takeBytes policy.maxValueBytes value
  have hnear := lt_byteSize_takeBytes hlt
  refine ⟨_, _, rfl, hkept, Nat.sub_add_cancel hkept.byteSize_le, by omega, hkept.lastBoundary_eq,
    hkept.isBoundary, Text.take_bytes_of_prefix hkept.front⟩

/-- The limit falls into a character of two bytes. -/
theorem renderValue_cut_in_character :
    (({ maxValueBytes := 5 } : LogPolicy).redacts = true → isLikelySecret "aaaaébbbb".toList = false) ∧
      5 < Text.byteSize "aaaaébbbb".toList ∧
      ∃ kept dropped, renderValue { maxValueBytes := 5 } "aaaaébbbb".toList =
          kept ++ "...[truncated ".toList ++ Text.decimal dropped ++ " bytes]".toList ∧
        kept.byteSize = 4 ∧ dropped = 6 := by
  have hshown : isLikelySecret "aaaaébbbb".toList = false := by decide +kernel
  have hsize : Text.byteSize "aaaaébbbb".toList = 10 := by decide +kernel
  have hlast : Text.lastBoundary (Text.bytes "aaaaébbbb".toList) 5 = 4 := by decide +kernel
  have hlt : 5 < Text.byteSize "aaaaébbbb".toList := by omega
  obtain ⟨kept, dropped, hrender, -, hsum, -, hboundary, -⟩ :=
    (renderValue_cut { maxValueBytes := 5 } "aaaaébbbb".toList fun _ => hshown).2 hlt
  have hkept : kept.byteSize = 4 := hboundary.symm.trans hlast
  exact ⟨fun _ => hshown, hlt, kept, dropped, hrender, hkept, by omega⟩

end LogPolicy
end CollectionScript
