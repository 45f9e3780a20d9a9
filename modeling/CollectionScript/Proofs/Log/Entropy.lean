import CollectionScript.Log.Policy
import CollectionScript.Proofs.Form.Values
import CollectionScript.Proofs.Text.Smalls
import Mathlib.Data.List.Perm.Subperm

/-! How far looking for tokens by their many different characters reaches. A token has 64 characters to choose
from, so one of 128 bytes or more cannot have more different characters than half of its bytes; nor is
anything found in a short value, or in one that is no token. Such values are left out of the log only for a
word or a beginning that gives them away. -/
namespace CollectionScript

namespace Text

theorem nodup_eraseDups (t : Text) : t.eraseDups.Nodup := by
  induction hn : t.length using Nat.strongRecOn generalizing t with
  | ind n ih =>
    cases t with
    | nil => exact .nil
    | cons c t =>
      subst hn
      rw [List.eraseDups_cons, List.nodup_cons]
      constructor
      · simp
      · exact ih _ (Nat.lt_succ_of_le (List.length_filter_le _ _)) _ rfl

theorem trimStart_eq_self {t : Text} (h : ∀ c ∈ t, isBlank c = false) : trimStart t = t := by
  cases t with
  | nil => rfl
  | cons c t => simp [trimStart, h c List.mem_cons_self]

theorem trim_eq_self {t : Text} (h : ∀ c ∈ t, isBlank c = false) : trim t = t := by
  have hreverse : ∀ c ∈ t.reverse, isBlank c = false := fun c hc => h c (List.mem_reverse.1 hc)
  rw [trim, trimStart_eq_self h, trimStart_eq_self hreverse, List.reverse_reverse]

end Text

namespace LogPolicy

def tokenAlphabet : Text := "ABCDEFGHIJKLMNOPQRSTUVWXYZabcdefghijklmnopqrstuvwxyz0123456789_-"

/-- Something in the text gives it away as a secret: a word of the text in lower case, `small`, or the way in
which the credentials of a service begin. -/
def Marked (core small : Text) : Prop :=
  "password".toList <:+: small ∨ "bearer ".toList <+: small ∨ "basic ".toList <+: small ∨
    ∃ start ∈ secretPrefixes, start <+: core ∧ start.byteSize + 10 < core.byteSize

variable {core small value : Text}

theorem toNat_lt_of_isTokenChar {c : Char} (h : isTokenChar c = true) : c.toNat < 0x80 := by
  simp only [isTokenChar, Bool.or_eq_true, beq_iff_eq] at h
  rcases h with (halphanum | rfl) | rfl
  · have hrange := Text.toNat_of_isAlphanum halphanum
    omega
  · decide
  · decide

theorem mem_tokenAlphabet {c : Char} (h : isTokenChar c = true) : c ∈ tokenAlphabet ∧ Text.isBlank c = false := by
  have hall : ∀ n < 0x80, isTokenChar (Char.ofNat n) = true →
      Char.ofNat n ∈ tokenAlphabet ∧ Text.isBlank (Char.ofNat n) = false := by decide +kernel
  have hc := hall c.toNat (toNat_lt_of_isTokenChar h)
  rw [Char.ofNat_toNat] at hc
  exact hc h

theorem length_eraseDups_le (h : ∀ c ∈ core, isTokenChar c = true) : core.eraseDups.length ≤ 64 := by
  have hsub : core.eraseDups ⊆ tokenAlphabet := fun c hc =>
    (mem_tokenAlphabet (h c (List.mem_eraseDups.1 hc))).1
  have hlength : core.eraseDups.length ≤ tokenAlphabet.length :=
    (List.subperm_of_subset (Text.nodup_eraseDups core) hsub).length_le
  exact Nat.le_trans hlength (by decide)

theorem isHighEntropy_eq_false
    (h : 127 < core.byteSize ∨ ∃ c ∈ core, isTokenChar c = false) : isHighEntropy core = false := by
  rw [Bool.eq_false_iff]
  intro hentropy
  simp only [isHighEntropy, Bool.and_eq_true, decide_eq_true_eq, List.all_eq_true] at hentropy
  obtain ⟨⟨htoken, hratio⟩, -⟩ := hentropy
  rcases h with hlong | ⟨c, hc, hother⟩
  · have hdistinct := length_eraseDups_le htoken
    omega
  · rw [htoken c hc] at hother
    cases hother

theorem marked_iff (h : Text.Lowered core small) :
    Marked core small ↔ namesSecret core = true ∨ hasSecretPrefix core = true := by
  have hpassword : "password".toList <:+: small ↔ "password".toList <:+: core.map Char.toLower :=
    Text.infix_lowered_iff (by decide) (by decide) h
  have hbearer : "bearer ".toList <+: small ↔ "bearer ".toList <+: core.map Char.toLower :=
    Text.prefix_lowered_iff (by decide) h
  have hbasic : "basic ".toList <+: small ↔ "basic ".toList <+: core.map Char.toLower :=
    Text.prefix_lowered_iff (by decide) h
  rw [Marked, hpassword, hbearer, hbasic]
  simp only [namesSecret, hasSecretPrefix, Bool.or_eq_true, List.any_eq_true, Bool.and_eq_true,
    decide_eq_true_eq, Text.contains_iff, List.isPrefixOf_iff_prefix, or_assoc]

theorem isLikelySecret_iff (h : Text.Lowered (Text.trim value) small) :
    isLikelySecret value = true ↔ Marked (Text.trim value) small ∨
      32 ≤ (Text.trim value).byteSize ∧ isHighEntropy (Text.trim value) = true := by
  rw [marked_iff h]
  simp [isLikelySecret]

/-- A token of 127 bytes that has every token character, and one of them again and again for the rest. -/
def longestToken : Text := tokenAlphabet ++ List.replicate 63 'A'

/-- A value that is short, or long, or no token, is shown unless it is marked. So a token of 128 bytes or more
is shown if it is not marked, however random it is; with one byte less there is one that is left out for its
characters alone. -/
theorem renderValue_reach (policy : LogPolicy) {value small : Text}
    (hsmall : Text.Lowered (Text.trim value) small) :
    ((Text.trim value).byteSize < 32 ∨ 127 < (Text.trim value).byteSize ∨
        (∃ c ∈ Text.trim value, isTokenChar c = false) →
      (policy.redacts = true ∧ Marked (Text.trim value) small → policy.renderValue value = redacted) ∧
      (¬ (policy.redacts = true ∧ Marked (Text.trim value) small) →
        policy.renderValue value = policy.truncate value)) ∧
    ((∀ c ∈ value, isTokenChar c = true) → 128 ≤ value.byteSize → ¬ Marked (Text.trim value) small →
      policy.renderValue value = policy.truncate value) ∧
    ∃ edge : Text, (∀ c ∈ edge, isTokenChar c = true) ∧ edge.byteSize = 127 ∧
      (∀ small', Text.Lowered edge small' → ¬ Marked edge small') ∧
      ∀ policy' : LogPolicy, policy'.redacts = true → policy'.renderValue edge = redacted := by
  have hreach (h : (Text.trim value).byteSize < 32 ∨ 127 < (Text.trim value).byteSize ∨
      ∃ c ∈ Text.trim value, isTokenChar c = false) :
      isLikelySecret value = true ↔ Marked (Text.trim value) small := by
    rw [isLikelySecret_iff hsmall, or_iff_left]
    rintro ⟨hsize, hentropy⟩
    rcases h with hshort | hother
    · omega
    · rw [isHighEntropy_eq_false hother] at hentropy
      cases hentropy
  refine ⟨fun h => ?_, fun htoken hlong hmarked => ?_, longestToken,
    List.all_eq_true.1 (by decide +kernel), by decide +kernel, ?_, ?_⟩
  · rw [← hreach h, ← Bool.and_eq_true, renderValue]
    exact ⟨fun hsecret => if_pos hsecret, fun hshown => if_neg hshown⟩
  · have htrim : Text.trim value = value := Text.trim_eq_self fun c hc => (mem_tokenAlphabet (htoken c hc)).2
    have hnot : ¬ isLikelySecret value = true := by
      rwa [hreach (.inr (.inl (by rw [htrim]; omega)))]
    rw [renderValue, if_neg]
    simp [hnot]
  · intro small' hsmall'
    rw [marked_iff hsmall']
    decide +kernel
  · intro policy' hredacts
    have hsecret : isLikelySecret longestToken = true := by decide +kernel
    rw [renderValue, hredacts, hsecret]
    rfl

/-- With one byte more it is shown. -/
theorem renderValue_reach_of_128 :
    ∃ small, Text.Lowered (Text.trim (longestToken ++ ['A'])) small ∧
      (longestToken ++ ['A']).byteSize = 128 ∧ ({} : LogPolicy).redacts = true ∧
      renderValue {} (longestToken ++ ['A']) = longestToken ++ ['A'] := by
  obtain ⟨small, hsmall⟩ := Text.exists_lowered (Text.trim (longestToken ++ ['A']))
  have hsize : (longestToken ++ ['A']).byteSize = 128 := by decide +kernel
  have hunmarked : ¬ Marked (Text.trim (longestToken ++ ['A'])) small := by
    rw [marked_iff hsmall]
    decide +kernel
  have hshown : renderValue {} (longestToken ++ ['A']) = truncate {} (longestToken ++ ['A']) :=
    (renderValue_reach {} hsmall).2.1 (List.all_eq_true.1 (by decide +kernel)) (by omega) hunmarked
  exact ⟨small, hsmall, hsize, rfl, hshown.trans (by decide +kernel)⟩

end LogPolicy
end CollectionScript
