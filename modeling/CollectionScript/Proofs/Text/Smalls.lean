import CollectionScript.Proofs.Text.Capitals
import CollectionScript.Text.Lower

/-! Words of ASCII in lower case. The small form of a character beyond ASCII can hardly be part of such a word,
so to find the word in a text in lower case it is enough to make the ASCII letters of the text small. -/
namespace CollectionScript
namespace Text

/-- The small form of a character beyond ASCII. That of the kelvin sign is a letter of ASCII, and that of the
capital I with a dot starts with one. -/
inductive FormBeyond : Text → Prop
  | kelvin : FormBeyond ['k']
  | dotted : FormBeyond ['i', '\u0307']
  | beyond {c : Char} (h : 0x80 ≤ c.toNat) : FormBeyond [c]

/-- A word of ASCII that has no k and does not end in an i. -/
def Telling (w : Text) : Prop := (∀ c ∈ w, c.toNat < 0x80 ∧ c ≠ 'k') ∧ w.getLast? ≠ some 'i'

instance (w : Text) : Decidable (Telling w) :=
  @instDecidableAnd _ _ (List.decidableBAll _ w) inferInstance

theorem smallForms_of_ascii {c : Char} (h : c.toNat < 0x80) : smallForms c = [[c.toLower]] := by
  have hall : ∀ n < 0x80, smallForms (Char.ofNat n) = [[(Char.ofNat n).toLower]] := by decide +kernel
  have hc := hall c.toNat h
  rwa [Char.ofNat_toNat] at hc

theorem toLower_of_beyond {c : Char} (h : 0x80 ≤ c.toNat) : c.toLower = c := by
  refine dif_neg ?_
  rintro ⟨-, hle⟩
  rw [UInt32.le_iff_toNat_le] at hle
  change c.toNat ≤ 0x5A at hle
  omega

/-- The table in one look: what it gives is for ASCII, or is beyond ASCII, or is a lone k. -/
theorem image_of_mem_smallRuns {run : CaseRun} (h : run ∈ smallRuns) :
    run.last < 0x80 ∨ run.first = run.last ∧ run.image = 0x6B ∨
      0x80 ≤ run.image ∧ (run.image + (run.last - run.first) < 0xD800 ∨
        0xE000 ≤ run.image ∧ run.image + (run.last - run.first) < 0x110000) := by
  revert run
  decide +kernel

theorem formBeyond_of_capital? {run : CaseRun} (hrun : run ∈ smallRuns) {m n : Nat} (hm : 0x80 ≤ m)
    (h : run.capital? m = some n) : FormBeyond [Char.ofNat n] := by
  rw [CaseRun.capital?] at h
  split at h
  · next hmem =>
    obtain ⟨hfirst, hlast, -⟩ := hmem
    obtain rfl := Option.some.inj h
    rcases image_of_mem_smallRuns hrun with hascii | ⟨hone, himage⟩ | ⟨hbeyond, hvalid⟩
    · omega
    · have hk : run.image + (m - run.first) = 0x6B := by omega
      rw [hk]
      exact .kelvin
    · have hchar : (run.image + (m - run.first)).isValidChar := by
        simp only [Nat.isValidChar]
        omega
      refine .beyond ?_
      rw [toNat_ofNat hchar]
      omega
  · cases h

theorem formBeyond_of_mem {c : Char} (h : 0x80 ≤ c.toNat) {form : Text} (hform : form ∈ smallForms c) :
    FormBeyond form := by
  rw [smallForms] at hform
  split at hform
  · simp only [List.mem_cons, List.not_mem_nil, or_false] at hform
    rcases hform with rfl | rfl
    · exact .beyond (by decide)
    · exact .beyond (by decide)
  · obtain rfl := List.mem_singleton.1 hform
    rw [lowerChar]
    split
    · exact .dotted
    · split
      · next n hn =>
        obtain ⟨run, hrun, hcapital⟩ := List.exists_of_findSome?_eq_some hn
        exact formBeyond_of_capital? hrun h hcapital
      · exact .beyond h

theorem exists_lowered (t : Text) : ∃ s, Lowered t s := by
  induction t with
  | nil => exact ⟨[], .nil⟩
  | cons c t ih =>
    obtain ⟨s, hs⟩ := ih
    have hform : ∃ form, form ∈ smallForms c := by
      rw [smallForms]
      split <;> exact ⟨_, List.mem_cons_self⟩
    obtain ⟨form, hform⟩ := hform
    exact ⟨form ++ s, .cons hform hs⟩

theorem Telling.tail {c : Char} {w : Text} (h : Telling (c :: w)) : Telling w := by
  obtain ⟨hchars, hlast⟩ := h
  refine ⟨fun d hd => hchars d (List.mem_cons_of_mem c hd), ?_⟩
  cases w with
  | nil => simp
  | cons d w => simpa using hlast

/-- A form that is no ASCII letter's is at most at its front a part of the word. -/
theorem Telling.not_prefix {w form s : Text} (hw : Telling w) (hne : w ≠ []) (hform : FormBeyond form) :
    ¬ w <+: form ++ s := by
  obtain ⟨c, w, rfl⟩ := List.exists_cons_of_ne_nil hne
  have hc := hw.1 c List.mem_cons_self
  intro h
  cases hform with
  | kelvin => exact hc.2 (List.cons_prefix_cons.1 h).1
  | dotted =>
    obtain ⟨rfl, hrest⟩ := List.cons_prefix_cons.1 h
    cases w with
    | nil => exact hw.2 rfl
    | cons d w =>
      have hd : d = '\u0307' := (List.cons_prefix_cons.1 hrest).1
      subst hd
      exact absurd (hw.1 '\u0307' (by simp)).1 (by decide)
  | beyond hd =>
    obtain ⟨rfl, -⟩ := List.cons_prefix_cons.1 h
    omega

theorem prefix_lowered_iff {w t s : Text} (hw : Telling w) (h : Lowered t s) :
    w <+: s ↔ w <+: t.map Char.toLower := by
  induction h generalizing w with
  | nil => rfl
  | @cons c form t s hform _ ih =>
    cases w with
    | nil => simp
    | cons d w =>
      by_cases hc : c.toNat < 0x80
      · rw [smallForms_of_ascii hc, List.mem_singleton] at hform
        subst hform
        rw [List.singleton_append, List.map_cons, List.cons_prefix_cons, List.cons_prefix_cons, ih hw.tail]
      · have hbeyond : 0x80 ≤ c.toNat := Nat.le_of_not_lt hc
        refine iff_of_false (hw.not_prefix (List.cons_ne_nil d w) (formBeyond_of_mem hbeyond hform)) ?_
        rw [List.map_cons, toLower_of_beyond hbeyond, List.cons_prefix_cons]
        rintro ⟨rfl, -⟩
        exact hc (hw.1 d List.mem_cons_self).1

theorem Telling.infix_form_iff {w form s : Text} (hw : Telling w) (hne : w ≠ []) {c : Char}
    (hform : form ∈ smallForms c) : w <:+: form ++ s ↔ w <+: form ++ s ∨ w <:+: s := by
  by_cases hc : c.toNat < 0x80
  · rw [smallForms_of_ascii hc, List.mem_singleton] at hform
    subst hform
    exact List.infix_cons_iff
  · cases formBeyond_of_mem (Nat.le_of_not_lt hc) hform with
    | kelvin => exact List.infix_cons_iff
    | dotted =>
      have hdot : ¬ w <+: '\u0307' :: s := hw.not_prefix hne (.beyond (by decide))
      change w <:+: 'i' :: '\u0307' :: s ↔ w <+: 'i' :: '\u0307' :: s ∨ w <:+: s
      rw [List.infix_cons_iff, List.infix_cons_iff]
      simp only [hdot, false_or]
    | beyond => exact List.infix_cons_iff

theorem infix_lowered_iff {w t s : Text} (hw : Telling w) (hne : w ≠ []) (h : Lowered t s) :
    w <:+: s ↔ w <:+: t.map Char.toLower := by
  induction h with
  | nil => rfl
  | @cons c form t s hform h ih =>
    have hprefix : w <+: form ++ s ↔ w <+: (c :: t).map Char.toLower :=
      prefix_lowered_iff hw (.cons hform h)
    rw [hw.infix_form_iff hne hform, hprefix, ih, List.map_cons, List.infix_cons_iff]

end Text
end CollectionScript
