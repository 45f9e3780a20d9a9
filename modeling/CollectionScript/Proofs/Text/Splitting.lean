import CollectionScript.Text.Blank
import CollectionScript.Text.Lines

/-! Texts joined by a separator that none of them has are found again by splitting. -/
namespace CollectionScript
namespace Text

theorem splitOnP_intercalate {p : Char → Bool} {sep : Char} (hsep : p sep = true)
    {texts : List Text} (h : ∀ t ∈ texts, ∀ c ∈ t, p c = false) (hne : texts ≠ []) :
    ([sep].intercalate texts).splitOnP p = texts := by
  induction texts with
  | nil => exact absurd rfl hne
  | cons t texts ih =>
    obtain ⟨ht, htexts⟩ := List.forall_mem_cons.1 h
    cases texts with
    | nil => rw [List.intercalate_singleton, List.splitOnP_eq_singleton ht]
    | cons u texts =>
      rw [List.intercalate_cons_cons, List.append_assoc, List.singleton_append,
        List.splitOnP_append_cons_of_forall_mem ht sep hsep, ih htexts (List.cons_ne_nil u texts)]

theorem not_of_mem_splitOnP {p : Char → Bool} {t piece : Text} (h : piece ∈ t.splitOnP p) :
    ∀ c ∈ piece, p c = false := by
  induction t generalizing piece with
  | nil =>
    obtain rfl := List.mem_singleton.1 h
    exact fun c hc => absurd hc List.not_mem_nil
  | cons d t ih =>
    rw [List.splitOnP_cons_eq_if_modifyHead] at h
    obtain ⟨first, rest, hsplit⟩ := List.exists_cons_of_ne_nil (List.splitOnP_ne_nil p t)
    rw [hsplit] at h ih
    cases hd : p d with
    | true =>
      rw [hd, if_pos rfl] at h
      rcases List.mem_cons.1 h with rfl | h
      · exact fun c hc => absurd hc List.not_mem_nil
      · exact ih h
    | false =>
      rw [hd, if_neg Bool.false_ne_true, List.modifyHead_cons] at h
      rcases List.mem_cons.1 h with rfl | h
      · intro c hc
        rcases List.mem_cons.1 hc with rfl | hc
        · exact hd
        · exact ih List.mem_cons_self c hc
      · exact ih (List.mem_cons_of_mem _ h)

theorem not_isBlank_of_mem_fields {t field : Text} (h : field ∈ fields t) :
    ∀ c ∈ field, isBlank c = false :=
  not_of_mem_splitOnP (List.mem_filter.1 h).1

theorem fields_intercalate {items : List Text}
    (h : ∀ t ∈ items, t ≠ [] ∧ ∀ c ∈ t, isBlank c = false) :
    fields ([' '].intercalate items) = items := by
  by_cases hne : items = []
  · subst hne
    rfl
  · have hsplit : ([' '].intercalate items).splitOnP isBlank = items :=
      splitOnP_intercalate (by decide) (fun t ht => (h t ht).2) hne
    rw [fields, hsplit, List.filter_eq_self]
    intro t ht
    exact decide_eq_true (h t ht).1

theorem beq_newline_of_not_mem {t : Text} (h : '\n' ∉ t) : ∀ c ∈ t, (c == '\n') = false := by
  intro c hc
  refine beq_eq_false_iff_ne.2 ?_
  rintro rfl
  exact h hc

theorem endLines_of_forall {pieces : List Text}
    (h : ∀ t ∈ pieces, t ≠ [] ∧ t.getLast? ≠ some '\r') : endLines pieces = pieces := by
  induction pieces with
  | nil => rfl
  | cons t pieces ih =>
    obtain ⟨⟨hne, hlast⟩, hpieces⟩ := List.forall_mem_cons.1 h
    cases pieces with
    | nil => rw [endLines, if_neg hne]
    | cons u pieces => rw [endLines, ih hpieces, dropReturn, if_neg hlast]

theorem lines_intercalate {texts : List Text} (h : ∀ t ∈ texts, '\n' ∉ t)
    (hends : ∀ t ∈ texts, t ≠ [] ∧ t.getLast? ≠ some '\r') :
    lines (['\n'].intercalate texts) = texts := by
  by_cases hne : texts = []
  · subst hne
    rfl
  · have hpieces : ∀ t ∈ texts, ∀ c ∈ t, (c == '\n') = false := fun t ht => beq_newline_of_not_mem (h t ht)
    rw [lines, splitOnP_intercalate (by decide) hpieces hne, endLines_of_forall hends]

/-- Every piece with another one after it is ended by a line feed. -/
theorem endLines_append (pieces : List Text) {next : List Text} (hne : next ≠ []) :
    endLines (pieces ++ next) = pieces.map dropReturn ++ endLines next := by
  obtain ⟨n, next, rfl⟩ := List.exists_cons_of_ne_nil hne
  induction pieces with
  | nil => rfl
  | cons t pieces ih =>
    cases pieces with
    | nil => rfl
    | cons u pieces =>
      rw [List.cons_append, List.cons_append, endLines, List.map_cons, ← List.cons_append, ih]
      rfl

/-- The last piece of a text is empty or ends as the text does. -/
theorem splitOnP_eq_concat (t : Text) : ∃ pieces last,
    t.splitOnP (· == '\n') = pieces ++ [last] ∧ (last = [] ∨ last.getLast? = t.getLast?) := by
  have hwhole : ∀ r : Text, '\n' ∉ r → r.splitOnP (· == '\n') = [r] :=
    fun r hr => List.splitOnP_eq_singleton (beq_newline_of_not_mem hr)
  by_cases h : '\n' ∈ t
  · obtain ⟨r, front, hsplit, hr⟩ := List.eq_append_cons_of_mem (List.mem_reverse.2 h)
    have ht : t = front.reverse ++ '\n' :: r.reverse := by simpa using congrArg List.reverse hsplit
    refine ⟨front.reverse.splitOnP (· == '\n'), r.reverse, ?_, ?_⟩
    · rw [ht, List.splitOnP_append_cons _ _ (by decide), hwhole r.reverse (by simpa using hr)]
    · cases r with
      | nil => exact .inl rfl
      | cons c r => exact .inr (by rw [← List.head?_reverse, ← List.head?_reverse, hsplit]; simp)
  · exact ⟨[], t, hwhole t h, .inr rfl⟩

theorem lines_line {l : Text} (hl : '\n' ∉ l) (s : Text) : lines (l ++ '\n' :: s) = dropReturn l :: lines s := by
  have hsplit : (l ++ '\n' :: s).splitOnP (· == '\n') = [l] ++ s.splitOnP (· == '\n') :=
    List.splitOnP_append_cons_of_forall_mem (beq_newline_of_not_mem hl) '\n' (by decide) s
  rw [lines, hsplit, endLines_append [l] (List.splitOnP_ne_nil _ _)]
  rfl

theorem lines_rest {l : Text} (hl : '\n' ∉ l) (hne : l ≠ []) : lines l = [l] := by
  rw [lines, List.splitOnP_eq_singleton (beq_newline_of_not_mem hl), endLines, if_neg hne]

/-- A text is a line ended by a line feed with a text after it, or has no line feed. -/
@[elab_as_elim]
theorem line_induction {motive : Text → Prop} (rest : ∀ l, '\n' ∉ l → motive l)
    (line : ∀ l s, '\n' ∉ l → motive s → motive (l ++ '\n' :: s)) (t : Text) : motive t := by
  induction hn : t.length using Nat.strongRecOn generalizing t with
  | ind n ih =>
    subst hn
    cases hcut : cut? '\n' t with
    | none => exact rest t (cut?_eq_none_iff.1 hcut)
    | some p =>
      obtain ⟨rfl, hl⟩ := cut?_eq_some_iff.1 hcut
      exact line p.1 p.2 hl (ih p.2.length (by simp; omega) p.2 rfl)

/-- What follows a line feed leaves the lines before it alone, unless a carriage return stands there. -/
theorem lines_append_newline {a : Text} (h : a.getLast? ≠ some '\r') (b : Text) :
    ∃ more, lines (a ++ '\n' :: b) = lines a ++ more := by
  obtain ⟨pieces, last, hpieces, hlast⟩ := splitOnP_eq_concat a
  have hb : b.splitOnP (· == '\n') ≠ [] := List.splitOnP_ne_nil _ _
  have hreturn : dropReturn last = last := by
    refine if_neg fun hr => ?_
    rcases hlast with rfl | hlast
    · cases hr
    · exact h (hlast ▸ hr)
  have hall : lines (a ++ '\n' :: b) = pieces.map dropReturn ++ last :: lines b := by
    rw [lines, List.splitOnP_append_cons _ _ (by decide), hpieces, endLines_append _ hb,
      List.map_append, List.append_assoc, List.map_singleton, hreturn]
    rfl
  have ha : lines a = pieces.map dropReturn ++ endLines [last] := by
    rw [lines, hpieces, endLines_append _ (List.cons_ne_nil _ _)]
  by_cases hnil : last = []
  · exact ⟨[] :: lines b, by simp [hall, ha, hnil, endLines]⟩
  · exact ⟨lines b, by simp [hall, ha, hnil, endLines]⟩

end Text
end CollectionScript
