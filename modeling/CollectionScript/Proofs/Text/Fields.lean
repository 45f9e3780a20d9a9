import CollectionScript.Proofs.Form.Values
import CollectionScript.Proofs.Word.Grammar

/-! The items of a list value. Items are pieces without white space, and there is white space between any two
of them; splitting a text into fields finds its items, which are the only ones. -/
namespace CollectionScript
namespace Text

/-- A text with its items. White space may stand around them and has to stand between them. -/
inductive Items : Text → List Text → Prop
  | blank {gap : Text} (hgap : Word.Blank gap) : Items gap []
  | cons {gap item t : Text} {items : List Text} (hgap : Word.Blank gap) (hitem : IsItem item)
    (hends : Word.Ends t) (h : Items t items) : Items (gap ++ (item ++ t)) (item :: items)

theorem fields_blank_cons {c : Char} (h : isBlank c = true) (t : Text) : fields (c :: t) = fields t := by
  have hnil : ∀ d ∈ ([] : Text), isBlank d = false := by simp
  have hsplit : (c :: t).splitOnP isBlank = [] :: t.splitOnP isBlank :=
    List.splitOnP_append_cons_of_forall_mem hnil c h t
  simp [fields, hsplit]

theorem fields_blank_append {gap : Text} (h : Word.Blank gap) (t : Text) : fields (gap ++ t) = fields t := by
  induction gap with
  | nil => rfl
  | cons c gap ih =>
    obtain ⟨hc, hgap⟩ := Word.blank_cons.1 h
    rw [List.cons_append, fields_blank_cons hc, ih hgap]

theorem fields_item_append {item t : Text} (h : IsItem item) (ht : Word.Ends t) :
    fields (item ++ t) = item :: fields t := by
  obtain ⟨hne, hunbroken⟩ := h
  cases t with
  | nil =>
    rw [List.append_nil, fields, List.splitOnP_eq_singleton hunbroken]
    simp [hne, fields]
  | cons c t =>
    have hc : isBlank c = true := Word.ends_cons.1 ht
    rw [fields_blank_cons hc, fields, List.splitOnP_append_cons_of_forall_mem hunbroken c hc]
    simp [hne, fields]

theorem Items.fields_eq {t : Text} {items : List Text} (h : Items t items) : fields t = items := by
  induction h with
  | @blank gap hgap =>
    rw [← List.append_nil gap, fields_blank_append hgap]
    rfl
  | cons hgap hitem hends _ ih => rw [fields_blank_append hgap, fields_item_append hitem hends, ih]

theorem exists_span (p : Char → Bool) (t : Text) : ∃ front rest, t = front ++ rest ∧
    (∀ c ∈ front, p c = true) ∧ ∀ c ∈ rest.head?, p c = false := by
  induction t with
  | nil => exact ⟨[], [], rfl, by simp, by simp⟩
  | cons c t ih =>
    cases hc : p c with
    | true =>
      obtain ⟨front, rest, rfl, hfront, hrest⟩ := ih
      exact ⟨c :: front, rest, rfl, List.forall_mem_cons.2 ⟨hc, hfront⟩, hrest⟩
    | false => exact ⟨[], c :: t, rfl, by simp, by simpa using hc⟩

theorem exists_item {t : Text} (hne : t ≠ []) (hhead : ∀ c ∈ t.head?, isBlank c = false) :
    ∃ item rest, t = item ++ rest ∧ IsItem item ∧ Word.Ends rest := by
  obtain ⟨item, rest, rfl, hitem, hrest⟩ := exists_span (!isBlank ·) t
  refine ⟨item, rest, rfl, ⟨?_, fun c hc => by simpa using hitem c hc⟩, fun c hc => by simpa using hrest c hc⟩
  rintro rfl
  obtain ⟨c, rest, rfl⟩ := List.exists_cons_of_ne_nil hne
  have hblank : isBlank c = true := by simpa using hrest c rfl
  have hnot : isBlank c = false := hhead c rfl
  rw [hblank] at hnot
  cases hnot

theorem items_fields (t : Text) : Items t (fields t) := by
  induction hn : t.length using Nat.strongRecOn generalizing t with
  | ind n ih =>
    obtain ⟨gap, rest, rfl, hgap, hrest⟩ := exists_span isBlank t
    rw [fields_blank_append hgap]
    by_cases hne : rest = []
    · subst hne
      rw [List.append_nil]
      exact .blank hgap
    · obtain ⟨item, t, rfl, hitem, hends⟩ := exists_item hne hrest
      rw [fields_item_append hitem hends]
      refine .cons hgap hitem hends (ih t.length ?_ t rfl)
      have hpos := List.length_pos_iff.2 hitem.1
      simp at hn
      omega

theorem items_iff {t : Text} {items : List Text} : Items t items ↔ fields t = items := by
  constructor
  · exact Items.fields_eq
  · rintro rfl
    exact items_fields t

theorem items_nil_iff {t : Text} : Items t [] ↔ Word.Blank t := by
  constructor
  · rintro ⟨hgap⟩
    exact hgap
  · exact .blank

theorem fields_ne_nil_iff {t : Text} : fields t ≠ [] ↔ ∃ c ∈ t, isBlank c = false := by
  rw [Ne, ← items_iff, items_nil_iff]
  simp [Word.Blank]

end Text
end CollectionScript
