import CollectionScript.Proofs.Run
import CollectionScript.Proofs.Word.Scanning

/-! The words of a line are those that the grammar gives it, and a line that the grammar refuses is refused
for a quote that it opens and does not close. -/
namespace CollectionScript

namespace Cursor

theorem words_of_next_none {cursor rest : Cursor} (h : cursor.next = (.ok none, rest)) :
    cursor.words = .ok [] := by
  rw [words]
  split <;> simp_all

theorem words_of_next_some {cursor rest : Cursor} {word : Text}
    (h : cursor.next = (.ok (some word), rest)) :
    cursor.words = rest.words.map (word :: ·) := by
  rw [words]
  split <;> simp_all

theorem words_of_next_error {cursor rest : Cursor} {e : Error}
    (h : cursor.next = (.error e, rest)) : cursor.words = .error e := by
  rw [words]
  split <;> simp_all

theorem next_congr {cursor cursor' : Cursor} (h : cursor.skipBlanks = cursor'.skipBlanks) :
    cursor.next = cursor'.next := by simp only [next, h]

theorem words_congr {cursor cursor' : Cursor} (h : cursor.skipBlanks = cursor'.skipBlanks) :
    cursor.words = cursor'.words := by
  have hnext : cursor.next = cursor'.next := next_congr h
  match hn : cursor'.next with
  | (.ok none, _) => rw [words_of_next_none hn, words_of_next_none (hnext.trans hn)]
  | (.ok (some _), _) => rw [words_of_next_some hn, words_of_next_some (hnext.trans hn)]
  | (.error _, _) => rw [words_of_next_error hn, words_of_next_error (hnext.trans hn)]

theorem skipBlanks_append {gap : Text} (hgap : Word.Blank gap) (t : Text) (column : Nat) :
    skipBlanks ⟨gap ++ t, column⟩ = skipBlanks ⟨t, column + gap.length⟩ := by
  have hdrop : (gap ++ t).dropWhile Text.isBlank = t.dropWhile Text.isBlank :=
    List.dropWhile_append_of_pos hgap
  have htake : (gap ++ t).takeWhile Text.isBlank = gap ++ t.takeWhile Text.isBlank :=
    List.takeWhile_append_of_pos hgap
  simp only [skipBlanks, hdrop, htake, List.length_append, Nat.add_assoc]

theorem skipBlanks_of_head {c : Char} (hc : Text.isBlank c = false) (r : Text) (column : Nat) :
    skipBlanks ⟨c :: r, column⟩ = ⟨c :: r, column⟩ := by
  simp [skipBlanks, hc]

theorem words_blank_append {gap : Text} (hgap : Word.Blank gap) (t : Text) (column : Nat) :
    words ⟨gap ++ t, column⟩ = words ⟨t, column + gap.length⟩ :=
  words_congr (skipBlanks_append hgap t column)

@[simp] theorem next_nil (column : Nat) : next ⟨[], column⟩ = (.ok none, ⟨[], column⟩) := rfl

theorem next_word_append {w v r : Text} (h : Word.Spells w v) (hends : Word.Ends r)
    (column : Nat) :
    next ⟨w ++ r, column⟩ = (.ok (some v), ⟨r, column + w.length⟩) := by
  have hscan : Word.scan .bare column (w ++ r) = .ok (v, ⟨r, column + w.length⟩) := by
    rw [Word.scan_segments h.segments, Word.scan_ends hends, Word.append_ok, List.append_nil]
  obtain ⟨c, w', rfl, hc⟩ := h.head
  rw [List.cons_append] at hscan ⊢
  simp only [next, skipBlanks_of_head hc, hscan]

/-- The part of a word before a quote that is not closed is lost with the rest of the line. -/
theorem next_unclosed {w v r : Text} {q : Char} (h : Word.Segments w v) (hq : Word.Unclosed q r)
    (column : Nat) :
    next ⟨w ++ q :: r, column⟩ =
      (.error (.malformedQuote q (column + w.length)), finish ⟨w ++ q :: r, column⟩) := by
  have hscan : Word.scan .bare column (w ++ q :: r) =
      .error (.malformedQuote q (column + w.length)) := by
    rw [Word.scan_segments h, Word.scan_unclosed hq, Word.append_error]
  have hhead : ∃ c r', w ++ q :: r = c :: r' ∧ Text.isBlank c = false := by
    cases h with
    | nil => exact ⟨q, r, rfl, Word.isBlank_of_unclosed hq⟩
    | cons hs _ =>
      obtain ⟨c, s', rfl, hc⟩ := hs.head
      exact ⟨c, _, rfl, hc⟩
  obtain ⟨c, r', htext, hc⟩ := hhead
  rw [htext] at hscan ⊢
  simp only [next, skipBlanks_of_head hc, hscan]

@[simp] theorem words_nil (column : Nat) : words ⟨[], column⟩ = .ok [] :=
  words_of_next_none (next_nil column)

theorem words_word_append {w v r : Text} (h : Word.Spells w v) (hends : Word.Ends r)
    (column : Nat) :
    words ⟨w ++ r, column⟩ = (words ⟨r, column + w.length⟩).map (v :: ·) :=
  words_of_next_some (next_word_append h hends column)

theorem words_unclosed {w v r : Text} {q : Char} (h : Word.Segments w v) (hq : Word.Unclosed q r)
    (column : Nat) :
    words ⟨w ++ q :: r, column⟩ = .error (.malformedQuote q (column + w.length)) :=
  words_of_next_error (next_unclosed h hq column)

end Cursor

namespace Word

/-- A line may be continued by anything that does not change where its last word ends. -/
theorem Spaced.words_append {t : Text} {ts : List Text} (h : Spaced t ts) {r : Text}
    (hends : Ends r) (column : Nat) :
    Cursor.words ⟨t ++ r, column⟩ = (Cursor.words ⟨r, column + t.length⟩).map (ts ++ ·) := by
  induction h generalizing column with
  | nil =>
    cases hr : Cursor.words ⟨r, column⟩ <;> simp [hr, Except.map]
  | last h => exact Cursor.words_word_append h hends column
  | @cons w v gap t ts h hne hgap _ ih =>
    have hgapends : Ends (gap ++ (t ++ r)) := hgap.ends_append hne
    rw [List.append_assoc, List.append_assoc, Cursor.words_word_append h hgapends,
      Cursor.words_blank_append hgap, ih]
    simp only [List.length_append, Nat.add_assoc]
    cases Cursor.words ⟨r, column + (w.length + (gap.length + t.length))⟩ <;> rfl

theorem Line.words_append {t : Text} {ts : List Text} (h : Line t ts) {r : Text} (hends : Ends r)
    (column : Nat) :
    Cursor.words ⟨t ++ r, column⟩ = (Cursor.words ⟨r, column + t.length⟩).map (ts ++ ·) := by
  obtain ⟨hgap, hs⟩ := h
  rw [List.append_assoc, Cursor.words_blank_append hgap, hs.words_append hends,
    List.length_append, Nat.add_assoc]

theorem Line.words_eq {t : Text} {ts : List Text} (h : Line t ts) (column : Nat) :
    Cursor.words ⟨t, column⟩ = .ok ts := by
  have hwords := h.words_append ends_nil column
  simpa [Except.map] using hwords

theorem Spaced.words_unclosed {t : Text} {ts : List Text} (h : Spaced t ts) {q : Char} {r : Text}
    (hq : Unclosed q r) (column : Nat) :
    Cursor.words ⟨t ++ q :: r, column⟩ = .error (.malformedQuote q (column + t.length)) := by
  induction h generalizing column with
  | nil => exact Cursor.words_unclosed .nil hq column
  | last h => exact Cursor.words_unclosed h.segments hq column
  | @cons w v gap t ts h hne hgap _ ih =>
    have hgapends : Ends (gap ++ (t ++ q :: r)) := hgap.ends_append hne
    rw [List.append_assoc, List.append_assoc, Cursor.words_word_append h hgapends,
      Cursor.words_blank_append hgap, ih]
    simp only [List.length_append, Nat.add_assoc, Except.map]

theorem Line.words_unclosed {t : Text} {ts : List Text} (h : Line t ts) {q : Char} {r : Text}
    (hq : Unclosed q r) (column : Nat) :
    Cursor.words ⟨t ++ q :: r, column⟩ = .error (.malformedQuote q (column + t.length)) := by
  obtain ⟨hgap, hs⟩ := h
  rw [List.append_assoc, Cursor.words_blank_append hgap, hs.words_unclosed hq,
    List.length_append, Nat.add_assoc]

end Word

theorem words_of_line {line : Text} {ts : List Text} (h : Word.Line line ts) :
    words line = .ok ts := h.words_eq 1

theorem words_of_unclosed {before after : Text} {q : Char} {ts : List Text}
    (h : Word.Line before ts) (hq : Word.Unclosed q after) :
    words (before ++ q :: after) = .error (.malformedQuote q (before.length + 1)) := by
  rw [words, Cursor.start, h.words_unclosed hq, Nat.add_comm]

theorem words_eq_ok_iff {line : Text} {ts : List Text} :
    words line = .ok ts ↔ Word.Line line ts := by
  refine ⟨fun h => ?_, words_of_line⟩
  rcases Word.line_or_unclosed line with ⟨ts', hts⟩ | ⟨before, q, after, ts', rfl, hts, hq⟩
  · have heq : ts' = ts := Except.ok.inj ((words_of_line hts).symm.trans h)
    exact heq ▸ hts
  · rw [words_of_unclosed hts hq] at h
    cases h

theorem words_eq_nil_iff {line : Text} : words line = .ok [] ↔ Word.Blank line := by
  rw [words_eq_ok_iff]
  constructor
  · intro h
    cases h with
    | intro hgap hs =>
      cases hs
      rwa [List.append_nil]
  · intro h
    simpa using Word.Line.nil.blank_append h

theorem words_eq_error_iff {line : Text} {e : Error} :
    words line = .error e ↔ ∃ before q after ts, line = before ++ q :: after ∧
      Word.Line before ts ∧ Word.Unclosed q after ∧
      e = .malformedQuote q (before.length + 1) := by
  constructor
  · intro h
    rcases Word.line_or_unclosed line with ⟨ts, hts⟩ | ⟨before, q, after, ts, rfl, hts, hq⟩
    · rw [words_of_line hts] at h
      cases h
    · rw [words_of_unclosed hts hq] at h
      exact ⟨before, q, after, ts, rfl, hts, hq, (Except.error.inj h).symm⟩
  · rintro ⟨before, q, after, ts, rfl, hts, hq, rfl⟩
    exact words_of_unclosed hts hq

/-- The words of a line are read exactly as the grammar says, and there is one way to read them. A line
outside the grammar is refused for the quote of a span that the rest of the line does not close. -/
theorem words_grammar (line : Text) :
    (∀ ts, words line = .ok ts ↔ Word.Line line ts) ∧
    (∀ ts ts', Word.Line line ts → Word.Line line ts' → ts = ts') ∧
    ((¬ ∃ ts, Word.Line line ts) →
      ∃ before quote after, line = before ++ quote :: after ∧
        words line = .error (.malformedQuote quote (before.length + 1)) ∧
        (∃ ts, Word.Line before ts) ∧ Word.Unclosed quote after) := by
  refine ⟨fun ts => words_eq_ok_iff, fun ts ts' h h' => ?_, fun h => ?_⟩
  · have heq : Except.ok ts = Except.ok ts' := (words_of_line h).symm.trans (words_of_line h')
    exact Except.ok.inj heq
  · rcases Word.line_or_unclosed line with hts | ⟨before, q, after, ts, rfl, hts, hq⟩
    · exact absurd hts h
    · exact ⟨before, q, after, rfl, words_of_unclosed hts hq, ⟨ts, hts⟩, hq⟩

/-- Between single quotes a backslash escapes nothing, between double quotes it does. -/
example : words "a'\\'b c\"\\\" ".toList = .error (.malformedQuote '"' 8) := by decide +kernel

end CollectionScript
