import CollectionScript.Proofs.Word.Reading

/-! The words of a text that is put together from two others. With white space between them each is read as
it would be alone. Without it only so much is certain: a quote that the first leaves open is not reported
any earlier, whatever follows. -/
namespace CollectionScript

namespace Error

def moved (n : Nat) : Error → Error
  | malformedQuote q column => malformedQuote q (column + n)
  | e => e

end Error

namespace Word

/-- A quote that a text does not close is not closed by the front of it. -/
theorem Unclosed.of_append {q : Char} {s t : Text} (h : Unclosed q (s ++ t)) : Unclosed q s := by
  cases h with
  | single h =>
    apply Unclosed.single
    exact fun hs => h (List.mem_append_left t hs)
  | double h =>
    apply Unclosed.double
    intro b v r hb hs
    apply h b v (r ++ t) hb
    simp [hs]

theorem Line.not_unclosed {before after : Text} {q : Char} {ts us : List Text}
    (h : Line (before ++ q :: after) ts) (hbefore : Line before us) : ¬ Unclosed q after := by
  intro hq
  have hok := words_of_line h
  rw [words_of_unclosed hbefore hq] at hok
  contradiction

/-- A quote that is left open does not stand within a line that the text begins with. -/
theorem Line.length_le {front rest before after : Text} {q : Char} {ts us : List Text}
    (h : Line front ts) (hbefore : Line before us) (hq : Unclosed q after)
    (heq : front ++ rest = before ++ q :: after) : front.length ≤ before.length := by
  rcases List.append_eq_append_iff.1 heq with ⟨mid, rfl, -⟩ | ⟨mid, rfl, hmid⟩
  · simp
  · cases mid with
    | nil => simp
    | cons c mid =>
      obtain ⟨rfl, rfl⟩ := List.cons.inj hmid
      exact absurd hq.of_append (h.not_unclosed hbefore)

end Word

theorem Cursor.words_moved (t : Text) (n : Nat) :
    words ⟨t, n + 1⟩ = (CollectionScript.words t).mapError (Error.moved n) := by
  rcases Word.line_or_unclosed t with ⟨ts, hts⟩ | ⟨before, q, after, ts, rfl, hts, hq⟩
  · rw [words_of_line hts, hts.words_eq]
    rfl
  · have hcolumn : n + 1 + before.length = before.length + 1 + n := by omega
    rw [words_of_unclosed hts hq, hts.words_unclosed hq, hcolumn]
    rfl

theorem words_append_spaced {a gap : Text} {ts : List Text} (h : words a = .ok ts) (hgap : Word.Blank gap)
    (hne : gap ≠ []) (b : Text) :
    words (a ++ gap ++ b) =
      ((words b).mapError (Error.moved (a.length + gap.length))).map (ts ++ ·) := by
  have hline : Word.Line a ts := words_eq_ok_iff.1 h
  have hcolumn : 1 + a.length + gap.length = a.length + gap.length + 1 := by omega
  rw [List.append_assoc, words, Cursor.start, hline.words_append (hgap.ends_append hne),
    Cursor.words_blank_append hgap, hcolumn, Cursor.words_moved]

theorem column_le_of_words_append {a x : Text} {q q' : Char} {column column' : Nat}
    (h : words a = .error (.malformedQuote q column))
    (h' : words (a ++ x) = .error (.malformedQuote q' column')) : column ≤ column' := by
  obtain ⟨before, _, after, ts, rfl, hts, -, he⟩ := words_eq_error_iff.1 h
  obtain ⟨before', _, after', ts', heq, hts', hq', he'⟩ := words_eq_error_iff.1 h'
  injection he with hq hcolumn
  injection he' with hq'' hcolumn'
  subst hq hq''
  rw [List.append_assoc] at heq
  have hle : before.length ≤ before'.length := hts.length_le hts' hq' heq
  omega

/-- Two texts with white space between them have the words of the first and then those of the second, and an
error of the second is so many columns further on as stand before it. If the first has an error, then any
text that starts with it has none or one that is not earlier. -/
theorem words_joined (a : Text) :
    (∀ ts gap b, words a = .ok ts → Word.Blank gap → gap ≠ [] →
      (∀ us, words b = .ok us → words (a ++ gap ++ b) = .ok (ts ++ us)) ∧
      ∀ q column, words b = .error (.malformedQuote q column) →
        words (a ++ gap ++ b) = .error (.malformedQuote q (column + a.length + gap.length))) ∧
    ∀ q column x, words a = .error (.malformedQuote q column) →
      (∃ ts, words (a ++ x) = .ok ts) ∨
      ∃ q' column', words (a ++ x) = .error (.malformedQuote q' column') ∧ column ≤ column' := by
  refine ⟨fun ts gap b h hgap hne => ⟨fun us hb => ?_, fun q column hb => ?_⟩, fun q column x h => ?_⟩
  · rw [words_append_spaced h hgap hne, hb]
    rfl
  · rw [words_append_spaced h hgap hne, hb, Nat.add_assoc]
    rfl
  · cases hx : words (a ++ x) with
    | ok ts => exact .inl ⟨ts, rfl⟩
    | error e =>
      obtain ⟨before, q', after, ts, -, -, -, rfl⟩ := words_eq_error_iff.1 hx
      exact .inr ⟨q', before.length + 1, rfl, column_le_of_words_append h hx⟩

/-- A backslash before the white space does not escape it, and an open quote may be closed by what follows or
show up further on. -/
theorem words_joined_after_backslash :
    (words "a\\".toList = .ok ["a\\".toList] ∧ Word.Blank "\t ".toList ∧ "\t ".toList ≠ [] ∧
      words "b 'c".toList = .error (.malformedQuote '\'' 3) ∧
      words "a\\\t b 'c".toList = .error (.malformedQuote '\'' 7)) ∧
    words "x 'c".toList = .error (.malformedQuote '\'' 3) ∧
      ∃ q column, words "x 'c' \"".toList = .error (.malformedQuote q column) ∧ 3 ≤ column := by
  have ha : words "a\\".toList = .ok ["a\\".toList] := by decide +kernel
  have hgap : Word.Blank "\t ".toList := by decide
  have hb : words "b 'c".toList = .error (.malformedQuote '\'' 3) := by decide +kernel
  have hx : words "x 'c".toList = .error (.malformedQuote '\'' 3) := by decide +kernel
  have hjoined := ((words_joined _).1 _ _ _ ha hgap (by decide)).2 _ _ hb
  refine ⟨⟨ha, hgap, by decide, hb, hjoined⟩, hx, ?_⟩
  rcases (words_joined _).2 _ _ "' \"".toList hx with ⟨ts, hts⟩ | hlater
  · have herror : words "x 'c' \"".toList = .error (.malformedQuote '"' 7) := by decide +kernel
    exact absurd (hts.symm.trans herror) (by simp)
  · exact hlater

end CollectionScript
