import CollectionScript.Proofs.Word.Quoting
import CollectionScript.Proofs.Word.Reading

/-! Nothing is lost by writing words down. A word may stand bare, between quotes, or in pieces of which each
stands in a way of its own; whichever way is taken for each of them, reading the line gives them back. -/
namespace CollectionScript
namespace Word

/-- A text in one piece. Any text may stand between double quotes; what else is open to it depends on the
characters in it. -/
inductive Piece : Text → Text → Prop
  | bare {t : Text} (hne : t ≠ []) (h : Plain t) : Piece t t
  | single {t : Text} (h : '\'' ∉ t) : Piece ('\'' :: (t ++ ['\''])) t
  | double (t : Text) : Piece (quote t) t

inductive Written : Text → Text → Prop
  | last {s t : Text} (h : Piece s t) : Written s t
  | cons {s t s' t' : Text} (h : Piece s t) (hs : Written s' t') : Written (s ++ s') (t ++ t')

/-- A line of written words. White space may stand at both ends; what comes after a word is white space or
the end of the line. -/
inductive WrittenLine : Text → List Text → Prop
  | blank {gap : Text} (hgap : Blank gap) : WrittenLine gap []
  | cons {gap s t rest : Text} {ts : List Text} (hgap : Blank gap) (h : Written s t) (hends : Ends rest)
    (hrest : WrittenLine rest ts) : WrittenLine (gap ++ (s ++ rest)) (t :: ts)

theorem Piece.segments {s t : Text} (h : Piece s t) : Segments s t := by
  cases h with
  | bare _ h => exact h.segments
  | single h => simpa using Segments.cons (.single h) .nil
  | double t => exact (spells_quote t).segments

theorem Piece.ne_nil {s t : Text} (h : Piece s t) : s ≠ [] := by
  cases h with
  | bare hne _ => exact hne
  | single _ => exact List.cons_ne_nil _ _
  | double t => exact List.cons_ne_nil _ _

theorem Written.segments {s t : Text} (h : Written s t) : Segments s t := by
  induction h with
  | last h => exact h.segments
  | cons h _ ih => exact h.segments.append ih

theorem Written.spells {s t : Text} (h : Written s t) : Spells s t := by
  refine h.segments.spells ?_
  cases h with
  | last h => exact h.ne_nil
  | cons h _ => exact List.append_ne_nil_of_left_ne_nil h.ne_nil _

theorem WrittenLine.line {line : Text} {ts : List Text} (h : WrittenLine line ts) : Line line ts := by
  induction h with
  | blank hgap =>
    have hline := Line.nil.blank_append hgap
    rwa [List.append_nil] at hline
  | cons hgap h hends _ ih => exact (Line.word_append h.spells ih hends).blank_append hgap

/-- Words that a line has given can be given back, each in one pair of double quotes. -/
theorem line_quoteAll (ts : List Text) : Line (quoteAll ts) ts := by
  by_cases hne : ts = []
  · subst hne
    exact .nil
  · exact .of_spaced (quotedLine_quoteAll hne).spaced

end Word

/-- However words are written on a line, reading it gives the words; and so does reading what any line
gives, written anew in double quotes. -/
theorem words_written :
    (∀ line ts, Word.WrittenLine line ts → words line = .ok ts) ∧
    ∀ line ts, words line = .ok ts → words (Word.quoteAll ts) = .ok ts :=
  ⟨fun _ _ h => words_of_line h.line, fun _ ts _ => words_of_line (Word.line_quoteAll ts)⟩

/-- A backslash before a quote stands for itself outside of double quotes, and an empty word needs quotes. -/
theorem words_written_in_pieces :
    Word.WrittenLine " a\\\"b\\\"\"'c d'\t'' ".toList ["a\\b\"c d".toList, []] ∧
      words " a\\\"b\\\"\"'c d'\t'' ".toList = .ok ["a\\b\"c d".toList, []] := by
  have hfirst : Word.Written (['a', '\\'] ++ (Word.quote ['b', '"'] ++ '\'' :: (['c', ' ', 'd'] ++ ['\''])))
      (['a', '\\'] ++ (['b', '"'] ++ ['c', ' ', 'd'])) :=
    .cons (.bare (by decide) (by decide)) (.cons (.double _) (.last (.single (by decide))))
  have hsecond : Word.Written ('\'' :: ([] ++ ['\''])) [] := .last (.single List.not_mem_nil)
  have hrest : Word.WrittenLine (['\t'] ++ ('\'' :: ([] ++ ['\'']) ++ [' '])) [[]] :=
    .cons (by decide) hsecond (Word.ends_cons.2 (by decide)) (.blank (by decide))
  have hline : Word.WrittenLine ([' '] ++ (_ ++ _)) [_, []] :=
    .cons (by decide) hfirst (Word.ends_cons.2 (by decide)) hrest
  exact ⟨hline, words_written.1 _ _ hline⟩

end CollectionScript
