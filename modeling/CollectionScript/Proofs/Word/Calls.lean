import CollectionScript.Proofs.Word.Reading
import Mathlib.Data.List.TakeDrop

/-! Reading a line word by word, with as many calls as one likes. The words come first and the end of the
line comes again and again after them. A quote that is not closed is reported once, between the two, and
the word in which it stands is never returned. -/
namespace CollectionScript

namespace Word

def EndsInWord (t : Text) : Prop := ∃ c ∈ t.getLast?, Text.isBlank c = false

@[simp] theorem not_endsInWord_nil : ¬ EndsInWord [] := by simp [EndsInWord]

@[simp] theorem endsInWord_concat {s : Text} {c : Char} :
    EndsInWord (s ++ [c]) ↔ Text.isBlank c = false := by simp [EndsInWord]

theorem endsInWord_append (s : Text) {t : Text} (hne : t ≠ []) :
    EndsInWord (s ++ t) ↔ EndsInWord t := by
  simp [EndsInWord, hne]

theorem Blank.not_endsInWord {gap : Text} (hgap : Blank gap) : ¬ EndsInWord gap := by
  rintro ⟨c, hc, hblank⟩
  rw [hgap c (List.mem_of_getLast? hc)] at hblank
  contradiction

theorem Blank.endsInWord_append {gap : Text} (hgap : Blank gap) (t : Text) :
    EndsInWord (gap ++ t) ↔ EndsInWord t := by
  by_cases hne : t = []
  · simp [hne, hgap.not_endsInWord]
  · exact Word.endsInWord_append gap hne

/-- The last character of a segment is bare or a quote. -/
theorem Segment.endsInWord {s v : Text} (h : Segment s v) : EndsInWord s := by
  cases h with
  | @bare c hblank _ _ => simpa [EndsInWord] using hblank
  | @single b _ =>
    rw [← List.cons_append, endsInWord_concat]
    decide
  | @double b _ _ =>
    rw [← List.cons_append, endsInWord_concat]
    decide

theorem Segments.endsInWord {w v : Text} (h : Segments w v) (hne : w ≠ []) : EndsInWord w := by
  induction h with
  | nil => exact absurd rfl hne
  | @cons s v t w h _ ih =>
    by_cases ht : t = []
    · simpa [ht] using h.endsInWord
    · rw [endsInWord_append s ht]
      exact ih ht

theorem Spells.endsInWord {w v : Text} (h : Spells w v) : EndsInWord w := by
  obtain ⟨c, r, rfl, _⟩ := h.head
  exact h.segments.endsInWord (List.cons_ne_nil c r)

end Word

namespace Cursor

def found (word : Text) : Except Error (Option Text) := .ok (some word)

def failed (e : Error) : Except Error (Option Text) := .error e

/-- The answers of so many calls, each made where the one before it has left the cursor, also if that one
has failed. -/
def calls : Nat → Cursor → List (Except Error (Option Text))
  | 0, _ => []
  | n + 1, cursor => cursor.next.1 :: calls n cursor.next.2

@[simp] theorem calls_zero (cursor : Cursor) : calls 0 cursor = [] := rfl

theorem calls_succ (n : Nat) (cursor : Cursor) :
    calls (n + 1) cursor = cursor.next.1 :: calls n cursor.next.2 := rfl

/-- The answers are those of the list, one after another, and after them the end of the line again and
again. -/
def Answers (cursor : Cursor) (answers : List (Except Error (Option Text))) : Prop :=
  ∀ n, calls n cursor = answers.takeD n (.ok none)

variable {column : Nat} {answers : List (Except Error (Option Text))}

theorem Answers.congr {cursor cursor' : Cursor} (h : cursor.skipBlanks = cursor'.skipBlanks)
    (hanswers : cursor'.Answers answers) : cursor.Answers answers := by
  intro n
  rw [← hanswers n]
  cases n with
  | zero => rfl
  | succ n => rw [calls_succ, calls_succ, next_congr h]

theorem Answers.blank_append {gap t : Text} (hgap : Word.Blank gap)
    (h : Answers ⟨t, column + gap.length⟩ answers) : Answers ⟨gap ++ t, column⟩ answers :=
  h.congr (skipBlanks_append hgap t column)

theorem answers_nil (column : Nat) : Answers ⟨[], column⟩ [] := by
  intro n
  rw [List.takeD_nil]
  induction n with
  | zero => rfl
  | succ n ih => rw [calls_succ, next_nil, ih, List.replicate_succ]

theorem Answers.cons {cursor rest : Cursor} {answer : Except Error (Option Text)}
    (hnext : cursor.next = (answer, rest)) (h : rest.Answers answers) :
    cursor.Answers (answer :: answers) := by
  intro n
  cases n with
  | zero => simp
  | succ n =>
    rw [calls_succ, hnext, h n]
    simp

theorem Answers.word_append {w v r : Text} (h : Word.Spells w v) (hends : Word.Ends r)
    (hr : Answers ⟨r, column + w.length⟩ answers) : Answers ⟨w ++ r, column⟩ (found v :: answers) :=
  hr.cons (next_word_append h hends column)

theorem answers_unclosed {w v r : Text} {q : Char} (h : Word.Segments w v) (hq : Word.Unclosed q r)
    (column : Nat) :
    Answers ⟨w ++ q :: r, column⟩ [failed (.malformedQuote q (column + w.length))] :=
  (answers_nil _).cons (next_unclosed h hq column)

end Cursor

namespace Word

open Cursor

theorem Spaced.answers {t : Text} {ts : List Text} (h : Spaced t ts) (column : Nat) :
    Cursor.Answers ⟨t, column⟩ (ts.map found) := by
  induction h generalizing column with
  | nil => exact answers_nil column
  | @last w v h =>
    have hword := (answers_nil (column + w.length)).word_append h ends_nil
    simpa using hword
  | cons h hne hgap _ ih =>
    rw [List.map_cons]
    exact ((ih _).blank_append hgap).word_append h (hgap.ends_append hne)

theorem Line.answers {t : Text} {ts : List Text} (h : Line t ts) (column : Nat) :
    Cursor.Answers ⟨t, column⟩ (ts.map found) := by
  obtain ⟨hgap, hs⟩ := h
  exact (hs.answers _).blank_append hgap

/-- The words that are over before a quote are all words there, but the last one if the quote goes on with
it. -/
structure Over (before : Text) (ts ws : List Text) : Prop where
  butLast : EndsInWord before → ∃ w, ts = ws ++ [w]
  all : ¬ EndsInWord before → ts = ws

theorem Over.congr {s t : Text} {ts ws : List Text} (h : Over t ts ws) (hiff : EndsInWord s ↔ EndsInWord t) :
    Over s ts ws :=
  ⟨fun hs => h.butLast (hiff.1 hs), fun hs => h.all (mt hiff.2 hs)⟩

theorem Over.cons {t : Text} {ts ws : List Text} (h : Over t ts ws) (v : Text) :
    Over t (v :: ts) (v :: ws) := by
  refine ⟨fun ht => ?_, fun ht => by rw [h.all ht]⟩
  obtain ⟨w, rfl⟩ := h.butLast ht
  exact ⟨w, rfl⟩

/-- Before a quote that is not closed the words that are over are read as ever. The error comes in place of
what would have been the next word. -/
theorem Spaced.answers_unclosed {t : Text} {ts : List Text} (h : Spaced t ts) {q : Char} {r : Text}
    (hq : Unclosed q r) :
    ∃ ws, Over t ts ws ∧ ∀ column, Cursor.Answers ⟨t ++ q :: r, column⟩
      (ws.map found ++ [failed (.malformedQuote q (column + t.length))]) := by
  induction h with
  | nil =>
    refine ⟨[], ⟨fun h => absurd h not_endsInWord_nil, fun _ => rfl⟩, ?_⟩
    exact Cursor.answers_unclosed .nil hq
  | @last w v h =>
    refine ⟨[], ⟨fun _ => ⟨v, rfl⟩, fun hw => absurd h.endsInWord hw⟩, ?_⟩
    exact Cursor.answers_unclosed h.segments hq
  | @cons w v gap t ts h hne hgap _ ih =>
    obtain ⟨ws, hover, hanswers⟩ := ih
    have hlast : EndsInWord (w ++ (gap ++ t)) ↔ EndsInWord t := by
      rw [endsInWord_append w (List.append_ne_nil_of_left_ne_nil hne t), hgap.endsInWord_append]
    refine ⟨v :: ws, (hover.cons v).congr hlast, fun column => ?_⟩
    have hword : Cursor.Answers ⟨w ++ (gap ++ (t ++ q :: r)), column⟩
        (found v :: (ws.map found ++
          [failed (.malformedQuote q (column + w.length + gap.length + t.length))])) :=
      ((hanswers _).blank_append hgap).word_append h (hgap.ends_append hne)
    simpa [Nat.add_assoc] using hword

theorem Line.answers_unclosed {t : Text} {ts : List Text} (h : Line t ts) {q : Char} {r : Text}
    (hq : Unclosed q r) :
    ∃ ws, Over t ts ws ∧ ∀ column, Cursor.Answers ⟨t ++ q :: r, column⟩
      (ws.map found ++ [failed (.malformedQuote q (column + t.length))]) := by
  obtain @⟨gap, t, ts, hgap, hs⟩ := h
  obtain ⟨ws, hover, hanswers⟩ := hs.answers_unclosed hq
  refine ⟨ws, hover.congr (hgap.endsInWord_append t), fun column => ?_⟩
  have hline : Cursor.Answers ⟨gap ++ (t ++ q :: r), column⟩
      (ws.map found ++ [failed (.malformedQuote q (column + gap.length + t.length))]) :=
    (hanswers _).blank_append hgap
  simpa [Nat.add_assoc] using hline

end Word

/-- Whatever the line and however often the next word is asked for, the answers are the words before its end
or before a quote that it leaves open, then once the error for such a quote, and from there on the end of
the line. What stands before the quote has these words, and one more if the quote goes on with a word. -/
theorem calls_outcome (line : Text) :
    (∃ ws, words line = .ok ws ∧ (Cursor.start line).Answers (ws.map Cursor.found)) ∨
    ∃ before q after ws, line = before ++ q :: after ∧
      words line = .error (.malformedQuote q (before.length + 1)) ∧
      (Cursor.start line).Answers
        (ws.map Cursor.found ++ [Cursor.failed (.malformedQuote q (before.length + 1))]) ∧
      (Word.EndsInWord before → ∃ w, words before = .ok (ws ++ [w])) ∧
      (¬ Word.EndsInWord before → words before = .ok ws) := by
  rcases Word.line_or_unclosed line with ⟨ts, hts⟩ | ⟨before, q, after, ts, rfl, hts, hq⟩
  · exact .inl ⟨ts, words_of_line hts, hts.answers 1⟩
  · obtain ⟨ws, hover, hanswers⟩ := hts.answers_unclosed hq
    have hwords : words before = .ok ts := words_of_line hts
    refine .inr ⟨before, q, after, ws, rfl, words_of_unclosed hts hq, ?_, fun h => ?_, fun h => ?_⟩
    · rw [Nat.add_comm]
      exact hanswers 1
    · obtain ⟨w, rfl⟩ := hover.butLast h
      exact ⟨w, hwords⟩
    · rw [hwords, hover.all h]

/-- The word before the open quote is lost, the one before the space is not. -/
example : (Cursor.start "a b'c".toList).calls 4 =
    [.ok (some ['a']), .error (.malformedQuote '\'' 4), .ok none, .ok none] := by decide +kernel

end CollectionScript
