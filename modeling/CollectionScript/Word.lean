import CollectionScript.Error
import CollectionScript.Text.Blank

/-! The words of a line. White space separates words; quotes may open anywhere in a word and keep white
space in it. Between single quotes every character stands for itself; between double quotes a
backslash before a double quote or a backslash is dropped. The quotes are no part of the word. -/
namespace CollectionScript

/-- What is left to read of a line, and the column of its first character, counted from one. -/
structure Cursor where
  rest : Text
  column : Nat
  deriving DecidableEq, Repr

namespace Word

/-- Where a scan stands within a word; a quoted span knows the column of its opening quote. -/
inductive Mode where
  | bare
  | single (opening : Nat)
  | double (opening : Nat)
  /-- After a backslash between double quotes. -/
  | escaped (opening : Nat)
  deriving DecidableEq, Repr

def push (c : Char) (scanned : Except Error (Text × Cursor)) : Except Error (Text × Cursor) :=
  scanned.map fun p => (c :: p.1, p.2)

/-- Reads on to the end of the word, from the given column. -/
def scan : Mode → Nat → Text → Except Error (Text × Cursor)
  | .bare, column, [] => .ok ([], ⟨[], column⟩)
  | .single opening, _, [] => .error (.malformedQuote '\'' opening)
  | .double opening, _, [] => .error (.malformedQuote '"' opening)
  | .escaped opening, _, [] => .error (.malformedQuote '"' opening)
  | .bare, column, c :: r =>
    if Text.isBlank c then .ok ([], ⟨c :: r, column⟩)
    else if c = '\'' then scan (.single column) (column + 1) r
    else if c = '"' then scan (.double column) (column + 1) r
    else push c (scan .bare (column + 1) r)
  | .single opening, column, c :: r =>
    if c = '\'' then scan .bare (column + 1) r
    else push c (scan (.single opening) (column + 1) r)
  | .double opening, column, c :: r =>
    if c = '"' then scan .bare (column + 1) r
    else if c = '\\' then scan (.escaped opening) (column + 1) r
    else push c (scan (.double opening) (column + 1) r)
  | .escaped opening, column, c :: r =>
    if c = '"' ∨ c = '\\' then push c (scan (.double opening) (column + 1) r)
    else push '\\' (push c (scan (.double opening) (column + 1) r))

theorem push_eq_ok_iff {c : Char} {x : Except Error (Text × Cursor)} {p : Text × Cursor} :
    push c x = .ok p ↔ ∃ w, x = .ok (w, p.2) ∧ p.1 = c :: w := by
  obtain ⟨p₁, p₂⟩ := p
  cases x with
  | error e => simp [push, Except.map]
  | ok q =>
    obtain ⟨q₁, q₂⟩ := q
    simp only [push, Except.map, Except.ok.injEq, Prod.mk.injEq]
    constructor
    · rintro ⟨rfl, rfl⟩
      exact ⟨q₁, ⟨rfl, rfl⟩, rfl⟩
    · rintro ⟨w, ⟨rfl, rfl⟩, rfl⟩
      exact ⟨rfl, rfl⟩

/-- A scan never gives characters back. -/
theorem scan_length_le {m : Mode} {column : Nat} {t w : Text} {next : Cursor}
    (h : scan m column t = .ok (w, next)) : next.rest.length ≤ t.length := by
  induction t generalizing m column w with
  | nil => cases m <;> simp_all [scan]; simp [← h.2]
  | cons c r ih =>
    have step {m : Mode} {column : Nat} {w : Text} (h : scan m column r = .ok (w, next)) :
        next.rest.length ≤ (c :: r).length := Nat.le_succ_of_le (ih h)
    cases m <;> simp only [scan] at h <;> repeat' split at h
    all_goals first
      | exact step h
      | (obtain ⟨_, h, _⟩ := push_eq_ok_iff.1 h; exact step h)
      | (obtain ⟨_, h, _⟩ := push_eq_ok_iff.1 h
         obtain ⟨_, h, _⟩ := push_eq_ok_iff.1 h
         exact step h)
      | (cases h; simp)

theorem scan_length_lt {column : Nat} {c : Char} {r w : Text} {next : Cursor}
    (hc : Text.isBlank c = false) (h : scan .bare column (c :: r) = .ok (w, next)) :
    next.rest.length < (c :: r).length := by
  simp only [scan, hc, Bool.false_eq_true, if_false] at h
  refine Nat.lt_succ_of_le ?_
  repeat' split at h
  · exact scan_length_le h
  · exact scan_length_le h
  · obtain ⟨_, h, _⟩ := push_eq_ok_iff.1 h
    exact scan_length_le h

end Word

namespace Cursor

def start (line : Text) : Cursor := ⟨line, 1⟩

def skipBlanks (cursor : Cursor) : Cursor :=
  ⟨cursor.rest.dropWhile Text.isBlank,
    cursor.column + (cursor.rest.takeWhile Text.isBlank).length⟩

/-- The end of the line. -/
def finish (cursor : Cursor) : Cursor := ⟨[], cursor.column + cursor.rest.length⟩

/-- The next word, or none at the end of the line, and the cursor after it. An unclosed quote uses up
the rest of the line. -/
def next (cursor : Cursor) : Except Error (Option Text) × Cursor :=
  match cursor.skipBlanks.rest with
  | [] => (.ok none, cursor.skipBlanks)
  | c :: r =>
    match Word.scan .bare cursor.skipBlanks.column (c :: r) with
    | .ok (word, rest) => (.ok (some word), rest)
    | .error e => (.error e, cursor.skipBlanks.finish)

theorem next_length_lt {cursor rest : Cursor} {word : Text}
    (h : cursor.next = (.ok (some word), rest)) : rest.rest.length < cursor.rest.length := by
  have hle : cursor.skipBlanks.rest.length ≤ cursor.rest.length :=
    (List.dropWhile_suffix _).length_le
  unfold next at h
  split at h
  · simp at h
  · next c r hr =>
    have hc : Text.isBlank c = false := by
      have hd := List.head?_dropWhile_not Text.isBlank cursor.rest
      rw [show cursor.rest.dropWhile Text.isBlank = c :: r from hr] at hd
      simpa using hd
    split at h
    · next w n hs =>
      cases h
      exact Nat.lt_of_lt_of_le (Word.scan_length_lt hc hs) (hr ▸ hle)
    · simp at h

/-- All words from the cursor on. -/
def words (cursor : Cursor) : Except Error (List Text) :=
  match _h : cursor.next with
  | (.ok none, _) => .ok []
  | (.ok (some word), rest) => rest.words.map (word :: ·)
  | (.error e, _) => .error e
termination_by cursor.rest.length
decreasing_by exact next_length_lt _h

end Cursor

def words (line : Text) : Except Error (List Text) := (Cursor.start line).words

/-- The first word and the words after it; none for a blank line. -/
def splitLine (line : Text) : Except Error (Option (Text × List Text)) :=
  (words line).map fun
    | [] => none
    | keyword :: arguments => some (keyword, arguments)

end CollectionScript
