import CollectionScript.Proofs.Word.Reading

/-! Reading a line turn by turn. Four loops are at work: over the words of the line, over the white space
before a word, over the characters of a word, and over those of a quoted span in it. Nothing in the definition
of a turn makes a loop come to an end. They end because a turn takes a character off the line or is one of
the few that there can be before the next character is taken. -/
namespace CollectionScript
namespace Reading

/-- The points that a turn may start at: the heads of the four loops, and `escape` behind a backslash, within a
turn of the last loop. -/
inductive Point where
  | words
  | blanks
  | word
  | span
  | escape
  | ended
  deriving DecidableEq, Repr

/-- How many turns there can be from a point on, before one that takes a character or the end. -/
def Point.rank : Point → Text → Nat
  | .words, _ => 2
  | .blanks, _ => 1
  | .word, rest => if rest.head?.all Text.isBlank then 3 else 0
  | .span, _ => 1
  | .escape, _ => 2
  | .ended, _ => 0

theorem Point.rank_le_three (point : Point) (rest : Text) : point.rank rest ≤ 3 := by
  cases point with
  | word =>
    simp only [rank]
    split <;> decide
  | words => exact Nat.le_succ 2
  | blanks => exact Nat.le_add_left 1 2
  | span => exact Nat.le_add_left 1 2
  | escape => exact Nat.le_succ 2
  | ended => exact Nat.zero_le 3

inductive Place where
  | words
  | blanks
  /-- A word of which so much has been read. -/
  | word (mode : Word.Mode) (read : Text)
  | ended (outcome : Except Error (List Text))

def Place.point : Place → Point
  | .words => .words
  | .blanks => .blanks
  | .word .bare _ => .word
  | .word (.single _) _ => .span
  | .word (.double _) _ => .span
  | .word (.escaped _) _ => .escape
  | .ended _ => .ended

structure Stage where
  cursor : Cursor
  found : List Text
  place : Place

namespace Stage

def start (line : Text) : Stage := ⟨.start line, [], .words⟩

/-- One turn, or a part of one behind a backslash. There is none when the reading is over. -/
def turn : Stage → Option Stage
  | ⟨cursor, found, .words⟩ => some ⟨cursor, found, .blanks⟩
  | ⟨⟨[], column⟩, found, .blanks⟩ => some ⟨⟨[], column⟩, found, .ended (.ok found)⟩
  | ⟨⟨c :: r, column⟩, found, .blanks⟩ =>
    if Text.isBlank c then some ⟨⟨r, column + 1⟩, found, .blanks⟩
    else some ⟨⟨c :: r, column⟩, found, .word .bare []⟩
  | ⟨⟨[], column⟩, found, .word .bare read⟩ => some ⟨⟨[], column⟩, found ++ [read], .words⟩
  | ⟨⟨c :: r, column⟩, found, .word .bare read⟩ =>
    if Text.isBlank c then some ⟨⟨c :: r, column⟩, found ++ [read], .words⟩
    else if c = '\'' then some ⟨⟨r, column + 1⟩, found, .word (.single column) read⟩
    else if c = '"' then some ⟨⟨r, column + 1⟩, found, .word (.double column) read⟩
    else some ⟨⟨r, column + 1⟩, found, .word .bare (read ++ [c])⟩
  | ⟨⟨[], column⟩, found, .word (.single opening) _⟩ =>
    some ⟨⟨[], column⟩, found, .ended (.error (.malformedQuote '\'' opening))⟩
  | ⟨⟨c :: r, column⟩, found, .word (.single opening) read⟩ =>
    if c = '\'' then some ⟨⟨r, column + 1⟩, found, .word .bare read⟩
    else some ⟨⟨r, column + 1⟩, found, .word (.single opening) (read ++ [c])⟩
  | ⟨⟨[], column⟩, found, .word (.double opening) _⟩ =>
    some ⟨⟨[], column⟩, found, .ended (.error (.malformedQuote '"' opening))⟩
  | ⟨⟨c :: r, column⟩, found, .word (.double opening) read⟩ =>
    if c = '"' then some ⟨⟨r, column + 1⟩, found, .word .bare read⟩
    else if c = '\\' then some ⟨⟨r, column + 1⟩, found, .word (.escaped opening) read⟩
    else some ⟨⟨r, column + 1⟩, found, .word (.double opening) (read ++ [c])⟩
  | ⟨⟨[], column⟩, found, .word (.escaped opening) read⟩ =>
    some ⟨⟨[], column⟩, found, .word (.double opening) (read ++ ['\\'])⟩
  | ⟨⟨c :: r, column⟩, found, .word (.escaped opening) read⟩ =>
    if c = '"' ∨ c = '\\' then some ⟨⟨r, column + 1⟩, found, .word (.double opening) (read ++ [c])⟩
    else some ⟨⟨c :: r, column⟩, found, .word (.double opening) (read ++ ['\\'])⟩
  | ⟨_, _, .ended _⟩ => none

def rank (s : Stage) : Nat := s.place.point.rank s.cursor.rest

def size (s : Stage) : Nat := 4 * s.cursor.rest.length + s.rank

inductive Advances (s t : Stage) : Prop
  | takes {c : Char} (hrest : s.cursor.rest = c :: t.cursor.rest)
    (hcolumn : t.cursor.column = s.cursor.column + 1)
  | nears (hcursor : t.cursor = s.cursor) (hrank : t.rank < s.rank)

inductive Exec : Stage → Nat → Stage → Prop
  | refl (s : Stage) : Exec s 0 s
  | succ {s t u : Stage} {n : Nat} (h : s.turn = some t) (hs : Exec t n u) : Exec s (n + 1) u

variable {s t u : Stage} {n m : Nat}

theorem Exec.trans (h : Exec s n t) (h' : Exec t m u) : Exec s (n + m) u := by
  induction h with
  | refl s => simpa using h'
  | succ hturn _ ih => simpa [Nat.add_right_comm] using Exec.succ hturn (ih h')

theorem Exec.single (h : s.turn = some t) : Exec s 1 t := .succ h (.refl t)

theorem advances_of_turn (h : s.turn = some t) : Advances s t := by
  obtain ⟨⟨rest, column⟩, found, place⟩ := s
  match place, rest with
  | .words, _ =>
    obtain rfl := Option.some.inj h
    exact .nears rfl Nat.one_lt_two
  | .blanks, [] =>
    obtain rfl := Option.some.inj h
    exact .nears rfl Nat.one_pos
  | .blanks, c :: r =>
    simp only [turn] at h
    split at h <;> obtain rfl := Option.some.inj h
    · exact .takes rfl rfl
    · next hc => exact .nears rfl (by simp [rank, Place.point, Point.rank, hc])
  | .word .bare read, [] =>
    obtain rfl := Option.some.inj h
    exact .nears rfl (Nat.lt_succ_self 2)
  | .word .bare read, c :: r =>
    simp only [turn] at h
    split at h
    · next hc =>
      obtain rfl := Option.some.inj h
      exact .nears rfl (by simp [rank, Place.point, Point.rank, hc])
    · repeat' split at h
      all_goals
        obtain rfl := Option.some.inj h
        exact .takes rfl rfl
  | .word (.single opening) read, [] =>
    obtain rfl := Option.some.inj h
    exact .nears rfl Nat.one_pos
  | .word (.single opening) read, c :: r =>
    simp only [turn] at h
    split at h <;> obtain rfl := Option.some.inj h <;> exact .takes rfl rfl
  | .word (.double opening) read, [] =>
    obtain rfl := Option.some.inj h
    exact .nears rfl Nat.one_pos
  | .word (.double opening) read, c :: r =>
    simp only [turn] at h
    repeat' split at h
    all_goals
      obtain rfl := Option.some.inj h
      exact .takes rfl rfl
  | .word (.escaped opening) read, [] =>
    obtain rfl := Option.some.inj h
    exact .nears rfl Nat.one_lt_two
  | .word (.escaped opening) read, c :: r =>
    simp only [turn] at h
    split at h <;> obtain rfl := Option.some.inj h
    · exact .takes rfl rfl
    · exact .nears rfl Nat.one_lt_two
  | .ended outcome, _ => cases h

theorem Advances.size_lt (h : Advances s t) : t.size < s.size := by
  cases h with
  | takes hrest _ =>
    have hrank := t.place.point.rank_le_three t.cursor.rest
    rw [size, size, hrest, List.length_cons, rank]
    omega
  | nears hcursor hrank =>
    rw [size, size, hcursor]
    omega

theorem Exec.size_add_le (h : Exec s n t) : t.size + n ≤ s.size := by
  induction h with
  | refl s => exact Nat.le_refl _
  | succ hturn _ ih =>
    have hlt := (advances_of_turn hturn).size_lt
    omega

theorem Exec.exists_taken (h : Exec s n t) :
    ∃ taken, s.cursor.rest = taken ++ t.cursor.rest ∧
      t.cursor.column = s.cursor.column + taken.length := by
  induction h with
  | refl s => exact ⟨[], rfl, rfl⟩
  | succ hturn _ ih =>
    obtain ⟨taken, hrest, hcolumn⟩ := ih
    cases advances_of_turn hturn with
    | @takes c hrest' hcolumn' =>
      refine ⟨c :: taken, by rw [hrest', hrest, List.cons_append], ?_⟩
      rw [hcolumn, hcolumn', List.length_cons]
      omega
    | nears hcursor _ =>
      rw [← hcursor]
      exact ⟨taken, hrest, hcolumn⟩

/-- No loop comes back to its head without having taken a character. With the same text left the rank would
be the same, and it would have had to fall. -/
theorem Exec.length_lt (h : Exec s (n + 1) t) (hpoint : t.place.point = s.place.point) :
    t.cursor.rest.length < s.cursor.rest.length := by
  obtain ⟨taken, hrest, -⟩ := h.exists_taken
  have hsize := h.size_add_le
  cases taken with
  | nil =>
    have hrank : t.rank = s.rank := by rw [rank, rank, hpoint, hrest, List.nil_append]
    have hlength : s.cursor.rest.length = t.cursor.rest.length := by rw [hrest, List.nil_append]
    rw [size, size] at hsize
    omega
  | cons c taken =>
    rw [hrest, List.length_append, List.length_cons]
    omega

/-! The turns that the scan of a word takes, and the reading of a line. -/

/-- A character that does not end the word: the mode that it leads to and what it adds to the word, in the
scan and in the turns. -/
theorem character_exec {mode : Word.Mode} {c : Char} (h : mode = .bare → Text.isBlank c = false)
    (r : Text) (column : Nat) (found : List Text) (read : Text) :
    ∃ mode' out n, Word.scan mode column (c :: r) = Word.append out (Word.scan mode' (column + 1) r) ∧
      Exec ⟨⟨c :: r, column⟩, found, .word mode read⟩ n
        ⟨⟨r, column + 1⟩, found, .word mode' (read ++ out)⟩ := by
  cases mode with
  | bare =>
    have hblank := h rfl
    by_cases hsingle : c = '\''
    · subst hsingle
      exact ⟨.single column, [], 1, by simp [Word.scan, hblank], .single (by simp [turn, hblank])⟩
    by_cases hdouble : c = '"'
    · subst hdouble
      exact ⟨.double column, [], 1, by simp [Word.scan, hblank], .single (by simp [turn, hblank])⟩
    · refine ⟨.bare, [c], 1, ?_, .single ?_⟩
      · simp [Word.scan, hblank, hsingle, hdouble, Word.push_eq_append]
      · simp [turn, hblank, hsingle, hdouble]
  | single opening =>
    by_cases hquote : c = '\''
    · exact ⟨.bare, [], 1, by simp [Word.scan, hquote], .single (by simp [turn, hquote])⟩
    · refine ⟨.single opening, [c], 1, ?_, .single ?_⟩
      · simp [Word.scan, hquote, Word.push_eq_append]
      · simp [turn, hquote]
  | double opening =>
    by_cases hquote : c = '"'
    · exact ⟨.bare, [], 1, by simp [Word.scan, hquote], .single (by simp [turn, hquote])⟩
    by_cases hslash : c = '\\'
    · exact ⟨.escaped opening, [], 1, by simp [Word.scan, hslash], .single (by simp [turn, hslash])⟩
    · refine ⟨.double opening, [c], 1, ?_, .single ?_⟩
      · simp [Word.scan, hquote, hslash, Word.push_eq_append]
      · simp [turn, hquote, hslash]
  | escaped opening =>
    by_cases hescape : c = '"' ∨ c = '\\'
    · refine ⟨.double opening, [c], 1, ?_, .single ?_⟩
      · simp [Word.scan, hescape, Word.push_eq_append]
      · simp [turn, hescape]
    · -- The backslash stands for itself, and its character is left to a turn of its own.
      obtain ⟨hquote, hslash⟩ := not_or.1 hescape
      refine ⟨.double opening, ['\\', c], 2, ?_, .succ (if_neg hescape) (.single ?_)⟩
      · simp [Word.scan, hescape, Word.push_eq_append]
      · simp [turn, hquote, hslash]

def scanned (found : List Text) (read : Text) (finish : Cursor) : Except Error (Text × Cursor) → Stage
  | .ok (w, next) => ⟨next, found ++ [read ++ w], .words⟩
  | .error e => ⟨finish, found, .ended (.error e)⟩

theorem scanned_append (found : List Text) (read : Text) (finish : Cursor) (out : Text)
    (x : Except Error (Text × Cursor)) :
    scanned found read finish (Word.append out x) = scanned found (read ++ out) finish x := by
  cases x with
  | error e => rfl
  | ok p => simp [scanned, Word.append, Except.map]

theorem finish_cons (c : Char) (r : Text) (column : Nat) :
    Cursor.finish ⟨c :: r, column⟩ = Cursor.finish ⟨r, column + 1⟩ := by
  simp [Cursor.finish, Nat.add_comm, Nat.add_left_comm]

theorem scan_exec (mode : Word.Mode) (t : Text) (column : Nat) (found : List Text) (read : Text) :
    ∃ n, Exec ⟨⟨t, column⟩, found, .word mode read⟩ n
      (scanned found read (Cursor.finish ⟨t, column⟩) (Word.scan mode column t)) := by
  induction t generalizing mode column read with
  | nil =>
    cases mode with
    | bare => exact ⟨1, .single (by simp [turn, Word.scan, scanned])⟩
    | single opening => exact ⟨1, .single rfl⟩
    | double opening => exact ⟨1, .single rfl⟩
    | escaped opening => exact ⟨2, .succ rfl (.single rfl)⟩
  | cons c r ih =>
    by_cases hend : mode = .bare ∧ Text.isBlank c = true
    · obtain ⟨rfl, hblank⟩ := hend
      exact ⟨1, .single (by simp [turn, Word.scan, scanned, hblank])⟩
    · have hmode : mode = .bare → Text.isBlank c = false := fun hbare => by simpa [hbare] using hend
      obtain ⟨mode', out, n, hscan, hfirst⟩ := character_exec hmode r column found read
      obtain ⟨m, hrest⟩ := ih mode' (column + 1) (read ++ out)
      rw [hscan, scanned_append, finish_cons]
      exact ⟨n + m, hfirst.trans hrest⟩

theorem skipBlanks_exec (t : Text) (column : Nat) (found : List Text) :
    ∃ n, Exec ⟨⟨t, column⟩, found, .blanks⟩ n ⟨Cursor.skipBlanks ⟨t, column⟩, found, .blanks⟩ := by
  induction t generalizing column with
  | nil => exact ⟨0, .refl _⟩
  | cons c r ih =>
    by_cases hblank : Text.isBlank c = true
    · obtain ⟨n, hn⟩ := ih (column + 1)
      have hgap : Word.Blank [c] := by simpa using hblank
      have hskip : Cursor.skipBlanks ⟨c :: r, column⟩ = Cursor.skipBlanks ⟨r, column + 1⟩ :=
        Cursor.skipBlanks_append hgap r column
      rw [hskip]
      exact ⟨n + 1, .succ (if_pos hblank) hn⟩
    · rw [Cursor.skipBlanks_of_head (by simpa using hblank)]
      exact ⟨0, .refl _⟩

def answered (found : List Text) : Except Error (Option Text) × Cursor → Stage
  | (.ok none, next) => ⟨next, found, .ended (.ok found)⟩
  | (.ok (some word), next) => ⟨next, found ++ [word], .words⟩
  | (.error e, next) => ⟨next, found, .ended (.error e)⟩

theorem next_exec (cursor : Cursor) (found : List Text) :
    ∃ n, Exec ⟨cursor, found, .words⟩ n (answered found cursor.next) := by
  obtain ⟨n, hskip⟩ := skipBlanks_exec cursor.rest cursor.column found
  have hblanks : Exec ⟨cursor, found, .words⟩ (n + 1) ⟨cursor.skipBlanks, found, .blanks⟩ := .succ rfl hskip
  cases hrest : cursor.skipBlanks with
  | mk rest column =>
    rw [hrest] at hblanks
    cases rest with
    | nil =>
      have hnext : cursor.next = (.ok none, ⟨[], column⟩) := by simp [Cursor.next, hrest]
      rw [hnext]
      exact ⟨_, hblanks.trans (.single rfl)⟩
    | cons c r =>
      have hblank : Text.isBlank c = false := by
        have hhead := List.head?_dropWhile_not Text.isBlank cursor.rest
        rw [show cursor.rest.dropWhile Text.isBlank = c :: r from congrArg Cursor.rest hrest] at hhead
        simpa using hhead
      have hturn : turn ⟨⟨c :: r, column⟩, found, .blanks⟩ = some ⟨⟨c :: r, column⟩, found, .word .bare []⟩ :=
        if_neg (by simp [hblank])
      have hnext : answered found cursor.next =
          scanned found [] (Cursor.finish ⟨c :: r, column⟩) (Word.scan .bare column (c :: r)) := by
        simp only [Cursor.next, hrest]
        cases Word.scan .bare column (c :: r) <;> rfl
      obtain ⟨m, hword⟩ := scan_exec .bare (c :: r) column found []
      rw [hnext]
      exact ⟨_, hblanks.trans (.succ hturn hword)⟩

theorem words_exec (cursor : Cursor) (found : List Text) :
    ∃ n finish found', Exec ⟨cursor, found, .words⟩ n
      ⟨finish, found', .ended (cursor.words.map (found ++ ·))⟩ := by
  induction hlength : cursor.rest.length using Nat.strongRecOn generalizing cursor found with
  | ind length ih =>
    obtain ⟨n, hanswer⟩ := next_exec cursor found
    match hnext : cursor.next with
    | (.ok none, finish) =>
      rw [hnext] at hanswer
      refine ⟨n, finish, found, ?_⟩
      rw [Cursor.words_of_next_none hnext]
      simpa [Except.map, answered] using hanswer
    | (.ok (some word), next) =>
      rw [hnext] at hanswer
      have hlt : next.rest.length < length := hlength ▸ Cursor.next_length_lt hnext
      obtain ⟨m, finish, found', hrest⟩ := ih _ hlt next (found ++ [word]) rfl
      refine ⟨n + m, finish, found', ?_⟩
      have hwords : cursor.words.map (found ++ ·) = next.words.map (found ++ [word] ++ ·) := by
        rw [Cursor.words_of_next_some hnext]
        cases next.words <;> simp [Except.map]
      rw [hwords]
      exact hanswer.trans hrest
    | (.error e, finish) =>
      rw [hnext] at hanswer
      refine ⟨n, finish, found, ?_⟩
      rw [Cursor.words_of_next_error hnext]
      exact hanswer

/-- The stages that a reading may come to, also where words are asked for after the end of the line or after
a quote that is left open. -/
inductive Reached (line : Text) : Stage → Prop
  | start : Reached line (.start line)
  | turn {s t : Stage} (h : Reached line s) (hturn : s.turn = some t) : Reached line t
  | again {cursor : Cursor} {found : List Text} {outcome : Except Error (List Text)}
    (h : Reached line ⟨cursor, found, .ended outcome⟩) : Reached line ⟨cursor, found, .words⟩

variable {line : Text}

theorem Reached.exec (h : Reached line s) (hexec : Exec s n t) : Reached line t := by
  induction hexec with
  | refl s => exact h
  | succ hturn _ ih => exact ih (.turn h hturn)

theorem Reached.exists_taken (h : Reached line s) :
    ∃ taken, line = taken ++ s.cursor.rest ∧ s.cursor.column = 1 + taken.length := by
  induction h with
  | start => exact ⟨[], rfl, rfl⟩
  | @turn s t _ hturn ih =>
    obtain ⟨taken, hline, hcolumn⟩ := ih
    obtain ⟨more, hrest, hcolumn'⟩ := (Exec.single hturn).exists_taken
    refine ⟨taken ++ more, by rw [hline, hrest, List.append_assoc], ?_⟩
    rw [hcolumn', hcolumn, List.length_append, Nat.add_assoc]
  | again _ ih => exact ih

theorem Reached.next {cursor : Cursor} {found : List Text} (h : Reached line ⟨cursor, found, .words⟩) :
    ∃ found', Reached line ⟨cursor.next.2, found', .words⟩ := by
  obtain ⟨n, hanswer⟩ := next_exec cursor found
  have hreached := h.exec hanswer
  match hnext : cursor.next with
  | (.ok none, next) =>
    rw [hnext] at hreached
    exact ⟨found, hreached.again⟩
  | (.ok (some word), next) =>
    rw [hnext] at hreached
    exact ⟨found ++ [word], hreached⟩
  | (.error e, next) =>
    rw [hnext] at hreached
    exact ⟨found, hreached.again⟩

end Stage
end Reading

namespace Cursor

def after : Nat → Cursor → Cursor
  | 0, cursor => cursor
  | n + 1, cursor => after n cursor.next.2

end Cursor

namespace Reading

theorem Stage.Reached.after {line : Text} {cursor : Cursor} {found : List Text}
    (h : Reached line ⟨cursor, found, .words⟩) (n : Nat) :
    ∃ found', Reached line ⟨cursor.after n, found', .words⟩ := by
  induction n generalizing cursor found with
  | zero => exact ⟨found, h⟩
  | succ n ih =>
    obtain ⟨found', hnext⟩ := h.next
    exact ih hnext

end Reading
end CollectionScript
