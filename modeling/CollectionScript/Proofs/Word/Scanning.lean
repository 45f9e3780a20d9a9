import CollectionScript.Proofs.Word.Grammar

/-! How the scan of a word passes over what the grammar allows in it. Each construct has an equation that
says what the scan adds to the word, and at which column it goes on. -/
namespace CollectionScript
namespace Word

/-- Puts a text before the word that a scan has read. -/
def append (v : Text) (scanned : Except Error (Text × Cursor)) : Except Error (Text × Cursor) :=
  scanned.map fun p => (v ++ p.1, p.2)

@[simp] theorem append_nil (x : Except Error (Text × Cursor)) : append [] x = x := by
  cases x <;> rfl

@[simp] theorem append_ok (v w : Text) (next : Cursor) :
    append v (.ok (w, next)) = .ok (v ++ w, next) := rfl

@[simp] theorem append_error (v : Text) (e : Error) : append v (.error e) = .error e := rfl

@[simp] theorem append_append (v w : Text) (x : Except Error (Text × Cursor)) :
    append v (append w x) = append (v ++ w) x := by
  cases x with
  | error e => rfl
  | ok p => simp [append, Except.map]

theorem push_eq_append (c : Char) (x : Except Error (Text × Cursor)) :
    push c x = append [c] x := by
  cases x <;> rfl

@[simp] theorem push_append (c : Char) (v : Text) (x : Except Error (Text × Cursor)) :
    push c (append v x) = append (c :: v) x := by
  rw [push_eq_append, append_append, List.singleton_append]

@[simp] theorem push_error (c : Char) (e : Error) : push c (.error e) = .error e := rfl

theorem scan_double_plain {c : Char} (hquote : c ≠ '"') (hslash : c ≠ '\\') (opening column : Nat)
    (r : Text) :
    scan (.double opening) column (c :: r) = push c (scan (.double opening) (column + 1) r) := by
  simp [scan, hquote, hslash]

theorem scan_double_escape {c : Char} (hc : c = '"' ∨ c = '\\') (opening column : Nat) (r : Text) :
    scan (.double opening) column ('\\' :: c :: r) =
      push c (scan (.double opening) (column + 2) r) := by
  simp [scan, hc]

theorem scan_double_backslash {c : Char} (hquote : c ≠ '"') (hslash : c ≠ '\\')
    (opening column : Nat) (r : Text) :
    scan (.double opening) column ('\\' :: c :: r) =
      push '\\' (scan (.double opening) (column + 1) (c :: r)) := by
  rw [scan_double_plain hquote hslash]
  simp [scan, hquote, hslash]

theorem scan_single {b : Text} (h : '\'' ∉ b) (opening column : Nat) (r : Text) :
    scan (.single opening) column (b ++ '\'' :: r) =
      append b (scan .bare (column + b.length + 1) r) := by
  induction b generalizing column with
  | nil => simp [scan]
  | cons c b ih =>
    obtain ⟨hc, hb⟩ := not_or.1 (mt List.mem_cons.2 h)
    have hstep : scan (.single opening) column (c :: (b ++ '\'' :: r)) =
        push c (scan (.single opening) (column + 1) (b ++ '\'' :: r)) := by
      simp [scan, Ne.symm hc]
    rw [List.cons_append, hstep, ih hb, push_append, List.length_cons]
    congr 2
    omega

theorem scan_body {b v : Text} (h : Body b v) (opening column : Nat) (r : Text) :
    scan (.double opening) column (b ++ '"' :: r) =
      append v (scan .bare (column + b.length + 1) r) := by
  induction h generalizing column with
  | nil => simp [scan]
  | @escape c b v hc _ ih =>
    rw [List.cons_append, List.cons_append, scan_double_escape hc, ih, push_append]
    simp only [List.length_cons]
    congr 2
    omega
  | @backslash c b v hquote hslash _ ih =>
    rw [List.cons_append, List.cons_append, scan_double_backslash hquote hslash,
      ← List.cons_append, ih, push_append]
    simp only [List.length_cons]
    congr 2
    omega
  | @plain c b v hquote hslash _ ih =>
    rw [List.cons_append, scan_double_plain hquote hslash, ih, push_append, List.length_cons]
    congr 2
    omega

theorem scan_segment {s v : Text} (h : Segment s v) (column : Nat) (r : Text) :
    scan .bare column (s ++ r) = append v (scan .bare (column + s.length) r) := by
  cases h with
  | @bare c hblank hsingle hdouble =>
    simp [scan, hblank, hsingle, hdouble, push_eq_append]
  | single hb =>
    have hopen : scan .bare column ('\'' :: (v ++ '\'' :: r)) =
        scan (.single column) (column + 1) (v ++ '\'' :: r) := by
      simp [scan, show Text.isBlank '\'' = false by decide]
    have htext : '\'' :: (v ++ ['\'']) ++ r = '\'' :: (v ++ '\'' :: r) := by simp
    rw [htext, hopen, scan_single hb]
    simp only [List.length_cons, List.length_append, List.length_nil]
    congr 2
    omega
  | @double b _ hb =>
    have hopen : scan .bare column ('"' :: (b ++ '"' :: r)) =
        scan (.double column) (column + 1) (b ++ '"' :: r) := by
      simp [scan, show Text.isBlank '"' = false by decide]
    have htext : '"' :: (b ++ ['"']) ++ r = '"' :: (b ++ '"' :: r) := by simp
    rw [htext, hopen, scan_body hb]
    simp only [List.length_cons, List.length_append, List.length_nil]
    congr 2
    omega

theorem scan_segments {w v : Text} (h : Segments w v) (column : Nat) (r : Text) :
    scan .bare column (w ++ r) = append v (scan .bare (column + w.length) r) := by
  induction h generalizing column with
  | nil => simp
  | @cons s v t w hs _ ih =>
    rw [List.append_assoc, scan_segment hs, ih, append_append, List.length_append, Nat.add_assoc]

theorem scan_ends {r : Text} (h : Ends r) (column : Nat) :
    scan .bare column r = .ok ([], ⟨r, column⟩) := by
  cases r with
  | nil => rfl
  | cons c r =>
    have hc : Text.isBlank c = true := by simpa using h
    simp [scan, hc]

theorem scan_single_unclosed {t : Text} (h : '\'' ∉ t) (opening column : Nat) :
    scan (.single opening) column t = .error (.malformedQuote '\'' opening) := by
  induction t generalizing column with
  | nil => rfl
  | cons c r ih =>
    obtain ⟨hc, hr⟩ := not_or.1 (mt List.mem_cons.2 h)
    simp [scan, Ne.symm hc, ih hr]

theorem scan_double_unclosed {t : Text} (h : ∀ b v r, Body b v → t ≠ b ++ '"' :: r)
    (opening column : Nat) :
    scan (.double opening) column t = .error (.malformedQuote '"' opening) := by
  induction hn : t.length using Nat.strongRecOn generalizing t column with
  | ind n ih =>
    match t, h, hn with
    | [], _, _ => rfl
    | c :: r, h, hn =>
      have hquote : c ≠ '"' := by
        rintro rfl
        exact h [] [] r .nil rfl
      by_cases hslash : c = '\\'
      · subst hslash
        match r, h, hn with
        | [], _, _ => simp [scan]
        | d :: r, h, hn =>
          by_cases hd : d = '"' ∨ d = '\\'
          · have hr : ∀ b v r', Body b v → r ≠ b ++ '"' :: r' := by
              rintro b v r' hb rfl
              exact h _ _ r' (.escape hd hb) rfl
            rw [scan_double_escape hd, ih r.length (by simp at hn; omega) hr _ rfl, push_error]
          · obtain ⟨hq, hs⟩ := not_or.1 hd
            have hr : ∀ b v r', Body b v → d :: r ≠ b ++ '"' :: r' := by
              intro b v r' hb hdr
              cases b with
              | nil => exact hq (List.cons.inj hdr).1
              | cons e b =>
                obtain ⟨rfl, rfl⟩ := List.cons.inj hdr
                exact h _ _ r' (.backslash hq hs hb) rfl
            rw [scan_double_backslash hq hs, ih (d :: r).length (by simp at hn ⊢; omega) hr _ rfl,
              push_error]
      · have hr : ∀ b v r', Body b v → r ≠ b ++ '"' :: r' := by
          rintro b v r' hb rfl
          exact h _ _ r' (.plain hquote hslash hb) rfl
        rw [scan_double_plain hquote hslash, ih r.length (by simp at hn; omega) hr _ rfl,
          push_error]

theorem scan_unclosed {q : Char} {t : Text} (h : Unclosed q t) (column : Nat) :
    scan .bare column (q :: t) = .error (.malformedQuote q column) := by
  cases h with
  | single h =>
    have hopen : scan .bare column ('\'' :: t) = scan (.single column) (column + 1) t := by
      simp [scan, show Text.isBlank '\'' = false by decide]
    rw [hopen, scan_single_unclosed h]
  | double h =>
    have hopen : scan .bare column ('"' :: t) = scan (.double column) (column + 1) t := by
      simp [scan, show Text.isBlank '"' = false by decide]
    rw [hopen, scan_double_unclosed h]

end Word
end CollectionScript
