import CollectionScript.Word

/-! The grammar of a line: what may be written, and the words that it spells. Nothing here mentions the
reading of a line. Every text is a line of the grammar or has a quote that is opened after such a line
and never closed. -/
namespace CollectionScript
namespace Word

/-- The body of a span between double quotes, and its value. A backslash stands for itself unless a
double quote or a backslash follows it. -/
inductive Body : Text → Text → Prop
  | nil : Body [] []
  | escape {c : Char} {b v : Text} (hc : c = '"' ∨ c = '\\') (h : Body b v) :
    Body ('\\' :: c :: b) (c :: v)
  | backslash {c : Char} {b v : Text} (hquote : c ≠ '"') (hslash : c ≠ '\\') (h : Body (c :: b) v) :
    Body ('\\' :: c :: b) ('\\' :: v)
  | plain {c : Char} {b v : Text} (hquote : c ≠ '"') (hslash : c ≠ '\\') (h : Body b v) :
    Body (c :: b) (c :: v)

inductive Segment : Text → Text → Prop
  | bare {c : Char} (hblank : Text.isBlank c = false) (hsingle : c ≠ '\'') (hdouble : c ≠ '"') :
    Segment [c] [c]
  | single {b : Text} (h : '\'' ∉ b) : Segment ('\'' :: (b ++ ['\''])) b
  | double {b v : Text} (h : Body b v) : Segment ('"' :: (b ++ ['"'])) v

inductive Segments : Text → Text → Prop
  | nil : Segments [] []
  | cons {s v t w : Text} (h : Segment s v) (hs : Segments t w) : Segments (s ++ t) (v ++ w)

inductive Spells : Text → Text → Prop
  | intro {s v t w : Text} (h : Segment s v) (hs : Segments t w) : Spells (s ++ t) (v ++ w)

def Blank (t : Text) : Prop := ∀ c ∈ t, Text.isBlank c = true

instance (t : Text) : Decidable (Blank t) := List.decidableBAll _ t

/-- Words with white space between them, and maybe after the last one. -/
inductive Spaced : Text → List Text → Prop
  | nil : Spaced [] []
  | last {w v : Text} (h : Spells w v) : Spaced w [v]
  | cons {w v gap t : Text} {ts : List Text} (h : Spells w v) (hne : gap ≠ []) (hgap : Blank gap)
    (hs : Spaced t ts) : Spaced (w ++ (gap ++ t)) (v :: ts)

inductive Line : Text → List Text → Prop
  | intro {gap t : Text} {ts : List Text} (hgap : Blank gap) (hs : Spaced t ts) : Line (gap ++ t) ts

/-- After a quote that opens a span, the text that does not close it. -/
inductive Unclosed : Char → Text → Prop
  | single {t : Text} (h : '\'' ∉ t) : Unclosed '\'' t
  | double {t : Text} (h : ∀ b v r, Body b v → t ≠ b ++ '"' :: r) : Unclosed '"' t

def Ends (t : Text) : Prop := ∀ c ∈ t.head?, Text.isBlank c = true

@[simp] theorem blank_nil : Blank [] := by simp [Blank]

@[simp] theorem blank_cons {c : Char} {t : Text} :
    Blank (c :: t) ↔ Text.isBlank c = true ∧ Blank t := by simp [Blank]

@[simp] theorem ends_nil : Ends [] := by simp [Ends]

@[simp] theorem ends_cons {c : Char} {t : Text} : Ends (c :: t) ↔ Text.isBlank c = true := by
  simp [Ends]

theorem Blank.ends_append {gap t : Text} (hgap : Blank gap) (hne : gap ≠ []) : Ends (gap ++ t) := by
  cases gap with
  | nil => exact absurd rfl hne
  | cons c r => simpa using (blank_cons.1 hgap).1

theorem isBlank_of_unclosed {q : Char} {t : Text} (h : Unclosed q t) : Text.isBlank q = false := by
  cases h <;> decide

/-! A segment starts with a character that is not white space, and so does a word. -/

theorem Segment.head {s v : Text} (h : Segment s v) :
    ∃ c r, s = c :: r ∧ Text.isBlank c = false := by
  cases h with
  | bare hblank _ _ => exact ⟨_, _, rfl, hblank⟩
  | single _ => exact ⟨_, _, rfl, by decide⟩
  | double _ => exact ⟨_, _, rfl, by decide⟩

theorem Spells.head {w v : Text} (h : Spells w v) :
    ∃ c r, w = c :: r ∧ Text.isBlank c = false := by
  obtain ⟨h, _⟩ := h
  obtain ⟨c, r, rfl, hc⟩ := h.head
  exact ⟨c, _, rfl, hc⟩

theorem Spells.segments {w v : Text} (h : Spells w v) : Segments w v := by
  obtain ⟨h, hs⟩ := h
  exact .cons h hs

theorem Segments.spells {w v : Text} (h : Segments w v) (hne : w ≠ []) : Spells w v := by
  cases h with
  | nil => exact absurd rfl hne
  | cons h hs => exact .intro h hs

theorem Segments.append {s v t w : Text} (h : Segments s v) (h' : Segments t w) :
    Segments (s ++ t) (v ++ w) := by
  induction h with
  | nil => exact h'
  | cons h _ ih =>
    rw [List.append_assoc, List.append_assoc]
    exact .cons h ih

theorem Spaced.head {t : Text} {ts : List Text} (h : Spaced t ts) :
    t = [] ∧ ts = [] ∨ ∃ c r, t = c :: r ∧ Text.isBlank c = false := by
  cases h with
  | nil => exact .inl ⟨rfl, rfl⟩
  | last h => exact .inr h.head
  | cons h _ _ _ =>
    obtain ⟨c, r, rfl, hc⟩ := h.head
    exact .inr ⟨c, _, rfl, hc⟩

theorem Line.of_spaced {t : Text} {ts : List Text} (h : Spaced t ts) : Line t ts := by
  have hline : Line ([] ++ t) ts := .intro blank_nil h
  exact hline

theorem Line.nil : Line [] [] := .of_spaced .nil

theorem Line.of_spells {w v : Text} (h : Spells w v) : Line w [v] := .of_spaced (.last h)

theorem Line.blank_append {gap t : Text} {ts : List Text} (hgap : Blank gap) (h : Line t ts) :
    Line (gap ++ t) ts := by
  obtain ⟨hgap', hs⟩ := h
  rw [← List.append_assoc]
  refine .intro ?_ hs
  intro c hc
  rcases List.mem_append.1 hc with hc | hc
  · exact hgap c hc
  · exact hgap' c hc

theorem Line.word_append {w v t : Text} {ts : List Text} (h : Spells w v) (ht : Line t ts)
    (hends : Ends t) : Line (w ++ t) (v :: ts) := by
  obtain @⟨gap, t, ts, hgap, hs⟩ := ht
  by_cases hne : gap = []
  · subst hne
    rcases hs.head with ⟨rfl, rfl⟩ | ⟨c, r, rfl, hc⟩
    · simpa using Line.of_spells h
    · simp [hc] at hends
  · exact .of_spaced (.cons h hne hgap hs)

inductive Stops : Text → Prop
  | done : Stops []
  | blank {c : Char} {r : Text} (h : Text.isBlank c = true) : Stops (c :: r)
  | unclosed {q : Char} {r : Text} (h : Unclosed q r) : Stops (q :: r)

theorem stops_or_segment (t : Text) :
    Stops t ∨ ∃ s v r, Segment s v ∧ t = s ++ r := by
  cases t with
  | nil => exact .inl .done
  | cons c r =>
    by_cases hblank : Text.isBlank c = true
    · exact .inl (.blank hblank)
    by_cases hsingle : c = '\''
    · subst hsingle
      by_cases hmem : '\'' ∈ r
      · obtain ⟨b, r', rfl, hb⟩ := List.eq_append_cons_of_mem hmem
        exact .inr ⟨_, b, r', .single hb, by simp⟩
      · exact .inl (.unclosed (.single hmem))
    by_cases hdouble : c = '"'
    · subst hdouble
      by_cases hclosed : ∃ b v r', Body b v ∧ r = b ++ '"' :: r'
      · obtain ⟨b, v, r', hb, rfl⟩ := hclosed
        exact .inr ⟨_, v, r', .double hb, by simp⟩
      · refine .inl (.unclosed (.double ?_))
        intro b v r' hb hr
        exact hclosed ⟨b, v, r', hb, hr⟩
    · exact .inr ⟨[c], [c], r, .bare (by simpa using hblank) hsingle hdouble, rfl⟩

theorem segments_stops (t : Text) : ∃ w v r, Segments w v ∧ t = w ++ r ∧ Stops r := by
  induction h : t.length using Nat.strongRecOn generalizing t with
  | ind n ih =>
    rcases stops_or_segment t with hstop | ⟨s, v, r, hs, rfl⟩
    · exact ⟨[], [], t, .nil, rfl, hstop⟩
    · obtain ⟨c, s', rfl, _⟩ := hs.head
      have hlt : r.length < n := by simp at h; omega
      obtain ⟨w, v', r', hw, rfl, hr'⟩ := ih r.length hlt r rfl
      exact ⟨_, _, r', .cons hs hw, by simp, hr'⟩

/-- Every text is a line of the grammar, or a quote is opened after one and never closed. -/
theorem line_or_unclosed (t : Text) :
    (∃ ts, Line t ts) ∨
      ∃ before q after ts, t = before ++ q :: after ∧ Line before ts ∧ Unclosed q after := by
  induction h : t.length using Nat.strongRecOn generalizing t with
  | ind n ih =>
    obtain ⟨w, v, r, hw, rfl, hstop⟩ := segments_stops t
    by_cases hne : w = []
    · subst hne
      cases hstop with
      | done => exact .inl ⟨[], Line.nil⟩
      | unclosed hq => exact .inr ⟨[], _, _, [], rfl, Line.nil, hq⟩
      | @blank c r hc =>
        have hgap : Blank [c] := by simp [hc]
        rcases ih r.length (by simp at h; omega) r rfl with
          ⟨ts, hts⟩ | ⟨before, q, after, ts, rfl, hts, hq⟩
        · have hline : Line (c :: r) ts := hts.blank_append hgap
          exact .inl ⟨ts, hline⟩
        · have hline : Line (c :: before) ts := hts.blank_append hgap
          exact .inr ⟨c :: before, q, after, ts, rfl, hline, hq⟩
    · have hspells : Spells w v := hw.spells hne
      cases hstop with
      | done => exact .inl ⟨[v], by simpa using Line.of_spells hspells⟩
      | unclosed hq => exact .inr ⟨w, _, _, [v], rfl, Line.of_spells hspells, hq⟩
      | @blank c r hc =>
        have hlt : (c :: r).length < n := by
          have := List.length_pos_iff.2 hne
          simp at h ⊢
          omega
        rcases ih _ hlt _ rfl with ⟨ts, hts⟩ | ⟨before, q, after, ts, hr, hts, hq⟩
        · exact .inl ⟨v :: ts, hts.word_append hspells (by simpa using hc)⟩
        · cases before with
          | nil =>
            have hcq : c = q := (List.cons.inj hr).1
            rw [hcq, isBlank_of_unclosed hq] at hc
            exact absurd hc (by decide)
          | cons d before =>
            have hcd : c = d := (List.cons.inj hr).1
            refine .inr ⟨w ++ d :: before, q, after, v :: ts, by simp [hr], ?_, hq⟩
            exact hts.word_append hspells (by simpa [← hcd] using hc)

end Word
end CollectionScript
