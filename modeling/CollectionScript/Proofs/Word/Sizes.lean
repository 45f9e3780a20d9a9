import CollectionScript.Limits
import CollectionScript.Proofs.Text.Numeral
import CollectionScript.Proofs.Word.Quoting
import CollectionScript.Proofs.Word.Turns

/-! How much of a line its words account for. Quotes and escapes take up room of their own and so does the
white space between two words, so the words of a line are neither more nor larger than its size allows. -/
namespace CollectionScript
namespace Word

theorem Body.byteSize_le {b v : Text} (h : Body b v) : Text.byteSize v ≤ Text.byteSize b := by
  induction h with
  | nil => exact Nat.le_refl _
  | escape hc _ ih =>
    simp only [Text.byteSize_cons]
    omega
  | backslash hquote hslash _ ih =>
    simp only [Text.byteSize_cons] at ih ⊢
    omega
  | plain hquote hslash _ ih =>
    simp only [Text.byteSize_cons]
    omega

theorem Segment.plain_or_byteSize_lt {s v : Text} (h : Segment s v) :
    (Plain s ∧ v = s) ∨ Text.byteSize v < Text.byteSize s := by
  cases h with
  | bare hblank hsingle hdouble =>
    refine .inl ⟨fun c hc => ?_, rfl⟩
    obtain rfl := List.mem_singleton.1 hc
    exact ⟨hblank, hsingle, hdouble⟩
  | single _ =>
    have hpos := Char.utf8Size_pos '\''
    simp only [Text.byteSize_cons, Text.byteSize_append]
    omega
  | double hb =>
    have hpos := Char.utf8Size_pos '"'
    have hle := hb.byteSize_le
    simp only [Text.byteSize_cons, Text.byteSize_append]
    omega

theorem Segments.plain_or_byteSize_lt {w v : Text} (h : Segments w v) :
    (Plain w ∧ v = w) ∨ Text.byteSize v < Text.byteSize w := by
  induction h with
  | nil => exact .inl ⟨List.forall_mem_nil _, rfl⟩
  | cons h _ ih =>
    simp only [Text.byteSize_append]
    rcases h.plain_or_byteSize_lt, ih with ⟨⟨hs, rfl⟩ | hlt, ⟨hw, rfl⟩ | hlt'⟩
    · exact .inl ⟨List.forall_mem_append.2 ⟨hs, hw⟩, rfl⟩
    · omega
    · omega
    · omega

theorem Segments.byteSize_le {w v : Text} (h : Segments w v) : Text.byteSize v ≤ Text.byteSize w := by
  rcases h.plain_or_byteSize_lt with ⟨-, rfl⟩ | hlt
  · exact Nat.le_refl _
  · exact Nat.le_of_lt hlt

theorem Spells.length_pos {w v : Text} (h : Spells w v) : 1 ≤ w.length := by
  obtain ⟨c, r, rfl, -⟩ := h.head
  exact Nat.le_add_left 1 r.length

/-- The text has room for the words and for something between any two of them. -/
structure HasRoom (t : Text) (ts : List Text) : Prop where
  bytes : Text.byteSize ts.flatten + ts.length ≤ Text.byteSize t + 1
  characters : 2 * ts.length ≤ t.length + 1

theorem Spaced.hasRoom {t : Text} {ts : List Text} (h : Spaced t ts) : HasRoom t ts := by
  induction h with
  | nil => exact ⟨Nat.zero_le _, Nat.zero_le _⟩
  | @last w v h =>
    have hbytes := h.segments.byteSize_le
    have hpos := h.length_pos
    refine ⟨?_, ?_⟩
    · simpa using hbytes
    · rw [List.length_singleton]
      omega
  | @cons w v gap t ts h hne _ _ ih =>
    have hbytes := h.segments.byteSize_le
    have hpos := h.length_pos
    have hgap : 1 ≤ gap.length := List.length_pos_iff.2 hne
    have hgap' := Text.length_le_byteSize gap
    obtain ⟨ihbytes, ihcharacters⟩ := ih
    refine ⟨?_, ?_⟩
    · simp only [List.flatten_cons, Text.byteSize_append, List.length_cons]
      omega
    · simp only [List.length_append, List.length_cons]
      omega

theorem Line.hasRoom {t : Text} {ts : List Text} (h : Line t ts) : HasRoom t ts := by
  obtain @⟨gap, t, ts, _, hs⟩ := h
  obtain ⟨hbytes, hcharacters⟩ := hs.hasRoom
  refine ⟨?_, ?_⟩
  · rw [Text.byteSize_append]
    omega
  · rw [List.length_append]
    omega

theorem HasRoom.byteSize_flatten_le {t : Text} {ts : List Text} (h : HasRoom t ts) :
    Text.byteSize ts.flatten ≤ Text.byteSize t := by
  have hbytes := h.bytes
  cases ts with
  | nil => exact Nat.zero_le _
  | cons w ts =>
    rw [List.length_cons] at hbytes
    omega

end Word

theorem Cursor.exists_taken_of_next {cursor next : Cursor} {word : Text}
    (h : cursor.next = (.ok (some word), next)) :
    ∃ gap w, Word.Blank gap ∧ Word.Spells w word ∧ cursor.rest = gap ++ (w ++ next.rest) ∧
      next.column = cursor.column + (gap.length + w.length) := by
  obtain ⟨t, column⟩ := cursor
  have hgap : Word.Blank (t.takeWhile Text.isBlank) := List.all_eq_true.1 List.all_takeWhile
  have hhead := List.head?_dropWhile_not Text.isBlank t
  have ht : t = t.takeWhile Text.isBlank ++ t.dropWhile Text.isBlank := List.takeWhile_append_dropWhile.symm
  obtain ⟨w, v, r, hw, hrest, hstop⟩ := Word.segments_stops (t.dropWhile Text.isBlank)
  rw [hrest] at ht hhead
  generalize t.takeWhile Text.isBlank = gap at hgap ht
  subst ht
  rw [next_congr (skipBlanks_append hgap (w ++ r) column)] at h
  have hends : Word.Ends r := by
    cases hstop with
    | done => exact Word.ends_nil
    | blank hc => exact Word.ends_cons.2 hc
    | unclosed hq =>
      rw [next_unclosed hw hq] at h
      cases h
  by_cases hne : w = []
  · -- Without a word the line is at its end, as white space has been skipped.
    subst hne
    cases r with
    | nil => cases h
    | cons c r =>
      rw [Word.ends_cons] at hends
      simp [hends] at hhead
  · rw [next_word_append (hw.spells hne) hends] at h
    obtain ⟨hword, rfl⟩ := Prod.mk.inj h
    obtain rfl := Option.some.inj (Except.ok.inj hword)
    exact ⟨gap, w, hgap, hw.spells hne, rfl, Nat.add_assoc _ _ _⟩

open Reading

/-- At every stage of reading a line, asking on after its end or an error included, the column says how many
characters have been taken off it. A word that is read takes one that is not white space; no point of the
reading is come back to with as much of the line left; so the turns are limited in number, and they end with
the words of the line or its error. The words have room in the line with something between them, whence a
limit on its size is one on their number and on their size. -/
theorem reading_bounded (line : Text) :
    (∀ stage, Stage.Reached line stage → ∃ taken, line = taken ++ stage.cursor.rest ∧
      stage.cursor.column = 1 + taken.length) ∧
    (∀ n, ∃ found, Stage.Reached line ⟨(Cursor.start line).after n, found, .words⟩) ∧
    (∀ (cursor next : Cursor) (word : Text), cursor.next = (.ok (some word), next) →
      ∃ taken, cursor.rest = taken ++ next.rest ∧ next.column = cursor.column + taken.length ∧
        ∃ c ∈ taken, Text.isBlank c = false) ∧
    (∀ (stage stage' : Stage) (n : Nat), stage.Exec (n + 1) stage' →
      stage'.place.point = stage.place.point →
      stage'.cursor.rest.length < stage.cursor.rest.length) ∧
    (∀ n stage, (Stage.start line).Exec n stage → n ≤ 4 * line.length + 2) ∧
    (∃ n stage, (Stage.start line).Exec n stage ∧ stage.place = .ended (words line)) ∧
    (∀ ts, words line = .ok ts → ts ≠ [] →
      Text.byteSize ts.flatten + (ts.length - 1) ≤ line.byteSize ∧ 2 * ts.length - 1 ≤ line.length) ∧
    ∀ (limits : Limits) (ts : List Text), limits.checkLine line = .ok () → words line = .ok ts →
      Text.byteSize ts.flatten ≤ limits.lineBytes ∧ 2 * ts.length ≤ limits.lineBytes + 1 := by
  have hroom {ts : List Text} (h : words line = .ok ts) : Word.HasRoom line ts := (words_eq_ok_iff.1 h).hasRoom
  refine ⟨fun stage h => h.exists_taken, fun n => Stage.Reached.start.after n, fun cursor next word h => ?_,
    fun stage stage' n h => h.length_lt, fun n stage h => ?_, ?_, fun ts h hne => ?_, fun limits ts hlimit h => ?_⟩
  · obtain ⟨gap, w, -, hw, hrest, hcolumn⟩ := Cursor.exists_taken_of_next h
    obtain ⟨c, r, rfl, hc⟩ := hw.head
    refine ⟨gap ++ c :: r, by rw [hrest, List.append_assoc], by rw [hcolumn, List.length_append], ?_⟩
    exact ⟨c, List.mem_append_right gap List.mem_cons_self, hc⟩
  · have hsize : (Stage.start line).size = 4 * line.length + 2 := rfl
    have hle := h.size_add_le
    omega
  · obtain ⟨n, finish, found, hexec⟩ := Stage.words_exec (.start line) []
    refine ⟨n, _, hexec, ?_⟩
    have hwords : (Cursor.start line).words = words line := rfl
    rw [hwords]
    cases words line <;> rfl
  · obtain ⟨hbytes, hcharacters⟩ := hroom h
    have hpos := List.length_pos_iff.2 hne
    omega
  · have hle : line.byteSize ≤ limits.lineBytes := Limits.checkLine_eq_ok_iff.1 hlimit
    have hlength := Text.length_le_byteSize line
    have hcharacters := (hroom h).characters
    exact ⟨Nat.le_trans (hroom h).byteSize_flatten_le hle, by omega⟩

def quotesLine : Text := "'' \"a\\\" b\""

def quotesWords : List Text := ["", "a\" b"]

theorem reading_bounded_quotes :
    (∃ taken, quotesLine = taken ++ [] ∧ 11 = 1 + taken.length) ∧
    (∃ taken, quotesLine = taken ++ quotesLine.drop 2 ∧ 3 = 1 + taken.length ∧
      ∃ c ∈ taken, Text.isBlank c = false) ∧
    (quotesLine.drop 2).length < quotesLine.length ∧ 4 ≤ 4 * quotesLine.length + 2 ∧
    (Text.byteSize quotesWords.flatten + (2 - 1) ≤ quotesLine.byteSize ∧
      2 * 2 - 1 ≤ quotesLine.length) ∧
    Text.byteSize quotesWords.flatten ≤ 10 ∧ 2 * 2 ≤ 10 + 1 := by
  obtain ⟨hcolumn, hreached, hnext, hloop, hturns, -, hsize, hlimits⟩ := reading_bounded quotesLine
  have hwords : words quotesLine = .ok quotesWords := by decide +kernel
  have hafter : (Cursor.start quotesLine).after 3 = ⟨[], 11⟩ := by decide +kernel
  have hfirst : (Cursor.start quotesLine).next = (.ok (some []), ⟨quotesLine.drop 2, 3⟩) := by decide +kernel
  have hquotes : Stage.Exec ⟨.start quotesLine, [], .word .bare []⟩ 2
      ⟨⟨quotesLine.drop 2, 3⟩, [], .word .bare []⟩ := .succ rfl (.succ rfl (.refl _))
  refine ⟨?_, hnext _ _ _ hfirst, hloop _ _ 1 hquotes rfl, hturns 4 _ (.succ rfl (.succ rfl hquotes)),
    hsize _ hwords (List.cons_ne_nil _ _), hlimits { lineBytes := 10 } _ (by decide) hwords⟩
  obtain ⟨found, hstage⟩ := hreached 3
  rw [hafter] at hstage
  exact hcolumn _ hstage

end CollectionScript
