import CollectionScript.Proofs.Parser.Failing
import CollectionScript.Proofs.Text.Padding

/-! How a document is laid out bears on nothing but the numbers of its lines. Blank lines and comments are
steps that lead nowhere, so they may be put in anywhere. Only a number that a constructor has given its error does
not move with the lines. -/
namespace CollectionScript
namespace Parser

/-- A blank line or a comment, of a size that the limits allow. -/
structure Idle (parser : Parser) (line : Text) : Prop where
  bytes : line.byteSize ≤ parser.limits.lineBytes
  idle : Word.Blank line ∨ ∃ gap text, Word.Blank gap ∧ line = gap ++ '#' :: text

/-- Another document is read as the source is, and has `shift n` lines more before the line that has `n`
lines of the source before it. Only the first event tells the size of what is read. -/
structure ReadsShifted (parser : Parser) (shift : Nat → Nat) (source other : Text) : Prop where
  ok : ∀ script, (parser.parse source).outcome = .ok script → (parser.parse other).outcome = .ok script
  error : ∀ e, (parser.parse source).outcome = .error e →
    ∃ before line check cause e', parser.FailsOn source e before line check cause ∧
      (parser.parse other).outcome = .error e' ∧ e'.kind = e.kind ∧
      (cause.line? = none → e' = .onLine (before.length + shift before.length + 1) cause) ∧
      (cause.line? ≠ none → e' = e)
  /-- The number of the line moves with the line, unless constructors give numbers. -/
  number : parser.vocabulary.Unnumbered → ∀ e, (parser.parse source).outcome = .error e →
    ∃ n e', n < (Text.lines source).length ∧ (parser.parse other).outcome = .error e' ∧ e'.kind = e.kind ∧
      e.line? = some (n + 1) ∧ e'.line? = some (n + shift n + 1)
  reads_eq : (parser.parse other).reads = (parser.parse source).reads
  events_eq : ∃ events,
    (parser.parse source).events = .parsingScript (Text.lines source).length source.byteSize :: events ∧
      (parser.parse other).events = .parsingScript (Text.lines other).length other.byteSize :: events

variable {parser : Parser} {progress : Progress} {line source other : Text} {lines more : List Text}
  {origins : List Origin} {shift shift' : Nat → Nat}

theorem isComment_append {gap : Text} (hgap : Word.Blank gap) (text : Text) :
    isComment (gap ++ '#' :: text) = true := by
  have hnumber : Text.isBlank '#' = false := by decide
  rw [isComment, Text.trimStart, List.dropWhile_append_of_pos hgap, List.dropWhile_cons_of_neg (by simp [hnumber])]
  rfl

theorem Idle.skipped (h : parser.Idle line) : Skipped line := by
  rcases h.idle with hblank | ⟨gap, text, hgap, rfl⟩
  · exact .inr hblank
  · exact .inl (isComment_append hgap text)

theorem Idle.dropReturn (h : parser.Idle line) : parser.Idle (Text.dropReturn line) := by
  have hfront := Text.isPrefix_dropReturn line
  refine ⟨?_, ?_⟩
  · obtain ⟨rest, hrest⟩ := hfront
    have hsize : Text.byteSize (Text.dropReturn line) + Text.byteSize rest = line.byteSize := by
      rw [← Text.byteSize_append, hrest]
    exact Nat.le_trans (Nat.le.intro hsize) h.bytes
  · rcases h.idle with hblank | ⟨gap, text, hgap, rfl⟩
    · exact .inl fun c hc => hblank c (hfront.subset hc)
    · exact .inr ⟨gap, Text.dropReturn text, hgap, Text.dropReturn_append_cons gap (by decide) text⟩

theorem Idle.readLine_eq (h : parser.Idle line) (progress : Progress) :
    parser.readLine progress line = pure progress := by
  rw [readLine, bindLine_of_skipped h.skipped, Limits.checkLine_eq_ok_iff.2 h.bytes]
  rfl

theorem readLines_interspersed (h : Text.Interspersed parser.Idle origins lines more) (progress : Progress) :
    parser.readLines progress more = parser.readLines progress lines := by
  induction h generalizing progress with
  | rest lines => rfl
  | own line _ ih =>
    rw [readLines_cons, readLines_cons]
    exact congrArg _ (funext ih)
  | added hidle _ ih => rw [readLines_cons, hidle.readLine_eq, pure_bind, ih]

/-- The line that reading fails on is the same, and has all the idle lines before it as well. -/
theorem FailsOn.outcome_interspersed {e cause : Error} {before : List Text} {check : Check}
    (h : parser.FailsOn source e before line check cause)
    (hlines : Text.Interspersed parser.Idle origins (Text.lines source) (Text.lines other)) :
    (parser.parse other).outcome =
      .error (cause.atLine (before.length + addedBefore origins before.length + 1)) := by
  obtain ⟨after, hsplit⟩ := h.split
  obtain ⟨next, hnext, hreached⟩ := h.passes.readLines (reached_nil parser)
  rw [hsplit] at hlines
  obtain ⟨before', after', origins', hother, hlength, hbefore⟩ := hlines.exists_split
  have hnext' : (parser.readLines {} before').outcome = .ok next := by
    rw [readLines_interspersed hbefore, hnext]
  rw [outcome_parse, hother, outcome_readFrom_of_error hnext' (h.fault.outcome_readLine hreached), hlength,
    Nat.add_comm 1]

theorem FailsOn.length_lt {e cause : Error} {before : List Text} {check : Check}
    (h : parser.FailsOn source e before line check cause) : before.length < (Text.lines source).length := by
  obtain ⟨after, hsplit⟩ := h.split
  simp [hsplit]

theorem FailsOn.shifted {e cause : Error} {before : List Text} {check : Check}
    (h : parser.FailsOn source e before line check cause)
    (hother : (parser.parse other).outcome = .error (cause.atLine (before.length + shift before.length + 1))) :
    ∃ e', (parser.parse other).outcome = .error e' ∧ e'.kind = e.kind ∧
      (cause.line? = none → e' = .onLine (before.length + shift before.length + 1) cause) ∧
      (cause.line? ≠ none → e' = e) := by
  refine ⟨_, hother, by rw [h.error_eq, Error.kind_atLine, Error.kind_atLine], fun hnone => ?_, fun hline => ?_⟩
  · exact Error.atLine_of_line? hnone _
  · rw [h.error_eq, Error.atLine_of_line?_ne hline, Error.atLine_of_line?_ne hline]

theorem readsShifted_of_interspersed
    (h : Text.Interspersed parser.Idle origins (Text.lines source) (Text.lines other)) :
    parser.ReadsShifted (addedBefore origins) source other where
  ok script hscript := by
    rw [outcome_parse, outcome_readFrom_eq_ok_iff] at hscript ⊢
    rwa [readLines_interspersed h]
  error e he := by
    obtain ⟨before, line, check, cause, hfails⟩ := outcome_parse_eq_error_iff_failsOn.1 he
    obtain ⟨e', hshifted⟩ := hfails.shifted (hfails.outcome_interspersed h)
    exact ⟨before, line, check, cause, e', hfails, hshifted⟩
  number hplain e he := by
    obtain ⟨before, line, check, cause, hfails⟩ := outcome_parse_eq_error_iff_failsOn.1 he
    obtain ⟨e', hother, hkind, hmoved, -⟩ := hfails.shifted (hfails.outcome_interspersed h)
    obtain ⟨hnone, rfl⟩ := hfails.numbered hplain
    exact ⟨before.length, e', hfails.length_lt, hother, hkind, rfl, by rw [hmoved hnone, Error.line?]⟩
  reads_eq := by
    rw [reads_parse, reads_parse, (parser.effects_readFrom _ _ _).2, (parser.effects_readFrom _ _ _).2,
      readLines_interspersed h]
  events_eq := by
    have hevents : parser.eventsOf (Text.lines other) = parser.eventsOf (Text.lines source) := by
      have hlines (lines : List Text) : parser.eventsOf lines = (parser.readLines {} lines).events :=
        (parser.effects_readFrom 1 {} lines).1
      rw [hlines, hlines, readLines_interspersed h]
    exact ⟨_, parser.events_parse source, hevents ▸ parser.events_parse other⟩

/-- Only the lines of the source have a number to be shifted. -/
theorem ReadsShifted.of_shift (h : parser.ReadsShifted shift source other)
    (hshift : ∀ n, n < (Text.lines source).length → shift' n = shift n) :
    parser.ReadsShifted shift' source other where
  ok := h.ok
  error e he := by
    obtain ⟨before, line, check, cause, e', hfails, hother⟩ := h.error e he
    exact ⟨before, line, check, cause, e', hfails, hshift _ hfails.length_lt ▸ hother⟩
  number hplain e he := by
    obtain ⟨n, e', hlt, hother⟩ := h.number hplain e he
    exact ⟨n, e', hlt, hshift n hlt ▸ hother⟩
  reads_eq := h.reads_eq
  events_eq := h.events_eq

theorem readsShifted_of_lines (h : Text.lines other = Text.lines source) :
    parser.ReadsShifted (fun _ => 0) source other := by
  have hlines : Text.Interspersed parser.Idle [] (Text.lines source) (Text.lines other) := h ▸ .rest _
  exact readsShifted_of_interspersed hlines

/-- Blank lines and comments may be put into a document that does not end in a carriage return: nothing
changes but the numbers of the lines after them, and not those that a constructor has given its errors. No
number changes if carriage returns are put before all line feeds, or if a last line that has no end is ended. -/
theorem parse_layout (parser : Parser) (source : Text) :
    (∀ origins padded, source.getLast? ≠ some '\r' → Text.Padded parser.Idle origins source padded →
      parser.ReadsShifted (addedBefore origins) source padded) ∧
    (¬ ['\r', '\n'] <:+: source →
      parser.ReadsShifted (fun _ => 0) source (Text.replace '\n' "\r\n" source)) ∧
    (source.getLast? ≠ some '\n' → source.getLast? ≠ some '\r' →
      parser.ReadsShifted (fun _ => 0) source (source ++ ['\n'])) := by
  refine ⟨fun origins padded hlast hpadded => ?_, fun hpairs => ?_, fun hfeed hreturn => ?_⟩
  · exact readsShifted_of_interspersed (hpadded.interspersed (fun _ hidle => hidle.dropReturn) hlast)
  · exact readsShifted_of_lines (Text.lines_replace_newline hpairs)
  · by_cases hne : source = []
    · -- A line feed alone is a blank line, which has no line after it.
      subst hne
      have hidle : parser.Idle [] := ⟨Nat.zero_le _, .inl Word.blank_nil⟩
      have hlines : Text.Interspersed parser.Idle [.added] (Text.lines []) (Text.lines ['\n']) :=
        .added hidle (.rest [])
      exact (readsShifted_of_interspersed hlines).of_shift fun n hn => absurd hn (Nat.not_lt_zero n)
    · exact readsShifted_of_lines (Text.lines_concat_newline hne hfeed hreturn)

/-- An unfinished quote in a comment, a blank line, and a comment after a last line without an end. -/
theorem parse_layout_of_two_lines :
    Text.Padded (Idle {}) [.added, .own, .added, .own, .added] "RUN a\nBAD".toList
        " # it's\nRUN a\n\t\r\nBAD\n#".toList ∧
      ReadsShifted {} (addedBefore [.added, .own, .added, .own, .added]) "RUN a\nBAD".toList
        " # it's\nRUN a\n\t\r\nBAD\n#".toList ∧
      (∃ e', (parse {} " # it's\nRUN a\n\t\r\nBAD\n#".toList).outcome = .error e' ∧
        e'.kind = .unknownCommand "BAD" ∧ e'.line? = some 4) ∧
      ReadsShifted {} (fun _ => 0) "RUN a\nBAD".toList (Text.replace '\n' "\r\n" "RUN a\nBAD".toList) ∧
      ReadsShifted {} (fun _ => 0) "RUN a\nBAD".toList ("RUN a\nBAD".toList ++ ['\n']) := by
  have hcomment : Idle {} " # it's" := ⟨by decide, .inr ⟨[' '], " it's".toList, by decide, rfl⟩⟩
  have hblank : Idle {} "\t\r" := ⟨by decide, .inl (by decide)⟩
  have hempty : Idle {} "#" := ⟨by decide, .inr ⟨[], [], by decide, rfl⟩⟩
  have hpadded : Text.Padded (Idle {}) [.added, .own, .added, .own, .added] "RUN a\nBAD".toList
      " # it's\nRUN a\n\t\r\nBAD\n#".toList :=
    .added (l := " # it's") (by decide) hcomment <| .own (l := "RUN a") (by decide) <|
      .added (l := "\t\r") (by decide) hblank <| .ownLast (l := "BAD") (by decide) (by decide) <|
        .addedLast (by decide) (by decide) hempty
  have hpairs : ¬ ['\r', '\n'] <:+: "RUN a\nBAD".toList := by
    rw [← Text.contains_iff]
    decide
  obtain ⟨hput, hreturns, hend⟩ := parse_layout {} "RUN a\nBAD".toList
  have hshifted := hput _ _ (by decide) hpadded
  refine ⟨hpadded, hshifted, ?_, hreturns hpairs, hend (by decide) (by decide)⟩
  have herror : (parse {} "RUN a\nBAD".toList).outcome = .error (.onLine 2 (.unknownCommand "BAD")) := by
    decide +kernel
  obtain ⟨n, e', -, hother, hkind, hline, hmoved⟩ :=
    hshifted.number Vocabulary.Standard.builtin.unnumbered _ herror
  obtain rfl : 1 = n := Nat.succ.inj (Option.some.inj hline)
  exact ⟨e', hother, hkind, hmoved⟩

/-- The error of the source is still that of line five where a comment has been put before it. -/
theorem not_parse_layout_line :
    ¬ ∀ (parser : Parser) (source padded : Text) (origins : List Origin) (e : Error),
      parser.vocabulary.Reachable → source.getLast? ≠ some '\r' →
      Text.Padded parser.Idle origins source padded → (parser.parse source).outcome = .error e →
      ∃ n e', n < (Text.lines source).length ∧ (parser.parse padded).outcome = .error e' ∧ e'.kind = e.kind ∧
        e'.line? = e.line?.map (· + addedBefore origins n) := by
  intro h
  have hidle : misnumberedParser.Idle "# c" := ⟨by decide, .inr ⟨[], " c".toList, by decide, rfl⟩⟩
  have hpadded : Text.Padded misnumberedParser.Idle [.added] "X".toList "# c\nX".toList :=
    .added (l := "# c") (by decide) hidle (.rest "X")
  have herror : (misnumberedParser.parse "X").outcome = .error (.onLine 5 (.unknownCommand "X")) := by
    decide +kernel
  have hother : (misnumberedParser.parse "# c\nX").outcome = .error (.onLine 5 (.unknownCommand "X")) := by
    decide +kernel
  obtain ⟨n, e', hlt, he', -, hline⟩ := h misnumberedParser "X" "# c\nX" _ _ reachable_misnumbered (by decide)
    hpadded herror
  obtain rfl := Except.error.inj (he'.symm.trans hother)
  obtain rfl : n = 0 := Nat.lt_one_iff.1 hlt
  cases hline

end Parser
end CollectionScript
