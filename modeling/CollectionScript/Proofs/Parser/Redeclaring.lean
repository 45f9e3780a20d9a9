import CollectionScript.Proofs.Parser.Events

/-! Two readings of a document that differ in the policy of redeclaration only: one overwrites, the other
refuses. They go in lockstep up to the first declaration that is overwritten, where the second one fails. -/
namespace CollectionScript

def Event.Overwrites (event : Event) : Prop := ∃ keyword, event = .overwriting keyword

/-- The form under another policy, which bears on singletons only. -/
def Form.redeclared (form : Form) (redeclare : Redeclare) : Form :=
  { form with redeclare := if form.cardinality = .singleton then redeclare else form.redeclare }

theorem Form.redeclare_redeclared {form : Form} (h : form.cardinality = .singleton)
    (redeclare : Redeclare) : (form.redeclared redeclare).redeclare = redeclare := if_pos h

theorem Script.Clashes.redeclared {script : Script} {form : Form} (h : script.Clashes form)
    {redeclare : Redeclare} : script.Clashes (form.redeclared redeclare) := h

namespace Parser

variable (parser : Parser)

theorem quiet_bindLine (line : Text) : (parser.bindLine line).Logs (¬ ·.Overwrites) := by
  intro event hevent
  rintro ⟨keyword, rfl⟩
  cases parser.logs_bindLine line _ hevent

def withRedeclare (redeclare : Redeclare) : Parser :=
  { parser with vocabulary := parser.vocabulary.withRedeclare redeclare }

def lenient : Parser := parser.withRedeclare .overwrite

def strict : Parser := parser.withRedeclare .reject

theorem bindLine_withRedeclare (redeclare : Redeclare) (line : Text) :
    (parser.withRedeclare redeclare).bindLine line =
      (parser.bindLine line >>= fun bound =>
        pure (bound.map fun p => (p.1.redeclared redeclare, p.2))) := by
  simp only [bindLine, bind_assoc]
  refine congrArg _ (funext fun _ => ?_)
  cases isComment line with
  | true => simp only [if_true, pure_bind, Option.map_none]
  | false =>
    simp only [Bool.false_eq_true, if_false, bind_assoc]
    refine congrArg _ (funext fun split => ?_)
    cases split with
    | none => simp only [pure_bind, Option.map_none]
    | some p =>
      have hfind : (parser.withRedeclare redeclare).vocabulary.find p.1 =
          (parser.vocabulary.find p.1).map (·.redeclared redeclare) :=
        Vocabulary.find_withRedeclare _ _ _
      simp only [hfind, Run.ofExcept_map, bind_assoc, pure_bind]
      rfl

def settle (redeclare : Redeclare) (progress : Progress) : Option (Form × Command) → Run Progress
  | none => pure progress
  | some (form, command) => do
    Run.ofExcept (parser.limits.checkCommands (progress.commands + 1))
    let script ← progress.script.add (form.redeclared redeclare) command
    pure ⟨progress.commands + 1, script⟩

theorem readLine_withRedeclare (redeclare : Redeclare) (progress : Progress) (line : Text) :
    (parser.withRedeclare redeclare).readLine progress line =
      parser.bindLine line >>= parser.settle redeclare progress := by
  rw [readLine, bindLine_withRedeclare, bind_assoc]
  refine congrArg _ (funext fun bound => ?_)
  cases bound <;> rfl

/-- The policies part where a singleton is declared again, and nowhere else. -/
theorem settle_cases (progress : Progress) (bound : Option (Form × Command)) :
    ((parser.settle .overwrite progress bound).Logs (¬ ·.Overwrites) ∧
      parser.settle .reject progress bound = parser.settle .overwrite progress bound) ∨
    ∃ keyword next, parser.settle .overwrite progress bound = ⟨.ok next, [.overwriting keyword], []⟩ ∧
      parser.settle .reject progress bound = Run.fail (.duplicateCommand keyword) := by
  cases bound with
  | none => exact .inl ⟨Run.logs_pure _, rfl⟩
  | some p =>
    obtain ⟨form, command⟩ := p
    by_cases hclash : progress.script.Clashes form
    · have hlenient : progress.script.add (form.redeclared .overwrite) command =
          (Run.emit (.overwriting form.keyword) >>= fun _ =>
            pure (progress.script.store form command)) := by
        rw [Script.add_of_clashes hclash.redeclared, Form.redeclare_redeclared hclash.2.1]
        rfl
      have hstrict : progress.script.add (form.redeclared .reject) command =
          Run.fail (.duplicateCommand form.keyword) := by
        rw [Script.add_of_clashes hclash.redeclared, Form.redeclare_redeclared hclash.2.1]
        rfl
      simp only [settle, hlenient, hstrict]
      cases parser.limits.checkCommands (progress.commands + 1) with
      | error e => exact .inl ⟨Run.logs_fail e, rfl⟩
      | ok => exact .inr ⟨form.keyword, _, rfl, rfl⟩
    · have hadd : ∀ redeclare, progress.script.add (form.redeclared redeclare) command =
          pure (progress.script.store form command) := by
        intro redeclare
        have hother : ¬ progress.script.Clashes (form.redeclared redeclare) := hclash
        exact Script.add_of_not_clashes hother command
      simp only [settle, hadd]
      exact .inl ⟨(Run.logs_ofExcept _).bind fun _ _ => Run.logs_pure _, trivial⟩

/-- One step of both readings: either they do the same and nothing is overwritten, or one overwrites at its
end and the other fails there. -/
theorem readLine_strict (progress : Progress) (line : Text) :
    ((parser.lenient.readLine progress line).Logs (¬ ·.Overwrites) ∧
      parser.strict.readLine progress line = parser.lenient.readLine progress line) ∨
    ∃ before keyword next, (∀ event ∈ before, ¬ event.Overwrites) ∧
      (parser.lenient.readLine progress line).outcome = .ok next ∧
      (parser.lenient.readLine progress line).events = before ++ [.overwriting keyword] ∧
      (parser.strict.readLine progress line).outcome = .error (.duplicateCommand keyword) := by
  have hquiet := parser.quiet_bindLine line
  rw [lenient, strict, readLine_withRedeclare, readLine_withRedeclare]
  cases houtcome : (parser.bindLine line).outcome with
  | error e =>
    rw [Run.bind_of_error houtcome, Run.bind_of_error houtcome]
    exact .inl ⟨hquiet, rfl⟩
  | ok bound =>
    rcases parser.settle_cases progress bound with ⟨hlogs, heq⟩ | ⟨keyword, next, hlenient, hstrict⟩
    · refine .inl ⟨hquiet.bind fun bound' hbound' => ?_, ?_⟩
      · obtain rfl := Except.ok.inj (houtcome.symm.trans hbound')
        exact hlogs
      · rw [Run.bind_of_ok houtcome, Run.bind_of_ok houtcome, heq]
    · refine .inr ⟨_, keyword, next, hquiet, ?_⟩
      rw [Run.bind_of_ok houtcome, Run.bind_of_ok houtcome, hlenient, hstrict]
      exact ⟨rfl, rfl, rfl⟩

/-- From this state on, `line` is the first on which a declaration is overwritten. The lines `front` are
read before it, and the events `before` are logged before that one. -/
structure FirstOverwriting (parser : Parser) (number : Nat) (progress : Progress) (lines front : List Text)
    (line : Text) (before : List Event) (keyword : Text) : Prop where
  split : ∃ back, lines = front ++ line :: back
  events : ∃ after, (parser.readFrom number progress lines).events =
    before ++ .overwriting keyword :: after
  quiet : ∀ event ∈ before, ¬ event.Overwrites
  quiet_front : (parser.readFrom number progress front).Logs (¬ ·.Overwrites)
  events_line : (parser.readFrom number progress (front ++ [line])).events = before ++ [.overwriting keyword]

variable {parser}

theorem FirstOverwriting.cons {number : Nat} {progress next : Progress} {lines front : List Text}
    {line first : Text} {before : List Event} {keyword : Text}
    (hnext : (parser.readLine progress first).outcome = .ok next)
    (hquiet : (parser.readLine progress first).Logs (¬ ·.Overwrites))
    (h : parser.FirstOverwriting (number + 1) next lines front line before keyword) :
    parser.FirstOverwriting number progress (first :: lines) (first :: front) line
      ((parser.readLine progress first).events ++ before) keyword where
  split := h.split.imp fun back hback => congrArg (first :: ·) hback
  events := by
    obtain ⟨after, hafter⟩ := h.events
    exact ⟨after, by rw [readFrom_cons_of_ok hnext, hafter, List.append_assoc]⟩
  quiet := hquiet.append h.quiet
  quiet_front := by
    rw [readFrom_cons_of_ok hnext]
    exact hquiet.append h.quiet_front
  events_line := by
    rw [List.cons_append, readFrom_cons_of_ok hnext, h.events_line, List.append_assoc]

theorem firstOverwriting_head {number : Nat} {progress next : Progress} {line : Text}
    {before : List Event} {keyword : Text}
    (hnext : (parser.readLine progress line).outcome = .ok next)
    (hquiet : ∀ event ∈ before, ¬ event.Overwrites)
    (hevents : (parser.readLine progress line).events = before ++ [.overwriting keyword])
    (lines : List Text) :
    parser.FirstOverwriting number progress (line :: lines) [] line before keyword where
  split := ⟨lines, rfl⟩
  events := by
    rw [readFrom_cons_of_ok hnext, hevents, List.append_assoc]
    exact ⟨_, rfl⟩
  quiet := hquiet
  quiet_front := Run.logs_pure _
  events_line := by
    rw [List.nil_append, readFrom_cons_of_ok hnext, hevents]
    exact List.append_nil _

variable (parser)

/-- Both readings from a common state. Either nothing is overwritten and they are the same, or there is a
first line on which something is, and the strict one fails there. -/
theorem readFrom_strict (number : Nat) (progress : Progress) (lines : List Text) :
    ((parser.lenient.readFrom number progress lines).Logs (¬ ·.Overwrites) ∧
      parser.strict.readFrom number progress lines = parser.lenient.readFrom number progress lines) ∨
    ∃ front line before keyword,
      parser.lenient.FirstOverwriting number progress lines front line before keyword ∧
      (parser.strict.readFrom number progress lines).outcome =
        .error (.onLine (number + front.length) (.duplicateCommand keyword)) := by
  induction lines generalizing number progress with
  | nil => exact .inl ⟨Run.logs_pure _, rfl⟩
  | cons first lines ih =>
    rcases parser.readLine_strict progress first with
      ⟨hquiet, heq⟩ | ⟨before, keyword, next, hbefore, hnext, hevents, hstrict⟩
    · cases hstep : (parser.lenient.readLine progress first).outcome with
      | error e =>
        rw [readFrom_cons_of_error hstep, readFrom_cons_of_error (heq ▸ hstep), heq]
        exact .inl ⟨hquiet, rfl⟩
      | ok next =>
        have hsame : (parser.strict.readLine progress first).outcome = .ok next := heq ▸ hstep
        rcases ih (number + 1) next with ⟨hrest, hlines⟩ | ⟨front, line, before, keyword, hfirst, hfail⟩
        · rw [readFrom_cons_of_ok hstep, readFrom_cons_of_ok hsame, heq, hlines]
          exact .inl ⟨hquiet.append hrest, rfl⟩
        · refine .inr ⟨first :: front, line, _, keyword, hfirst.cons hstep hquiet, ?_⟩
          rw [readFrom_cons_of_ok hsame, hfail, List.length_cons, Nat.add_assoc, Nat.add_comm 1]
    · refine .inr ⟨[], first, before, keyword, firstOverwriting_head hnext hbefore hevents lines, ?_⟩
      rw [readFrom_cons_of_error hstrict]
      rfl

theorem parse_strict_cases (source : Text) :
    ((∀ event ∈ (parser.lenient.parse source).events, ¬ event.Overwrites) ∧
      (parser.strict.parse source).outcome = (parser.lenient.parse source).outcome) ∨
    ∃ before keyword after front line back,
      (parser.lenient.parse source).events = before ++ .overwriting keyword :: after ∧
      (∀ event ∈ before, ¬ event.Overwrites) ∧
      Text.lines source = front ++ line :: back ∧
      (∀ event ∈ parser.lenient.eventsOf front, ¬ event.Overwrites) ∧
      .parsingScript (Text.lines source).length source.byteSize ::
        parser.lenient.eventsOf (front ++ [line]) = before ++ [.overwriting keyword] ∧
      (parser.strict.parse source).outcome =
        .error (.onLine (front.length + 1) (.duplicateCommand keyword)) := by
  have hstart : ¬ (Event.parsingScript (Text.lines source).length source.byteSize).Overwrites := by
    rintro ⟨keyword, ⟨⟩⟩
  rw [events_parse, outcome_parse, outcome_parse]
  rcases parser.readFrom_strict 1 {} (Text.lines source) with
    ⟨hquiet, heq⟩ | ⟨front, line, before, keyword, hfirst, hfail⟩
  · exact .inl ⟨List.forall_mem_cons.2 ⟨hstart, hquiet⟩, congrArg _ heq⟩
  · obtain ⟨back, hback⟩ := hfirst.split
    obtain ⟨after, hafter⟩ := hfirst.events
    refine .inr ⟨_ :: before, keyword, after, front, line, back, congrArg (_ :: ·) hafter,
      List.forall_mem_cons.2 ⟨hstart, hfirst.quiet⟩, hback, hfirst.quiet_front,
      congrArg (_ :: ·) hfirst.events_line, ?_⟩
    rw [hfail, Nat.add_comm]

/-- Being strict is being lenient with overwriting forbidden. A script that is read strictly is read
leniently with nothing overwritten, and the other way round; where something is overwritten, the strict
reading fails on the line of the first such event, for its keyword; and it fails as the lenient reading
does where that one fails before any such event. -/
theorem parse_strict (source : Text) :
    (∀ script, (parser.strict.parse source).outcome = .ok script ↔
      (parser.lenient.parse source).outcome = .ok script ∧
        ∀ event ∈ (parser.lenient.parse source).events, ¬ event.Overwrites) ∧
    ((∃ event ∈ (parser.lenient.parse source).events, event.Overwrites) →
      ∃ before keyword after front line back,
        (parser.lenient.parse source).events = before ++ .overwriting keyword :: after ∧
        (∀ event ∈ before, ¬ event.Overwrites) ∧
        Text.lines source = front ++ line :: back ∧
        (∀ event ∈ parser.lenient.eventsOf front, ¬ event.Overwrites) ∧
        .parsingScript (Text.lines source).length source.byteSize ::
          parser.lenient.eventsOf (front ++ [line]) = before ++ [.overwriting keyword] ∧
        (parser.strict.parse source).outcome =
          .error (.onLine (front.length + 1) (.duplicateCommand keyword))) ∧
    (∀ e, (parser.lenient.parse source).outcome = .error e →
      (∀ event ∈ (parser.lenient.parse source).events, ¬ event.Overwrites) →
      (parser.strict.parse source).outcome = .error e) := by
  rcases parser.parse_strict_cases source with ⟨hquiet, heq⟩ | hfirst
  · refine ⟨fun script => ?_, fun ⟨event, hevent, h⟩ => absurd h (hquiet event hevent), fun e he _ => ?_⟩
    · rw [heq, and_iff_left hquiet]
    · rw [heq, he]
  · obtain ⟨before, keyword, after, front, line, back, hevents, -, -, -, -, hfail⟩ := id hfirst
    have hloud : ¬ ∀ event ∈ (parser.lenient.parse source).events, ¬ event.Overwrites := by
      intro h
      exact h (.overwriting keyword) (by simp [hevents]) ⟨keyword, rfl⟩
    refine ⟨fun script => ?_, fun _ => hfirst, fun e _ h => absurd h hloud⟩
    rw [hfail]
    constructor
    · intro h
      cases h
    · rintro ⟨-, h⟩
      exact absurd h hloud

example : ((strict {}).parse "OUTPUT a\nENV A=1\nENV A=2\nOUTPUT b".toList).outcome =
    .error (.onLine 4 (.duplicateCommand "OUTPUT")) := by decide +kernel

end Parser
end CollectionScript
