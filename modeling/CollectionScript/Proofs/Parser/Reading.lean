import CollectionScript.Parser
import CollectionScript.Proofs.Script.Storage

/-! Reading lines. What a line yields does not depend on the lines around it, so a script can be read if
each of its lines can, its commands are not too many and none is refused; it then holds what storing the
commands one after another gives. -/
namespace CollectionScript

namespace Parser

variable {parser : Parser} {line : Text} {lines : List Text}

/-- The keyword of a line; blank lines and comments have none. -/
def keyword? (line : Text) : Option Text :=
  if isComment line then none
  else match words line with
    | .ok (keyword :: _) => some keyword
    | _ => none

def form? (parser : Parser) (line : Text) : Option Form :=
  (keyword? line).bind fun keyword => (parser.vocabulary.find keyword).toOption

def command? (parser : Parser) (line : Text) : Option Command :=
  (parser.parseLine line).outcome.toOption.join

def select (parser : Parser) (selected : Form → Bool) (lines : List Text) : List Command :=
  lines.filterMap fun line =>
    if (parser.form? line).any selected then parser.command? line else none

theorem splitLine_eq_ok_iff {split : Option (Text × List Text)} :
    splitLine line = .ok split ↔
      words line = .ok (match split with
        | none => []
        | some (keyword, arguments) => keyword :: arguments) := by
  cases h : words line with
  | error e => simp [splitLine, h, Except.map]
  | ok ws => cases ws <;> cases split <;> simp [splitLine, h, Except.map, eq_comm, Prod.ext_iff]

theorem outcome_bindLine_eq_none_iff :
    (parser.bindLine line).outcome = .ok none ↔
      line.byteSize ≤ parser.limits.lineBytes ∧ (isComment line ∨ words line = .ok []) := by
  rw [bindLine, Run.outcome_then_eq_ok_iff, Run.outcome_ofExcept, Limits.checkLine_eq_ok_iff]
  refine and_congr_right fun _ => ?_
  cases hcomment : isComment line with
  | true => simp
  | false =>
    simp only [Bool.false_eq_true, if_false, false_or, Run.outcome_bind_eq_ok_iff,
      Run.outcome_ofExcept]
    constructor
    · rintro ⟨split, hsplit, h⟩
      have hwords := splitLine_eq_ok_iff.1 hsplit
      cases split with
      | none => exact hwords
      | some p => simp [Run.outcome_bind_eq_ok_iff] at h
    · intro h
      exact ⟨none, splitLine_eq_ok_iff.2 h, rfl⟩

theorem outcome_bindLine_eq_some_iff {form : Form} {command : Command} :
    (parser.bindLine line).outcome = .ok (some (form, command)) ↔
      line.byteSize ≤ parser.limits.lineBytes ∧ isComment line = false ∧
        ∃ keyword ws, words line = .ok (keyword :: ws) ∧ parser.vocabulary.find keyword = .ok form ∧
          ws.length ≤ parser.limits.lineArguments ∧
          ∃ arguments, (Argument.ofWords parser.lookup parser.log ws).outcome = .ok arguments ∧
            (form.construct arguments).outcome = .ok command := by
  rw [bindLine, Run.outcome_then_eq_ok_iff, Run.outcome_ofExcept, Limits.checkLine_eq_ok_iff]
  refine and_congr_right fun _ => ?_
  cases hcomment : isComment line with
  | true => simp
  | false =>
    simp only [Bool.false_eq_true, if_false, true_and, Run.outcome_bind_eq_ok_iff,
      Run.outcome_ofExcept]
    constructor
    · rintro ⟨split, hsplit, h⟩
      have hwords := splitLine_eq_ok_iff.1 hsplit
      cases split with
      | none => simp at h
      | some p =>
        obtain ⟨keyword, ws⟩ := p
        simp only [↓Run.outcome_then_eq_ok_iff, Run.outcome_bind_eq_ok_iff, Run.outcome_ofExcept,
          Run.outcome_emit, Limits.checkArguments_eq_ok_iff] at h
        obtain ⟨form', hform, hlength, -, arguments, harguments, command', hcommand, heq⟩ := h
        simp only [Run.pure_eq, Except.ok.injEq, Option.some.injEq, Prod.mk.injEq] at heq
        obtain ⟨rfl, rfl⟩ := heq
        exact ⟨keyword, ws, hwords, hform, hlength, arguments, harguments, hcommand⟩
    · rintro ⟨keyword, ws, hwords, hform, hlength, arguments, harguments, hcommand⟩
      refine ⟨some (keyword, ws), splitLine_eq_ok_iff.2 hwords, ?_⟩
      simp only [↓Run.outcome_then_eq_ok_iff, Run.outcome_bind_eq_ok_iff, Run.outcome_ofExcept,
        Run.outcome_emit, Limits.checkArguments_eq_ok_iff]
      exact ⟨form, hform, hlength, trivial, arguments, harguments, command, hcommand, rfl⟩

theorem outcome_parseLine :
    (parser.parseLine line).outcome = (parser.bindLine line).outcome.map (·.map (·.2)) := by
  rw [parseLine]
  cases h : (parser.bindLine line).outcome with
  | ok bound => rw [Run.bind_of_ok h]; rfl
  | error e => rw [Run.bind_of_error h]; rfl

theorem keyword?_of_none (h : (parser.bindLine line).outcome = .ok none) : keyword? line = none := by
  rcases (outcome_bindLine_eq_none_iff.1 h).2 with hcomment | hwords
  · simp [keyword?, hcomment]
  · simp [keyword?, hwords]

theorem keyword?_of_some {form : Form} {command : Command}
    (h : (parser.bindLine line).outcome = .ok (some (form, command))) :
    ∃ keyword, keyword? line = some keyword ∧ parser.vocabulary.find keyword = .ok form := by
  obtain ⟨-, hcomment, keyword, ws, hwords, hform, -⟩ := outcome_bindLine_eq_some_iff.1 h
  exact ⟨keyword, by simp [keyword?, hcomment, hwords], hform⟩

theorem form?_eq_some_iff {form : Form} : parser.form? line = some form ↔
    ∃ keyword, keyword? line = some keyword ∧ parser.vocabulary.find keyword = .ok form := by
  rw [form?, Option.bind_eq_some_iff]
  refine exists_congr fun keyword => and_congr_right fun _ => ?_
  cases parser.vocabulary.find keyword <;> simp [Except.toOption]

theorem form?_of_some {form : Form} {command : Command}
    (h : (parser.bindLine line).outcome = .ok (some (form, command))) :
    parser.form? line = some form := form?_eq_some_iff.2 (keyword?_of_some h)

theorem command?_of_ok {bound : Option (Form × Command)}
    (h : (parser.bindLine line).outcome = .ok bound) :
    parser.command? line = bound.map (·.2) := by
  simp [command?, outcome_parseLine, h, Except.map, Except.toOption]

/-- The commands of lines that can all be read, with their forms; some lines have none. -/
inductive Yields (parser : Parser) : List Text → List (Form × Command) → Prop
  | nil : Yields parser [] []
  | skip {line : Text} {lines : List Text} {commands : List (Form × Command)}
    (h : (parser.bindLine line).outcome = .ok none) (hs : Yields parser lines commands) :
    Yields parser (line :: lines) commands
  | command {line : Text} {lines : List Text} {form : Form} {command : Command}
    {commands : List (Form × Command)}
    (h : (parser.bindLine line).outcome = .ok (some (form, command)))
    (hs : Yields parser lines commands) :
    Yields parser (line :: lines) ((form, command) :: commands)

theorem Yields.exists_of_mem {commands : List (Form × Command)} (h : parser.Yields lines commands)
    (hline : line ∈ lines) : ∃ bound, (parser.bindLine line).outcome = .ok bound := by
  induction h with
  | nil => cases hline
  | skip h _ ih =>
    rcases List.mem_cons.1 hline with rfl | hline
    · exact ⟨none, h⟩
    · exact ih hline
  | command h _ ih =>
    rcases List.mem_cons.1 hline with rfl | hline
    · exact ⟨_, h⟩
    · exact ih hline

theorem Yields.mem_iff {commands : List (Form × Command)} (h : parser.Yields lines commands)
    {form : Form} {command : Command} :
    (form, command) ∈ commands ↔
      ∃ line ∈ lines, (parser.bindLine line).outcome = .ok (some (form, command)) := by
  induction h with
  | nil => simp
  | skip h _ ih => simp [ih, h]
  | command h _ ih => simp [ih, h, eq_comm]

/-- Selecting commands by their forms is selecting lines. -/
theorem Yields.select_eq {commands : List (Form × Command)} (h : parser.Yields lines commands)
    (selected : Form → Bool) :
    parser.select selected lines = (commands.filter (selected ·.1)).map (·.2) := by
  induction h with
  | nil => rfl
  | @skip line lines commands h _ ih =>
    have hcommand : parser.command? line = none := command?_of_ok h
    rw [← ih, select, select, List.filterMap_cons]
    simp [hcommand]
  | @command line lines form command commands h _ ih =>
    have hcommand : parser.command? line = some command := command?_of_ok h
    have hform : parser.form? line = some form := form?_of_some h
    rw [select, List.filterMap_cons, ← select, ih]
    cases hselected : selected form <;> simp [hform, hcommand, hselected]

/-- The number of commands so far does not pass the limit, and nor does it at the end. -/
theorem outcome_parseLines_eq_ok_iff {number count : Nat} {script script' : Script}
    (hcount : count ≤ parser.limits.commandLines) :
    (parser.parseLines number count script lines).outcome = .ok script' ↔
      ∃ commands, parser.Yields lines commands ∧
        count + commands.length ≤ parser.limits.commandLines ∧ script.Admits commands ∧
        script' = script.storeAll commands := by
  induction lines generalizing number count script with
  | nil =>
    constructor
    · intro h
      exact ⟨[], .nil, hcount, Script.admits_nil, (Except.ok.inj h).symm⟩
    · rintro ⟨commands, hyields, -, -, rfl⟩
      cases hyields
      rfl
  | cons line lines ih =>
    rw [parseLines, Run.outcome_bind_eq_ok_iff]
    simp only [Run.outcome_atLine_eq_ok_iff]
    constructor
    · rintro ⟨bound, hbound, h⟩
      cases bound with
      | none =>
        obtain ⟨commands, hyields, hlimit, hadmits, rfl⟩ := (ih hcount).1 h
        exact ⟨commands, .skip hbound hyields, hlimit, hadmits, rfl⟩
      | some p =>
        obtain ⟨form, command⟩ := p
        simp only [↓Run.outcome_then_eq_ok_iff, Run.outcome_bind_eq_ok_iff,
          Run.outcome_atLine_eq_ok_iff, Run.outcome_ofExcept, Limits.checkCommands_eq_ok_iff,
          Script.outcome_add_eq_ok_iff] at h
        obtain ⟨hnext, _, ⟨hrefuses, rfl⟩, h⟩ := h
        obtain ⟨commands, hyields, hlimit, hadmits, rfl⟩ := (ih hnext).1 h
        refine ⟨(form, command) :: commands, .command hbound hyields, ?_, ?_, rfl⟩
        · rw [List.length_cons]
          omega
        · exact Script.admits_cons_iff.2 ⟨hrefuses, hadmits⟩
    · rintro ⟨commands, hyields, hlimit, hadmits, rfl⟩
      cases hyields with
      | skip hbound hyields =>
        exact ⟨none, hbound, (ih hcount).2 ⟨commands, hyields, hlimit, hadmits, rfl⟩⟩
      | @command _ _ form command commands hbound hyields =>
        rw [List.length_cons] at hlimit
        have hnext : count + 1 ≤ parser.limits.commandLines := by omega
        obtain ⟨hrefuses, hadmits⟩ := Script.admits_cons_iff.1 hadmits
        refine ⟨_, hbound, ?_⟩
        simp only [↓Run.outcome_then_eq_ok_iff, Run.outcome_bind_eq_ok_iff,
          Run.outcome_atLine_eq_ok_iff, Run.outcome_ofExcept, Limits.checkCommands_eq_ok_iff,
          Script.outcome_add_eq_ok_iff]
        refine ⟨hnext, _, ⟨hrefuses, rfl⟩, (ih hnext).2 ⟨commands, hyields, ?_, hadmits, rfl⟩⟩
        omega

theorem outcome_parse_eq_ok_iff {source : Text} {script : Script} :
    (parser.parse source).outcome = .ok script ↔
      ∃ commands, parser.Yields (Text.lines source) commands ∧
        commands.length ≤ parser.limits.commandLines ∧ (∅ : Script).Admits commands ∧
        script = (∅ : Script).storeAll commands := by
  rw [parse, Run.outcome_bind_of_ok (Run.outcome_emit _),
    outcome_parseLines_eq_ok_iff (Nat.zero_le _)]
  simp only [Nat.zero_add]

end Parser
end CollectionScript
