import CollectionScript.Proofs.Form.Builtin
import CollectionScript.Proofs.Parser.Faults
import CollectionScript.Proofs.Script.Overwriting
import CollectionScript.Proofs.Text.Splitting

/-! Where and why reading a document fails: on its first line with a fault, for the first fault of that
line. So nothing that comes after that line has a say. The error is reported with the number of the line, once,
unless the constructor of a form has given it a number already. -/
namespace CollectionScript

/-- Built-in constructors leave the number of the line to the reading. -/
theorem Vocabulary.Standard.unnumbered {vocabulary : Vocabulary} (h : vocabulary.Standard) :
    vocabulary.Unnumbered := by
  intro keyword form hform bindings e hbuild
  obtain ⟨builtin, hbuiltin, redeclare, rfl⟩ := h.exists_builtin hform
  rcases Form.error_of_build hbuiltin hbuild with ⟨p, -, hmissing⟩ | ⟨p, -, reason, rfl⟩
  · obtain ⟨-, rfl⟩ := Bindings.require_eq_error_iff.1 hmissing
    rfl
  · rfl

namespace Parser

variable {parser : Parser} {before : List Text} {line keyword : Text} {ws : List Text} {form : Form}
  {check : Check} {e : Error} {commands : List (Form × Command)} {progress : Progress}

theorem Invokes.keyword?_eq (h : Invokes line keyword ws) : keyword? line = some keyword := by
  simp [keyword?, h.not_comment, h.words_eq]

theorem Calls.unique {form' : Form} {ws' : List Text} (h : parser.Calls line form ws)
    (h' : parser.Calls line form' ws') : form = form' := by
  obtain ⟨keyword, hinvokes, hform⟩ := h
  obtain ⟨keyword', hinvokes', hform'⟩ := h'
  have hkeyword : some keyword = some keyword' := hinvokes.keyword?_eq.symm.trans hinvokes'.keyword?_eq
  obtain rfl := Option.some.inj hkeyword
  exact Except.ok.inj (hform.symm.trans hform')

theorem calls_of_bindLine {command : Command}
    (h : (parser.bindLine line).outcome = .ok (some (form, command))) : ∃ ws, parser.Calls line form ws := by
  obtain ⟨-, hcomment, keyword, ws, hwords, hform, -⟩ := outcome_bindLine_eq_some_iff.1 h
  exact ⟨ws, keyword, ⟨hcomment, hwords⟩, hform⟩

theorem Yields.append {lines : List Text} {more : List (Form × Command)}
    (h : parser.Yields before commands) (hlines : parser.Yields lines more) :
    parser.Yields (before ++ lines) (commands ++ more) := by
  induction h with
  | nil => exact hlines
  | skip h _ ih => exact .skip h ih
  | command h _ ih => exact .command h ih

theorem commandCount_concat (before : List Text) (line : Text) :
    commandCount (before ++ [line]) = commandCount before + if (keyword? line).isSome then 1 else 0 := by
  simp [commandCount, List.countP_cons]

theorem Yields.exists_form_iff (h : parser.Yields before commands) {P : Form → Prop} :
    (∃ p ∈ commands, P p.1) ↔ ∃ other ∈ before, ∃ form ws, parser.Calls other form ws ∧ P form := by
  constructor
  · rintro ⟨⟨form, command⟩, hp, hform⟩
    obtain ⟨other, hother, hbound⟩ := h.mem_iff.1 hp
    obtain ⟨ws, hcalls⟩ := calls_of_bindLine hbound
    exact ⟨other, hother, form, ws, hcalls, hform⟩
  · rintro ⟨other, hother, form, ws, hcalls, hform⟩
    obtain ⟨bound, hbound⟩ := h.exists_of_mem hother
    cases bound with
    | none =>
      obtain ⟨keyword, hinvokes, -⟩ := hcalls
      have hnone := keyword?_of_none hbound
      rw [hinvokes.keyword?_eq] at hnone
      cases hnone
    | some p =>
      obtain ⟨ws', hcalls'⟩ := calls_of_bindLine hbound
      exact ⟨p, h.mem_iff.2 ⟨other, hother, hbound⟩, hcalls.unique hcalls' ▸ hform⟩

/-- What has been read after the lines `before`, all of which can be read. -/
structure Reached (parser : Parser) (before : List Text) (progress : Progress) : Prop where
  exists_yields : ∃ commands, parser.Yields before commands ∧
    progress.script = (∅ : Script).storeAll commands
  commands_eq : progress.commands = commandCount before
  commands_le : progress.commands ≤ parser.limits.commandLines

theorem reached_nil (parser : Parser) : parser.Reached [] {} where
  exists_yields := ⟨[], .nil, rfl⟩
  commands_eq := rfl
  commands_le := Nat.zero_le _

theorem Reached.clashes_iff (h : parser.Reached before progress) :
    progress.script.Clashes form ↔ form.role = .preamble ∧ form.cardinality = .singleton ∧
      ∃ other ∈ before, ∃ earlier ws, parser.Calls other earlier ws ∧
        earlier.role = .preamble ∧ earlier.keyword = form.keyword := by
  obtain ⟨commands, hyields, hscript⟩ := h.exists_yields
  rw [Script.Clashes, hscript, Script.get_storeAll_ne_nil_iff,
    hyields.exists_form_iff (P := fun earlier => earlier.role = .preamble ∧ earlier.keyword = form.keyword)]

theorem outcome_readLine_of_command {command : Command}
    (h : (parser.bindLine line).outcome = .ok (some (form, command))) :
    (parser.readLine progress line).outcome = (do
      parser.limits.checkCommands (progress.commands + 1)
      let script ← (progress.script.add form command).outcome
      .ok ⟨progress.commands + 1, script⟩) := by
  rw [readLine, Run.outcome_bind_of_ok h]
  simp only [Run.outcome_bind, Run.outcome_ofExcept]
  rfl

/-- With room for one more command, the next one is no more than the limit. -/
theorem Reached.checkCommands_eq (hreached : parser.Reached before progress)
    (h : parser.Clears before line .commandCount) (hinvokes : Invokes line keyword ws) :
    parser.limits.checkCommands (progress.commands + 1) = .ok () := by
  refine Limits.checkCommands_eq_ok_iff.2 ?_
  have hne : progress.commands ≠ parser.limits.commandLines := by
    intro heq
    exact h _ (.commandCount hinvokes (hreached.commands_eq.symm.trans heq))
  have hle := hreached.commands_le
  omega

theorem Fault.not_comment (h : parser.Fault before line check e) (hcheck : check ≠ .lineSize) :
    isComment line = false := by
  cases h with
  | lineSize => exact absurd rfl hcheck
  | quotes hcomment => exact hcomment
  | keyword h | argumentCount h | commandCount h => exact h.not_comment
  | placement h | completeness h | construction h | redeclaration h =>
    obtain ⟨keyword, hinvokes, -⟩ := h
    exact hinvokes.not_comment

theorem FirstFault.exists_command (h : parser.FirstFault before line check e)
    (hlocal : check.isLocal = false) :
    ∃ form ws command, parser.Calls line form ws ∧
      (parser.bindLine line).outcome = .ok (some (form, command)) := by
  obtain ⟨hfault, hclears⟩ := h
  rcases outcome_bindLine_of_clears fun earlier hearlier =>
      hclears earlier (Check.rank_lt_of_isLocal hearlier hlocal) with ⟨hnone, -⟩ | hcommand
  · have hkeyword : (keyword? line).isSome := by
      cases hfault with
      | commandCount hinvokes => simp [hinvokes.keyword?_eq]
      | redeclaration hcalls =>
        obtain ⟨keyword, hinvokes, -⟩ := hcalls
        simp [hinvokes.keyword?_eq]
      | _ => cases hlocal
    rw [hnone] at hkeyword
    cases hkeyword
  · exact hcommand

/-- The first fault of a line is what a step reports. -/
theorem FirstFault.outcome_readLine (hreached : parser.Reached before progress)
    (h : parser.FirstFault before line check e) :
    (parser.readLine progress line).outcome = .error e := by
  cases hlocal : check.isLocal with
  | true => rw [readLine, Run.bind_of_error (h.outcome_bindLine hlocal)]
  | false =>
    obtain ⟨form, ws, command, hcalls, hcommand⟩ := h.exists_command hlocal
    obtain ⟨hfault, hclears⟩ := h
    rw [outcome_readLine_of_command hcommand]
    cases hfault with
    | commandCount _ hcount =>
      have hexceeds : ¬ progress.commands + 1 ≤ parser.limits.commandLines := by
        rw [hreached.commands_eq, hcount]
        omega
      rw [Limits.checkCommands, if_neg hexceeds]
      rfl
    | redeclaration hcalls' hrole hcardinality hreject hother hearlier hkept hkeyword =>
      obtain rfl := hcalls.unique hcalls'
      obtain ⟨keyword, hinvokes, -⟩ := hcalls
      have hclash : progress.script.Clashes form := hreached.clashes_iff.2
        ⟨hrole, hcardinality, _, hother, _, _, hearlier, hkept, hkeyword⟩
      rw [hreached.checkCommands_eq (hclears .commandCount (by decide)) hinvokes,
        Script.outcome_add_of_refuses (Script.refuses_iff.2 ⟨hclash, hreject⟩)]
      rfl
    | _ => cases hlocal

theorem Passes.reached (hreached : parser.Reached before progress) (h : parser.Passes before line) :
    ∃ next, (parser.readLine progress line).outcome = .ok next ∧
      parser.Reached (before ++ [line]) next := by
  obtain ⟨commands, hyields, hscript⟩ := hreached.exists_yields
  rcases outcome_bindLine_of_clears fun check _ => h check with
    ⟨hnone, hskip⟩ | ⟨form, ws, command, hcalls, hcommand⟩
  · refine ⟨progress, by rw [readLine, Run.outcome_bind_of_ok hskip]; rfl, ?_, ?_, hreached.commands_le⟩
    · exact ⟨commands, by simpa using hyields.append (.skip hskip .nil), hscript⟩
    · rw [hreached.commands_eq, commandCount_concat, hnone]
      rfl
  · obtain ⟨keyword, hinvokes, -⟩ := id hcalls
    have hcheck := hreached.checkCommands_eq (h .commandCount) hinvokes
    have hrefuses : ¬ progress.script.Refuses form := by
      intro hrefuses
      obtain ⟨hclash, hreject⟩ := Script.refuses_iff.1 hrefuses
      obtain ⟨hrole, hcardinality, other, hother, earlier, ws', hearlier, hkept, hkeyword⟩ :=
        hreached.clashes_iff.1 hclash
      exact h .redeclaration _
        (.redeclaration hcalls hrole hcardinality hreject hother hearlier hkept hkeyword)
    refine ⟨⟨progress.commands + 1, progress.script.store form command⟩, ?_, ?_, ?_,
      Limits.checkCommands_eq_ok_iff.1 hcheck⟩
    · rw [outcome_readLine_of_command hcommand, hcheck, Script.outcome_add hrefuses]
      rfl
    · refine ⟨commands ++ [(form, command)], hyields.append (.command hcommand .nil), ?_⟩
      rw [hscript, Script.storeAll_concat]
    · rw [hreached.commands_eq, commandCount_concat, hinvokes.keyword?_eq]
      rfl

/-- Each of the lines is without fault where it stands, after the lines `before`. -/
def PassesAll (parser : Parser) (before lines : List Text) : Prop :=
  ∀ front line back, lines = front ++ line :: back → parser.Passes (before ++ front) line

@[simp] theorem passesAll_nil : parser.PassesAll before [] := by
  intro front line back h
  simp at h

theorem passesAll_cons_iff {lines : List Text} :
    parser.PassesAll before (line :: lines) ↔
      parser.Passes before line ∧ parser.PassesAll (before ++ [line]) lines := by
  constructor
  · intro h
    refine ⟨by simpa using h [] line lines rfl, fun front other back hsplit => ?_⟩
    simpa using h (line :: front) other back (congrArg (line :: ·) hsplit)
  · rintro ⟨hline, hlines⟩ front other back hsplit
    cases front with
    | nil =>
      obtain ⟨rfl, -⟩ := List.cons.inj hsplit
      simpa using hline
    | cons first front =>
      obtain ⟨rfl, hrest⟩ := List.cons.inj hsplit
      simpa using hlines front other back hrest

theorem passesAll_or_firstFault (parser : Parser) (before lines : List Text) :
    parser.PassesAll before lines ∨ ∃ front line back check cause, lines = front ++ line :: back ∧
      parser.PassesAll before front ∧ parser.FirstFault (before ++ front) line check cause := by
  induction lines generalizing before with
  | nil => exact .inl passesAll_nil
  | cons first lines ih =>
    rcases passes_or_firstFault parser before first with hpasses | ⟨check, cause, hfault⟩
    · rcases ih (before ++ [first]) with
        hlines | ⟨front, line, back, check, cause, hsplit, hfront, hfault⟩
      · exact .inl (passesAll_cons_iff.2 ⟨hpasses, hlines⟩)
      · refine .inr ⟨first :: front, line, back, check, cause, congrArg (first :: ·) hsplit,
          passesAll_cons_iff.2 ⟨hpasses, hfront⟩, ?_⟩
        simpa using hfault
    · refine .inr ⟨[], first, lines, check, cause, rfl, passesAll_nil, ?_⟩
      simpa using hfault

theorem PassesAll.readLines {front : List Text} (h : parser.PassesAll before front)
    (hreached : parser.Reached before progress) :
    ∃ next, (parser.readLines progress front).outcome = .ok next ∧
      parser.Reached (before ++ front) next := by
  induction front generalizing before progress with
  | nil => exact ⟨progress, rfl, by simpa using hreached⟩
  | cons first front ih =>
    obtain ⟨hfirst, hfront⟩ := passesAll_cons_iff.1 h
    obtain ⟨next, hnext, hreached'⟩ := hfirst.reached hreached
    obtain ⟨last, hlast, hread⟩ := ih hfront hreached'
    exact ⟨last, Run.outcome_bind_eq_ok_iff.2 ⟨next, hnext, hlast⟩, by simpa using hread⟩

theorem PassesAll.exists_outcome_parse {source : Text} (h : parser.PassesAll [] (Text.lines source)) :
    ∃ script, (parser.parse source).outcome = .ok script := by
  obtain ⟨progress, hread, -⟩ := h.readLines (reached_nil parser)
  exact ⟨progress.script, by rw [outcome_parse, outcome_readFrom_eq_ok_iff]; exact ⟨progress, hread, rfl⟩⟩

theorem FirstFault.outcome_parse {source : Text} {after : List Text}
    (hsplit : Text.lines source = before ++ line :: after) (hpasses : parser.PassesAll [] before)
    (h : parser.FirstFault before line check e) :
    (parser.parse source).outcome = .error (e.atLine (before.length + 1)) := by
  obtain ⟨progress, hread, hreached⟩ := hpasses.readLines (reached_nil parser)
  rw [Parser.outcome_parse, hsplit, outcome_readFrom_of_error hread (h.outcome_readLine hreached),
    Nat.add_comm]

theorem outcome_parse_eq_error_iff {source : Text} :
    (parser.parse source).outcome = .error e ↔
      ∃ before line after check cause, Text.lines source = before ++ line :: after ∧
        parser.PassesAll [] before ∧ parser.FirstFault before line check cause ∧
        e = cause.atLine (before.length + 1) := by
  constructor
  · intro he
    rcases parser.passesAll_or_firstFault [] (Text.lines source) with
      hpasses | ⟨before, line, after, check, cause, hsplit, hpasses, hfault⟩
    · obtain ⟨script, hscript⟩ := hpasses.exists_outcome_parse
      rw [hscript] at he
      cases he
    · have herror := hfault.outcome_parse hsplit hpasses
      rw [he] at herror
      exact ⟨before, line, after, check, cause, hsplit, hpasses, hfault, Except.error.inj herror⟩
  · rintro ⟨before, line, after, check, cause, hsplit, hpasses, hfault, rfl⟩
    exact hfault.outcome_parse hsplit hpasses

theorem PassesAll.exists_parseLine (h : parser.PassesAll [] before) (hline : line ∈ before) :
    ∃ command, (parser.parseLine line).outcome = .ok command := by
  obtain ⟨front, back, hsplit⟩ := List.append_of_mem hline
  rw [outcome_parseLine]
  rcases outcome_bindLine_of_clears fun check _ => h front line back hsplit check with
    ⟨-, hnone⟩ | ⟨form, ws, command, -, hcommand⟩
  · exact ⟨none, by rw [hnone]; rfl⟩
  · exact ⟨some command, by rw [hcommand]; rfl⟩

/-- The constructor of a form may have its errors carry a line number, which is then kept. No check but
that of construction can report such an error. -/
theorem Fault.line?_eq_none (h : parser.Fault before line check e)
    (hplain : check ≠ .construction ∨ parser.vocabulary.Unnumbered) : e.line? = none := by
  cases h with
  | construction hcalls _ hbuild =>
    obtain ⟨keyword, -, hform⟩ := hcalls
    rcases hplain with hne | hplain
    · exact absurd rfl hne
    · exact hplain hform _ _ hbuild
  | _ => rfl

/-- How reading a document fails: the line, the lines before it, the check that fails on it and the error
of that check. -/
structure FailsOn (parser : Parser) (source : Text) (e : Error) (before : List Text) (line : Text)
    (check : Check) (cause : Error) : Prop where
  split : ∃ after, Text.lines source = before ++ line :: after
  /-- Every line before can be read by itself, and has no fault where it stands. -/
  accepted : ∀ other ∈ before, ∃ command, (parser.parseLine other).outcome = .ok command
  passes : parser.PassesAll [] before
  fault : parser.FirstFault before line check cause
  /-- The line by itself fails alike, unless it only fails for the lines before it. -/
  alone : if check.isLocal then (parser.parseLine line).outcome = .error cause
    else ∃ command, (parser.parseLine line).outcome = .ok (some command)
  comment : isComment line = true → check = .lineSize
  error_eq : e = cause.atLine (before.length + 1)
  once : cause.line? = none → e = .onLine (before.length + 1) cause
  /-- A number that the error has already is one that the constructor of the form gave it, and stays. -/
  kept : cause.line? ≠ none → check = .construction ∧ ¬ parser.vocabulary.Unnumbered ∧ e = cause

theorem FirstFault.failsOn {source : Text} {after : List Text} {cause : Error}
    (hsplit : Text.lines source = before ++ line :: after) (hpasses : parser.PassesAll [] before)
    (h : parser.FirstFault before line check cause) :
    parser.FailsOn source (cause.atLine (before.length + 1)) before line check cause where
  split := ⟨after, hsplit⟩
  accepted other hother := hpasses.exists_parseLine hother
  passes := hpasses
  fault := h
  alone := by
    rw [outcome_parseLine]
    cases hlocal : check.isLocal with
    | true =>
      rw [h.outcome_bindLine hlocal]
      rfl
    | false =>
      obtain ⟨form, ws, command, -, hcommand⟩ := h.exists_command hlocal
      rw [hcommand]
      exact ⟨command, rfl⟩
  comment hcomment := by
    by_cases hcheck : check = .lineSize
    · exact hcheck
    · rw [h.fault.not_comment hcheck] at hcomment
      cases hcomment
  error_eq := rfl
  once hnone := Error.atLine_of_line? hnone _
  kept hline := by
    refine ⟨?_, fun hplain => hline (h.fault.line?_eq_none (.inr hplain)), Error.atLine_of_line?_ne hline _⟩
    exact Classical.byContradiction fun hcheck => hline (h.fault.line?_eq_none (.inl hcheck))

theorem FailsOn.numbered {source : Text} {cause : Error} (h : parser.FailsOn source e before line check cause)
    (hplain : parser.vocabulary.Unnumbered) :
    cause.line? = none ∧ e = .onLine (before.length + 1) cause := by
  have hnone : cause.line? = none := Classical.byContradiction fun hline => (h.kept hline).2.1 hplain
  exact ⟨hnone, h.once hnone⟩

theorem outcome_parse_eq_error_iff_failsOn {source : Text} :
    (parser.parse source).outcome = .error e ↔
      ∃ before line check cause, parser.FailsOn source e before line check cause := by
  rw [outcome_parse_eq_error_iff]
  constructor
  · rintro ⟨before, line, after, check, cause, hsplit, hpasses, hfault, rfl⟩
    exact ⟨before, line, check, cause, hfault.failsOn hsplit hpasses⟩
  · rintro ⟨before, line, check, cause, h⟩
    obtain ⟨after, hsplit⟩ := h.split
    exact ⟨before, line, after, check, cause, hsplit, h.passes, h.fault, h.error_eq⟩

theorem FailsOn.of_append {source longer : Text} {more : List Text} {cause : Error}
    (hlines : Text.lines longer = Text.lines source ++ more)
    (h : parser.FailsOn source e before line check cause) :
    (parser.parse longer).outcome = .error e := by
  obtain ⟨after, hsplit⟩ := h.split
  rw [outcome_parse_eq_error_iff]
  refine ⟨before, line, after ++ more, check, cause, ?_, h.passes, h.fault, h.error_eq⟩
  rw [hlines, hsplit, List.append_assoc, List.cons_append]

/-- A document that goes on after one that does not fail fails on one of its further lines. -/
theorem FailsOn.length_le {source longer : Text} {more : List Text} {cause : Error} {script : Script}
    (hlines : Text.lines longer = Text.lines source ++ more)
    (hok : (parser.parse source).outcome = .ok script)
    (h : parser.FailsOn longer e before line check cause) :
    (Text.lines source).length ≤ before.length := by
  obtain ⟨after, hsplit⟩ := h.split
  rw [hlines] at hsplit
  rcases List.append_eq_append_iff.1 hsplit with ⟨rest, rfl, -⟩ | ⟨rest, hsource, hrest⟩
  · simp
  · cases rest with
    | nil => simp [hsource]
    | cons first rest =>
      obtain ⟨rfl, -⟩ := List.cons.inj hrest
      have herror : (parser.parse source).outcome = .error e :=
        outcome_parse_eq_error_iff.2 ⟨before, line, rest, check, cause, hsource, h.passes, h.fault, h.error_eq⟩
      rw [hok] at herror
      cases herror

theorem exists_failsOn_of_append_newline {a : Text} (ha : a.getLast? ≠ some '\r') (b : Text) {script : Script}
    (hok : (parser.parse a).outcome = .ok script) (he : (parser.parse (a ++ '\n' :: b)).outcome = .error e) :
    ∃ before line check cause, parser.FailsOn (a ++ '\n' :: b) e before line check cause ∧
      (Text.lines a).length < before.length + 1 := by
  obtain ⟨more, hlines⟩ := Text.lines_append_newline ha b
  obtain ⟨before, line, check, cause, h⟩ := outcome_parse_eq_error_iff_failsOn.1 he
  exact ⟨before, line, check, cause, h, Nat.lt_succ_of_le (h.length_le hlines hok)⟩

/-- Reading fails on the first line with a fault, for the first check that the line fails, and then the
error is that of the check with the number of the line, or an error of a constructor that has a number of its
own. What follows a line feed after a document does not change how the document fails; if the document does
not fail, any failure is on a line after its lines. Where no constructor gives an error a number, and no
built-in one does, every error has exactly one number, that of the line. -/
theorem parse_fails (parser : Parser) :
    (∀ source e, (parser.parse source).outcome = .error e ↔
      ∃ before line check cause, parser.FailsOn source e before line check cause) ∧
    (∀ a b : Text, a.getLast? ≠ some '\r' →
      (∀ e, (parser.parse a).outcome = .error e →
        (parser.parse (a ++ '\n' :: b)).outcome = .error e) ∧
      ∀ script e, (parser.parse a).outcome = .ok script →
        (parser.parse (a ++ '\n' :: b)).outcome = .error e →
        ∃ before line check cause, parser.FailsOn (a ++ '\n' :: b) e before line check cause ∧
          (Text.lines a).length < before.length + 1) ∧
    (parser.vocabulary.Unnumbered →
      (∀ source e, (parser.parse source).outcome = .error e →
        ∃ before line check cause, parser.FailsOn source e before line check cause ∧
          cause.line? = none ∧ e = .onLine (before.length + 1) cause) ∧
      ∀ (a b : Text) script e, a.getLast? ≠ some '\r' → (parser.parse a).outcome = .ok script →
        (parser.parse (a ++ '\n' :: b)).outcome = .error e →
        ∃ number, e.line? = some number ∧ (Text.lines a).length < number) ∧
    (parser.vocabulary.Standard → parser.vocabulary.Unnumbered) := by
  refine ⟨fun source e => outcome_parse_eq_error_iff_failsOn, fun a b ha => ⟨fun e he => ?_, ?_⟩,
    fun hplain => ⟨fun source e he => ?_, fun a b script e ha hok he => ?_⟩, fun h => h.unnumbered⟩
  · obtain ⟨more, hlines⟩ := Text.lines_append_newline ha b
    obtain ⟨before, line, check, cause, h⟩ := outcome_parse_eq_error_iff_failsOn.1 he
    exact h.of_append hlines
  · exact fun script e hok he => exists_failsOn_of_append_newline ha b hok he
  · obtain ⟨before, line, check, cause, h⟩ := outcome_parse_eq_error_iff_failsOn.1 he
    exact ⟨before, line, check, cause, h, h.numbered hplain⟩
  · obtain ⟨before, line, check, cause, h, hlt⟩ := exists_failsOn_of_append_newline ha b hok he
    obtain ⟨-, rfl⟩ := h.numbered hplain
    exact ⟨before.length + 1, rfl, hlt⟩

/-- A comment and a command before the line that fails. -/
theorem parse_fails_third_line :
    (∃ before line check cause,
      FailsOn {} ("# a\nRUN b".toList ++ '\n' :: "BAD".toList) (.onLine 3 (.unknownCommand "BAD")) before line
        check cause ∧ cause.line? = none ∧
      Error.onLine 3 (.unknownCommand "BAD") = .onLine (before.length + 1) cause) ∧
      ∃ number, (Error.onLine 3 (.unknownCommand "BAD")).line? = some number ∧
        (Text.lines "# a\nRUN b").length < number := by
  have hok : (parse {} "# a\nRUN b").outcome.isOk = true := by decide +kernel
  have herror : (parse {} ("# a\nRUN b".toList ++ '\n' :: "BAD".toList)).outcome =
      .error (.onLine 3 (.unknownCommand "BAD")) := by decide +kernel
  obtain ⟨-, -, hnumber, hstandard⟩ := parse_fails {}
  obtain ⟨hfails, hfurther⟩ := hnumber (hstandard .builtin)
  cases houtcome : (parse {} "# a\nRUN b").outcome with
  | ok script => exact ⟨hfails _ _ herror, hfurther _ _ script _ (by decide) houtcome herror⟩
  | error e =>
    rw [houtcome] at hok
    cases hok

/-- A form whose constructor reports an error of another line. -/
def misnumbered : Form := .action "X" ⟨[]⟩ fun _ => .error (.onLine 5 (.unknownCommand "X"))

def misnumberedParser : Parser := { vocabulary := ⟨Dictionary.empty.insert "X" misnumbered⟩ }

theorem reachable_misnumbered : misnumberedParser.vocabulary.Reachable :=
  have hform : misnumbered.WellFormed := by decide
  .register .empty (Vocabulary.register_eq_ok_iff.2 ⟨hform, rfl⟩)

theorem not_onLine_of_parse :
    ¬ ∀ (parser : Parser) (source : Text) (e : Error), parser.vocabulary.Reachable →
      (parser.parse source).outcome = .error e →
      ∃ before line after cause, Text.lines source = before ++ line :: after ∧
        e = .onLine (before.length + 1) cause ∧ cause.line? = none := by
  intro h
  have herror : (misnumberedParser.parse "X").outcome = .error (.onLine 5 (.unknownCommand "X")) := by
    decide +kernel
  obtain ⟨before, line, after, cause, hsplit, he, -⟩ := h misnumberedParser "X" _ reachable_misnumbered herror
  obtain ⟨hnumber, -⟩ := Error.onLine.inj he
  have hlength := congrArg List.length hsplit
  rw [List.length_append, List.length_cons, show (Text.lines "X").length = 1 by decide] at hlength
  omega

end Parser
end CollectionScript
