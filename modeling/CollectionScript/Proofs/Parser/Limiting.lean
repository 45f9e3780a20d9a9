import CollectionScript.Proofs.Parser.Faults
import CollectionScript.Proofs.Run.Excess
import CollectionScript.Proofs.Script.Size

/-! Reading under limits. Tighter limits refuse more documents, and what they let through is read as under
looser ones; a document that is read keeps to all of them. -/
namespace CollectionScript

/-- Limit by limit. -/
instance : LE Limits where
  le tight loose := tight.lineBytes ≤ loose.lineBytes ∧ tight.commandLines ≤ loose.commandLines ∧
    tight.lineArguments ≤ loose.lineArguments

namespace Parser

def under (parser : Parser) (limits : Limits) : Parser := { parser with limits }

/-- The line, be it a comment, keeps to its size, and a command line to the number of its arguments. -/
structure FitsLine (limits : Limits) (line : Text) : Prop where
  bytes : line.byteSize ≤ limits.lineBytes
  arguments : ∀ keyword ws, Invokes line keyword ws → ws.length ≤ limits.lineArguments

structure Fits (limits : Limits) (lines : List Text) : Prop where
  fitsLine : ∀ line ∈ lines, FitsLine limits line
  commandLines : commandCount lines ≤ limits.commandLines

variable {parser : Parser} {tight loose : Limits} {line : Text} {lines : List Text}
  {commands : List (Form × Command)}

theorem bindLine_under (h : tight ≤ loose) (parser : Parser) (line : Text) :
    Run.EqUnlessExcess ((parser.under tight).bindLine line) ((parser.under loose).bindLine line) := by
  obtain ⟨hbytes, -, harguments⟩ := h
  refine (Run.EqUnlessExcess.check hbytes _ _ _).bind fun _ => ?_
  cases isComment line with
  | true => exact .refl _
  | false =>
    refine (Run.EqUnlessExcess.refl _).bind fun split => ?_
    cases split with
    | none => exact .refl _
    | some p =>
      refine (Run.EqUnlessExcess.refl _).bind fun form => ?_
      exact (Run.EqUnlessExcess.check harguments _ _ _).bind fun _ => .refl _

theorem readLine_under (h : tight ≤ loose) (parser : Parser) (progress : Progress) (line : Text) :
    Run.EqUnlessExcess ((parser.under tight).readLine progress line)
      ((parser.under loose).readLine progress line) := by
  refine (bindLine_under h parser line).bind fun bound => ?_
  cases bound with
  | none => exact .refl _
  | some p => exact (Run.EqUnlessExcess.check h.2.1 _ _ _).bind fun _ => .refl _

theorem readFrom_under (h : tight ≤ loose) (parser : Parser) (number : Nat) (progress : Progress)
    (lines : List Text) :
    Run.EqUnlessExcess ((parser.under tight).readFrom number progress lines)
      ((parser.under loose).readFrom number progress lines) := by
  induction lines generalizing number progress with
  | nil => exact .refl _
  | cons line lines ih =>
    rw [readFrom_cons, readFrom_cons]
    exact ((readLine_under h parser progress line).atLine number).bind fun next => ih (number + 1) next

/-- A document is read under tighter limits as under looser ones, unless it exceeds the tighter ones. -/
theorem parse_under (h : tight ≤ loose) (parser : Parser) (source : Text) :
    Run.EqUnlessExcess ((parser.under tight).parse source) ((parser.under loose).parse source) :=
  (Run.EqUnlessExcess.refl _).bind fun _ => readFrom_under h parser 1 {} (Text.lines source)

theorem fitsLine_of_bindLine {bound : Option (Form × Command)}
    (h : (parser.bindLine line).outcome = .ok bound) : FitsLine parser.limits line := by
  cases bound with
  | none =>
    obtain ⟨hbytes, hskipped⟩ := outcome_bindLine_eq_none_iff.1 h
    refine ⟨hbytes, fun keyword ws hinvokes => ?_⟩
    rcases hskipped with hcomment | hwords
    · rw [hinvokes.not_comment] at hcomment
      cases hcomment
    · rw [hinvokes.words_eq] at hwords
      cases hwords
  | some p =>
    obtain ⟨hbytes, -, keyword, ws, hwords, -, harguments, -⟩ := outcome_bindLine_eq_some_iff.1 h
    refine ⟨hbytes, fun keyword' ws' hinvokes => ?_⟩
    obtain ⟨rfl, rfl⟩ := List.cons.inj (Except.ok.inj (hwords.symm.trans hinvokes.words_eq))
    exact harguments

/-- Nothing else about the limits bears on a line. -/
theorem outcome_bindLine_under_iff (h : tight ≤ loose) {bound : Option (Form × Command)} :
    ((parser.under tight).bindLine line).outcome = .ok bound ↔
      ((parser.under loose).bindLine line).outcome = .ok bound ∧ FitsLine tight line := by
  constructor
  · intro hbound
    have hfits : FitsLine (parser.under tight).limits line := fitsLine_of_bindLine hbound
    exact ⟨(bindLine_under h parser line).eq_of_ok hbound ▸ hbound, hfits⟩
  · rintro ⟨hbound, hbytes, harguments⟩
    cases bound with
    | none => exact outcome_bindLine_eq_none_iff.2 ⟨hbytes, (outcome_bindLine_eq_none_iff.1 hbound).2⟩
    | some p =>
      obtain ⟨-, hcomment, keyword, ws, hwords, hform, -, hcommand⟩ :=
        outcome_bindLine_eq_some_iff.1 hbound
      have hcount : ws.length ≤ tight.lineArguments := harguments keyword ws ⟨hcomment, hwords⟩
      exact outcome_bindLine_eq_some_iff.2
        ⟨hbytes, hcomment, keyword, ws, hwords, hform, hcount, hcommand⟩

theorem yields_under_iff (h : tight ≤ loose) :
    (parser.under tight).Yields lines commands ↔
      (parser.under loose).Yields lines commands ∧ ∀ line ∈ lines, FitsLine tight line := by
  constructor
  · intro hyields
    induction hyields with
    | nil => exact ⟨.nil, List.forall_mem_nil _⟩
    | skip hline _ ih =>
      obtain ⟨hline, hfits⟩ := (outcome_bindLine_under_iff h).1 hline
      exact ⟨.skip hline ih.1, List.forall_mem_cons.2 ⟨hfits, ih.2⟩⟩
    | command hline _ ih =>
      obtain ⟨hline, hfits⟩ := (outcome_bindLine_under_iff h).1 hline
      exact ⟨.command hline ih.1, List.forall_mem_cons.2 ⟨hfits, ih.2⟩⟩
  · rintro ⟨hyields, hlines⟩
    induction hyields with
    | nil => exact .nil
    | skip hline _ ih =>
      obtain ⟨hfits, hlines⟩ := List.forall_mem_cons.1 hlines
      exact .skip ((outcome_bindLine_under_iff h).2 ⟨hline, hfits⟩) (ih hlines)
    | command hline _ ih =>
      obtain ⟨hfits, hlines⟩ := List.forall_mem_cons.1 hlines
      exact .command ((outcome_bindLine_under_iff h).2 ⟨hline, hfits⟩) (ih hlines)

theorem Yields.length_eq (h : parser.Yields lines commands) : commands.length = commandCount lines := by
  induction h with
  | nil => rfl
  | skip hline _ ih => simpa [commandCount, keyword?_of_none hline] using ih
  | command hline _ ih =>
    obtain ⟨keyword, hkeyword, -⟩ := keyword?_of_some hline
    simpa [commandCount, hkeyword] using ih

/-- What can be read under tighter limits is what can be read under looser ones and keeps to the tighter
ones. Errors other than exceeding a limit do not depend on the limits, and nor do their lines. The number of
commands that are stored keeps to the limit as well. -/
theorem parse_limits (h : tight ≤ loose) (parser : Parser) (source : Text) :
    (∀ script, ((parser.under tight).parse source).outcome = .ok script ↔
      ((parser.under loose).parse source).outcome = .ok script ∧ Fits tight (Text.lines source)) ∧
    (∀ e, ((parser.under tight).parse source).outcome = .error e → ¬ e.IsExcess →
      ((parser.under loose).parse source).outcome = .error e) ∧
    ∀ script, ((parser.under tight).parse source).outcome = .ok script →
      script.commands.length ≤ tight.commandLines := by
  refine ⟨fun script => ?_, fun e he hother => ?_, fun script hscript => ?_⟩
  · rw [outcome_parse_eq_ok_iff, outcome_parse_eq_ok_iff]
    constructor
    · rintro ⟨commands, hyields, hcount, hadmits, rfl⟩
      obtain ⟨hloose, hlines⟩ := (yields_under_iff h).1 hyields
      have hfits : Fits tight (Text.lines source) := ⟨hlines, hyields.length_eq ▸ hcount⟩
      exact ⟨⟨commands, hloose, Nat.le_trans hcount h.2.1, hadmits, rfl⟩, hfits⟩
    · rintro ⟨⟨commands, hyields, -, hadmits, rfl⟩, hfits⟩
      have htight : (parser.under tight).Yields (Text.lines source) commands :=
        (yields_under_iff h).2 ⟨hyields, hfits.fitsLine⟩
      exact ⟨commands, htight, hyields.length_eq ▸ hfits.commandLines, hadmits, rfl⟩
  · exact (parse_under h parser source).eq_of_error he hother ▸ he
  · obtain ⟨commands, -, hcount, -, rfl⟩ := outcome_parse_eq_ok_iff.1 hscript
    have hempty : (∅ : Script).commands = [] := rfl
    have hstored := (∅ : Script).length_commands_storeAll_le commands
    rw [hempty, List.length_nil, Nat.zero_add] at hstored
    exact Nat.le_trans hstored hcount

theorem parse_limits_at_limits :
    (⟨9, 2, 1⟩ : Limits) ≤ {} ∧
      ((under {} {}).parse "OUTPUT ab\n# comment\nRUN b".toList).outcome =
        .ok ((∅ : Script).storeAll [(.output, .output "ab"), (.run, .run ⟨"b", none⟩)]) ∧
      Fits ⟨9, 2, 1⟩ (Text.lines "OUTPUT ab\n# comment\nRUN b".toList) := by
  have hle : (⟨9, 2, 1⟩ : Limits) ≤ {} := ⟨by decide, by decide, by decide⟩
  have hparse : ((under {} ⟨9, 2, 1⟩).parse "OUTPUT ab\n# comment\nRUN b".toList).outcome =
      .ok ((∅ : Script).storeAll [(.output, .output "ab"), (.run, .run ⟨"b", none⟩)]) := by
    decide +kernel
  exact ⟨hle, ((parse_limits hle {} _).1 _).1 hparse⟩

example : ((under {} ⟨9, 1, 1⟩).parse "OUTPUT ab\n# comment\nRUN b".toList).outcome =
    .error (.onLine 3 (.limitExceeded (.commandLines 1))) := by decide +kernel

end Parser
end CollectionScript
