import CollectionScript.Proofs.Parser.Events
import CollectionScript.Proofs.Run.Reads

/-! Reading under values of the variables. A parser knows a variable by its value alone, wherever the value
comes from, and of a source it needs the variables that are mentioned there. So overrides are as good as a
changed environment. -/
namespace CollectionScript

namespace Environment

def set (environment : Environment) (name value : Text) : Environment := fun other =>
  if other = name then some value else environment other

end Environment

namespace Parser

/-- The parsers have the same forms, limits and manner of logging; their variables are left open. -/
structure SameRules (p q : Parser) : Prop where
  vocabulary_eq : p.vocabulary = q.vocabulary
  limits_eq : p.limits = q.limits
  log_eq : p.log = q.log

def mentions (line : Text) : List Text :=
  match words line with
  | .ok ws => ws.filterMap Variable.reference?
  | .error _ => []

variable {p q : Parser} {line : Text} {lines : List Text}

theorem eqButReads_lookup {name : Text} (h : p.value? name = q.value? name) :
    Run.EqButReads (p.lookup name) (q.lookup name) := by
  constructor
  · rw [outcome_lookup, outcome_lookup, h]
  · rw [events_lookup, events_lookup]

theorem eqButReads_ofWords (log : LogPolicy) {ws : List Text}
    (h : ∀ name ∈ ws.filterMap Variable.reference?, p.value? name = q.value? name) :
    Run.EqButReads (Argument.ofWords p.lookup log ws) (Argument.ofWords q.lookup log ws) := by
  induction ws with
  | nil => exact .refl _
  | cons word ws ih =>
    have hword : Run.EqButReads (Argument.ofWord p.lookup log word) (Argument.ofWord q.lookup log word) := by
      unfold Argument.ofWord
      cases hname : Variable.reference? word with
      | none => exact .refl _
      | some name =>
        have hvalue := h name (List.mem_filterMap.2 ⟨word, List.mem_cons_self, hname⟩)
        exact (eqButReads_lookup hvalue).bind fun _ _ => .refl _
    have hws : ∀ name ∈ ws.filterMap Variable.reference?, p.value? name = q.value? name := by
      intro name hmem
      obtain ⟨other, hother, hname⟩ := List.mem_filterMap.1 hmem
      exact h name (List.mem_filterMap.2 ⟨other, List.mem_cons_of_mem _ hother, hname⟩)
    exact hword.bind fun _ _ => (ih hws).bind fun _ _ => .refl _

theorem SameRules.bindLine (hrules : p.SameRules q)
    (h : ∀ name ∈ mentions line, p.value? name = q.value? name) :
    Run.EqButReads (p.bindLine line) (q.bindLine line) := by
  obtain ⟨hvocabulary, hlimits, hlog⟩ := hrules
  rw [Parser.bindLine, Parser.bindLine, hvocabulary, hlimits, hlog]
  refine (Run.EqButReads.refl _).bind fun _ _ => ?_
  cases isComment line with
  | true => exact .refl _
  | false =>
    refine (Run.EqButReads.refl _).bind fun split hsplit => ?_
    cases split with
    | none => exact .refl _
    | some found =>
      obtain ⟨keyword, ws⟩ := found
      have hws : ∀ name ∈ ws.filterMap Variable.reference?, p.value? name = q.value? name := by
        intro name hname
        rw [mentions, splitLine_eq_ok_iff.1 hsplit] at h
        exact h name (((List.sublist_cons_self keyword ws).filterMap _).subset hname)
      refine (Run.EqButReads.refl _).bind fun form _ => ?_
      refine (Run.EqButReads.refl _).bind fun _ _ => ?_
      refine (Run.EqButReads.refl _).bind fun _ _ => ?_
      exact (eqButReads_ofWords q.log hws).bind fun _ _ => .refl _

theorem SameRules.readLine (hrules : p.SameRules q)
    (h : ∀ name ∈ mentions line, p.value? name = q.value? name) (progress : Progress) :
    Run.EqButReads (p.readLine progress line) (q.readLine progress line) := by
  rw [Parser.readLine, Parser.readLine, hrules.limits_eq]
  exact (hrules.bindLine h).bind fun _ _ => .refl _

theorem SameRules.readFrom (hrules : p.SameRules q)
    (h : ∀ line ∈ lines, ∀ name ∈ mentions line, p.value? name = q.value? name) (number : Nat)
    (progress : Progress) :
    Run.EqButReads (p.readFrom number progress lines) (q.readFrom number progress lines) := by
  induction lines generalizing number progress with
  | nil => exact .refl _
  | cons line lines ih =>
    obtain ⟨hline, hlines⟩ := List.forall_mem_cons.1 h
    rw [readFrom_cons, readFrom_cons]
    exact ((hrules.readLine hline progress).atLine number).bind fun next _ => ih hlines (number + 1) next

theorem SameRules.parse (hrules : p.SameRules q) {source : Text}
    (h : ∀ line ∈ Text.lines source, ∀ name ∈ mentions line, p.value? name = q.value? name) :
    Run.EqButReads (p.parse source) (q.parse source) :=
  (Run.EqButReads.refl _).bind fun _ _ => hrules.readFrom h 1 {}

end Parser
end CollectionScript
