import CollectionScript.Proofs.Parser.Alike
import CollectionScript.Proofs.Parser.Faults

/-! What the log shows of the text of a script while it does not show the lines themselves: how long the
lines are, which of them are command lines, the keyword of each of those, its references, and the parameter
that each of its words goes to. Two documents of one outline, which agree on all that, are logged alike. -/
namespace CollectionScript

namespace Schema

/-- Words that are the same, or that go to one parameter and are no references. -/
inductive SamePlace (schema : Schema) : Text → Text → Prop
  | same (word : Text) : SamePlace schema word word
  | written {word word' name value value' : Text} (h : Variable.reference? word = none)
    (h' : Variable.reference? word' = none) (htarget : schema.Target (.written word) name value)
    (htarget' : schema.Target (.written word') name value') : SamePlace schema word word'

/-- Arguments for one parameter, if they differ at all. -/
def Beside (schema : Schema) (a a' : Argument) : Prop :=
  a = a' ∨ ∃ name value value', schema.Target a name value ∧ schema.Target a' name value'

def SameBound (bound bound' : Dictionary Text) : Prop :=
  ∀ name, (bound.get? name).isSome = (bound'.get? name).isSome

theorem SameBound.insert {bound bound' : Dictionary Text} (h : SameBound bound bound')
    (name value value' : Text) : SameBound (bound.insert name value) (bound'.insert name value') := by
  intro other
  rw [Dictionary.get?_insert, Dictionary.get?_insert]
  by_cases hother : other = name
  · simp [hother]
  · simp only [hother, if_false, h other]

end Schema

namespace Parser

variable {parser : Parser} {line line' keyword : Text} {ws ws' : List Text} {excused : Error → Prop}

/-- Words that go to one place are logged alike, and so are the arguments that they stand for. -/
theorem alike_ofWords {schema : Schema} (h : List.Forall₂ schema.SamePlace ws ws') :
    Run.Alike excused (List.Forall₂ schema.Beside) (Argument.ofWords parser.lookup parser.log ws)
      (Argument.ofWords parser.lookup parser.log ws') := by
  induction h with
  | nil => exact .pure .nil
  | @cons word word' _ _ h _ ih =>
    have hword : Run.Alike excused schema.Beside (Argument.ofWord parser.lookup parser.log word)
        (Argument.ofWord parser.lookup parser.log word') := by
      cases h with
      | same => exact .ok (outcome_ofWord word) (outcome_ofWord word) rfl (.inl rfl)
      | written h h' htarget htarget' =>
        rw [Argument.ofWord, Argument.ofWord, h, h']
        exact .pure (.inr ⟨_, _, _, htarget, htarget'⟩)
    exact hword.bind fun _ _ ha => ih.bind fun _ _ has => .pure (.cons ha has)

end Parser
end CollectionScript
