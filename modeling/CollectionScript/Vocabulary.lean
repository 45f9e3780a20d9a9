import CollectionScript.Form.Builtin

/-! The forms that a script may use, by keyword. -/
namespace CollectionScript

structure Vocabulary where
  forms : Dictionary Form

namespace Vocabulary

def empty : Vocabulary := ⟨∅⟩

def builtin : Vocabulary := ⟨.ofList (Form.builtins.map fun form => (form.keyword, form))⟩

instance : Inhabited Vocabulary := ⟨builtin⟩

/-- Adds a form, or replaces the one with its keyword. -/
def register (vocabulary : Vocabulary) (form : Form) : Except Error Vocabulary := do
  if form.keyword = [] ∨ form.keyword.any Text.isBlank then
    .error (.invalidSchema form.keyword "keyword must be a single word")
  else
    form.schema.validate form.keyword
    .ok ⟨vocabulary.forms.insert form.keyword form⟩

/-- Every singleton gets this policy. -/
def withRedeclare (vocabulary : Vocabulary) (redeclare : Redeclare) : Vocabulary :=
  ⟨vocabulary.forms.map fun form =>
    match form.cardinality with
    | .singleton => { form with redeclare }
    | .multi => form⟩

def find (vocabulary : Vocabulary) (keyword : Text) : Except Error Form :=
  match vocabulary.forms.get? keyword with
  | some form => .ok form
  | none => .error (.unknownCommand keyword)

def contains (vocabulary : Vocabulary) (keyword : Text) : Bool :=
  (vocabulary.forms.get? keyword).isSome

/-- In increasing order. -/
def keywords (vocabulary : Vocabulary) : List Text := vocabulary.forms.keys

def size (vocabulary : Vocabulary) : Nat := vocabulary.forms.size

@[simp] theorem keywords_withRedeclare (vocabulary : Vocabulary) (redeclare : Redeclare) :
    (vocabulary.withRedeclare redeclare).keywords = vocabulary.keywords := by
  simp [keywords, withRedeclare]

end Vocabulary
end CollectionScript
