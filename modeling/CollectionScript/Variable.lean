import CollectionScript.Text

/-! Variables, references to them, and environments that give them values. -/
namespace CollectionScript

/-- The value of every variable that is set. -/
abbrev Environment := Text → Option Text

namespace Environment

def ofList (entries : List (Text × Text)) : Environment := fun name => entries.lookup name

/-- The environment that the entries `NAME=VALUE` of a process make up. Any equals sign of an entry but one
at its front may end the name that it is looked up by. -/
def ofEntries (entries : List Text) : Environment := fun name =>
  if name = [] then none
  else entries.findSome? fun entry =>
    if (name ++ ['=']).isPrefixOf entry then some (entry.drop (name.length + 1)) else none

/-- Looks into the first environment, then into the second. -/
def orElse (first second : Environment) : Environment := fun name => (first name).or (second name)

end Environment

namespace Variable

/-- ASCII letters, digits and underscores, no digit at the front. -/
def isName : Text → Bool
  | [] => false
  | c :: r => (c.isAlpha || c == '_') && r.all fun d => d.isAlphanum || d == '_'

/-- What a word that starts with a dollar sign refers to: the text after it, or between braces. -/
def referent? : Text → Option Text
  | '$' :: '{' :: r => if r.getLast? = some '}' then some r.dropLast else none
  | '$' :: r => some r
  | _ => none

/-- The variable that a whole word refers to. -/
def reference? (word : Text) : Option Text := (referent? word).filter isName

theorem isName_of_reference? {word name : Text} (h : reference? word = some name) :
    isName name := (Option.filter_eq_some_iff.1 h).2

end Variable
end CollectionScript
