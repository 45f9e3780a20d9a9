import CollectionScript.Json

/-! The JSON text for readers: every item and member on a line of its own, two spaces deeper than what
holds it. An empty array or object stays on one line. -/
namespace CollectionScript
namespace Json

def newline (depth : Nat) : Text := '\n' :: List.replicate (2 * depth) ' '

/-- Pieces between brackets, laid out one level below `depth`. -/
def block (opening closing : Char) (depth : Nat) (pieces : List Text) : Text :=
  if pieces = [] then [opening, closing]
  else opening :: newline (depth + 1) ++ List.intercalate (',' :: newline (depth + 1)) pieces
    ++ newline depth ++ [closing]

mutual

def prettyAt (depth : Nat) : Json → Text
  | .string value => quote value
  | .number value => Text.decimal value
  | .array items => block '[' ']' depth (prettyItems (depth + 1) items)
  | .object members => block '{' '}' depth (prettyMembers (depth + 1) members)

def prettyItems (depth : Nat) : List Json → List Text
  | [] => []
  | item :: items => prettyAt depth item :: prettyItems depth items

def prettyMembers (depth : Nat) : List (Text × Json) → List Text
  | [] => []
  | (name, value) :: members =>
    (quote name ++ ": " ++ prettyAt depth value) :: prettyMembers depth members

end

def pretty (json : Json) : Text := prettyAt 0 json

end Json
end CollectionScript
