import CollectionScript.Text

/-! The lines of a text. A line feed ends a line and takes one carriage return before it along; what
follows the last line feed is a line only if it is not empty, and is kept as it stands. -/
namespace CollectionScript
namespace Text

def dropReturn (t : Text) : Text := if t.getLast? = some '\r' then t.dropLast else t

/-- Lines from the pieces between line feeds. -/
def endLines : List Text → List Text
  | [] => []
  | [rest] => if rest = [] then [] else [rest]
  | piece :: next :: pieces => dropReturn piece :: endLines (next :: pieces)

def lines (t : Text) : List Text := endLines (t.splitOnP (· == '\n'))

@[simp] theorem lines_nil : lines [] = [] := rfl

end Text
end CollectionScript
