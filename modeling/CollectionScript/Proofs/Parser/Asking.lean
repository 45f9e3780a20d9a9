import CollectionScript.Proofs.Parser.Failing
import CollectionScript.Proofs.Parser.Reads

/-! What reading a document asks of the environment, name by name: the references on its lines, up to the
line that it fails on. A line that gets as far as its references asks for all of them, whatever becomes of
it afterwards. -/
namespace CollectionScript

namespace Parser

variable {parser : Parser} {progress next : Progress} {lines front back : List Text} {line : Text} {e : Error}

/-- A reference that an override settles is not asked for; one on a line that fails is. -/
example :
    (parse { overrides := .ofList [("A", "a")] } "RUN $A\nOUTPUT ${B} $A $C\nRUN $D".toList).reads =
      ["B".toList, "C"] := by decide +kernel

end Parser
end CollectionScript
