import CollectionScript.Main
import CollectionScript.Parser.Description
import CollectionScript.Proofs.CommandLine.Program
import CollectionScript.Proofs.Declarations.Inserting
import CollectionScript.Proofs.Parser.Asking
import CollectionScript.Proofs.Parser.Blocks
import CollectionScript.Proofs.Parser.Concealment
import CollectionScript.Proofs.Parser.Lasting
import CollectionScript.Proofs.Parser.Layout
import CollectionScript.Proofs.Parser.Limiting
import CollectionScript.Proofs.Parser.Naming
import CollectionScript.Proofs.Parser.Printing
import CollectionScript.Proofs.Parser.Redeclaring
import CollectionScript.Proofs.Parser.Rendering
import CollectionScript.Proofs.Parser.Secrecy
import CollectionScript.Proofs.Parser.Trace
import CollectionScript.Proofs.Parser.WellFormed
import CollectionScript.Proofs.Schema.Reordering
import CollectionScript.Proofs.Schema.Respelling
import CollectionScript.Proofs.Script.Json
import CollectionScript.Proofs.Vocabulary.History
import CollectionScript.Proofs.Word.Writing
import CollectionScript.Proofs.Text.Capitals
import CollectionScript.Proofs.Word.Calls
import CollectionScript.Proofs.Word.Joining
import CollectionScript.Proofs.Log.Hiding
import CollectionScript.Proofs.Text.Boundary
import CollectionScript.Proofs.Log.Cutting
import CollectionScript.Proofs.Log.Lines
import CollectionScript.Proofs.Form.Exports
import CollectionScript.Proofs.Form.Port
import CollectionScript.Proofs.Log.Entropy
import CollectionScript.Proofs.Word.Sizes
import CollectionScript.Proofs.Parser.Keywords
