import CollectionScript.Proofs.Parser.Steps
import CollectionScript.Proofs.Script.Overwriting
import CollectionScript.Proofs.Schema.Alike

/-! Two readings side by side, line by line. Where the lines of each pair log the same and give commands of
one form, the readings as a whole log the same: what the log tells of a script depends on its forms only.
Any failure may end one of the two earlier. -/
namespace CollectionScript

namespace Script

def Alike (script script' : Script) : Prop :=
  ∀ keyword, script.preambles.get keyword = [] ↔ script'.preambles.get keyword = []

variable {script script' : Script} {form : Form}

theorem Alike.clashes_iff (h : script.Alike script') : script.Clashes form ↔ script'.Clashes form := by
  simp only [Clashes, Ne, h form.keyword]

theorem Alike.store (h : script.Alike script') (form : Form) (command command' : Command) :
    (script.store form command).Alike (script'.store form command') := by
  intro keyword
  rw [get_store, get_store]
  split
  · exact iff_of_false (keep_ne_nil _ _ _) (keep_ne_nil _ _ _)
  · exact h keyword

/-- What is logged when a command is added does not depend on the command. -/
theorem Alike.add {excused : Error → Prop} (h : script.Alike script') (form : Form)
    (command command' : Command) :
    Run.Alike excused Alike (script.add form command) (script'.add form command') := by
  have hstore := h.store form command command'
  by_cases hclash : script.Clashes form
  · rw [add_of_clashes hclash, add_of_clashes (h.clashes_iff.1 hclash)]
    cases form.redeclare with
    | reject => exact .fail (.refl _)
    | overwrite => exact (Run.Alike.emit _).bind fun _ _ _ => .pure hstore
  · rw [add_of_not_clashes hclash, add_of_not_clashes (mt h.clashes_iff.2 hclash)]
    exact .pure hstore

end Script

namespace Parser

/-- Two lines that log the same and give commands of one form, or none. -/
def ReadsAlike (p q : Parser) (line line' : Text) : Prop :=
  Run.Alike (fun _ => True) (fun bound bound' => bound.map (·.1) = bound'.map (·.1)) (p.bindLine line)
    (q.bindLine line')

structure Progress.Alike (progress progress' : Progress) : Prop where
  commands_eq : progress.commands = progress'.commands
  script : progress.script.Alike progress'.script

variable {p q : Parser} {progress progress' : Progress} {line line' : Text} {lines lines' : List Text}

theorem ReadsAlike.alike_readLine (h : p.ReadsAlike q line line') (hlimits : p.limits = q.limits)
    (hprogress : progress.Alike progress') :
    Run.Alike (fun _ => True) Progress.Alike (p.readLine progress line) (q.readLine progress' line') := by
  rw [readLine, readLine, ← hlimits, hprogress.commands_eq]
  refine Run.Alike.bind h fun bound bound' hbound => ?_
  cases bound with
  | none =>
    cases bound' with
    | none => exact .pure hprogress
    | some found' => cases hbound
  | some found =>
    cases bound' with
    | none => cases hbound
    | some found' =>
      obtain ⟨form, command⟩ := found
      obtain ⟨form', command'⟩ := found'
      obtain rfl : form = form' := Option.some.inj hbound
      refine (Run.Alike.ofExcept (.same _)).bind fun _ _ _ => ?_
      exact (hprogress.script.add form command command').bind fun _ _ hscript => .pure ⟨rfl, hscript⟩

theorem alike_readFrom (hlimits : p.limits = q.limits) (hlines : List.Forall₂ (p.ReadsAlike q) lines lines')
    (hprogress : progress.Alike progress') (number : Nat) :
    Run.Alike (fun _ => True) Script.Alike (p.readFrom number progress lines)
      (q.readFrom number progress' lines') := by
  induction hlines generalizing number progress progress' with
  | nil =>
    rw [readFrom_nil, readFrom_nil]
    exact .pure hprogress.script
  | cons h _ ih =>
    rw [readFrom_cons, readFrom_cons]
    exact ((h.alike_readLine hlimits hprogress).atLine number).bind fun _ _ hnext => ih hnext (number + 1)

/-- Before its lines a document logs their number and its size. -/
theorem alike_parse {source source' : Text} (hlimits : p.limits = q.limits)
    (hsize : source.byteSize = source'.byteSize)
    (hlines : List.Forall₂ (p.ReadsAlike q) (Text.lines source) (Text.lines source')) :
    Run.Alike (fun _ => True) Script.Alike (p.parse source) (q.parse source') := by
  have hstart : Progress.Alike {} {} := ⟨rfl, fun _ => Iff.rfl⟩
  rw [parse, parse, hsize, hlines.length_eq]
  exact (Run.Alike.emit _).bind fun _ _ _ => alike_readFrom hlimits hlines hstart 1

end Parser
end CollectionScript
