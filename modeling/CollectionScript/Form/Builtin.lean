import CollectionScript.Form
import CollectionScript.Text.Numeral

/-! The built-in forms. -/
namespace CollectionScript
namespace Form

/-- The fields of a list value, of which there must be one. -/
def readList (command parameter value : Text) : Except Error (List Text) :=
  match Text.fields value with
  | [] => .error (.invalidArgument command parameter "expected at least one item")
  | items => .ok items

/-- A decimal number from 1 to 65535. -/
def readPort (value : Text) : Except Error Nat :=
  match (Text.natural? value).filter fun n => 1 ≤ n && n ≤ 65535 with
  | some port => .ok port
  | none => .error (.invalidArgument "FROM" "port" ("'" ++ value ++ "' is not a port number"))

/-- A variable's name, an equals sign and the value. -/
def readAssignment (item : Text) : Except Error Assignment :=
  match (Text.cut? '=' item).filter fun p => Variable.isName p.1 with
  | some (name, value) => .ok ⟨name, value⟩
  | none => .error (.invalidArgument "ENV" "vars" ("expected KEY=VALUE, got '" ++ item ++ "'"))

def readAssignments : List Text → Except Error (List Assignment)
  | [] => .ok []
  | item :: items => do
    let assignment ← readAssignment item
    let assignments ← readAssignments items
    .ok (assignment :: assignments)

def pathSchema : Schema := ⟨[⟨"path", true, true⟩]⟩

def output : Form := preamble "OUTPUT" pathSchema fun bindings => do
  .ok (.output (← bindings.require "path"))

def workdir : Form := preamble "WORKDIR" pathSchema fun bindings => do
  .ok (.workdir (← bindings.require "path"))

def source : Form :=
  preamble "FROM" ⟨[⟨"hosts", true, true⟩, ⟨"port", false, false⟩]⟩ fun bindings => do
    let hosts ← readList "FROM" "hosts" (← bindings.require "hosts")
    let port ← match bindings.get? "port" with
      | some value => readPort value
      | none => .ok Source.defaultPort
    .ok (.source ⟨hosts, port⟩)

def runAs : Form :=
  preamble "AS" ⟨[⟨"userid", true, true⟩, ⟨"groupid", false, false⟩]⟩ fun bindings => do
    .ok (.runAs ⟨← bindings.require "userid", bindings.get? "groupid"⟩)

def kubeconfig : Form := preamble "KUBECONFIG" pathSchema fun bindings => do
  .ok (.kubeconfig (← bindings.require "path"))

/-- Without a default, so that both values have to be named. -/
def login : Form :=
  preamble "AUTHCONFIG" ⟨[⟨"username", false, true⟩, ⟨"private-key", false, false⟩]⟩
    fun bindings => do
      .ok (.login ⟨← bindings.require "username", bindings.get? "private-key"⟩)

/-- The one preamble of which every occurrence is kept. -/
def exports : Form :=
  { preamble "ENV" ⟨[⟨"vars", true, true⟩]⟩ fun bindings => do
      let items ← readList "ENV" "vars" (← bindings.require "vars")
      .ok (.exports (← readAssignments items)) with
    cardinality := .multi }

def copy : Form := action "COPY" ⟨[⟨"paths", true, true⟩]⟩ fun bindings => do
  .ok (.copy (← readList "COPY" "paths" (← bindings.require "paths")))

def shellSchema : Schema := ⟨[⟨"cmd", true, true⟩, ⟨"shell", false, false⟩]⟩

def capture : Form := action "CAPTURE" shellSchema fun bindings => do
  .ok (.capture ⟨← bindings.require "cmd", bindings.get? "shell"⟩)

def run : Form := action "RUN" shellSchema fun bindings => do
  .ok (.run ⟨← bindings.require "cmd", bindings.get? "shell"⟩)

def builtins : List Form :=
  [output, workdir, source, runAs, kubeconfig, login, exports, copy, capture, run]

@[elab_as_elim]
theorem builtins_cases {motive : (form : Form) → form ∈ builtins → Prop}
    (output : motive Form.output (by simp [builtins]))
    (workdir : motive Form.workdir (by simp [builtins]))
    (source : motive Form.source (by simp [builtins]))
    (runAs : motive Form.runAs (by simp [builtins]))
    (kubeconfig : motive Form.kubeconfig (by simp [builtins]))
    (login : motive Form.login (by simp [builtins]))
    (exports : motive Form.exports (by simp [builtins]))
    (copy : motive Form.copy (by simp [builtins]))
    (capture : motive Form.capture (by simp [builtins]))
    (run : motive Form.run (by simp [builtins]))
    {form : Form} (h : form ∈ builtins) : motive form h := by
  have hform := h
  simp only [builtins, List.mem_cons, List.not_mem_nil, or_false] at hform
  rcases hform with rfl | rfl | rfl | rfl | rfl | rfl | rfl | rfl | rfl | rfl
  · exact output
  · exact workdir
  · exact source
  · exact runAs
  · exact kubeconfig
  · exact login
  · exact exports
  · exact copy
  · exact capture
  · exact run

end Form
end CollectionScript
