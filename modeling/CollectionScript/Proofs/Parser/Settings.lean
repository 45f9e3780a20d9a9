import CollectionScript.Proofs.Form.Builtin
import CollectionScript.Proofs.Parser.Outcome

/-! The settings of a script that has been read, in terms of the commands that stand under each keyword in
the order of the lines. -/
namespace CollectionScript

namespace Script

/-- Every setting is that of the last command under its keyword, or the default; the assignments of all
commands are taken together. -/
structure ReadsOff (script : Script) (under : Text → List Command) : Prop where
  output : ∃ paths : List Text, under "OUTPUT" = paths.map .output ∧
    script.output = paths.getLast?.getD "out.tar.gz"
  workdir : ∃ paths : List Text, under "WORKDIR" = paths.map .workdir ∧
    script.workdir = paths.getLast?.getD "/tmp/crashdir"
  source : ∃ sources : List Source, under "FROM" = sources.map .source ∧
    script.source? = sources.getLast? ∧
    script.hosts = (sources.getLast?.map (·.hosts)).getD ["local".toList] ∧
    script.port = (sources.getLast?.map (·.port)).getD 22
  identity : ∃ identities : List Identity, under "AS" = identities.map .runAs ∧
    script.identity? = identities.getLast?
  login : ∃ logins : List Login, under "AUTHCONFIG" = logins.map .login ∧
    script.login? = logins.getLast?
  kubeconfig : ∃ paths : List Text, under "KUBECONFIG" = paths.map .kubeconfig ∧
    ∀ parser : Parser, (parser.kubeconfig script).outcome = .ok (paths.getLast?.getD
      (homeKubeconfig (((parser.overrides.get? "HOME").or (parser.environment "HOME")).getD [])))
  exports : ∃ groups : List (List Assignment), under "ENV" = groups.map .exports ∧
    script.exports = groups.flatten

/-- What stands under the keyword of a preamble once the commands of that keyword are stored. -/
def Keeps (script : Script) (form : Form) (commands : List Command) : Prop :=
  script.preambles.get form.keyword =
    match form.cardinality with
    | .multi => commands
    | .singleton => commands.getLast?.toList

variable {script : Script} {form : Form} {under : Text → List Command}

theorem Keeps.last?_eq {commands : List Command} (h : script.Keeps form commands) :
    script.last? form.keyword = commands.getLast? := by
  rw [last?, h]
  cases form.cardinality with
  | multi => rfl
  | singleton => cases commands.getLast? <;> rfl

theorem exists_eq_map {α : Type} {commands : List Command} {make : α → Command}
    (h : ∀ command ∈ commands, ∃ a, command = make a) : ∃ as : List α, commands = as.map make := by
  induction commands with
  | nil => exact ⟨[], rfl⟩
  | cons command commands ih =>
    obtain ⟨hcommand, hcommands⟩ := List.forall_mem_cons.1 h
    obtain ⟨a, rfl⟩ := hcommand
    obtain ⟨as, rfl⟩ := ih hcommands
    exact ⟨a :: as, rfl⟩

section
variable (hunder : ∀ keyword, ∀ command ∈ under keyword, command.keyword = keyword)

include hunder

theorem exists_under_eq_map {α : Type} (form : Form) {make : α → Command}
    (hmake : ∀ command : Command, command.keyword = form.keyword → ∃ a, command = make a) :
    ∃ as : List α, under form.keyword = as.map make :=
  exists_eq_map fun command hcommand => hmake command (hunder _ command hcommand)

variable (hkeeps : ∀ form ∈ Form.builtins, form.role = .preamble → script.Keeps form (under form.keyword))

include hkeeps

/-- What is read off the command that is kept is read off the last of all of them. -/
theorem exists_setting {α β : Type} (form : Form) (hform : form ∈ Form.builtins ∧ form.role = .preamble)
    {make : α → Command} (hmake : ∀ command : Command, command.keyword = form.keyword → ∃ a, command = make a)
    {setting : β} (value : Option α → β)
    (hsetting : ∀ last? : Option α, script.last? form.keyword = last?.map make → setting = value last?) :
    ∃ as : List α, under form.keyword = as.map make ∧ setting = value as.getLast? := by
  obtain ⟨as, has⟩ := exists_under_eq_map hunder form hmake
  refine ⟨as, has, hsetting _ ?_⟩
  rw [(hkeeps form hform.1 hform.2).last?_eq, has, List.getLast?_map]

theorem readsOff_of_keeps : script.ReadsOff under where
  output := by
    refine exists_setting hunder hkeeps .output ⟨by simp [Form.builtins], rfl⟩
      (fun | .output path, _ => ⟨path, rfl⟩) (·.getD "out.tar.gz")
      fun last? (hlast : script.last? "OUTPUT" = _) => ?_
    rw [Script.output, hlast]
    cases last? <;> rfl
  workdir := by
    refine exists_setting hunder hkeeps .workdir ⟨by simp [Form.builtins], rfl⟩
      (fun | .workdir path, _ => ⟨path, rfl⟩) (·.getD "/tmp/crashdir")
      fun last? (hlast : script.last? "WORKDIR" = _) => ?_
    rw [Script.workdir, hlast]
    cases last? <;> rfl
  source := by
    have hsource : ∃ sources : List Source, under "FROM" = sources.map .source ∧
        script.source? = sources.getLast? := by
      refine exists_setting hunder hkeeps .source ⟨by simp [Form.builtins], rfl⟩
        (fun | .source source, _ => ⟨source, rfl⟩) id fun last? (hlast : script.last? "FROM" = _) => ?_
      rw [source?, hlast]
      cases last? <;> rfl
    obtain ⟨sources, hsources, hsource⟩ := hsource
    refine ⟨sources, hsources, hsource, ?_, ?_⟩
    · rw [hosts, hsource]
      cases sources.getLast? <;> rfl
    · rw [port, hsource]
      cases sources.getLast? <;> rfl
  identity := by
    refine exists_setting hunder hkeeps .runAs ⟨by simp [Form.builtins], rfl⟩
      (fun | .runAs identity, _ => ⟨identity, rfl⟩) id fun last? (hlast : script.last? "AS" = _) => ?_
    rw [identity?, hlast]
    cases last? <;> rfl
  login := by
    refine exists_setting hunder hkeeps .login ⟨by simp [Form.builtins], rfl⟩
      (fun | .login login, _ => ⟨login, rfl⟩) id fun last? (hlast : script.last? "AUTHCONFIG" = _) => ?_
    rw [login?, hlast]
    cases last? <;> rfl
  kubeconfig := by
    have hpath : ∃ paths : List Text, under "KUBECONFIG" = paths.map .kubeconfig ∧
        script.kubeconfig? = paths.getLast? := by
      refine exists_setting hunder hkeeps .kubeconfig ⟨by simp [Form.builtins], rfl⟩
        (fun | .kubeconfig path, _ => ⟨path, rfl⟩) id fun last? (hlast : script.last? "KUBECONFIG" = _) => ?_
      rw [kubeconfig?, hlast]
      cases last? <;> rfl
    obtain ⟨paths, hpaths, hpath⟩ := hpath
    refine ⟨paths, hpaths, fun parser => ?_⟩
    rw [Parser.kubeconfig, hpath]
    cases paths.getLast? with
    | none => exact Run.outcome_bind_of_ok (parser.outcome_lookup "HOME") _
    | some path => rfl
  exports := by
    obtain ⟨groups, hgroups⟩ := exists_under_eq_map hunder .exports fun | .exports group, _ => ⟨group, rfl⟩
    have hget : script.preambles.get "ENV" = groups.map .exports :=
      (hkeeps Form.exports (by simp [Form.builtins]) rfl).trans hgroups
    refine ⟨groups, hgroups, ?_⟩
    rw [Script.exports, hget, List.flatMap_map]
    exact List.flatMap_id

end

end Script
end CollectionScript
