import CollectionScript.Proofs.Form.Builtin
import CollectionScript.Proofs.Form.Values
import CollectionScript.Proofs.Schema.Named
import CollectionScript.Proofs.Word.Quoting
import CollectionScript.Proofs.Word.Reading

/-! Writing commands down: the keyword, and every value in quotes after the name of its parameter. -/
namespace CollectionScript

/-- A name that can be written without quotes, and that no comment or reference starts with. -/
def Text.IsBare (t : Text) : Prop :=
  t ≠ [] ∧ Word.Plain t ∧ ':' ∉ t ∧ t.head? ≠ some '$' ∧ t.head? ≠ some '#'

instance (t : Text) : Decidable (Text.IsBare t) := inferInstanceAs (Decidable (_ ∧ _))

theorem Form.isBare {form : Form} (h : form ∈ Form.builtins) :
    Text.IsBare form.keyword ∧ ∀ p ∈ form.schema.parameters, Text.IsBare p.name := by
  cases h using builtins_cases <;> decide

namespace Command

def form : Command → Form
  | .output _ => .output
  | .workdir _ => .workdir
  | .source _ => .source
  | .runAs _ => .runAs
  | .kubeconfig _ => .kubeconfig
  | .login _ => .login
  | .exports _ => .exports
  | .copy _ => .copy
  | .capture _ => .capture
  | .run _ => .run

def optional (name : Text) (value : Option Text) : List (Text × Text) :=
  value.toList.map fun value => (name, value)

/-- The parameters that have a value, and the values. -/
def fields : Command → List (Text × Text)
  | .output path => [("path", path)]
  | .workdir path => [("path", path)]
  | .source ⟨hosts, port⟩ => [("hosts", [' '].intercalate hosts), ("port", Text.decimal port)]
  | .runAs ⟨user, group⟩ => ("userid", user) :: optional "groupid" group
  | .kubeconfig path => [("path", path)]
  | .login ⟨username, key⟩ => ("username", username) :: optional "private-key" key
  | .exports assignments => [("vars", [' '].intercalate (assignments.map Assignment.item))]
  | .copy paths => [("paths", [' '].intercalate paths)]
  | .capture ⟨text, shell⟩ => ("cmd", text) :: optional "shell" shell
  | .run ⟨text, shell⟩ => ("cmd", text) :: optional "shell" shell

def WellFormed : Command → Prop
  | .source ⟨hosts, port⟩ => hosts ≠ [] ∧ (∀ host ∈ hosts, Text.IsItem host) ∧ 1 ≤ port ∧ port ≤ 65535
  | .exports assignments => assignments ≠ [] ∧
    ∀ a ∈ assignments, Variable.isName a.name = true ∧ Text.Unbroken a.value
  | .copy paths => paths ≠ [] ∧ ∀ path ∈ paths, Text.IsItem path
  | _ => True

instance (command : Command) : Decidable command.WellFormed :=
  match command with
  | .source _ | .exports _ | .copy _ => inferInstanceAs (Decidable (_ ∧ _))
  | .output _ | .workdir _ | .runAs _ | .kubeconfig _ | .login _ | .capture _ | .run _ =>
    inferInstanceAs (Decidable True)

def render (command : Command) : Text :=
  command.keyword ++ command.fields.flatMap fun field =>
    ' ' :: (field.1 ++ ':' :: Word.quote field.2)

theorem form_mem (command : Command) : command.form ∈ Form.builtins := by
  cases command <;> simp [form, Form.builtins]

theorem keyword_form (command : Command) : command.form.keyword = command.keyword := by
  cases command <;> rfl

theorem fits_of_names (schema : Schema) {fields : List (Text × Text)} (names : List Text)
    (hnames : fields.map (·.1) = names)
    (h : names ≠ [] ∧ names.Nodup ∧
      (∀ name ∈ names, ':' ∉ name ∧ ∃ p ∈ schema.parameters, p.name = name) ∧
      ∀ p ∈ schema.parameters, p.isRequired = true → p.name ∈ names) : schema.Fits fields where
  ne_nil := by
    rintro rfl
    exact h.1 hnames.symm
  distinct := hnames ▸ h.2.1
  declared field hfield := h.2.2.1 field.1 (hnames ▸ List.mem_map_of_mem hfield)
  required := hnames ▸ h.2.2.2

theorem fits (command : Command) : command.form.schema.Fits command.fields := by
  cases command with
  | output | workdir | kubeconfig => exact fits_of_names Form.pathSchema ["path"] rfl (by decide)
  | source => exact fits_of_names Form.source.schema ["hosts", "port"] rfl (by decide)
  | exports => exact fits_of_names Form.exports.schema ["vars"] rfl (by decide)
  | copy => exact fits_of_names Form.copy.schema ["paths"] rfl (by decide)
  | runAs identity =>
    obtain ⟨user, group⟩ := identity
    cases group with
    | none => exact fits_of_names Form.runAs.schema ["userid"] rfl (by decide)
    | some => exact fits_of_names Form.runAs.schema ["userid", "groupid"] rfl (by decide)
  | login login =>
    obtain ⟨username, key⟩ := login
    cases key with
    | none => exact fits_of_names Form.login.schema ["username"] rfl (by decide)
    | some => exact fits_of_names Form.login.schema ["username", "private-key"] rfl (by decide)
  | capture call | run call =>
    obtain ⟨text, shell⟩ := call
    cases shell with
    | none => exact fits_of_names Form.shellSchema ["cmd"] rfl (by decide)
    | some => exact fits_of_names Form.shellSchema ["cmd", "shell"] rfl (by decide)

theorem isBare_keyword (command : Command) : Text.IsBare command.keyword := by
  rw [← keyword_form]
  exact (Form.isBare command.form_mem).1

theorem isBare_of_mem_fields {command : Command} {field : Text × Text}
    (h : field ∈ command.fields) : Text.IsBare field.1 := by
  obtain ⟨-, p, hp, hname⟩ := command.fits.declared field h
  rw [← hname]
  exact (Form.isBare command.form_mem).2 p hp

/-- The word of a field, as it is written and as it is read. -/
theorem spells_field {command : Command} {field : Text × Text} (h : field ∈ command.fields) :
    Word.Spells (field.1 ++ ':' :: Word.quote field.2) (field.1 ++ ':' :: field.2) := by
  obtain ⟨-, hplain, -⟩ := isBare_of_mem_fields h
  have hcolon : Word.Plain (field.1 ++ [':']) := by
    intro c hc
    rcases List.mem_append.1 hc with hc | hc
    · exact hplain c hc
    · obtain rfl := List.mem_singleton.1 hc
      decide
  have hspells := hcolon.spells_append_quote field.2
  rw [List.append_assoc, List.append_assoc] at hspells
  exact hspells

theorem words_render (command : Command) :
    words command.render =
      .ok (command.keyword :: command.fields.map fun field => field.1 ++ ':' :: field.2) := by
  obtain ⟨hne, hplain, -⟩ := command.isBare_keyword
  have hfields : ∀ p ∈ command.fields.map fun field =>
      (field.1 ++ ':' :: Word.quote field.2, field.1 ++ ':' :: field.2), Word.Spells p.1 p.2 := by
    intro p hp
    obtain ⟨field, hfield, rfl⟩ := List.mem_map.1 hp
    exact spells_field hfield
  have hspaced := (hplain.spells hne).spaced hfields
  rw [List.flatMap_map, List.map_map] at hspaced
  exact words_of_line (.of_spaced hspaced)

theorem require_of_get? {bindings : Bindings} {name value : Text}
    (h : bindings.get? name = some value) : bindings.require name = .ok value := by
  simp only [Bindings.require, h]

theorem lookup_optional (name : Text) (value : Option Text) : (optional name value).lookup name = value := by
  cases value with
  | none => rfl
  | some value => exact List.lookup_cons_self

theorem build_fields {command : Command} (h : command.WellFormed) {bindings : Bindings}
    (hget : ∀ name, bindings.get? name = command.fields.lookup name) :
    command.form.build bindings = .ok command := by
  cases command with
  | output path =>
    have hpath : bindings.require "path" = .ok path := require_of_get? (hget _)
    simp only [form, Form.output, Form.preamble, hpath, except_ok_bind]
  | workdir path =>
    have hpath : bindings.require "path" = .ok path := require_of_get? (hget _)
    simp only [form, Form.workdir, Form.preamble, hpath, except_ok_bind]
  | source source =>
    obtain ⟨hosts, port⟩ := source
    obtain ⟨hne, hitems, hlow, hhigh⟩ := h
    have hhosts : bindings.require "hosts" = .ok ([' '].intercalate hosts) :=
      require_of_get? (hget _)
    have hport : bindings.get? "port" = some (Text.decimal port) := hget _
    simp only [form, Form.source, Form.preamble, hhosts, hport, except_ok_bind,
      Form.readList_intercalate hne hitems, Form.readPort_decimal hlow hhigh]
  | runAs identity =>
    obtain ⟨user, group⟩ := identity
    have huser : bindings.require "userid" = .ok user := require_of_get? (hget _)
    have hgroup : bindings.get? "groupid" = group := (hget _).trans (lookup_optional "groupid" group)
    simp only [form, Form.runAs, Form.preamble, huser, hgroup, except_ok_bind]
  | kubeconfig path =>
    have hpath : bindings.require "path" = .ok path := require_of_get? (hget _)
    simp only [form, Form.kubeconfig, Form.preamble, hpath, except_ok_bind]
  | login login =>
    obtain ⟨username, key⟩ := login
    have husername : bindings.require "username" = .ok username := require_of_get? (hget _)
    have hkey : bindings.get? "private-key" = key := (hget _).trans (lookup_optional "private-key" key)
    simp only [form, Form.login, Form.preamble, husername, hkey, except_ok_bind]
  | exports assignments =>
    obtain ⟨hne, hassignments⟩ := h
    have hvars : bindings.require "vars" =
        .ok ([' '].intercalate (assignments.map Assignment.item)) := require_of_get? (hget _)
    have hitems : ∀ item ∈ assignments.map Assignment.item, Text.IsItem item := by
      intro item hitem
      obtain ⟨a, ha, rfl⟩ := List.mem_map.1 hitem
      exact Form.isItem_item (hassignments a ha).1 (hassignments a ha).2
    have hne' : assignments.map Assignment.item ≠ [] := by simpa using hne
    have hnames : ∀ a ∈ assignments, Variable.isName a.name = true := fun a ha =>
      (hassignments a ha).1
    simp only [form, Form.exports, Form.preamble, hvars, except_ok_bind,
      Form.readList_intercalate hne' hitems, Form.readAssignments_items hnames]
  | copy paths =>
    obtain ⟨hne, hitems⟩ := h
    have hpaths : bindings.require "paths" = .ok ([' '].intercalate paths) :=
      require_of_get? (hget _)
    simp only [form, Form.copy, Form.action, hpaths, except_ok_bind,
      Form.readList_intercalate hne hitems]
  | capture call =>
    obtain ⟨text, shell⟩ := call
    have htext : bindings.require "cmd" = .ok text := require_of_get? (hget _)
    have hshell : bindings.get? "shell" = shell := (hget _).trans (lookup_optional "shell" shell)
    simp only [form, Form.capture, Form.action, htext, hshell, except_ok_bind]
  | run call =>
    obtain ⟨text, shell⟩ := call
    have htext : bindings.require "cmd" = .ok text := require_of_get? (hget _)
    have hshell : bindings.get? "shell" = shell := (hget _).trans (lookup_optional "shell" shell)
    simp only [form, Form.run, Form.action, htext, hshell, except_ok_bind]

theorem construct_fields {command : Command} (h : command.WellFormed) :
    (command.form.construct (command.fields.map .named)).outcome = .ok command := by
  obtain ⟨bindings, hbind, -, hget⟩ := command.fits.bind command.form.keyword
  rw [Form.outcome_construct_of_bind hbind]
  exact build_fields h hget

def OneLine (command : Command) : Prop := ∀ field ∈ command.fields, '\n' ∉ field.2

instance (command : Command) : Decidable command.OneLine := List.decidableBAll _ command.fields

theorem exists_cons_render (command : Command) :
    ∃ c r, command.render = c :: r ∧ Text.isBlank c = false ∧ c ≠ '#' := by
  obtain ⟨hne, hplain, -, -, hhash⟩ := command.isBare_keyword
  obtain ⟨c, r, hkeyword⟩ := List.exists_cons_of_ne_nil hne
  rw [hkeyword] at hplain hhash
  refine ⟨c, _, by rw [render, hkeyword, List.cons_append], (hplain c List.mem_cons_self).1, ?_⟩
  simpa using hhash

theorem getLast?_render (command : Command) : command.render.getLast? = some '"' := by
  obtain ⟨front, field, hfields⟩ : ∃ front field, command.fields = front ++ [field] := by
    rcases List.eq_nil_or_concat command.fields with hnil | hconcat
    · exact absurd hnil command.fits.ne_nil
    · simpa using hconcat
  have hsplit : command.render = command.keyword ++ front.flatMap (fun field =>
      ' ' :: (field.1 ++ ':' :: Word.quote field.2)) ++ (' ' :: field.1 ++ [':']) ++
        Word.quote field.2 := by
    simp [render, hfields]
  rw [hsplit, List.getLast?_append, Word.getLast?_quote]
  rfl

theorem newline_not_mem_render {command : Command} (h : command.OneLine) :
    '\n' ∉ command.render := by
  have hbare : ∀ {t : Text}, Text.IsBare t → '\n' ∉ t := by
    intro t ht hmem
    exact absurd (ht.2.1 '\n' hmem).1 (by decide)
  intro hmem
  rcases List.mem_append.1 hmem with hkeyword | hfields
  · exact hbare command.isBare_keyword hkeyword
  · obtain ⟨field, hfield, hmem⟩ := List.mem_flatMap.1 hfields
    simp only [List.mem_cons, List.mem_append, Char.reduceEq, false_or] at hmem
    rcases hmem with hname | hvalue
    · exact hbare (isBare_of_mem_fields hfield) hname
    · have hquote : '\n' ∈ field.2 := by simpa using Word.mem_of_mem_quote hvalue
      exact h field hfield hquote

def renderAll (commands : List Command) : Text := ['\n'].intercalate (commands.map render)

theorem lines_renderAll {commands : List Command} (h : ∀ command ∈ commands, command.OneLine) :
    Text.lines (renderAll commands) = commands.map render := by
  refine Text.lines_intercalate ?_ ?_
  · intro t ht
    obtain ⟨command, hcommand, rfl⟩ := List.mem_map.1 ht
    exact newline_not_mem_render (h command hcommand)
  · intro t ht
    obtain ⟨command, -, rfl⟩ := List.mem_map.1 ht
    obtain ⟨c, r, hrender, -⟩ := command.exists_cons_render
    constructor
    · rw [hrender]
      exact List.cons_ne_nil c r
    · rw [getLast?_render]
      decide

end Command
end CollectionScript
