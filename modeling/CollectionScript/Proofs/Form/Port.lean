import CollectionScript.Proofs.Command.Rendering
import CollectionScript.Proofs.Schema.Supplying
import CollectionScript.Proofs.Text.Fields
import CollectionScript.Proofs.Text.Numeral

/-! Which ports a source can be given. A port is written as a numeral, with any number of zeros in front, and
every numeral of a port is taken; nothing else is, and no number that is too great comes back as another. -/
namespace CollectionScript
namespace Form

def IsPort (value : Text) (port : Nat) : Prop := Text.Numeral value port ∧ 1 ≤ port ∧ port ≤ 65535

def portFault (value : Text) : Error :=
  .invalidArgument "FROM" "port" ("'" ++ value ++ "' is not a port number")

/-- Reads a port as a number of sixteen bits other than zero. -/
def readPortBits (value : Text) : Except Error Nat :=
  match Text.sixteenBits? value with
  | some w => if w ≠ 0 then .ok w.toNat else .error (portFault value)
  | none => .error (portFault value)

variable {value : Text} {port : Nat}

theorem isPort_iff : IsPort value port ↔
    ((Text.natural? value).filter fun n => 1 ≤ n && n ≤ 65535) = some port := by
  rw [IsPort, Option.filter_eq_some_iff, Text.natural?_eq_some_iff]
  simp

theorem readPort_eq_ok_iff : readPort value = .ok port ↔ IsPort value port := by
  rw [isPort_iff, readPort]
  split
  · next n hn => simp [hn]
  · next hnone => simp [hnone]

theorem readPort_of_not_isPort (h : ∀ port, ¬ IsPort value port) :
    readPort value = .error (portFault value) := by
  rw [readPort]
  split
  · next n hn => exact absurd (isPort_iff.2 hn) (h n)
  · rfl

theorem isPort_decimal (hlow : 1 ≤ port) (hhigh : port ≤ 65535) : IsPort (Text.decimal port) port :=
  ⟨Text.natural?_eq_some_iff.1 (Text.natural?_decimal port), hlow, hhigh⟩

/-- Sixteen bits hold every port. -/
theorem isPort_iff_bits :
    IsPort value port ↔ ∃ w, Text.sixteenBits? value = some w ∧ w ≠ 0 ∧ w.toNat = port := by
  simp only [Text.sixteenBits?_eq_some_iff, IsPort]
  constructor
  · rintro ⟨hnumeral, hlow, hhigh⟩
    obtain ⟨w, rfl⟩ := Text.exists_toNat_eq (n := port) (by omega)
    refine ⟨w, hnumeral, ?_, rfl⟩
    rintro rfl
    simp at hlow
  · rintro ⟨w, hnumeral, hne, rfl⟩
    have hlt := w.toNat_lt
    have hpos : w.toNat ≠ 0 := fun hzero => hne (UInt16.toNat_inj.1 hzero)
    exact ⟨hnumeral, by omega, by omega⟩

theorem readPortBits_eq (value : Text) : readPortBits value = readPort value := by
  by_cases h : ∃ port, IsPort value port
  · obtain ⟨port, hport⟩ := h
    obtain ⟨w, hw, hne, rfl⟩ := isPort_iff_bits.1 hport
    rw [readPort_eq_ok_iff.2 hport, readPortBits, hw]
    exact if_pos hne
  · have hnone : ∀ port, ¬ IsPort value port := not_exists.1 h
    rw [readPort_of_not_isPort hnone, readPortBits]
    split
    · next w hw =>
      refine if_neg fun hne => hnone w.toNat ?_
      exact isPort_iff_bits.2 ⟨w, hw, hne, rfl⟩
    · rfl

theorem build_source {bindings : Bindings} {hosts : Text} (hhosts : bindings.get? "hosts" = some hosts)
    (hport : bindings.get? "port" = some value) :
    source.build bindings = (do
      let items ← readList "FROM" "hosts" hosts
      let port ← readPort value
      .ok (.source ⟨items, port⟩)) := by
  have hrequire : bindings.require "hosts" = .ok hosts := Command.require_of_get? hhosts
  simp only [source, preamble, hrequire, hport, except_ok_bind]

/-- A source with hosts, however they are given, and with a port is built with this port if the text is a
numeral of it, and is refused for the port otherwise. Every port can be given in decimal, and reading the
numeral into sixteen bits, where a number too great would wrap around if it were not refused, is the same. -/
theorem construct_source_port {first : Argument} {hosts value : Text} {arguments : List Argument}
    (hfirst : source.schema.Target first "hosts" hosts) (hhosts : ∃ c ∈ hosts, Text.isBlank c = false)
    (harguments : arguments.Perm [first, .written ("port:" ++ value)]) :
    (∀ command, (source.construct arguments).outcome = .ok command ↔
      ∃ port, IsPort value port ∧ command = .source ⟨Text.fields hosts, port⟩) ∧
    ((∀ port, ¬ IsPort value port) → (source.construct arguments).outcome = .error (portFault value)) ∧
    (∀ port, 1 ≤ port → port ≤ 65535 → value = Text.decimal port →
      (source.construct arguments).outcome = .ok (.source ⟨Text.fields hosts, port⟩)) ∧
    readPortBits value = readPort value ∧
    ∀ w, Text.sixteenBits? value = some w ↔ Text.Numeral value w.toNat := by
  have hport : source.schema.Target (.written ("port:" ++ value)) "port" value :=
    .named (.intro (p := ⟨"port", false, false⟩) (by decide) (by decide))
  have hsupplies : source.schema.Supplies [first, .written ("port:" ++ value)]
      [("hosts", hosts), ("port", value)] := .cons hfirst (.cons hport .nil)
  have hdistinct : ["hosts".toList, "port".toList].Nodup := by decide
  have hrequired : ∀ p ∈ source.schema.parameters, p.isRequired = true →
      p.name ∈ ["hosts".toList, "port".toList] := by decide
  obtain ⟨bindings, hbind, -, hget⟩ :=
    hsupplies.bind harguments (List.cons_ne_nil _ _) hdistinct hrequired source.keyword
  have hbuild := outcome_construct_of_bind hbind
  have hitems : readList "FROM" "hosts" hosts = .ok (Text.fields hosts) :=
    readList_of_ne_nil (Text.fields_ne_nil_iff.2 hhosts) _ _
  rw [build_source (hget "hosts") (hget "port"), hitems, except_ok_bind] at hbuild
  have hok (port : Nat) (h : IsPort value port) :
      (source.construct arguments).outcome = .ok (.source ⟨Text.fields hosts, port⟩) := by
    rw [hbuild, readPort_eq_ok_iff.2 h, except_ok_bind]
  refine ⟨fun command => ?_, fun hnone => ?_, fun port hlow hhigh hvalue => ?_, readPortBits_eq value,
    fun _ => Text.sixteenBits?_eq_some_iff⟩
  · constructor
    · intro hcommand
      rw [hbuild, except_bind_eq_ok_iff] at hcommand
      obtain ⟨port, hread, hcommand⟩ := hcommand
      exact ⟨port, readPort_eq_ok_iff.1 hread, (Except.ok.inj hcommand).symm⟩
    · rintro ⟨port, h, rfl⟩
      exact hok port h
  · rw [hbuild, readPort_of_not_isPort hnone]
    rfl
  · subst hvalue
    exact hok port (isPort_decimal hlow hhigh)

/-- The hosts come from a variable, and the port is the first argument. -/
theorem construct_source_port_first :
    source.schema.Target (.substituted "n1 a:b") "hosts" "n1 a:b" ∧
      (∃ c ∈ "n1 a:b".toList, Text.isBlank c = false) ∧
      [Argument.written "port:+00443", .substituted "n1 a:b"].Perm
        [.substituted "n1 a:b", .written "port:+00443"] ∧
      (source.construct [.written "port:+00443", .substituted "n1 a:b"]).outcome =
        .ok (.source ⟨["n1", "a:b"], 443⟩) := by
  have hfirst : source.schema.Target (.substituted "n1 a:b") "hosts" "n1 a:b" :=
    .default (p := ⟨"hosts", true, true⟩) (by rintro _ _ ⟨⟩) rfl
  have hhosts : ∃ c ∈ "n1 a:b".toList, Text.isBlank c = false := ⟨'n', by decide, by decide⟩
  have harguments : [Argument.written "port:+00443", .substituted "n1 a:b"].Perm
      [.substituted "n1 a:b", .written "port:+00443"] := .swap _ _ _
  have hport : IsPort "+00443" 443 := ⟨.signed (by decide) (List.all_eq_true.1 (by decide)), by decide, by decide⟩
  have hfields : Text.fields "n1 a:b" = ["n1".toList, "a:b".toList] := by decide +kernel
  have hconstruct := (construct_source_port hfirst hhosts harguments).1 (.source ⟨["n1", "a:b"], 443⟩)
  exact ⟨hfirst, hhosts, harguments, hconstruct.2 ⟨443, hport, by rw [hfields]⟩⟩

end Form
end CollectionScript
