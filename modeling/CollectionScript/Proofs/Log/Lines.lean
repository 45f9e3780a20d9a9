import CollectionScript.Proofs.Log.Rendering

/-! How a line of the script is put into the log. The text is gone over four times, three times to replace a
character and once to drop the rest of the control characters; that comes to one pass, in which every
character is spelled for itself. What has been spelled out holds nothing that would be spelled otherwise. -/
namespace CollectionScript
namespace Text

def spelled (c : Char) : Text :=
  if c = '\n' then ['\\', 'n']
  else if c = '\r' then ['\\', 'r']
  else if c = '\t' then ['\\', 't']
  else if isControl c then []
  else [c]

@[simp] theorem oneLine_nil : oneLine [] = [] := rfl

theorem oneLine_append (s t : Text) : oneLine (s ++ t) = oneLine s ++ oneLine t := by
  simp [oneLine, replace]

/-- A backslash that one replacement puts in is out of reach for the next ones. -/
theorem oneLine_singleton (c : Char) : oneLine [c] = spelled c := by
  by_cases hfeed : c = '\n'
  · subst hfeed
    decide
  by_cases hreturn : c = '\r'
  · subst hreturn
    decide
  by_cases htab : c = '\t'
  · subst htab
    decide
  cases hcontrol : isControl c <;>
    simp [oneLine, replace, spelled, hfeed, hreturn, htab, hcontrol]

theorem oneLine_eq_flatMap (t : Text) : oneLine t = t.flatMap spelled := by
  induction t with
  | nil => rfl
  | cons c t ih =>
    rw [← List.singleton_append, oneLine_append, oneLine_singleton, ih, List.flatMap_append,
      List.flatMap_singleton]

theorem spelled_of_not_isControl {c : Char} (h : isControl c = false) : spelled c = [c] := by
  have hne : ∀ d, isControl d = true → c ≠ d := by
    rintro d hd rfl
    rw [h] at hd
    cases hd
  simp [spelled, h, hne '\n' (by decide), hne '\r' (by decide), hne '\t' (by decide)]

theorem Printable.oneLine_eq {t : Text} (h : t.Printable) : oneLine t = t := by
  rw [oneLine_eq_flatMap]
  induction t with
  | nil => rfl
  | cons c t ih =>
    obtain ⟨hc, ht⟩ := List.forall_mem_cons.1 h
    rw [List.flatMap_cons, spelled_of_not_isControl hc, ih ht, List.singleton_append]

end Text

namespace LogPolicy

theorem renderLine_of_hidden {policy : LogPolicy} (h : policy.showsLines = false) (line : Text) :
    policy.renderLine line = "[" ++ Text.decimal line.byteSize ++ " bytes]" := by
  rw [renderLine, if_neg]
  simp [h]

/-- Putting a text on one line is a single pass over its characters: it leaves no control character, works on
the parts of a text alone, changes nothing where there is nothing to change, and so nothing a second time. A
line in the log has no control character either, cut or not, and is told by its size alone unless lines are
shown. -/
theorem renderLine_one_line :
    (∀ t, Text.oneLine t = t.flatMap Text.spelled) ∧
    (∀ t, (Text.oneLine t).Printable) ∧
    (∀ s t, Text.oneLine (s ++ t) = Text.oneLine s ++ Text.oneLine t) ∧
    (∀ t : Text, t.Printable → Text.oneLine t = t) ∧
    (∀ t, Text.oneLine (Text.oneLine t) = Text.oneLine t) ∧
    ∀ policy : LogPolicy,
      (∀ line, (policy.renderLine line).Printable) ∧
      (policy.showsLines = false → ∀ line line' : Text, line.byteSize = line'.byteSize →
        policy.renderLine line = policy.renderLine line') := by
  refine ⟨Text.oneLine_eq_flatMap, Text.printable_oneLine, Text.oneLine_append,
    fun _ h => h.oneLine_eq, fun t => (Text.printable_oneLine t).oneLine_eq,
    fun policy => ⟨printable_renderLine policy, fun h line line' hsize => ?_⟩⟩
  rw [renderLine_of_hidden h, renderLine_of_hidden h, hsize]

/-- Backslashes of the text stay as they are. -/
example : Text.oneLine "a\\n\n[ERROR] forged\x07\té".toList = "a\\n\\n[ERROR] forged\\té".toList := by
  decide +kernel

end LogPolicy
end CollectionScript
