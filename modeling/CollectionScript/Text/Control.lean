import CollectionScript.Text

/-! Control characters, and the rendering of a text that keeps it on one line. -/
namespace CollectionScript
namespace Text

/-- The general category Cc. -/
def isControl (c : Char) : Bool := inRuns [(0x00, 0x1F), (0x7F, 0x9F)] c

/-- Every `c` of the text becomes `s`. -/
def replace (c : Char) (s t : Text) : Text := t.flatMap fun d => if d = c then s else [d]

/-- Line ends and tabs are spelled out; every other control character is dropped. -/
def oneLine (t : Text) : Text :=
  (replace '\t' "\\t" (replace '\r' "\\r" (replace '\n' "\\n" t))).filter (!isControl ·)

theorem not_isControl_of_mem_oneLine {t : Text} {c : Char} (h : c ∈ oneLine t) :
    isControl c = false := by
  simpa using (List.mem_filter.1 h).2

end Text
end CollectionScript
