import CollectionScript.Text

/-! White space, by the Unicode property White_Space, and the two ways of doing without it: trimming a
text and splitting it into fields. -/
namespace CollectionScript
namespace Text

def blankRuns : List (Nat × Nat) :=
  [(0x09, 0x0D), (0x20, 0x20), (0x85, 0x85), (0xA0, 0xA0), (0x1680, 0x1680), (0x2000, 0x200A),
    (0x2028, 0x2029), (0x202F, 0x202F), (0x205F, 0x205F), (0x3000, 0x3000)]

def isBlank (c : Char) : Bool := inRuns blankRuns c

def trimStart (t : Text) : Text := t.dropWhile isBlank

def trim (t : Text) : Text := (trimStart (trimStart t).reverse).reverse

/-- The maximal pieces without white space, in order. -/
def fields (t : Text) : List Text := (t.splitOnP isBlank).filter (· ≠ [])

theorem ne_nil_of_mem_fields {t f : Text} (h : f ∈ fields t) : f ≠ [] := by
  simpa using (List.mem_filter.1 h).2

end Text
end CollectionScript
