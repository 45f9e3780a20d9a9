import CollectionScript.Text.Hidden

/-! Texts as literals: between double quotes, with escapes for what cannot be seen in print. -/
namespace CollectionScript
namespace Text

/-- A code point as `\u`, braces and hexadecimal digits, without leading zeros. -/
def codePoint (c : Char) : Text := "\\u\x7b" ++ Nat.toDigits 16 c.toNat ++ "\x7d"

def quotedChar (c : Char) : Text :=
  if c = '"' then "\\\""
  else if c = '\\' then "\\\\"
  else if c = '\n' then "\\n"
  else if c = '\r' then "\\r"
  else if c = '\t' then "\\t"
  else if c = '\x00' then "\\0"
  else if isHidden c then codePoint c
  else [c]

def quoted (t : Text) : Text := '"' :: t.flatMap quotedChar ++ ['"']

end Text
end CollectionScript
