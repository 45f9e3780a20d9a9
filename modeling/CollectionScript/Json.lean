import CollectionScript.Text.Numeral

/-! JSON values made of strings, natural numbers, arrays and objects, and their compact text. An object
keeps the order of its members. -/
namespace CollectionScript

inductive Json where
  | string (value : Text)
  | number (value : Nat)
  | array (items : List Json)
  | object (members : List (Text × Json))
  deriving Repr, Inhabited

namespace Json

/-- A control character as `\u00xx`. -/
def escapeCode (c : Char) : Text :=
  "\\u00" ++ [Nat.digitChar (c.toNat / 16), Nat.digitChar (c.toNat % 16)]

/-- Only the quote, the backslash and the characters below the space are escaped. -/
def escapeChar (c : Char) : Text :=
  if c = '"' then "\\\""
  else if c = '\\' then "\\\\"
  else if c = '\n' then "\\n"
  else if c = '\r' then "\\r"
  else if c = '\t' then "\\t"
  else if c = '\x08' then "\\b"
  else if c = '\x0c' then "\\f"
  else if c.toNat < 0x20 then escapeCode c
  else [c]

def quote (t : Text) : Text := '"' :: t.flatMap escapeChar ++ ['"']

mutual

def compact : Json → Text
  | .string value => quote value
  | .number value => Text.decimal value
  | .array items => '[' :: List.intercalate [','] (compactItems items) ++ [']']
  | .object members => '{' :: List.intercalate [','] (compactMembers members) ++ ['}']

def compactItems : List Json → List Text
  | [] => []
  | item :: items => compact item :: compactItems items

def compactMembers : List (Text × Json) → List Text
  | [] => []
  | (name, value) :: members =>
    (quote name ++ ':' :: compact value) :: compactMembers members

end

@[simp] theorem compactItems_eq_map (items : List Json) :
    compactItems items = items.map compact := by
  induction items with
  | nil => rfl
  | cons item items ih => simp [compactItems, ih]

@[simp] theorem compactMembers_eq_map (members : List (Text × Json)) :
    compactMembers members = members.map fun m => quote m.1 ++ ':' :: compact m.2 := by
  induction members with
  | nil => rfl
  | cons member members ih => simp [compactMembers, ih]

end Json
end CollectionScript
