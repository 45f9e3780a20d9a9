import CollectionScript.Text.Blank
import CollectionScript.Text.Control
import CollectionScript.Text.Numeral
import CollectionScript.Text.Upper

/-! What may appear in the log. Values of variables with a telling name and values that look like
credentials are left out, long values are cut, and a line of the script shows its size only. -/
namespace CollectionScript

/-- The fragments are parts of a variable's name, in upper case, that make its value sensitive. -/
structure LogPolicy where
  redacts : Bool := true
  fragments : List Text := ["PASSWORD", "PASSWD", "PASSPHRASE", "SECRET", "TOKEN", "KEY",
    "CREDENTIAL", "AUTH", "PRIVATE", "BEARER", "SESSION", "COOKIE", "CERT", "DATABASE_URL",
    "CONNECTION_STRING", "AWS_ACCESS"]
  showsLines : Bool := false
  maxValueBytes : Nat := 200
  deriving Inhabited

/-- What stands in the log for a value that is left out. -/
def redacted : Text := "[REDACTED]"

namespace LogPolicy

def addFragment (policy : LogPolicy) (fragment : Text) : LogPolicy :=
  { policy with fragments := policy.fragments.insert fragment.upper }

/-- Whether every value of the variable is left out. -/
def hides (policy : LogPolicy) (name : Text) : Bool :=
  policy.redacts && policy.fragments.any fun fragment => Text.contains fragment name.upper

/-- How the secrets of well-known services begin. -/
def secretPrefixes : List Text :=
  ["sk-", "sk_live_", "sk_test_", "ghp_", "gho_", "ghs_", "xoxb-", "xoxp-", "AKIA", "eyJ"]

/-- Words that give a secret away in any letter case. No letter outside ASCII has one of their
letters alone as its small form, so small forms of ASCII letters are enough. -/
def namesSecret (value : Text) : Bool :=
  let small := value.map Char.toLower
  Text.contains "password" small || "bearer ".toList.isPrefixOf small
    || "basic ".toList.isPrefixOf small

def hasSecretPrefix (value : Text) : Bool :=
  secretPrefixes.any fun start =>
    start.isPrefixOf value && start.byteSize + 10 < value.byteSize

def isTokenChar (c : Char) : Bool := c.isAlphanum || c == '_' || c == '-'

/-- A token of more than 15 different characters, which are more than half of all. -/
def isHighEntropy (value : Text) : Bool :=
  value.all isTokenChar
    && value.byteSize < 2 * value.eraseDups.length && 15 < value.eraseDups.length

def isLikelySecret (value : Text) : Bool :=
  let core := Text.trim value
  namesSecret core || hasSecretPrefix core || (32 ≤ core.byteSize && isHighEntropy core)

/-- The longest part at the start, in whole characters, of at most so many bytes. -/
def takeBytes : Nat → Text → Text
  | _, [] => []
  | n, c :: r => if c.utf8Size ≤ n then c :: takeBytes (n - c.utf8Size) r else []

def truncate (policy : LogPolicy) (value : Text) : Text :=
  if value.byteSize ≤ policy.maxValueBytes then value
  else
    let kept := takeBytes policy.maxValueBytes value
    kept ++ "...[truncated " ++ Text.decimal (value.byteSize - kept.byteSize) ++ " bytes]"

def renderValue (policy : LogPolicy) (value : Text) : Text :=
  if policy.redacts && isLikelySecret value then redacted else policy.truncate value

def renderVariable (policy : LogPolicy) (name value : Text) : Text :=
  if policy.hides name then redacted else policy.renderValue value

def renderLine (policy : LogPolicy) (line : Text) : Text :=
  if policy.showsLines then policy.truncate (Text.oneLine line)
  else "[" ++ Text.decimal line.byteSize ++ " bytes]"

end LogPolicy
end CollectionScript
