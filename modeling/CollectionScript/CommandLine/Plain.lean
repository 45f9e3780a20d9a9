import CollectionScript.Text

/-! Text for a terminal that is to show it and nothing else: without escape sequences, and without
control characters other than layout.

A reader of such text shows characters or skips them. It stops skipping at a character that its mode
lets through, and from there on shows whatever would be shown outside all sequences; at the first
character that would not, it goes on skipping where it had left off. -/
namespace CollectionScript
namespace CommandLine

/-- Where a reader stands among escape sequences. -/
inductive TerminalMode where
  /-- Outside all sequences. -/
  | ground
  | escape
  /-- After an escape and a character that asks for one more. -/
  | designation
  /-- In a control sequence, up to its final character. -/
  | control
  /-- In a string that a bell may end. -/
  | title
  /-- Before the parameters of a device's string. -/
  | device
  | deviceParameters
  /-- Between the parameters of a device's string and its final character. -/
  | deviceFunction
  /-- In a string that the byte 0x9C may end. -/
  | string
  deriving DecidableEq, Repr

def isLayout (c : Char) : Bool := c == '\t' || c == '\n' || c == '\r' || c == '\x0c'

/-- What is shown outside all sequences. -/
def isShown (c : Char) : Bool := isLayout c || !(c < ' ' || c == '\x7f')

/-- Whether the character lies in the run from `first` to `last`. -/
def isBetween (first last c : Char) : Bool := first ≤ c && c ≤ last

namespace TerminalMode

/-- Whether a reader that is skipping stops at the character. -/
def letsThrough : TerminalMode → Char → Bool
  | ground => isShown
  | escape | designation | control => isLayout
  | _ => fun _ => false

/-- The mode that the character after an escape leads to. -/
def afterEscape (c : Char) : TerminalMode :=
  if c = '[' then control
  else if c = ']' then title
  else if c = 'P' then device
  else if c = 'X' ∨ c = '^' ∨ c = '_' then string
  else if isBetween ' ' '/' c then designation
  else if isBetween '0' '~' c then ground
  else escape

/-- The mode after a character that is skipped. Cancelling and substituting end every sequence, and an
escape opens one. -/
def skip (mode : TerminalMode) (c : Char) : TerminalMode :=
  if c = '\x1b' then escape
  else if c = '\x18' ∨ c = '\x1a' then ground
  else
    match mode with
    | ground => ground
    | escape => afterEscape c
    | designation => if isBetween '0' '~' c then ground else designation
    | control => if isBetween '@' '~' c then ground else control
    | title => if c = '\x07' then ground else title
    | device =>
      if isBetween '@' '~' c then string
      else if isBetween '0' '?' c then deviceParameters
      else if isBetween ' ' '/' c then deviceFunction
      else device
    | deviceParameters =>
      if isBetween '<' '~' c then string
      else if isBetween ' ' '/' c then deviceFunction
      else deviceParameters
    | deviceFunction => if isBetween '0' '~' c then string else deviceFunction
    | string => if (String.utf8EncodeChar c).contains 0x9c then ground else string

/-- The mode after a character that is shown. One beyond ASCII ends any sequence. -/
def pass (mode : TerminalMode) (c : Char) : TerminalMode := if c ≤ '\x7f' then mode else ground

end TerminalMode

/-- What a reader shows that stands in the mode, given whether it showed the last character. -/
def plainFrom (mode : TerminalMode) (showing : Bool) : Text → Text
  | [] => []
  | c :: r =>
    if (showing && isShown c) || mode.letsThrough c then c :: plainFrom (mode.pass c) true r
    else plainFrom (mode.skip c) false r

def plain (t : Text) : Text := plainFrom .ground false t

/-- Plain text of spans that differ in style. A span starts outside all sequences, as the change of style
before it is a sequence of its own. -/
def plainSpans (spans : List Text) : Text := spans.flatMap plain

end CommandLine
end CollectionScript
