import CollectionScript.Text.Numeral

/-! Why a script is refused. Every stage reports its own cause; reading a document adds the number of
the line. -/
namespace CollectionScript

/-- The limit that an input exceeds. -/
inductive Excess where
  | lineBytes (length max : Nat)
  | commandLines (max : Nat)
  | lineArguments (max : Nat)
  deriving DecidableEq, Repr

def Excess.message : Excess → Text
  | .lineBytes length max =>
    "line is " ++ Text.decimal length ++ " bytes (max " ++ Text.decimal max ++ ")"
  | .commandLines max => "more than " ++ Text.decimal max ++ " command lines"
  | .lineArguments max => "more than " ++ Text.decimal max ++ " arguments on one line"

inductive Error where
  /-- A quoted span has no closing quote; the column counts characters from one. -/
  | malformedQuote (quote : Char) (column : Nat)
  | unknownCommand (keyword : Text)
  /-- The argument at place `index`, from one, has no parameter left to go to. -/
  | tooManyArguments (command : Text) (index : Nat) (argument : Text)
  | missingArgument (command parameter : Text)
  | invalidArgument (command parameter reason : Text)
  | duplicateCommand (keyword : Text)
  | invalidSchema (command reason : Text)
  | limitExceeded (excess : Excess)
  | onLine (number : Nat) (cause : Error)
  deriving DecidableEq, Repr

namespace Error

def message : Error → Text
  | .malformedQuote quote column =>
    "unterminated " ++ [quote] ++ " quote starting at column " ++ Text.decimal column
  | .unknownCommand keyword => "unknown command: " ++ keyword
  | .tooManyArguments command index argument =>
    command ++ ": too many arguments: unexpected argument " ++ Text.decimal index ++ " '"
      ++ argument ++ "'"
  | .missingArgument command parameter => command ++ ": missing argument '" ++ parameter ++ "'"
  | .invalidArgument command parameter reason =>
    command ++ ": invalid value for '" ++ parameter ++ "': " ++ reason
  | .duplicateCommand keyword => keyword ++ " declared more than once"
  | .invalidSchema command reason => "invalid schema for " ++ command ++ ": " ++ reason
  | .limitExceeded excess => "parse limit exceeded: " ++ excess.message
  | .onLine number cause => "line " ++ Text.decimal number ++ ": " ++ cause.message

/-- Adds a line number to an error that has none. -/
def atLine (number : Nat) : Error → Error
  | .onLine n cause => .onLine n cause
  | e => .onLine number e

def line? : Error → Option Nat
  | .onLine number _ => some number
  | _ => none

/-- The error without any line number. -/
def kind : Error → Error
  | .onLine _ cause => cause.kind
  | e => e

/-- The message, followed by those of the causes, outermost first. -/
def causes : Error → List Text
  | .onLine number cause => message (.onLine number cause) :: cause.causes
  | .limitExceeded excess => [message (.limitExceeded excess), excess.message]
  | e => [message e]

@[simp] theorem atLine_atLine (m n : Nat) (e : Error) : (e.atLine m).atLine n = e.atLine m := by
  cases e <;> rfl

@[simp] theorem kind_atLine (n : Nat) (e : Error) : (e.atLine n).kind = e.kind := by
  cases e <;> rfl

end Error
end CollectionScript
