import CollectionScript.Error

/-! Bounds on what one script may ask of its reader. -/
namespace CollectionScript

/-- Blank lines and comments are no command lines; the keyword is no argument. -/
structure Limits where
  lineBytes : Nat := 4096
  commandLines : Nat := 10000
  lineArguments : Nat := 64
  deriving DecidableEq, Repr, Inhabited

namespace Limits

def checkLine (limits : Limits) (line : Text) : Except Error Unit :=
  if line.byteSize ≤ limits.lineBytes then .ok ()
  else .error (.limitExceeded (.lineBytes line.byteSize limits.lineBytes))

def checkCommands (limits : Limits) (count : Nat) : Except Error Unit :=
  if count ≤ limits.commandLines then .ok ()
  else .error (.limitExceeded (.commandLines limits.commandLines))

def checkArguments (limits : Limits) (count : Nat) : Except Error Unit :=
  if count ≤ limits.lineArguments then .ok ()
  else .error (.limitExceeded (.lineArguments limits.lineArguments))

variable {limits : Limits}

theorem checkLine_eq_ok_iff {line : Text} :
    limits.checkLine line = .ok () ↔ line.byteSize ≤ limits.lineBytes := by
  by_cases h : line.byteSize ≤ limits.lineBytes <;> simp [checkLine, h]

theorem checkCommands_eq_ok_iff {count : Nat} :
    limits.checkCommands count = .ok () ↔ count ≤ limits.commandLines := by
  by_cases h : count ≤ limits.commandLines <;> simp [checkCommands, h]

theorem checkArguments_eq_ok_iff {count : Nat} :
    limits.checkArguments count = .ok () ↔ count ≤ limits.lineArguments := by
  by_cases h : count ≤ limits.lineArguments <;> simp [checkArguments, h]

end Limits
end CollectionScript
