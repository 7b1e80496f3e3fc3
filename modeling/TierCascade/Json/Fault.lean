import TierCascade.Json.Scan
/-!
# Faults of wire texts

Why a wire text was refused. Three kinds of cause are told apart: the text ended too early, it is no
JSON that could be read, or it is JSON but not what was asked for. A fault also says where the
reader stood.
-/

namespace TierCascade

inductive FaultKind where
  | ended
  | malformed
  | unacceptable
  deriving Repr, DecidableEq

/-- Why a wire text was refused. -/
inductive Cause where
  | noValue
  | flawed (flaw : Flaw)
  | halfSurrogate
  | outOfRange
  | badVariant
  | surplus
  | trailing
  | mismatch (found expected : String)
  | outOfBounds (found expected : String)
  | missing (name : String)
  | repeated (name : String)
  | unknownVariant (name : String)
  | tooShort (length : Nat) (expected : String)
  deriving Repr, DecidableEq

def Cause.kind : Cause → FaultKind
  | .flawed .ended => .ended
  | .noValue | .flawed .malformed | .halfSurrogate | .outOfRange | .badVariant | .surplus | .trailing =>
    .malformed
  | .mismatch .. | .outOfBounds .. | .missing _ | .repeated _ | .unknownVariant _ | .tooShort .. =>
    .unacceptable

def Cause.message : Cause → String
  | .noValue => "expected value"
  | .flawed .ended => "unexpected end of text"
  | .flawed .malformed => "malformed text"
  | .halfSurrogate => "half of a surrogate pair"
  | .outOfRange => "number out of range"
  | .badVariant => "expected the name of a variant"
  | .surplus => "too many elements"
  | .trailing => "trailing characters"
  | .mismatch found expected => "invalid type: " ++ found ++ ", expected " ++ expected
  | .outOfBounds found expected => "invalid value: " ++ found ++ ", expected " ++ expected
  | .missing name => "missing field `" ++ name ++ "`"
  | .repeated name => "duplicate field `" ++ name ++ "`"
  | .unknownVariant name => "unknown variant `" ++ name ++ "`"
  | .tooShort length expected => "invalid length " ++ toString length ++ ", expected " ++ expected

/-- A cause and the text behind the place where it was noticed. -/
structure Fault where
  cause : Cause
  after : List Char
  deriving Repr, DecidableEq

def Fault.message (f : Fault) (text : List Char) : String :=
  f.cause.message ++ " at line 1 column " ++ toString (byteCount text - byteCount f.after)

end TierCascade
