import TierCascade.Console.Host.Name
import TierCascade.Console.Host.Number
import TierCascade.Json.Value
/-!
# Hosts

A host is a name or a number. In an address of a scheme that knows no host names a host may be any
text.
-/

namespace TierCascade.Console

/-- The bytes of a text in which every percent sign before two digits stands for a byte. -/
def percentBytes : List Char → List UInt8
  | '%' :: a :: b :: rest =>
    match digitsValue? 16 [a, b] with
    | some n => UInt8.ofNat n :: percentBytes rest
    | none => 0x25 :: percentBytes (a :: b :: rest)
  | c :: rest => (String.singleton c).toUTF8.toList ++ percentBytes rest
  | [] => []
termination_by cs => cs.length

def percentByte (b : UInt8) : List Char :=
  '%' :: [b.toNat / 16, b.toNat].map fun n => (Json.hexDigit n).toUpper

def percentChars (c : Char) : List Char := (String.singleton c).toUTF8.toList.flatMap percentByte

/-- A host name in its usual form. A name that ends in a number is a host number. -/
def hostName? (cs : List Char) : Option (List Char) := do
  let name ← asciiName? (← utf8Line? (percentBytes cs))
  if name.isEmpty then none
  else if endsInNumber name then (shortNumber? name).map shortNumberText
  else some name

/-- The characters that end a host or that no host holds. -/
def isBarredFromHosts (c : Char) : Bool := "\x00\t\n\r #/:<>?@[\\]^|".toList.contains c

def hostWord? (cs : List Char) : Option (List Char) :=
  if cs.any isBarredFromHosts then none
  else some (cs.flatMap fun c => if c.toNat < 0x20 ∨ 0x7F ≤ c.toNat then percentChars c else [c])

def hostText? (isNamed : Bool) (cs : List Char) : Option (List Char) :=
  match cs with
  | '[' :: rest =>
    if rest.getLast? = some ']' then
      (longNumber? rest.dropLast).map fun pieces => '[' :: longNumberText pieces ++ [']']
    else none
  | _ => if isNamed then hostName? cs else hostWord? cs

end TierCascade.Console
