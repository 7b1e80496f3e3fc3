import TierCascade.Console.Host.Table
import TierCascade.Text.Direction
import TierCascade.Text.Joining
import TierCascade.Text.Punycode
/-!
# Host names

A host name is a row of labels with points between them. People write names in the characters of all
scripts, and several ways of writing may mean one name. Each name has one form in ASCII, in which it is
sent: its characters are replaced by those that names are made of, and labels beyond ASCII are written
in Punycode behind a sign.
-/

namespace TierCascade.Console

def respell? (c : Char) : Option (List Char) :=
  if hostChars.holds c then some [c]
  else (respellings.find? (·.holds c)).map fun r =>
    if r.value.moves then r.value.chars.map fun d => Char.ofNat (d.toNat + (c.toNat - r.first))
    else r.value.chars

/-- Whether a character stands for itself in addresses and therefore in no host name. -/
def isBarredFromNames (c : Char) : Bool :=
  c.toNat ≤ 0x20 || c.toNat == 0x7F || "%#/:<>?@[\\]^|".toList.contains c

def isBeyondAscii (c : Char) : Bool := 0x7F < c.toNat

def punycodeSign : List Char := "xn--".toList

def longestLabel : Nat := 1000

def longestPunycode : Nat := 2000

/-- Reads a label that may be written in Punycode. What is written so is no ASCII, and is written in the
way in which it would be respelled. -/
def readLabel? (label : List Char) : Option (List Char) :=
  if punycodeSign.isPrefixOf label then do
    let written := label.drop punycodeSign.length
    if longestPunycode < written.length then none
    let read ← Punycode.decode? written
    if read.any isBeyondAscii ∧ read.all hostChars.holds ∧ composed read = read
        ∧ !punycodeSign.isPrefixOf read then
      some read
    else none
  else some label

/-- Whether a label stands on its own: it does not start with a mark, and its joiners mean something. -/
def isWholeLabel (label : List Char) : Bool :=
  !label.head?.any hostMarks.holds && joinersMatter [] label
    && (label.length ≤ longestLabel || !label.any isBeyondAscii)

def writeLabel (label : List Char) : List Char :=
  if label.any isBeyondAscii then punycodeSign ++ Punycode.encode label else label

/-- A host name in ASCII. Its labels are each read in one direction if any of them is not simply read
from left to right. -/
def asciiName? (name : List Char) : Option (List Char) := do
  let respelled := composed (← name.mapM respell?).flatten
  if respelled.any isBarredFromNames then none
  let labels ← (splitAtEach '.' respelled).mapM readLabel?
  if labels.all isWholeLabel ∧ (labels.any isPartlyLeftward → labels.all readsOneWay) then
    some (List.intercalate ['.'] (labels.map writeLabel))
  else none

end TierCascade.Console
