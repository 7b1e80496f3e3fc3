/-!
# Lines

A text is split at its line feeds. A carriage return that stands just before a line feed belongs to
the line end; one anywhere else, also at the very end of the text, belongs to the line. A text that
ends in a line feed has no further line after it.

Bytes are split in the same way, and each line is then read as UTF-8 on its own: what stands before
the first line that is no UTF-8 can still be used.
-/

namespace TierCascade

/-- The pieces between the occurrences of a separator; one more than there are occurrences. -/
def splitAtEach {α : Type} [BEq α] (sep : α) : List α → List (List α)
  | [] => [[]]
  | x :: xs =>
    match splitAtEach sep xs with
    | [] => [[x]]
    | piece :: pieces => if x == sep then [] :: piece :: pieces else (x :: piece) :: pieces

def dropLastIf {α : Type} [BEq α] (x : α) (xs : List α) : List α :=
  if xs.getLast? == some x then xs.dropLast else xs

/-- The lines of a list of characters or bytes, with the values of a line feed and a carriage
return. -/
def linesWith {α : Type} [BEq α] (feed ret : α) (xs : List α) : List (List α) :=
  let pieces := splitAtEach feed xs
  let ended := pieces.dropLast.map (dropLastIf ret)
  match pieces.getLast? with
  | none | some [] => ended
  | some last => ended ++ [last]

def textLines (cs : List Char) : List (List Char) := linesWith '\n' '\r' cs

def byteCount (cs : List Char) : Nat := cs.foldl (fun n c => n + c.utf8Size) 0

def utf8Bytes (cs : List Char) : List UInt8 := cs.flatMap String.utf8EncodeChar

def utf8Line? (bytes : List UInt8) : Option (List Char) :=
  (String.fromUTF8? ⟨bytes.toArray⟩).map String.toList

def byteLines (bytes : List UInt8) : List (List UInt8) := linesWith 10 13 bytes

end TierCascade
