import TierCascade.Text.Direction.Table
/-!
# Directions of texts

A text may hold characters that are read from right to left. It reads in one direction if the order in
which it is shown never depends on the text around it.
-/

namespace TierCascade

namespace Direction

def ofChar (c : Char) : Direction := (directions.get? c).getD .rightward

def isLeftward (d : Direction) : Bool := d == .leftward || d == .leftwardDigit

def endsIn (directions : List Direction) (ds : List Direction) : Bool :=
  ((ds.reverse.find? (· != .mark)).any directions.contains)

/-- Whether a text is read from left to right as a whole. -/
def readsRightward (ds : List Direction) : Bool :=
  ds.all (!·.isLeftward) && endsIn [.rightward, .digit] ds

/-- Whether a text is read from right to left as a whole. It holds digits of one kind only. -/
def readsLeftward (ds : List Direction) : Bool :=
  !ds.contains .rightward && !(ds.contains .digit && ds.contains .leftwardDigit)
    && endsIn [.leftward, .digit, .leftwardDigit] ds

end Direction

/-- Whether a text is read in one direction, that of its first character. -/
def readsOneWay (cs : List Char) : Bool :=
  let ds := cs.map Direction.ofChar
  match ds with
  | [] => true
  | .rightward :: _ => Direction.readsRightward ds
  | .leftward :: _ => Direction.readsLeftward ds
  | _ => false

def isPartlyLeftward (cs : List Char) : Bool := cs.any fun c => (Direction.ofChar c).isLeftward

end TierCascade
