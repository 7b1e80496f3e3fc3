import TierCascade.Text.Composed
import TierCascade.Text.Joining.Table
/-!
# Joiners

Two characters that are not drawn say whether their neighbours join. They mean something only behind
the sign of Indic scripts that takes a vowel away, and one of them also between two letters that would
join without it.
-/

namespace TierCascade

/-- The character that keeps its neighbours from joining. -/
def nonJoiner : Char := '\u200c'

/-- The character that makes its neighbours join. -/
def joiner : Char := '\u200d'

/-- The rank of the signs that take the vowel of a consonant away. -/
def vowellessRank : Nat := 9

/-- Whether the nearest character that is not transparent joins on one of some sides. -/
def joinsBy (sides : List Joining) (cs : List Char) : Bool :=
  ((cs.map joinings.get?).find? (· != some .transparent)).any fun side => side.any sides.contains

/-- Whether a joiner means something between the characters before it, the nearest first, and those
behind it. -/
def joinerMatters (c : Char) (before behind : List Char) : Bool :=
  before.head?.any (fun b => markRank b == vowellessRank)
    || (c == nonJoiner && joinsBy [.behind, .both] before && joinsBy [.before, .both] behind)

/-- Whether each joiner of a text means something, with the characters before the text, the nearest
first. -/
def joinersMatter (before : List Char) : List Char → Bool
  | [] => true
  | c :: rest =>
    (c != joiner && c != nonJoiner || joinerMatters c before rest) && joinersMatter (c :: before) rest

end TierCascade
