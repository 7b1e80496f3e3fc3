/-!
# Large and small letters

Names of options are found whatever the case of their letters. They are written in ASCII, so only
those characters matter whose small letter is ASCII: the large letters of ASCII, and the sign of the
kelvin, whose small letter is that of the letter it looks like.
-/

namespace TierCascade

/-- The small letter of a character, if that is ASCII; other characters stay as they are. -/
def smallLetter (c : Char) : Char := if c = '\u212a' then 'k' else c.toLower

/-- A text in small letters, as far as these are ASCII. -/
def smallLetters (s : String) : String := String.ofList (s.toList.map smallLetter)

end TierCascade
