/-!
# Case of letters

Lower case, for the ASCII letters alone or as far as it can lead to a word of ASCII letters.
-/

namespace ConnectorSync.Text

def lowerAscii (s : String) : String := String.ofList (s.toList.map Char.toLower)

/-- The lower case of a letter. Beside the capital ASCII letters only the Kelvin sign has an ASCII
letter for it. -/
def lowerChar (c : Char) : Char := if c = '\u212a' then 'k' else c.toLower

/-- The text with every letter in lower case whose lower case is an ASCII letter. -/
def lowerCase (s : String) : String := String.ofList (s.toList.map lowerChar)

end ConnectorSync.Text
