import Amalgam.Text.Alphanumeric

/-! Characters of words, in the sense of a search pattern. -/
namespace Amalgam.Text

/-- The two characters that join or part letters and are not seen themselves. -/
def isJoiner (c : Char) : Bool := c == '\u200c' || c == '\u200d'

def isWord (c : Char) : Bool :=
  if c.toNat < 0x80 then isIdentifier c
  else isAlphabetic c || isJoiner c ||
    (.decimal :: .connector :: Category.group 'm').any (·.contains c)

end Amalgam.Text
