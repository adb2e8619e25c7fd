import Amalgam.Text.Basic

/-! White space, as the Unicode property `White_Space` has it, and the cuts it
makes in a text. -/
namespace Amalgam.Text

def isBlank (c : Char) : Bool :=
  let n := c.toNat
  (9 ≤ n && n ≤ 13) || n == 0x20 || n == 0x85 || n == 0xA0 || n == 0x1680 ||
    (0x2000 ≤ n && n ≤ 0x200A) || n == 0x2028 || n == 0x2029 || n == 0x202F ||
    n == 0x205F || n == 0x3000

def trimStart (t : Text) : Text := t.dropWhile isBlank

def trim (t : Text) : Text := dropWhileEnd isBlank (trimStart t)

def words (t : Text) : List Text := (splitWhen isBlank t).filter (!·.isEmpty)

end Amalgam.Text
