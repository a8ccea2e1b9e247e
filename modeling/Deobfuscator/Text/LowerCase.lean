/-!
Letters in lower case.
-/

namespace Deobfuscator.Text

/-- A letter in lower case, as far as the letters of names go: Latin letters and the signs for kelvin and ångström. -/
def lowered (c : Char) : Char :=
  let code := c.toNat
  if c.isUpper then c.toLower
  else if 0xC0 ≤ code && code ≤ 0xDE && code != 0xD7 then Char.ofNat (code + 0x20)
  else if code == 0x212A then 'k'
  else if code == 0x212B then 'å'
  else c

end Deobfuscator.Text
