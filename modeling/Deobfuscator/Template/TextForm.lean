import Deobfuscator.Template.Spec

/-!
Texts as a spec writes them. A spec can ask for what only numbers have; a text refuses all of that.
-/

namespace Deobfuscator.Template.Spec

/-- Nothing is wrong with a spec for a text. -/
def check (spec : Spec) : Except Fault Unit :=
  if spec.code != 's' then .error (.unknownCode spec.code .texts)
  else if spec.sign == some ' ' then .error .spaceRefused
  else if spec.sign.isSome then .error .signRefused
  else if spec.negativeZero then .error .negativeZeroRefused
  else if spec.alternate then .error .alternateRefused
  else if spec.align == '=' then .error .innerAlignmentRefused
  else if longestText < spec.width then .error .outOfMemory
  else .ok ()

/-- A text, cut to the precision and padded to the width. -/
def writeText (spec : Spec) (content : List Char) : Except Fault (List Char) := do
  spec.check
  .ok (spec.pad [] ((spec.precision.map content.take).getD content))

end Deobfuscator.Template.Spec
