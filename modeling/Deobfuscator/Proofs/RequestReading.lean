import Deobfuscator.Proofs.RequestOutcomes
import Deobfuscator.Proofs.RequestWords
import Deobfuscator.Proofs.ResolverTransparency
import Deobfuscator.Proofs.SpacedWords

/-! How a request is read. Only its first four words count, however they are spaced:
two are needed, the third is a method, and the fourth is an integer or makes the
request malformed. -/

namespace Deobfuscator.Proofs.RequestReading
open Text TextCuts SpacedWords Numerals RequestWords RequestOutcomes CacheFetch PlainTemplates ShownPlaces
open ResolverTransparency
open Template (Memory)

variable {version className method word : List Char} {more others found : List (List Char)} {request : String}

end Deobfuscator.Proofs.RequestReading
