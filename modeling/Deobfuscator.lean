import Deobfuscator.CommandLine.Run
import Deobfuscator.Connection
import Deobfuscator.FileTree
import Deobfuscator.Main
import Deobfuscator.Mapping.Reading
import Deobfuscator.Mapping.Bytes
import Deobfuscator.Settings
import Deobfuscator.SlashPath
import Deobfuscator.Template.Expansion
import Deobfuscator.Text.Blank
import Deobfuscator.Text.Digit
import Deobfuscator.Text.Lines
import Deobfuscator.Text.Numeral
import Deobfuscator.Text.Quoted
import Deobfuscator.Text.Utf8
import Deobfuscator.Proofs.NameIndexContents
import Deobfuscator.Proofs.CacheFetch
import Deobfuscator.Proofs.CacheHistory
import Deobfuscator.Proofs.ResolverTransparency
import Deobfuscator.Proofs.ConnectionFraming
import Deobfuscator.Proofs.TextCuts
import Deobfuscator.Proofs.MethodGrammar
import Deobfuscator.Proofs.PlainTemplates
import Deobfuscator.Proofs.ShownPlaces
import Deobfuscator.Proofs.PathConfinement
import Deobfuscator.Proofs.TableReading
import Deobfuscator.Proofs.RequestOutcomes
import Deobfuscator.Proofs.RequestTotality
import Deobfuscator.Proofs.LineBreaks
import Deobfuscator.Proofs.ResponseLines
import Deobfuscator.Proofs.EncodedText
import Deobfuscator.Proofs.FileReading
import Deobfuscator.Proofs.FirstBadLine
import Deobfuscator.Proofs.TableMerge
import Deobfuscator.Proofs.ClassBlocks
import Deobfuscator.Proofs.LayoutEdits
import Deobfuscator.Proofs.BuildSpacing
import Deobfuscator.Proofs.RequestWords
import Deobfuscator.Proofs.PrintedText
import Deobfuscator.Proofs.LookupAgreement
import Deobfuscator.Proofs.MethodNumbers
import Deobfuscator.Proofs.DecodedText
import Deobfuscator.Proofs.DamagedFiles
import Deobfuscator.Proofs.FileFaults
import Deobfuscator.Proofs.ResponseDecoding
import Deobfuscator.Proofs.SpacedWords
import Deobfuscator.Proofs.LineWords
import Deobfuscator.Proofs.RequestReading
import Deobfuscator.Proofs.LineAccounts
import Deobfuscator.Proofs.LinelessMethods
import Deobfuscator.Proofs.OwnerListing
import Deobfuscator.Proofs.EntryCounts
