import ChatMarkup.Convert
import ChatMarkup.Proofs.StackWalk
import ChatMarkup.Proofs.Ink
import ChatMarkup.Proofs.VisibleText
import ChatMarkup.Proofs.PlainPage
import ChatMarkup.Proofs.RoundTrip
import ChatMarkup.Proofs.WrittenPage
import ChatMarkup.Proofs.TidyMessages
import ChatMarkup.Proofs.ReferenceGrammar
import ChatMarkup.Proofs.ReferenceDecoding
import ChatMarkup.Proofs.EscapeRoundTrip
import ChatMarkup.Proofs.OpenItems
import ChatMarkup.Proofs.Marks
import ChatMarkup.Proofs.PageReading
import ChatMarkup.Proofs.PageBuilding
import ChatMarkup.Proofs.CompletedItems
import ChatMarkup.Proofs.WrittenTrees
import ChatMarkup.Proofs.OmittedEndTags
import ChatMarkup.Proofs.UnknownTags
import ChatMarkup.Proofs.Semicolons
import ChatMarkup.Proofs.Respelling
import ChatMarkup.Proofs.CaselessReading
import ChatMarkup.Proofs.CaselessCompleting
import ChatMarkup.Proofs.TagCase
import ChatMarkup.Proofs.PageTokens
import ChatMarkup.Proofs.NestedTrees
import ChatMarkup.Proofs.OpenScopes
import ChatMarkup.Proofs.SoundBuilding
import ChatMarkup.Proofs.SoundFormatting
import ChatMarkup.Proofs.CutElements
import ChatMarkup.Proofs.SteadyBuilding
import ChatMarkup.Proofs.SteadyBody
import ChatMarkup.Proofs.SteadyTable
import ChatMarkup.Proofs.SteadyParts
import ChatMarkup.Proofs.SteadyPage
import ChatMarkup.Proofs.ExpandedTags
import ChatMarkup.Proofs.NestedReading
import ChatMarkup.Proofs.CompletedNesting
import ChatMarkup.Proofs.HiddenElements
import ChatMarkup.Proofs.Comments
import ChatMarkup.Proofs.TagExpansion
import ChatMarkup.Proofs.SelfClosingTags
import ChatMarkup.Proofs.UnclosedScripts
import ChatMarkup.Proofs.TextElements
import ChatMarkup.Proofs.ListLines
import ChatMarkup.Proofs.ParagraphSequences
import ChatMarkup.Proofs.AttributeValues
import ChatMarkup.Proofs.ReferenceScan
import ChatMarkup.Proofs.ReferencePositions
import ChatMarkup.Proofs.UnreferencedText
import ChatMarkup.Proofs.NestedMarkers
import ChatMarkup.Proofs.Patterns
import ChatMarkup.Proofs.BlankRuns
import ChatMarkup.Proofs.MessageLines
import ChatMarkup.Proofs.NestedParagraphs
import ChatMarkup.Proofs.MisnestedPairs
import ChatMarkup.Proofs.HiddenTags
import ChatMarkup.Proofs.HiddenSpellings
import ChatMarkup.Proofs.JoinedElements
import ChatMarkup.Proofs.OpenedElements
import ChatMarkup.Proofs.SlashNames
import ChatMarkup.Proofs.AlikeTrees
import ChatMarkup.Proofs.AppliedOptions
import ChatMarkup.Proofs.HiddenContent
import ChatMarkup.Proofs.TableRows
import ChatMarkup.Proofs.QuotedLines
import ChatMarkup.Proofs.SurvivingItems
import ChatMarkup.Proofs.DecodedSize
