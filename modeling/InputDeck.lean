import InputDeck.Balance
import InputDeck.Catalog.Kinds
import InputDeck.Catalog.Vocabulary
import InputDeck.Sink
import InputDeck.Value.Literal
import InputDeck.Proofs.Forest
import InputDeck.Proofs.Mentions
import InputDeck.Proofs.Trimming
import InputDeck.Proofs.RunningDepth
import InputDeck.Proofs.DirectWriting
import InputDeck.Proofs.JoinedLines
import InputDeck.Proofs.Outline
import InputDeck.Proofs.SectionHistory
import InputDeck.Proofs.DeckConcatenation
import InputDeck.Proofs.BracketedFields
import InputDeck.Proofs.ValueGrammar
import InputDeck.Proofs.StructFields
import InputDeck.Proofs.ClampedPass
import InputDeck.Proofs.BalancePolicies
import InputDeck.Proofs.BracketMatching
import InputDeck.Proofs.ProducerFaults
import InputDeck.Proofs.Recoverability
import InputDeck.Proofs.Reindentation
import InputDeck.Proofs.TableOrder
import InputDeck.Proofs.EncodedReferences
import InputDeck.Proofs.MapCalls
import InputDeck.Proofs.LiteralAgreement
import InputDeck.Proofs.TableContract
import InputDeck.Proofs.FieldsHistory
import InputDeck.Proofs.LineMarkers
import InputDeck.Proofs.VerbatimText
import InputDeck.Proofs.EqualDecks
