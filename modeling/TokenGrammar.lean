import TokenGrammar.Main
import TokenGrammar.Proofs.Recording
import TokenGrammar.Proofs.Rollback
import TokenGrammar.Proofs.FullCopies
import TokenGrammar.Proofs.Dispatch
import TokenGrammar.Proofs.OrderedChoice
import TokenGrammar.Proofs.Conservation
import TokenGrammar.Proofs.Verbatim
import TokenGrammar.Proofs.Agreement
import TokenGrammar.Proofs.Composition
import TokenGrammar.Proofs.Compilation
import TokenGrammar.Proofs.Extension
import TokenGrammar.Proofs.Anonymous
import TokenGrammar.Proofs.Alternatives
import TokenGrammar.Proofs.Occurrences
import TokenGrammar.Proofs.Reordering
import TokenGrammar.Proofs.Seeds
import TokenGrammar.Proofs.Greedy
import TokenGrammar.Proofs.Limits
import TokenGrammar.Proofs.Accumulation
import TokenGrammar.Proofs.Destinations
import TokenGrammar.Proofs.OpenSpan
import TokenGrammar.Proofs.FusedValues
import TokenGrammar.Proofs.PositionalCounts
import TokenGrammar.Proofs.InferredDestinations
import TokenGrammar.Proofs.Spellings
import TokenGrammar.Proofs.DeclaredDefaults
import TokenGrammar.Proofs.FoldedFlags
import TokenGrammar.Proofs.Termination
import TokenGrammar.Proofs.Indexing
import TokenGrammar.Proofs.Caching
import TokenGrammar.Proofs.ExactValues
import TokenGrammar.Proofs.Literals
import TokenGrammar.Proofs.JsonTexts
import TokenGrammar.Proofs.JsonValues
