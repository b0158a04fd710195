import PairLisp.Main
import PairLisp.Proofs.Adequacy
import PairLisp.Proofs.FreeNames
import PairLisp.Proofs.LetterCase
import PairLisp.Proofs.Levels
import PairLisp.Proofs.ListRoundTrip
import PairLisp.Proofs.CallGraph
import PairLisp.Proofs.TableEntries
import PairLisp.Proofs.Extension
import PairLisp.Proofs.Readings
import PairLisp.Proofs.Vocabulary
import PairLisp.Proofs.ReadLoop
import PairLisp.Proofs.Decoding
import PairLisp.Proofs.SessionHistory
import PairLisp.Proofs.Drivers
import PairLisp.Proofs.Restoring
import PairLisp.Proofs.Layout
import PairLisp.Proofs.Cutting
import PairLisp.Proofs.OnDemand
import PairLisp.Proofs.InTurn
import PairLisp.Proofs.Conditionals
import PairLisp.Proofs.Calls
import PairLisp.Proofs.ArgumentCounts
import PairLisp.Proofs.Numerals
import PairLisp.Proofs.Arithmetic
import PairLisp.Proofs.Division
import PairLisp.Proofs.Provenance
import PairLisp.Proofs.Notations
import PairLisp.Proofs.TokenQueue
import PairLisp.Proofs.Bindings
import PairLisp.Proofs.DefinitionTable
import PairLisp.Proofs.Capitals
import PairLisp.Proofs.Literals
import PairLisp.Proofs.Configuration
import PairLisp.Proofs.Lists
