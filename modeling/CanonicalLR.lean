import CanonicalLR.Completion
import CanonicalLR.Lexical.Lexer
import CanonicalLR.Parse.Parser
import CanonicalLR.Proofs.Flat.Language
import CanonicalLR.Proofs.Parse.Completeness
import CanonicalLR.Proofs.Parse.Soundness
import CanonicalLR.Proofs.Parse.Termination
import CanonicalLR.Table.Construction
import CanonicalLR.Table.Text
import CanonicalLR.Tree.Visitor
import CanonicalLR.Proofs.Flat.Reachable
import CanonicalLR.Proofs.Parse.Detection
import CanonicalLR.Proofs.Parse.Consistency
import CanonicalLR.Proofs.Flat.Shape
import CanonicalLR.Proofs.Parse.Shape
import CanonicalLR.Proofs.Parse.Viability
import CanonicalLR.Proofs.Flat.Sentences
import CanonicalLR.Proofs.Parse.Replay
import CanonicalLR.Proofs.Lexical.Vocabulary
import CanonicalLR.Proofs.Table.Expected
import CanonicalLR.Proofs.Parse.Expected
import CanonicalLR.Proofs.Item.Subset
import CanonicalLR.Proofs.Item.Loop
import CanonicalLR.Proofs.Table.Slots
import CanonicalLR.Proofs.Table.Conflicts
import CanonicalLR.Proofs.Flat.Cycles
import CanonicalLR.Proofs.Flat.Numbering
import CanonicalLR.Proofs.Table.Text
import CanonicalLR.Proofs.Parse.Recovery
import CanonicalLR.Proofs.Parse.Agreement
import CanonicalLR.Proofs.Parse.Fan
import CanonicalLR.Proofs.Lexical.Partition
import CanonicalLR.Proofs.Lexical.Anchoring
import CanonicalLR.Proofs.Lexical.Groups
import CanonicalLR.Proofs.Flat.Renaming
import CanonicalLR.Proofs.Parse.Visiting
import CanonicalLR.Proofs.Derivation.Beginnings
import CanonicalLR.Proofs.Flat.Nullability
import CanonicalLR.Proofs.Flat.WellFormed
import CanonicalLR.Proofs.Flat.Descent
import CanonicalLR.Proofs.Item.Least
import CanonicalLR.Proofs.Tree.Outline
import CanonicalLR.Proofs.Tree.Calls
import CanonicalLR.Proofs.Parse.Stacks
import CanonicalLR.Proofs.Parse.Completions
import CanonicalLR.Grammar.Arena
import CanonicalLR.Proofs.Item.CanonicalKey
import CanonicalLR.Proofs.Grammar.Arena
import CanonicalLR.Proofs.Grammar.Beginning
import CanonicalLR.Proofs.Lexical.Literal
import CanonicalLR.Proofs.Text.Lines
