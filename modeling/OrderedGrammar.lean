import OrderedGrammar.Examples.Arithmetic
import OrderedGrammar.Examples.Filter
import OrderedGrammar.Examples.Schema
import OrderedGrammar.Examples.Series
import OrderedGrammar.Notation.Source
import OrderedGrammar.Tree.Path
import OrderedGrammar.Walker.Script
import OrderedGrammar.Proofs.Matching.Derivation
import OrderedGrammar.Proofs.Matching.Frame
import OrderedGrammar.Proofs.Matching.Relation
import OrderedGrammar.Proofs.Matching.Run
import OrderedGrammar.Proofs.Matching.Acceptance
import OrderedGrammar.Proofs.Matching.Moments
import OrderedGrammar.Proofs.Construction
import OrderedGrammar.Proofs.Matching.Shape
import OrderedGrammar.Proofs.Matching.Assembly
import OrderedGrammar.Proofs.Matching.Positions
import OrderedGrammar.Proofs.Notation.Syntax
import OrderedGrammar.Proofs.Matching.Inversion
import OrderedGrammar.Proofs.Notation.Alternatives
import OrderedGrammar.Proofs.Notation.Emission
import OrderedGrammar.Proofs.Notation.Lexemes
import OrderedGrammar.Proofs.Notation.Soundness
import OrderedGrammar.Proofs.Notation.Completeness
import OrderedGrammar.Proofs.Notation.Exactness
import OrderedGrammar.Proofs.Pattern.Caseless
import OrderedGrammar.Proofs.Pattern.Prefixes
import OrderedGrammar.Proofs.Scanning
import OrderedGrammar.Proofs.Notation.Lexing
import OrderedGrammar.Proofs.Notation.Printing
import OrderedGrammar.Proofs.Notation.Layout
import OrderedGrammar.Proofs.Notation.RoundTrip
import OrderedGrammar.Proofs.Notation.Writing
import OrderedGrammar.Proofs.Matching.Restoration
import OrderedGrammar.Proofs.Matching.Abreast
import OrderedGrammar.Proofs.Matching.Recognition
import OrderedGrammar.Proofs.Notation.Undefined
import OrderedGrammar.Proofs.Notation.SelfDescription
import OrderedGrammar.Proofs.Notation.GroupNames
import OrderedGrammar.Proofs.Notation.Faults
import OrderedGrammar.Proofs.Matching.Failures
import OrderedGrammar.Proofs.Pattern.Extent
import OrderedGrammar.Proofs.Pattern.Groups
import OrderedGrammar.Proofs.Pattern.Shift
import OrderedGrammar.Proofs.Pattern.Closing
import OrderedGrammar.Proofs.Pattern.Alongside
import OrderedGrammar.Proofs.Pattern.Enclosing
import OrderedGrammar.Proofs.Partition
import OrderedGrammar.Proofs.Passes
import OrderedGrammar.Proofs.Refusals
import OrderedGrammar.Proofs.Validity
import OrderedGrammar.Proofs.Matching.Machine
import OrderedGrammar.Proofs.Matching.Height
import OrderedGrammar.Proofs.Matching.Nesting
import OrderedGrammar.Proofs.Matching.Endings
import OrderedGrammar.Proofs.Matching.NodeShape
import OrderedGrammar.Proofs.Matching.Termination
import OrderedGrammar.Proofs.Matching.LeftRecursion
import OrderedGrammar.Proofs.Matching.Lifting
import OrderedGrammar.Proofs.Matching.Shortcut
import OrderedGrammar.Proofs.Matching.Tracing
import OrderedGrammar.Proofs.Walking
import OrderedGrammar.Proofs.Arithmetic.Expression
import OrderedGrammar.Proofs.Arithmetic.Dialect
import OrderedGrammar.Proofs.Arithmetic.Lexing
import OrderedGrammar.Proofs.Arithmetic.Completeness
import OrderedGrammar.Proofs.Arithmetic.Soundness
import OrderedGrammar.Proofs.Arithmetic.Recognition
import OrderedGrammar.Proofs.Arithmetic.Evaluation
import OrderedGrammar.Proofs.Arithmetic.Correctness
import OrderedGrammar.Proofs.Arithmetic.Agreement
import OrderedGrammar.Proofs.Filter.Condition
import OrderedGrammar.Proofs.Filter.Rules
import OrderedGrammar.Proofs.Filter.Reading
import OrderedGrammar.Proofs.Filter.Soundness
import OrderedGrammar.Proofs.Filter.Unambiguity
import OrderedGrammar.Proofs.Filter.Evaluation
import OrderedGrammar.Proofs.Filter.Correctness
import OrderedGrammar.Proofs.Shorthand
import OrderedGrammar.Proofs.Notation.Agreement
import OrderedGrammar.Proofs.Pattern.Listing
import OrderedGrammar.Proofs.Filter.Numbers
import OrderedGrammar.Proofs.Matching.Retexting
import OrderedGrammar.Proofs.Filter.Building
import OrderedGrammar.Proofs.Schema.Definition
import OrderedGrammar.Proofs.Schema.Rules
import OrderedGrammar.Proofs.Schema.Matching
import OrderedGrammar.Proofs.Schema.Lexing
import OrderedGrammar.Proofs.Schema.Decoding
import OrderedGrammar.Proofs.Notation.Source
import OrderedGrammar.Proofs.Tree.Equality
import OrderedGrammar.Proofs.Traversal
import OrderedGrammar.Proofs.Series
import OrderedGrammar.Proofs.Tree.Printing
import OrderedGrammar.Proofs.Context.Operations
import OrderedGrammar.Proofs.Context.Accumulation
import OrderedGrammar.Proofs.Context.Cursor
