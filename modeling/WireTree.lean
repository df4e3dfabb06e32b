import WireTree.Compilation.Decode
import WireTree.Format.Tree
import WireTree.Format.Wire
import WireTree.Format.Writer
import WireTree.Loading
import WireTree.Sequence
import WireTree.Proofs.Relation
import WireTree.Proofs.Outcome
import WireTree.Proofs.Trace
import WireTree.Proofs.Table
import WireTree.Proofs.Documentation
import WireTree.Proofs.TwosComplement
import WireTree.Proofs.Selection.Basic
import WireTree.Proofs.Selection.Characteristics
import WireTree.Proofs.Selection.ResolvedType
import WireTree.Proofs.Selection.Expression
import WireTree.Proofs.Selection.Simple
import WireTree.Proofs.Faults
import WireTree.Proofs.Decodes
import WireTree.Proofs.Agreement
import WireTree.Proofs.Encoding
import WireTree.Proofs.Spelling.Basic
import WireTree.Proofs.Spelling.Shared
import WireTree.Proofs.Spelling.Tree
import WireTree.Proofs.RoundTrip
import WireTree.Proofs.Calls
import WireTree.Proofs.Conformance.Basic
import WireTree.Proofs.Conformance.Reading
import WireTree.Proofs.Conformance.Nesting
import WireTree.Proofs.Places.Basic
import WireTree.Proofs.Places.Congruence
import WireTree.Proofs.Places.Acceptance
import WireTree.Proofs.Places.Members
import WireTree.Proofs.Conformance.Wire
import WireTree.Proofs.Variants.Basic
import WireTree.Proofs.Variants.Plain
import WireTree.Proofs.Variants.Held
import WireTree.Proofs.Variants.Reading
import WireTree.Compilation.Parallel
import WireTree.Proofs.Parallel
import WireTree.Proofs.Zeros.Basic
import WireTree.Proofs.Zeros.Slots
import WireTree.Proofs.Zeros.Expression
import WireTree.Proofs.Zeros.Declaration
import WireTree.Proofs.Zeros.Compilation
import WireTree.Proofs.Records.Regular
import WireTree.Proofs.Records.Wire
import WireTree.Proofs.Records.Notation
import WireTree.Proofs.Records.Absence
import WireTree.Proofs.Grouping
import WireTree.Proofs.Conformance.Room
import WireTree.Proofs.Log
import WireTree.Proofs.Records.Refused
import WireTree.Proofs.Prefix.Growth
import WireTree.Proofs.Prefix.Lasting
import WireTree.Proofs.Prefix.Text
import WireTree.Proofs.Integers.Field
import WireTree.Proofs.Integers.Text
import WireTree.Proofs.Provenance.Basic
import WireTree.Proofs.Integers.Place
import WireTree.Proofs.Kinds.Active
import WireTree.Proofs.Kinds.Reported
import WireTree.Proofs.Depth.Chains
import WireTree.Proofs.Depth.Wire
import WireTree.Proofs.Depth.Contents
import WireTree.Proofs.Depth.Mirror
import WireTree.Proofs.Depth.Attained
import WireTree.Proofs.Depth.Bounds
import WireTree.Proofs.SignMagnitude.Basic
import WireTree.Proofs.SignMagnitude.Literal
import WireTree.Proofs.Order.Text
import WireTree.Proofs.Order.Laws
