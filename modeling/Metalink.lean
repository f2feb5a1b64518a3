import Metalink.Draft
import Metalink.FileTree
import Metalink.Main
import Metalink.Proofs.Verification.Candidates
import Metalink.Reader.Tree
import Metalink.Schema.Records
import Metalink.Proofs.Reader.Offer
import Metalink.Proofs.Reader.Walk
import Metalink.Proofs.Reader.Validity
import Metalink.Proofs.Reader.Grammar
import Metalink.Proofs.CommandLine.Verify
import Metalink.Proofs.Reader.Outcome
import Metalink.Proofs.Reader.Latch
import Metalink.Proofs.Reader.Elements
import Metalink.Proofs.Xml.Content
import Metalink.Proofs.Xml.TextBuffer
import Metalink.Proofs.CommandLine.Naming
import Metalink.Proofs.Reader.Escape
import Metalink.Proofs.Xml.DeclaredEncoding
import Metalink.Proofs.CommandLine.Escapes
import Metalink.Proofs.Reader.Leaf
import Metalink.Proofs.Reader.Precedence
import Metalink.Proofs.Verification.Downgrade
import Metalink.Proofs.Verification.Restatement
import Metalink.Proofs.Reader.Erasure
import Metalink.Proofs.Reader.Indentation
import Metalink.Proofs.Verification.Compliance
import Metalink.Proofs.Draft.Layout
import Metalink.Proofs.Draft.RoundTrip
import Metalink.Proofs.Schema.Records
import Metalink.Proofs.Reader.Soundness
import Metalink.Proofs.Reader.Composition
import Metalink.Proofs.Digest.ReadLoop
import Metalink.Proofs.Verification.Consistency
import Metalink.Proofs.Verification.Account
import Metalink.Proofs.Verification.Examination
import Metalink.Proofs.Reader.Interruption
import Metalink.Proofs.Reader.Integers
import Metalink.Proofs.Reader.Rearrangement
import Metalink.Proofs.Document.MirrorOrder
import Metalink.Proofs.Session.Logging
import Metalink.Proofs.Text.HexCodec
import Metalink.Proofs.Verification.Decoding
