import Amalgam.Main
import Amalgam.Proofs.Token
import Amalgam.Proofs.Merge.Run
import Amalgam.Proofs.Merge.Accounting
import Amalgam.Proofs.Text
import Amalgam.Proofs.Merge.Provenance
import Amalgam.Proofs.Marker
import Amalgam.Proofs.Classify.Scan
import Amalgam.Proofs.Span
import Amalgam.Proofs.Classify.Partition
import Amalgam.Proofs.Classify.Shape
import Amalgam.Proofs.Classify.Memory
import Amalgam.Proofs.Classify.Append
import Amalgam.Proofs.Classify.Construct
import Amalgam.Proofs.Merge.Termination
import Amalgam.Proofs.Stage.Lines
import Amalgam.Proofs.Literal
import Amalgam.Proofs.Classify.Cut
import Amalgam.Proofs.Stage.Visibility
import Amalgam.Proofs.FileTree.Replace
import Amalgam.Proofs.Execute
import Amalgam.Proofs.FileTree.Rooted
import Amalgam.Proofs.Merge.Resolution
import Amalgam.Proofs.FileTree.Joined
import Amalgam.Proofs.Merge.Search
import Amalgam.Proofs.Stage.Labels
import Amalgam.Proofs.Stage.Statement
import Amalgam.Proofs.Stage.Payload
import Amalgam.Proofs.Stage.Comment
import Amalgam.Proofs.Failure
import Amalgam.Proofs.Wrap
import Amalgam.Proofs.Paragraph
import Amalgam.Proofs.Stage.Settled
import Amalgam.Proofs.Registry
import Amalgam.Proofs.Include
import Amalgam.Proofs.Path.Normal
import Amalgam.Proofs.Registry.History
import Amalgam.Proofs.Literal.Parity
import Amalgam.Proofs.Path.Literal
