import TensorGraph.Engine.Recorder
import TensorGraph.Exchange.Call
import TensorGraph.Exchange.Graph
import TensorGraph.Exchange.Statistics
import TensorGraph.Graph.Builder
import TensorGraph.Json.Reader
import TensorGraph.Json.Writer
import TensorGraph.Logging
import TensorGraph.Proofs.Convolution
import TensorGraph.Proofs.Injection
import TensorGraph.Proofs.Ledger
import TensorGraph.Proofs.Pooling
import TensorGraph.Proofs.Refinement
import TensorGraph.Proofs.Refusal
import TensorGraph.Proofs.Requests
import TensorGraph.Proofs.Sufficiency
import TensorGraph.Proofs.Tandem
import TensorGraph.Run.Step
import TensorGraph.Proofs.Mirror
import TensorGraph.Proofs.Preparation
import TensorGraph.Proofs.Offender
import TensorGraph.Proofs.OwnNames
import TensorGraph.Proofs.Accounting
import TensorGraph.Proofs.Replay
import TensorGraph.Proofs.Defaults
import TensorGraph.Proofs.Declarations
import TensorGraph.Proofs.RoundTrip
import TensorGraph.Proofs.Spellings
import TensorGraph.Proofs.StandIn
import TensorGraph.Proofs.Padding
import TensorGraph.Proofs.Transposition
import TensorGraph.Proofs.Slicing
import TensorGraph.Proofs.Constants
import TensorGraph.Proofs.Reductions
import TensorGraph.Proofs.Channels
import TensorGraph.Proofs.Kinds
import TensorGraph.Proofs.Unimplemented
import TensorGraph.Proofs.Words
import TensorGraph.Proofs.Searching
import TensorGraph.Proofs.Timings
