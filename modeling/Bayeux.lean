import Bayeux.Main
import Bayeux.Session.Step
import Bayeux.Proofs.Benchmark.Report
import Bayeux.Proofs.ByteSize.RoundTrip
import Bayeux.Proofs.Codec.Gunzip
import Bayeux.Proofs.Codec.RoundTrip
import Bayeux.Proofs.Gzip.Bits
import Bayeux.Proofs.Gzip.Coding
import Bayeux.Proofs.Gzip.Matching
import Bayeux.Proofs.Gzip.RoundTrip
import Bayeux.Proofs.Store.Advance
import Bayeux.Proofs.Table
import Bayeux.Proofs.Session.Advance
import Bayeux.Proofs.Session.Attempts
import Bayeux.Proofs.Session.Changes
import Bayeux.Proofs.Session.Copies
import Bayeux.Proofs.Session.Failures
import Bayeux.Proofs.Session.Freezing
import Bayeux.Proofs.Session.FromMessage
import Bayeux.Proofs.Session.HandedOut
import Bayeux.Proofs.Session.Immutable
import Bayeux.Proofs.Session.Liveness
import Bayeux.Proofs.Session.Lookup
import Bayeux.Proofs.Session.Reading
import Bayeux.Proofs.Session.Reclaimed
import Bayeux.Proofs.Session.Rendering
import Bayeux.Proofs.Session.Representation
import Bayeux.Proofs.Session.Window
import Bayeux.Proofs.Session.Wire
import Bayeux.Proofs.Settings.Channels
import Bayeux.Proofs.Settings.Precedence
