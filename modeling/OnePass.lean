import OnePass.Json.Text
import OnePass.Json.Reader
import OnePass.Queue.Text
import OnePass.Plan
import OnePass.Failure
import OnePass.Interleaving.Build
import OnePass.Interleaving.Obtain
import OnePass.Scalar.Codec
import OnePass.Formula.Callback
import OnePass.Seed.Faulty
import OnePass.Staged
import OnePass.Proofs.Cache.History
import OnePass.Proofs.Cache.Independence
import OnePass.Proofs.Cache.SharedSeed
import OnePass.Proofs.Calls.Abort
import OnePass.Proofs.Calls.Mending
import OnePass.Proofs.Calls.Projection
import OnePass.Proofs.Calls.Record
import OnePass.Proofs.Calls.Segment
import OnePass.Proofs.Fusion.Chain
import OnePass.Proofs.Fusion.Run
import OnePass.Proofs.Interleaving.Linearization
import OnePass.Proofs.Interleaving.Obtain
import OnePass.Proofs.Staged.Terminal
import OnePass.Proofs.Build.History
import OnePass.Proofs.Interleaving.Build
import OnePass.Proofs.Declaring
import OnePass.Proofs.Embedding.Lasting
import OnePass.Proofs.Observing
import OnePass.Proofs.Planning
import OnePass.Proofs.Searching
import OnePass.Proofs.Stopping.Append
import OnePass.Proofs.Stopping.Point
import OnePass.Proofs.Cache.Log
import OnePass.Proofs.Contextual
import OnePass.Proofs.Counting.Dense
import OnePass.Proofs.Queue.Flags
import OnePass.Proofs.Queue.Text
import OnePass.Proofs.Wrapping
