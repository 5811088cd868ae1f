import CommandLink.Bench.Counting
import CommandLink.Bench.Inbound
import CommandLink.Bench.Memory
import CommandLink.Bench.Negotiation
import CommandLink.Bench.Radio
import CommandLink.Bench.Session
import CommandLink.Bench.Signals
import CommandLink.Proofs.Accounting
import CommandLink.Proofs.Attempts
import CommandLink.Proofs.Batches
import CommandLink.Proofs.BlobCodec
import CommandLink.Proofs.Boundaries
import CommandLink.Proofs.Cancellation
import CommandLink.Proofs.Capacity
import CommandLink.Proofs.Deadline
import CommandLink.Proofs.Delivery
import CommandLink.Proofs.Disconnection
import CommandLink.Proofs.Epochs
import CommandLink.Proofs.EventQueue
import CommandLink.Proofs.FittingChunks
import CommandLink.Proofs.FragmentList
import CommandLink.Proofs.Gauges
import CommandLink.Proofs.Histories
import CommandLink.Proofs.Independence
import CommandLink.Proofs.InlineErrors
import CommandLink.Proofs.Markers
import CommandLink.Proofs.NarrowNumbers
import CommandLink.Proofs.PiecewiseWriting
import CommandLink.Proofs.ProgressDocuments
import CommandLink.Proofs.ProgressReports
import CommandLink.Proofs.Reconnection
import CommandLink.Proofs.Reentrance
import CommandLink.Proofs.Refusal
import CommandLink.Proofs.Requests
import CommandLink.Proofs.ResponseCap
import CommandLink.Proofs.Retries
import CommandLink.Proofs.RoundTrip
import CommandLink.Proofs.Scratch
import CommandLink.Proofs.Waiting
import CommandLink.Proofs.WorkerStep
import CommandLink.Settings.Blob
import CommandLink.Settings.Document
