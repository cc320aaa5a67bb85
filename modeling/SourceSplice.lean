import SourceSplice.Command
import SourceSplice.Command.Arguments
import SourceSplice.Config
import SourceSplice.Directive
import SourceSplice.Directive.Grammar
import SourceSplice.Event
import SourceSplice.Event.Replay
import SourceSplice.EventStream
import SourceSplice.Excerpt
import SourceSplice.Expansion
import SourceSplice.Fault
import SourceSplice.Feed
import SourceSplice.FileHandle
import SourceSplice.FileSystem
import SourceSplice.FileSystem.Cursor
import SourceSplice.FileSystem.Faulty
import SourceSplice.FileSystem.Memory
import SourceSplice.FileSystem.Tree
import SourceSplice.Generator.Chain
import SourceSplice.Generator.Client
import SourceSplice.Generator.Integer
import SourceSplice.Generator.Lookahead
import SourceSplice.Generator.Network
import SourceSplice.Generator.Session
import SourceSplice.Generator.Stage
import SourceSplice.Handoff
import SourceSplice.Handoff.Exchange
import SourceSplice.Handoff.Threads
import SourceSplice.Log
import SourceSplice.Main
import SourceSplice.Output
import SourceSplice.Peekable
import SourceSplice.Pipeline
import SourceSplice.Pipeline.Threads
import SourceSplice.Preprocess
import SourceSplice.Program
import SourceSplice.Proofs.ChainDelivery
import SourceSplice.Proofs.CycleCheck
import SourceSplice.Proofs.DepthLimit
import SourceSplice.Proofs.DirectiveReading
import SourceSplice.Proofs.ErrorPlaces
import SourceSplice.Proofs.EventLog
import SourceSplice.Proofs.FileLines
import SourceSplice.Proofs.HandoffDelivery
import SourceSplice.Proofs.HandoffWaking
import SourceSplice.Proofs.LineReading
import SourceSplice.Proofs.NetworkBackpressure
import SourceSplice.Proofs.NetworkCancellation
import SourceSplice.Proofs.NetworkDelivery
import SourceSplice.Proofs.NetworkInvariant
import SourceSplice.Proofs.NetworkStarvation
import SourceSplice.Proofs.OpenedPaths
import SourceSplice.Proofs.PipelineResult
import SourceSplice.Proofs.PreprocessedSource
import SourceSplice.Proofs.ReaderContent
import SourceSplice.Proofs.ReaderRelease
import SourceSplice.Proofs.RecordReading
import SourceSplice.Proofs.ReportReading
import SourceSplice.Proofs.ScanExpansion
import SourceSplice.Proofs.ScanReplay
import SourceSplice.Proofs.ScanStatistics
import SourceSplice.Proofs.ScanTermination
import SourceSplice.Proofs.ScanThreadInvariant
import SourceSplice.Proofs.ScanThreadSteps
import SourceSplice.Proofs.ScanThreadTermination
import SourceSplice.Proofs.StageComposition
import SourceSplice.RawPath
import SourceSplice.Reader
import SourceSplice.Record
import SourceSplice.Record.Reader
import SourceSplice.Report
import SourceSplice.RunError
import SourceSplice.ScanError
import SourceSplice.Scanner
import SourceSplice.Scanner.Live
import SourceSplice.Scanner.Threads
import SourceSplice.Session
import SourceSplice.Tap
import SourceSplice.Text.Blank
import SourceSplice.Text.Printable
import SourceSplice.Text.Quoted
import SourceSplice.Writer
import SourceSplice.Peekable.Client
import SourceSplice.Proofs.ExcerptColumns
import SourceSplice.Proofs.UnobservedPeeking
import SourceSplice.FileSystem.Clones
import SourceSplice.Proofs.MemoryStoreHistory
