import Courier.Access
import Courier.Bytes
import Courier.Carrier
import Courier.Cli.Arguments
import Courier.Cli.Exit
import Courier.Cli.Listen
import Courier.Cli.Options
import Courier.Cli.Output
import Courier.Cli.Program
import Courier.Cli.Send
import Courier.Cli.Timeout
import Courier.Cli.Version
import Courier.Command.Board
import Courier.Command.Lock
import Courier.Command.Processor
import Courier.Command.Router
import Courier.Command.Thread
import Courier.Command.Word
import Courier.Frame.Basic
import Courier.Frame.Codec
import Courier.Frame.Error
import Courier.Frame.Kind
import Courier.Frame.Reader
import Courier.Frame.Stream
import Courier.Frame.Wire
import Courier.Frame.Writer
import Courier.Host
import Courier.IoError
import Courier.Network.Address
import Courier.Network.Destination
import Courier.Network.Sender
import Courier.Port
import Courier.Proofs.Frame.Agreement
import Courier.Proofs.Frame.Buffering
import Courier.Proofs.Frame.Limits
import Courier.Proofs.Frame.Chunks
import Courier.Proofs.Frame.Conservation
import Courier.Proofs.Frame.FirstFrame
import Courier.Proofs.Frame.Grammar
import Courier.Proofs.Frame.RoundTrip
import Courier.Proofs.Frame.Taking
import Courier.Proofs.Frame.Canonical
import Courier.Proofs.Frame.Turns
import Courier.Queue.Name
import Courier.Queue.Receiver
import Courier.Queue.Sender
import Courier.Reception.Error
import Courier.Reception.Handler
import Courier.Reception.Inbox
import Courier.Reception.Pool
import Courier.Reception.Server
import Courier.Reception.Tally
import Courier.Sink
import Courier.Span
import Courier.Store.Basic
import Courier.Store.Path
import Courier.Store.Source
import Courier.Table
import Courier.Text.Blank
import Courier.Text.Boxed
import Courier.Text.Columns
import Courier.Text.Columns.Character
import Courier.Text.Columns.Emoji
import Courier.Text.Columns.Tail
import Courier.Text.Decimal
import Courier.Text.Json
import Courier.Text.Pieces
import Courier.Text.Printable
import Courier.Text.Quoted
import Courier.Text.Ranges
import Courier.Text.Record
import Courier.Text.Utf8
import Courier.Transport.Basic
import Courier.Transport.Error
import Courier.Main
import Courier.Proofs.Frame.Sending
import Courier.Proofs.Frame.ReadBack
import Courier.Proofs.Sink.Appending
import Courier.Proofs.Network.Connections
import Courier.Proofs.Command.Routing
import Courier.Proofs.Command.Log
import Courier.Proofs.Command.Switching
import Courier.Proofs.Command.Words
import Courier.Proofs.Reception.Letters
import Courier.Proofs.Queue.Passing
import Courier.Proofs.Reception.Delivery
import Courier.Proofs.Port.Text
import Courier.Proofs.Carrier.History
import Courier.Proofs.Transport.Handing
import Courier.Proofs.Reception.Shift
import Courier.Proofs.Reception.Accounting
import Courier.Proofs.Store.Tree
import Courier.Proofs.Queue.Binding
import Courier.Proofs.Queue.Ownership
import Courier.Proofs.Queue.Traffic
import Courier.Proofs.Reception.Teardown
import Courier.Proofs.Reception.Lifecycle
import Courier.Proofs.Reception.Settling
import Courier.Proofs.Cli.Listening
import Courier.Proofs.Frame.Interchange
import Courier.Proofs.Store.Joining
import Courier.Proofs.Queue.Naming
import Courier.Proofs.Command.Calling
import Courier.Proofs.Reception.Effects
import Courier.Proofs.Sink.Room
import Courier.Proofs.Carrier.Keeping
import Courier.Transport.Stored
import Courier.Proofs.Text.Numerals
import Courier.Proofs.Text.Json
import Courier.Proofs.Text.Trimming
import Courier.Proofs.Text.Objects
import Courier.Proofs.Network.Addresses
import Courier.Proofs.Cli.Counting
import Courier.Proofs.Cli.Refusals
import Courier.Proofs.Cli.Timeouts
import Courier.Proofs.Cli.Lines
import Courier.Proofs.Text.Tables
import Courier.Proofs.Cli.Reports
import Courier.Proofs.Cli.Stages
import Courier.Proofs.Command.Scripts
import Courier.Proofs.Command.Nesting
