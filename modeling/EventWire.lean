import EventWire.Broker
import EventWire.Catalog
import EventWire.Config.Reading
import EventWire.Frame.Draining
import EventWire.Link
import EventWire.LogFilter
import EventWire.Proofs.BigEndian
import EventWire.Proofs.Frame.Header
import EventWire.Proofs.Frame.Sealed
import EventWire.Proofs.Frame.Search
import EventWire.Proofs.Frame.Draining
import EventWire.Proofs.Frame.Isolation
import EventWire.Proofs.Frame.Sending
import EventWire.Proofs.Frame.Provenance
import EventWire.Proofs.Frame.Loss
import EventWire.Proofs.Frame.Cutting
import EventWire.Proofs.Binary64.Rounding
import EventWire.Proofs.Binary64.Decimal
import EventWire.Proofs.Binary64.Text
import EventWire.Proofs.Event.Field
import EventWire.Proofs.Event.Table
import EventWire.Proofs.Protocol.RoundTrip
import EventWire.Proofs.Frame.Holding
import EventWire.Proofs.Protocol.Control
import EventWire.Proofs.Transport.Filter
import EventWire.Proofs.Stream.Waiting
import EventWire.Proofs.Stream.Sending
import EventWire.Proofs.Stream.Reading
import EventWire.Proofs.Stream.Greeting
import EventWire.Proofs.Stream.Handshake
import EventWire.Proofs.Stream.Agreement
import EventWire.Proofs.Stream.Lagging
import EventWire.Proofs.Stream.Turns
import EventWire.Proofs.Stream.Relaying
import EventWire.Proofs.Stream.Switch
import EventWire.Proofs.Transport.Packing
import EventWire.Proofs.Stream.Transit
import EventWire.Proofs.Stream.Delivery
import EventWire.Proofs.Stream.Giving
import EventWire.Proofs.Stream.Conversation
import EventWire.Proofs.Stream.Joining
import EventWire.Proofs.Stream.Stages
import EventWire.Proofs.Stream.Uncompressed
import EventWire.Proofs.Stream.EndToEnd
import EventWire.Proofs.Frame.Calls
import EventWire.Proofs.Frame.Backlog
import EventWire.Proofs.Frame.Attribution
import EventWire.Proofs.Frame.Canonical
import EventWire.Proofs.Protocol.Reports
import EventWire.Proofs.Transport.Unpacking
import EventWire.Proofs.Stream.Reporting
import EventWire.Proofs.Stream.Accounts
import EventWire.Proofs.Stream.Unused
import EventWire.Proofs.Stream.Ledger
import EventWire.Proofs.Frame.Merging
import EventWire.Proofs.Transport.Blocks
import EventWire.Proofs.Transport.Pipe
import EventWire.Proofs.Transport.Refusal
import EventWire.Proofs.Frame.Checksum
import EventWire.Proofs.Frame.Successive
import EventWire.Proofs.Frame.Flipping
import EventWire.Proofs.Frame.Alteration
import EventWire.Proofs.Frame.Afresh
import EventWire.Proofs.Frame.Offsets
import EventWire.Proofs.Frame.Layout
import EventWire.Proofs.Event.Values
import EventWire.Proofs.Event.Extent
import EventWire.Proofs.Protocol.Appending
import EventWire.Proofs.Protocol.Negotiation
import EventWire.Proofs.Stream.Rejecting
import EventWire.Proofs.Frame.Handover
import EventWire.Proofs.Stream.Repeating
import EventWire.Proofs.Transport.Reception
import EventWire.Proofs.Transport.Supply
import EventWire.Proofs.Stream.Resuming
import EventWire.Proofs.Stream.Timing
import EventWire.Proofs.Frame.Turns
import EventWire.Proofs.Frame.Standing
import EventWire.Proofs.Frame.Ending
import EventWire.Proofs.Stream.Counting
import EventWire.Proofs.Stream.Listening
import EventWire.Proofs.Stream.Narrow
import EventWire.Proofs.Compression.Bits
import EventWire.Proofs.Compression.Codes
import EventWire.Proofs.Compression.Lossless
import EventWire.Proofs.Config.Accepted
