import UdpTransport.Act
import UdpTransport.Address.Basic
import UdpTransport.Address.Native
import UdpTransport.Address.Numeric
import UdpTransport.Address.Text
import UdpTransport.Buffer.Basic
import UdpTransport.Buffer.Component
import UdpTransport.Buffer.Ledger
import UdpTransport.Buffer.Memory
import UdpTransport.Bytes
import UdpTransport.Channel.Inbound
import UdpTransport.Channel.Lifecycle
import UdpTransport.Channel.Multicast
import UdpTransport.Channel.Outbound
import UdpTransport.Channel.State
import UdpTransport.Channel.WriteQueue
import UdpTransport.Endpoint.Basic
import UdpTransport.Endpoint.Memory
import UdpTransport.Endpoint.Request
import UdpTransport.EventLoop.Dispatch
import UdpTransport.EventLoop.Entry
import UdpTransport.Fault
import UdpTransport.Fault.Text
import UdpTransport.Futures
import UdpTransport.Gather
import UdpTransport.Journal
import UdpTransport.Kernel.Call
import UdpTransport.Kernel.Control
import UdpTransport.Kernel.Script
import UdpTransport.Log
import UdpTransport.Message
import UdpTransport.Named
import UdpTransport.Native
import UdpTransport.Proofs.Addresses.Bursts
import UdpTransport.Proofs.Addresses.Caches
import UdpTransport.Proofs.Addresses.Coherence
import UdpTransport.Proofs.Addresses.Dotted
import UdpTransport.Proofs.Addresses.Groups
import UdpTransport.Proofs.Addresses.Ports
import UdpTransport.Proofs.Addresses.Reports
import UdpTransport.Proofs.Addresses.RoundTrip
import UdpTransport.Proofs.Addresses.Sameness
import UdpTransport.Proofs.Addresses.Steadfast
import UdpTransport.Proofs.Addresses.Translation
import UdpTransport.Proofs.Along
import UdpTransport.Proofs.Buffers
import UdpTransport.Proofs.Buffers.Content
import UdpTransport.Proofs.Buffers.Handling
import UdpTransport.Proofs.Buffers.Lineage
import UdpTransport.Proofs.Buffers.Requests
import UdpTransport.Proofs.Buffers.Runs
import UdpTransport.Proofs.Buffers.Spreading
import UdpTransport.Proofs.Buffers.Views
import UdpTransport.Proofs.Buffers.Visits
import UdpTransport.Proofs.Burst.Delivery
import UdpTransport.Proofs.Burst.Disposal
import UdpTransport.Proofs.Burst.Fifo
import UdpTransport.Proofs.Burst.Filling
import UdpTransport.Proofs.Burst.Handle
import UdpTransport.Proofs.Burst.Loop
import UdpTransport.Proofs.Burst.Order
import UdpTransport.Proofs.Burst.Orderly
import UdpTransport.Proofs.Burst.Recording
import UdpTransport.Proofs.Burst.Round
import UdpTransport.Proofs.Burst.Senders
import UdpTransport.Proofs.Burst.Serving
import UdpTransport.Proofs.Burst.Watch
import UdpTransport.Proofs.Bytes
import UdpTransport.Proofs.Calls
import UdpTransport.Proofs.Closing.Lasting
import UdpTransport.Proofs.Closing.Over
import UdpTransport.Proofs.Closing.Runs
import UdpTransport.Proofs.Descriptors.Making
import UdpTransport.Proofs.Descriptors.Population
import UdpTransport.Proofs.Descriptors.Sockets
import UdpTransport.Proofs.Descriptors.Trace
import UdpTransport.Proofs.Effects
import UdpTransport.Proofs.Endpoints
import UdpTransport.Proofs.Interest.Board
import UdpTransport.Proofs.Interest.Bursts
import UdpTransport.Proofs.Interest.Detached
import UdpTransport.Proofs.Interest.Endpoints
import UdpTransport.Proofs.Interest.Registering
import UdpTransport.Proofs.Interest.Runs
import UdpTransport.Proofs.Interest.Tuning
import UdpTransport.Proofs.Ledger
import UdpTransport.Proofs.Lifecycle.Activity
import UdpTransport.Proofs.Lifecycle.AllOrNothing
import UdpTransport.Proofs.Lifecycle.Halves
import UdpTransport.Proofs.Lifecycle.Refusal
import UdpTransport.Proofs.Lifecycle.Standing
import UdpTransport.Proofs.Memory.Balance
import UdpTransport.Proofs.Memory.Bench
import UdpTransport.Proofs.Memory.Channels
import UdpTransport.Proofs.Memory.Custody
import UdpTransport.Proofs.Memory.Ending
import UdpTransport.Proofs.Memory.Objects
import UdpTransport.Proofs.Memory.Receiving
import UdpTransport.Proofs.Memory.Scenario
import UdpTransport.Proofs.Memory.Sending
import UdpTransport.Proofs.Memory.Stations
import UdpTransport.Proofs.Mirrors
import UdpTransport.Proofs.Names
import UdpTransport.Proofs.Outbound.AllOrNothing
import UdpTransport.Proofs.Outbound.Datagram
import UdpTransport.Proofs.Outbound.Gather
import UdpTransport.Proofs.Outbound.Limits
import UdpTransport.Proofs.Outbound.Offer
import UdpTransport.Proofs.Outbound.Prepare
import UdpTransport.Proofs.Outbound.Remainder
import UdpTransport.Proofs.Outbound.Shapes
import UdpTransport.Proofs.Receive.Adapting
import UdpTransport.Proofs.Receive.Bounds
import UdpTransport.Proofs.Receive.Lookups
import UdpTransport.Proofs.Receive.Totals
import UdpTransport.Proofs.Registry.Agreement
import UdpTransport.Proofs.Registry.Batch
import UdpTransport.Proofs.Registry.Channels
import UdpTransport.Proofs.Registry.Entering
import UdpTransport.Proofs.Registry.Entries
import UdpTransport.Proofs.Registry.Members
import UdpTransport.Proofs.Registry.Moves
import UdpTransport.Proofs.Registry.Runs
import UdpTransport.Proofs.Registry.Sight
import UdpTransport.Proofs.Registry.Sites
import UdpTransport.Proofs.Registry.Sound
import UdpTransport.Proofs.Repetition
import UdpTransport.Proofs.Sizing
import UdpTransport.Proofs.Stations
import UdpTransport.Proofs.Transfers
import UdpTransport.Proofs.Transfers.Operations
import UdpTransport.Proofs.Transfers.Settling
import UdpTransport.Proofs.Triples
import UdpTransport.Proofs.Watch
import UdpTransport.Proofs.WriteQueue.Accounts
import UdpTransport.Proofs.WriteQueue.Attempts
import UdpTransport.Proofs.WriteQueue.Copies
import UdpTransport.Proofs.WriteQueue.History
import UdpTransport.Proofs.WriteQueue.Likeness
import UdpTransport.Proofs.WriteQueue.Operations
import UdpTransport.Proofs.WriteQueue.Pursuits
import UdpTransport.Proofs.WriteQueue.ShortWrites
import UdpTransport.Proofs.WriteQueue.Tapping
import UdpTransport.Receive.Handle
import UdpTransport.Receive.Policy
import UdpTransport.Receive.SizeTable
import UdpTransport.Scenario.Buffers
import UdpTransport.Scenario.Channels
import UdpTransport.Scenario.Making
import UdpTransport.Scenario.Report
import UdpTransport.Scenario.Run
import UdpTransport.Scenario.Sockets
import UdpTransport.Scenario.Spec
import UdpTransport.Scenario.Step
import UdpTransport.Scenario.World
import UdpTransport.Socket.Basic
import UdpTransport.Socket.Lifecycle
import UdpTransport.Socket.Options
import UdpTransport.Socket.Transfer
import UdpTransport.Transport
