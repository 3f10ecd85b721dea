import RenderRelay.Channel
import RenderRelay.Command
import RenderRelay.Command.Opcode
import RenderRelay.Command.Parameters
import RenderRelay.Dispatcher
import RenderRelay.Driver
import RenderRelay.Driver.Argument
import RenderRelay.Driver.Bench
import RenderRelay.Driver.Call
import RenderRelay.Driver.Native
import RenderRelay.Driver.Recorder
import RenderRelay.Engine
import RenderRelay.Engine.Image
import RenderRelay.Engine.Legal
import RenderRelay.Engine.Objects
import RenderRelay.Engine.Plan
import RenderRelay.Engine.Query
import RenderRelay.Engine.Rendering
import RenderRelay.Engine.Scope
import RenderRelay.Engine.Setters
import RenderRelay.EntryPoint
import RenderRelay.Enumerant
import RenderRelay.Handle
import RenderRelay.NameMap
import RenderRelay.NameTable
import RenderRelay.Registry
import RenderRelay.Registry.Arena
import RenderRelay.Reply
import RenderRelay.Ring
import RenderRelay.Ring.Transfer
import RenderRelay.Scalar
import RenderRelay.Settings
import RenderRelay.Shadow
import RenderRelay.Shadow.Attribs
import RenderRelay.Shadow.Limits
import RenderRelay.Shadow.Locations
import RenderRelay.Shadow.Report
import RenderRelay.Stats
import RenderRelay.Text.Blank
import RenderRelay.Text.Hex
import RenderRelay.Text.Hidden
import RenderRelay.Text.Quoted
import RenderRelay.Wire.Bytes
import RenderRelay.Wire.Field
import RenderRelay.Wire.Record
import RenderRelay.Proofs.Ring.Queue
import RenderRelay.Proofs.Ring.Transfer
import RenderRelay.Proofs.Wire.Replies
import RenderRelay.Proofs.Wire.RoundTrip
import RenderRelay.Proofs.Engine.History
import RenderRelay.Proofs.Engine.Repetition
import RenderRelay.Proofs.Engine.Replies
import RenderRelay.Proofs.Engine.Counter
import RenderRelay.Proofs.Engine.Direct
import RenderRelay.Proofs.Channel.Stream
import RenderRelay.Proofs.Channel.Lengths
import RenderRelay.Proofs.Channel.Tokens
import RenderRelay.Proofs.Dispatcher.Relay
import RenderRelay.Proofs.Dispatcher.Refinement
import RenderRelay.Proofs.Dispatcher.Faithful
import RenderRelay.Proofs.Dispatcher.Cursor
import RenderRelay.Proofs.Dispatcher.Feed
import RenderRelay.Proofs.Dispatcher.Session
import RenderRelay.Proofs.Dispatcher.Following
import RenderRelay.Proofs.Dispatcher.Progress
import RenderRelay.Proofs.Registry.Coherence
import RenderRelay.Proofs.Registry.Currency
import RenderRelay.Proofs.Registry.Destruction
import RenderRelay.Proofs.Registry.Switching
import RenderRelay.Proofs.Wire.Grammar
import RenderRelay.Proofs.Registry.Custody
import RenderRelay.Proofs.Registry.Distinct
import RenderRelay.Proofs.Engine.Management
import RenderRelay.Proofs.Engine.Fleet
import RenderRelay.Proofs.Engine.Acts
import RenderRelay.Proofs.Shadow.Attribs
import RenderRelay.Proofs.Shadow.Values
import RenderRelay.Proofs.Engine.Plans
import RenderRelay.Proofs.Engine.Mirror
import RenderRelay.Proofs.Engine.Isolation
import RenderRelay.Proofs.Engine.Frames
import RenderRelay.Proofs.Engine.Guard
import RenderRelay.Proofs.Engine.Locations
import RenderRelay.Proofs.Engine.Errors
import RenderRelay.Proofs.Engine.Names
import RenderRelay.Proofs.Engine.Rebinding
import RenderRelay.Proofs.Engine.Bindings
import RenderRelay.Proofs.Engine.Conservation
import RenderRelay.Proofs.Engine.Refusals
import RenderRelay.Proofs.Engine.Shortcut
import RenderRelay.Proofs.Engine.Documented
import RenderRelay.Proofs.Engine.Redundancy
import RenderRelay.Proofs.Dispatcher.Retries
import RenderRelay.Proofs.Dispatcher.Waiting
import RenderRelay.Proofs.Engine.Uploads
import RenderRelay.Proofs.Registry.Marks
import RenderRelay.Proofs.Registry.Lives
import RenderRelay.Proofs.Shadow.Edits
import RenderRelay.Proofs.Driver.Attributes
