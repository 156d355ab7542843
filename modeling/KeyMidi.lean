import KeyMidi.Decimal.Shortest
import KeyMidi.Decimal.Text
import KeyMidi.Numeric.Double
import KeyMidi.Midi.Hex
import KeyMidi.Midi.Message
import KeyMidi.Midi.Scale
import KeyMidi.Analog.Shape
import KeyMidi.Collision
import KeyMidi.Notes.Voice
import KeyMidi.Notes.Tracker
import KeyMidi.Notes.Counts
import KeyMidi.Notes.External
import KeyMidi.Action
import KeyMidi.Device.Identity
import KeyMidi.Profile.Basic
import KeyMidi.Engine.State
import KeyMidi.Doc
import KeyMidi.Yaml.Mark
import KeyMidi.Yaml.Token
import KeyMidi.Yaml.Token.Read
import KeyMidi.Yaml.Event
import KeyMidi.Yaml.Event.Read
import KeyMidi.Yaml.Node
import KeyMidi.Yaml.Decode
import KeyMidi.Yaml.Loose
import KeyMidi.Profile.Read
import KeyMidi.Profile.Check
import KeyMidi.Profile.Error
import KeyMidi.Profile.Write
import KeyMidi.Engine.Machine
import KeyMidi.Engine.Axis
import KeyMidi.Engine.Process
import KeyMidi.Device.Physical
import KeyMidi.Text.Case
import KeyMidi.Report
import KeyMidi.Settings.Basic
import KeyMidi.Settings.Read
import KeyMidi.Settings.Write
import KeyMidi.Store.Tree
import KeyMidi.Store.Load
import KeyMidi.Discovery.Stabilizer
import KeyMidi.Shutdown
import KeyMidi.Device.Failure
import KeyMidi.Fanout
import KeyMidi.Input.Throttle
import KeyMidi.Manager.World
import KeyMidi.Manager.Tasks
import KeyMidi.Manager.Session
import KeyMidi.Store.Watch
import KeyMidi.Store.Disk
import KeyMidi.Text.Blank
import KeyMidi.Text.Letter
import KeyMidi.Environment
import KeyMidi.Log.Filter
import KeyMidi.Cli.Args
import KeyMidi.Cli.Run
import KeyMidi.Main
import KeyMidi.Proofs.Profile.WellFormed
import KeyMidi.Proofs.Notes.Ledger
import KeyMidi.Proofs.Notes.Chord
import KeyMidi.Proofs.Midi.Receiver
import KeyMidi.Proofs.Engine.Effects
import KeyMidi.Proofs.Engine.Acting
import KeyMidi.Proofs.Engine.Invariant
import KeyMidi.Proofs.Engine.Moving
import KeyMidi.Proofs.Engine.Steps
import KeyMidi.Proofs.Engine.Runs
import KeyMidi.Proofs.Engine.Silence
import KeyMidi.Proofs.Engine.Agreement
import KeyMidi.Proofs.Engine.Bounds
import KeyMidi.Proofs.Engine.Collision
import KeyMidi.Proofs.Midi.Codec
import KeyMidi.Proofs.Fanout.Registry
import KeyMidi.Proofs.Fanout.Delivery
import KeyMidi.Proofs.Manager.Bookkeeping
import KeyMidi.Proofs.Manager.Invariant
import KeyMidi.Proofs.Manager.Devices
import KeyMidi.Proofs.Manager.Runs
import KeyMidi.Proofs.Manager.Scheduler
import KeyMidi.Proofs.Engine.Panic
import KeyMidi.Proofs.Engine.Sources
import KeyMidi.Proofs.Engine.Layers
import KeyMidi.Proofs.Engine.ExitChord
import KeyMidi.Proofs.Engine.Sides
import KeyMidi.Proofs.Midi.Decoding
import KeyMidi.Proofs.Engine.Stream
import KeyMidi.Proofs.Discovery.Stability
import KeyMidi.Proofs.Input.Gates
import KeyMidi.Proofs.Input.Origins
import KeyMidi.Proofs.Input.ThrottledStream
import KeyMidi.Proofs.Notes.Mirror
import KeyMidi.Proofs.Profile.Validity
import KeyMidi.Proofs.Store.Resolution
import KeyMidi.Proofs.Manager.Reloading
import KeyMidi.Proofs.Engine.Multinote
import KeyMidi.Proofs.Manager.Opening
