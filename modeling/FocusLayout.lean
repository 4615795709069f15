import FocusLayout.CommandLine.Basic
import FocusLayout.CommandLine.Help
import FocusLayout.CommandLine.Reading
import FocusLayout.Config.Basic
import FocusLayout.Config.Environment
import FocusLayout.Config.Load
import FocusLayout.Config.Reading
import FocusLayout.Config.Validation
import FocusLayout.Data.Brief
import FocusLayout.Data.Pairs
import FocusLayout.Data.Toml.Document
import FocusLayout.Data.Toml.Scalar
import FocusLayout.Data.Toml.Table
import FocusLayout.Data.Value
import FocusLayout.Display.Connection
import FocusLayout.Display.Focus
import FocusLayout.Display.Keyboard
import FocusLayout.Display.Library
import FocusLayout.Display.Record
import FocusLayout.Display.Routes
import FocusLayout.Display.Scene
import FocusLayout.Display.Shares
import FocusLayout.Display.World
import FocusLayout.Failure
import FocusLayout.Focus.Schedule
import FocusLayout.Focus.Source
import FocusLayout.Focus.Watcher
import FocusLayout.Layout.Backend
import FocusLayout.Layout.Keyboard
import FocusLayout.Layout.Names
import FocusLayout.Layout.Script
import FocusLayout.Layout.Switcher
import FocusLayout.Log
import FocusLayout.Log.Filter
import FocusLayout.Main
import FocusLayout.Number.Binary64
import FocusLayout.Number.Whole
import FocusLayout.Pattern.Basic
import FocusLayout.Pattern.Matching
import FocusLayout.Pattern.Meaning
import FocusLayout.Pattern.Reader
import FocusLayout.Pattern.Size
import FocusLayout.Pattern.Tree
import FocusLayout.Program.Commands
import FocusLayout.Program.Run
import FocusLayout.Proofs.Config.Agreement
import FocusLayout.Proofs.Config.FirstFault
import FocusLayout.Proofs.Config.Layers
import FocusLayout.Proofs.Config.Loading
import FocusLayout.Proofs.Config.Variables
import FocusLayout.Proofs.Data.Keys
import FocusLayout.Proofs.Data.Merge
import FocusLayout.Proofs.Display.Asking
import FocusLayout.Proofs.Display.Attribution
import FocusLayout.Proofs.Display.Connection
import FocusLayout.Proofs.Display.DryRun
import FocusLayout.Proofs.Display.Fallback
import FocusLayout.Proofs.Display.Flags
import FocusLayout.Proofs.Display.FocusQuery
import FocusLayout.Proofs.Display.History
import FocusLayout.Proofs.Display.Keyboard
import FocusLayout.Proofs.Display.LayoutNames
import FocusLayout.Proofs.Display.Request
import FocusLayout.Proofs.Display.Routing
import FocusLayout.Proofs.Display.Shares
import FocusLayout.Proofs.Display.Steady
import FocusLayout.Proofs.Display.Stray
import FocusLayout.Proofs.Display.Threads
import FocusLayout.Proofs.Display.Use
import FocusLayout.Proofs.Focus.Announcing
import FocusLayout.Proofs.Focus.Calls
import FocusLayout.Proofs.Focus.Cycling
import FocusLayout.Proofs.Focus.Events
import FocusLayout.Proofs.Focus.Failing
import FocusLayout.Proofs.Focus.Invariant
import FocusLayout.Proofs.Focus.Observation
import FocusLayout.Proofs.Focus.Parts
import FocusLayout.Proofs.Focus.Poll
import FocusLayout.Proofs.Focus.Recovery
import FocusLayout.Proofs.Focus.Requests
import FocusLayout.Proofs.Focus.Rules
import FocusLayout.Proofs.Focus.Run
import FocusLayout.Proofs.Focus.Schedule
import FocusLayout.Proofs.Focus.Timing
import FocusLayout.Proofs.Focus.Transparency
import FocusLayout.Proofs.Focus.Watch
import FocusLayout.Proofs.Layout.Calls
import FocusLayout.Proofs.Layout.Course
import FocusLayout.Proofs.Layout.Failing
import FocusLayout.Proofs.Layout.Faithful
import FocusLayout.Proofs.Layout.Honest
import FocusLayout.Proofs.Layout.LastLock
import FocusLayout.Proofs.Layout.Names
import FocusLayout.Proofs.Layout.Operations
import FocusLayout.Proofs.Layout.Parts
import FocusLayout.Proofs.Layout.ReadOnce
import FocusLayout.Proofs.Layout.Record
import FocusLayout.Proofs.Layout.Rotation
import FocusLayout.Proofs.Layout.Switching
import FocusLayout.Proofs.Layout.Telling
import FocusLayout.Proofs.Program.Closing
import FocusLayout.Proofs.Program.Connecting
import FocusLayout.Proofs.Program.DryRun
import FocusLayout.Proofs.Program.Holding
import FocusLayout.Proofs.Program.Invariant
import FocusLayout.Proofs.Program.LayoutCommand
import FocusLayout.Proofs.Program.Lines
import FocusLayout.Proofs.Program.Parts
import FocusLayout.Proofs.Program.Preparing
import FocusLayout.Proofs.Program.Sharing
import FocusLayout.Proofs.Program.Shutdown
import FocusLayout.Proofs.Steps
import FocusLayout.Proofs.Text.Fields
import FocusLayout.Proofs.Text.Utf8
import FocusLayout.Session
import FocusLayout.Step
import FocusLayout.Text.Blank
import FocusLayout.Text.CodePoints
import FocusLayout.Text.Fields
import FocusLayout.Text.Property
import FocusLayout.Text.Property.Age
import FocusLayout.Text.Property.Binary
import FocusLayout.Text.Property.CaseFold
import FocusLayout.Text.Property.Category
import FocusLayout.Text.Property.Script
import FocusLayout.Text.Quoted
import FocusLayout.Text.Utf8
import FocusLayout.Window
