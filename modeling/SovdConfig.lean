import SovdConfig.Definition.Reader
import SovdConfig.Main
import SovdConfig.Proofs.Command.Writing
import SovdConfig.Proofs.Definition.Document
import SovdConfig.Proofs.Discovery.Pieces
import SovdConfig.Proofs.Discovery.Shape
import SovdConfig.Proofs.Ecu.Denotation
import SovdConfig.Proofs.Settings.Range
import SovdConfig.Proofs.Discovery.Stamps
import SovdConfig.Proofs.Discovery.Parameters
import SovdConfig.Proofs.Disk.Current
import SovdConfig.Proofs.Settings.DefaultFile
import SovdConfig.Proofs.Command.Sparing
import SovdConfig.Proofs.Command.Frame
import SovdConfig.Proofs.Command.History
import SovdConfig.Proofs.Command.DryRun
import SovdConfig.Proofs.Command.Switches
import SovdConfig.Proofs.Command.Printing
import SovdConfig.Proofs.Command.Delivery
import SovdConfig.Proofs.Json.Nesting
import SovdConfig.Proofs.Json.Printing
import SovdConfig.Proofs.Settings.Leaves
import SovdConfig.Proofs.Settings.Overlay
import SovdConfig.Proofs.Schema.Shape
import SovdConfig.Proofs.Schema.Agreement
import SovdConfig.Proofs.Disk.Agreement
import SovdConfig.Proofs.Command.Pairs
import SovdConfig.Proofs.Command.Diagnostics
import SovdConfig.Proofs.Settings.Missing
import SovdConfig.Proofs.Command.Recreation
import SovdConfig.Proofs.Layer.Override
import SovdConfig.Proofs.Settings.Texts
import SovdConfig.Proofs.Command.Mode
import SovdConfig.Proofs.Path.Collision
import SovdConfig.Proofs.Path.Beside
import SovdConfig.Proofs.Ecu.Distinct
import SovdConfig.Proofs.Definition.Choice
import SovdConfig.Proofs.Schema.Denotation
import SovdConfig.Proofs.Ecu.Stamp
