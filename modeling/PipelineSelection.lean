import PipelineSelection.Main
import PipelineSelection.Proofs.Registry.Construction
import PipelineSelection.Proofs.Registry.Acceptance
import PipelineSelection.Proofs.Resolution.Effect
import PipelineSelection.Proofs.Resolution.Allow
import PipelineSelection.Proofs.Resolution.Deny
import PipelineSelection.Proofs.Json.Reading
import PipelineSelection.Proofs.Wire.Records
import PipelineSelection.Proofs.Wire.RoundTrip
import PipelineSelection.Proofs.Document.Shape
import PipelineSelection.Proofs.Document.ScopeTables
import PipelineSelection.Proofs.Document.ShapeReading
import PipelineSelection.Proofs.Document.Respelling
import PipelineSelection.Proofs.Wire.Exactness
import PipelineSelection.Proofs.Resolution.Extensional
import PipelineSelection.Proofs.Resolution.Complement
import PipelineSelection.Proofs.Resolution.Expressiveness
import PipelineSelection.Proofs.Resolution.Distribution
import PipelineSelection.Proofs.Resolution.Independence
import PipelineSelection.Proofs.Resolution.Trace
import PipelineSelection.Proofs.Announcement.Room
import PipelineSelection.Proofs.Announcement.Transcript
import PipelineSelection.Proofs.Registry.Equality
import PipelineSelection.Proofs.Resolution.Concatenation
import PipelineSelection.Proofs.CommandLine.Reporting
import PipelineSelection.Proofs.Resolution.Emptiness
import PipelineSelection.Proofs.CommandLine.Resolving
import PipelineSelection.Proofs.Json.Printable
import PipelineSelection.Proofs.Announcement.Patch
import PipelineSelection.Proofs.Announcement.Readability
import PipelineSelection.Proofs.Document.Tables
import PipelineSelection.Proofs.Wire.ScopeKeys
import PipelineSelection.Proofs.Document.Deletion
import PipelineSelection.Proofs.Document.Resetting
import PipelineSelection.Proofs.Wire.SettingsSections
import PipelineSelection.Proofs.Resolution.Queries
import PipelineSelection.Proofs.Text.LowerCase
import PipelineSelection.Proofs.Scope.Names
