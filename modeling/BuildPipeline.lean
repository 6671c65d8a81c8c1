import BuildPipeline.Base64
import BuildPipeline.BuildTree.Pruning
import BuildPipeline.BuildTree.Reconciling
import BuildPipeline.BuildTree.Relocation
import BuildPipeline.BuildTree.Walk
import BuildPipeline.Bundler.Bundling
import BuildPipeline.Bundler.Esbuild
import BuildPipeline.Bundler.Manifest
import BuildPipeline.Command.Basic
import BuildPipeline.Command.Quoting
import BuildPipeline.Command.Recorder
import BuildPipeline.Compiler
import BuildPipeline.Console
import BuildPipeline.Diagnostic
import BuildPipeline.Entrypoints
import BuildPipeline.FileSystem.Access
import BuildPipeline.FileSystem.Basic
import BuildPipeline.FileSystem.Fault
import BuildPipeline.FileSystem.Move
import BuildPipeline.HelperImport
import BuildPipeline.Imports
import BuildPipeline.Json.Reader
import BuildPipeline.Json.Writer
import BuildPipeline.Markup.NamedReference
import BuildPipeline.Markup.OpenElements
import BuildPipeline.Markup.Reference
import BuildPipeline.Markup.Script
import BuildPipeline.Markup.Tag
import BuildPipeline.Number.Decimal
import BuildPipeline.Number.Double
import BuildPipeline.Number.Reading
import BuildPipeline.Page
import BuildPipeline.Path.Basic
import BuildPipeline.Path.FileName
import BuildPipeline.Path.Relative
import BuildPipeline.Plugin
import BuildPipeline.Settings.ConfigFile
import BuildPipeline.Settings.Host
import BuildPipeline.Settings.Layers
import BuildPipeline.Settings.Plugin
import BuildPipeline.Settings.Project
import BuildPipeline.Settings.StringList
import BuildPipeline.SourceMap.Fault
import BuildPipeline.SourceMap.InlineMap
import BuildPipeline.SourceMap.Mappings
import BuildPipeline.SourceMap.Marker
import BuildPipeline.SourceMap.Stitching
import BuildPipeline.SourceMap.Vlq
import BuildPipeline.StockSystem.ByteText
import BuildPipeline.StockSystem.Program.Characters
import BuildPipeline.StockSystem.Program.Condition
import BuildPipeline.StockSystem.Program.Copying
import BuildPipeline.StockSystem.Program.Directories
import BuildPipeline.StockSystem.Program.Fields
import BuildPipeline.StockSystem.Program.Format
import BuildPipeline.StockSystem.Program.Numbers
import BuildPipeline.StockSystem.Program.Options
import BuildPipeline.StockSystem.Program.Printing
import BuildPipeline.StockSystem.Program.Process
import BuildPipeline.StockSystem.Program.Programs
import BuildPipeline.StockSystem.Shell.Builtin
import BuildPipeline.StockSystem.Shell.Expansion
import BuildPipeline.StockSystem.Shell.Pattern
import BuildPipeline.StockSystem.Shell.Reader
import BuildPipeline.StockSystem.Shell.Redirection
import BuildPipeline.StockSystem.Shell.Running
import BuildPipeline.StockSystem.Shell.State
import BuildPipeline.StockSystem.Shell.Sum
import BuildPipeline.StockSystem.Shell.Syntax
import BuildPipeline.StockSystem.Spawn
import BuildPipeline.Text.Blank
import BuildPipeline.Text.CodeRange
import BuildPipeline.Text.DecimalDigit
import BuildPipeline.Text.Hex
import BuildPipeline.Text.LowerCase
import BuildPipeline.Text.Pieces
import BuildPipeline.Text.Printable
import BuildPipeline.Text.Quoted
import BuildPipeline.Text.Utf16
import BuildPipeline.Text.Utf8
import BuildPipeline.Text.WordChar
import BuildPipeline.Toml.Document
import BuildPipeline.Toml.Scalar
import BuildPipeline.Transpile
import BuildPipeline.Value.Basic
import BuildPipeline.Value.Moment
import BuildPipeline.Value.Rendering
import BuildPipeline.World
import BuildPipeline.Yaml.Cursor
import BuildPipeline.Yaml.Document
import BuildPipeline.Yaml.Fault
import BuildPipeline.Yaml.Node
import BuildPipeline.Yaml.ScalarText
import BuildPipeline.Yaml.ScalarValue
import BuildPipeline.Yaml.Tag
import BuildPipeline.Yaml.Token
import BuildPipeline.Proofs.Base64
import BuildPipeline.Proofs.BuildTree.Attempts
import BuildPipeline.Proofs.BuildTree.Containment
import BuildPipeline.Proofs.BuildTree.Emptying
import BuildPipeline.Proofs.BuildTree.Faults
import BuildPipeline.Proofs.BuildTree.Outputs
import BuildPipeline.Proofs.BuildTree.Placing
import BuildPipeline.Proofs.BuildTree.Pruning
import BuildPipeline.Proofs.BuildTree.Reconciling
import BuildPipeline.Proofs.BuildTree.Relocation
import BuildPipeline.Proofs.BuildTree.Removing
import BuildPipeline.Proofs.BuildTree.Reporting
import BuildPipeline.Proofs.BuildTree.Returning
import BuildPipeline.Proofs.BuildTree.Settling
import BuildPipeline.Proofs.BuildTree.Unhindered
import BuildPipeline.Proofs.BuildTree.Vacating
import BuildPipeline.Proofs.BuildTree.Walking
import BuildPipeline.Proofs.Compiling
import BuildPipeline.Proofs.Delivery
import BuildPipeline.Proofs.Entrypoints
import BuildPipeline.Proofs.FileSystem.Access
import BuildPipeline.Proofs.FileSystem.Changing
import BuildPipeline.Proofs.FileSystem.Moving
import BuildPipeline.Proofs.FileSystem.Naming
import BuildPipeline.Proofs.FileSystem.Scratch
import BuildPipeline.Proofs.Imports
import BuildPipeline.Proofs.Json.RoundTrip
import BuildPipeline.Proofs.Json.Scalars
import BuildPipeline.Proofs.Json.Whole
import BuildPipeline.Proofs.Json.Writable
import BuildPipeline.Proofs.Lifecycle
import BuildPipeline.Proofs.Log.Attribution
import BuildPipeline.Proofs.Log.Patterns
import BuildPipeline.Proofs.Log.Printing
import BuildPipeline.Proofs.Optimizing
import BuildPipeline.Proofs.Path.LookupKey
import BuildPipeline.Proofs.Path.Relative
import BuildPipeline.Proofs.Path.Text
import BuildPipeline.Proofs.Sequencing
import BuildPipeline.Proofs.Settings.Faults
import BuildPipeline.Proofs.Settings.Layers
import BuildPipeline.Proofs.Settings.Merging
import BuildPipeline.Proofs.Settings.Options
import BuildPipeline.Proofs.Settings.Resolving
import BuildPipeline.Proofs.SourceMap.Acceptance
import BuildPipeline.Proofs.SourceMap.Canonical
import BuildPipeline.Proofs.SourceMap.Composing
import BuildPipeline.Proofs.SourceMap.Groups
import BuildPipeline.Proofs.SourceMap.InlineMap
import BuildPipeline.Proofs.SourceMap.LineStructure
import BuildPipeline.Proofs.SourceMap.Mappings
import BuildPipeline.Proofs.SourceMap.Marker
import BuildPipeline.Proofs.SourceMap.Occurrences
import BuildPipeline.Proofs.SourceMap.Positions
import BuildPipeline.Proofs.SourceMap.Removal
import BuildPipeline.Proofs.SourceMap.Restitching
import BuildPipeline.Proofs.SourceMap.Rewriting
import BuildPipeline.Proofs.SourceMap.RunningSums
import BuildPipeline.Proofs.SourceMap.Stitching
import BuildPipeline.Proofs.Text.Blank
import BuildPipeline.Proofs.Text.LogLines
import BuildPipeline.Proofs.Text.LowerCase
import BuildPipeline.Proofs.Text.Pattern
import BuildPipeline.Proofs.Text.Utf8
import BuildPipeline.Proofs.Transpile
