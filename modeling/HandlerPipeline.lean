import HandlerPipeline.Artifact
import HandlerPipeline.Artifact.ChainSource
import HandlerPipeline.Artifact.Emit
import HandlerPipeline.Artifact.Load
import HandlerPipeline.Artifact.Locate
import HandlerPipeline.Artifact.Run
import HandlerPipeline.Artifact.Source
import HandlerPipeline.BuildError
import HandlerPipeline.BuildError.Parts
import HandlerPipeline.BuildLog
import HandlerPipeline.BuildLog.Request
import HandlerPipeline.BuildPass
import HandlerPipeline.BuildPass.Pool
import HandlerPipeline.Chain.Command
import HandlerPipeline.Chain.Context
import HandlerPipeline.Chain.Error
import HandlerPipeline.Chain.Machine
import HandlerPipeline.Chain.Script
import HandlerPipeline.Chain.Session
import HandlerPipeline.Config
import HandlerPipeline.Config.Given
import HandlerPipeline.Decimal.Fixed
import HandlerPipeline.Decimal.Integer
import HandlerPipeline.Decimal.Nearest
import HandlerPipeline.Decimal.Parts
import HandlerPipeline.Decimal.Rounding
import HandlerPipeline.Decimal.Shortest
import HandlerPipeline.Descriptor
import HandlerPipeline.Descriptor.Folder
import HandlerPipeline.Descriptor.Validate
import HandlerPipeline.EntryPoint
import HandlerPipeline.FileTree
import HandlerPipeline.FileTree.Lookup
import HandlerPipeline.FileTree.Probe
import HandlerPipeline.Log
import HandlerPipeline.Log.Template
import HandlerPipeline.Path
import HandlerPipeline.Path.Value
import HandlerPipeline.Pipeline
import HandlerPipeline.Proofs.Artifact.Agreement
import HandlerPipeline.Proofs.Artifact.Capture
import HandlerPipeline.Proofs.Artifact.Encoding
import HandlerPipeline.Proofs.Artifact.EntryPoints
import HandlerPipeline.Proofs.Artifact.Imports
import HandlerPipeline.Proofs.Artifact.Label
import HandlerPipeline.Proofs.Artifact.Layout
import HandlerPipeline.Proofs.Artifact.Lines
import HandlerPipeline.Proofs.Artifact.LoadedOnce
import HandlerPipeline.Proofs.Artifact.Pieces
import HandlerPipeline.Proofs.Artifact.ReadBack
import HandlerPipeline.Proofs.Artifact.Reading
import HandlerPipeline.Proofs.Artifact.Scopes
import HandlerPipeline.Proofs.Artifact.ServiceRoot
import HandlerPipeline.Proofs.BuildLog.Sinks
import HandlerPipeline.Proofs.BuildPass.AllOrNothing
import HandlerPipeline.Proofs.BuildPass.Deployment
import HandlerPipeline.Proofs.BuildPass.Ending
import HandlerPipeline.Proofs.BuildPass.InOrder
import HandlerPipeline.Proofs.BuildPass.Naming
import HandlerPipeline.Proofs.BuildPass.Outcomes
import HandlerPipeline.Proofs.BuildPass.Progress
import HandlerPipeline.Proofs.BuildPass.Reporting
import HandlerPipeline.Proofs.BuildPass.Restriction
import HandlerPipeline.Proofs.BuildPass.Scheduling
import HandlerPipeline.Proofs.BuildPass.Turns
import HandlerPipeline.Proofs.Chain.Absorbing
import HandlerPipeline.Proofs.Chain.Alike
import HandlerPipeline.Proofs.Chain.Calls
import HandlerPipeline.Proofs.Chain.DataFlow
import HandlerPipeline.Proofs.Chain.Failures
import HandlerPipeline.Proofs.Chain.HostContext
import HandlerPipeline.Proofs.Chain.Isolation
import HandlerPipeline.Proofs.Chain.NextHandler
import HandlerPipeline.Proofs.Chain.Scan
import HandlerPipeline.Proofs.Chain.Stop
import HandlerPipeline.Proofs.Descriptor.Folders
import HandlerPipeline.Proofs.Descriptor.Keys
import HandlerPipeline.Proofs.Descriptor.Merging
import HandlerPipeline.Proofs.Descriptor.Valid
import HandlerPipeline.Proofs.FileTree.Lookup
import HandlerPipeline.Proofs.FileTree.Looks
import HandlerPipeline.Proofs.FileTree.Precedence
import HandlerPipeline.Proofs.Path.Joined
import HandlerPipeline.Proofs.Pipeline.Bindings
import HandlerPipeline.Proofs.Pipeline.Collisions
import HandlerPipeline.Proofs.Reference.Accepted
import HandlerPipeline.Proofs.Reference.Binding
import HandlerPipeline.Proofs.Reference.Defects
import HandlerPipeline.Proofs.Reference.Grammar
import HandlerPipeline.Proofs.Reference.Language
import HandlerPipeline.Proofs.Reference.Spelling
import HandlerPipeline.Proofs.Reference.Usable
import HandlerPipeline.Proofs.Results
import HandlerPipeline.Proofs.Step.Normal
import HandlerPipeline.Proofs.Text.Encoding
import HandlerPipeline.Proofs.Text.Lines
import HandlerPipeline.Proofs.Text.Literal
import HandlerPipeline.Proofs.Text.NormalForm
import HandlerPipeline.Proofs.Text.Pieces
import HandlerPipeline.Proofs.Text.Tokens
import HandlerPipeline.Proofs.Variant.Answers
import HandlerPipeline.Proofs.Variant.History
import HandlerPipeline.Proofs.Variant.Strongest
import HandlerPipeline.Reference
import HandlerPipeline.Reference.Binding
import HandlerPipeline.Reference.Grammar
import HandlerPipeline.Reference.Parse
import HandlerPipeline.Step
import HandlerPipeline.Text.Blank
import HandlerPipeline.Text.CodeRange
import HandlerPipeline.Text.CombiningClass
import HandlerPipeline.Text.Compatibility
import HandlerPipeline.Text.Composite
import HandlerPipeline.Text.Digit
import HandlerPipeline.Text.Identifier
import HandlerPipeline.Text.JsonString
import HandlerPipeline.Text.Lines
import HandlerPipeline.Text.NormalForm
import HandlerPipeline.Text.Pieces
import HandlerPipeline.Text.Printable
import HandlerPipeline.Text.Quoted
import HandlerPipeline.Value
import HandlerPipeline.Value.Json
import HandlerPipeline.Value.Literal
import HandlerPipeline.Variant
import HandlerPipeline.Variant.Resolve
import HandlerPipeline.Variant.Resolver
