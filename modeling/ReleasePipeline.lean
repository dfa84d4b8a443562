import ReleasePipeline.Archive.EntryName
import ReleasePipeline.Archive.Format
import ReleasePipeline.Archive.Format.Bytes
import ReleasePipeline.Archive.Format.Deflate
import ReleasePipeline.Archive.Format.Tar
import ReleasePipeline.Archive.Format.Zip
import ReleasePipeline.Archive.Packing
import ReleasePipeline.Archive.Plan
import ReleasePipeline.Archive.Write
import ReleasePipeline.Artifact
import ReleasePipeline.Build.Changelog
import ReleasePipeline.Build.Changelog.Section
import ReleasePipeline.Build.Checksum
import ReleasePipeline.Build.Go
import ReleasePipeline.Build.Go.Matrix
import ReleasePipeline.Build.Tar
import ReleasePipeline.Build.Upx
import ReleasePipeline.Build.Zip
import ReleasePipeline.BuiltIn
import ReleasePipeline.Catalog
import ReleasePipeline.Catalog.Rectangular
import ReleasePipeline.CommandLine
import ReleasePipeline.CommandLine.Invocation
import ReleasePipeline.CommandLine.Texts
import ReleasePipeline.Context
import ReleasePipeline.Digest
import ReleasePipeline.Digest.Sha2
import ReleasePipeline.DomainName
import ReleasePipeline.DomainName.Characters
import ReleasePipeline.DomainName.Composition
import ReleasePipeline.DomainName.Direction
import ReleasePipeline.DomainName.Joining
import ReleasePipeline.DomainName.Mapping
import ReleasePipeline.DomainName.Punycode
import ReleasePipeline.Environment
import ReleasePipeline.Failure
import ReleasePipeline.Files
import ReleasePipeline.Files.Content
import ReleasePipeline.Files.Pattern
import ReleasePipeline.Host
import ReleasePipeline.Host.Command
import ReleasePipeline.Host.Exchange
import ReleasePipeline.Host.Report
import ReleasePipeline.Host.Scripted
import ReleasePipeline.Json
import ReleasePipeline.Json.Reader
import ReleasePipeline.Main
import ReleasePipeline.Metrics
import ReleasePipeline.ModuleKey
import ReleasePipeline.Number.Binary64
import ReleasePipeline.Number.Shortest
import ReleasePipeline.Path
import ReleasePipeline.Pipeline
import ReleasePipeline.Pipeline.Run
import ReleasePipeline.Publish.Copy
import ReleasePipeline.Publish.Release
import ReleasePipeline.Publish.ReleaseClient
import ReleasePipeline.Publish.SemanticVersion
import ReleasePipeline.Recipe
import ReleasePipeline.Registry
import ReleasePipeline.Repository
import ReleasePipeline.Settings
import ReleasePipeline.Settings.Codec
import ReleasePipeline.Settings.DecodeError
import ReleasePipeline.Setup.Capture
import ReleasePipeline.Setup.Environment
import ReleasePipeline.Setup.Git
import ReleasePipeline.Setup.Project
import ReleasePipeline.Setup.PublishGate
import ReleasePipeline.Show
import ReleasePipeline.Sorted
import ReleasePipeline.Stage
import ReleasePipeline.Target
import ReleasePipeline.Template
import ReleasePipeline.Template.Placeholder
import ReleasePipeline.Text.Alphanumeric
import ReleasePipeline.Text.Blank
import ReleasePipeline.Text.Casing
import ReleasePipeline.Text.CodePoints
import ReleasePipeline.Text.Hexadecimal
import ReleasePipeline.Text.Occurrence
import ReleasePipeline.Text.Printable
import ReleasePipeline.Text.Quoted
import ReleasePipeline.Text.Utf8
import ReleasePipeline.Timestamp
import ReleasePipeline.Url
import ReleasePipeline.Url.NumericHost
import ReleasePipeline.Url.Percent
import ReleasePipeline.Url.Reading
import ReleasePipeline.Validation
import ReleasePipeline.Yaml.Document
import ReleasePipeline.Yaml.Event
import ReleasePipeline.Yaml.Scalar
import ReleasePipeline.Yaml.Token
import ReleasePipeline.Yaml.Token.Cursor
import ReleasePipeline.Yaml.Token.Scalar
import ReleasePipeline.Yaml.Token.Scan
import ReleasePipeline.Yaml.Token.Tag
import ReleasePipeline.Yaml.Value
import ReleasePipeline.Proofs.Pipeline.Schedule
import ReleasePipeline.Proofs.Sorted
import ReleasePipeline.Proofs.Pipeline.Checking
import ReleasePipeline.Proofs.Pipeline.Precedence
import ReleasePipeline.Proofs.Catalog.Rectangle
import ReleasePipeline.Proofs.Catalog.Grouping
import ReleasePipeline.Proofs.Template.Grammar
import ReleasePipeline.Proofs.Template.Rendering
import ReleasePipeline.Proofs.Settings.Overlay
import ReleasePipeline.Proofs.BuiltIn
import ReleasePipeline.Proofs.Settings.Schemas
import ReleasePipeline.Proofs.Text.ByteOrder
import ReleasePipeline.Proofs.Host.Effects
import ReleasePipeline.Proofs.BuiltIn.Effects
import ReleasePipeline.Proofs.Pipeline.Outcomes
import ReleasePipeline.Proofs.Pipeline.Defaults
import ReleasePipeline.Proofs.BuiltIn.Stages
import ReleasePipeline.Proofs.Pipeline.Publishing
import ReleasePipeline.Proofs.Setup.PublishGate
import ReleasePipeline.Proofs.Catalog.Selection
import ReleasePipeline.Proofs.Pipeline.Additions
import ReleasePipeline.Proofs.Pipeline.Representation
import ReleasePipeline.Proofs.Pipeline.Injection
import ReleasePipeline.Proofs.Pipeline.Report
import ReleasePipeline.Proofs.Pipeline.Faults
import ReleasePipeline.Proofs.BuiltIn.Failing
import ReleasePipeline.Proofs.Pipeline.Ledger
import ReleasePipeline.Proofs.Publish.Errands
import ReleasePipeline.Proofs.Publish.Protocol
import ReleasePipeline.Proofs.Files.Growth
import ReleasePipeline.Proofs.Files.Patterns
import ReleasePipeline.Proofs.Archive.Packing
import ReleasePipeline.Proofs.Host.Succeeding
import ReleasePipeline.Proofs.Archive.Writing
import ReleasePipeline.Proofs.Archive.Contents
import ReleasePipeline.Proofs.Catalog.Single
import ReleasePipeline.Proofs.Archive.Targets
import ReleasePipeline.Proofs.Settings.RoundTrip
import ReleasePipeline.Proofs.BuiltIn.Dependencies
import ReleasePipeline.Proofs.Pipeline.SectionOrder
import ReleasePipeline.Proofs.Pipeline.Counts
import ReleasePipeline.Proofs.Target
import ReleasePipeline.Proofs.Build.Go
import ReleasePipeline.Proofs.Catalog.ProductionOrder
import ReleasePipeline.Proofs.Host.SideBySide
import ReleasePipeline.Proofs.BuiltIn.ProductionOrder
import ReleasePipeline.Proofs.Text.Parts
import ReleasePipeline.Proofs.Text.Caseless
import ReleasePipeline.Proofs.Catalog.Skipping
import ReleasePipeline.Proofs.Build.Go.Matrix
import ReleasePipeline.Proofs.Files.Absence
import ReleasePipeline.Proofs.Host.Endings
import ReleasePipeline.Proofs.Build.Go.Course
import ReleasePipeline.Proofs.Build.Changelog.Retouching
import ReleasePipeline.Proofs.Build.Changelog.Headings
import ReleasePipeline.Proofs.Text.Lines
import ReleasePipeline.Proofs.Build.Changelog.Assembling
import ReleasePipeline.Proofs.Host.Storing
import ReleasePipeline.Proofs.Build.Checksum.Listing
import ReleasePipeline.Proofs.Build.Checksum.Run
import ReleasePipeline.Proofs.Build.Changelog.Slicing
import ReleasePipeline.Proofs.Archive.Names
import ReleasePipeline.Proofs.Archive.Directories
import ReleasePipeline.Proofs.Registry
import ReleasePipeline.Proofs.Setup.Capture
import ReleasePipeline.Proofs.Url.Percent
import ReleasePipeline.Proofs.Url.Path
import ReleasePipeline.Proofs.Url.Reading
import ReleasePipeline.Proofs.Publish.Lookup
import ReleasePipeline.Proofs.Publish.Token
import ReleasePipeline.Proofs.ModuleKey
import ReleasePipeline.Proofs.Archive.EntryName
import ReleasePipeline.Proofs.Archive.Relative
import ReleasePipeline.Proofs.Archive.StaticFiles
