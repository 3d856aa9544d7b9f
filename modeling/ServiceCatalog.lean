import ServiceCatalog.Catalog.Record
import ServiceCatalog.Client.Session
import ServiceCatalog.Main
import ServiceCatalog.Source.Reading
import ServiceCatalog.Toml.Reading
import ServiceCatalog.Proofs.Numeric.Digits
import ServiceCatalog.Proofs.Call.Entries
import ServiceCatalog.Proofs.Call.Polling
import ServiceCatalog.Proofs.Call.Payload
import ServiceCatalog.Proofs.Client.Making
import ServiceCatalog.Proofs.Client.History
import ServiceCatalog.Proofs.Client.Settlement
import ServiceCatalog.Proofs.Client.Discipline
import ServiceCatalog.Proofs.Client.Rows
import ServiceCatalog.Proofs.Client.CachedRead
import ServiceCatalog.Proofs.Request.FormEncoding
import ServiceCatalog.Proofs.Client.Provenance
import ServiceCatalog.Proofs.Client.Staleness
import ServiceCatalog.Proofs.Request.Preparation
import ServiceCatalog.Proofs.Catalog.Validity
import ServiceCatalog.Proofs.Client.Separation
import ServiceCatalog.Proofs.Catalog.Template
import ServiceCatalog.Proofs.Catalog.Division
import ServiceCatalog.Proofs.Catalog.Record
import ServiceCatalog.Proofs.Client.PathArguments
import ServiceCatalog.Proofs.Request.FilledPath
import ServiceCatalog.Proofs.Json.Names
import ServiceCatalog.Proofs.Json.Nesting
import ServiceCatalog.Proofs.Yaml.Names
import ServiceCatalog.Proofs.Json.Records
import ServiceCatalog.Proofs.Json.RoundTrip
import ServiceCatalog.Proofs.Description.Document
import ServiceCatalog.Proofs.Description.Merging
import ServiceCatalog.Proofs.Description.Loading
import ServiceCatalog.Proofs.Description.LoadedCatalog
import ServiceCatalog.Proofs.Description.Inlining
import ServiceCatalog.Proofs.Description.Repetition
import ServiceCatalog.Proofs.Description.Sharing
import ServiceCatalog.Proofs.Description.Extensions
import ServiceCatalog.Proofs.Source.Evaluation
import ServiceCatalog.Proofs.Generation.CatalogSource
import ServiceCatalog.Proofs.Text.Words
import ServiceCatalog.Proofs.Generation.Naming
import ServiceCatalog.Proofs.Generation.Names
import ServiceCatalog.Proofs.Generation.ParamsSource
import ServiceCatalog.Proofs.Generation.TypeNames
import ServiceCatalog.Proofs.Source.Names
import ServiceCatalog.Proofs.Generation.Identifiers
import ServiceCatalog.Proofs.Client.Building
import ServiceCatalog.Proofs.Description.Addresses
import ServiceCatalog.Proofs.Files.Path
import ServiceCatalog.Proofs.Files.Tree
import ServiceCatalog.Proofs.Files.Access
import ServiceCatalog.Proofs.Source.Layout
import ServiceCatalog.Proofs.Generation.Writing
import ServiceCatalog.Proofs.CommandLine.Run
import ServiceCatalog.Proofs.Catalog.Violation
import ServiceCatalog.Proofs.Request.Pairs
import ServiceCatalog.Proofs.Request.Overrides
import ServiceCatalog.Proofs.Client.Required
import ServiceCatalog.Proofs.Client.NullItems
import ServiceCatalog.Proofs.Call.TimedMap
import ServiceCatalog.Proofs.Generation.Collisions
import ServiceCatalog.Proofs.Files.Failure
import ServiceCatalog.Proofs.Text.Lines
import ServiceCatalog.Proofs.Toml.Reading
import ServiceCatalog.Proofs.Generation.Manifest
import ServiceCatalog.Proofs.Text.Segmentation
import ServiceCatalog.Proofs.Text.Restyling
import ServiceCatalog.Proofs.Generation.PlainNames
