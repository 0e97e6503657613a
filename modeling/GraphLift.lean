import GraphLift.Main
import GraphLift.Proofs.Description.Emission
import GraphLift.Proofs.Description.Places
import GraphLift.Proofs.Mapping.Derivation
import GraphLift.Proofs.Mapping.Requirements
import GraphLift.Proofs.Mapping.Success
import GraphLift.Proofs.Outcome
import GraphLift.Proofs.Rdf.Graph
import GraphLift.Proofs.Template.Circles
import GraphLift.Proofs.Json.Names
import GraphLift.Proofs.Rdf.Renaming
import GraphLift.Proofs.Description.Rearrangement
import GraphLift.Proofs.Mapping.Order
import GraphLift.Proofs.Template.Order
import GraphLift.Proofs.Export.Contents
import GraphLift.Proofs.Export.Order
import GraphLift.Proofs.Description.Attachment
import GraphLift.Proofs.Mapping.Forest
import GraphLift.Proofs.Export.Union
import GraphLift.Proofs.Mapping.Lookups
import GraphLift.Proofs.Template.WellFormed
import GraphLift.Mapping.Writing
import GraphLift.Proofs.Mapping.Writing
import GraphLift.Proofs.Mapping.Steps
import GraphLift.Proofs.Mapping.Frame
import GraphLift.Proofs.Mapping.Failures
import GraphLift.Proofs.Mapping.Nesting
import GraphLift.Proofs.Mapping.Replacement
import GraphLift.Proofs.Mapping.Naming
import GraphLift.Proofs.Export.Naming
import GraphLift.Proofs.Description.Inclusion
import GraphLift.Proofs.Mapping.Widening
import GraphLift.Proofs.Mapping.Reports
import GraphLift.Proofs.Template.Dangling
import GraphLift.Report.Stateful
import GraphLift.CommandLine.Session
import GraphLift.Proofs.Files.Tree
import GraphLift.Proofs.CommandLine.Session
import GraphLift.Proofs.PrefixTable
import GraphLift.Proofs.Export.Reading
import GraphLift.Proofs.Turtle.Totality
import GraphLift.Proofs.Format
import GraphLift.Proofs.CommandLine.Containment
import GraphLift.Proofs.Pattern.Markers
import GraphLift.Proofs.Pattern.Splitting
import GraphLift.Proofs.Pattern.Expansion
import GraphLift.Proofs.Export.Relations
import GraphLift.Proofs.Text.Blank
import GraphLift.Proofs.Text.LetterCase
import GraphLift.Proofs.MediaType
import GraphLift.Proofs.Mapping.Spelling
import GraphLift.Proofs.PrefixTable.Expansion
import GraphLift.Proofs.Mapping.Datatypes
import GraphLift.Proofs.Template.Pruning
import GraphLift.Proofs.Mapping.Pruning
import GraphLift.Proofs.PrefixTable.Binding
import GraphLift.Proofs.Export.Inquiry
import GraphLift.Proofs.Export.Formats
import GraphLift.Proofs.Mapping.Provenance
import GraphLift.Proofs.Number.Notation
import GraphLift.Proofs.Template.Flag
import GraphLift.Proofs.Json.Compact
