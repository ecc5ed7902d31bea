import Blueprint.Command.Arguments
import Blueprint.Command.Event
import Blueprint.Command.Formats
import Blueprint.Command.Paths
import Blueprint.Command.Run
import Blueprint.Disk
import Blueprint.Disk.Write
import Blueprint.Json.Node
import Blueprint.Json.Reader
import Blueprint.Json.Writer
import Blueprint.Load.Assembly
import Blueprint.Load.Attributes
import Blueprint.Load.DataType
import Blueprint.Load.Error
import Blueprint.Load.Field
import Blueprint.Load.File
import Blueprint.Load.Form
import Blueprint.Load.Index
import Blueprint.Load.Label
import Blueprint.Load.Link
import Blueprint.Load.Object
import Blueprint.Load.Outline
import Blueprint.Load.Property
import Blueprint.Main
import Blueprint.Naming
import Blueprint.Number
import Blueprint.Number.Decimal
import Blueprint.Number.Double
import Blueprint.Number.Reading
import Blueprint.Path
import Blueprint.Project
import Blueprint.Project.Dump
import Blueprint.Project.View
import Blueprint.Proofs.Command.Layers
import Blueprint.Proofs.Command.Pipeline
import Blueprint.Proofs.Disk.Ancestors
import Blueprint.Proofs.Disk.Atomicity
import Blueprint.Proofs.Disk.Beside
import Blueprint.Proofs.Disk.Paths
import Blueprint.Proofs.Disk.Places
import Blueprint.Proofs.Disk.Rewriting
import Blueprint.Proofs.Disk.Trees
import Blueprint.Proofs.Disk.Writing
import Blueprint.Proofs.Json.Escapes
import Blueprint.Proofs.Json.Written
import Blueprint.Proofs.Load.Acceptance
import Blueprint.Proofs.Load.Attributes
import Blueprint.Proofs.Load.Attribution
import Blueprint.Proofs.Load.Blanks
import Blueprint.Proofs.Load.Complaints
import Blueprint.Proofs.Load.Connection
import Blueprint.Proofs.Load.DataTypes
import Blueprint.Proofs.Load.Entries
import Blueprint.Proofs.Load.FieldOrder
import Blueprint.Proofs.Load.Fields
import Blueprint.Proofs.Load.Grammar
import Blueprint.Proofs.Load.IndexNames
import Blueprint.Proofs.Load.Indexes
import Blueprint.Proofs.Load.Links
import Blueprint.Proofs.Load.Notations
import Blueprint.Proofs.Load.ObjectOrder
import Blueprint.Proofs.Load.Outlines
import Blueprint.Proofs.Load.Passes
import Blueprint.Proofs.Load.Properties
import Blueprint.Proofs.Load.Reading
import Blueprint.Proofs.Load.Repetition
import Blueprint.Proofs.Load.Resolution
import Blueprint.Proofs.Load.Success
import Blueprint.Proofs.Naming.Ascii
import Blueprint.Proofs.Naming.Decoding
import Blueprint.Proofs.Naming.Joining
import Blueprint.Proofs.Naming.Respelling
import Blueprint.Proofs.Naming.Runs
import Blueprint.Proofs.Naming.Words
import Blueprint.Proofs.Number.Digits
import Blueprint.Proofs.Number.Rounding
import Blueprint.Proofs.Project.AttributeMaps
import Blueprint.Proofs.Project.Bounds
import Blueprint.Proofs.Project.Definition
import Blueprint.Proofs.Project.Integrity
import Blueprint.Proofs.Project.Lines
import Blueprint.Proofs.Project.Locality
import Blueprint.Proofs.Project.Names
import Blueprint.Proofs.Project.Shown
import Blueprint.Proofs.Project.Unambiguity
import Blueprint.Proofs.Project.Views
import Blueprint.Proofs.Project.WellFormed
import Blueprint.Proofs.Project.Writing
import Blueprint.Proofs.Render.Course
import Blueprint.Proofs.Render.DryRun
import Blueprint.Proofs.Render.Outputs
import Blueprint.Proofs.Render.Regeneration
import Blueprint.Proofs.Render.Reports
import Blueprint.Proofs.Render.Templates
import Blueprint.Proofs.Render.Totals
import Blueprint.Proofs.Schema.Context
import Blueprint.Proofs.Schema.Meaning
import Blueprint.Proofs.Timestamp.Text
import Blueprint.Proofs.Tree.FirstFault
import Blueprint.Record
import Blueprint.Render.Error
import Blueprint.Render.Options
import Blueprint.Render.Report
import Blueprint.Render.Run
import Blueprint.Schema
import Blueprint.Settings
import Blueprint.Template.Comparison
import Blueprint.Template.Expand
import Blueprint.Template.Expression
import Blueprint.Template.Fault
import Blueprint.Template.Helper
import Blueprint.Template.Layout
import Blueprint.Template.Scope
import Blueprint.Template.Tag
import Blueprint.Text.Blank
import Blueprint.Text.LetterTables
import Blueprint.Text.Letters
import Blueprint.Timestamp
import Blueprint.Toml.Reader
import Blueprint.Toml.Table
import Blueprint.Tree
import Blueprint.Tree.Feed
import Blueprint.Yaml.Reader
import Blueprint.Yaml.Scalar
import Blueprint.Yaml.Scanner
import Blueprint.Yaml.Token
