import PageBuilder.Artifact
import PageBuilder.Base
import PageBuilder.Block
import PageBuilder.Catalog
import PageBuilder.Command.Add
import PageBuilder.Command.Blocks
import PageBuilder.Command.Export
import PageBuilder.Command.Init
import PageBuilder.Command.Invocation
import PageBuilder.Command.Report
import PageBuilder.Component.Script
import PageBuilder.Component.Source
import PageBuilder.Component.Tree
import PageBuilder.Component.Writer
import PageBuilder.Config
import PageBuilder.Content.Atoms
import PageBuilder.Content.Items
import PageBuilder.Content.Layout
import PageBuilder.Content.Marketing
import PageBuilder.Document
import PageBuilder.Files.Path
import PageBuilder.Files.Storage
import PageBuilder.Files.Tree
import PageBuilder.History
import PageBuilder.InstanceId
import PageBuilder.Json.Basic
import PageBuilder.Json.Breach
import PageBuilder.Json.Codec
import PageBuilder.Json.Literal
import PageBuilder.Json.Numeral
import PageBuilder.Json.Printer
import PageBuilder.Json.Source
import PageBuilder.Json.SyntaxError
import PageBuilder.Json.Token
import PageBuilder.Json.Tree
import PageBuilder.Main
import PageBuilder.Markup.Document
import PageBuilder.Markup.Piece
import PageBuilder.Markup.Tree
import PageBuilder.Markup.Unrolled
import PageBuilder.Markup.Writer
import PageBuilder.Mutation
import PageBuilder.Number.Binary64
import PageBuilder.Number.Power
import PageBuilder.Number.Shortest
import PageBuilder.Number.Style
import PageBuilder.Options
import PageBuilder.Page.Expr
import PageBuilder.Page.Node
import PageBuilder.Page.OfDocument
import PageBuilder.Page.Section
import PageBuilder.Page.Style
import PageBuilder.Page.Templates.Atoms
import PageBuilder.Page.Templates.Layout
import PageBuilder.Page.Templates.Marketing
import PageBuilder.Page.Templates.Parts
import PageBuilder.Project
import PageBuilder.Proofs.Component.Agreement
import PageBuilder.Proofs.Component.Comments
import PageBuilder.Proofs.Component.Literals
import PageBuilder.Proofs.Component.Pages
import PageBuilder.Proofs.Component.Rendering
import PageBuilder.Proofs.Component.Sources
import PageBuilder.Proofs.Component.Values
import PageBuilder.Proofs.Component.Writer
import PageBuilder.Proofs.Editing.Bounded
import PageBuilder.Proofs.Editing.Changes
import PageBuilder.Proofs.Editing.Commuting
import PageBuilder.Proofs.Editing.Effects
import PageBuilder.Proofs.Editing.Inverses
import PageBuilder.Proofs.Editing.Positions
import PageBuilder.Proofs.Editing.Reopening
import PageBuilder.Proofs.Editing.Selection
import PageBuilder.Proofs.Editing.Sessions
import PageBuilder.Proofs.Editing.Timeline
import PageBuilder.Proofs.Files.Adding
import PageBuilder.Proofs.Files.Exports
import PageBuilder.Proofs.Files.Places
import PageBuilder.Proofs.Files.Storage
import PageBuilder.Proofs.Identity.Counter
import PageBuilder.Proofs.Identity.Document
import PageBuilder.Proofs.Identity.Draws
import PageBuilder.Proofs.Identity.Edits
import PageBuilder.Proofs.Identity.Generator
import PageBuilder.Proofs.Identity.Repairs
import PageBuilder.Proofs.Identity.Session
import PageBuilder.Proofs.Json.Codec
import PageBuilder.Proofs.Json.Order
import PageBuilder.Proofs.Json.Reading
import PageBuilder.Proofs.Json.Record
import PageBuilder.Proofs.Json.Spelling
import PageBuilder.Proofs.Markup.Fragments
import PageBuilder.Proofs.Markup.Head
import PageBuilder.Proofs.Markup.Layouts
import PageBuilder.Proofs.Markup.Maps
import PageBuilder.Proofs.Markup.Ratings
import PageBuilder.Proofs.Markup.Reader
import PageBuilder.Proofs.Markup.Rows
import PageBuilder.Proofs.Markup.Sections
import PageBuilder.Proofs.Markup.Tags
import PageBuilder.Proofs.Markup.Views
import PageBuilder.Proofs.Markup.Writer
import PageBuilder.Proofs.Number.Binary64
import PageBuilder.Proofs.Saving.Blocks
import PageBuilder.Proofs.Saving.Decoded
import PageBuilder.Proofs.Saving.Partial
import PageBuilder.Proofs.Saving.Projects
import PageBuilder.Proofs.Saving.Records
import PageBuilder.Proofs.Script.Alphabet
import PageBuilder.Proofs.Script.Comments
import PageBuilder.Proofs.Script.Elements
import PageBuilder.Proofs.Script.Expressions
import PageBuilder.Proofs.Script.Lexemes
import PageBuilder.Proofs.Script.Literals
import PageBuilder.Proofs.Script.Nodes
import PageBuilder.Proofs.Script.Numbers
import PageBuilder.Proofs.Script.Precedence
import PageBuilder.Proofs.Script.Properties
import PageBuilder.Proofs.Script.Scanner
import PageBuilder.Proofs.Script.TemplateText
import PageBuilder.Proofs.Script.Templates
import PageBuilder.Proofs.Script.Unambiguous
import PageBuilder.Proofs.Styles.Declarations
import PageBuilder.Proofs.Styles.Sections
import PageBuilder.Proofs.Templates.Bindings
import PageBuilder.Proofs.Templates.Contents
import PageBuilder.Proofs.Templates.Fits
import PageBuilder.Proofs.Templates.Lists
import PageBuilder.Proofs.Templates.Reads
import PageBuilder.Proofs.Templates.Scoping
import PageBuilder.Proofs.Templates.Shapes
import PageBuilder.Proofs.Templates.Strict
import PageBuilder.Proofs.Templates.Texts
import PageBuilder.Proofs.Text.Addresses
import PageBuilder.Session
import PageBuilder.Settings
import PageBuilder.Text.Blank
import PageBuilder.Text.Extending
import PageBuilder.Text.Quoted
import PageBuilder.Text.Unassigned
import PageBuilder.Text.Unprinted
import PageBuilder.Text.Utf8
import PageBuilder.Token
