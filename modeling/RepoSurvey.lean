import RepoSurvey.Console.Arguments
import RepoSurvey.Console.Command
import RepoSurvey.Console.Markup
import RepoSurvey.Console.Page
import RepoSurvey.Console.Page.Explanation
import RepoSurvey.Console.Page.Features
import RepoSurvey.Console.Page.Overview
import RepoSurvey.Console.Printer
import RepoSurvey.Console.Request
import RepoSurvey.Console.Run
import RepoSurvey.Console.Table
import RepoSurvey.Console.Terminal
import RepoSurvey.Discovery.Exclude
import RepoSurvey.Discovery.Ignore
import RepoSurvey.Discovery.Walk
import RepoSurvey.Endpoint
import RepoSurvey.Export.Extract
import RepoSurvey.Export.Kind
import RepoSurvey.Export.Record
import RepoSurvey.Failure
import RepoSurvey.Feature.Bucket
import RepoSurvey.Feature.Detect
import RepoSurvey.Feature.Hub
import RepoSurvey.Feature.Name
import RepoSurvey.Feature.Reach
import RepoSurvey.Feature.Shared
import RepoSurvey.Feature.Siblings
import RepoSurvey.Framework.Detect
import RepoSurvey.Graph.Relationship
import RepoSurvey.Import.Extract
import RepoSurvey.Import.Merge
import RepoSurvey.Import.Names
import RepoSurvey.Import.Statement
import RepoSurvey.Json.Value
import RepoSurvey.Json.Writer
import RepoSurvey.Log
import RepoSurvey.Main
import RepoSurvey.Number.Binary64
import RepoSurvey.Number.Reader
import RepoSurvey.Number.Rounding
import RepoSurvey.Number.Shortest
import RepoSurvey.Number.Whole
import RepoSurvey.Outline
import RepoSurvey.Path.Basic
import RepoSurvey.Path.Glob
import RepoSurvey.Path.Lexical
import RepoSurvey.Path.Parts
import RepoSurvey.Pattern.Basic
import RepoSurvey.Pattern.Lemmas
import RepoSurvey.Pattern.Search
import RepoSurvey.Project.File
import RepoSurvey.Proofs.Console.Explanation
import RepoSurvey.Proofs.Console.Markup
import RepoSurvey.Proofs.Console.Printer
import RepoSurvey.Proofs.Console.Shown
import RepoSurvey.Proofs.Console.Words
import RepoSurvey.Proofs.Discovery.Distinct
import RepoSurvey.Proofs.Discovery.Exact
import RepoSurvey.Proofs.Discovery.Order
import RepoSurvey.Proofs.Discovery.Unbroken
import RepoSurvey.Proofs.Export.Clauses
import RepoSurvey.Proofs.Export.DefaultForms
import RepoSurvey.Proofs.Export.FunctionLine
import RepoSurvey.Proofs.Export.Kind
import RepoSurvey.Proofs.Export.ModuleDefault
import RepoSurvey.Proofs.Export.OwnName
import RepoSurvey.Proofs.Export.PassedOn
import RepoSurvey.Proofs.Export.ScriptDefault
import RepoSurvey.Proofs.Export.Sought
import RepoSurvey.Proofs.Export.Whole
import RepoSurvey.Proofs.Feature.ApiIndex
import RepoSurvey.Proofs.Feature.Closure
import RepoSurvey.Proofs.Feature.Containment
import RepoSurvey.Proofs.Feature.Grouping
import RepoSurvey.Proofs.Feature.Growth
import RepoSurvey.Proofs.Feature.Membership
import RepoSurvey.Proofs.Feature.Neighbours
import RepoSurvey.Proofs.Feature.Order
import RepoSurvey.Proofs.Feature.Plural
import RepoSurvey.Proofs.Feature.Reach
import RepoSurvey.Proofs.Feature.Search
import RepoSurvey.Proofs.Feature.Siblings
import RepoSurvey.Proofs.Framework.Ranking
import RepoSurvey.Proofs.Framework.Scores
import RepoSurvey.Proofs.Graph.Edges
import RepoSurvey.Proofs.Graph.Importers
import RepoSurvey.Proofs.Graph.Imports
import RepoSurvey.Proofs.Import.AliasMark
import RepoSurvey.Proofs.Import.Apart
import RepoSurvey.Proofs.Import.Behind
import RepoSurvey.Proofs.Import.Beside
import RepoSurvey.Proofs.Import.CatchAll
import RepoSurvey.Proofs.Import.Inverse
import RepoSurvey.Proofs.Import.Located
import RepoSurvey.Proofs.Import.Matched
import RepoSurvey.Proofs.Import.MergeLaws
import RepoSurvey.Proofs.Import.Merged
import RepoSurvey.Proofs.Import.NameList
import RepoSurvey.Proofs.Import.Outer
import RepoSurvey.Proofs.Import.Own
import RepoSurvey.Proofs.Import.Picks
import RepoSurvey.Proofs.Import.Reach
import RepoSurvey.Proofs.Import.Required
import RepoSurvey.Proofs.Import.Service
import RepoSurvey.Proofs.Import.SharedLines
import RepoSurvey.Proofs.Import.Silence
import RepoSurvey.Proofs.Import.Sites
import RepoSurvey.Proofs.Import.Stretches
import RepoSurvey.Proofs.Import.Words
import RepoSurvey.Proofs.Import.Written
import RepoSurvey.Proofs.Listing
import RepoSurvey.Proofs.Number.Nearest
import RepoSurvey.Proofs.Number.Order
import RepoSurvey.Proofs.Number.Ratio
import RepoSurvey.Proofs.Outline.Callees
import RepoSurvey.Proofs.Outline.Written
import RepoSurvey.Proofs.Path.LetterCase
import RepoSurvey.Proofs.Path.Lexical
import RepoSurvey.Proofs.Path.Named
import RepoSurvey.Proofs.Path.Segments
import RepoSurvey.Proofs.Pattern.Cuts
import RepoSurvey.Proofs.Pattern.Ends
import RepoSurvey.Proofs.Pattern.Leftmost
import RepoSurvey.Proofs.Pattern.Lines
import RepoSurvey.Proofs.Pattern.Matches
import RepoSurvey.Proofs.Pattern.Names
import RepoSurvey.Proofs.Pattern.Parts
import RepoSurvey.Proofs.Pattern.Plain
import RepoSurvey.Proofs.Pattern.Reading
import RepoSurvey.Proofs.Pattern.Replaced
import RepoSurvey.Proofs.Pattern.Words
import RepoSurvey.Proofs.Resolve.Bases
import RepoSurvey.Proofs.Resolve.Relative
import RepoSurvey.Proofs.Resolve.Stability
import RepoSurvey.Proofs.Resolve.Top
import RepoSurvey.Proofs.Result
import RepoSurvey.Proofs.Role.Content
import RepoSurvey.Proofs.Role.Deepest
import RepoSurvey.Proofs.Role.LetterCase
import RepoSurvey.Proofs.Role.Roots
import RepoSurvey.Proofs.Role.Rules
import RepoSurvey.Proofs.Role.Tests
import RepoSurvey.Proofs.Settings.Checked
import RepoSurvey.Proofs.Settings.Fields
import RepoSurvey.Proofs.Settings.Limit
import RepoSurvey.Proofs.Settings.Loaded
import RepoSurvey.Proofs.Settings.Merged
import RepoSurvey.Proofs.Survey.Closed
import RepoSurvey.Proofs.Survey.Identity
import RepoSurvey.Proofs.Survey.Order
import RepoSurvey.Proofs.Survey.Outcome
import RepoSurvey.Proofs.Text.EmojiCodes
import RepoSurvey.Proofs.Text.LetterCase
import RepoSurvey.Proofs.Text.Pieces
import RepoSurvey.Proofs.Toml.Tables
import RepoSurvey.Proofs.Tree.Depth
import RepoSurvey.Proofs.Tree.Names
import RepoSurvey.Proofs.Tree.Relisted
import RepoSurvey.Resolve.Specifier
import RepoSurvey.Role.Basic
import RepoSurvey.Role.Behavior
import RepoSurvey.Role.ConfigName
import RepoSurvey.Role.Directory
import RepoSurvey.Role.OfContent
import RepoSurvey.Role.OfPath
import RepoSurvey.Role.Signal
import RepoSurvey.Settings.Basic
import RepoSurvey.Settings.Source
import RepoSurvey.Settings.Value
import RepoSurvey.Settings.Variable
import RepoSurvey.Survey.Basic
import RepoSurvey.Survey.Report
import RepoSurvey.Survey.Run
import RepoSurvey.Survey.Workspace
import RepoSurvey.Text.Blank
import RepoSurvey.Text.Case
import RepoSurvey.Text.CaseTable
import RepoSurvey.Text.DigitTable
import RepoSurvey.Text.Emoji
import RepoSurvey.Text.EmojiTable
import RepoSurvey.Text.Hex
import RepoSurvey.Text.Letter
import RepoSurvey.Text.LetterTable
import RepoSurvey.Text.Pieces
import RepoSurvey.Text.PrintableTable
import RepoSurvey.Text.Quoted
import RepoSurvey.Text.Range
import RepoSurvey.Text.Utf8
import RepoSurvey.Text.Width
import RepoSurvey.Text.WidthTable
import RepoSurvey.Text.Wrap
import RepoSurvey.Toml.Document
import RepoSurvey.Toml.Number
import RepoSurvey.Toml.Text
import RepoSurvey.Tree.Basic
import RepoSurvey.Tree.Read
import RepoSurvey.Tree.Resolve
