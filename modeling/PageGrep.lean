import PageGrep.Command.Arguments
import PageGrep.Command.Check
import PageGrep.Command.Find
import PageGrep.Command.Line
import PageGrep.Command.Session
import PageGrep.Command.Setup
import PageGrep.Config.Basic
import PageGrep.Config.File
import PageGrep.Config.Layers
import PageGrep.Config.Load
import PageGrep.Config.Reading
import PageGrep.Config.Value
import PageGrep.Files.Basic
import PageGrep.Files.Path
import PageGrep.Host.Item
import PageGrep.Json.Basic
import PageGrep.Json.Parser
import PageGrep.Json.Printer
import PageGrep.Log.Level
import PageGrep.Log.Moment
import PageGrep.Log.Place
import PageGrep.Log.Sink
import PageGrep.Log.Template
import PageGrep.Main
import PageGrep.Number.Binary64
import PageGrep.Number.Notation
import PageGrep.Number.Reading
import PageGrep.Number.Shortest
import PageGrep.Page.Basic
import PageGrep.Page.Field
import PageGrep.Page.Link
import PageGrep.Page.Reading
import PageGrep.Pattern.Basic
import PageGrep.Pattern.Class
import PageGrep.Pattern.Engine
import PageGrep.Pattern.Error
import PageGrep.Pattern.Escape
import PageGrep.Pattern.Node
import PageGrep.Pattern.Reader
import PageGrep.Pattern.Search
import PageGrep.Pattern.Token
import PageGrep.Pattern.Tree
import PageGrep.Pattern.Width
import PageGrep.Program.Basic
import PageGrep.Program.Compiled
import PageGrep.Program.Line
import PageGrep.Program.Match
import PageGrep.Proofs.Command.Boundary
import PageGrep.Proofs.Command.Gate
import PageGrep.Proofs.Command.Outcome
import PageGrep.Proofs.Command.Session
import PageGrep.Proofs.Command.Setup
import PageGrep.Proofs.Config.Accepted
import PageGrep.Proofs.Config.Defaults
import PageGrep.Proofs.Config.Demands
import PageGrep.Proofs.Config.Layers
import PageGrep.Proofs.Config.Loaded
import PageGrep.Proofs.Config.Names
import PageGrep.Proofs.Config.Refused
import PageGrep.Proofs.Except
import PageGrep.Proofs.Files.Changes
import PageGrep.Proofs.Files.Listing
import PageGrep.Proofs.Host.Opened
import PageGrep.Proofs.Json.Exact
import PageGrep.Proofs.Json.RoundTrip
import PageGrep.Proofs.Number.Range
import PageGrep.Proofs.Page.Copy
import PageGrep.Proofs.Page.Fields
import PageGrep.Proofs.Page.Inserted
import PageGrep.Proofs.Page.Kept
import PageGrep.Proofs.Page.Link
import PageGrep.Proofs.Page.Searched
import PageGrep.Proofs.Pattern.Run
import PageGrep.Proofs.Program.Asking
import PageGrep.Proofs.Program.Cut
import PageGrep.Proofs.Program.Form
import PageGrep.Proofs.Program.Lines
import PageGrep.Proofs.Program.Listing
import PageGrep.Proofs.Program.Locality
import PageGrep.Proofs.Program.Outline
import PageGrep.Proofs.Program.Printed
import PageGrep.Proofs.Program.Reach
import PageGrep.Proofs.Program.Recovery
import PageGrep.Proofs.Program.Walk
import PageGrep.Proofs.Report.Fragments
import PageGrep.Proofs.Report.Links
import PageGrep.Proofs.Report.Output
import PageGrep.Proofs.Report.Panel
import PageGrep.Proofs.Search.Account
import PageGrep.Proofs.Search.Cancel
import PageGrep.Proofs.Search.Ledger
import PageGrep.Proofs.Search.Order
import PageGrep.Proofs.Source.Exchange
import PageGrep.Proofs.Source.Folder
import PageGrep.Proofs.Source.Site
import PageGrep.Proofs.Source.Sorted
import PageGrep.Proofs.Text.Blank
import PageGrep.Proofs.Text.Markup
import PageGrep.Proofs.Text.Utf8
import PageGrep.Proofs.Yaml.Endless
import PageGrep.Proofs.Yaml.Keys
import PageGrep.Proofs.Yaml.Valuing
import PageGrep.Report.Basic
import PageGrep.Report.Output
import PageGrep.Report.Panel
import PageGrep.Search.Event
import PageGrep.Search.Run
import PageGrep.Source.Basic
import PageGrep.Source.Exchange
import PageGrep.Source.Folder
import PageGrep.Source.Site
import PageGrep.Text.Blank
import PageGrep.Text.Case
import PageGrep.Text.CharacterName
import PageGrep.Text.CharacterName.Alphabets
import PageGrep.Text.CharacterName.OldScripts
import PageGrep.Text.CharacterName.Pictures
import PageGrep.Text.CharacterName.Run
import PageGrep.Text.CharacterName.Syllabaries
import PageGrep.Text.CharacterName.Symbols
import PageGrep.Text.CodeSet
import PageGrep.Text.Identifier
import PageGrep.Text.Letter
import PageGrep.Text.Lines
import PageGrep.Text.Markup
import PageGrep.Text.Numeral
import PageGrep.Text.Percent
import PageGrep.Text.Quoted
import PageGrep.Text.Utf8
import PageGrep.Yaml.Lexer
import PageGrep.Yaml.Node
import PageGrep.Yaml.Scalar
import PageGrep.Yaml.Spelling
import PageGrep.Yaml.Stamp
import PageGrep.Yaml.Tag
import PageGrep.Yaml.Token
import PageGrep.Yaml.Value
