import UrlRules.Chain.Basic
import UrlRules.Chain.Resolve
import UrlRules.Command.Arguments
import UrlRules.Command.Basic
import UrlRules.Command.Error
import UrlRules.Command.Footprint
import UrlRules.Command.Report
import UrlRules.Command.Run
import UrlRules.Command.Session
import UrlRules.Config.Default
import UrlRules.Config.Error
import UrlRules.Config.Settings
import UrlRules.Config.Source
import UrlRules.Console.Emoji
import UrlRules.Console.Emoji.Table
import UrlRules.Console.Markup
import UrlRules.Console.Output
import UrlRules.Document.Bundle
import UrlRules.Document.File
import UrlRules.Document.Import
import UrlRules.Files.Path
import UrlRules.Files.Tree
import UrlRules.Json.Basic
import UrlRules.Json.Reader
import UrlRules.Json.Writer
import UrlRules.Main
import UrlRules.Merge.Basic
import UrlRules.Merge.Input
import UrlRules.Number.Binary64
import UrlRules.Number.Reader
import UrlRules.Number.Shortest
import UrlRules.Pattern.Basic
import UrlRules.Pattern.CharSet
import UrlRules.Pattern.Error
import UrlRules.Pattern.Flags
import UrlRules.Pattern.Matcher
import UrlRules.Pattern.Reader
import UrlRules.Pattern.Search
import UrlRules.Pipeline.Basic
import UrlRules.Pipeline.Build
import UrlRules.Pipeline.Download
import UrlRules.Proofs.Chain.Bound
import UrlRules.Proofs.Chain.Cleaning
import UrlRules.Proofs.Chain.Confluence
import UrlRules.Proofs.Chain.Course
import UrlRules.Proofs.Chain.Omission
import UrlRules.Proofs.Chain.Priority
import UrlRules.Proofs.Chain.Restart
import UrlRules.Proofs.Chain.Round
import UrlRules.Proofs.Chain.Stripping
import UrlRules.Proofs.Chain.Verdict
import UrlRules.Proofs.Command.Exchange
import UrlRules.Proofs.Command.Failure
import UrlRules.Proofs.Command.Session
import UrlRules.Proofs.Command.Update
import UrlRules.Proofs.Command.Words
import UrlRules.Proofs.Config.Settings
import UrlRules.Proofs.Config.Sources
import UrlRules.Proofs.Console.Markup
import UrlRules.Proofs.Document.Breaking
import UrlRules.Proofs.Document.Bundle
import UrlRules.Proofs.Document.Entries
import UrlRules.Proofs.Document.File
import UrlRules.Proofs.Document.Import
import UrlRules.Proofs.Document.Issues
import UrlRules.Proofs.Files.Tree
import UrlRules.Proofs.Json.Characters
import UrlRules.Proofs.Json.Documents
import UrlRules.Proofs.Json.Fields
import UrlRules.Proofs.Json.Grammar
import UrlRules.Proofs.Json.Joined
import UrlRules.Proofs.Json.Reading
import UrlRules.Proofs.Json.Texts
import UrlRules.Proofs.Json.Writing
import UrlRules.Proofs.Merge.Conservation
import UrlRules.Proofs.Merge.Counts
import UrlRules.Proofs.Merge.FirstSeen
import UrlRules.Proofs.Merge.Regrouping
import UrlRules.Proofs.Merge.Summary
import UrlRules.Proofs.Pattern.Advance
import UrlRules.Proofs.Pattern.Passing
import UrlRules.Proofs.Pattern.Reading
import UrlRules.Proofs.Pattern.Search
import UrlRules.Proofs.Pipeline.Clashes
import UrlRules.Proofs.Pipeline.Download
import UrlRules.Proofs.Pipeline.Interruption
import UrlRules.Proofs.Pipeline.Merging
import UrlRules.Proofs.Pipeline.Refinement
import UrlRules.Proofs.Provider.Hosts
import UrlRules.Proofs.Provider.Ids
import UrlRules.Proofs.Provider.Making
import UrlRules.Proofs.Provider.Normalize
import UrlRules.Proofs.Provider.Numbering
import UrlRules.Proofs.Provider.Origins
import UrlRules.Proofs.Provider.Parameters
import UrlRules.Proofs.Provider.Texts
import UrlRules.Proofs.Provider.Unwrapping
import UrlRules.Proofs.Results
import UrlRules.Proofs.Rule.Breaking
import UrlRules.Proofs.Rule.Check
import UrlRules.Proofs.Rule.Encoding
import UrlRules.Proofs.Rule.Faults
import UrlRules.Proofs.Rule.Format
import UrlRules.Proofs.Rule.Query
import UrlRules.Proofs.Rule.Template
import UrlRules.Proofs.Rule.Texts
import UrlRules.Proofs.Rule.Wire
import UrlRules.Proofs.Script.Agreement
import UrlRules.Proofs.Script.Comments
import UrlRules.Proofs.Script.Declaration
import UrlRules.Proofs.Script.Derivation
import UrlRules.Proofs.Script.Failures
import UrlRules.Proofs.Script.Gaps
import UrlRules.Proofs.Script.Grammar
import UrlRules.Proofs.Script.Lexemes
import UrlRules.Proofs.Script.Literals
import UrlRules.Proofs.Script.Lockstep
import UrlRules.Proofs.Script.NumberValues
import UrlRules.Proofs.Script.Numbers
import UrlRules.Proofs.Script.Position
import UrlRules.Proofs.Script.Progress
import UrlRules.Proofs.Script.Texts
import UrlRules.Proofs.Script.Turns
import UrlRules.Proofs.Store.Actions
import UrlRules.Proofs.Store.Atomicity
import UrlRules.Proofs.Store.Damage
import UrlRules.Proofs.Store.Disabling
import UrlRules.Proofs.Store.Insertion
import UrlRules.Proofs.Store.Keeping
import UrlRules.Proofs.Store.Operations
import UrlRules.Proofs.Store.Positions
import UrlRules.Proofs.Store.Ranges
import UrlRules.Proofs.Store.Reachable
import UrlRules.Proofs.Store.Recording
import UrlRules.Proofs.Store.Refinement
import UrlRules.Proofs.Store.Refusal
import UrlRules.Proofs.Store.RowCodec
import UrlRules.Proofs.Store.Transaction
import UrlRules.Proofs.Text.Digits
import UrlRules.Proofs.Text.Percent
import UrlRules.Proofs.Text.Pieces
import UrlRules.Proofs.Text.Utf8
import UrlRules.Provider.Basic
import UrlRules.Provider.ClearUrls
import UrlRules.Provider.Linkumori
import UrlRules.Provider.Name
import UrlRules.Provider.Normalize
import UrlRules.Rule.Apply
import UrlRules.Rule.Basic
import UrlRules.Rule.Error
import UrlRules.Rule.Query
import UrlRules.Rule.Template
import UrlRules.Rule.Verify
import UrlRules.Rule.Wire
import UrlRules.Script.Error
import UrlRules.Script.Literal
import UrlRules.Script.Token
import UrlRules.Store.Basic
import UrlRules.Store.Cell
import UrlRules.Store.Document
import UrlRules.Store.Error
import UrlRules.Store.Row
import UrlRules.Text.Basic
import UrlRules.Text.Blank
import UrlRules.Text.Case
import UrlRules.Text.Digit
import UrlRules.Text.Identifier
import UrlRules.Text.Integer
import UrlRules.Text.Name
import UrlRules.Text.Name.Aliases
import UrlRules.Text.Name.Alphabets
import UrlRules.Text.Name.EastAsian
import UrlRules.Text.Name.Historic
import UrlRules.Text.Name.Pictures
import UrlRules.Text.Name.Symbols
import UrlRules.Text.Newline
import UrlRules.Text.Percent
import UrlRules.Text.Printable
import UrlRules.Text.Quoted
import UrlRules.Text.Ranges
import UrlRules.Text.Utf8
import UrlRules.Text.Word
import UrlRules.Value.Basic
import UrlRules.Value.Display
import UrlRules.Web.Fetch
import UrlRules.Web.Routes
import UrlRules.Web.Url
import UrlRules.Yaml.Base64
import UrlRules.Yaml.Build
import UrlRules.Yaml.Cursor
import UrlRules.Yaml.Error
import UrlRules.Yaml.Node
import UrlRules.Yaml.Property
import UrlRules.Yaml.Scalar
import UrlRules.Yaml.Scan
import UrlRules.Yaml.Tag
import UrlRules.Yaml.Timestamp
import UrlRules.Yaml.Token
