import Highlighter.CharSet
import Highlighter.CommandLine.Arguments
import Highlighter.CommandLine.Log
import Highlighter.CommandLine.Report
import Highlighter.CommandLine.Run
import Highlighter.Files.Error
import Highlighter.Files.Path
import Highlighter.Files.Tree
import Highlighter.Grammar
import Highlighter.Grammar.Builtin
import Highlighter.Grammar.Catalogue
import Highlighter.Grammar.Definition
import Highlighter.Grammar.Lexer
import Highlighter.Grammar.Reading
import Highlighter.Grammar.Rules
import Highlighter.Language
import Highlighter.Main
import Highlighter.Pattern
import Highlighter.Pattern.Build
import Highlighter.Pattern.Reader
import Highlighter.Pattern.Regex
import Highlighter.Pattern.Search
import Highlighter.Pattern.Size
import Highlighter.Pattern.Tree
import Highlighter.Proofs.Blocks
import Highlighter.Proofs.Boundary
import Highlighter.Proofs.Changes
import Highlighter.Proofs.Columns
import Highlighter.Proofs.Cursors
import Highlighter.Proofs.Detection
import Highlighter.Proofs.Documents
import Highlighter.Proofs.Except
import Highlighter.Proofs.Groups
import Highlighter.Proofs.Incremental
import Highlighter.Proofs.Json
import Highlighter.Proofs.JsonGrammar.Lexemes
import Highlighter.Proofs.JsonGrammar.Lines
import Highlighter.Proofs.JsonGrammar.Matches
import Highlighter.Proofs.JsonGrammar.Rules
import Highlighter.Proofs.JsonGrammar.Texts
import Highlighter.Proofs.Languages
import Highlighter.Proofs.LastRegistered
import Highlighter.Proofs.Logs
import Highlighter.Proofs.Lookup
import Highlighter.Proofs.Lossless
import Highlighter.Proofs.Outcomes
import Highlighter.Proofs.Pattern.Compiled
import Highlighter.Proofs.Pattern.Leads
import Highlighter.Proofs.Pattern.Threads
import Highlighter.Proofs.Pattern.Ways
import Highlighter.Proofs.Pieces
import Highlighter.Proofs.Priority
import Highlighter.Proofs.Registrations
import Highlighter.Proofs.Replacement
import Highlighter.Proofs.Report
import Highlighter.Proofs.Requests
import Highlighter.Proofs.Rounds
import Highlighter.Proofs.Rows
import Highlighter.Proofs.Runs
import Highlighter.Proofs.Saved
import Highlighter.Proofs.Separation
import Highlighter.Proofs.Sources
import Highlighter.Proofs.Spans
import Highlighter.Proofs.Tables
import Highlighter.Proofs.Work
import Highlighter.Proofs.Yaml.Block
import Highlighter.Proofs.Yaml.Entries
import Highlighter.Proofs.Yaml.Plain
import Highlighter.Proofs.Yaml.Quoted
import Highlighter.Proofs.Yaml.Records
import Highlighter.Proofs.Yaml.Scalars
import Highlighter.Proofs.Yaml.Spots
import Highlighter.Proofs.Yaml.Steps
import Highlighter.Proofs.Yaml.Texts
import Highlighter.Proofs.Yaml.Trees
import Highlighter.Settings
import Highlighter.Table
import Highlighter.Text.Columns
import Highlighter.Theme
import Highlighter.Token
import Highlighter.Tokenizer
import Highlighter.Unicode.Age
import Highlighter.Unicode.BinaryProperty
import Highlighter.Unicode.CaseFolding
import Highlighter.Unicode.GeneralCategory
import Highlighter.Unicode.LowerCase
import Highlighter.Unicode.Property
import Highlighter.Unicode.Script
import Highlighter.Unicode.Segmentation
import Highlighter.Unicode.WordChars
import Highlighter.Yaml.Fields
import Highlighter.Yaml.Glyph
import Highlighter.Yaml.Node
import Highlighter.Yaml.Scalar
import Highlighter.Yaml.Token
import Highlighter.Yaml.Untagged
import Highlighter.Yaml.Written
