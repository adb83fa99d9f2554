import Amalgam.Assembly
import Amalgam.CommandLine.Arguments
import Amalgam.CommandLine.Help
import Amalgam.CommandLine.Run
import Amalgam.CommandLine.Scope
import Amalgam.CommandLine.Show
import Amalgam.Draft
import Amalgam.Error
import Amalgam.Event
import Amalgam.Files
import Amalgam.Filter
import Amalgam.Generation
import Amalgam.Main
import Amalgam.Path
import Amalgam.Pattern.Expr
import Amalgam.Pattern.Meaning
import Amalgam.Pattern.Normal
import Amalgam.Pattern.Reader
import Amalgam.Pattern.Size
import Amalgam.Pattern.Tree
import Amalgam.Plan
import Amalgam.Proofs.Acceptance
import Amalgam.Proofs.ArgumentGrammar
import Amalgam.Proofs.Assembly
import Amalgam.Proofs.CleanOutput
import Amalgam.Proofs.Components
import Amalgam.Proofs.Counts
import Amalgam.Proofs.Encoding
import Amalgam.Proofs.Failure
import Amalgam.Proofs.GuardBlock
import Amalgam.Proofs.HeaderInclude
import Amalgam.Proofs.Lexer
import Amalgam.Proofs.LineOffset
import Amalgam.Proofs.LineScan
import Amalgam.Proofs.Lines
import Amalgam.Proofs.LiveRaise
import Amalgam.Proofs.Locations
import Amalgam.Proofs.Making
import Amalgam.Proofs.OutputPaths
import Amalgam.Proofs.Perform
import Amalgam.Proofs.Regeneration
import Amalgam.Proofs.Run
import Amalgam.Proofs.RunFrame
import Amalgam.Proofs.Search
import Amalgam.Proofs.Split
import Amalgam.Proofs.StatementEnd
import Amalgam.Proofs.Step
import Amalgam.Proofs.SurvivingThrow
import Amalgam.Proofs.Trigger
import Amalgam.Proofs.Warning
import Amalgam.Replacement
import Amalgam.Report
import Amalgam.Rule
import Amalgam.Rules
import Amalgam.Settings.Basic
import Amalgam.Settings.Decode
import Amalgam.Settings.Discovery
import Amalgam.Settings.Template
import Amalgam.Statement.ArgumentList
import Amalgam.Statement.Scanner
import Amalgam.Text.Bytes
import Amalgam.Text.Line
import Amalgam.Text.Space
import Amalgam.Text.Utf8
import Amalgam.Toml.Document
import Amalgam.Toml.Number
import Amalgam.Toml.Text
import Amalgam.Toml.Value
import Amalgam.Unicode.Age
import Amalgam.Unicode.Break
import Amalgam.Unicode.CaseFolding
import Amalgam.Unicode.Category
import Amalgam.Unicode.CodeSet
import Amalgam.Unicode.Property
import Amalgam.Unicode.PropertyName
import Amalgam.Unicode.Runs
import Amalgam.Unicode.Script
import Amalgam.Proofs.SourcePaths
import Amalgam.Proofs.Tree
import Amalgam.Proofs.Template
import Amalgam.Proofs.Nesting
import Amalgam.Proofs.OneLineThrow
import Amalgam.Proofs.TerminatorsAgree
import Amalgam.Proofs.LineCount
import Amalgam.Proofs.Ancestors
import Amalgam.Proofs.Discovery
import Amalgam.Proofs.Filtering
import Amalgam.Proofs.ShownPath
import Amalgam.Proofs.PendingThrow
import Amalgam.Proofs.Reading
import Amalgam.Proofs.Offsets
import Amalgam.Proofs.InBounds
import Amalgam.Proofs.Overlay
