import RefactorAudit.Analysis
import RefactorAudit.Changes.Diff
import RefactorAudit.Changes.File
import RefactorAudit.Changes.Node
import RefactorAudit.Cli.Command
import RefactorAudit.Cli.Display
import RefactorAudit.Cli.Files
import RefactorAudit.Cli.Run
import RefactorAudit.Cli.Session
import RefactorAudit.Decimal
import RefactorAudit.Decimal.Reader
import RefactorAudit.Impact.Components
import RefactorAudit.Impact.Score
import RefactorAudit.Json.Basic
import RefactorAudit.Json.Reader
import RefactorAudit.LineDiff.Match
import RefactorAudit.LineDiff.Script
import RefactorAudit.LineDiff.Unified
import RefactorAudit.Main
import RefactorAudit.Pairing.Correspondence
import RefactorAudit.Pairing.EditDistance
import RefactorAudit.Pairing.Matching
import RefactorAudit.Pairing.Similarity
import RefactorAudit.Pattern
import RefactorAudit.Proofs.Analysis
import RefactorAudit.Proofs.Chains
import RefactorAudit.Proofs.Changes.Diff
import RefactorAudit.Proofs.Changes.Lines
import RefactorAudit.Proofs.Exact
import RefactorAudit.Proofs.FirstOccurrence
import RefactorAudit.Proofs.Impact.Dependencies
import RefactorAudit.Proofs.Impact.Score
import RefactorAudit.Proofs.Json.Quoted
import RefactorAudit.Proofs.LineDiff.Anchors
import RefactorAudit.Proofs.LineDiff.Blocks
import RefactorAudit.Proofs.LineDiff.Hunks
import RefactorAudit.Proofs.LineDiff.Script
import RefactorAudit.Proofs.Pairing.Correspondence
import RefactorAudit.Proofs.Pairing.Declared
import RefactorAudit.Proofs.Pairing.EditDistance
import RefactorAudit.Proofs.Pairing.Hints
import RefactorAudit.Proofs.Pairing.Identity
import RefactorAudit.Proofs.Pairing.Matching
import RefactorAudit.Proofs.Pairing.Similarity
import RefactorAudit.Proofs.Refactoring.Classify
import RefactorAudit.Proofs.Refactoring.Detect
import RefactorAudit.Proofs.Refactoring.Merge
import RefactorAudit.Proofs.Risk.Flag
import RefactorAudit.Proofs.Syntax.Declaration
import RefactorAudit.Proofs.Syntax.Faults
import RefactorAudit.Proofs.Syntax.Node
import RefactorAudit.Proofs.Syntax.Tree
import RefactorAudit.Refactoring.Detect
import RefactorAudit.Refactoring.Rules
import RefactorAudit.Refactoring.Tag
import RefactorAudit.Refactoring.Technique
import RefactorAudit.Report
import RefactorAudit.Risk.Flag
import RefactorAudit.Risk.Scan
import RefactorAudit.Risk.Signatures
import RefactorAudit.Scalar
import RefactorAudit.Settings
import RefactorAudit.Syntax.Concrete
import RefactorAudit.Syntax.Declaration
import RefactorAudit.Syntax.Export
import RefactorAudit.Syntax.Flatten
import RefactorAudit.Syntax.Grammar
import RefactorAudit.Syntax.Language
import RefactorAudit.Syntax.Node
import RefactorAudit.Syntax.Tree
import RefactorAudit.Table
import RefactorAudit.Text.Blank
import RefactorAudit.Text.Case
import RefactorAudit.Text.CaseTables
import RefactorAudit.Text.Lines
import RefactorAudit.Text.Quoted
import RefactorAudit.Text.Ranges
import RefactorAudit.Text.Search
import RefactorAudit.Text.Utf8
import RefactorAudit.Text.Visible
import RefactorAudit.Text.Word
import RefactorAudit.Toml.Document
import RefactorAudit.Toml.Escape
import RefactorAudit.Toml.Number
import RefactorAudit.Toml.Reader
import RefactorAudit.Proofs.Refactoring.Rename
import RefactorAudit.Proofs.Changes.Summary
import RefactorAudit.Proofs.Refactoring.Imports
import RefactorAudit.Proofs.Text.Lines
import RefactorAudit.Proofs.LineDiff.Patch
import RefactorAudit.Proofs.Changes.Modified
import RefactorAudit.Proofs.Pairing.Operations
import RefactorAudit.Proofs.Syntax.Flatten
import RefactorAudit.Proofs.Refactoring.Fired
import RefactorAudit.Proofs.Impact.Ranges
import RefactorAudit.Proofs.Risk.Report
import RefactorAudit.Proofs.Table
import RefactorAudit.Proofs.Settings.Load
import RefactorAudit.Proofs.Settings.Run
import RefactorAudit.Proofs.Pairing.EditScript
import RefactorAudit.Proofs.Changes.HintOrder
import RefactorAudit.Proofs.Pairing.Symmetry
import RefactorAudit.Proofs.Changes.Reversed
import RefactorAudit.Proofs.LineDiff.Kept
import RefactorAudit.Proofs.Refactoring.MergedTags
import RefactorAudit.Proofs.Impact.TagOrder
import RefactorAudit.Proofs.Impact.Monotone
import RefactorAudit.Proofs.Risk.Quality
import RefactorAudit.Proofs.Syntax.FirstFault
import RefactorAudit.Proofs.Pattern
import RefactorAudit.Proofs.Spelling
import RefactorAudit.Proofs.Risk.Credentials
import RefactorAudit.Proofs.Risk.Licenses
import RefactorAudit.Proofs.Cli.Language
import RefactorAudit.Proofs.Syntax.Declarator
import RefactorAudit.Proofs.Syntax.Key
import RefactorAudit.Proofs.Syntax.Walk
import RefactorAudit.Proofs.Pairing.TwoWay
import RefactorAudit.Proofs.Pairing.TwoRows
