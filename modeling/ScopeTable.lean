import ScopeTable.Main
import ScopeTable.Proofs.Analysis.Contents
import ScopeTable.Proofs.Grammar.RoundTrip
import ScopeTable.Proofs.Analysis.Repair
import ScopeTable.Proofs.Text.AsciiCase
import ScopeTable.Proofs.Text.Settled
import ScopeTable.Proofs.Analysis.CaseVariants
import ScopeTable.Proofs.Json.Spelling
import ScopeTable.Proofs.Json.Scanning
import ScopeTable.Proofs.Json.Parsing
import ScopeTable.Proofs.Grammar.Nesting
import ScopeTable.Proofs.Grammar.Acceptance
import ScopeTable.Proofs.Grammar.Normal
import ScopeTable.Proofs.Analysis.Arrangement
import ScopeTable.Proofs.Analysis.Dropped
import ScopeTable.Proofs.Analysis.History
import ScopeTable.Proofs.Console.Runs
import ScopeTable.Proofs.Console.Answers
import ScopeTable.Proofs.Analysis.Composition
import ScopeTable.Proofs.Analysis.Permutation
import ScopeTable.Proofs.Analysis.Namespaces
import ScopeTable.Proofs.Grammar.Places
import ScopeTable.Proofs.Analysis.Labels
import ScopeTable.Proofs.Analysis.Enumeration
import ScopeTable.Proofs.Console.Agreement
import ScopeTable.Proofs.Analysis.Stepwise
import ScopeTable.Proofs.Analysis.Representation
import ScopeTable.Proofs.Grammar.Equality
import ScopeTable.Proofs.Language.TypeText
import ScopeTable.Proofs.Reporting.Telling
import ScopeTable.Proofs.Reporting.Streams
import ScopeTable.Proofs.Reporting.Reports
import ScopeTable.Proofs.Reporting.Account
import ScopeTable.Proofs.Console.Given
import ScopeTable.Proofs.Console.Options
