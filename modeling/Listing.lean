import Listing.Query
import Listing.Scenario.Script
import Listing.Scenario.Task
import Listing.Proofs.Compile.Derivation
import Listing.Proofs.Compile.NormalForm
import Listing.Proofs.Compile.Failure
import Listing.Proofs.Compile.Outcome
import Listing.Proofs.Compile.Joining
import Listing.Proofs.Compile.Connectives
import Listing.Proofs.Library.Spelling
import Listing.Proofs.Meaning.Filter
import Listing.Proofs.Meaning.Clause
import Listing.Proofs.Meaning.Record
import Listing.Proofs.Meaning.Comparison
import Listing.Proofs.Meaning.Test
import Listing.Proofs.Meaning.Evaluation
import Listing.Proofs.Meaning.Predicate
import Listing.Proofs.Paging.Polls
import Listing.Proofs.Paging.Run
import Listing.Proofs.Compile.Provenance
import Listing.Proofs.Meaning.Typing
import Listing.Proofs.Paging.Cancellation
import Listing.Proofs.Query.Count
import Listing.Proofs.Paging.Pages
import Listing.Proofs.Paging.Journal
import Listing.Proofs.Query.Planning
import Listing.Proofs.Query.Requests
import Listing.Proofs.Query.EntryPoints
import Listing.Proofs.Query.Completeness
import Listing.Proofs.Query.Calls
import Listing.Proofs.Query.Building
import Listing.Proofs.Query.Sharing
import Listing.Proofs.Text.Digits
import Listing.Proofs.Text.SmallForm
import Listing.Proofs.Json.RoundTrip
import Listing.Proofs.Time.Calendar
import Listing.Proofs.Time.RoundTrip
import Listing.Proofs.Wire.RoundTrip
import Listing.Proofs.Expr.Context
import Listing.Proofs.Compile.Replacement
import Listing.Proofs.Compile.Folding
import Listing.Proofs.Compile.Opposites
import Listing.Proofs.Library.Builtin
import Listing.Proofs.Meaning.Alike
import Listing.Proofs.Compile.Support
import Listing.Proofs.Compile.Reading
import Listing.Proofs.Compile.Grouping
import Listing.Proofs.Compile.Membership
import Listing.Proofs.Compile.Culprit
import Listing.Proofs.Meaning.Constants
import Listing.Proofs.Meaning.Parameter
import Listing.Proofs.Text.Cutting
import Listing.Proofs.Settings.Environment
import Listing.Proofs.Settings.RoundTrip
import Listing.Proofs.Meaning.Arithmetic
import Listing.Proofs.Meaning.Numbers
import Listing.Proofs.Meaning.Times
import Listing.Proofs.Meaning.Units
import Listing.Proofs.Wire.Duration
import Listing.Proofs.Compile.Methods
import Listing.Proofs.Query.FirstPoll
import Listing.Proofs.Compile.Paths
import Listing.Proofs.Settings.Lines
import Listing.Proofs.Settings.Loading
import Listing.Proofs.Library.Registration
