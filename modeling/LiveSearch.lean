import LiveSearch.Condition.Exchange
import LiveSearch.Main
import LiveSearch.Mutation.Exchange
import LiveSearch.Newsroom
import LiveSearch.Proofs.Reconcile.Effect
import LiveSearch.Proofs.Reconcile.Batches
import LiveSearch.Proofs.Session.Acts
import LiveSearch.Proofs.ResultSet.Lookup
import LiveSearch.Proofs.Session.WellKept
import LiveSearch.Proofs.Session.Staleness
import LiveSearch.Proofs.Session.Planning
import LiveSearch.Proofs.Text.Numerals
import LiveSearch.Proofs.Json.RoundTrip
import LiveSearch.Proofs.Item.RoundTrip
import LiveSearch.Proofs.Corpus.Bus
import LiveSearch.Proofs.Corpus.Index
import LiveSearch.Proofs.Corpus.Store
import LiveSearch.Proofs.Corpus.Changes
import LiveSearch.Proofs.Reconcile.Buffer
import LiveSearch.Proofs.Corpus.Grown
import LiveSearch.Proofs.Watch.Moves
import LiveSearch.Proofs.Watch.Heeding
import LiveSearch.Proofs.Watch.Invariant
import LiveSearch.Proofs.Reconcile.Rechecking
import LiveSearch.Proofs.Watch.Replaying
import LiveSearch.Proofs.Watch.Deliveries
import LiveSearch.Proofs.Watch.Soundness
import LiveSearch.Proofs.Watch.Agreement
import LiveSearch.Proofs.Watch.Course
import LiveSearch.Proofs.Watch.Retention
import LiveSearch.Proofs.ResultSet.Presentable
import LiveSearch.Proofs.Session.Arrivals
import LiveSearch.Proofs.Session.Coherence
import LiveSearch.Proofs.Session.Hearing
import LiveSearch.Proofs.Session.Timing
import LiveSearch.Proofs.Reconcile.Tally
import LiveSearch.Proofs.Session.Capacity
import LiveSearch.Proofs.Corpus.Edits
import LiveSearch.Proofs.Corpus.Agreement
import LiveSearch.Proofs.Index.Answers
import LiveSearch.Proofs.Index.Combination
import LiveSearch.Proofs.Condition.RoundTrip
import LiveSearch.Proofs.Mutation.RoundTrip
import LiveSearch.Proofs.Corpus.Contents
import LiveSearch.Proofs.Bus.Course
import LiveSearch.Proofs.Bus.Delivery
import LiveSearch.Proofs.Corpus.Deeds
import LiveSearch.Proofs.Corpus.Overlap
import LiveSearch.Proofs.Corpus.Crossing
import LiveSearch.Proofs.Reconcile.Outdated
import LiveSearch.Proofs.Reconcile.Queue
import LiveSearch.Proofs.Session.Commuting
import LiveSearch.Proofs.Session.FailedLookups
import LiveSearch.Proofs.Corpus.Moving
import LiveSearch.Proofs.Watch.Views
import LiveSearch.Proofs.ResultSet.Dwindling
import LiveSearch.Proofs.Session.Generations
import LiveSearch.Proofs.Session.Ranges
import LiveSearch.Proofs.Sorting.Order
import LiveSearch.Proofs.Relevance.Tiers
import LiveSearch.Proofs.Session.Installing
import LiveSearch.Proofs.ResultSet.Indexed
import LiveSearch.Proofs.Sorting.Arrangement
import LiveSearch.Proofs.Search.Limits
import LiveSearch.Proofs.Search.Failing
import LiveSearch.Proofs.Text.Literal
import LiveSearch.Proofs.Index.Affixes
import LiveSearch.Proofs.Text.Folding
import LiveSearch.Proofs.Index.WordSearch
import LiveSearch.Proofs.Index.Values
import LiveSearch.Proofs.Text.Words
import LiveSearch.Proofs.Index.Holdings
import LiveSearch.Proofs.Index.Times
import LiveSearch.Proofs.Index.Transactions
import LiveSearch.Proofs.Text.Hexadecimal
import LiveSearch.Proofs.Reference.Reading
import LiveSearch.Proofs.Reference.Abbreviations
import LiveSearch.Proofs.Text.Trimming
import LiveSearch.Proofs.Settings.Persistence
import LiveSearch.Proofs.Reference.Hashing
import LiveSearch.Proofs.Single.Rounding
import LiveSearch.Proofs.Relevance.Best
import LiveSearch.Proofs.Text.Decimals
import LiveSearch.Proofs.Calendar.Days
import LiveSearch.Proofs.Calendar.Reading
import LiveSearch.Proofs.Corpus.Adding
import LiveSearch.Proofs.CommandLine.Failing
