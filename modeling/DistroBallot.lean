import DistroBallot.Command.Run
import DistroBallot.License.Download
import DistroBallot.Log.Stopwatch
import DistroBallot.Main
import DistroBallot.Proofs.Ballot.Questions
import DistroBallot.Proofs.License.Rendering
import DistroBallot.Proofs.Version.Sorting
import DistroBallot.Settings.Checking
import DistroBallot.Proofs.License.Alternatives
import DistroBallot.Proofs.Ballot.Observers
import DistroBallot.Proofs.Ballot.Checks
import DistroBallot.Proofs.Ballot.Fetching
import DistroBallot.Proofs.Version.Ranges
import DistroBallot.Proofs.Version.Writing
import DistroBallot.Proofs.Number.Rounding
import DistroBallot.Proofs.Ballot.Steady
import DistroBallot.Proofs.Ballot.Rearrangements
import DistroBallot.Proofs.Ballot.MoreIdentifiers
import DistroBallot.Proofs.License.SingleAssignment
import DistroBallot.Proofs.Number.Clock
import DistroBallot.Proofs.Fetch.Attempts
import DistroBallot.Proofs.Fetch.Freshness
import DistroBallot.Proofs.Ballot.Downloading
import DistroBallot.Proofs.Command.RecordsAlone
import DistroBallot.Proofs.Fetch.Confidential
import DistroBallot.Proofs.Fetch.Outcomes
import DistroBallot.Proofs.Ballot.Hooks
import DistroBallot.Proofs.Command.Endings
import DistroBallot.Proofs.Version.Concatenation
import DistroBallot.Proofs.Version.Continuations
import DistroBallot.Proofs.Version.DottedNumbers
import DistroBallot.Proofs.Settings.Precedence
import DistroBallot.Proofs.Version.CommonParts
import DistroBallot.Proofs.Version.Latest
import DistroBallot.Proofs.Version.ConstraintText
import DistroBallot.Proofs.License.Composition
import DistroBallot.Proofs.License.Completion
import DistroBallot.Proofs.License.Hollow
import DistroBallot.Proofs.License.GroupLines
import DistroBallot.Proofs.License.MarkedWords
import DistroBallot.Proofs.License.AnyCase
import DistroBallot.Proofs.Registry.AnyOrder
import DistroBallot.Proofs.Fetch.Retries
import DistroBallot.Proofs.Fetch.AnyUrl
import DistroBallot.Proofs.Settings.Candidates
import DistroBallot.Proofs.Settings.Conversions
import DistroBallot.Proofs.Settings.HttpSection
import DistroBallot.Proofs.Command.UnreadableFiles
