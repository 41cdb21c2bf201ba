import NodePolicy.Text.Blank
import NodePolicy.Text.Lowercase
import NodePolicy.Binary64.Shortest
import NodePolicy.Duration.Reading
import NodePolicy.Time.Timestamp
import NodePolicy.Bounded
import NodePolicy.Json.Writer
import NodePolicy.Json.Reader
import NodePolicy.Config.Document
import NodePolicy.Config.Edit
import NodePolicy.Main
import NodePolicy.Proofs.ReadRange
import NodePolicy.Proofs.Normalised
import NodePolicy.Proofs.TextRoundTrip
import NodePolicy.Proofs.Writable
import NodePolicy.Proofs.Rearranged
import NodePolicy.Proofs.ForeignMember
import NodePolicy.Proofs.Commands
import NodePolicy.Proofs.CompactValue
import NodePolicy.Proofs.WholeSeconds
import NodePolicy.Proofs.BareNumber
import NodePolicy.Proofs.HalfUp
import NodePolicy.Proofs.CanonicalText
import NodePolicy.Proofs.MatchedGroups
import NodePolicy.Proofs.BoundedRuns
import NodePolicy.Proofs.Calendar
import NodePolicy.Proofs.FirstFailure
import NodePolicy.Proofs.PlainScan
import NodePolicy.Proofs.StrictTimestamp
import NodePolicy.Proofs.Summation
import NodePolicy.Proofs.ErrorMessage
import NodePolicy.Proofs.ArrayLimit
