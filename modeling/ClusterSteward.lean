import ClusterSteward.Fault
import ClusterSteward.Text.Blank
import ClusterSteward.Text.Field
import ClusterSteward.Text.Decimal
import ClusterSteward.Text.Utf8
import ClusterSteward.Text.Quoted
import ClusterSteward.Slot.Range
import ClusterSteward.Slot.Share
import ClusterSteward.Slot.Set
import ClusterSteward.Listing
import ClusterSteward.Report
import ClusterSteward.Plan.Planning
import ClusterSteward.Prompt.Session
import ClusterSteward.Tool.Configuration
import ClusterSteward.Migration.Running
import ClusterSteward.Migration.Scripted
import ClusterSteward.Cluster.Moving
import ClusterSteward.Tool.Administration
import ClusterSteward.Main
import ClusterSteward.Proofs.Node.RoundTrip
import ClusterSteward.Proofs.Cluster.Listing
import ClusterSteward.Proofs.Cluster.Moving
import ClusterSteward.Proofs.Plan.Planning
import ClusterSteward.Proofs.Cluster.Jobs
import ClusterSteward.Proofs.Cluster.Emptying
import ClusterSteward.Proofs.Cluster.Leveling
import ClusterSteward.Proofs.Cluster.Spreading
import ClusterSteward.Proofs.Cluster.Reclaiming
import ClusterSteward.Proofs.Tool.Resharding
import ClusterSteward.Proofs.Prompt.Questions
import ClusterSteward.Proofs.Prompt.Watching
import ClusterSteward.Proofs.Tool.Dialogue
import ClusterSteward.Proofs.Prompt.Grouping
import ClusterSteward.Proofs.Prompt.Answering
import ClusterSteward.Proofs.Migration.Course
import ClusterSteward.Proofs.Prompt.Windows
import ClusterSteward.Proofs.Slot.Coverage
import ClusterSteward.Proofs.Node.Reading
import ClusterSteward.Proofs.Plan.Ownership
import ClusterSteward.Proofs.Plan.Evacuation
import ClusterSteward.Proofs.Plan.Reordering
import ClusterSteward.Proofs.Migration.Correspondence
import ClusterSteward.Proofs.Tool.Credentials
import ClusterSteward.Proofs.Prompt.Writing
import ClusterSteward.Proofs.Tool.Failing
import ClusterSteward.Proofs.Node.Lines
import ClusterSteward.Proofs.Node.Truncation
import ClusterSteward.Proofs.Node.Address
import ClusterSteward.Proofs.Report.Entries
import ClusterSteward.Proofs.Report.Writing
import ClusterSteward.Proofs.Tool.Verdicts
import ClusterSteward.Proofs.Plan.Grounding
import ClusterSteward.Proofs.Plan.Amounts
import ClusterSteward.Proofs.Slot.Dividing
import ClusterSteward.Proofs.Slot.Assignment
import ClusterSteward.Proofs.Cluster.Describing
import ClusterSteward.Proofs.Prompt.Lines
