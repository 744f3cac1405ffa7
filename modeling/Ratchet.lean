import Ratchet.Main
import Ratchet.Proofs.AllowList.Batches
import Ratchet.Proofs.AllowList.Growth
import Ratchet.Proofs.AllowList.Release
import Ratchet.Proofs.Campaign.Abort
import Ratchet.Proofs.Campaign.Bound
import Ratchet.Proofs.Campaign.Cut
import Ratchet.Proofs.Campaign.Failures
import Ratchet.Proofs.Campaign.Fixpoint
import Ratchet.Proofs.Campaign.Safety
import Ratchet.Proofs.Campaign.Timing
import Ratchet.Proofs.Checker.Verdict
import Ratchet.Proofs.Project.Rest
import Ratchet.Proofs.Project.Summary
import Ratchet.Proofs.Survey.Rescan
import Ratchet.Web.Server
import Ratchet.Graph.Pool
import Ratchet.Proofs.Graph.Pool
import Ratchet.Proofs.Survey.Builds
import Ratchet.Proofs.Web.Service
import Ratchet.Proofs.Web.History
import Ratchet.Proofs.Graph.Chains
import Ratchet.Proofs.Campaign.Course
import Ratchet.Proofs.Python.Parser
import Ratchet.Proofs.Python.Statement
import Ratchet.Proofs.Extraction.Search
import Ratchet.Proofs.Python.Reference
import Ratchet.Proofs.Python.Imports
import Ratchet.Proofs.TypeScript.Reference
import Ratchet.Proofs.Extraction.Isolation
import Ratchet.Proofs.Python.Relative
import Ratchet.Proofs.TypeScript.Form
import Ratchet.Proofs.TypeScript.Lines
import Ratchet.Proofs.Graph.Ranking
import Ratchet.Proofs.AllowList.Naming
import Ratchet.Proofs.AllowList.Atomicity
import Ratchet.Proofs.AllowList.Frame
import Ratchet.Proofs.Graph.Expansion
import Ratchet.Proofs.TypeScript.Directory
import Ratchet.Proofs.Discovery
import Ratchet.Proofs.Checker.Arguments
import Ratchet.Proofs.Checker.Counting
