import Clausal.Benchmark
import Clausal.Main
import Clausal.Results.Chart
import Clausal.Results.Listing
import Clausal.Session
import Clausal.Proofs.Budgets
import Clausal.Proofs.ClauseReading
import Clausal.Proofs.Conservation
import Clausal.Proofs.Correctness
import Clausal.Proofs.ExitStatus
import Clausal.Proofs.FaithfulReading
import Clausal.Proofs.FreshPaths
import Clausal.Proofs.ImplicationPoint
import Clausal.Proofs.InstanceCounts
import Clausal.Proofs.Lockstep
import Clausal.Proofs.Novelty
import Clausal.Proofs.ReportedVerdicts
import Clausal.Proofs.Resumption
import Clausal.Proofs.SessionInvariant
import Clausal.Proofs.TrailHistory
import Clausal.Proofs.UnitProof
import Clausal.Proofs.WatchedStates
