import Vivarium.Audit.Store
import Vivarium.CommandLine.Rehearsal
import Vivarium.Interpreter.Table
import Vivarium.Main
import Vivarium.Proofs.Adaptation.Window
import Vivarium.Proofs.Audit.Sessions
import Vivarium.Proofs.Audit.Tail
import Vivarium.Proofs.Descriptor.Exact
import Vivarium.Proofs.Feed.Closing
import Vivarium.Proofs.Field.Readers
import Vivarium.Proofs.Fitness
import Vivarium.Proofs.Form.Configs
import Vivarium.Proofs.Lineage.Content
import Vivarium.Proofs.Lineage.Drift
import Vivarium.Proofs.Lineage.Eviction
import Vivarium.Proofs.Lineage.Strongest
import Vivarium.Proofs.Population.Counters
import Vivarium.Proofs.Population.Faultless
import Vivarium.Proofs.Population.Fed
import Vivarium.Proofs.Population.Invariant
import Vivarium.Proofs.Population.Kernels
import Vivarium.Proofs.Population.Longevity
import Vivarium.Proofs.Population.Regimes
import Vivarium.Proofs.Population.Report
import Vivarium.Proofs.Population.Reproduction
import Vivarium.Proofs.Population.Retold
import Vivarium.Proofs.Population.Revival
import Vivarium.Proofs.Population.Unbiased
