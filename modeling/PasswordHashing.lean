import PasswordHashing.AppPassword
import PasswordHashing.Main
import PasswordHashing.Policy.Json
import PasswordHashing.Proofs.RecordGrammar
import PasswordHashing.Proofs.CostScan
import PasswordHashing.Proofs.PolicyWriting
import PasswordHashing.Proofs.CanonicalForm
import PasswordHashing.Proofs.CostLimits
import PasswordHashing.Proofs.PolicyAcceptance
import PasswordHashing.Proofs.Verification
import PasswordHashing.Proofs.Hashing
import PasswordHashing.Proofs.RoundTrip
import PasswordHashing.Proofs.PasswordEquivalence
import PasswordHashing.Proofs.CurrentRecords
import PasswordHashing.Proofs.RecordRenewal
import PasswordHashing.Proofs.AccountIsolation
import PasswordHashing.Proofs.PermitConservation
import PasswordHashing.Proofs.CheckLoop
import PasswordHashing.Proofs.PoolAnswers
import PasswordHashing.Proofs.LogSecrecy
import PasswordHashing.Proofs.UnreadableRecord
import PasswordHashing.Proofs.IssuedRecords
import PasswordHashing.Proofs.FreshRecords
import PasswordHashing.Proofs.CutRecords
import PasswordHashing.Proofs.AppPasswordDraw
import PasswordHashing.Proofs.VariableSettings
