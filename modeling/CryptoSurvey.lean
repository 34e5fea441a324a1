import CryptoSurvey.Main
import CryptoSurvey.Proofs.Assembly
import CryptoSurvey.Proofs.Documents
import CryptoSurvey.Proofs.Extension
import CryptoSurvey.Proofs.Interleaving
import CryptoSurvey.Proofs.Joins
import CryptoSurvey.Proofs.Libraries
import CryptoSurvey.Proofs.Literals
import CryptoSurvey.Proofs.ManagedRows
import CryptoSurvey.Proofs.NativeRows
import CryptoSurvey.Proofs.Passes
import CryptoSurvey.Proofs.Precedence
import CryptoSurvey.Proofs.Reordering
import CryptoSurvey.Proofs.RowLines
import CryptoSurvey.Proofs.RuleLoads
import CryptoSurvey.Proofs.SizeLimit
import CryptoSurvey.Proofs.Symbols
import CryptoSurvey.Proofs.Positions
import CryptoSurvey.Proofs.Validation
import CryptoSurvey.Proofs.Shadowing
import CryptoSurvey.Proofs.ByteSearch
import CryptoSurvey.Proofs.Listing
import CryptoSurvey.Proofs.SelfMatching
import CryptoSurvey.Proofs.Base64Grammar
import CryptoSurvey.Proofs.HexConstants
import CryptoSurvey.Proofs.PackerNames
