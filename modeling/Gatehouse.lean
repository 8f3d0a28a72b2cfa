import Gatehouse.Http.Jar
import Gatehouse.Mailer
import Gatehouse.Main
import Gatehouse.Pool
import Gatehouse.Proofs.AccessLog
import Gatehouse.Proofs.Authorization
import Gatehouse.Proofs.ComingBack
import Gatehouse.Proofs.Confidentiality
import Gatehouse.Proofs.ErrorFormat
import Gatehouse.Proofs.HandlerValues
import Gatehouse.Proofs.Interleaving
import Gatehouse.Proofs.KeptHandlers
import Gatehouse.Proofs.Locality
import Gatehouse.Proofs.OperationNames
import Gatehouse.Proofs.OwnTokens
import Gatehouse.Proofs.PrintedTable
import Gatehouse.Proofs.RateLimits
import Gatehouse.Proofs.ReadAhead
import Gatehouse.Proofs.RouteBound
import Gatehouse.Proofs.SecretRules
import Gatehouse.Proofs.ServerLife
import Gatehouse.Proofs.Shadowing
import Gatehouse.Proofs.SharedSession
import Gatehouse.Proofs.Spelling
import Gatehouse.Proofs.StaleToken
import Gatehouse.Proofs.StorageLife
import Gatehouse.Proofs.StrictRules
import Gatehouse.Proofs.TokenEnds
import Gatehouse.Proofs.TokenLife
import Gatehouse.Proofs.TokenNames
import Gatehouse.Proofs.Unanswered
import Gatehouse.Proofs.Undeclared
import Gatehouse.Report
import Gatehouse.Storage.OnDisk
