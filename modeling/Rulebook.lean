import Rulebook.Database.Session
import Rulebook.Main
import Rulebook.Proofs.Database.Columns
import Rulebook.Proofs.Database.Concord
import Rulebook.Proofs.Instant.Floor
import Rulebook.Proofs.Launch.Admission
import Rulebook.Proofs.Launch.Lifecycle
import Rulebook.Proofs.Record.Wording
import Rulebook.Proofs.Record.Wire
import Rulebook.Proofs.Service.Access
import Rulebook.Proofs.Service.Accounting
import Rulebook.Proofs.Service.Envelope
import Rulebook.Proofs.Service.History
import Rulebook.Proofs.Service.Payload
import Rulebook.Proofs.Service.Routing
import Rulebook.Proofs.Service.Secrecy
import Rulebook.Proofs.Service.Serializable
import Rulebook.Proofs.Service.Soundness
import Rulebook.Proofs.Service.WriteBack
import Rulebook.Proofs.Settings.Precedence
import Rulebook.Proofs.Store.Commute
import Rulebook.Record.OfJson
