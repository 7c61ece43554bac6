import HostLifecycle.Text.Blank
import HostLifecycle.Text.Word
import HostLifecycle.Text.Lower
import HostLifecycle.Text.Quoted
import HostLifecycle.Number.Shortest
import HostLifecycle.Value.Text
import HostLifecycle.Json.Printer
import HostLifecycle.Json.Reader
import HostLifecycle.Digest
import HostLifecycle.Outcome
import HostLifecycle.Record.Edit
import HostLifecycle.Audit.Recorder
import HostLifecycle.Audit.Desk
import HostLifecycle.Credential.PublicKey
import HostLifecycle.Value.Member
import HostLifecycle.Vault.Server
import HostLifecycle.Vault.Client
import HostLifecycle.Vault.SecretStore
import HostLifecycle.Reconciliation.Step
import HostLifecycle.Template
import HostLifecycle.Logging.Setup
import HostLifecycle.Proofs.Reconciliation.Admission
import HostLifecycle.Proofs.Reconciliation.Installation
import HostLifecycle.Proofs.Reconciliation.Teardown
import HostLifecycle.Proofs.Reconciliation.Removal
import HostLifecycle.Proofs.Reconciliation.RescueKey
import HostLifecycle.Proofs.Reconciliation.Recurrence
import HostLifecycle.Proofs.Reconciliation.Secrecy
import HostLifecycle.Proofs.Reconciliation.Accounting
import HostLifecycle.Proofs.Vault.Fetching
import HostLifecycle.Proofs.Reconciliation.Driving
import HostLifecycle.Proofs.Audit.Restart
import HostLifecycle.Proofs.Vault.Telling
import HostLifecycle.Proofs.Reconciliation.Abreast
import HostLifecycle.Proofs.Reconciliation.Commit
import HostLifecycle.Proofs.Reconciliation.Strides
import HostLifecycle.Proofs.Audit.Sharing
import HostLifecycle.Proofs.Reconciliation.Fleet
import HostLifecycle.Proofs.Reconciliation.Guards
import HostLifecycle.Proofs.Vault.Responses
import HostLifecycle.Proofs.Reconciliation.Responses
import HostLifecycle.Proofs.Audit.KeyBlocks
import HostLifecycle.Proofs.Audit.Loading
import HostLifecycle.Proofs.Audit.Querying
import HostLifecycle.Proofs.Record.Lossless
import HostLifecycle.Proofs.Audit.AllOrNothing
import HostLifecycle.Proofs.Audit.Persistence
import HostLifecycle.Proofs.Credential.Grammar
import HostLifecycle.Proofs.Credential.Secret
import HostLifecycle.Proofs.Reconciliation.Recognition
import HostLifecycle.Proofs.Reconciliation.Validity
import HostLifecycle.Proofs.Vault.Variables
import HostLifecycle.Proofs.Logging.Lines
import HostLifecycle.Proofs.Settings.Statements
import HostLifecycle.Proofs.Settings.Words
import HostLifecycle.Proofs.Settings.Gathering
import HostLifecycle.Proofs.Settings.Issues
import HostLifecycle.Proofs.Storage.Homes
