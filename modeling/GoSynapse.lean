import GoSynapse.Basic
import GoSynapse.Float64
import GoSynapse.Txutil.Nonce
import GoSynapse.Txutil.NonceRun
import GoSynapse.Txutil.NonceReset
import GoSynapse.Txutil.Receipt
import GoSynapse.Pdp.Manager
import GoSynapse.Pdp.Discipline
import GoSynapse.Pdp.Runs
import GoSynapse.Spregistry.Transact
import GoSynapse.Spregistry.Capabilities
import GoSynapse.Txutil.Retry
import GoSynapse.Constants.Epoch
import GoSynapse.Retry.Backoff
import GoSynapse.Retry.Poll
import GoSynapse.Pdp.Server
import GoSynapse.Storage.Manager
import GoSynapse.Storage.Runs
import GoSynapse.Txutil.NonceSimple
import GoSynapse.Spregistry.Service
import GoSynapse.Payments.Rails
import GoSynapse.Txutil.Gas
import GoSynapse.Constants.Network
import GoSynapse.Pdp.Config
import GoSynapse.Pdp.Upload
import GoSynapse.Txutil.ReceiptFirst
import GoSynapse.Signer.Keys
import GoSynapse.Payments.Deposit
