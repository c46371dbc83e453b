import EventWallet.Wallet.Entity
import EventWallet.Transfer.Saga
import EventWallet.Store
import EventWallet.Service.System
import EventWallet.Service.WalletService
import EventWallet.Service.TransferSagaService
import EventWallet.Service.Run
import EventWallet.Service.Steps
import EventWallet.Service.Rounding
import EventWallet.Outbox.Pairing
import EventWallet.Transfer.Legs
import EventWallet.Transfer.States
import EventWallet.Wallet.Moves
import EventWallet.Wallet.Books
import EventWallet.Wallet.Replay
import EventWallet.Wallet.Sequential
import EventWallet.Fraud.Consumer
import EventWallet.Fraud.Dedup
import EventWallet.Fraud.Alerts
import EventWallet.Wallet.Ledger
import EventWallet.Service.TransactionManager
import EventWallet.Service.TransactionalStep
import EventWallet.Store.Locks
import EventWallet.Wallet.Decimal
import EventWallet.Fraud.Retry
import EventWallet.Wallet.History
import EventWallet.Outbox.Relay
import EventWallet.Outbox.RelayInSystem
import EventWallet.Store.Provision
import EventWallet.Service.Alone
import EventWallet.Transfer.Completes
import EventWallet.Transfer.Catch
import EventWallet.Transfer.Recovery
