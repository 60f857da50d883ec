import Klarity.Common.Ipc.IpcChannel.Proofs
import Klarity.Common.Ipc.IpcConversation.Proofs
import Klarity.Library.BigNumber.Extremes
import Klarity.Main.Bcc.BccNode.Kill.Proofs
import Klarity.Main.Bcc.BccNode.Reported
import Klarity.Main.Bcc.BccNode.Stop
import Klarity.Main.Bcc.BccNode.Unrecoverable
import Klarity.Main.Index.Proofs
import Klarity.Main.Ipc.DownloadManagerChannel.Progress
import Klarity.Main.Ipc.DownloadManagerChannel.Proofs
import Klarity.Main.Ipc.ManageAppUpdateChannel.Proofs
import Klarity.Main.Utils.DownloadManager.Finished
import Klarity.Main.Utils.HandleDiskSpace.Proofs
import Klarity.Renderer.Api.Api.Proofs
import Klarity.Renderer.Api.Utils.LocalStorage.WalletLocalData
import Klarity.Renderer.Components.Wallet.Transactions.WalletTransactionsList
import Klarity.Renderer.Components.Wallet.WalletSendForm.Proofs
import Klarity.Renderer.Components.Wallet.WalletSendForm.TransactionFee.Proofs
import Klarity.Renderer.Domains.ApiError.Proofs
import Klarity.Renderer.Domains.News
import Klarity.Renderer.Stores.AddressesStore
import Klarity.Renderer.Stores.AppUpdateStore.Proofs
import Klarity.Renderer.Stores.AssetsStore.Proofs
import Klarity.Renderer.Stores.CurrencyStore
import Klarity.Renderer.Stores.HardwareWallets.AvailableDevices.Proofs
import Klarity.Renderer.Stores.HardwareWallets.Certificates.Proofs
import Klarity.Renderer.Stores.HardwareWallets.SelectCoins.Proofs
import Klarity.Renderer.Stores.HardwareWallets.SignTransaction.Proofs
import Klarity.Renderer.Stores.HardwareWallets.SignWitnesses.Proofs
import Klarity.Renderer.Stores.HardwareWallets.SigningSession.Proofs
import Klarity.Renderer.Stores.Lib.CachedRequest.Proofs
import Klarity.Renderer.Stores.Lib.Request.Proofs
import Klarity.Renderer.Stores.NetworkStatusStore.Proofs
import Klarity.Renderer.Stores.NewsFeedStore.Polling
import Klarity.Renderer.Stores.NewsFeedStore.ReadMarks
import Klarity.Renderer.Stores.StakingStore.DelegationFee
import Klarity.Renderer.Stores.StakingStore.StakePoolsPolling.Proofs
import Klarity.Renderer.Stores.TransactionChecker.Proofs
import Klarity.Renderer.Stores.VotingStore.QrCode
import Klarity.Renderer.Stores.VotingStore.Reset
import Klarity.Renderer.Stores.WalletMigrationStore.Completeness
import Klarity.Renderer.Stores.WalletSettingsStore
import Klarity.Renderer.Stores.WalletsStore.Certificate
import Klarity.Renderer.Stores.WalletsStore.PaperWallet
import Klarity.Renderer.Stores.WalletsStore.PollingLock
import Klarity.Renderer.Stores.WalletsStore.WalletList
import Klarity.Renderer.Utils.Assets
import Klarity.Renderer.Utils.Formatters.ShortNumber
import Klarity.Renderer.Utils.Formatters.TokenAmounts
import Klarity.Renderer.Utils.HardwareWalletUtils.DerivationPaths
import Klarity.Renderer.Utils.TokenBundles
import Klarity.Renderer.Utils.Transaction.Filter
import Klarity.Renderer.Utils.Transaction.Proofs
import Klarity.Renderer.Utils.UtxoUtils
import Klarity.Main.Ipc.GetHardwareWalletChannel
import Klarity.Main.Ipc.GetHardwareWalletChannel.Proofs
import Klarity.Renderer.Stores.StakingStore.DelegationChecker
