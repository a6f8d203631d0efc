import AscensionWatchdog.Admin.Eviction
import AscensionWatchdog.Admin.Exchange
import AscensionWatchdog.Broker.Cancellation
import AscensionWatchdog.Broker.Host
import AscensionWatchdog.Ledger.Migration
import AscensionWatchdog.Ledger.StopReserve
import AscensionWatchdog.Platform.Framed
import AscensionWatchdog.Platform.Stop
import AscensionWatchdog.Process.Child
import AscensionWatchdog.Queue.Abandonment
import AscensionWatchdog.Queue.ControlRegister
import AscensionWatchdog.Queue.Restored
import AscensionWatchdog.Queue.WireReceipts
import AscensionWatchdog.Release.Dispatch
import AscensionWatchdog.Release.Staging
import AscensionWatchdog.Supervisor.Settlement
import AscensionWatchdog.Windows.Integrity
import AscensionWatchdog.Windows.NamedPipe
import AscensionWatchdog.Windows.ServiceCommand
import AscensionWatchdog.Foundation.JsonGrammar
import AscensionWatchdog.Supervisor.NumberLexemes
import AscensionWatchdog.Supervisor.Intents
