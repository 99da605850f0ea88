import Armory.Types
import Armory.Window
import Armory.LoadWallets
import Armory.LedgerSort
import Armory.CombinedLedger
import Armory.Table
import Armory.Blockchain
import Armory.Heartbeat
import Armory.Replay
import Armory.System
import Armory.Runs
import Armory.LedgerView
import Armory.Reactor
