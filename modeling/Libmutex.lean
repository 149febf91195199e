import Libmutex.Basic
import Libmutex.Permits
import Libmutex.XLock.ReadBiased
import Libmutex.XLock.Machine
import Libmutex.XLock.Accounting
import Libmutex.XLock.Wakeup
import Libmutex.XLock.Deadlock
import Libmutex.SpinLock
import Libmutex.UrwLock.Machine
import Libmutex.UrwLock.Invariant
import Libmutex.UrwLock.Condvar
import Libmutex.UrwLock.Deadlock
