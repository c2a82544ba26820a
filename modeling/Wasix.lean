import Wasix.Common.Memory
import Wasix.Common.Abi
import Wasix.Asyncify.Engine
import Wasix.Poll.Internal
import Wasix.Poll.Oneoff
import Wasix.Poll.Events
import Wasix.Poll.Rotation
import Wasix.Sleep.ThreadSleep
import Wasix.Fork.ProcFork
import Wasix.Fork.Determinism
import Wasix.Task.Entry
import Wasix.Task.Lifecycle
import Wasix.Task.Spawn
import Wasix.Api.Imports
