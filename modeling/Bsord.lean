import Bsord.Library.Trace
import Bsord.Library.Scanf
import Bsord.Panic.Report
import Bsord.Panic.Handler
import Bsord.Panic.Walk
import Bsord.Panic.Shape
import Bsord.Panic.Annotation
import Bsord.Panic.Completeness
import Bsord.Panic.Errors
import Bsord.Panic.Selection
import Bsord.Panic.Readback
import Bsord.Kernel.Delivery
import Bsord.Kernel.Reports
import Bsord.Kernel.Serial
import Bsord.Kernel.Fatal
import Bsord.Kernel.Entries
import Bsord.Kernel.Termination
import Bsord.Kernel.Bounded
import Bsord.Server.Echo
import Bsord.Server.Accept
import Bsord.Server.Sockets
import Bsord.Server.Injection
import Bsord.Client.Egress
import Bsord.Client.Threads
import Bsord.Library.Channel
import Bsord.System.Network
import Bsord.System.Closing
import Bsord.System.Stream
import Bsord.System.Delivery
import Bsord.System.Drain
import Bsord.System.Disconnect
import Bsord.System.Crash
import Bsord.Library.Signature
import Bsord.Plano.Parameters
import Bsord.Plano.Binding
import Bsord.Plano.Calls
import Bsord.Plano.Display
import Bsord.Plano.Outline
import Bsord.Library.Fnmatch
import Bsord.Plano.TestRun
import Bsord.Plano.TestHistory
import Bsord.Library.Scoped
import Bsord.Plano.Contexts
import Bsord.Plano.ContextScopes
import Bsord.Plano.Find
import Bsord.Server.Process
import Bsord.Plano.Processes
import Bsord.Plano.Sigterm
import Bsord.Plano.Timers
