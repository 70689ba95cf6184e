import Healthcheck.Go.Basic
import Healthcheck.Go.Strconv
import Healthcheck.Go.Net
import Healthcheck.Go.NetRoundTrip
import Healthcheck.Utils.Addr
import Healthcheck.Utils.Conn
import Healthcheck.Checker.Basic
import Healthcheck.Checker.Registry
import Healthcheck.Checker.Check
import Healthcheck.Actioner.Netlink
import Healthcheck.Actioner.KernelRoute
import Healthcheck.Actioner.Create
import Healthcheck.Actioner.Concurrent
import Healthcheck.Actioner.Refinement
import Healthcheck.Actioner.Interleaving
