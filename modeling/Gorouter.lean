import Gorouter.Route.Uri
import Gorouter.Route.Pool
import Gorouter.Container.Trie
import Gorouter.Container.Snip
import Gorouter.Container.Walk
import Gorouter.Container.WalkSpec
import Gorouter.Registry.Registry
import Gorouter.Registry.Lookup
import Gorouter.Registry.PoolOpts
import Gorouter.Registry.Calls
import Gorouter.Registry.Prune
import Gorouter.Registry.RoundTrip
import Gorouter.Registry.EmptyPools
import Gorouter.Registry.Concurrent
import Gorouter.Registry.Interleavings
import Gorouter.Registry.Serializable
import Gorouter.Registry.Linearizable
import Gorouter.Router.ConnState
import Gorouter.Router.RegistryMessage
import Gorouter.Router.Subscribe
