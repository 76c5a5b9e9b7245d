import Pogocache.Binary64
import Pogocache.Arith
import Pogocache.Resources
import Pogocache.Planner
import Pogocache.Scaling
import Pogocache.Shards
import Pogocache.Overflow
import Pogocache.Decimal
import Pogocache.Validation
import Pogocache.Config
import Pogocache.Monotone
import Pogocache.Acceptance
