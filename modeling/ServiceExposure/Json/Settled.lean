import ServiceExposure.Json.MergePatch
import ServiceExposure.Json.Parser
import ServiceExposure.Json.Printer

/-! # Settled documents

A document settles by being written and read again. Only a double precision number of many digits
may change, to a neighbour. Patches between documents of unknown content are found after they have
settled. -/

namespace ServiceExposure.Json

/-- The document as it reads back from its text. -/
def settled (j : Json) : Json := (parse? j.write).getD j

/-- The patch between two documents that have settled. -/
def settledDiff? (old new : Json) : Option Json := diff? old.settled new.settled

end ServiceExposure.Json
