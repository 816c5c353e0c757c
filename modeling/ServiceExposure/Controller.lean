import ServiceExposure.Discovery
import ServiceExposure.Reconciler

/-! # Controllers -/

namespace ServiceExposure

variable {m : Type → Type} [Monad m]

/-- The part of a namespace that a strategy needs to see. -/
def Snapshot.load (store : Store m) (strategy : Strategy) (inNamespace : String) :
    Attempt m Snapshot := do
  let failed (objects : String) := s!"failed to list {objects} in {inNamespace}"
  let ingresses ←
    -- what a strategy does not route with is not asked for, so that it cannot fail
    if strategy.exposer = .ingress then
      Attempt.within (failed "ingresses") (store.ingresses inNamespace)
    else pure []
  let routes ←
    if strategy.exposer = .route then Attempt.within (failed "routes") (store.routes inNamespace)
    else pure []
  let configMaps ← Attempt.within (failed "config maps") (store.configMaps inNamespace)
  let deployments ← Attempt.within (failed "deployments") (store.deployments inNamespace)
  return {
    ingresses := Resource.byName ingresses
    routes := Resource.byName routes
    configMaps := Resource.byName configMaps
    deployments := Resource.byName deployments }

/-- The reconciler that a configuration describes for a cluster. -/
def Reconciler.ofConfig (c : Config) (store : Store m) : Attempt m Reconciler := do
  let strategy ← Attempt.within "failed to create new strategy" (Strategy.select c store)
  let apiServerProtocol ←
    match nonEmpty? c.apiServerProtocol with
    | some protocol => pure protocol
    -- this is never an error: it falls back to the secure protocol
    | none => ExceptT.lift (discoverApiProtocol store)
  return {
    strategy
    settings := {
      apiServer := nonEmpty? c.apiServer
      apiServerProtocol
      consoleUrl := nonEmpty? c.consoleUrl
      urlProtocol := if c.http then "http" else "https" }
    services := c.services }

/-- Handles a notification to its end, and tells how many writes that took. -/
def Reconciler.handle (r : Reconciler) (store : Store m) (n : Notification) : Attempt m Nat := do
  if r.wants n then
    let inNamespace := n.service.key.inNamespace
    let snapshot ← Attempt.within s!"failed to load namespace {inNamespace}"
      (Snapshot.load store r.strategy inNamespace)
    let writes := r.plan n snapshot
    store.apply writes
    return writes.length
  else return 0

end ServiceExposure
