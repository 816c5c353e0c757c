import ServiceExposure.Controller
import ServiceExposure.Watch.Metrics
import ServiceExposure.Watch.Tracker

/-! # Watching services

Each event of a watch leads to notifications, which are handled one after the other. One that fails
is given up; the next event of the service plans its writes again. -/

namespace ServiceExposure

/-- What is remembered between events. -/
structure Watch where
  tracker : Tracker := {}
  metrics : Metrics := {}
deriving DecidableEq, Repr, Inhabited

namespace Watch

variable {m : Type → Type} [Monad m]

def handle (r : Reconciler) (store : Store m) (metrics : Metrics) (n : Notification) :
    m Metrics := do
  match ← (r.handle store n).run with
  | .ok writes => return metrics.handled n writes
  | .error _ => return metrics.failed n

def handleAll (r : Reconciler) (store : Store m) (metrics : Metrics) : List Notification → m Metrics
  | [] => return metrics
  | n :: ns => do handleAll r store (← handle r store metrics n) ns

def step (r : Reconciler) (store : Store m) (w : Watch) (event : WatchEvent) : m Watch := do
  let (notifications, tracker) := w.tracker.process event
  return { tracker, metrics := ← handleAll r store w.metrics notifications }

def run (r : Reconciler) (store : Store m) (w : Watch) : List WatchEvent → m Watch
  | [] => return w
  | event :: events => do run r store (← step r store w event) events

end Watch

end ServiceExposure
