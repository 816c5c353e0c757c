import ServiceExposure.Annotation
import ServiceExposure.Kube.Service

/-! # Notifications -/

namespace ServiceExposure

/-- Whether a service opts in to being exposed, by its label or by one of two annotations. -/
def Service.isExposed (s : Service) : Bool :=
  s.label? Annotation.exposeLabel.1 = some Annotation.exposeLabel.2 ||
    s.annotation? Annotation.expose.1 = some Annotation.expose.2 ||
    s.annotation? Annotation.inject.1 = some Annotation.inject.2

/-- What has happened to a service. -/
inductive Notification where
  | added (service : Service)
  | updated (old new : Service)
  | deleted (service : Service)
deriving DecidableEq, Repr

namespace Notification

/-- The service as it was seen last. -/
def service : Notification → Service
  | added s | updated _ s | deleted s => s

def kind : Notification → String
  | added _ => "added"
  | updated _ _ => "updated"
  | deleted _ => "deleted"

/-- Whether the service is exposed, or was so before. -/
def concernsExposed : Notification → Bool
  | added s | deleted s => s.isExposed
  | updated old new => new.isExposed || old.isExposed

end Notification

end ServiceExposure
