import ServiceExposure.Notification
import ServiceExposure.Shelf

/-! # Tracking services

A watch tells what services look like now. The tracker remembers what they looked like, so that it
can tell what has happened to them. When the watch starts anew, all services are listed again, and
those that are not are gone. -/

namespace ServiceExposure

/-- What a watch on services reports. -/
inductive WatchEvent where
  /-- All services are about to be listed. -/
  | init
  /-- A service of that list. -/
  | initApply (service : Service)
  | apply (service : Service)
  | delete (service : Service)
  /-- All services have been listed. -/
  | initDone
deriving DecidableEq, Repr

structure Tracker where
  services : Shelf Service := ∅
  /-- While services are listed anew: those that have been listed. -/
  relisted : Option (List ObjectKey) := none
deriving DecidableEq, Repr, Inhabited

namespace Tracker

/-- Remembers a service as it is now. -/
def observe (t : Tracker) (s : Service) : List Notification × Tracker :=
  let notification :=
    match t.services.get? s.key with
    | some old => .updated old s
    | none => .added s
  ([notification], { t with services := t.services.put s })

/-- Forgets the services that have not been listed. -/
def finishList (t : Tracker) (relisted : List ObjectKey) : List Notification × Tracker :=
  let gone := t.services.toList.filter fun e => !relisted.contains e.1
  let services := gone.foldl (fun services e => services.erase e.1) t.services
  (gone.map fun e => .deleted e.2, { services, relisted := none })

def process (t : Tracker) : WatchEvent → List Notification × Tracker
  | .init => ([], { t with relisted := some [] })
  | .initApply s => { t with relisted := t.relisted.map (s.key :: ·) }.observe s
  | .apply s => t.observe s
  | .delete s => ([.deleted s], { t with services := t.services.erase s.key })
  | .initDone =>
    match t.relisted with
    | none => ([], t)
    | some relisted => t.finishList relisted

end Tracker

end ServiceExposure
