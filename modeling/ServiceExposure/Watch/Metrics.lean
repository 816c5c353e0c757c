import ServiceExposure.Notification

/-! # Metrics -/

namespace ServiceExposure

/-- Counts of what a controller has done, by kind of notification. -/
structure Metrics where
  notifications : Dict String Nat := ∅
  failures : Dict String Nat := ∅
  writes : Nat := 0
deriving DecidableEq, Repr, Inhabited

namespace Metrics

def increment (counts : Dict String Nat) (kind : String) : Dict String Nat :=
  counts.insert kind ((counts.get? kind).getD 0 + 1)

/-- A notification that took so many writes. -/
def handled (m : Metrics) (n : Notification) (writes : Nat) : Metrics :=
  { m with notifications := increment m.notifications n.kind, writes := m.writes + writes }

/-- A notification that failed. What it wrote before does not count. -/
def failed (m : Metrics) (n : Notification) : Metrics :=
  { m with
    notifications := increment m.notifications n.kind
    failures := increment m.failures n.kind }

def kindLines (name : String) (counts : Dict String Nat) : List String :=
  counts.toList.map fun e => name ++ "_total\x7bkind=\"" ++ e.1 ++ "\"\x7d " ++ toString e.2

/-- The counters as text; one for a kind of notification shows once it has been counted. -/
def lines (m : Metrics) : List String :=
  kindLines "failures" m.failures ++ kindLines "notifications" m.notifications ++
    ["writes_total " ++ toString m.writes]

end Metrics

end ServiceExposure
