import MetricBundle.Exposition
import MetricBundle.Telemetry

/-!
# Snapshots

A snapshot holds the families that a registry or a collector had at one moment. It can be asked
which names it has and be compared with another one; two snapshots agree if their texts do.
-/

namespace MetricBundle

structure Snapshot where
  families : List Family := []
deriving DecidableEq

namespace Snapshot

/-- What is registered at present. -/
def gather : Action Snapshot := do return ⟨← Telemetry.gather⟩

/-- What one collector has at present. -/
def collect (c : Collector) : Action Snapshot := do return ⟨← Telemetry.collect c⟩

/-- The names of the families, in order. -/
def names (s : Snapshot) : List String := s.families.map Family.name

def isRegistered (s : Snapshot) (name : String) : Bool := s.names.contains name

/-- A message for each name that is there or not, contrary to what is expected. -/
def unexpected (s : Snapshot) (names : List String) (expected : Bool) (message : String) :
    List String :=
  (names.filter fun name => s.isRegistered name != expected).map fun name => message ++ ": " ++ name

/-- A message for each name that is missing. -/
def missing (s : Snapshot) (names : List String) : List String :=
  s.unexpected names true "metric should be registered"

/-- A message for each name that should not be there. -/
def surplus (s : Snapshot) (names : List String) : List String :=
  s.unexpected names false "metric should not be registered"

/-- The families with the given names; all of them if there are no names. -/
def select (s : Snapshot) (names : List String) : List Family :=
  s.families.filter fun f => names.isEmpty || names.contains f.name

/-- The text of the families with the given names; of all of them if there are no names. -/
def text (s : Snapshot) (names : List String) : String := Exposition.text (s.select names)

/-- Compares the texts of an expected and an actual snapshot. The error shows both. -/
def compare (expected actual : Snapshot) (names : List String) : Except String Unit :=
  let (wanted, got) := (expected.text names, actual.text names)
  if wanted = got then .ok () else .error ("expected:\n" ++ wanted ++ "\nactual:\n" ++ got)

end Snapshot

end MetricBundle
