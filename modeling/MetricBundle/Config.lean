import MetricBundle.Json

/-!
# Configuration

The settings with which a registry and its factory are set up. They are read from JSON: an object
with the keys `defaultNamespace`, `defaultSubsystem` and `disableProcessCollector`, each at most
once and all optional, or an array of the three values in this order, where missing ones at the end
are optional. Other keys are passed over.
-/

namespace MetricBundle

/-- Settings of a registry and its factory. -/
structure Config where
  /-- The namespace of metrics that have none. -/
  defaultNamespace : String := ""
  /-- The subsystem of metrics that have none. -/
  defaultSubsystem : String := ""
  disableProcessCollector : Bool := false
deriving DecidableEq

namespace Config

/-- The settings that a configuration can give. -/
inductive Setting where
  | namespaceSetting
  | subsystemSetting
  | collectorSetting
deriving DecidableEq

def Setting.all : List Setting := [.namespaceSetting, .subsystemSetting, .collectorSetting]

def Setting.key : Setting → String
  | .namespaceSetting => "defaultNamespace"
  | .subsystemSetting => "defaultSubsystem"
  | .collectorSetting => "disableProcessCollector"

/-- The configuration with one setting given by a value, which has to be of the right type. -/
def set? (c : Config) : Setting → Json → Option Config
  | .namespaceSetting, .text (some s) => some { c with defaultNamespace := s }
  | .subsystemSetting, .text (some s) => some { c with defaultSubsystem := s }
  | .collectorSetting, .bool b => some { c with disableProcessCollector := b }
  | _, _ => none

/-- Gives the settings of an object's members that have not been given yet. -/
def ofMembers? (c : Config) (given : List Setting) : List (Option String × Json) → Option Config
  | [] => some c
  | (none, _) :: _ => none
  | (some key, v) :: members =>
    match Setting.all.find? fun s => s.key == key with
    | none => ofMembers? c given members
    | some s =>
      if given.contains s then none
      else
        match c.set? s v with
        | none => none
        | some c => ofMembers? c (s :: given) members

/-- Gives settings in order. -/
def ofItems? (c : Config) : List Setting → List Json → Option Config
  | _, [] => some c
  | [], _ :: _ => none
  | s :: settings, v :: items =>
    match c.set? s v with
    | none => none
    | some c => ofItems? c settings items

/-- The configuration that a JSON value gives. -/
def ofJson? : Json → Option Config
  | .object members => ofMembers? {} [] members
  | .array items => ofItems? {} Setting.all items
  | _ => none

/-- The configuration that a JSON text gives. -/
def read (text : String) : Option Config :=
  match Json.read text.toList with
  | some v => ofJson? v
  | none => none

end Config

end MetricBundle
