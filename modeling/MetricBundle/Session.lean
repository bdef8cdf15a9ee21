import MetricBundle.Session.Step

/-!
# Sessions

A session works with telemetry step by step. It has a factory, and tables of named handles, slots
and snapshots. A step that fails leaves the tables as they were, but for slots into which metrics
were put before the failure or out of which a metric of the wrong type was taken.
-/

namespace MetricBundle

/-- A table of named things. -/
abbrev Table (α : Type) := List (String × α)

namespace Table

variable {α : Type}

/-- What a name stands for. -/
def get? (table : Table α) (name : String) : Option α :=
  (table.find? fun e => e.1 == name).map (·.2)

/-- Names a thing; what had the name before loses it. -/
def put (table : Table α) (name : String) (a : α) : Table α :=
  (name, a) :: table.filter fun e => e.1 != name

end Table

/-- A session between two steps. -/
structure Session where
  factory : Factory
  telemetry : Telemetry := {}
  handles : Table Handle := []
  slots : Table Slots := []
  snapshots : Table Snapshot := []

namespace Session

/-- A session that begins with an empty registry and the clock at zero. -/
def start (space subsystem : String) : Session := { factory := { space, subsystem } }

/-- What a step comes to: an answer and the session after it. -/
abbrev Outcome := Answer × Session

def withTelemetry (s : Session) (t : Telemetry) : Session := { s with telemetry := t }

/-- Answers with a handle and names it. -/
def keep (s : Session) (id : String) (h : Handle) : Outcome :=
  let answer :=
    match h with
    | .callback c => .callback c (s.telemetry.sourceValue c)
    | h => .handle h
  (answer, { s with handles := s.handles.put id h })

/-- Answers with slots and names them. -/
def keepSlots (s : Session) (id : String) (slots : Slots) : Outcome :=
  (.slots slots, { s with slots := s.slots.put id slots })

/-! ## Handles -/

/-- Has a handle made by the factory and names it. -/
def make {α : Type} (s : Session) (id : String) (work : Action (Except Error α))
    (handle : α → Handle) : Outcome :=
  match work s.telemetry with
  | (.ok (.ok a), t) => (s.withTelemetry t).keep id (handle a)
  | (.ok (.error e), t) => (.failure e, s.withTelemetry t)
  | (.error _, t) => (.halted, s.withTelemetry t)

/-- Makes a metric without the factory. -/
def makeLoose (s : Session) (id : String) (r : Request) : Outcome :=
  match s.telemetry.make r with
  | .ok (m, t) => (s.withTelemetry t).keep id (.metric m)
  | .error (.metric e) => (.refusal e, s)
  | .error _ => (.halted, s)

/-- The number that a callback gives for a text; zero for a text that is no number of its type. -/
def sourceNumber (numeric : NumericType) (value : String) : Number :=
  (numeric.read value.toList).getD Number.zero

/-- Makes a callback without the factory. -/
def makeLooseCallback (s : Session) (id : String) (kind : CallbackKind) (numeric : NumericType)
    (value : String) (o : Opts) : Outcome :=
  match s.telemetry.makeCallback kind numeric o (sourceNumber numeric value) with
  | .ok (c, t) => (s.withTelemetry t).keep id (.callback c)
  | .error e => (.refusal e, s)

def setSource (s : Session) (id value : String) : Outcome :=
  match s.handles.get? id with
  | some (.callback c) =>
    let t := s.telemetry.setSource c (sourceNumber c.numeric value)
    (s.withTelemetry t).keep id (.callback c)
  | _ => (.absent .source, s)

/-- Makes changes one after the other. -/
def changeAll (m : Metric) : List Change → Action Unit
  | [] => pure ()
  | c :: cs => do
    Telemetry.change m c
    changeAll m cs

/-- Calls something on a metric. -/
def useMetric (s : Session) (m : Metric) (call : Call) (value : Number) (values : List Number)
    (labels : List String) (strict : Bool) : Outcome :=
  match s.telemetry.child m labels with
  | .error (.metric e) => (if strict then .halted else .refusal e, s)
  | .error _ => (.halted, s)
  | .ok (m, t) =>
    match changeAll m (call.changes m.instrument value values) t with
    | (.ok (), t) => (.figure (t.figure m), s.withTelemetry t)
    | (.error _, t) => (.halted, s.withTelemetry t)

def use (s : Session) (id : String) (call : Call) (value : Number) (values : List Number)
    (labels : List String) (strict : Bool) : Outcome :=
  match s.handles.get? id with
  | some (.metric m) | some (.observer m) => s.useMetric m call value values labels strict
  | some (.callback c) => (.figure (.value (s.telemetry.sourceValue c)), s)
  | none => (.absent .handle, s)

/-- The vector that a name stands for, not being used as an observer. -/
def vector? (s : Session) (id : String) : Option Metric :=
  match s.handles.get? id with
  | some (.metric m) => if m.shape = .vector then some m else none
  | _ => none

def remove (s : Session) (id : String) (labels : List String) : Outcome :=
  match s.vector? id with
  | none => (.absent .removal, s)
  | some m =>
    match s.telemetry.remove m labels with
    | .ok t => (.done, s.withTelemetry t)
    | .error e => (.refusal e, s)

def reset (s : Session) (id : String) : Outcome :=
  match s.vector? id with
  | some m => (.done, s.withTelemetry (s.telemetry.reset m))
  | none => (.absent .resetting, s)

def describe (s : Session) (id : String) : Outcome :=
  match s.handles.get? id with
  | some (.metric m) => (.text m.describeHandle, s)
  | some (.observer m) => (.text m.describeObserver, s)
  | some (.callback c) => (.text c.describeHandle, s)
  | none => (.absent .handle, s)

/-! ## Slots and bundles -/

/-- Runs a trial; without a result if it was stopped. -/
def attempt {α : Type} (s : Session) (work : StateM Trial α) :
    Option (α × List Request) × Session :=
  let (a, trial) := work { telemetry := s.telemetry }
  (if trial.stopped then none else some (a, trial.requests), s.withTelemetry trial.telemetry)

def populate (s : Session) (id : String) (schema : Schema) (mode : Mode) : Outcome :=
  match s.attempt (schema.populate (Trial.factory s.factory mode)) with
  | (none, s) => (.halted, s)
  | (some (.ok slots, requests), s) =>
    (.population none requests (some slots), { s with slots := s.slots.put id slots })
  | (some (.error e, requests), s) => (.population (some e) requests (s.slots.get? id), s)

def populateInto (s : Session) (id : String) (schema : Schema) (mode : Mode) : Outcome :=
  match s.slots.get? id with
  | none => (.absent .slots, s)
  | some slots =>
    let work : StateM Trial (Slots × Errors × Bool) := do
      let (slots, errors) ← slots.populate (Trial.factory s.factory mode) schema
      return (slots, errors, (← get).stopped)
    let ((slots, errors, stopped), trial) := work { telemetry := s.telemetry }
    let s := { s.withTelemetry trial.telemetry with slots := s.slots.put id slots }
    if stopped then (.halted, s)
    else
      match errors.toExcept with
      | .ok () => (.population none trial.requests (some slots), s)
      | .error errors => (.population (some (.bundle errors)) trial.requests (some slots), s)

def fill (s : Session) (id : String) (index : Nat) (handle : String) : Outcome :=
  match s.handles.get? handle, s.slots.get? id with
  | some (.metric m), some slots =>
    match slots.set index m with
    | .ok slots => s.keepSlots id slots
    | .error e => (.failure (.single e), s)
  | some (.metric _), none => (.absent .slots, s)
  | _, _ => (.absent .handle, s)

def lookup (s : Session) (id ident : String) : Outcome :=
  match s.slots.get? id with
  | none => (.absent .slots, s)
  | some slots =>
    match slots.get ident with
    | some m => (.text m.describe, s)
    | none => (.nothing, s)

def take (s : Session) (id : String) (index : Nat) (type : HandleType) (target : String) :
    Outcome :=
  match s.slots.get? id with
  | none => (.absent .slots, s)
  | some slots =>
    let (taken, slots) := slots.take type index
    let s := { s with slots := s.slots.put id slots }
    match taken with
    | .ok (some h) => s.keep target h
    | .ok none => (.nothing, s)
    | .error e => (.failure (.single e), s)

def bundle (s : Session) (schema : Schema) (initializers : List Initializer) (mode : Mode) :
    Outcome :=
  let b := Bundle.ofInitializers schema initializers
  match s.attempt (b.populate (Trial.factory s.factory mode)) with
  | (none, s) => (.halted, s)
  | (some (.ok members, _), s) => (.members members, s)
  | (some (.error e, _), s) => (.failure e, s)

/-- Constructs a number of bundles one after the other. -/
def constructAll {β : Type} {m : Type → Type} [Monad m] (factory : MetricFactory m)
    (p : Provider β) : Nat → m (List (Except Error β))
  | 0 => pure []
  | n + 1 => do
    let first ← p.construct factory
    let others ← constructAll factory p n
    return first :: others

def provide (s : Session) (schema : Schema) (initializers : List Initializer) (mode : Mode)
    (times : Nat) : Outcome :=
  match Provider.of (Bundle.ofInitializers schema initializers) with
  | .error e => (.failure (.single e), s)
  | .ok p =>
    match s.attempt (constructAll (Trial.factory s.factory mode) p times) with
    | (none, s) => (.halted, s)
    | (some (built, _), s) => (.provider p built, s)

/-! ## Snapshots -/

/-- Takes a snapshot and names it. -/
def snap (s : Session) (id : String) (work : Action Snapshot) (names : List String) : Outcome :=
  match work s.telemetry with
  | (.ok taken, t) =>
    (.snapshot taken (taken.text names),
      { s.withTelemetry t with snapshots := s.snapshots.put id taken })
  | (.error _, t) => (.halted, s.withTelemetry t)

def collect (s : Session) (id handle : String) (names : List String) : Outcome :=
  match s.handles.get? handle with
  | some (.metric m) => s.snap id (Snapshot.collect (.metric m)) names
  | some (.callback c) => s.snap id (Snapshot.collect (.callback c)) names
  | _ => (.absent .collector, s)

/-- The snapshot with a name; an empty one if there is none. -/
def snapshot (s : Session) (id : String) : Snapshot := (s.snapshots.get? id).getD {}

/-- Answers with the failures of a check, if it has some. -/
def checked (s : Session) (failures : List String) : Outcome :=
  (if failures.isEmpty then .done else .assertion failures, s)

def compare (s : Session) (id other : String) (names : List String) : Outcome :=
  match (s.snapshot id).compare (s.snapshot other) names with
  | .ok () => (.done, s)
  | .error message => (.differs message, s)

/-! ## Performing steps -/

/-- Performs a step. -/
def perform (s : Session) : Step → Outcome
  | .advance span => (.done, s.withTelemetry (s.telemetry.advance span))
  | .describeFactory => (.factory s.factory, s)
  | .reconfigure f => (.done, { s with factory := f })
  | .make id r => s.make id (s.factory.newMetric r) .metric
  | .makeObserver id r => s.make id (s.factory.newObserver r) .observer
  | .makeLoose id r => s.makeLoose id r
  | .makeCallback id kind numeric value o =>
    s.make id (s.factory.newCallback kind numeric o (sourceNumber numeric value)) .callback
  | .makeLooseCallback id kind numeric value o => s.makeLooseCallback id kind numeric value o
  | .setSource id value => s.setSource id value
  | .use id call value values labels strict => s.use id call value values labels strict
  | .remove id labels => s.remove id labels
  | .reset id => s.reset id
  | .describe id => s.describe id
  | .layOut id schema => s.keepSlots id (Slots.ofSchema schema)
  | .populate id schema mode => s.populate id schema mode
  | .populateInto id schema mode => s.populateInto id schema mode
  | .fill id index handle => s.fill id index handle
  | .lookup id ident => s.lookup id ident
  | .take id index type target => s.take id index type target
  | .bundle schema initializers mode => s.bundle schema initializers mode
  | .provide schema initializers mode times => s.provide schema initializers mode times
  | .gather id names => s.snap id Snapshot.gather names
  | .collect id handle names => s.collect id handle names
  | .registered id names => s.checked ((s.snapshot id).missing names)
  | .notRegistered id names => s.checked ((s.snapshot id).surplus names)
  | .compare id other names => s.compare id other names
  | .unknown => (.absent .step, s)

/-- Performs a step; the answer comes with what was logged meanwhile. -/
def performLogged (s : Session) (step : Step) : (Answer × List LogEntry) × Session :=
  let unlogged : Session := { s with telemetry := { s.telemetry with logs := [] } }
  let (answer, s) := unlogged.perform step
  ((answer, s.telemetry.logs), s)

/-- Performs steps one after the other. -/
def run (s : Session) : List Step → List (Answer × List LogEntry)
  | [] => []
  | step :: steps =>
    let (answer, s) := s.performLogged step
    answer :: s.run steps

end Session

end MetricBundle
