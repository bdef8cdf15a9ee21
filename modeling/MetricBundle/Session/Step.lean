import MetricBundle.Session.Trial
import MetricBundle.Snapshot

/-!
# Steps of a session

What can be asked of a session, and what it answers.
-/

namespace MetricBundle

/-- What is called on a handle. -/
inductive Call where
  | increment
  | decrement
  /-- Raises a counter. -/
  | raise
  /-- Adds to a gauge. -/
  | add
  /-- Takes from a gauge. -/
  | subtract
  | set
  | observe
  /-- Anything else only reads. -/
  | read
deriving DecidableEq

/-- The changes that a call makes to a metric. A call that the metric does not have makes none. -/
def Call.changes (call : Call) (i : Instrument) (value : Number) (values : List Number) :
    List Change :=
  match call, i with
  | .increment, .counter | .increment, .gauge => [.add Number.one]
  | .decrement, .gauge => [.add Number.one.neg]
  | .raise, .counter => [.add value]
  | .add, .gauge => [.add value]
  | .subtract, .gauge => [.add value.neg]
  | .set, .gauge => [.set value]
  | .observe, .histogram | .observe, .summary =>
    (if values.isEmpty then [value] else values).map .observe
  | _, _ => []

/-- What can be asked of a session. Handles, slots and snapshots have names. -/
inductive Step where
  | advance (span : Nat)
  | describeFactory
  /-- Replaces the factory. -/
  | reconfigure (f : Factory)
  | make (id : String) (r : Request)
  | makeObserver (id : String) (r : Request)
  /-- Makes a metric without the factory. -/
  | makeLoose (id : String) (r : Request)
  | makeCallback (id : String) (kind : CallbackKind) (numeric : NumericType) (value : String)
      (o : Opts)
  /-- Makes a callback without the factory. -/
  | makeLooseCallback (id : String) (kind : CallbackKind) (numeric : NumericType) (value : String)
      (o : Opts)
  | setSource (id value : String)
  /-- Calls something on a handle, or on the child of a vector. If there cannot be such a child,
  that is an error, and a strict call halts. -/
  | use (id : String) (call : Call) (value : Number) (values : List Number) (labels : List String)
      (strict : Bool)
  | remove (id : String) (labels : List String)
  | reset (id : String)
  | describe (id : String)
  | layOut (id : String) (schema : Schema)
  | populate (id : String) (schema : Schema) (mode : Mode)
  /-- Populates slots that are there. -/
  | populateInto (id : String) (schema : Schema) (mode : Mode)
  | fill (id : String) (index : Nat) (handle : String)
  | lookup (id ident : String)
  | take (id : String) (index : Nat) (type : HandleType) (target : String)
  | bundle (schema : Schema) (initializers : List Initializer) (mode : Mode)
  | provide (schema : Schema) (initializers : List Initializer) (mode : Mode) (times : Nat)
  | gather (id : String) (names : List String)
  | collect (id handle : String) (names : List String)
  | registered (id : String) (names : List String)
  | notRegistered (id : String) (names : List String)
  | compare (id other : String) (names : List String)
  /-- A step of no known kind. -/
  | unknown

/-- What a step asks for and is not there. -/
inductive Absence where
  | handle
  | slots
  | collector
  | removal
  | resetting
  | source
  /-- A step of a known kind. -/
  | step
deriving DecidableEq

def Absence.message : Absence → String
  | .handle => "no such handle"
  | .slots => "no slots"
  | .collector => "collect"
  | .removal => "remove"
  | .resetting => "reset"
  | .source => "set_fn"
  | .step => "do"

/-- What a session answers. -/
inductive Answer where
  | done
  | factory (f : Factory)
  | handle (h : Handle)
  /-- A callback with its present value. -/
  | callback (c : Callback) (value : Number)
  | figure (f : Figure)
  | text (s : String)
  /-- Nothing is there. -/
  | nothing
  | slots (s : Slots)
  /-- The outcome of populating slots, what was asked of the factory, and the slots that there
  are. -/
  | population (error : Option Error) (requests : List Request) (slots : Option Slots)
  | members (ms : List Member)
  | provider (p : Provider (List Member)) (built : List (Except Error (List Member)))
  | snapshot (s : Snapshot) (text : String)
  | failure (e : Error)
  /-- An error of a handle. -/
  | refusal (e : MetricError)
  | absent (a : Absence)
  | assertion (failures : List String)
  | differs (message : String)
  /-- The step could not go on: the clock left its range, a counter was asked to fall, a tag had a
  value that overflows, or a strict call had no child. -/
  | halted

end MetricBundle
