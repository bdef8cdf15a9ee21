import MetricBundle.Duration.Reader
import MetricBundle.Kind
import MetricBundle.Number.Decimal
import MetricBundle.Number.Reader
import MetricBundle.Tag
import MetricBundle.Text.Quoted

/-!
# Errors

Everything that can go wrong is a `Failure`: a cause, worded by `Failure.message`. Failures of
independent steps are collected in order as `Errors`, and an `Error` is either one failure or such a
collection. A collection holds failures only, never another collection: adding a collection adds its
failures one by one, so how they were grouped before leaves no trace.
-/

namespace MetricBundle

/-- Why a metric cannot be created, registered or addressed. -/
inductive MetricError where
  | alreadyRegistered
  /-- A number of label values other than the number of labels. -/
  | cardinality (expected got : Nat)
  | emptyHelp
  | invalidMetricName (name : String)
  | invalidLabelName (name : String)
  | repeatedLabel (name : String)
  /-- The name is registered with another help or other label names. -/
  | conflictingDescriptor
  | bucketLabelReserved
  | quantileLabelReserved
  | bucketsNotIncreasing (lower upper : Number)
  | quantileOutOfRange (quantile : Number)
  | tooManyAgeBuckets (count maximum : Nat)
  /-- A window of the given length has less than a nanosecond for each of its age buckets. -/
  | windowTooShort (maxAge : Nat) (ageBuckets : Nat)
  | missingLabelValues (values : List String)
  | stated (text : String)
deriving DecidableEq

/-- What a metric error says, other than the two that have a form of their own. -/
def MetricError.detail : MetricError → String
  | .alreadyRegistered => "Duplicate metrics collector registration attempted"
  | .cardinality expected got =>
    "Inconsistent label cardinality, expect " ++ toString expected ++ " label values, but got "
      ++ toString got
  | .emptyHelp => "empty help string"
  | .invalidMetricName name => "'" ++ name ++ "' is not a valid metric name"
  | .invalidLabelName name => "'" ++ name ++ "' is not a valid label name"
  | .repeatedLabel name => "duplicate variable label name " ++ name
  | .conflictingDescriptor =>
    "a previously registered descriptor with the same fully-qualified name as Desc \x7b\x7d has "
      ++ "different label names or a different help string"
  | .bucketLabelReserved => "`le` is not allowed as label name in histograms"
  | .quantileLabelReserved => "'quantile' is reserved and cannot be a summary label"
  | .bucketsNotIncreasing lower upper =>
    "histogram buckets must be in increasing order: " ++ lower.text ++ " >= " ++ upper.text
  | .quantileOutOfRange quantile =>
    "summary objective quantile " ++ quantile.text ++ " is not within [0, 1]"
  | .tooManyAgeBuckets count maximum =>
    "summary age_buckets " ++ toString count ++ " exceeds the maximum of " ++ toString maximum
  | .windowTooShort maxAge ageBuckets =>
    "summary max_age " ++ Duration.text maxAge ++ " is too short for " ++ toString ageBuckets
      ++ " age buckets"
  | .missingLabelValues values => "missing label values " ++ quoteList values
  | .stated text => text

def MetricError.message : MetricError → String
  | .alreadyRegistered => MetricError.detail .alreadyRegistered
  | .cardinality expected got => MetricError.detail (.cardinality expected got)
  | e => "Error: " ++ e.detail

/-- Why the value of a tag cannot be read. -/
inductive ReadFault where
  | numeral (fault : NumeralFault)
  | count (fault : CountFault)
  | duration (fault : DurationFault)
deriving DecidableEq

def ReadFault.message : ReadFault → String
  | .numeral fault => fault.message
  | .count fault => fault.message
  | .duration fault => fault.message

/-- What is wrong with a field. -/
inductive FieldFault where
  | notAllowed (tag : Tag)
  /-- The tag belongs to the instrument that an observer did not become. -/
  | ambiguous (tag : Tag)
  | labelNamesRequired
  | malformedObjective (entry : String)
  | unknownObserver (text : String)
  | unreadable (cause : ReadFault)
  /-- The metric of the field is not of the type it is taken as. -/
  | typeMismatch (i : Instrument) (s : Shape)
  | notPopulated
  | stated (text : String) (cause : Option String)
deriving DecidableEq

def FieldFault.message : FieldFault → String
  | .notAllowed tag => "tag '" ++ tag.key ++ "' is not allowed"
  | .ambiguous tag => "tag '" ++ tag.key ++ "' is ambiguous"
  | .labelNamesRequired =>
    "tag '" ++ Tag.key .labelNames ++ "' is required and cannot be empty for vector metrics"
  | .malformedObjective entry => "Invalid objective entry '" ++ entry ++ "'"
  | .unknownObserver text => "'" ++ text ++ "' is not a valid observer metric type"
  | .unreadable cause => cause.message
  | .typeMismatch i s => "metric type mismatch: got " ++ handleName i s
  | .notPopulated => "metric was not populated"
  | .stated text _ => text

/-- The value of the tag overflows, which cannot be reported. -/
def FieldFault.isOverflow : FieldFault → Bool
  | .unreadable (.duration .overflow) => true
  | _ => false

/-- The text of the error underneath, for a fault that has one. -/
def FieldFault.cause? : FieldFault → Option String
  | .unreadable cause => some cause.message
  | .stated _ cause => cause
  | _ => none

/-- A fault of one field, with the field's identifier and type. -/
structure FieldError where
  field : String
  typeName : String
  fault : FieldFault
deriving DecidableEq

def FieldError.message (e : FieldError) : String :=
  "'" ++ e.field ++ " " ++ e.typeName ++ "': " ++ e.fault.message

/-- Why a bundle, or what is asked of its slots, is malformed. -/
inductive BundleDefect where
  | unnamedField (index : Nat)
  | repeatedField (ident : String)
  /-- The slots were laid out for another bundle. -/
  | foreignSlots (typeName : String)
  | noSuchField (index : Nat)
  | stated (text : String)
deriving DecidableEq

def BundleDefect.message : BundleDefect → String
  | .unnamedField index => "field " ++ toString index ++ " has no identifier"
  | .repeatedField ident => "field '" ++ ident ++ "' is declared more than once"
  | .foreignSlots typeName => "slots were created for '" ++ typeName ++ "'"
  | .noSuchField index => "no field at index " ++ toString index
  | .stated text => text

/-- One thing that went wrong. -/
inductive Failure where
  | noMetricName
  /-- Options of this instrument were given where an observer is wanted. -/
  | notAnObserver (i : Instrument)
  | invalidBundle (typeName : String) (defect : BundleDefect)
  | field (e : FieldError)
  | metric (e : MetricError)
deriving DecidableEq

namespace Failure

def message : Failure → String
  | .noMetricName => "a metric name is required"
  | .notAnObserver i => i.name ++ " options cannot create an observer"
  | .invalidBundle typeName defect =>
    "'" ++ typeName ++ "' is not a valid bundle: " ++ defect.message
  | .field e => e.message
  | .metric e => e.message

/-- The metric was registered before. -/
def isAlreadyRegistered : Failure → Bool
  | .metric .alreadyRegistered => true
  | _ => false

end Failure

/-- The failures of independent steps, in order. None at all means success. -/
structure Errors where
  toList : List Failure := []
deriving DecidableEq

/-- One failure, or the failures of a whole bundle. -/
inductive Error where
  | single (failure : Failure)
  | bundle (errors : Errors)
deriving DecidableEq

instance : Coe Failure Error := ⟨.single⟩

namespace Errors

def empty : Errors := {}

/-- Adds an error. The failures of a bundle are added one by one. -/
def push (es : Errors) : Error → Errors
  | .single failure => ⟨es.toList ++ [failure]⟩
  | .bundle nested => ⟨es.toList ++ nested.toList⟩

/-- Adds the failures of another collection. -/
def append (es other : Errors) : Errors := ⟨es.toList ++ other.toList⟩

/-- Adds errors one by one. -/
def extend (es : Errors) (added : List Error) : Errors := added.foldl push es

/-- The collection of a list of errors. -/
def collect (errors : List Error) : Errors := empty.extend errors

/-- Records the error of a step that failed, and hands back the value of one that did not. -/
def check {α : Type} (es : Errors) : Except Error α → Errors × Option α
  | .ok value => (es, some value)
  | .error e => (es.push e, none)

def size (es : Errors) : Nat := es.toList.length

def isEmpty (es : Errors) : Bool := es.toList.isEmpty

/-- Success if nothing was collected. -/
def toExcept (es : Errors) : Except Errors Unit := if es.isEmpty then .ok () else .error es

/-- The messages of the failures, separated by semicolons. -/
def message (es : Errors) : String := "; ".intercalate (es.toList.map Failure.message)

end Errors

namespace Error

/-- The failures that an error consists of. -/
def failures : Error → List Failure
  | .single failure => [failure]
  | .bundle errors => errors.toList

def message : Error → String
  | .single failure => failure.message
  | .bundle errors => errors.message

/-- A metric was registered before: it, or one of the failures, says so. -/
def isAlreadyRegistered : Error → Bool
  | .single failure => failure.isAlreadyRegistered
  | .bundle errors => errors.toList.any Failure.isAlreadyRegistered

end Error

@[simp] theorem Errors.toList_push (es : Errors) (e : Error) :
    (es.push e).toList = es.toList ++ e.failures := by
  cases e <;> rfl

end MetricBundle
