import MetricBundle.Bundle

/-!
# Trials

A bundle is populated on trial by a factory that notes what it is asked for and answers in a certain
`Mode`: by making the metric, or with an error or a metric that nobody asked for. When the clock
leaves its range in the middle of a trial or the trial is abandoned, nothing more is made and the
trial counts as stopped.
-/

namespace MetricBundle

/-- How the factory of a trial answers. -/
inductive Mode where
  /-- As the factory of the session does. -/
  | real
  /-- With a failure. -/
  | refuse
  /-- With the failures of a bundle. -/
  | nested
  /-- With a counter of its own that is not registered. -/
  | swap
deriving DecidableEq

/-- A trial under way. -/
structure Trial where
  telemetry : Telemetry
  /-- What has been asked for, in order. -/
  requests : List Request := []
  stopped : Bool := false

namespace Trial

/-- The counter with which requests are answered that ask for something else. -/
def swapped : Request := { opts := .counter { name := "swapped", help := "swapped" } }

/-- The answer of a request and the telemetry after it; no answer if the clock left its range. -/
def answer (f : Factory) (mode : Mode) (r : Request) (t : Telemetry) :
    Option (Except Error Metric) × Telemetry :=
  match mode with
  | .real =>
    match f.newMetric r t with
    | (.ok answer, t) => (some answer, t)
    | (.error _, t) => (none, t)
  | .refuse => (some (.error (.single .noMetricName)), t)
  | .nested => (some (.error (.bundle ⟨[.noMetricName, .notAnObserver .gauge]⟩)), t)
  | .swap =>
    match t.make swapped with
    | .ok (m, t) => (some (.ok m), t)
    | .error _ => (none, t)

/-- The factory of a trial. -/
def factory (f : Factory) (mode : Mode) : MetricFactory (StateM Trial) where
  request r := fun trial =>
    let idle : Except Error Metric := .error (.bundle Errors.empty)
    if trial.stopped then (idle, trial)
    else
      let requests := trial.requests ++ [r]
      match answer f mode r trial.telemetry with
      | (some result, telemetry) => (result, { telemetry, requests })
      | (none, telemetry) => (idle, { telemetry, requests, stopped := true })
  abandon := modify fun trial => { trial with stopped := true }

end Trial

end MetricBundle
