import Foreman.Json.Fields
import Foreman.Uuid

/-!
# Settings of a queue runner
-/

namespace Foreman

/-- How a runner polls, leases, dispatches and warns. -/
structure RunnerConfig where
  /-- The name under which the runner holds leases. -/
  worker : String
  pollIntervalMs : Nat := 1000
  /-- How many runnable tasks one tick looks at for dispatch. -/
  batchLimit : Nat := 20
  leaseSeconds : Int := 30
  /-- How long after a dispatch a task is due again. -/
  cooldownSeconds : Int := 5
  /-- What a waiting user adds to the priority of a task. -/
  interactiveBoost : Int := 40
  /-- A task that waits longer than this starves. -/
  starvationSeconds : Int := 300
  /-- How long one warning about a task silences the next. -/
  warningCooldownSeconds : Int := 600
  /-- How many runnable tasks one tick looks at for starvation. The tasks below the batch are the ones
  most likely to starve. -/
  starvationScanLimit : Nat := 500
deriving DecidableEq, Repr

namespace RunnerConfig

/-- The names of the settings, in the order of the record. -/
def fieldNames : List String :=
  ["worker_id", "poll_interval_ms", "batch_limit", "lease_seconds", "dispatch_cooldown_seconds",
   "interactive_boost", "starvation_threshold_seconds", "starvation_warning_cooldown_seconds",
   "starvation_scan_limit"]

/-- The settings as a JSON object. -/
def toJson (c : RunnerConfig) : Json :=
  .record
    [("worker_id", .str c.worker), ("poll_interval_ms", .int c.pollIntervalMs),
     ("batch_limit", .int c.batchLimit), ("lease_seconds", .int c.leaseSeconds),
     ("dispatch_cooldown_seconds", .int c.cooldownSeconds),
     ("interactive_boost", .int c.interactiveBoost),
     ("starvation_threshold_seconds", .int c.starvationSeconds),
     ("starvation_warning_cooldown_seconds", .int c.warningCooldownSeconds),
     ("starvation_scan_limit", .int c.starvationScanLimit)]

/-- Reads settings; each that is missing is the default, and a worker without a name gets one from the
identifier. -/
def ofJson? (fresh : Uuid) (v : Json) : Option RunnerConfig := do
  let d : RunnerConfig := { worker := fresh.workerName }
  let f ← v.fields? fieldNames
  some
    { worker := ← f.defaulted "worker_id" Json.text? d.worker
      pollIntervalMs := ← f.defaulted "poll_interval_ms" Json.unsigned? d.pollIntervalMs
      batchLimit := ← f.defaulted "batch_limit" Json.unsigned? d.batchLimit
      leaseSeconds := ← f.defaulted "lease_seconds" Json.signed? d.leaseSeconds
      cooldownSeconds := ← f.defaulted "dispatch_cooldown_seconds" Json.signed? d.cooldownSeconds
      interactiveBoost := ← f.defaulted "interactive_boost" Json.signed? d.interactiveBoost
      starvationSeconds :=
        ← f.defaulted "starvation_threshold_seconds" Json.signed? d.starvationSeconds
      warningCooldownSeconds :=
        ← f.defaulted "starvation_warning_cooldown_seconds" Json.signed? d.warningCooldownSeconds
      starvationScanLimit :=
        ← f.defaulted "starvation_scan_limit" Json.unsigned? d.starvationScanLimit }

end RunnerConfig

end Foreman
