import ClusterLink.Metric
import ClusterLink.Provider.Run
import ClusterLink.Time.Backoff

/-!
# The connection provider

The provider hands the same connection to every caller. To get one it starts a *run*, which works on
its own until it ends in a link, an error, or a breakdown; callers that come in the meantime wait
for that run instead of starting another.

A reset replaces the connection: it begins a new *generation*, calls off the run of the old one, and
starts a run at once. A run that ends when its generation is over changes nothing, and its waiters
ask again. After a run has failed, callers are turned away with its error until a delay has passed;
the delays grow until a run succeeds.

One step of the provider is one function here: a caller asks (`current`), a caller comes back to
the run it waits for (`poll`), the connection is reset (`reset`, `resetFrom`), a run ends (`finish`,
`breakDown`), and the provider is disposed of (`dispose`) or forgotten by its last owner
(`abandon`). Any sequence of steps may happen.
-/

namespace ClusterLink

/-- **The one connection that all callers share.** -/
structure Provider where
  generation : Nat := 0
  trigger : Trigger := .rediscover
  slot : Slot := .empty
  /-- The run that a reset or disposal calls off. -/
  activeRun : Option Nat := none
  backoff : Backoff
  isDisposed : Bool := false
  /-- Whether the last owner has gone. -/
  isAbandoned : Bool := false
  /-- All runs, in the order of their start. -/
  runs : List Run := []
  /-- What was reported, in order. -/
  log : List Metric := []

namespace Provider

/-- A provider that has done nothing yet. -/
def new (backoff : BackoffConfig) : Provider where
  backoff := .start backoff

/-- The reason for refusing work after disposal. -/
def disposedError : Error := .disposed .connectionProvider

/-- Whether a run has been told to stop. -/
def isRunCancelled (p : Provider) (run : Nat) : Bool :=
  p.isDisposed || p.isAbandoned || p.runs[run]?.any (·.isCalledOff)

/-- The connection, if there is one. -/
def ready? (p : Provider) : Option Connection :=
  match p.slot with
  | .ready connection => some connection
  | _ => none

/-- Calls off the active run. -/
def callOff (p : Provider) : Provider :=
  match p.activeRun with
  | none => p
  | some run =>
    { p with activeRun := none, runs := p.runs.modify run fun r => { r with isCalledOff := true } }

/-- **Starts a run** of the current generation. -/
def start (p : Provider) (now : Instant) : Provider :=
  { p with
    slot := .pending p.runs.length
    activeRun := some p.runs.length
    runs := p.runs ++ [{ generation := p.generation, trigger := p.trigger, started := now }] }

/-! ## Asking for the connection -/

/-- What a caller gets at once. -/
inductive Demand where
  | answer (result : Except Error Connection)
  /-- The caller waits for the run with this number. -/
  | wait (run : Nat)

/-- **A caller asks for the connection.** -/
def current (p : Provider) (now : Instant) : Demand × Provider :=
  if p.isDisposed then (.answer (.error disposedError), p)
  else
    match p.slot with
    | .ready connection => (.answer (.ok connection), p)
    | .pending run => (.wait run, p)
    | .failed error retryAt =>
      if now < retryAt then (.answer (.error error), p) else (.wait p.runs.length, p.start now)
    | .empty => (.wait p.runs.length, p.start now)

/-! ## Replacing the connection -/

/-- Begins a new generation. Without a runtime to start a run in, the next caller starts it. -/
def advance (p : Provider) (now : Instant) (inRuntime : Bool) (trigger : Trigger) : Provider :=
  let q := { p.callOff with
    generation := p.generation + 1
    trigger := trigger
    log := p.log ++ [Metric.reconnect trigger.label] }
  if inRuntime then q.start now else { q with slot := .empty }

/-- **Replaces the connection** for later callers. -/
def reset (p : Provider) (now : Instant) (inRuntime : Bool) (trigger : Trigger) : Provider :=
  if p.isDisposed then p else p.advance now inRuntime trigger

/-- Replaces the connection if it still is of the given generation. -/
def resetFrom (p : Provider) (generation : Nat) (now : Instant) (inRuntime : Bool)
    (trigger : Trigger) : Provider :=
  if p.isDisposed || p.generation != generation then p else p.advance now inRuntime trigger

/-- **Disposes of the provider**: the run is called off, and later callers are turned away. -/
def dispose (p : Provider) : Provider :=
  if p.isDisposed then p else { p.callOff with isDisposed := true, slot := .empty }

/-- The last owner goes. -/
def abandon (p : Provider) : Provider := { p with isAbandoned := true }

/-! ## What the steps change -/

@[simp] theorem generation_callOff (p : Provider) : p.callOff.generation = p.generation := by
  unfold callOff
  split <;> rfl

@[simp] theorem isDisposed_callOff (p : Provider) : p.callOff.isDisposed = p.isDisposed := by
  unfold callOff
  split <;> rfl

@[simp] theorem activeRun_callOff (p : Provider) : p.callOff.activeRun = none := by
  unfold callOff
  split
  · assumption
  · rfl

@[simp] theorem length_runs_callOff (p : Provider) : p.callOff.runs.length = p.runs.length := by
  unfold callOff
  split <;> simp

@[simp] theorem generation_start (p : Provider) (now : Instant) :
    (p.start now).generation = p.generation := rfl

@[simp] theorem slot_start (p : Provider) (now : Instant) :
    (p.start now).slot = .pending p.runs.length := rfl

@[simp] theorem length_runs_start (p : Provider) (now : Instant) :
    (p.start now).runs.length = p.runs.length + 1 := by
  simp [start]

@[simp] theorem generation_advance (p : Provider) (now : Instant) (inRuntime : Bool)
    (trigger : Trigger) :
    (p.advance now inRuntime trigger).generation = p.generation + 1 := by
  unfold advance
  split <;> rfl

@[simp] theorem trigger_advance (p : Provider) (now : Instant) (inRuntime : Bool)
    (trigger : Trigger) : (p.advance now inRuntime trigger).trigger = trigger := by
  unfold advance
  split <;> rfl

@[simp] theorem isDisposed_dispose (p : Provider) : p.dispose.isDisposed = true := by
  unfold dispose
  split
  · assumption
  · rfl

end Provider

end ClusterLink
