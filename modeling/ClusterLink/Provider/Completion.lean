import ClusterLink.Provider.Basic

/-!
# Runs that end

A run ends in a result (`finish`), which is applied to the provider if the generation of the run is
still the current one, or its task breaks down (`breakDown`). A waiter that comes back to its run
(`poll`) gets the outcome, or is told that the run was replaced.

A failure is applied by drawing the delay until the next run. If the factor of its spread is no
number there is nothing to draw from, and whoever applies the failure breaks down (`cannotFail`).
-/

namespace ClusterLink.Provider

/-- How long to wait at most where the end of a delay cannot be told. -/
def longestRetryDelay : Duration := Duration.ofMillis (24 * 60 * 60 * 1000)

/-- Nanoseconds in `2 ^ 63` seconds: every instant that can be told is earlier. -/
def instantLimit : Nat := 9223372036854775808000000000

/-- When to try again after a failure, if that can be told. -/
def retryTime (now : Instant) (delay : Duration) : Instant :=
  if now + delay.nanos < instantLimit then now + delay.nanos
  else now + longestRetryDelay.nanos

/-- **Applies the result of a run.** There is no outcome for the waiters if the generation of the
run is over. The draw places the delay after a failure. -/
def complete (p : Provider) (run : Run) (result : Except Error Link) (now : Instant)
    (draw : Float) : Option (Except Error Connection) × Provider :=
  if p.isDisposed then (some (.error disposedError), p)
  else if p.generation ≠ run.generation then (none, p)
  else
    match result with
    | .ok link =>
      let connection : Connection := ⟨link, run.trigger, run.generation⟩
      (some (.ok connection), { p with
        activeRun := none
        backoff := p.backoff.reset
        slot := .ready connection })
    | .error error =>
      let (delay, backoff) := p.backoff.next draw
      (some (.error error), { p with
        activeRun := none
        backoff := backoff
        slot := .failed error (retryTime now delay) })

/-- Records how far a run has come. -/
def setPhase (p : Provider) (run : Nat) (phase : RunPhase) : Provider :=
  { p with runs := p.runs.modify run fun r => { r with phase := phase } }

/-- How far a run has come. -/
def phase? (p : Provider) (run : Nat) : Option RunPhase := (p.runs[run]?).map (·.phase)

/-- The task of a run breaks down. A run that is over stays as it is. -/
def breakDown (p : Provider) (run : Nat) : Provider :=
  match p.phase? run with
  | some .working => p.setPhase run .brokenDown
  | _ => p

/-- The error of a run whose task broke down. -/
def breakdownError : Error := .connection "connection task failed"

/-- Whether a failure of the run would be applied, and the delay after it cannot be drawn. -/
def cannotFail (p : Provider) (run : Run) (draw : Float) : Bool :=
  !p.isDisposed && p.generation == run.generation
    && (spread? p.backoff.advance.current p.backoff.config.jitter draw).isNone

/-- What is left of a failure whose delay cannot be drawn: the run is no longer one to call off, and
the delays have gone on. -/
def halfFail (p : Provider) : Provider := { p with activeRun := none, backoff := p.backoff.advance }

/-- Applies the result of the run with this number, and keeps the outcome for its waiters. -/
def settle (p : Provider) (run : Nat) (r : Run) (result : Except Error Link) (now : Instant)
    (draw : Float) : Provider :=
  (p.complete r result now draw).2.setPhase run (.ended (p.complete r result now draw).1)

/-- The report that a run has ended. -/
def endReport (r : Run) (result : Except Error Link) (now : Instant) : Metric :=
  .connect (Duration.between r.started now) result.isOk

/-- **A run ends in a result**, unless it is over already. Nobody is told if the provider was
abandoned. -/
def finish (p : Provider) (run : Nat) (result : Except Error Link) (now : Instant)
    (draw : Float) : Provider :=
  match p.runs[run]? with
  | none => p
  | some r =>
    match r.phase with
    | .working =>
      if p.isAbandoned then p.setPhase run (.ended none)
      else
        let p := { p with log := p.log ++ [endReport r result now] }
        if !result.isOk && p.cannotFail r draw then p.halfFail.breakDown run
        else p.settle run r result now draw
    | _ => p

/-- What a waiter finds when it comes back to its run. -/
inductive Finding where
  | working
  /-- The run was replaced by one of a later generation. -/
  | replaced
  | outcome (result : Except Error Connection)
  /-- The run broke down, and the waiter does too. -/
  | breakdown

/-- How waiters read the outcome of a run. -/
def Finding.ofOutcome : Option (Except Error Connection) → Finding
  | none => .replaced
  | some result => .outcome result

/-- **A waiter comes back to its run.** The first one to find that the run broke down applies that
as a failure. -/
def poll (p : Provider) (run : Nat) (now : Instant) (draw : Float) : Finding × Provider :=
  match p.runs[run]? with
  | none => (.working, p)
  | some r =>
    match r.phase with
    | .working => (.working, p)
    | .ended outcome => (.ofOutcome outcome, p)
    | .poisoned => (.breakdown, p)
    | .brokenDown =>
      if p.isAbandoned then
        (.outcome (.error breakdownError), p.setPhase run (.ended (some (.error breakdownError))))
      else if p.cannotFail r draw then (.breakdown, p.halfFail.setPhase run .poisoned)
      else
        (.ofOutcome (p.complete r (.error breakdownError) now draw).1,
          p.settle run r (.error breakdownError) now draw)

/-! ## What the steps change -/

@[simp] theorem generation_setPhase (p : Provider) (run : Nat) (phase : RunPhase) :
    (p.setPhase run phase).generation = p.generation := rfl

@[simp] theorem slot_setPhase (p : Provider) (run : Nat) (phase : RunPhase) :
    (p.setPhase run phase).slot = p.slot := rfl

@[simp] theorem generation_complete (p : Provider) (run : Run) (result : Except Error Link)
    (now : Instant) (draw : Float) :
    (p.complete run result now draw).2.generation = p.generation := by
  unfold complete
  split
  · rfl
  · split
    · rfl
    · split <;> rfl

@[simp] theorem runs_complete (p : Provider) (run : Run) (result : Except Error Link)
    (now : Instant) (draw : Float) : (p.complete run result now draw).2.runs = p.runs := by
  unfold complete
  split
  · rfl
  · split
    · rfl
    · split <;> rfl

/-- A run whose generation is over changes nothing. -/
theorem complete_of_generation_ne {p : Provider} {run : Run} (hd : p.isDisposed = false)
    (h : p.generation ≠ run.generation) (result : Except Error Link) (now : Instant)
    (draw : Float) : p.complete run result now draw = (none, p) := by
  simp [complete, hd, h]

/-- A disposed provider is not changed by a run that ends. -/
theorem complete_of_isDisposed {p : Provider} (h : p.isDisposed = true) (run : Run)
    (result : Except Error Link) (now : Instant) (draw : Float) :
    p.complete run result now draw = (some (.error disposedError), p) := by
  simp [complete, h]

/-- A run of the current generation that connects makes the provider ready. -/
theorem complete_ok {p : Provider} {run : Run} (hd : p.isDisposed = false)
    (h : p.generation = run.generation) (link : Link) (now : Instant) (draw : Float) :
    p.complete run (.ok link) now draw
      = (some (.ok ⟨link, run.trigger, run.generation⟩), { p with
          activeRun := none
          backoff := p.backoff.reset
          slot := .ready ⟨link, run.trigger, run.generation⟩ }) := by
  unfold complete
  rw [if_neg (by simp [hd]), if_neg (not_not_intro h)]

/-- A run of the current generation that fails leaves its error. -/
theorem complete_error {p : Provider} {run : Run} (hd : p.isDisposed = false)
    (h : p.generation = run.generation) (error : Error) (now : Instant) (draw : Float) :
    p.complete run (.error error) now draw
      = (some (.error error), { p with
          activeRun := none
          backoff := p.backoff.advance
          slot := .failed error (retryTime now (p.backoff.next draw).1) }) := by
  unfold complete
  rw [if_neg (by simp [hd]), if_neg (not_not_intro h)]
  rfl

end ClusterLink.Provider
