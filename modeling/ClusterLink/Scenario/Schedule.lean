import ClusterLink.Scenario.Jobs

/-!
# How a scripted world goes on

`World.settle` lets all jobs go on until every one of them waits, and `World.elapse` lets time pass.
-/

namespace ClusterLink.Scenario.World

/-! ## The queue -/

/-- Does what follows when the last owner of a part has gone. -/
def dropUnowned (w : World) : World :=
  let w := if !w.hasClient || w.isClientOwned then w else { w with client := w.client.shutdown }
  if w.isProviderOwned || w.provider.isAbandoned then w
  else w.setProvider w.provider.abandon

/-- Puts the jobs that can go on into the queue, each once. -/
def enqueue (w : World) : World :=
  let fresh := w.jobs.filter fun job =>
    !w.queue.contains job.kind && (w.stepJob job).isSome
  { w with queue := w.queue ++ fresh.map (·.kind) }

/-- What follows a change: new jobs are added, and jobs that can go on are queued. -/
def react (w : World) : World := w.dropUnowned.addStarted.enqueue

/-- Records what a job waits for. -/
def setPending (w : World) (kind : JobKind) (pending : Pending) : World :=
  { w with jobs := w.jobs.map fun job =>
      if job.kind == kind then { job with pending := pending } else job }

/-- Lets the first job of the queue take one step. A job that has to wait goes behind the others. -/
def stepFirst (w : World) : World :=
  match w.queue with
  | [] => w
  | kind :: rest =>
    match w.jobs.find? (·.kind == kind) with
    | none => { w with queue := rest }
    | some job =>
      match w.stepJob job with
      | some (pending, v) => ((v.noteReports w.reportCount).setPending kind pending).react
      | none =>
        let others := w.jobs.filter (·.kind != kind)
        let w := { w with queue := rest, jobs := if w.isOver kind then others else others ++ [job] }
        w.react

/-- Lets jobs take steps until all of them wait. -/
def settleWithin : Nat → World → World
  | 0, w => w
  | steps + 1, w => if w.queue.isEmpty then w else settleWithin steps w.stepFirst

/-- More steps than any scenario takes in one moment. -/
def stepLimit : Nat := 1000000000

/-- **Lets all jobs go on until every one of them waits.** -/
def settle (w : World) : World := settleWithin stepLimit w.react

/-! ## Time -/

/-- When a job wants to be woken. -/
def wakeTimes (w : World) (job : Job) : List Nat :=
  if w.isOver job.kind then [] else job.pending.times

/-- The next moment at which something happens. -/
def nextMoment? (w : World) : Option Nat :=
  (((w.jobs.flatMap w.wakeTimes).filter (w.now < ·)).min?)

/-- Lets time jump to a moment. -/
def jump (w : World) (moment : Nat) : World := { w with now := moment }.settle

/-- Lets time pass up to and including a moment. -/
def elapseWithin (moment : Nat) : Nat → World → World
  | 0, w => w
  | jumps + 1, w =>
    match w.nextMoment? with
    | some next =>
      if next < moment then elapseWithin moment jumps (w.jump next) else w.jump moment
    | none => w.jump moment

/-- **Lets so many milliseconds pass.** -/
def elapse (w : World) (millis : Nat) : World := elapseWithin (w.now + millis) stepLimit w

/-- Lets time pass until a caller has its answer, or nothing can happen any more. -/
def awaitWithin (index : Nat) : Nat → World → World
  | 0, w => w
  | jumps + 1, w =>
    if w.waiters[index]?.any Waiter.isLive then
      match w.nextMoment? with
      | some next => awaitWithin index jumps (w.jump next)
      | none => w
    else w

/-- **Lets a caller wait for its answer.** -/
def await (w : World) (index : Nat) : World := awaitWithin index stepLimit w.settle

end ClusterLink.Scenario.World
