import Cascade.Deployment.Basic

/-!
# Deployments in time

Checks that are due have their round before the worker goes on.  Time moves to the first moment at
which a check is due or the worker stops waiting.
-/

namespace Cascade.Deployment

def step (d : Deployment) : Option Deployment :=
  match takeDue d.time d.tickers with
  | some (check, tickers) => some (runCheck check { d with tickers })
  | none => (d.worker.step d.ownEngine).map fun worker ↦ { d with worker }

def earlier : Option Nat → Option Nat → Option Nat
  | some a, some b => some (min a b)
  | a, b => a.or b

def due (d : Deployment) : Option Nat :=
  d.tickers.foldl (fun first t ↦ earlier first (some t.due)) d.worker.due

def timeline : Time.Timeline Deployment where
  now := time
  moveTo t d := { d with worker := { d.worker with time := t } }
  due := due
  step := step
  bound d := d.worker.bound + d.tickers.length

def settle (d : Deployment) : Deployment := timeline.settle d

def advanceTo (target : Nat) (d : Deployment) : Deployment := timeline.advanceTo target d

def start (d : Deployment) : Option Worker.LoopError × Deployment :=
  let (e, worker) := d.worker.startWorker
  (e, { d with worker })

/-- Asks the worker to stop and waits for it, while everything else goes on. -/
def stop (d : Deployment) : Deployment :=
  match d.worker.worker with
  | none => { d with worker := { d.worker with running := false } }
  | some _ =>
    let asked := { d with worker := d.worker.requestStop }
    let deadline := d.time + Worker.State.stopTimeout
    let ended := timeline.advanceUntil (fun d ↦ d.worker.isOver) deadline asked
    { ended with worker := ended.worker.collect }

end Cascade.Deployment
