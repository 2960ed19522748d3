import Cascade.Time.Timeline
import Cascade.Worker.Basic

/-!
# The worker in time

The worker does what it can, waits for the end of its wait, and goes on.  A stop lets time pass
until the worker is done, but not for longer than two seconds.
-/

namespace Cascade.Worker.State

def timeline (engine : Engine) : Time.Timeline State where
  now := time
  moveTo t s := { s with time := t }
  due := due
  step := step engine
  bound := bound

def stop (engine : Engine) (s : State) : State :=
  match s.worker with
  | none => { s with running := false }
  | some _ =>
    collect ((timeline engine).advanceUntil isOver (s.time + stopTimeout) s.requestStop)

end Cascade.Worker.State
