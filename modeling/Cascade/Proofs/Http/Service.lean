import Cascade.Http.Service

/-!
# What requests do to a site

A request leaves the site as it is, or hands in a signal and is answered by what becomes of that
(`handled_respond`).  Its status tells whether the signal was refused (`status_reply`).
-/

namespace Cascade.Http

open Ingestion

/-- The response to what became of a signal, with how full the queue is now. -/
def reply : Except IngestError Admission × Site → Response
  | (.ok a, site) => admitted a site.queue.utilization
  | (.error _, _) => refusal 500 "internal_error" "signal could not be recorded" none

/-- What a request may come to at a site. -/
inductive Handled (roster : Roster) (now : Time.Instant) (site : Site) : Response × Site → Prop
  /-- It leaves the site as it is. -/
  | plain (response : Response) : Handled roster now site (response, site)
  /-- It hands in a signal. -/
  | taken (submission : Submission) : Handled roster now site
      (reply (ingest roster now submission site), (ingest roster now submission site).2)

variable {roster : Roster} {now : Time.Instant} {r : Request} {site : Site}

theorem handled_takeSignal (s : SignalRequest) :
    Handled roster now site (takeSignal roster now r s site) := by
  unfold takeSignal
  split
  · exact .plain _
  · rename_i submission valid
    have taken : Handled roster now site _ := .taken submission
    split
    · rename_i a after ok
      rw [ok] at taken
      exact taken
    · rename_i e after refused
      rw [refused] at taken
      exact taken

theorem handled_respond (roster : Roster) (now : Time.Instant) (r : Request) (site : Site) :
    Handled roster now site (respond roster now r site) := by
  unfold respond postSignal
  split
  · split
    · exact .plain _
    · split
      · exact .plain _
      · exact .plain _
  · split
    · split
      · split
        · exact .plain _
        · exact handled_takeSignal _
      · exact .plain _
    · exact .plain _

/-- The status of a response to a signal tells whether the signal was refused. -/
theorem status_reply (answer : Except IngestError Admission × Site)
    (refused : (reply answer).status = 400 ∨ (reply answer).status = 404 ∨
      (reply answer).status = 429) :
    answer.1 = .ok .unknownComponent ∨ answer.1 = .ok .backpressure := by
  obtain ⟨answer, after⟩ := answer
  cases answer with
  | error e => simp [reply, refusal, jsonResponse] at refused
  | ok a =>
    cases a with
    | accepted => simp [reply, admitted, jsonResponse] at refused
    | duplicate => simp [reply, admitted, jsonResponse] at refused
    | unknownComponent => exact .inl rfl
    | backpressure => exact .inr rfl

end Cascade.Http
