import Cascade.Proofs.Incident.Detection
import Cascade.Proofs.State.Propagation

/-!
# What becomes of an incident

A pass ends some of the open incidents at its own time and leaves all others as they are
(`get?_save_detect`), and every incident that it leaves was there before or begins at its time
(`of_get?_save_detect`).  The components whose incidents it opens and ends stand apart
(`Transition.apart_detect`).
-/

namespace Cascade

/-- What an incident may become: its root and its start stay, and once it is over nothing
changes. -/
structure Incident.Onward (i j : Incident) : Prop where
  root : j.root = i.root
  startedAt : j.startedAt = i.startedAt
  /-- Nothing changes once it is over. -/
  final : i.status = .resolved → j = i

/-- The components of a transition stand apart. -/
structure Transition.Apart (g : Graph) (t : Transition) : Prop where
  /-- No component opens an incident and ends one. -/
  other : ∀ i ∈ t.opened, ∀ k ∈ t.resolved, i.root ≠ k.root
  /-- No component opens an incident together with one that it needs. -/
  apart : ∀ i ∈ t.opened, ∀ j ∈ t.opened, ¬ g.Reaches i.root j.root

theorem Incident.Onward.refl (i : Incident) : i.Onward i := ⟨rfl, rfl, fun _ ↦ rfl⟩

theorem Incident.Onward.trans {i j k : Incident} (h : i.Onward j) (h' : j.Onward k) :
    i.Onward k := by
  refine ⟨h'.root.trans h.root, h'.startedAt.trans h.startedAt, fun ended ↦ ?_⟩
  have same : j = i := h.final ended
  rw [h'.final (same ▸ ended), same]

/-- An open incident may end. -/
theorem Incident.onward_resolve {i : Incident} (open_ : i.isOpen = true) (now : Time.Instant) :
    i.Onward (i.resolve now) := by
  refine ⟨rfl, rfl, fun ended ↦ ?_⟩
  rw [isOpen, ended] at open_
  cases open_

open Store IncidentBook Incident

variable {fresh : ComponentId → IncidentId} {g : Graph} {previous current : StateMap}
  {now : Time.Instant}

theorem Transition.apart_detect (built : g.Built) {active : ActiveIncidents}
    (filed : ∀ {c i}, active.get? c = some i → i.root = c) :
    (detect fresh g previous current active now).Apart g where
  other := by
    intro i hi k hk
    obtain ⟨c, -, opens, rfl⟩ := mem_opened.1 hi
    obtain ⟨d, -, calm, j, had, rfl⟩ := mem_resolved.1 hk
    obtain ⟨-, critical, -, -⟩ := opens_iff.1 opens
    have root : j.root = d := filed had
    intro eq
    have same : c = d := eq.trans root
    exact calm (same ▸ critical)
  apart := by
    intro i hi j hj above
    obtain ⟨c, -, opens, rfl⟩ := mem_opened.1 hi
    obtain ⟨d, -, opens', rfl⟩ := mem_opened.1 hj
    obtain ⟨-, critical, -, -⟩ := opens_iff.1 opens
    obtain ⟨-, -, -, root⟩ := opens_iff.1 opens'
    have calm := (State.isRoot_iff built).1 root c above
    rw [StateMap.stateOf_eq_critical_iff.1 critical] at calm
    cases calm

section

variable {b : IncidentBook} (tidy : Tidy b.incidents)
  (fits : Fits b.incidents (detect fresh g previous current b.active now)) {id : IncidentId}
  {i : Incident}

include tidy fits

/-- A pass leaves an incident as it is, or ends it if it is open. -/
theorem Incident.get?_save_detect (h : b.incidents.get? id = some i) :
    (b.save (detect fresh g previous current b.active now)).incidents.get? id = some i ∨
      i.isOpen = true ∧ (b.save (detect fresh g previous current b.active now)).incidents.get? id =
        some (i.resolve now) := by
  have key : i.id = id := tidy.keyed h
  by_cases stays : ∀ k ∈ (detect fresh g previous current b.active now).resolved, k.id ≠ id
  · refine .inl ((get?_apply_other fits stays fun k hk eq ↦ ?_).trans h)
    have new := fits.opening.new k hk
    rw [eq, h] at new
    cases new
  · obtain ⟨k, hk, eq⟩ : ∃ k ∈ (detect fresh g previous current b.active now).resolved,
        k.id = id := by simpa using stays
    have ended := get?_apply_resolved fits hk
    obtain ⟨c, -, -, j, active, rfl⟩ := mem_resolved.1 hk
    obtain ⟨stored, open_, -⟩ := tidy.get?_active.1 active
    have own : j.id = id := eq
    rw [own, h] at stored
    cases stored
    exact .inr ⟨open_, eq ▸ ended⟩

/-- An incident after a pass begins then, or was there before and may have ended. -/
theorem Incident.of_get?_save_detect
    (h : (b.save (detect fresh g previous current b.active now)).incidents.get? id = some i) :
    (∃ c ∈ g.order, i = begin (fresh c) c now) ∨
      ∃ j, b.incidents.get? id = some j ∧ (i = j ∨ i = j.resolve now) := by
  rcases of_get?_apply fits h with ⟨mem, eq⟩ | ⟨mem, -⟩ | ⟨old, -⟩
  · obtain ⟨c, -, -, j, active, rfl⟩ := mem_resolved.1 mem
    obtain ⟨stored, -, -⟩ := tidy.get?_active.1 active
    have own : j.id = id := eq
    exact .inr ⟨j, own ▸ stored, .inr rfl⟩
  · obtain ⟨c, hc, -, rfl⟩ := mem_opened.1 mem
    exact .inl ⟨c, hc, rfl⟩
  · exact .inr ⟨i, old, .inl rfl⟩

end

end Cascade
