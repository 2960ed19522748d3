import Cascade.Incident.Detection
import Cascade.Proofs.Incident.Book
import Cascade.Proofs.State.Propagation

/-!
# What a pass detects fits the book

The transition between two sets of states fits a tidy book if the ids of its new incidents are new
(`fits_detect`).  After it, a component has an open incident exactly if it opened one now, or had
one and is still critical (`mem_active_save`).
-/

namespace Cascade

theorem Transition.eq_none_of_isEmpty {t : Transition} (h : t.isEmpty = true) : t = .none := by
  obtain ⟨opened, resolved⟩ := t
  rw [isEmpty, Bool.and_eq_true, List.isEmpty_iff, List.isEmpty_iff] at h
  obtain ⟨rfl, rfl⟩ := h
  rfl

namespace Incident

open Store IncidentBook

variable {fresh : ComponentId → IncidentId} {g : Graph} {previous current : StateMap}
  {active : ActiveIncidents} {now : Time.Instant}

theorem opens_iff {id : ComponentId} :
    opens g previous current active id = true ↔ previous.stateOf id ≠ .critical ∧
      current.stateOf id = .critical ∧ id ∉ active ∧ State.isRoot g current id = true := by
  simp [opens, IdMap.mem_def, IdMap.contains, and_assoc]

/-- The new incidents, each with the component that opens it. -/
theorem mem_opened {i : Incident} :
    i ∈ (detect fresh g previous current active now).opened ↔
      ∃ c ∈ g.order, opens g previous current active c = true ∧ i = .begin (fresh c) c now := by
  simp only [detect, List.mem_map, List.mem_filter]
  constructor
  · rintro ⟨c, ⟨mem, h⟩, rfl⟩
    exact ⟨c, mem, h, rfl⟩
  · rintro ⟨c, mem, h, rfl⟩
    exact ⟨c, ⟨mem, h⟩, rfl⟩

/-- The ended incidents, each with the component that it was active for. -/
theorem mem_resolved {i : Incident} :
    i ∈ (detect fresh g previous current active now).resolved ↔
      ∃ c ∈ g.order, current.stateOf c ≠ .critical ∧ ∃ j, active.get? c = some j ∧
        i = j.resolve now := by
  simp only [detect, List.mem_map, List.mem_filterMap, ended?]
  constructor
  · rintro ⟨j, ⟨c, mem, h⟩, rfl⟩
    split at h
    · cases h
    · rename_i calm
      exact ⟨c, mem, calm, j, h, rfl⟩
  · rintro ⟨c, mem, calm, j, h, rfl⟩
    exact ⟨j, ⟨c, mem, by rw [if_neg calm, h]⟩, rfl⟩

/-- The roots of the new incidents in their order. -/
theorem opened_roots :
    (detect fresh g previous current active now).opened.map (·.root) =
      g.order.filter (opens g previous current active) := by
  simp [detect, Function.comp_def, begin]

/-- Detection hangs on the states of the components of the graph only. -/
theorem detect_congr (built : g.Built) {previous' current' : StateMap}
    (before : ∀ id ∈ g, previous'.stateOf id = previous.stateOf id)
    (after : ∀ id ∈ g, current'.stateOf id = current.stateOf id) :
    detect fresh g previous' current' active now = detect fresh g previous current active now := by
  have critical : ∀ id ∈ g, current'.isCritical id = current.isCritical id :=
    fun id mem ↦ StateMap.isCritical_congr (after id mem)
  have opened : g.order.filter (opens g previous' current' active) =
      g.order.filter (opens g previous current active) := by
    refine List.filter_congr fun c mem ↦ ?_
    have mem := built.mem_order.1 mem
    rw [opens, opens, before c mem, after c mem, State.isRoot_congr built critical]
  have resolved : g.order.filterMap (ended? current' active) =
      g.order.filterMap (ended? current active) := by
    refine List.filterMap_congr fun c mem ↦ ?_
    rw [ended?, ended?, after c (built.mem_order.1 mem)]
  rw [detect, detect, opened, resolved]

/-- Nothing is detected where nothing opens and the roots of all active incidents are critical. -/
theorem detect_eq_none (calm : ∀ c ∈ g.order, opens g previous current active c = false)
    (lasting : ∀ c ∈ g.order, c ∈ active → current.stateOf c = .critical) :
    detect fresh g previous current active now = .none := by
  have opened : (detect fresh g previous current active now).opened = [] := by
    refine List.eq_nil_iff_forall_not_mem.2 fun i hi ↦ ?_
    obtain ⟨c, mem, opens, -⟩ := mem_opened.1 hi
    rw [calm c mem] at opens
    cases opens
  have resolved : (detect fresh g previous current active now).resolved = [] := by
    refine List.eq_nil_iff_forall_not_mem.2 fun i hi ↦ ?_
    obtain ⟨c, mem, recovered, j, h, -⟩ := mem_resolved.1 hi
    exact recovered (lasting c mem (IdMap.mem_iff.2 ⟨j, h⟩))
  apply Transition.eq_none_of_isEmpty
  rw [Transition.isEmpty, opened, resolved]
  rfl

section Book

variable {b : IncidentBook}

/-- A pass leaves no active incident of a component that it found recovered. -/
theorem critical_of_mem_active_save (tidy : Tidy b.incidents) {c : ComponentId} (hc : c ∈ g.order)
    (h : c ∈ (b.save (detect fresh g previous current b.active now)).active) :
    current.stateOf c = .critical := by
  obtain ⟨id, i, stored, open_, rfl⟩ := hasOpen_iff.1 (mem_active.1 h)
  have isOver :
      ∀ k ∈ (detect fresh g previous current b.active now).resolved, k.isOpen = false := by
    intro k hk
    obtain ⟨c, -, -, j, -, rfl⟩ := mem_resolved.1 hk
    rfl
  rcases of_open_apply isOver stored open_ with new | ⟨old, stays⟩
  · obtain ⟨c, -, opens, rfl⟩ := mem_opened.1 new
    exact (opens_iff.1 opens).2.1
  · by_contra recovered
    have active := tidy.active_of_open old open_
    have key : i.id = id := tidy.keyed old
    exact stays _ (mem_resolved.2 ⟨i.root, hc, recovered, i, active, rfl⟩) key

/-- Incidents that are active for different components have different ids. -/
theorem nodup_resolved_ids (tidy : Tidy b.incidents) (order : g.order.Nodup) :
    ((detect fresh g previous current b.active now).resolved.map (·.id)).Nodup := by
  have ids : (detect fresh g previous current b.active now).resolved.map (·.id) =
      g.order.filterMap fun c ↦ (ended? current b.active c).map (·.id) := by
    simp [detect, List.map_filterMap, Function.comp_def, resolve]
  rw [ids]
  refine order.filterMap fun c d id hc hd ↦ ?_
  obtain ⟨i, hi, rfl⟩ := Option.map_eq_some_iff.1 hc
  obtain ⟨j, hj, eq⟩ := Option.map_eq_some_iff.1 hd
  have of_ended : ∀ {c i}, ended? current b.active c = some i → b.active.get? c = some i := by
    intro c i h
    unfold ended? at h
    split at h
    · cases h
    · exact h
  obtain ⟨⟨a, storedi⟩, -, rooti⟩ := of_active (of_ended hi)
  obtain ⟨⟨b, storedj⟩, -, rootj⟩ := of_active (of_ended hj)
  have same : a = b := (tidy.keyed storedi).symm.trans (eq.symm.trans (tidy.keyed storedj))
  rw [same, storedj] at storedi
  cases storedi
  exact rooti.symm.trans rootj

/-- What a pass detects fits a tidy book, if the new ids are different and unknown. -/
theorem fits_detect (tidy : Tidy b.incidents) (order : g.order.Nodup)
    (ids : ((detect fresh g previous current b.active now).opened.map (·.id)).Nodup)
    (new : ∀ i ∈ (detect fresh g previous current b.active now).opened,
      b.incidents.get? i.id = none) :
    Fits b.incidents (detect fresh g previous current b.active now) where
  opening := by
    refine ⟨?_, ids, ?_, new, ?_⟩
    · rw [opened_roots]
      exact order.filter _
    · intro i hi
      obtain ⟨c, -, opens, rfl⟩ := mem_opened.1 hi
      obtain ⟨-, -, free, -⟩ := opens_iff.1 opens
      rw [mem_active, Bool.not_eq_true] at free
      exact free
    · intro i hi
      obtain ⟨c, -, -, rfl⟩ := mem_opened.1 hi
      rfl
  closing := by
    refine ⟨nodup_resolved_ids tidy order, ?_, ?_⟩
    · intro i hi
      obtain ⟨c, -, -, j, h, rfl⟩ := mem_resolved.1 hi
      obtain ⟨⟨id, stored⟩, open_, -⟩ := of_active h
      have key : j.id = id := tidy.keyed stored
      exact ⟨j, by rw [← key] at stored; exact stored, open_⟩
    · intro i hi
      obtain ⟨c, -, -, j, -, rfl⟩ := mem_resolved.1 hi
      rfl

/-- The components with an open incident after a pass. -/
theorem mem_active_save (tidy : Tidy b.incidents)
    (fits : Fits b.incidents (detect fresh g previous current b.active now)) {c : ComponentId}
    (hc : c ∈ g.order) :
    c ∈ (b.save (detect fresh g previous current b.active now)).active ↔
      opens g previous current b.active c = true ∨
        (c ∈ b.active ∧ current.stateOf c = .critical) := by
  rw [mem_active, save, hasOpen_apply fits]
  refine or_congr ?_ ?_
  · constructor
    · rintro ⟨i, hi, rfl⟩
      obtain ⟨c, -, opens, rfl⟩ := mem_opened.1 hi
      exact opens
    · intro opens
      exact ⟨_, mem_opened.2 ⟨c, hc, opens, rfl⟩, rfl⟩
  · rw [mem_active, hasOpen_iff]
    constructor
    · rintro ⟨id, i, stored, open_, rfl, stays⟩
      refine ⟨⟨id, i, stored, open_, rfl⟩, Decidable.byContradiction fun calm ↦ ?_⟩
      have active := tidy.active_of_open stored open_
      have key : i.id = id := tidy.keyed stored
      exact stays _ (mem_resolved.2 ⟨i.root, hc, calm, i, active, rfl⟩) key
    · rintro ⟨⟨id, i, stored, open_, rfl⟩, critical⟩
      refine ⟨id, i, stored, open_, rfl, ?_⟩
      intro k hk eq
      obtain ⟨d, -, calm, j, active, rfl⟩ := mem_resolved.1 hk
      obtain ⟨⟨a, storedj⟩, -, rootj⟩ := of_active active
      have same : a = id := (tidy.keyed storedj).symm.trans eq
      rw [same, stored] at storedj
      cases storedj
      exact calm (rootj ▸ critical)

/-- Once a transition is saved, nothing is detected between the same states. -/
theorem detect_again (tidy : Tidy b.incidents)
    (fits : Fits b.incidents (detect fresh g previous current b.active now))
    (fresh' : ComponentId → IncidentId) (now' : Time.Instant) :
    detect fresh' g previous current
      (b.save (detect fresh g previous current b.active now)).active now' = .none := by
  apply detect_eq_none
  · intro c hc
    refine Bool.eq_false_iff.2 fun opens ↦ ?_
    obtain ⟨was, is, free, root⟩ := opens_iff.1 opens
    apply free
    rw [mem_active_save tidy fits hc]
    by_cases active : c ∈ b.active
    · exact .inr ⟨active, is⟩
    · exact .inl (opens_iff.2 ⟨was, is, active, root⟩)
  · intro c hc
    exact critical_of_mem_active_save tidy hc

end Book

end Incident

end Cascade
