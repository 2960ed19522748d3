import Cascade.Proofs.Evaluation.Attempt

/-!
# What a pass looks at

A pass looks at the marked components of the graph, each by the signals and from the state that are
kept (`Shows`), and at no other component.

`Attempt.looked` says so of every pass that wrote something, and `Attempt.exists_done` that a pass
goes through where every marked component shows a state, nothing is refused and no call fails.
-/

namespace Cascade.Evaluation

open Store

section

variable {σ : Type} {a : Access σ} {setup : Setup} {previous found result : StateMap}
  {now : Time.Instant} {s : σ} {id : ComponentId} {ids : List ComponentId}

/-- A look finds nothing of a component outside the graph, and of another what its signals show. -/
theorem look_eq_ok_iff {o : Option ComponentState} :
    look a setup previous now s id = .ok o ↔ id ∉ setup.graph ∧ o = none ∨
      id ∈ setup.graph ∧ ∃ signals threshold st, a.find id s = .ok signals ∧
        setup.thresholds.get? id = some threshold ∧
        State.evaluate signals (previous.stateOf id) threshold now = some st ∧ o = some st := by
  by_cases h : id ∈ setup.graph
  · cases read : a.find id s with
    | error e => simp [look, h, read, ofStore, bind, Except.bind]
    | ok signals =>
      cases own : setup.thresholds.get? id with
      | none => simp [look, h, read, own, ofStore, bind, Except.bind]
      | some threshold =>
        cases shown : State.evaluate signals (previous.stateOf id) threshold now with
        | none => simp [look, h, read, own, shown, ofStore, bind, Except.bind]
        | some st => simp [look, h, read, own, shown, ofStore, bind, Except.bind, eq_comm]
  · simp [look, h, eq_comm]

theorem lookAll_cons {k : ComponentId} :
    lookAll a setup previous now s (k :: ids) found = .ok result ↔
      ∃ o, look a setup previous now s k = .ok o ∧
        lookAll a setup previous now s ids (o.elim found (found.insert k)) = .ok result := by
  rw [lookAll]
  cases look a setup previous now s k with
  | error e => simp [bind, Except.bind]
  | ok o =>
    cases o with
    | none => simp [bind, Except.bind]
    | some st => simp [bind, Except.bind]

/-- Looking at components in turn finds of each what one look finds, and nothing of others. -/
theorem of_lookAll (h : lookAll a setup previous now s ids found = .ok result) :
    (∀ id ∈ ids, ∃ o, look a setup previous now s id = .ok o ∧
      result.get? id = o.or (found.get? id)) ∧
    ∀ id ∉ ids, result.get? id = found.get? id := by
  induction ids generalizing found with
  | nil =>
    cases h
    exact ⟨fun id hid ↦ absurd hid List.not_mem_nil, fun _ _ ↦ rfl⟩
  | cons k ids ih =>
    obtain ⟨o, looked, rest⟩ := lookAll_cons.1 h
    obtain ⟨inside, outside⟩ := ih rest
    have same : ∀ {id}, k ≠ id → (o.elim found (found.insert k)).get? id = found.get? id := by
      intro id ne
      cases o with
      | none => rfl
      | some st => simp [ne]
    have own : (o.elim found (found.insert k)).get? k = o.or (found.get? k) := by
      cases o with
      | none => rfl
      | some st => simp
    constructor
    · intro id hid
      by_cases eq : k = id
      · subst eq
        refine ⟨o, looked, ?_⟩
        by_cases again : k ∈ ids
        · obtain ⟨o', looked', get⟩ := inside k again
          cases looked.symm.trans looked'
          rw [get, own, ← Option.or_assoc, Option.or_self]
        · rw [outside k again, own]
      · obtain ⟨o', looked', get⟩ := inside id ((List.mem_cons.1 hid).resolve_left (Ne.symm eq))
        exact ⟨o', looked', by rw [get, same eq]⟩
    · intro id hid
      have ne : k ≠ id := fun eq ↦ hid (eq ▸ List.mem_cons_self)
      rw [outside id fun mem ↦ hid (List.mem_cons_of_mem _ mem), same ne]

/-- A look asks for the signals of the component and, if it is in the graph, for its state. -/
theorem look_congr {τ : Type} {b : Access τ} {t : τ} {other : StateMap}
    (signals : a.find id s = b.find id t)
    (state : id ∈ setup.graph → previous.stateOf id = other.stateOf id) :
    look a setup previous now s id = look b setup other now t id := by
  unfold look
  split_ifs with mem
  · rw [signals, state mem]
  · rfl

/-- Looking at components in turn asks for signals and for the states of components of the graph. -/
theorem lookAll_congr {τ : Type} {b : Access τ} {t : τ} {other : StateMap}
    (signals : ∀ id, a.find id s = b.find id t)
    (states : ∀ id ∈ setup.graph, previous.stateOf id = other.stateOf id) :
    lookAll a setup previous now s ids found = lookAll b setup other now t ids found := by
  induction ids generalizing found with
  | nil => rfl
  | cons k ids ih =>
    rw [lookAll, lookAll, look_congr (signals k) (states k)]
    simp only [ih]

/-- Looking at components in turn goes through where every look does. -/
theorem exists_lookAll (found : StateMap)
    (all : ∀ id ∈ ids, ∃ o, look a setup previous now s id = .ok o) :
    ∃ result, lookAll a setup previous now s ids found = .ok result := by
  induction ids generalizing found with
  | nil => exact ⟨found, rfl⟩
  | cons k ids ih =>
    obtain ⟨⟨o, looked⟩, rest⟩ := List.forall_mem_cons.1 all
    obtain ⟨result, ok⟩ := ih (o.elim found (found.insert k)) rest
    exact ⟨result, lookAll_cons.2 ⟨o, looked, ok⟩⟩

theorem exists_plan {fresh : ComponentId → IncidentId} {dirty : IdSet} {stored : StateMap}
    {active : ActiveIncidents} (states : a.loadStates s = .ok stored)
    (incidents : a.loadActive s = .ok active)
    (looked : lookAll a setup (withDefaults setup.graph stored) now s dirty.keys ∅ = .ok result) :
    ∃ r, plan a setup fresh dirty now s = .ok r := by
  unfold plan
  rw [states, incidents]
  simp [ofStore, bind, Except.bind, looked, pure, Except.pure]

/-! ### Components without a threshold -/

variable {fresh : ComponentId → IncidentId} {dirty : IdSet} {c : ComponentId} {r : Report}

theorem ofStore_ne_missing {α : Type} {x : Except StoreError α} :
    ofStore x ≠ .error (.missingThreshold c) := by
  cases x <;> nofun

theorem of_look_missing (h : look a setup previous now s id = .error (.missingThreshold c)) :
    id = c ∧ c ∈ setup.graph ∧ setup.thresholds.get? c = none := by
  unfold look at h
  split at h
  · rename_i mem
    rcases bind_eq_error_iff.1 h with refused | ⟨signals, -, h⟩
    · exact absurd refused ofStore_ne_missing
    · split at h
      · rename_i none
        cases h
        exact ⟨rfl, mem, none⟩
      · split at h
        · cases h
        · cases h
  · cases h

theorem of_lookAll_missing
    (h : lookAll a setup previous now s ids found = .error (.missingThreshold c)) :
    c ∈ ids ∧ c ∈ setup.graph ∧ setup.thresholds.get? c = none := by
  induction ids generalizing found with
  | nil => cases h
  | cons k ids ih =>
    rw [lookAll] at h
    rcases bind_eq_error_iff.1 h with missing | ⟨o, -, h⟩
    · obtain ⟨rfl, lacks⟩ := of_look_missing missing
      exact ⟨List.mem_cons_self, lacks⟩
    · cases o with
      | none => exact (ih h).imp_left (List.mem_cons_of_mem _)
      | some st => exact (ih h).imp_left (List.mem_cons_of_mem _)

theorem of_plan_missing (h : plan a setup fresh dirty now s = .error (.missingThreshold c)) :
    c ∈ dirty ∧ c ∈ setup.graph ∧ setup.thresholds.get? c = none := by
  unfold plan at h
  rcases bind_eq_error_iff.1 h with refused | ⟨stored, -, h⟩
  · exact absurd refused ofStore_ne_missing
  · rcases bind_eq_error_iff.1 h with refused | ⟨active, -, h⟩
    · exact absurd refused ofStore_ne_missing
    · rcases bind_eq_error_iff.1 h with missing | ⟨isolated, -, h⟩
      · exact (of_lookAll_missing missing).imp_left IdMap.mem_keys.1
      · cases h

/-- A pass misses the threshold of a marked component of the graph only, and only if it has none. -/
theorem of_run_missing (h : (run a setup fresh dirty now s).1 = .error (.missingThreshold c)) :
    c ∈ dirty ∧ c ∈ setup.graph ∧ setup.thresholds.get? c = none := by
  rw [answer_ending, ending] at h
  split at h
  · rename_i planned
    cases h
    exact of_plan_missing planned
  · split at h
    · cases h
    · split at h
      · cases h
      · cases h

/-- A pass that goes through has found a state of every marked component of the graph. -/
theorem mem_isolated_of_run (h : (run a setup fresh dirty now s).1 = .ok r) (marked : id ∈ dirty)
    (mem : id ∈ setup.graph) : id ∈ r.isolated := by
  obtain ⟨stored, active, -, -, looked, -⟩ := of_plan (plan_of_run h)
  obtain ⟨o, found, get⟩ := (of_lookAll looked).1 id (IdMap.mem_keys.2 marked)
  rcases look_eq_ok_iff.1 found with ⟨absent, -⟩ | ⟨-, -, -, st, -, -, -, rfl⟩
  · exact absurd mem absent
  · exact IdMap.mem_iff.2 ⟨st, get⟩

end

/-- A component of the graph has a state by the signals that are kept, from the state that is
kept. -/
def Shows (setup : Setup) (m : Memory) (now : Time.Instant) (id : ComponentId)
    (st : ComponentState) : Prop :=
  id ∈ setup.graph ∧ ∃ threshold, setup.thresholds.get? id = some threshold ∧
    State.evaluate (m.log.find id) (m.states.stateOf id) threshold now = some st

theorem Shows.unique {setup : Setup} {m : Memory} {now : Time.Instant} {id : ComponentId}
    {st st' : ComponentState} (h : Shows setup m now id st) (k : Shows setup m now id st') :
    st = st' := by
  obtain ⟨-, threshold, own, shown⟩ := h
  obtain ⟨-, threshold', own', shown'⟩ := k
  cases own.symm.trans own'
  exact Option.some.inj (shown.symm.trans shown')

namespace Attempt

variable {setup : Setup} {p : Attempt} {m n : Memory} {r : Report}

/-- A look of a pass, where no call fails, finds what the component shows. -/
theorem look_iff {previous : StateMap} {id : ComponentId} {st : ComponentState}
    (states : previous.stateOf id = m.states.stateOf id) :
    look p.access setup previous p.now m id = .ok (some st) ↔
      p.faults.find id = none ∧ Shows setup m p.now id st := by
  rw [look_eq_ok_iff]
  constructor
  · rintro (⟨-, absurd⟩ | ⟨mem, signals, threshold, st', read, own, shown, eq⟩)
    · cases absurd
    · cases eq
      obtain ⟨sure, eq⟩ := failing_eq_ok_iff.1 read
      cases eq
      exact ⟨sure, mem, threshold, own, states ▸ shown⟩
  · rintro ⟨sure, mem, threshold, own, shown⟩
    exact .inr ⟨mem, _, threshold, st, failing_eq_ok_iff.2 ⟨sure, rfl⟩, own, states ▸ shown, rfl⟩

/-- What a pass has looked at. -/
structure Looked (setup : Setup) (p : Attempt) (m : Memory) (r : Report) : Prop where
  /-- Of the marked components it found what they show, and nothing of others. -/
  isolated : ∀ {id st}, r.isolated.get? id = some st ↔
    id ∈ p.dirty ∧ Shows setup (p.takeIn m) p.now id st
  /-- Every marked component of the graph shows a state. -/
  shown : ∀ {id}, id ∈ p.dirty → id ∈ setup.graph → ∃ st, Shows setup (p.takeIn m) p.now id st

theorem looked (h : (p.ending setup m).report? = some r) : Looked setup p m r := by
  obtain ⟨stored, active, states, -, all, -⟩ := of_plan (plan_of_report? h)
  obtain ⟨-, eq⟩ := failing_eq_ok_iff.1 states
  cases eq
  have iff : ∀ {id st}, look p.access setup (withDefaults setup.graph (p.takeIn m).states) p.now
      (p.takeIn m) id = .ok (some st) ↔
        p.faults.find id = none ∧ Shows setup (p.takeIn m) p.now id st :=
    look_iff (stateOf_withDefaults _ _ _)
  obtain ⟨inside, outside⟩ := of_lookAll all
  -- a marked component of the graph is found in some state
  have found : ∀ {id}, id ∈ p.dirty → id ∈ setup.graph →
      ∃ st, Shows setup (p.takeIn m) p.now id st ∧ r.isolated.get? id = some st := by
    intro id hid mem
    obtain ⟨o, looked, get⟩ := inside id (IdMap.mem_keys.2 hid)
    rcases look_eq_ok_iff.1 looked with ⟨absent, -⟩ | ⟨-, -, -, st, -, -, -, rfl⟩
    · exact absurd mem absent
    · exact ⟨st, (iff.1 looked).2, get⟩
  refine ⟨?_, ?_⟩
  · intro id st
    constructor
    · intro get
      have hid : id ∈ p.dirty := by
        by_contra unmarked
        rw [outside id fun mem ↦ unmarked (IdMap.mem_keys.1 mem)] at get
        cases get
      obtain ⟨o, looked, eq⟩ := inside id (IdMap.mem_keys.2 hid)
      rw [get] at eq
      cases o with
      | none => cases eq
      | some st' =>
        cases eq
        exact ⟨hid, (iff.1 looked).2⟩
    · rintro ⟨hid, shows⟩
      obtain ⟨st', shows', get⟩ := found hid shows.1
      rw [get, shows.unique shows']
  · intro id hid mem
    obtain ⟨st, shows, -⟩ := found hid mem
    exact ⟨st, shows⟩

/-- A pass goes through where no call fails, nothing is refused and every marked component of the
graph shows a state. -/
theorem exists_done (sure : p.faults = .none) (states : m.statesClosed = false)
    (incidents : m.incidentsClosed = false)
    (shown : ∀ id ∈ p.dirty, id ∈ setup.graph → ∃ st, Shows setup (p.takeIn m) p.now id st) :
    ∃ r, p.ending setup m = .done r := by
  have looks : ∀ id ∈ p.dirty.keys, ∃ o, look p.access setup
      (withDefaults setup.graph (p.takeIn m).states) p.now (p.takeIn m) id = .ok o := by
    intro id hid
    by_cases mem : id ∈ setup.graph
    · obtain ⟨st, shows⟩ := shown id (IdMap.mem_keys.1 hid) mem
      refine ⟨some st, (look_iff (stateOf_withDefaults _ _ _)).2 ⟨?_, shows⟩⟩
      rw [sure]
      rfl
    · exact ⟨none, look_eq_ok_iff.2 (.inl ⟨mem, rfl⟩)⟩
  obtain ⟨isolated, looked⟩ := exists_lookAll ∅ looks
  obtain ⟨r, planned⟩ : ∃ r, plan p.access setup p.fresh p.dirty p.now (p.takeIn m) = .ok r :=
    exists_plan (failing_eq_ok_iff.2 ⟨by rw [sure]; rfl, rfl⟩)
      (failing_eq_ok_iff.2 ⟨by rw [sure]; rfl, rfl⟩) looked
  exact ⟨r, ending_eq_done_iff.2
    ⟨planned, ⟨by rw [sure]; rfl, incidents⟩, by rw [sure]; rfl, states⟩⟩

end Attempt

end Cascade.Evaluation
