import Mathlib.Logic.ExistsUnique
import Cascade.Proofs.Worker.Custody

/-!
# Who has the receiving end of the queue

Of the places where the queue's receiving end or the handle of a worker that has it may lie, and the
hands that may hold them, one has it and all others are empty (`State.Owned`).  Each step hands it
on from there or leaves it (`State.Owned.step`), so that nothing is ever put where something lies,
and no worker stops whose handle nobody has.

`orderly_of_run` concludes what this means for the receiving end, for wake-ups, and for starts that
fail.
-/

namespace Cascade.Worker.Custody

open Loop (Activity Desk Deed Work)

section

variable {s t u : State} {e : Event} {es fs : List Event} {k v w : Nat} {c c' : Call} {g : Grip}
  {move : Move}

/-! ## The one who has it, or the handle of the worker that does -/

/-- Where the receiving end lies, or the handle of the worker that has it. -/
inductive Owner where
  | parked
  | stored (worker : Nat)
  | hand (call : Nat) (grip : Grip)

/-- The worker whose handle an owner has. -/
def Owner.worker? : Owner → Option Nat
  | stored w => some w
  | hand _ (.handle w) => some w
  | _ => none

/-- The ways it may go in a step: into a hand or out of one. -/
inductive Owner.Passes : Owner → Owner → Prop
  | stay (o : Owner) : Passes o o
  | grasp (o : Owner) (k : Nat) (g : Grip) : Passes o (.hand k g)
  | release (k : Nat) (g : Grip) (o : Owner) : Passes (.hand k g) o

variable {o o' : Owner}

/-- Nobody but the owner has the receiving end, or a handle, and only its worker may run. -/
structure State.Owned (s : State) (o : Owner) : Prop where
  parked : s.parked = true ↔ o = .parked
  stored (w : Nat) : s.stored = some w ↔ o = .stored w
  hand (k : Nat) (g : Grip) : s.grip k = some g ↔ o = .hand k g
  live {w : Nat} : s.Live w → o.worker? = some w
  known {w : Nat} : o.worker? = some w → w < s.workers.length
  opened : s.desk.queue.closed = false

theorem State.grip_eq (here : s.calls[k]? = some c) : s.grip k = c.grip := by
  rw [State.grip, here]
  rfl

theorem State.grip_set (here : s.calls[k]? = some c) (c' : Call) (j : Nat) :
    ({ s with calls := s.calls.set k c' }).grip j = if j = k then c'.grip else s.grip j := by
  obtain ⟨inside, -⟩ := List.getElem?_eq_some_iff.1 here
  unfold State.grip
  split
  · rename_i same
    subst same
    rw [List.getElem?_set_self inside]
    rfl
  · rename_i other
    rw [List.getElem?_set_ne (Ne.symm other)]

/-- The owner stays where nothing changes about the receiving end and no worker begins to run. -/
theorem State.Owned.congr (owned : s.Owned o) (parked : t.parked = s.parked)
    (stored : t.stored = s.stored) (grip : ∀ k, t.grip k = s.grip k)
    (live : ∀ w, t.Live w → s.Live w) (length : s.workers.length ≤ t.workers.length)
    (opened : t.desk.queue.closed = false) : t.Owned o where
  parked := parked ▸ owned.parked
  stored := stored ▸ owned.stored
  hand k g := grip k ▸ owned.hand k g
  live h := owned.live (live _ h)
  known h := Nat.lt_of_lt_of_le (owned.known h) length
  opened := opened

/-- Nothing lies anywhere while a call has it in its hands. -/
theorem State.Owned.slots_of_hand (owned : s.Owned (.hand k g)) :
    s.parked = false ∧ s.stored = none := by
  constructor
  · exact Bool.eq_false_iff.2 fun lies ↦ nomatch owned.parked.1 lies
  · exact Option.eq_none_iff_forall_ne_some.2 fun w there ↦ nomatch (owned.stored w).1 there

theorem State.Owned.store (owned : s.Owned (.hand k g)) (w : Nat) :
    s.store w = { s with stored := some w } :=
  State.store_of_vacant owned.slots_of_hand.2 w

theorem State.Owned.park (owned : s.Owned (.hand k g)) : s.park = { s with parked := true } := by
  rw [State.park, owned.slots_of_hand.1]
  rfl

/-- What a call has in its hands it has alone. -/
theorem State.Owned.of_grip (owned : s.Owned o) (here : s.calls[k]? = some c)
    (grip : c.grip = some g) : o = .hand k g :=
  (owned.hand k g).1 ((State.grip_eq here).trans grip)

/-- The handle of the owner's worker is not lost. -/
theorem State.Owned.keeps (owned : s.Owned o) (own : o.worker? = some w) : s.keeps w = true := by
  unfold State.keeps
  rw [Bool.or_eq_true]
  cases o with
  | parked => cases own
  | stored v =>
    left
    rw [(owned.stored v).2 rfl]
    exact beq_iff_eq.2 own
  | hand k g =>
    cases g with
    | queue => cases own
    | handle v =>
      right
      obtain ⟨c, here, grip⟩ := Option.bind_eq_some_iff.1 ((owned.hand k (.handle v)).2 rfl)
      cases own
      exact List.any_eq_true.2 ⟨c, List.mem_of_getElem? here, beq_iff_eq.2 grip⟩

/-! ## What a step does to the owner -/

/-- A call comes further, and the receiving end may go into its hands or out of them. -/
theorem State.Owned.pass (owned : s.Owned o) (here : s.calls[k]? = some c) (c' : Call)
    (calls : t.calls = s.calls) (parked : t.parked = true ↔ o' = .parked)
    (stored : ∀ w, t.stored = some w ↔ o' = .stored w)
    (own : ∀ g, c'.grip = some g ↔ o' = .hand k g)
    (others : ∀ j g, j ≠ k → (o = .hand j g ↔ o' = .hand j g))
    (live : ∀ {w}, t.Live w → o'.worker? = some w)
    (known : ∀ {w}, o'.worker? = some w → w < t.workers.length)
    (opened : t.desk.queue.closed = false) :
    State.Owned { t with calls := t.calls.set k c' } o' where
  parked := parked
  stored := stored
  hand j g := by
    rw [State.grip_set (calls ▸ here)]
    split
    · rename_i same
      subst same
      exact own g
    · rename_i other
      rw [State.grip, calls]
      exact (owned.hand j g).trans (others j g other)
  live := live
  known := known
  opened := opened

/-- A call comes further and has what it had. -/
theorem State.Owned.stay (owned : s.Owned o) (here : s.calls[k]? = some c) (c' : Call)
    (same : c'.grip = c.grip) (told : Nat) (running : Bool) :
    ∃ o', o.Passes o' ∧ State.Owned { s with told, running, calls := s.calls.set k c' } o' :=
  ⟨o, .stay o, owned.pass (t := { s with told, running }) here c' rfl owned.parked owned.stored
    (fun g ↦ by rw [same, ← State.grip_eq here, owned.hand])
    (fun _ _ _ ↦ Iff.rfl) owned.live owned.known owned.opened⟩

/-- A call takes what lies there, or changes what it has. -/
theorem State.Owned.grasp (owned : s.Owned o) (here : s.calls[k]? = some c) (c' : Call)
    (calls : t.calls = s.calls) (grip : c'.grip = some g) (parked : t.parked = false)
    (stored : t.stored = none) (others : ∀ j g, j ≠ k → o ≠ .hand j g)
    (live : ∀ {w}, t.Live w → (Owner.hand k g).worker? = some w)
    (known : ∀ {w}, (Owner.hand k g).worker? = some w → w < t.workers.length)
    (opened : t.desk.queue.closed = false) :
    ∃ o', o.Passes o' ∧ State.Owned { t with calls := t.calls.set k c' } o' :=
  ⟨.hand k g, .grasp o k g, owned.pass here c' calls (by simp [parked]) (by simp [stored])
    (by simp [grip]) (fun j g other ↦ by simp [others j g other, Ne.symm other]) live known opened⟩

/-- A call puts down what it has. -/
theorem State.Owned.release (owned : s.Owned (.hand k g)) (here : s.calls[k]? = some c)
    (c' : Call) (o' : Owner) (calls : t.calls = s.calls) (grip : c'.grip = none)
    (parked : t.parked = true ↔ o' = .parked) (stored : ∀ w, t.stored = some w ↔ o' = .stored w)
    (out : ∀ j g, o' ≠ .hand j g) (live : ∀ {w}, t.Live w → o'.worker? = some w)
    (known : ∀ {w}, o'.worker? = some w → w < t.workers.length)
    (opened : t.desk.queue.closed = false) :
    ∃ o', (Owner.hand k g).Passes o' ∧ State.Owned { t with calls := t.calls.set k c' } o' :=
  ⟨o', .release k g o', owned.pass here c' calls parked stored (by simp [grip, out])
    (fun j g other ↦ by simp [out, Ne.symm other]) live known opened⟩

/-- A call takes the handle that is stored. -/
theorem State.Owned.seize (owned : s.Owned o) (here : s.calls[k]? = some c)
    (there : s.stored = some w) (c' : Call) (grip : c'.grip = some (.handle w)) :
    ∃ o', o.Passes o' ∧ State.Owned { s with stored := none, calls := s.calls.set k c' } o' := by
  obtain rfl := (owned.stored w).1 there
  have parked : s.parked = false := Bool.eq_false_iff.2 fun lies ↦ nomatch owned.parked.1 lies
  exact owned.grasp (t := { s with stored := none }) here c' rfl grip parked rfl nofun owned.live
    owned.known owned.opened

/-- A call takes the receiving end out of a worker that is done. -/
theorem State.Owned.join (owned : s.Owned o) (here : s.calls[k]? = some c)
    (handle : c.grip = some (.handle w)) (ended : s.ended w = true) (c' : Call)
    (grip : c'.grip = some .queue) :
    ∃ o', o.Passes o' ∧ State.Owned { s with calls := s.calls.set k c' } o' := by
  obtain rfl := owned.of_grip here handle
  obtain ⟨parked, stored⟩ := owned.slots_of_hand
  refine owned.grasp here c' rfl grip parked stored ?_ ?_ nofun owned.opened
  · rintro j g other ⟨⟩
    exact other rfl
  · intro v live
    cases owned.live live
    exact absurd ended (Bool.eq_false_iff.1 live.2)

/-- A call stores the handle that it has. -/
theorem State.Owned.put (owned : s.Owned o) (here : s.calls[k]? = some c)
    (handle : c.grip = some (.handle w)) (c' : Call) (grip : c'.grip = none) :
    ∃ o', o.Passes o' ∧
      State.Owned { s.store w with calls := (s.store w).calls.set k c' } o' := by
  obtain rfl := owned.of_grip here handle
  rw [owned.store]
  refine owned.release (t := { s with stored := some w }) here c' (.stored w) rfl grip ?_ ?_ nofun
    owned.live owned.known owned.opened
  · exact owned.parked.trans ⟨nofun, nofun⟩
  · simp

theorem State.live_append {r : Runner} (live : ({ s with workers := s.workers ++ [r] }).Live w) :
    s.Live w ∨ w = s.workers.length := by
  obtain ⟨inside, runs⟩ := live
  rcases Nat.lt_or_eq_of_le (Nat.le_of_lt_succ (by simpa using inside)) with before | last
  · left
    refine ⟨before, ?_⟩
    rwa [State.ended, List.getElem?_append_left before] at runs
  · exact .inr last

/-- No step of a call loses the receiving end. -/
theorem State.Owned.act (owned : s.Owned o) (here : s.calls[k]? = some c)
    (act : Act s c move t c') :
    ∃ o', o.Passes o' ∧ State.Owned { t with calls := t.calls.set k c' } o' := by
  cases act with
  | ignore on => exact owned.stay here (.started none) rfl s.told s.running
  | raise off => exact owned.stay here .entered rfl s.told true
  | take lies =>
    obtain rfl := owned.parked.1 lies
    have stored : s.stored = none :=
      Option.eq_none_iff_forall_ne_some.2 fun w there ↦ nomatch (owned.stored w).1 there
    exact owned.grasp (t := { s with parked := false }) here .holding rfl rfl rfl stored nofun
      owned.live owned.known owned.opened
  | miss none => exact owned.stay here .searching rfl s.told s.running
  | @find w there ended => exact owned.seize here there (.collecting w) rfl
  | fail none => exact owned.stay here .refused rfl s.told s.running
  | collect ended => exact owned.join here rfl ended .holding rfl
  | refuse => exact owned.stay here (.started (some .stillRunning)) rfl s.told false
  | clear => exact owned.stay here .cleared rfl (s.told + 1) s.running
  | listen => exact owned.stay here (.listening s.told) rfl s.told s.running
  | @spawn heard =>
    obtain rfl := owned.of_grip here rfl
    obtain ⟨parked, stored⟩ := owned.slots_of_hand
    refine owned.grasp (t := { s with workers := s.workers ++ [⟨.waiting, heard⟩] }) here
      (.spawned s.workers.length) rfl rfl parked stored ?_ ?_ ?_ owned.opened
    · rintro j g other ⟨⟩
      exact other rfl
    · intro w live
      rcases State.live_append live with old | rfl
      · exact nomatch owned.live old
      · rfl
    · rintro w ⟨⟩
      rw [List.length_append]
      exact Nat.lt_succ_self _
  | hand => exact owned.put here rfl (.started none) rfl
  | lower => exact owned.stay here .lowered rfl s.told false
  | @seize w there => exact owned.seize here there (.seized w) rfl
  | idle none => exact owned.stay here .stopped rfl s.told s.running
  | @tell w => exact owned.stay here (.awaiting w) rfl (s.told + 1) s.running
  | join ended => exact owned.join here rfl ended .joined rfl
  | @expire w => exact owned.stay here (.late w) rfl s.told s.running
  | park =>
    obtain rfl := owned.of_grip here rfl
    rw [owned.park]
    refine owned.release (t := { s with parked := true }) here .stopped .parked rfl rfl ?_ ?_
      nofun owned.live owned.known owned.opened
    · exact ⟨fun _ ↦ rfl, fun _ ↦ rfl⟩
    · exact fun w ↦ (owned.stored w).trans ⟨nofun, nofun⟩
  | restore => exact owned.put here rfl .stopped rfl

/-- A worker that does something is not done. -/
theorem active_of_work {d d' : Desk} {r : Loop.Runner} {deed : Deed} {a : Activity}
    (work : Work d r deed d' a) : r.activity ≠ .finished := by
  intro finished
  cases work <;> simp_all

theorem closed_of_work {d d' : Desk} {r : Loop.Runner} {deed : Deed} {a : Activity}
    (work : Work d r deed d' a) : d'.queue.closed = d.queue.closed := by
  cases work with
  | receive idle next => exact Queue.closed_of_pop? next
  | _ => rfl

/-- A worker loses nothing, not even as it stops. -/
theorem State.Owned.work {r : Runner} {deed : Deed} {desk : Desk} {activity : Activity}
    (owned : s.Owned o) (here : s.workers[w]? = some r)
    (work : Work s.desk (s.view r) deed desk activity) :
    State.sweep w { s with desk, workers := s.workers.set w { r with activity } } =
        { s with desk, workers := s.workers.set w { r with activity } } ∧
      State.Owned { s with desk, workers := s.workers.set w { r with activity } } o := by
  obtain ⟨inside, -⟩ := List.getElem?_eq_some_iff.1 here
  have runs : s.Live w := by
    refine ⟨inside, Bool.eq_false_iff.2 fun ended ↦ ?_⟩
    exact active_of_work work ((State.ended_iff here).1 ended)
  have after : State.Owned { s with desk, workers := s.workers.set w { r with activity } } o := by
    refine owned.congr rfl rfl (fun _ ↦ rfl) ?_ (by simp) ((closed_of_work work).trans owned.opened)
    rintro v ⟨inside, runs'⟩
    by_cases same : v = w
    · exact same ▸ runs
    · refine ⟨by simpa using inside, ?_⟩
      rwa [State.ended, List.getElem?_set_ne (Ne.symm same)] at runs'
  exact ⟨State.sweep_of_keeps (after.keeps (owned.live runs)), after⟩

theorem getElem?_snoc {α : Type} (l : List α) (x : α) (k : Nat) :
    (l ++ [x])[k]? = if k = l.length then some x else l[k]? := by
  split
  · rename_i last
    rw [last, List.getElem?_concat_length]
  · rename_i other
    rcases Nat.lt_or_gt_of_ne other with before | beyond
    · rw [List.getElem?_append_left before]
    · rw [List.getElem?_eq_none (Nat.le_of_lt beyond), List.getElem?_eq_none]
      rw [List.length_append]
      exact beyond

theorem State.grip_append (c : Call) (grip : c.grip = none) (k : Nat) :
    ({ s with calls := s.calls ++ [c] }).grip k = s.grip k := by
  unfold State.grip
  rw [getElem?_snoc]
  split
  · rename_i last
    rw [last, List.getElem?_eq_none (Nat.le_refl _)]
    exact grip
  · rfl

/-- A call that has just begun has nothing in its hands. -/
theorem State.Owned.append (owned : s.Owned o) (c : Call) (grip : c.grip = none) :
    ∃ o', o.Passes o' ∧ State.Owned { s with calls := s.calls ++ [c] } o' :=
  ⟨o, .stay o, owned.congr rfl rfl (State.grip_append c grip) (fun _ live ↦ live) (Nat.le_refl _)
    owned.opened⟩

theorem State.Owned.step (owned : s.Owned o) (step : Step s e t) :
    ∃ o', o.Passes o' ∧ t.Owned o' := by
  cases step with
  | start => exact owned.append .start rfl
  | stop => exact owned.append .stop rfl
  | act here act => exact owned.act here act
  | mark marked =>
    exact ⟨o, .stay o, owned.congr rfl rfl (fun _ ↦ rfl) (fun _ live ↦ live) (Nat.le_refl _)
      owned.opened⟩
  | wake pushed =>
    refine ⟨o, .stay o, owned.congr rfl rfl (fun _ ↦ rfl) (fun _ live ↦ live) (Nat.le_refl _) ?_⟩
    exact (congrArg (fun p ↦ p.2.closed) pushed).symm.trans (Queue.closed_push.trans owned.opened)
  | work here work =>
    obtain ⟨same, after⟩ := owned.work here work
    rw [same]
    exact ⟨o, .stay o, after⟩

theorem State.Owned.run (owned : s.Owned o) (run : Run s es t) : ∃ o', t.Owned o' := by
  induction run generalizing o with
  | nil s => exact ⟨o, owned⟩
  | cons step _ ih =>
    obtain ⟨o', -, after⟩ := owned.step step
    exact ih after

/-- No worker was started, no call was made, and the receiving end lies ready. -/
structure State.Begins (s : State) : Prop where
  parked : s.parked = true
  stored : s.stored = none
  workers : s.workers = []
  calls : s.calls = []
  opened : s.desk.queue.closed = false

theorem State.Begins.owned (begins : s.Begins) : s.Owned .parked where
  parked := by simp [begins.parked]
  stored w := by simp [begins.stored]
  hand k g := by simp [State.grip, begins.calls]
  live h := by
    have inside := h.1
    rw [begins.workers] at inside
    exact absurd inside (Nat.not_lt_zero _)
  known := nofun
  opened := begins.opened

/-- However the worker is started and stopped, the queue stays open. -/
theorem Course.opened {engine : Engine} {timing : Timing} {site : Site} {m : Worker.State}
    (course : Course engine (.start timing site) m) (quiet : Loop.Quiet engine)
    (taken : site.marks.closed = false) (opened : site.queue.closed = false) :
    m.site.queue.closed = false := by
  obtain ⟨es, t, run, stands⟩ := course.exists_run quiet (stands_start timing taken)
  have begins : (State.ofSite site).Begins := ⟨rfl, rfl, rfl, rfl, opened⟩
  obtain ⟨o, owned⟩ := begins.owned.run run
  have same : t.desk.queue = m.site.queue := stands.loop.desk.queue
  rw [← same]
  exact owned.opened

/-! ## Where the receiving end is -/

/-- Where the receiving end may be. -/
inductive Place where
  | parked
  /-- A worker that runs has it. -/
  | worker (worker : Nat)
  /-- A worker that is done has it, and its handle is stored. -/
  | stored (worker : Nat)
  /-- A call has it, or the handle of a worker that is done and has it. -/
  | call (call : Nat)

/-- The receiving end is at a place. -/
inductive State.Holds (s : State) : Place → Prop
  | parked (lies : s.parked = true) : Holds s .parked
  | worker {w : Nat} (live : s.Live w) : Holds s (.worker w)
  | stored {w : Nat} (there : s.stored = some w) (ended : s.ended w = true) : Holds s (.stored w)
  | queue {k : Nat} (hand : s.grip k = some .queue) : Holds s (.call k)
  | handle {k w : Nat} (hand : s.grip k = some (.handle w)) (ended : s.ended w = true) :
      Holds s (.call k)

def Owner.place (s : State) : Owner → Place
  | parked => .parked
  | stored w => if s.ended w then .stored w else .worker w
  | hand k .queue => .call k
  | hand k (.handle w) => if s.ended w then .call k else .worker w

theorem State.Owned.holds_place (owned : s.Owned o) : s.Holds (o.place s) := by
  have runs {w : Nat} (own : o.worker? = some w) (ended : ¬ s.ended w = true) :
      s.Holds (.worker w) :=
    .worker ⟨owned.known own, Bool.eq_false_iff.2 ended⟩
  cases o with
  | parked => exact .parked (owned.parked.2 rfl)
  | stored w =>
    by_cases ended : s.ended w = true
    · rw [Owner.place, if_pos ended]
      exact .stored ((owned.stored w).2 rfl) ended
    · rw [Owner.place, if_neg ended]
      exact runs rfl ended
  | hand k g =>
    have hand := (owned.hand k g).2 rfl
    cases g with
    | queue => exact .queue hand
    | handle w =>
      by_cases ended : s.ended w = true
      · rw [Owner.place, if_pos ended]
        exact .handle hand ended
      · rw [Owner.place, if_neg ended]
        exact runs rfl ended

theorem State.Owned.eq_place {p : Place} (owned : s.Owned o) (holds : s.Holds p) :
    p = o.place s := by
  cases holds with
  | parked lies =>
    obtain rfl := owned.parked.1 lies
    rfl
  | @worker w live =>
    have own := owned.live live
    cases o with
    | parked => cases own
    | stored v =>
      cases own
      exact (if_neg (Bool.eq_false_iff.1 live.2)).symm
    | hand k g =>
      cases g with
      | queue => cases own
      | handle v =>
        cases own
        exact (if_neg (Bool.eq_false_iff.1 live.2)).symm
  | stored there ended =>
    obtain rfl := (owned.stored _).1 there
    exact (if_pos ended).symm
  | queue hand =>
    obtain rfl := (owned.hand _ _).1 hand
    rfl
  | handle hand ended =>
    obtain rfl := (owned.hand _ _).1 hand
    exact (if_pos ended).symm

/-- The receiving end is at one place. -/
theorem State.Owned.existsUnique_place (owned : s.Owned o) : ∃! p, s.Holds p :=
  ⟨o.place s, owned.holds_place, fun _ ↦ owned.eq_place⟩

theorem State.holds_parked_iff : s.Holds .parked ↔ s.parked = true :=
  ⟨fun | .parked lies => lies, .parked⟩

theorem State.holds_stored_iff : s.Holds (.stored w) ↔ s.stored = some w ∧ s.ended w = true :=
  ⟨fun | .stored there ended => ⟨there, ended⟩, fun h ↦ .stored h.1 h.2⟩

/-- A start that comes by finds the receiving end. -/
def State.Offers (s : State) : Prop := s.Holds .parked ∨ ∃ w, s.Holds (.stored w)

theorem State.Owned.not_offers (owned : s.Owned (.hand k g)) : ¬ s.Offers := by
  obtain ⟨parked, stored⟩ := owned.slots_of_hand
  rintro (lies | ⟨w, there⟩)
  · rw [State.holds_parked_iff, parked] at lies
    cases lies
  · rw [State.holds_stored_iff, stored] at there
    cases there.1

/-- From where it was not ready to where no worker that is done had it, the receiving end passed
through a moment at which neither was so. -/
theorem State.Owned.exists_not_offers (owned : s.Owned o) (unready : o ≠ .parked) (run : Run s es t)
    (missed : ∀ w, ¬ t.Holds (.stored w)) :
    ∃ fs gs u, es = fs ++ gs ∧ Run s fs u ∧ Run u gs t ∧ ¬ u.Offers := by
  induction run generalizing o with
  | nil s =>
    refine ⟨[], [], s, rfl, .nil s, .nil s, ?_⟩
    rintro (lies | ⟨w, there⟩)
    · exact unready (owned.parked.1 (State.holds_parked_iff.1 lies))
    · exact missed w there
  | @cons s t u e es step rest ih =>
    by_cases offers : s.Offers
    · obtain ⟨o', passes, after⟩ := owned.step step
      -- from its place it only goes into a hand, where it is on offer to nobody
      have unready' : o' ≠ .parked := by
        cases passes with
        | stay => exact unready
        | grasp => exact nofun
        | release k g => exact absurd offers owned.not_offers
      obtain ⟨fs, gs, v, rfl, first, second, missing⟩ := ih after unready' missed
      exact ⟨e :: fs, gs, v, rfl, .cons step first, second, missing⟩
    · exact ⟨[], e :: es, s, rfl, .nil s, .cons step rest, offers⟩

/-! ## What becomes of wake-ups -/

/-- The wake-ups that found room. -/
def woken (es : List Event) : List ComponentId :=
  es.filterMap fun
    | .wake id true => some id
    | _ => none

/-- The wake-ups that workers took. -/
def received (es : List Event) : List ComponentId :=
  es.filterMap fun
    | .work _ (.receive id) => some id
    | _ => none

theorem State.Owned.desk_act (owned : s.Owned o) (here : s.calls[k]? = some c)
    (act : Act s c move t c') : t.desk = s.desk := by
  cases act with
  | hand | restore =>
    obtain rfl := owned.of_grip here rfl
    rw [owned.store]
  | park =>
    obtain rfl := owned.of_grip here rfl
    rw [owned.park]
  | _ => rfl

theorem items_of_work {d d' : Desk} {r : Loop.Runner} {deed : Deed} {a : Activity}
    (work : Work d r deed d' a) (w : Nat) :
    d.queue.items = received [.work w deed] ++ d'.queue.items := by
  cases work with
  | receive idle next => exact Queue.items_of_pop? next
  | _ => rfl

theorem items_push {q q' : Queue} {id : ComponentId} {room : Bool} (opened : q.closed = false)
    (pushed : q.push id = (room, q')) : q'.items = q.items ++ woken [.wake id room] := by
  cases room with
  | true =>
    have room : q.canAccept = true := by
      refine decide_eq_true (Nat.lt_of_not_le fun full ↦ ?_)
      simp [Queue.push, opened, Nat.not_lt.2 full] at pushed
    have items := Queue.items_push_of_room id opened room
    rwa [pushed] at items
  | false =>
    have same := Queue.push_of_not_added (congrArg Prod.fst pushed)
    rw [pushed] at same
    rw [← same]
    exact (List.append_nil _).symm

/-- No wake-up is lost in a step, or changes its place. -/
theorem State.Owned.items_step (owned : s.Owned o) (step : Step s e t) :
    s.desk.queue.items ++ woken [e] = received [e] ++ t.desk.queue.items := by
  cases step with
  | start | stop | mark => exact List.append_nil _
  | act here act =>
    rw [owned.desk_act here act]
    exact List.append_nil _
  | wake pushed => exact (items_push owned.opened pushed).symm
  | work here work =>
    rw [(owned.work here work).1]
    exact (List.append_nil _).trans (items_of_work work _)

theorem State.Owned.items_run (owned : s.Owned o) (run : Run s es t) :
    s.desk.queue.items ++ woken es = received es ++ t.desk.queue.items := by
  induction run generalizing o with
  | nil s => exact List.append_nil _
  | @cons s t u e es step _ ih =>
    obtain ⟨o', -, after⟩ := owned.step step
    calc s.desk.queue.items ++ woken (e :: es)
        = s.desk.queue.items ++ woken [e] ++ woken es := by
          rw [List.append_assoc, woken, woken, woken, ← List.filterMap_append]
          rfl
      _ = received [e] ++ (t.desk.queue.items ++ woken es) := by
          rw [owned.items_step step, List.append_assoc]
      _ = received [e] ++ (received es ++ u.desk.queue.items) := by rw [ih after]
      _ = received (e :: es) ++ u.desk.queue.items := by
          rw [← List.append_assoc, received, received, received, ← List.filterMap_append]
          rfl

/-! ## What a start comes to -/

def moves (k : Nat) (es : List Event) : List Move :=
  es.filterMap fun
    | .act j move => if j = k then some move else none
    | _ => none

/-- What a start does up to where it finds the receiving end. -/
def Finds (ms : List Move) : Prop :=
  [.raise, .look true] <+: ms ∨ [.raise, .look false, .search true] <+: ms

/-- What a call did that has come so far. -/
def Call.Story : Call → List Move → Prop
  | start, ms => ms = []
  | entered, ms => ms = [.raise]
  | searching, ms => ms = [.raise, .look false]
  | refused, ms => ms = [.raise, .look false, .search false]
  | collecting _, ms | holding, ms | cleared, ms | listening _, ms | spawned _, ms => Finds ms
  | started none, ms => ms = [.ignore] ∨ Finds ms
  | started (some error), ms =>
    error = .stillRunning ∧ ms = [.raise, .look false, .search false, .refuse]
  | _, ms => .raise ∉ ms

theorem Finds.append {ms : List Move} (finds : Finds ms) (more : List Move) : Finds (ms ++ more) :=
  finds.imp (fun first ↦ first.trans (List.prefix_append ..))
    fun second ↦ second.trans (List.prefix_append ..)

theorem Call.Story.act {ms : List Move} (story : c.Story ms) (act : Act s c move t c') :
    c'.Story (ms ++ [move]) := by
  cases act with
  | ignore on =>
    cases story
    exact .inl rfl
  | raise off =>
    cases story
    exact rfl
  | take lies =>
    cases story
    exact .inl (List.prefix_refl _)
  | miss none =>
    cases story
    exact rfl
  | find there ended =>
    cases story
    exact .inr (List.prefix_refl _)
  | fail none =>
    cases story
    exact rfl
  | refuse =>
    cases story
    exact ⟨rfl, rfl⟩
  | collect | clear | listen | spawn => exact Finds.append story _
  | hand => exact .inr (Finds.append story _)
  -- a stop does not set the flag
  | _ => simpa [Call.Story] using story

/-- What a call of a state did, if it has begun. -/
def State.Tells (s : State) (k : Nat) (ms : List Move) : Prop :=
  match s.calls[k]? with
  | none => ms = []
  | some c => c.Story ms

theorem State.Tells.append {ms : List Move} (tells : s.Tells k ms) (fresh : c.Story []) :
    ({ s with calls := s.calls ++ [c] }).Tells k ms := by
  unfold State.Tells at tells ⊢
  rw [getElem?_snoc]
  by_cases last : k = s.calls.length
  · rw [last, List.getElem?_eq_none (Nat.le_refl _)] at tells
    rw [if_pos last]
    exact tells ▸ fresh
  · rw [if_neg last]
    exact tells

theorem State.calls_sweep (s : State) (w : Nat) : (s.sweep w).calls = s.calls := by
  unfold State.sweep
  split
  · rfl
  · rfl

theorem calls_of_act (act : Act s c move t c') : t.calls = s.calls := by
  cases act with
  | hand | restore =>
    unfold State.store
    split
    · rfl
    · exact State.calls_sweep ..
  | park =>
    unfold State.park
    split
    · rfl
    · rfl
  | _ => rfl

theorem State.Tells.step {ms : List Move} (tells : s.Tells k ms) (step : Step s e t) :
    t.Tells k (ms ++ moves k [e]) := by
  cases step with
  | start =>
    rw [show moves k [.start] = [] from rfl, List.append_nil]
    exact tells.append rfl
  | stop =>
    rw [show moves k [.stop] = [] from rfl, List.append_nil]
    exact tells.append nofun
  | @act _ j _ _ move here act =>
    obtain ⟨inside, -⟩ := List.getElem?_eq_some_iff.1 here
    unfold State.Tells at tells ⊢
    rw [calls_of_act act]
    by_cases same : j = k
    · subst same
      rw [here] at tells
      rw [List.getElem?_set_self inside]
      simpa [moves] using Call.Story.act tells act
    · rw [List.getElem?_set_ne same]
      simpa [moves, same] using tells
  | mark | wake =>
    rw [show moves k [_] = [] from rfl, List.append_nil]
    exact tells
  | work =>
    rw [show moves k [.work _ _] = [] from rfl, List.append_nil, State.Tells, State.calls_sweep]
    exact tells

theorem State.Tells.run {ms : List Move} (tells : s.Tells k ms) (run : Run s es t) :
    t.Tells k (ms ++ moves k es) := by
  induction run generalizing ms with
  | nil s =>
    rw [show moves k [] = [] from rfl, List.append_nil]
    exact tells
  | @cons _ _ _ e es step _ ih =>
    rw [show moves k (e :: es) = moves k [e] ++ moves k es from List.filterMap_append (l := [e]),
      ← List.append_assoc]
    exact ih (tells.step step)

/-! ## No call is stuck -/

theorem State.workers_sweep (s : State) (w : Nat) : (s.sweep w).workers = s.workers := by
  unfold State.sweep
  split
  · rfl
  · rfl

/-- A call leaves the workers as they are, or starts another one. -/
theorem workers_of_act (act : Act s c move t c') :
    ∃ more, t.workers = s.workers ++ more := by
  cases act with
  | spawn => exact ⟨_, rfl⟩
  | hand | restore =>
    refine ⟨[], .trans ?_ (List.append_nil _).symm⟩
    unfold State.store
    split
    · rfl
    · exact State.workers_sweep ..
  | park =>
    refine ⟨[], .trans ?_ (List.append_nil _).symm⟩
    unfold State.park
    split
    · rfl
    · rfl
  | _ => exact ⟨[], (List.append_nil _).symm⟩

theorem State.lt_of_ended (ended : s.ended w = true) : w < s.workers.length := by
  refine Nat.lt_of_not_le fun outside ↦ ?_
  rw [State.ended, List.getElem?_eq_none outside] at ended
  cases ended

theorem State.ended_of_step (ended : s.ended w = true) (step : Step s e t) : t.ended w = true := by
  cases step with
  | act here act =>
    obtain ⟨more, workers⟩ := workers_of_act act
    rw [State.ended, workers, List.getElem?_append_left (State.lt_of_ended ended)]
    exact ended
  | @work v r _ _ _ here work =>
    rw [State.ended, State.workers_sweep]
    by_cases same : v = w
    · subst same
      exact absurd ((State.ended_iff here).1 ended) (active_of_work work)
    · rw [List.getElem?_set_ne same]
      exact ended
  | _ => exact ended

/-- A call is about to take the receiving end out of a worker only if that one is done. -/
def State.Collects (s : State) : Prop :=
  ∀ (k w : Nat), s.calls[k]? = some (.collecting w) → s.ended w = true

theorem State.Collects.append (collects : s.Collects) (fresh : ∀ w, c ≠ .collecting w) :
    ({ s with calls := s.calls ++ [c] }).Collects := by
  intro k w here
  rw [getElem?_snoc] at here
  split at here
  · cases here
    exact absurd rfl (fresh w)
  · exact collects k w here

theorem ended_of_act (act : Act s c move t (.collecting w)) : s.ended w = true := by
  cases act with
  | find there ended => exact ended

theorem State.Collects.step (collects : s.Collects) (step : Step s e t) : t.Collects := by
  have keep {k w : Nat} (here : s.calls[k]? = some (.collecting w)) : t.ended w = true :=
    State.ended_of_step (collects k w here) step
  cases step with
  | start => exact collects.append nofun
  | stop => exact collects.append nofun
  | @act _ j _ _ _ here act =>
    intro k w there
    rw [calls_of_act act] at there
    obtain ⟨inside, -⟩ := List.getElem?_eq_some_iff.1 here
    by_cases same : j = k
    · subst same
      rw [List.getElem?_set_self inside] at there
      cases there
      exact State.ended_of_step (ended_of_act act) (.act here act)
    · rw [List.getElem?_set_ne same] at there
      exact keep there
  | mark | wake => exact fun _ _ ↦ keep
  | work =>
    intro k w there
    rw [State.calls_sweep] at there
    exact keep there

theorem State.Collects.run (collects : s.Collects) (run : Run s es t) : t.Collects := by
  induction run with
  | nil s => exact collects
  | cons step _ ih => exact ih (collects.step step)

/-- A call has returned. -/
inductive Call.Returned : Call → Prop
  | started (error : Option LoopError) : Returned (.started error)
  | stopped : Returned .stopped

/-- A call that has not returned can go on. -/
theorem State.Collects.exists_step (collects : s.Collects) (here : s.calls[k]? = some c) :
    c.Returned ∨ ∃ move t, Step s (.act k move) t := by
  have go {move : Move} {t : State} {c' : Call} (act : Act s c move t c') :
      c.Returned ∨ ∃ move t, Step s (.act k move) t := .inr ⟨move, _, .act here act⟩
  cases c with
  | start =>
    cases running : s.running with
    | true => exact go (.ignore running)
    | false => exact go (.raise running)
  | entered =>
    cases parked : s.parked with
    | true => exact go (.take parked)
    | false => exact go (.miss parked)
  | searching =>
    by_cases found : ∃ w, s.stored = some w ∧ s.ended w = true
    · obtain ⟨w, there, ended⟩ := found
      exact go (.find there ended)
    · exact go (.fail fun w there ↦ Bool.eq_false_iff.2 fun ended ↦ found ⟨w, there, ended⟩)
  | collecting w => exact go (.collect (collects k w here))
  | refused => exact go .refuse
  | holding => exact go .clear
  | cleared => exact go .listen
  | listening => exact go .spawn
  | spawned => exact go .hand
  | started error => exact .inl (.started error)
  | stop => exact go .lower
  | lowered =>
    cases stored : s.stored with
    | none => exact go (.idle stored)
    | some w => exact go (.seize stored)
  | seized => exact go .tell
  | awaiting => exact go .expire
  | joined => exact go .park
  | late => exact go .restore
  | stopped => exact .inl .stopped

/-! ## A worker and its queue as a whole -/

/-- What holds when calls that start and stop workers, workers and wake-ups have come so far. -/
structure Orderly (s : State) (es : List Event) (t : State) : Prop where
  /-- The receiving end is at exactly one place. -/
  place : ∃! p, t.Holds p
  /-- No two workers run. -/
  alone {v w : Nat} : t.Live v → t.Live w → v = w
  /-- The queue is open, and what was queued has been received or is queued still, in the order in
  which it came. -/
  opened : t.desk.queue.closed = false
  items : s.desk.queue.items ++ woken es = received es ++ t.desk.queue.items
  /-- No start and no stop touches the queue or the marks. -/
  desk {k : Nat} {move : Move} {u : State} : Step t (.act k move) u → u.desk = t.desk
  /-- No start and no stop is stuck. -/
  goesOn {k : Nat} {c : Call} : t.calls[k]? = some c →
    c.Returned ∨ ∃ move u, Step t (.act k move) u
  /-- A start finds what is there as it looks. -/
  look {k : Nat} {found : Bool} {u : State} :
    Step t (.act k (.look found)) u → (found = true ↔ t.Holds .parked)
  search {k : Nat} {found : Bool} {u : State} :
    Step t (.act k (.search found)) u → (found = true ↔ ∃ w, t.Holds (.stored w))
  /-- A start that did not find a worker meant to run has returned with an error exactly if neither
  look found the receiving end. -/
  starts {k : Nat} {error : Option LoopError} : t.calls[k]? = some (.started error) →
    .raise ∈ moves k es →
      (error = some .stillRunning ∧ moves k es = [.raise, .look false, .search false, .refuse]) ∨
      (error = none ∧ Finds (moves k es))
  /-- Where nothing comes between its looks, it finds the receiving end exactly if it is at either
  place. -/
  atOnce {k : Nat} {found : Bool} {u v : State} : Step t (.act k (.look false)) u →
    Step u (.act k (.search found)) v → (found = true ↔ t.Offers)
  /-- Between two looks that do not find it there is a moment at which it is at neither place. -/
  missing {k : Nat} {before between after : List Event} :
    es = before ++ .act k (.look false) :: (between ++ .act k (.search false) :: after) →
    ∃ first second u, between = first ++ second ∧
      Run s (before ++ .act k (.look false) :: first) u ∧
      Run u (second ++ .act k (.search false) :: after) t ∧ ¬ u.Offers
  /-- A start that fails changes nothing but the flag, which it lowers in the end. -/
  fails {k : Nat} {move : Move} {u : State} : Step t (.act k move) u →
    move ∈ [.raise, .look false, .search false, .refuse] →
    (∃ c, u = { t with running := u.running, calls := t.calls.set k c }) ∧
      (move = .refuse → u.running = false)

theorem look_iff {found : Bool} (step : Step s (.act k (.look found)) t) :
    found = true ↔ s.Holds .parked := by
  rw [State.holds_parked_iff]
  cases step with
  | act here act =>
    cases act with
    | take lies => simp [lies]
    | miss none => simp [none]

theorem search_iff {found : Bool} (step : Step s (.act k (.search found)) t) :
    found = true ↔ ∃ w, s.Holds (.stored w) := by
  simp only [State.holds_stored_iff]
  cases step with
  | act here act =>
    cases act with
    | @find w there ended => exact iff_of_true rfl ⟨w, there, ended⟩
    | fail none =>
      refine iff_of_false nofun ?_
      rintro ⟨w, there, ended⟩
      exact absurd ended (Bool.eq_false_iff.1 (none w there))

/-- What a start does that fails, it does to the flag and to itself. -/
theorem eq_of_fails (step : Step s (.act k move) t)
    (fails : move ∈ [.raise, .look false, .search false, .refuse]) :
    (∃ c, t = { s with running := t.running, calls := s.calls.set k c }) ∧
      (move = .refuse → t.running = false) := by
  cases step with
  | act here act =>
    cases act with
    | raise off => exact ⟨⟨_, rfl⟩, nofun⟩
    | miss none => exact ⟨⟨_, rfl⟩, nofun⟩
    | fail none => exact ⟨⟨_, rfl⟩, nofun⟩
    | refuse => exact ⟨⟨_, rfl⟩, fun _ ↦ rfl⟩
    | _ => simp at fails

/-- A look at one place that is followed by the look at the other is one look at both. -/
theorem search_iff_of_look {found : Bool} (look : Step s (.act k (.look false)) t)
    (search : Step t (.act k (.search found)) u) : found = true ↔ s.Offers := by
  obtain ⟨c, same⟩ := (eq_of_fails look (by simp)).1
  have unready : ¬ s.Holds .parked := fun lies ↦ nomatch (look_iff look).2 lies
  rw [search_iff search, State.Offers, or_iff_right unready]
  simp only [State.holds_stored_iff]
  rw [same]
  rfl

/-- After a look that did not find it the receiving end does not lie ready. -/
theorem State.Owned.unready (owned : t.Owned o) (step : Step s (.act k (.look false)) t) :
    o ≠ .parked := by
  rintro rfl
  have lies := owned.parked.2 rfl
  cases step with
  | act here act =>
    cases act with
    | miss none => exact absurd lies (Bool.eq_false_iff.1 none)

theorem State.Begins.collects (begins : s.Begins) : s.Collects := by
  intro k w here
  rw [begins.calls] at here
  cases here

theorem State.Begins.starts {error : Option LoopError} (begins : s.Begins) (run : Run s es t)
    (here : t.calls[k]? = some (.started error)) (raised : .raise ∈ moves k es) :
    (error = some .stillRunning ∧ moves k es = [.raise, .look false, .search false, .refuse]) ∨
      (error = none ∧ Finds (moves k es)) := by
  have tells : s.Tells k [] := by
    rw [State.Tells, begins.calls]
    rfl
  have story := tells.run run
  rw [State.Tells, here, List.nil_append] at story
  cases error with
  | none =>
    refine .inr ⟨rfl, story.resolve_left fun ignored ↦ ?_⟩
    rw [ignored] at raised
    simp at raised
  | some error => exact .inl ⟨congrArg some story.1, story.2⟩

theorem State.Begins.missing {before between after : List Event} (begins : s.Begins)
    (run : Run s
      (before ++ .act k (.look false) :: (between ++ .act k (.search false) :: after)) t) :
    ∃ first second u, between = first ++ second ∧
      Run s (before ++ .act k (.look false) :: first) u ∧
      Run u (second ++ .act k (.search false) :: after) t ∧ ¬ u.Offers := by
  obtain ⟨a, toLook, run⟩ := run.split
  cases run with
  | @cons _ b _ _ _ look run =>
    obtain ⟨c, within_, run⟩ := run.split
    cases run with
    | cons search rest =>
      obtain ⟨o, owned⟩ := begins.owned.run (toLook.append (.single look))
      have missed (w : Nat) : ¬ c.Holds (.stored w) := fun there ↦
        nomatch (search_iff search).2 ⟨w, there⟩
      obtain ⟨first, second, u, rfl, toU, fromU, missing⟩ :=
        owned.exists_not_offers (owned.unready look) within_ missed
      exact ⟨first, second, u, rfl, toLook.append (.cons look toU),
        fromU.append (.cons search rest), missing⟩

/-- However calls that start and stop workers come between one another, the receiving end is at
exactly one place. -/
theorem orderly_of_run (begins : s.Begins) (run : Run s es t) : Orderly s es t := by
  obtain ⟨o, owned⟩ := begins.owned.run run
  refine ⟨owned.existsUnique_place, ?_, owned.opened, begins.owned.items_run run, ?_,
    (begins.collects.run run).exists_step, look_iff, search_iff, begins.starts run, ?_, ?_,
    eq_of_fails⟩
  · intro v w first second
    exact Option.some.inj ((owned.live first).symm.trans (owned.live second))
  · intro k move u step
    cases step with
    | act here act =>
      have same := owned.desk_act here act
      exact same
  · exact search_iff_of_look
  · rintro k before between after rfl
    exact begins.missing run

end

/-! ### A worker that is late -/

namespace Late

def low : ComponentId := ⟨List.replicate 16 7, List.length_replicate⟩

def high : ComponentId := ⟨List.replicate 16 8, List.length_replicate⟩

/-- There is room for two wake-ups, and nothing has begun. -/
def start : State where
  desk := ⟨.empty, ⟨[], 2, false, Nat.two_pos, Nat.zero_le 2⟩, []⟩
  told := 0
  running := false
  parked := true
  stored := none
  workers := []
  calls := []

theorem begins_start : start.Begins := ⟨rfl, rfl, rfl, rfl, rfl⟩

/-- A worker is stopped during a pass and misses the deadline, and a start in the meantime fails.  A
wake-up comes, the pass ends, the worker notices, and another start takes the queue back. -/
def events : List Event :=
  [.start, .act 0 .raise, .act 0 (.look true), .act 0 .clear, .act 0 .listen, .act 0 .spawn,
    .act 0 .hand, .mark low, .wake low true, .work 0 (.receive low), .work 0 (.note low),
    .work 0 .close, .work 0 (.begin 0), .stop, .act 1 .lower, .act 1 (.seize true), .act 1 .tell,
    .start, .act 2 .raise, .act 2 (.look false), .act 2 (.search false), .act 2 .refuse,
    .act 1 .expire, .act 1 .restore, .mark high, .wake high true, .work 0 (.succeed 0),
    .work 0 .quit, .start, .act 3 .raise, .act 3 (.look false), .act 3 (.search true),
    .act 3 .collect, .act 3 .clear, .act 3 .listen, .act 3 .spawn, .act 3 .hand,
    .work 1 (.receive high)]

theorem run_events : ∃ t, Run start events t ∧
    t.calls[2]? = some (.started (some .stillRunning)) ∧ t.calls[3]? = some (.started none) := by
  refine Run.exists_cons .start ?_
  refine Run.exists_cons (.act rfl (.raise rfl)) ?_
  refine Run.exists_cons (.act rfl (.take rfl)) ?_
  refine Run.exists_cons (.act rfl .clear) ?_
  refine Run.exists_cons (.act rfl .listen) ?_
  refine Run.exists_cons (.act rfl .spawn) ?_
  refine Run.exists_cons (.act rfl .hand) ?_
  refine Run.exists_cons (.mark rfl) ?_
  refine Run.exists_cons (.wake rfl) ?_
  refine Run.exists_cons (.work rfl (.receive (.inl rfl) rfl)) ?_
  refine Run.exists_cons (.work rfl (.note rfl rfl)) ?_
  refine Run.exists_cons (.work rfl (.close rfl)) ?_
  refine Run.exists_cons (.work rfl (.begin rfl rfl)) ?_
  refine Run.exists_cons .stop ?_
  refine Run.exists_cons (.act rfl .lower) ?_
  refine Run.exists_cons (.act rfl (.seize rfl)) ?_
  refine Run.exists_cons (.act rfl .tell) ?_
  refine Run.exists_cons .start ?_
  refine Run.exists_cons (.act rfl (.raise rfl)) ?_
  refine Run.exists_cons (.act rfl (.miss rfl)) ?_
  refine Run.exists_cons (.act rfl (.fail nofun)) ?_
  refine Run.exists_cons (.act rfl .refuse) ?_
  refine Run.exists_cons (.act rfl .expire) ?_
  refine Run.exists_cons (.act rfl .restore) ?_
  refine Run.exists_cons (.mark rfl) ?_
  refine Run.exists_cons (.wake rfl) ?_
  refine Run.exists_cons (.work rfl (.succeed rfl)) ?_
  refine Run.exists_cons (.work rfl (.quit (.inl rfl) rfl)) ?_
  refine Run.exists_cons .start ?_
  refine Run.exists_cons (.act rfl (.raise rfl)) ?_
  refine Run.exists_cons (.act rfl (.miss rfl)) ?_
  refine Run.exists_cons (.act rfl (.find rfl rfl)) ?_
  refine Run.exists_cons (.act rfl (.collect rfl)) ?_
  refine Run.exists_cons (.act rfl .clear) ?_
  refine Run.exists_cons (.act rfl .listen) ?_
  refine Run.exists_cons (.act rfl .spawn) ?_
  refine Run.exists_cons (.act rfl .hand) ?_
  refine Run.exists_cons (.work rfl (.receive (.inl rfl) rfl)) ?_
  exact ⟨_, .nil _, rfl, rfl⟩

/-- The receiving end is never lost on the way. -/
theorem orderly_events : start.Begins ∧ ∃ t, Run start events t ∧
    t.calls[2]? = some (.started (some .stillRunning)) ∧ t.calls[3]? = some (.started none) ∧
    Orderly start events t := by
  obtain ⟨t, run, failed, reclaimed⟩ := run_events
  exact ⟨begins_start, t, run, failed, reclaimed, orderly_of_run begins_start run⟩

end Late

end Cascade.Worker.Custody
