import Cascade.Incident.Basic
import Cascade.Proofs.Except
import Cascade.Proofs.IdMap
import Cascade.Store.Error
import Mathlib.Data.List.Nodup

/-!
# Incidents filed one after another

Every store takes the entries of a transition in their order.  A new incident is filed last, unless
its root has an open one or its id is known, and an end is written over the open incident of its id.
What a store keeps of an incident, and what it refuses, is its way of filing (`Filing`).

Whatever the way, no id is filed twice and none is lost, no two open incidents have one root, and
what is over stays as it is (`Filing.Tidy.save`, `Filing.onward_save`).  A transition that was saved
is saved again without a change exactly if none of its new incidents finds its place free that was
passed over before (`Filing.save_again`, `Filing.stands_of_save_again`).
-/

namespace Cascade

/-- What a store keeps of the incidents that it is given, and what it refuses. -/
structure Filing where
  /-- Refuses new incidents that cannot be kept. -/
  checkNew : Incident → Except StoreError Unit
  /-- What is kept of a new incident. -/
  form : Incident → Incident
  /-- Refuses ends that cannot be kept. -/
  checkEnd : Incident → Except StoreError Unit
  /-- What an end makes of the incident that is kept. -/
  ended : (kept final : Incident) → Incident
  id_form : ∀ i, (form i).id = i.id
  root_form : ∀ i, (form i).root = i.root
  /-- An end is written under the id that it has. -/
  id_ended : ∀ {k i}, k.id = i.id → (ended k i).id = k.id
  /-- It is kept whether the incident is over. -/
  status_ended : ∀ k i, (ended k i).status = i.status
  /-- Of two ends only the later can be seen. -/
  ended_ended : ∀ k i j, ended (ended k i) j = ended k j

namespace Filing

def hasOpen (l : List Incident) (root : ComponentId) : Bool :=
  l.any fun k ↦ k.isOpen && k.root = root

def knows (l : List Incident) (id : IncidentId) : Bool := l.any (·.id = id)

variable (f : Filing)

/-- Files a new incident, unless its root has an open one or its id is known. -/
def addOpened (l : List Incident) (i : Incident) : Except StoreError (List Incident) :=
  if hasOpen l i.root then .ok l
  else (f.checkNew i).map fun _ ↦ if knows l i.id then l else l ++ [f.form i]

/-- An incident after an end, which is written over it if it is open and has its id. -/
def overwrite (k i : Incident) : Incident :=
  if k.id = i.id ∧ k.isOpen = true then f.ended k i else k

/-- Writes an end over the open incident of its id. -/
def putResolved (l : List Incident) (i : Incident) : Except StoreError (List Incident) :=
  (f.checkEnd i).map fun _ ↦ l.map (f.overwrite · i)

def save (t : Transition) (l : List Incident) : Except StoreError (List Incident) := do
  let l ← t.opened.foldlM f.addOpened l
  t.resolved.foldlM f.putResolved l

variable {f : Filing} {l l' : List Incident} {i k : Incident} {t : Transition}

theorem hasOpen_iff {root : ComponentId} :
    hasOpen l root = true ↔ ∃ k ∈ l, k.isOpen = true ∧ k.root = root := by
  simp [hasOpen]

theorem knows_iff {id : IncidentId} : knows l id = true ↔ ∃ k ∈ l, k.id = id := by
  simp [knows]

theorem isOpen_ended : (f.ended k i).isOpen = i.isOpen := by
  rw [Incident.isOpen, f.status_ended, Incident.isOpen]

theorem id_overwrite : (f.overwrite k i).id = k.id := by
  rw [overwrite]
  split
  · rename_i own
    exact f.id_ended own.1
  · rfl

theorem overwrite_of_over (closed : k.isOpen = false) : f.overwrite k i = k := by
  simp [overwrite, closed]

/-! ### What one entry does -/

/-- What a new incident may do to those that are filed. -/
theorem addOpened_cases (h : f.addOpened l i = .ok l') :
    (l' = l ∧ hasOpen l i.root = true) ∨
    (l' = l ∧ f.checkNew i = .ok () ∧ knows l i.id = true) ∨
    (l' = l ++ [f.form i] ∧ hasOpen l i.root = false ∧ knows l i.id = false) := by
  rw [addOpened] at h
  split at h
  · rename_i some_
    exact .inl ⟨(Except.ok.inj h).symm, some_⟩
  · rename_i none
    obtain ⟨⟨⟩, checked, rfl⟩ := exists_of_map_eq_ok h
    rw [Bool.not_eq_true] at none
    cases known : knows l i.id with
    | true => exact .inr (.inl ⟨rfl, checked, rfl⟩)
    | false => exact .inr (.inr ⟨rfl, none, rfl⟩)

theorem of_putResolved (h : f.putResolved l i = .ok l') :
    f.checkEnd i = .ok () ∧ l' = l.map (f.overwrite · i) := by
  obtain ⟨⟨⟩, checked, rfl⟩ := exists_of_map_eq_ok h
  exact ⟨checked, rfl⟩

/-- No two incidents have one id, and no two open ones have one root. -/
structure Tidy (l : List Incident) : Prop where
  /-- Every id is filed once. -/
  ids : (l.map (·.id)).Nodup
  /-- Open incidents of one root are one. -/
  single : ∀ i ∈ l, ∀ j ∈ l, i.isOpen = true → j.isOpen = true → i.root = j.root → i = j

theorem Tidy.nil : Tidy [] := ⟨List.nodup_nil, fun _ hi ↦ absurd hi List.not_mem_nil⟩

theorem Tidy.perm (tidy : Tidy l) (perm : l.Perm l') : Tidy l' where
  ids := (perm.map (·.id)).nodup_iff.1 tidy.ids
  single i hi j hj := tidy.single i (perm.mem_iff.2 hi) j (perm.mem_iff.2 hj)

/-- The open ones of tidy incidents, in whatever order, by their roots. -/
theorem Tidy.get?_ofList (tidy : Tidy l) {k : List Incident}
    (mem_k : ∀ i, i ∈ k ↔ i ∈ l ∧ i.isOpen = true) {root : ComponentId} :
    (IdMap.ofList (k.map fun i ↦ (i.root, i))).get? root = some i ↔
      i ∈ l ∧ i.isOpen = true ∧ i.root = root := by
  have mem {c i} : (c, i) ∈ k.map (fun i ↦ (i.root, i)) ↔
      i ∈ l ∧ i.isOpen = true ∧ i.root = c := by
    rw [List.mem_map]
    constructor
    · rintro ⟨i, hi, ⟨⟩⟩
      obtain ⟨kept, open_⟩ := (mem_k i).1 hi
      exact ⟨kept, open_, rfl⟩
    · rintro ⟨kept, open_, rfl⟩
      exact ⟨i, (mem_k i).2 ⟨kept, open_⟩, rfl⟩
  rw [IdMap.get?_ofList_iff, mem]
  intro c i j hi hj
  obtain ⟨kepti, openi, rfl⟩ := mem.1 hi
  obtain ⟨keptj, openj, root⟩ := mem.1 hj
  exact tidy.single i kepti j keptj openi openj root.symm

/-- Every incident is still filed, and as it was if it was over. -/
def Onward (l l' : List Incident) : Prop :=
  ∀ i ∈ l, ∃ j ∈ l', j.id = i.id ∧ (i.isOpen = false → j = i)

theorem Onward.refl (l : List Incident) : Onward l l := fun i hi ↦ ⟨i, hi, rfl, fun _ ↦ rfl⟩

theorem Onward.trans {l₁ l₂ l₃ : List Incident} (h : Onward l₁ l₂) (h' : Onward l₂ l₃) :
    Onward l₁ l₃ := by
  intro i hi
  obtain ⟨j, hj, id, same⟩ := h i hi
  obtain ⟨k, hk, id', same'⟩ := h' j hj
  refine ⟨k, hk, id'.trans id, fun closed ↦ ?_⟩
  obtain rfl := same closed
  exact same' closed

theorem Onward.perm {k k' : List Incident} (h : Onward l l') (perm : k.Perm l)
    (perm' : k'.Perm l') : Onward k k' := by
  intro i hi
  obtain ⟨j, hj, same⟩ := h i (perm.mem_iff.1 hi)
  exact ⟨j, perm'.mem_iff.2 hj, same⟩

theorem Tidy.addOpened (tidy : Tidy l) (h : f.addOpened l i = .ok l') : Tidy l' := by
  rcases addOpened_cases h with ⟨rfl, -⟩ | ⟨rfl, -, -⟩ | ⟨rfl, free, new⟩
  · exact tidy
  · exact tidy
  · -- an open incident that was there before has another root
    have apart : ∀ k ∈ l, k.isOpen = true → k.root ≠ (f.form i).root := by
      intro k hk open_ eq
      rw [f.root_form] at eq
      exact Bool.eq_false_iff.1 free (hasOpen_iff.2 ⟨k, hk, open_, eq⟩)
    refine ⟨?_, ?_⟩
    · rw [List.map_append, List.nodup_append]
      refine ⟨tidy.ids, List.nodup_singleton _, ?_⟩
      intro id hid id' hid' eq
      obtain ⟨k, hk, rfl⟩ := List.mem_map.1 hid
      have last : k.id = i.id := (eq.trans (List.mem_singleton.1 hid')).trans (f.id_form i)
      exact Bool.eq_false_iff.1 new (knows_iff.2 ⟨k, hk, last⟩)
    · intro j hj k hk openj openk root
      rcases List.mem_append.1 hj with hj | hj <;> rcases List.mem_append.1 hk with hk | hk
      · exact tidy.single j hj k hk openj openk root
      · rw [List.mem_singleton.1 hk] at root
        exact absurd root (apart j hj openj)
      · rw [List.mem_singleton.1 hj] at root
        exact absurd root.symm (apart k hk openk)
      · rw [List.mem_singleton.1 hj, List.mem_singleton.1 hk]

/-- What is open after an end was open before, as it is. -/
theorem overwrite_of_open (closed : i.isOpen = false) (open_ : (f.overwrite k i).isOpen = true) :
    f.overwrite k i = k := by
  rw [overwrite] at open_ ⊢
  split at open_
  · rw [isOpen_ended, closed] at open_
    cases open_
  · rename_i other
    exact if_neg other

theorem Tidy.putResolved (tidy : Tidy l) (closed : i.isOpen = false)
    (h : f.putResolved l i = .ok l') : Tidy l' := by
  obtain ⟨-, rfl⟩ := of_putResolved h
  refine ⟨?_, ?_⟩
  · have same : (l.map (f.overwrite · i)).map (·.id) = l.map (·.id) := by
      rw [List.map_map]
      exact List.map_congr_left fun k _ ↦ id_overwrite
    rw [same]
    exact tidy.ids
  · intro _ memj _ memk openj openk root
    obtain ⟨j, hj, rfl⟩ := List.mem_map.1 memj
    obtain ⟨k, hk, rfl⟩ := List.mem_map.1 memk
    have samej := overwrite_of_open closed openj
    have samek := overwrite_of_open closed openk
    rw [samej] at openj root ⊢
    rw [samek] at openk root ⊢
    exact tidy.single j hj k hk openj openk root

theorem onward_addOpened (h : f.addOpened l i = .ok l') : Onward l l' := by
  rcases addOpened_cases h with ⟨rfl, -⟩ | ⟨rfl, -, -⟩ | ⟨rfl, -, -⟩
  · exact .refl _
  · exact .refl _
  · exact fun k hk ↦ ⟨k, List.mem_append_left _ hk, rfl, fun _ ↦ rfl⟩

theorem onward_putResolved (h : f.putResolved l i = .ok l') : Onward l l' := by
  obtain ⟨-, rfl⟩ := of_putResolved h
  exact fun k hk ↦ ⟨_, List.mem_map.2 ⟨k, hk, rfl⟩, id_overwrite, overwrite_of_over⟩

/-! ### What a transition does -/

/-- What every entry keeps, a transition keeps. -/
theorem save_induction {P : List Incident → Prop}
    (opened : ∀ i ∈ t.opened, ∀ {l l'}, P l → f.addOpened l i = .ok l' → P l')
    (resolved : ∀ i ∈ t.resolved, ∀ {l l'}, P l → f.putResolved l i = .ok l' → P l')
    (start : P l) (saved : f.save t l = .ok l') : P l' := by
  obtain ⟨mid, began, ended⟩ := bind_eq_ok_iff.1 saved
  exact foldlM_keeps resolved (foldlM_keeps opened start began) ended

theorem Tidy.save (tidy : Tidy l) (closed : ∀ i ∈ t.resolved, i.isOpen = false)
    (saved : f.save t l = .ok l') : Tidy l' :=
  save_induction (fun _ _ {_ _} tidy h ↦ tidy.addOpened h)
    (fun i hi {_ _} tidy h ↦ tidy.putResolved (closed i hi) h) tidy saved

/-- No transition loses an incident, or changes one that is over. -/
theorem onward_save (saved : f.save t l = .ok l') : Onward l l' :=
  save_induction (fun _ _ {_ _} on h ↦ on.trans (onward_addOpened h))
    (fun _ _ {_ _} on h ↦ on.trans (onward_putResolved h)) (.refl l) saved

/-- A transition is refused only for one of its entries. -/
theorem exists_of_save_eq_error {e : StoreError} (refused : f.save t l = .error e) :
    (∃ i ∈ t.opened, f.checkNew i = .error e) ∨ ∃ i ∈ t.resolved, f.checkEnd i = .error e := by
  rcases bind_eq_error_iff.1 refused with began | ⟨mid, -, ended⟩
  · obtain ⟨i, mem, l', refused⟩ := exists_of_foldlM_eq_error began
    rw [addOpened] at refused
    split at refused
    · cases refused
    · exact .inl ⟨i, mem, of_map_eq_error refused⟩
  · obtain ⟨i, mem, l', refused⟩ := exists_of_foldlM_eq_error ended
    exact .inr ⟨i, mem, of_map_eq_error refused⟩

/-! ### The same transition again -/

/-- A new incident leaves everything as it is: its root has an open one, or its id is known and it
could be kept. -/
def Stands (f : Filing) (l : List Incident) (i : Incident) : Prop :=
  hasOpen l i.root = true ∨ (f.checkNew i = .ok () ∧ knows l i.id = true)

theorem addOpened_eq_self_iff : f.addOpened l i = .ok l ↔ f.Stands l i := by
  constructor
  · intro h
    rcases addOpened_cases h with ⟨-, some_⟩ | ⟨-, checked, known⟩ | ⟨longer, -, -⟩
    · exact .inl some_
    · exact .inr ⟨checked, known⟩
    · have length := congrArg List.length longer
      simp at length
  · rintro (some_ | ⟨checked, known⟩)
    · rw [addOpened, if_pos some_]
    · rw [addOpened, checked]
      simp [Except.map, known]

/-- New incidents that leave as many as there were leave everything as it is. -/
theorem stands_of_foldlM {new : List Incident} (h : new.foldlM f.addOpened l = .ok l')
    (length : l'.length ≤ l.length) : ∀ i ∈ new, f.Stands l i := by
  induction new generalizing l with
  | nil => exact fun i hi ↦ absurd hi List.not_mem_nil
  | cons i new ih =>
    rw [List.foldlM_cons] at h
    obtain ⟨mid, first, rest⟩ := bind_eq_ok_iff.1 h
    have grows : ∀ i ∈ new, ∀ {m m'}, mid.length ≤ m.length → f.addOpened m i = .ok m' →
        mid.length ≤ m'.length := by
      intro i _ m m' le h
      rcases addOpened_cases h with ⟨rfl, -⟩ | ⟨rfl, -, -⟩ | ⟨rfl, -, -⟩
      · exact le
      · exact le
      · exact Nat.le_trans le (by simp)
    have total := foldlM_keeps (P := fun m ↦ mid.length ≤ m.length) grows (Nat.le_refl _) rest
    have same : mid = l := by
      rcases addOpened_cases first with ⟨eq, -⟩ | ⟨eq, -, -⟩ | ⟨rfl, -, -⟩
      · exact eq
      · exact eq
      · simp at total
        omega
    subst same
    exact List.forall_mem_cons.2 ⟨addOpened_eq_self_iff.1 first, ih rest length⟩

theorem foldlM_addOpened_of_stands {new : List Incident} (stands : ∀ i ∈ new, f.Stands l i) :
    new.foldlM f.addOpened l = .ok l := by
  induction new with
  | nil => rfl
  | cons i new ih =>
    obtain ⟨first, rest⟩ := List.forall_mem_cons.1 stands
    rw [List.foldlM_cons, addOpened_eq_self_iff.2 first]
    exact ih rest

/-- Ends that can be kept are written over each incident, one after another. -/
theorem foldlM_putResolved {ends : List Incident} :
    ends.foldlM f.putResolved l = .ok l' ↔
      (∀ i ∈ ends, f.checkEnd i = .ok ()) ∧ l' = l.map fun k ↦ ends.foldl f.overwrite k := by
  induction ends generalizing l with
  | nil =>
    constructor
    · intro h
      simp [Except.ok.inj h]
    · rintro ⟨-, rfl⟩
      simp
      rfl
  | cons i ends ih =>
    rw [List.foldlM_cons, bind_eq_ok_iff, List.forall_mem_cons]
    constructor
    · rintro ⟨mid, first, rest⟩
      obtain ⟨checked, rfl⟩ := of_putResolved first
      obtain ⟨all, rfl⟩ := ih.1 rest
      exact ⟨⟨checked, all⟩, by rw [List.map_map]; rfl⟩
    · rintro ⟨⟨checked, all⟩, rfl⟩
      refine ⟨l.map (f.overwrite · i), by rw [putResolved, checked]; rfl, ih.2 ⟨all, ?_⟩⟩
      rw [List.map_map]
      rfl

theorem foldl_overwrite_of_over {ends : List Incident} (closed : k.isOpen = false) :
    ends.foldl f.overwrite k = k := by
  induction ends with
  | nil => rfl
  | cons i ends ih => rw [List.foldl_cons, overwrite_of_over closed, ih]

/-- Ends leave an incident its id, and what a further end makes of it. -/
theorem foldl_overwrite_base (ends : List Incident) (k : Incident) :
    (ends.foldl f.overwrite k).id = k.id ∧
      ∀ j, f.ended (ends.foldl f.overwrite k) j = f.ended k j := by
  induction ends generalizing k with
  | nil => exact ⟨rfl, fun _ ↦ rfl⟩
  | cons i ends ih =>
    obtain ⟨id, base⟩ := ih (f.overwrite k i)
    have first : ∀ j, f.ended (f.overwrite k i) j = f.ended k j := by
      intro j
      rw [overwrite]
      split
      · exact f.ended_ended k i j
      · rfl
    exact ⟨id.trans id_overwrite, fun j ↦ (base j).trans (first j)⟩

/-- Ends that leave one incident open make the same of every other that they could have made of
it, or leave both alone. -/
theorem foldl_overwrite_congr {ends : List Incident} {k' : Incident} (id : k'.id = k.id)
    (base : ∀ j, f.ended k' j = f.ended k j) (open_ : k'.isOpen = true)
    (result : (ends.foldl f.overwrite k).isOpen = true) :
    ends.foldl f.overwrite k' = ends.foldl f.overwrite k ∨
      (ends.foldl f.overwrite k' = k' ∧ ends.foldl f.overwrite k = k) := by
  have openk : k.isOpen = true := by
    by_contra closed
    rw [Bool.not_eq_true] at closed
    rw [foldl_overwrite_of_over closed, closed] at result
    cases result
  induction ends with
  | nil => exact .inr ⟨rfl, rfl⟩
  | cons i ends ih =>
    simp only [List.foldl_cons] at result ⊢
    by_cases own : k.id = i.id
    · have first : f.overwrite k i = f.ended k i := if_pos ⟨own, openk⟩
      have second : f.overwrite k' i = f.ended k' i := if_pos ⟨id.trans own, open_⟩
      rw [first, second, base i]
      exact .inl rfl
    · have first : f.overwrite k i = k := if_neg fun h ↦ own h.1
      have second : f.overwrite k' i = k' := if_neg fun h ↦ own (id.symm.trans h.1)
      rw [first] at result
      rw [first, second]
      exact ih result

/-- The same ends again change nothing. -/
theorem foldl_overwrite_again (ends : List Incident) (k : Incident) :
    ends.foldl f.overwrite (ends.foldl f.overwrite k) = ends.foldl f.overwrite k := by
  cases result : (ends.foldl f.overwrite k).isOpen with
  | false => exact foldl_overwrite_of_over result
  | true =>
    obtain ⟨id, base⟩ := foldl_overwrite_base (f := f) ends k
    rcases foldl_overwrite_congr id base result result with same | ⟨same, -⟩
    · exact same
    · exact same

/-- A transition is saved again without a change if each of its new incidents leaves everything as
it is. -/
theorem save_again (saved : f.save t l = .ok l') (stands : ∀ i ∈ t.opened, f.Stands l' i) :
    f.save t l' = .ok l' := by
  obtain ⟨mid, -, ended⟩ := bind_eq_ok_iff.1 saved
  obtain ⟨checked, rfl⟩ := foldlM_putResolved.1 ended
  refine bind_eq_ok_iff.2 ⟨_, foldlM_addOpened_of_stands stands,
    foldlM_putResolved.2 ⟨checked, ?_⟩⟩
  rw [List.map_map]
  exact List.map_congr_left fun k _ ↦ (foldl_overwrite_again t.resolved k).symm

/-- A transition that leaves as many incidents as there were left everything as it was with each of
its new ones. -/
theorem stands_of_save_again (saved : f.save t l = .ok l') (length : l'.length = l.length) :
    ∀ i ∈ t.opened, f.Stands l i := by
  obtain ⟨mid, began, ended⟩ := bind_eq_ok_iff.1 saved
  obtain ⟨-, rfl⟩ := foldlM_putResolved.1 ended
  rw [List.length_map] at length
  exact stands_of_foldlM began (Nat.le_of_eq length)

end Filing

end Cascade
