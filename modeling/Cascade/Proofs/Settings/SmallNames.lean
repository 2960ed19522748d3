import Cascade.Proofs.NameMap
import Cascade.Proofs.Settings.Resolution
import Cascade.Proofs.Text.Case

/-!
# The names of limits in small letters

Limits are looked up twice: the name of every entry must be that of a component, blanks around it
aside, and every component takes the entry under its own name, or else one under a name that differs
from it in the case of letters only.  Where no two components differ in the case of letters only,
the first look-up leaves nothing for the second way of the other to find
(`Resolves.mem_names_limits`).

So accepted settings are accepted with the names of their limits in small letters exactly if the
names of all components are written in small letters (`resolve_smallNames_iff`).  Nothing changes
then, and otherwise some entry is refused as that of an unknown component.
-/

namespace Cascade

namespace Settings

/-- No two components differ in the case of letters only, blanks around their names aside. -/
def DistinctLetters (s : Settings) : Prop :=
  (s.components.map fun name ↦ Text.lower (Text.trim name)).Nodup

def smallNames (s : Settings) : Settings := { s with limits := s.limits.renamed Text.lower }

theorem of_declare {seen declared names : List String} (h : declare seen declared = .ok names) :
    names = declared.map Text.trim := by
  induction declared generalizing seen names with
  | nil =>
    cases h
    rfl
  | cons first rest ih =>
    rw [declare] at h
    split at h
    · cases h
    · split at h
      · cases h
      · obtain ⟨names, tail, eq⟩ := bind_eq_ok_iff.1 h
        cases eq
        rw [List.map_cons, ih tail]

/-- A name is found if it is a component's, blanks around it aside, and refused otherwise. -/
theorem lookUp_eq {roster : Ingestion.Roster} {mention : Mention} (name : String) :
    lookUp roster mention name =
      if Text.trim name ∈ roster then .ok (ComponentId.ofName (Text.trim name))
      else .error (.unknownComponent mention name) := by
  unfold lookUp Ingestion.Roster.idOf?
  split_ifs <;> rfl

theorem trim_mem_of_lookUp {roster : Ingestion.Roster} {mention : Mention} {name : String}
    {id : ComponentId} (found : lookUp roster mention name = .ok id) : Text.trim name ∈ roster := by
  rw [lookUp_eq] at found
  split_ifs at found with mem
  exact mem

end Settings

namespace Topology

open Settings

variable {s : Settings} {t : Topology} {p : Spans} {name key : String}

namespace Resolves

/-- The names of components have no blanks around them. -/
theorem trim_of_mem (h : Resolves s p t) (declared : name ∈ t.roster) : Text.trim name = name := by
  rw [of_declare h.roster] at declared
  obtain ⟨written, -, rfl⟩ := List.mem_map.1 declared
  exact Text.trim_trim written

/-- Components that differ in the case of letters only are the same. -/
theorem eq_of_lower_eq (h : Resolves s p t) (distinct : s.DistinctLetters) {name' : String}
    (declared : name ∈ t.roster) (declared' : name' ∈ t.roster)
    (same : Text.lower name = Text.lower name') : name = name' := by
  have nodup : (t.roster.map Text.lower).Nodup := by
    rw [of_declare h.roster, List.map_map]
    exact distinct
  exact List.inj_on_of_nodup_map nodup declared declared' same

/-- The name of every entry is a component's, blanks around it aside. -/
theorem trim_mem_roster (h : Resolves s p t) (listed : key ∈ s.limits.names) :
    Text.trim key ∈ t.roster := by
  obtain ⟨ids, found⟩ := h.limits
  obtain ⟨id, -, found⟩ := exists_related (mapM_eq_ok_iff.1 found) listed
  exact trim_mem_of_lookUp found

/-- Every component has an entry under its own name, so none is found in other letters. -/
theorem mem_names_limits (h : Resolves s p t) (distinct : s.DistinctLetters)
    (declared : name ∈ t.roster) : name ∈ s.limits.names := by
  obtain ⟨own, found, -⟩ := h.thresholds
  obtain ⟨_, -, made⟩ := exists_related (mapM_eq_ok_iff.1 found) declared
  obtain ⟨th, made, -⟩ := exists_of_map_eq_ok made
  cases exact : s.limits.get? name with
  | some l => exact NameMap.mem_names.2 ⟨l, exact⟩
  | none =>
    rw [thresholdOf, limitsOf, exact, Option.none_or] at made
    cases similar : s.limits.entries.find? (fun e ↦ Text.sameLetters e.1 name) with
    | none =>
      rw [similar] at made
      cases made
    | some e =>
      -- the entry would be under the name of the component after all
      have found : Text.sameLetters e.1 name = true :=
        List.find?_some (p := fun e : String × Limits ↦ Text.sameLetters e.1 name) similar
      have letters := Text.sameLetters_iff.1 found
      have listed : e.1 ∈ s.limits.names :=
        List.mem_map.2 ⟨e, List.mem_of_find?_eq_some similar, rfl⟩
      have trimmed := Text.trim_eq_self_of_lower_eq letters (h.trim_of_mem declared)
      have known := h.trim_mem_roster listed
      rw [trimmed] at known
      rw [← h.eq_of_lower_eq distinct known declared letters]
      exact listed

end Resolves

/-- Where all components have names in small letters, the names of the entries are in small letters
too. -/
theorem Resolves.smallNames_eq_self (h : Resolves s p t)
    (small : ∀ name ∈ t.roster, Text.lower name = name) : s.smallNames = s := by
  have keys : ∀ key ∈ s.limits.names, Text.lower key = key := fun key listed ↦
    Text.lower_eq_self_of_trim (small _ (h.trim_mem_roster listed))
  rw [Settings.smallNames, NameMap.renamed_eq_self keys]

/-- Where the small names of all entries are those of components, all components have names in small
letters. -/
theorem Resolves.lower_eq_self (h : Resolves s p t) (distinct : s.DistinctLetters)
    (found : ∀ key ∈ s.smallNames.limits.names, Text.trim key ∈ t.roster)
    (declared : name ∈ t.roster) : Text.lower name = name := by
  have listed : Text.lower name ∈ s.smallNames.limits.names :=
    NameMap.mem_names_renamed.2 ⟨name, h.mem_names_limits distinct declared, rfl⟩
  have known := found _ listed
  rw [Text.trim_lower, h.trim_of_mem declared] at known
  exact h.eq_of_lower_eq distinct known declared (Text.lower_lower name)

/-- A small name of an entry that is no component's is refused. -/
theorem Resolves.refuses_smallNames (h : Resolves s p t) {e : SettingsError}
    (refused : s.smallNames.limits.names.mapM (lookUp t.roster .limits) = .error e) :
    resolve s.smallNames = .error e := by
  have spans : s.smallNames.evaluation.resolve = .ok p := h.spans
  have roster : declare [] s.smallNames.components = .ok t.roster := h.roster
  have edges : s.smallNames.dependencies.mapM (resolveDependency t.roster) = .ok t.edges := h.edges
  rw [resolve, spans]
  show (declare [] s.smallNames.components >>= _) = _
  rw [roster]
  show (s.smallNames.dependencies.mapM (resolveDependency t.roster) >>= _) = _
  rw [edges]
  show (s.smallNames.limits.names.mapM (lookUp t.roster .limits) >>= _) = _
  rw [refused]
  rfl

/-- Settings that are accepted come to the same with the names of their limits in small letters
exactly if all components have names in small letters.  Otherwise the small name of some entry is
refused as that of an unknown component. -/
theorem resolve_smallNames_iff (distinct : s.DistinctLetters) (accepted : resolve s = .ok t) :
    (resolve s.smallNames = .ok t ↔ ∀ name ∈ t.roster, Text.lower name = name) ∧
    (resolve s.smallNames = .ok t ∨ ∃ key ∈ s.limits.names, Text.lower key ≠ key ∧
      resolve s.smallNames = .error (.unknownComponent .limits (Text.lower key))) := by
  obtain ⟨p, resolves⟩ := resolve_eq_ok_iff.1 accepted
  have same : (∀ name ∈ t.roster, Text.lower name = name) → resolve s.smallNames = .ok t := by
    intro small
    rw [resolves.smallNames_eq_self small, accepted]
  refine ⟨⟨?_, same⟩, ?_⟩
  · intro still name declared
    obtain ⟨p', resolves'⟩ := resolve_eq_ok_iff.1 still
    exact resolves.lower_eq_self distinct (fun key listed ↦ resolves'.trim_mem_roster listed)
      declared
  · cases looked : s.smallNames.limits.names.mapM (lookUp t.roster .limits) with
    | ok ids =>
      refine .inl (same fun name declared ↦ resolves.lower_eq_self distinct ?_ declared)
      intro key listed
      obtain ⟨id, -, found⟩ := exists_related (mapM_eq_ok_iff.1 looked) listed
      exact trim_mem_of_lookUp found
    | error e =>
      obtain ⟨small, listed, refused⟩ := exists_of_mapM_eq_error looked
      obtain ⟨key, own, rfl⟩ := NameMap.mem_names_renamed.1 listed
      rw [lookUp_eq] at refused
      split_ifs at refused with known
      cases refused
      refine .inr ⟨key, own, ?_, resolves.refuses_smallNames looked⟩
      intro eq
      rw [eq] at known
      exact known (resolves.trim_mem_roster own)

/-- Settings with a component whose name is in capital letters, in the limits too. -/
def capital : Settings := { Settings.standard with
  components := ["DB"]
  limits := .ofList [("DB", ⟨1, 2⟩)] }

/-- They are accepted, and with the names of the limits in small letters they are refused. -/
theorem smallNames_capital_refused : ∃ t, resolve capital = .ok t ∧
    resolve capital.smallNames = .error (.unknownComponent .limits "db") := by
  have accepted : (resolve capital).toOption.isSome = true := by decide +kernel
  have distinct : capital.DistinctLetters := List.nodup_singleton _
  have names : capital.limits.names = ["DB"] := by decide +kernel
  have small : Text.lower "DB" = "db" := by decide +kernel
  cases resolved : resolve capital with
  | error e =>
    rw [resolved] at accepted
    cases accepted
  | ok t =>
    refine ⟨t, rfl, ?_⟩
    obtain ⟨same, came⟩ := resolve_smallNames_iff distinct resolved
    rcases came with still | ⟨key, listed, -, refused⟩
    · obtain ⟨p, resolves⟩ := resolve_eq_ok_iff.1 resolved
      have roster : declare [] capital.components = .ok ["DB"] := by decide +kernel
      have declared : "DB" ∈ t.roster := by
        rw [← Except.ok.inj (roster.symm.trans resolves.roster)]
        exact List.mem_singleton_self _
      exact absurd (small.symm.trans (same.1 still "DB" declared)) (by decide)
    · rw [names, List.mem_singleton] at listed
      rw [refused, listed, small]

end Topology

end Cascade
