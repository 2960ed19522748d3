import Cascade.Store.Table

/-!
# How a pass reaches a store

A pass reads signals, states and open incidents, and writes a transition and then states.  It does
not know what kind of store it talks to.
-/

namespace Cascade.Store

/-- What a pass does with a store `σ`. -/
structure Access (σ : Type) where
  /-- The signals of a component, by their dates. -/
  find : ComponentId → σ → Except StoreError (List Signal)
  loadStates : σ → Except StoreError StateMap
  loadActive : σ → Except StoreError ActiveIncidents
  /-- Puts states over those that are kept. -/
  saveStates : StateMap → σ → Except StoreError σ
  saveTransition : Transition → σ → Except StoreError σ

def Memory.access : Access Memory where
  find id m := .ok (m.log.find id)
  loadStates m := .ok m.states
  loadActive m := .ok m.book.active
  saveStates := Memory.saveStates
  saveTransition := Memory.saveTransition

def Tables.access : Access Tables where
  find := Tables.find
  loadStates := Tables.loadStates
  loadActive := Tables.loadActive
  saveStates states t := .ok (t.saveStates states)
  saveTransition := Tables.saveTransition

end Cascade.Store
