import Cascade.Graph.Closure
import Cascade.Graph.Order

/-!
# Dependency graphs

A graph is built from declared components and from dependencies between them, and is refused if a
dependency names an undeclared component or if dependencies form a cycle.  It keeps the components
in an order in which everything stands after what it needs.
-/

namespace Cascade

inductive GraphError where
  | unknownUpstream (id : ComponentId)
  | unknownDownstream (id : ComponentId)
  /-- This many components lie on a cycle or beyond one. -/
  | cycle (unresolved : Nat)
deriving DecidableEq, Repr

/-- What is said of components and dependencies that make no graph. -/
def GraphError.message : GraphError → String
  | unknownUpstream id => s!"Unknown upstream component: {id.toText}"
  | unknownDownstream id => s!"Unknown downstream component: {id.toText}"
  | cycle n => s!"Dependency graph contains a cycle ({n} components unresolved)"

structure Graph where
  nodes : IdSet
  /-- For each component those that need it. -/
  downstream : Adjacency
  /-- For each component those that it needs. -/
  upstream : Adjacency
  /-- The components, each after those that it needs. -/
  order : List ComponentId
deriving Inhabited

namespace Graph

/-- The first fault of an edge, its upstream end looked at first. -/
def faultOf (nodes : IdSet) (e : Edge) : Option GraphError :=
  if e.upstream ∈ nodes then
    if e.downstream ∈ nodes then none else some (.unknownDownstream e.downstream)
  else some (.unknownUpstream e.upstream)

/-- The graph of components and dependencies.  Undeclared components are looked for edge by edge in
id order, before cycles. -/
def build (components : List ComponentId) (edges : List Edge) : Except GraphError Graph :=
  let nodes := IdMap.setOf components
  let downstream := Adjacency.ofEdges edges
  let upstream := Adjacency.ofEdges (edges.map Edge.flip)
  match downstream.edges.findSome? (faultOf nodes) with
  | some e => .error e
  | none =>
    let order := Placing.order nodes downstream upstream
    if order.length = nodes.size then .ok ⟨nodes, downstream, upstream, order⟩
    else .error (.cycle (nodes.size - order.length))

def empty : Graph := ⟨∅, ∅, ∅, []⟩

instance : Membership ComponentId Graph := ⟨fun g id ↦ id ∈ g.nodes⟩

instance (g : Graph) (id : ComponentId) : Decidable (id ∈ g) :=
  inferInstanceAs (Decidable (id ∈ g.nodes))

def components (g : Graph) : List ComponentId := g.nodes.keys

def upstreamOf (g : Graph) (id : ComponentId) : List ComponentId := g.upstream.next id

def downstreamOf (g : Graph) (id : ComponentId) : List ComponentId := g.downstream.next id

/-- Everything that a component needs, nearest first. -/
def allUpstream (g : Graph) (id : ComponentId) : List ComponentId := g.upstream.reachable id

/-- Everything that needs a component, nearest first. -/
def allDownstream (g : Graph) (id : ComponentId) : List ComponentId := g.downstream.reachable id

/-- There is a way of one or more dependencies down from a component to another. -/
def Reaches (g : Graph) : ComponentId → ComponentId → Prop := g.downstream.Reaches

end Graph

end Cascade
