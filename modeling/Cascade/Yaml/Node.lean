import Cascade.Yaml.V11
import Cascade.Yaml.V12

/-!
# Nodes

A document is a node: a scalar, a sequence, or a mapping.  What a scalar means is left to the
reader of the document, so it keeps its text and whether it stood between quotes.  A mapping keeps
its entries as they are written, also those that repeat a key.
-/

namespace Cascade.Yaml

inductive Node where
  /-- A scalar, and whether it is written without quotes. -/
  | scalar (text : String) (plain : Bool)
  | seq (items : List Node)
  | map (entries : List (Node × Node))
deriving Repr, Inhabited

namespace Node

/-- What stands where nothing is written. -/
def absent : Node := .scalar "" true

def isAbsent : Node → Bool
  | .scalar text plain => text.isEmpty && plain
  | _ => false

/-- The tokens that come after a key in a flow sequence for which nothing is written. -/
def afterKey : List Token := [.value, .comma, .closeSeq]

variable (bare : Bool)

mutual

/-- Reads a node; the flag says whether a block collection may stand here.  The first argument
bounds how deep and how long it may be.  Throughout, a value may or may not go without a key
before it. -/
def read : Nat → Bool → List Token → Option (Node × List Token)
  | 0, _, _ => none
  | n + 1, block, ts =>
    match ts with
    | .scalar text plain :: rest => some (.scalar text plain, rest)
    | .openSeq :: .closeSeq :: rest => some (.seq [], rest)
    | .openSeq :: rest => (readFlowItems n rest).map fun r ↦ (.seq r.1, r.2)
    | .openMap :: .closeMap :: rest => some (.map [], rest)
    | .openMap :: rest => (readFlowEntries n rest).map fun r ↦ (.map r.1, r.2)
    | .seqStart :: rest =>
      if block then (readItems n rest).map fun r ↦ (.seq r.1, r.2) else none
    | .mapStart :: rest =>
      if block then (readEntries n rest).map fun r ↦ (.map r.1, r.2) else none
    | _ => none

def readUnless : Nat → List Token → Bool → List Token → Option (Node × List Token)
  | 0, _, _, _ => none
  | _ + 1, _, _, [] => none
  | n + 1, stops, block, t :: rest =>
    if stops.contains t then some (absent, t :: rest) else read n block (t :: rest)

def readItems : Nat → List Token → Option (List Node × List Token)
  | 0, _ => none
  | n + 1, ts =>
    match ts with
    | .blockEnd :: rest => some ([], rest)
    | .item :: rest =>
      match readUnless n [.item, .blockEnd] true rest with
      | none => none
      | some (x, rest) => (readItems n rest).map fun r ↦ (x :: r.1, r.2)
    | _ => none

/-- Reads the items of a sequence that stands at the column of the mapping around it. -/
def readLevelItems : Nat → List Token → Option (List Node × List Token)
  | 0, _ => none
  | n + 1, ts =>
    match ts with
    | .item :: rest =>
      match readUnless n [.item, .key, .value, .blockEnd] true rest with
      | none => none
      | some (x, rest) => (readLevelItems n rest).map fun r ↦ (x :: r.1, r.2)
    | _ => some ([], ts)

def readPart : Nat → List Token → Option (Node × List Token)
  | 0, _ => none
  | n + 1, ts =>
    match ts with
    | .item :: _ => (readLevelItems n ts).map fun r ↦ (.seq r.1, r.2)
    | _ => readUnless n [.key, .value, .blockEnd] true ts

def readValue : Nat → List Token → Option (Node × List Token)
  | 0, _ => none
  | n + 1, ts =>
    match ts with
    | .value :: rest => readPart n rest
    | _ => some (absent, ts)

def readEntries : Nat → List Token → Option (List (Node × Node) × List Token)
  | 0, _ => none
  | n + 1, ts =>
    let entry : Option ((Node × Node) × List Token) :=
      match ts with
      | .key :: rest =>
        (readPart n rest).bind fun k ↦ (readValue n k.2).map fun v ↦ ((k.1, v.1), v.2)
      | .value :: _ => if bare then (readValue n ts).map fun v ↦ ((absent, v.1), v.2) else none
      | _ => none
    match ts with
    | .blockEnd :: rest => some ([], rest)
    | _ => entry.bind fun e ↦ (readEntries n e.2).map fun r ↦ (e.1 :: r.1, r.2)

/-- Reads the value after a key in flow context, if there is one. -/
def readFlowValue : Nat → Token → List Token → Option (Node × List Token)
  | 0, _, _ => none
  | n + 1, close, ts =>
    match ts with
    | .value :: rest => readUnless n [.comma, close] false rest
    | _ => some (absent, ts)

/-- Reads an item in flow context.  A key and its value are a mapping of their own.  Where nothing
stands after the mark of a key, the token that comes next goes with the mark. -/
def readFlowItem : Nat → List Token → Option (Node × List Token)
  | 0, _ => none
  | n + 1, ts =>
    match ts with
    | .key :: t :: rest =>
      let key := if afterKey.contains t then some (absent, rest) else read n false (t :: rest)
      key.bind fun k ↦ (readFlowValue n .closeSeq k.2).map fun v ↦ (.map [(k.1, v.1)], v.2)
    | _ => read n false ts

def readFlowItems : Nat → List Token → Option (List Node × List Token)
  | 0, _ => none
  | n + 1, ts =>
    match readFlowItem n ts with
    | some (x, .closeSeq :: rest) => some ([x], rest)
    | some (x, .comma :: .closeSeq :: rest) => some ([x], rest)
    | some (x, .comma :: rest) => (readFlowItems n rest).map fun r ↦ (x :: r.1, r.2)
    | _ => none

/-- Reads an entry in flow context.  What is no key of a value is one without a value. -/
def readFlowEntry : Nat → List Token → Option ((Node × Node) × List Token)
  | 0, _ => none
  | n + 1, ts =>
    match ts with
    | .key :: rest =>
      (readUnless n [.value, .comma, .closeMap] false rest).bind fun k ↦
        (readFlowValue n .closeMap k.2).map fun v ↦ ((k.1, v.1), v.2)
    | .value :: _ =>
      if bare then (readFlowValue n .closeMap ts).map fun v ↦ ((absent, v.1), v.2) else none
    | _ => (read n false ts).map fun r ↦ ((r.1, absent), r.2)

def readFlowEntries : Nat → List Token → Option (List (Node × Node) × List Token)
  | 0, _ => none
  | n + 1, ts =>
    match readFlowEntry n ts with
    | some (e, .closeMap :: rest) => some ([e], rest)
    | some (e, .comma :: .closeMap :: rest) => some ([e], rest)
    | some (e, .comma :: rest) => (readFlowEntries n rest).map fun r ↦ (e :: r.1, r.2)
    | _ => none

end

/-- Whether nothing but the end of a document follows. -/
def endsThere (ts : List Token) : Bool := ts.all (· = .documentEnd)

/-- The node of a document that begins here.  Every step of the reader takes a token or goes one
level down, so six times the number of tokens is more than it needs. -/
def ofDocument? (ts : List Token) : Option Node :=
  match read bare (6 * ts.length + 6) true ts with
  | some (x, rest) => if endsThere rest then some x else none
  | none => none

/-- The node of a document's tokens; none if there is no document. -/
def ofTokens? (ts : List Token) : Option (Option Node) :=
  match ts with
  | [] => some none
  | .documentStart :: rest =>
    if endsThere rest then some (some absent) else (ofDocument? bare rest).map some
  | ts => (ofDocument? bare ts).map some

end Node

def Edition.tokens? (e : Edition) (s : String) : Option (List Token) :=
  (e.placed? s).bind fun ps ↦
    match e with
    | v11 => V11.readAll (ps.length + 1) .start ps
    | v12 => V12.readAll (ps.length + 1) .start ps

/-- The node of a text that is at most one document; none if there is no document in it.  In the
second edition a value needs no key, and documents may end before the first one begins. -/
def Edition.node? (e : Edition) (s : String) : Option (Option Node) :=
  (e.tokens? s).bind fun ts ↦
    match e with
    | v11 => Node.ofTokens? false ts
    | v12 => Node.ofTokens? true (ts.dropWhile (· = .documentEnd))

end Cascade.Yaml
