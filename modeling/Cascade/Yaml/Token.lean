/-!
# Tokens

The tokens of a document are what is written in it and, between them, marks that say what the
indentation means: where block collections begin and end and where a key begins.
-/

namespace Cascade.Yaml

inductive Token where
  | seqStart
  | mapStart
  | blockEnd
  | openSeq
  | closeSeq
  | openMap
  | closeMap
  | item
  | comma
  | key
  | value
  /-- A scalar, and whether it is written without quotes. -/
  | scalar (text : String) (plain : Bool)
  | documentStart
  | documentEnd
deriving DecidableEq, Repr, Inhabited

end Cascade.Yaml
