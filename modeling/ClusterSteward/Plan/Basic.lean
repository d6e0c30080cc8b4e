/-!
# Plans

A plan is one step of a migration: a number of slots is moved into one node, out of one other node
or out of all masters.
-/

namespace ClusterSteward

/-- Where the slots of a plan come from: every master, or the node with the given id. -/
inductive Source where
  | all
  | node (id : String)
  deriving DecidableEq, Repr, Inhabited

namespace Source

/-- The word that stands for every master. -/
def allWord : String :=
  "all"

/-- The source named by a text: the word for every master, or else a node id. -/
def parse (text : String) : Source :=
  if text = allWord then .all else .node text

/-- The text that names the source. -/
def text : Source → String
  | all => allWord
  | node id => id

/-- Whether the slots come from every master. -/
def isAll : Source → Bool
  | all => true
  | node _ => false

end Source

/-- One step: move `count` slots out of `source` into the node `target`. -/
structure Plan where
  target : String
  source : Source
  count : Nat
  deriving DecidableEq, Repr, Inhabited

end ClusterSteward
