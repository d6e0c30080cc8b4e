import ClusterSteward.Text.Blank

/-!
# Node flags

A listing describes the role and the condition of a node by flags, separated by commas. Flags that
this library does not know are kept.
-/

namespace ClusterSteward

/-- The flags of a node, in listing order. -/
structure Flags where
  tokens : List String
  deriving DecidableEq, Repr, Inhabited

namespace Flags

/-- No flags. -/
def none : Flags :=
  ⟨[]⟩

/-- The flags written by a field: its parts between commas, trimmed, without the empty ones. -/
def ofChars (field : List Char) : Flags :=
  ⟨(((field.splitOn ',').map Text.trim).filter (fun token ↦ !token.isEmpty)).map String.ofList⟩

/-- The flags written by a text. -/
def parse (field : String) : Flags :=
  ofChars field.toList

/-- Whether the given flag is present. -/
def contains (flags : Flags) (flag : String) : Bool :=
  flags.tokens.contains flag

/-- Whether there are no flags. -/
def isEmpty (flags : Flags) : Bool :=
  flags.tokens.isEmpty

/-- Whether the node is flagged as a replica. -/
def isReplica (flags : Flags) : Bool :=
  flags.contains "slave"

/-- Whether the node is flagged as a master. -/
def isMaster (flags : Flags) : Bool :=
  flags.contains "master"

/-- Whether the node is the one that gave the listing. -/
def isMyself (flags : Flags) : Bool :=
  flags.contains "myself"

/-- Whether the node is failing, or suspected to be. -/
def isFailing (flags : Flags) : Bool :=
  flags.contains "fail" || flags.contains "fail?" || flags.contains "pfail"

/-- The flags as a listing writes them. -/
def text (flags : Flags) : String :=
  ",".intercalate flags.tokens

end Flags

end ClusterSteward
