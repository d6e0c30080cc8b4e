import ClusterSteward.Text.Quoted
import ClusterSteward.Tool.Status

/-!
# Tool errors

What can go wrong when the admin tool is driven. An error names the command and the arguments it
was to run with, never the credential that is added to them.
-/

namespace ClusterSteward

/-- What the system reports about a process that could not be started or talked to. -/
inductive SystemError where
  | noSuchFile
  | permissionDenied
  | nulInArgument
  | argumentTooLong
  | described (text : String)
  deriving DecidableEq, Repr

/-- The text of a system error. -/
def SystemError.text : SystemError → String
  | noSuchFile => "No such file or directory (os error 2)"
  | permissionDenied => "Permission denied (os error 13)"
  | nulInArgument => "nul byte found in provided data"
  | argumentTooLong => "Argument list too long (os error 7)"
  | described text => text

/-- Why an operation of the admin tool failed: it could not be started, it ended badly, it could
not be talked to, it was cancelled, or it was asked for wrongly. -/
inductive ToolError where
  | notStarted (command : String) (arguments : List String) (cause : SystemError)
  | exited (command : String) (arguments : List String) (status : WaitStatus)
  | disconnected (command : String) (cause : SystemError)
  | cancelled (command : String) (arguments : List String)
  | invalidConfiguration (problem : String)
  deriving DecidableEq, Repr

namespace ToolError

/-- The text that reports the error. -/
def message : ToolError → String
  | notStarted command arguments cause =>
      "failed to run command " ++ command ++ " " ++ Text.quotedList arguments ++ ": " ++ cause.text
  | exited command arguments status =>
      "command " ++ command ++ " " ++ Text.quotedList arguments ++ " exited with " ++ status.text
  | disconnected command cause => "I/O error talking to " ++ command ++ ": " ++ cause.text
  | cancelled command arguments =>
      "command " ++ command ++ " " ++ Text.quotedList arguments ++ " cancelled"
  | invalidConfiguration problem => "Invalid configuration: " ++ problem

/-- Whether the operation was cancelled. -/
def isCancelled : ToolError → Bool
  | cancelled .. => true
  | _ => false

/-- Whether the operation was asked for wrongly. -/
def isInvalidConfiguration : ToolError → Bool
  | invalidConfiguration _ => true
  | _ => false

end ToolError

end ClusterSteward
