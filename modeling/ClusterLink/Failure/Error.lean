import ClusterLink.Failure.Status
import ClusterLink.Node.EndPoint

/-!
# Errors

What can go wrong when a client looks for a node, connects to it and calls it. Some errors pass:
repeating the operation may succeed (`Error.isRetryable`). Some mean that the component that
reported them is of no more use (`Error.isFatal`). No error is both.
-/

namespace ClusterLink

/-- The parts that can be disposed of, and then refuse to work. -/
inductive Component where
  | connectionCache
  | gossipResolver
  | connectionProvider
  | clusterClient
  /-- A part outside this library. -/
  | other (name : String)
  deriving DecidableEq, Repr

def Component.name : Component → String
  | .connectionCache => "connection cache"
  | .gossipResolver => "gossip resolver"
  | .connectionProvider => "connection provider"
  | .clusterClient => "cluster client"
  | .other name => name

/-- **Why an operation failed.** -/
inductive Error where
  /-- A connection could not be made or used, or the task that worked on it broke down. -/
  | connection (message : String)
  /-- The transport refused an address or failed. -/
  | transport (message : String)
  /-- A remote call ended in a status. -/
  | rpc (code : Code) (message : String)
  /-- No answer came within so many milliseconds. -/
  | timeout (millis : Nat)
  /-- The caller gave up. -/
  | cancelled
  /-- The component has been disposed of. -/
  | disposed (component : Component)
  /-- No usable node could be found. -/
  | unavailable (message : String)
  /-- The configuration is invalid. -/
  | config (message : String)
  /-- An address could not be read. -/
  | invalidEndpoint (value reason : String)
  deriving DecidableEq, Repr

namespace Error

/-- The kind of error, by name. -/
def kind : Error → String
  | .connection _ => "Connection"
  | .transport _ => "Transport"
  | .rpc _ _ => "Rpc"
  | .timeout _ => "Timeout"
  | .cancelled => "Cancelled"
  | .disposed _ => "Disposed"
  | .unavailable _ => "Unavailable"
  | .config _ => "Config"
  | .invalidEndpoint _ _ => "InvalidEndpoint"

/-- **The wording of an error.** -/
def message : Error → String
  | .connection m => "Connection error: " ++ m
  | .transport m => "Transport error: " ++ m
  | .rpc code m => "RPC error (code=" ++ code.name ++ "): " ++ m
  | .timeout ms => "Operation timed out after " ++ toString ms ++ "ms"
  | .cancelled => "Operation cancelled"
  | .disposed component => component.name ++ " has been disposed"
  | .unavailable m => "Cluster unavailable: " ++ m
  | .config m => "Configuration error: " ++ m
  | .invalidEndpoint value reason => "Invalid endpoint '" ++ value ++ "': " ++ reason

/-- Whether repeating the operation may succeed. -/
def isRetryable : Error → Bool
  | .transport _ | .connection _ | .timeout _ | .unavailable _ => true
  | .rpc code _ =>
    code == .unavailable || code == .deadlineExceeded || code == .resourceExhausted
      || code == .aborted
  | .cancelled | .disposed _ | .config _ | .invalidEndpoint _ _ => false

/-- What an error says beyond its kind, where that is a text of its own. -/
def detail : Error → String
  | .connection m | .transport m | .rpc _ m | .unavailable m | .config m => m
  | .invalidEndpoint _ reason => reason
  | .timeout _ | .cancelled | .disposed _ => ""

/-- Whether the component that reported the error can no longer be used. -/
def isFatal : Error → Bool
  | .disposed _ | .config _ | .invalidEndpoint _ _ => true
  | _ => false

/-- The code of a failed remote call. -/
def code? : Error → Option Code
  | .rpc code _ => some code
  | _ => none

/-- The error of a call that ended in the given status. -/
def ofStatus (s : Status) : Error := .rpc s.code s.message

end Error

/-- Reads an endpoint; a text that is none is reported with the reason. -/
def EndPoint.ofText (s : String) : Except Error EndPoint :=
  (EndPoint.parse s).mapError fun flaw => .invalidEndpoint s flaw.message

end ClusterLink
