import ClusterLink.Text.Blank
import ClusterLink.Text.Case

/-!
# Capabilities of a node

A node lists the methods it serves, each with a service, a name and optional features. From the list
a client reads which optional features it may use. Service, method and feature names compare without
regard to ASCII case, and of a service name only the part after the last dot counts.
-/

namespace ClusterLink

/-- One method a node serves. -/
structure SupportedMethod where
  service : String
  method : String
  features : List String
  deriving DecidableEq, Repr, Inhabited

/-- **A node's answer about itself**: its version and the methods it serves. -/
structure MethodTable where
  methods : List SupportedMethod
  version : String
  deriving DecidableEq, Repr, Inhabited

/-- **The optional features of a node.** The default value has none of them. -/
structure Capabilities where
  version : Option String := none
  /-- Streams accept batches. -/
  batchAppend : Bool := false
  /-- Persistent subscriptions can be made to all streams. -/
  subscribeToAll : Bool := false
  /-- Parked messages can be replayed. -/
  manageSubscriptions : Bool := false
  /-- Details of a subscription can be asked for. -/
  getSubscriptionInfo : Bool := false
  /-- The subscription subsystem can be restarted. -/
  restartSubsystem : Bool := false
  /-- Subscriptions can be listed. -/
  listSubscriptions : Bool := false
  deriving DecidableEq, Repr, Inhabited

namespace SupportedMethod

/-- The last part of the service name, without case. -/
def serviceWord (m : SupportedMethod) : String :=
  String.ofList (Text.foldCase (Text.lastSegment m.service.toList))

/-- The method name, without case. -/
def methodWord (m : SupportedMethod) : String := Text.lowercase m.method

/-- Whether this is the given method of the given service. -/
def isNamed (m : SupportedMethod) (service method : String) : Bool :=
  m.serviceWord == service && m.methodWord == method

/-- Whether the method lists the given feature. -/
def hasFeature (m : SupportedMethod) (feature : String) : Bool :=
  m.features.any (Text.equalIgnoringCase · feature)

end SupportedMethod

namespace Capabilities

/-- Marks what one method adds. -/
def add (c : Capabilities) (m : SupportedMethod) : Capabilities :=
  if m.isNamed "streams" "batchappend" then { c with batchAppend := true }
  else if m.isNamed "persistentsubscriptions" "create" then
    if m.hasFeature "all" then { c with subscribeToAll := true } else c
  else if m.isNamed "persistentsubscriptions" "getinfo" then { c with getSubscriptionInfo := true }
  else if m.isNamed "persistentsubscriptions" "replayparked" then
    { c with manageSubscriptions := true }
  else if m.isNamed "persistentsubscriptions" "restartsubsystem" then
    { c with restartSubsystem := true }
  else if m.isNamed "persistentsubscriptions" "list" then { c with listSubscriptions := true }
  else c

/-- The version a node reports, without surrounding blanks; none if it is blank. -/
def versionOf (text : String) : Option String :=
  let trimmed := Text.trim text.toList
  if trimmed.isEmpty then none else some (String.ofList trimmed)

/-- **Reads the capabilities off a node's answer**, one method after the other. -/
def ofMethods (t : MethodTable) : Capabilities :=
  t.methods.foldl add { version := versionOf t.version }

end Capabilities

end ClusterLink
