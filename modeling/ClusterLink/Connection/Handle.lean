import ClusterLink.Connection.ServerName
import ClusterLink.Failure.Error

/-!
# Connections and how they are made

A handle stands for one connection to a node. Handles are told apart by their number, not by what
they connect to: two connections to one node are two handles.

Channels are asked for one endpoint at a time (`Channels.create`). Whether a channel can be made is
up to the channel factory, which may answer differently from one request to the next. The network
is not touched: a connection is only made when it is first used.
-/

namespace ClusterLink

/-- **One connection to a node.** -/
structure Handle where
  /-- The number of the request that the connection was made for. -/
  number : Nat
  endpoint : EndPoint
  tls : Bool
  deriving DecidableEq, Repr, Inhabited

/-- **What decides which channels can be made.** -/
structure ChannelFactory where
  /-- Whether connections are encrypted. -/
  tls : Bool := false
  /-- Why the request with the given number, for the given endpoint, is refused; `none` if it is
  not. -/
  refusal? : Nat → EndPoint → Option Error := fun _ _ => none

namespace ChannelFactory

/-- Whether a channel can be made for an endpoint: its address is valid, and if the connection is
encrypted its host is the name of a server. -/
def isDialable (tls : Bool) (e : EndPoint) : Bool :=
  if tls then
    Address.isValid "https://".utf8ByteSize e.display
      && ServerName.isValid (Address.hostOf (Address.authority e.display))
  else Address.isValid "http://".utf8ByteSize e.display

/-- The factory that makes a channel for every endpoint for which there can be one. -/
def lazy (tls : Bool) : ChannelFactory where
  tls := tls
  refusal? := fun _ e => if isDialable tls e then none else some (.transport "invalid address")

/-- The factory that refuses some hosts, compared without regard to case. -/
def refusing (hosts : List String) : ChannelFactory where
  refusal? := fun _ e =>
    if hosts.any (Text.equalIgnoringCase · e.host) then some (.config "channel refused") else none

end ChannelFactory

/-- **The channels made so far**, by one factory. -/
structure Channels where
  factory : ChannelFactory := {}
  /-- How many channels were asked for. -/
  requests : Nat := 0
  /-- The connections made, in order. -/
  made : List Handle := []

instance : Inhabited Channels := ⟨{}⟩

namespace Channels

/-- **Asks for a connection to an endpoint.** -/
def create (c : Channels) (e : EndPoint) : Except Error Handle × Channels :=
  match c.factory.refusal? c.requests e with
  | some error => (.error error, { c with requests := c.requests + 1 })
  | none =>
    let handle : Handle := ⟨c.requests, e, c.factory.tls⟩
    (.ok handle, { c with requests := c.requests + 1, made := c.made ++ [handle] })

theorem endpoint_of_create {c c' : Channels} {e : EndPoint} {h : Handle}
    (hc : c.create e = (.ok h, c')) : h.endpoint = e ∧ h.number = c.requests := by
  unfold create at hc
  split at hc
  · simp at hc
  · simp only [Prod.mk.injEq, Except.ok.injEq] at hc
    rw [← hc.1]
    exact ⟨rfl, rfl⟩

@[simp] theorem requests_create (c : Channels) (e : EndPoint) :
    (c.create e).2.requests = c.requests + 1 := by
  unfold create
  split <;> rfl

end Channels

end ClusterLink
