import ClusterLink.Resolver.Basic

/-!
# Callers of a resolver

A caller that wants the member table joins the resolution in flight, or starts one, and waits for
its result. It may bring a token of its own; when that is cancelled the caller gives up, and does so
before it looks at any result. Whatever ends its wait, the caller leaves the resolution then.

Each of these is one step of the call (`Resolver.advanceCall`). Anything may happen to the resolver
between two steps, and a call may be given up for good between two of them (`Resolver.quit`).
-/

namespace ClusterLink.Resolver

/-- **One step of a call for a refresh**; `none` if it has to wait or is over. `isCancelled` tells
whether the token of the caller is cancelled. -/
def advanceCall (r : Resolver) (call : RefreshCall) (isCancelled : Bool) :
    Option (RefreshCall × Resolver) :=
  match call with
  | .fresh => if isCancelled then some (.done (.error .cancelled), r) else some (.admitted, r)
  | .admitted => if r.isShutDown then some (.done (.error disposedError), r) else some (.joining, r)
  | .joining => some (.waiting r.join.1, r.join.2)
  | .waiting id =>
    if isCancelled then some (.leaving id (.error .cancelled), r)
    else (r.result? id).map fun result => (.leaving id result, r)
  | .leaving id result => some (.done result, r.leave id)
  | .done _ | .gone => none

end ClusterLink.Resolver
