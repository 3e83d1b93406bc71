import ClusterLink.Resolver.Outcome

/-!
# Waiting for a node

Who asks a node for the member table waits for a limited time, and then the node counts as one that
did not answer. Whenever the one who waits looks, it looks for the reply before it looks at the
clock. So a reply that comes at the very end of the time still counts, and so does a later one if
nobody has looked in between.
-/

namespace ClusterLink

/-- **A question that was put to a node.** All times are read off the same clock. -/
structure Inquiry (α : Type) where
  /-- The reply, and when it comes; `none` if none ever comes. -/
  reply : Option (Nat × α)
  /-- When the time is up. -/
  deadline : Nat

namespace Inquiry

variable {α : Type}

/-- The reply, if it has come. -/
def reply? (q : Inquiry α) (now : Nat) : Option α :=
  q.reply.bind fun (comesAt, answer) => if comesAt ≤ now then some answer else none

/-- **What has come of a question**: `none` while it is waited for, and no reply once the time is
up. -/
def poll (q : Inquiry α) (now : Nat) : Option (Option α) :=
  match q.reply? now with
  | some answer => some (some answer)
  | none => if q.deadline ≤ now then some none else none

/-- **When a question is over.** -/
def endsAt (q : Inquiry α) : Nat :=
  q.reply.elim q.deadline fun (comesAt, _) => min comesAt q.deadline

/-- The reply to a question that is looked after all the time, if one comes before the time is
up. -/
def finalReply? (q : Inquiry α) : Option α := q.reply? q.deadline

end Inquiry

namespace GossipOutcome

/-- **What comes of a question**, by the answer that was received in time. -/
def ofReply : Option (Except Error (List Member)) → GossipOutcome
  | none => .timeout
  | some answer => .ofAnswer answer

end GossipOutcome

end ClusterLink
