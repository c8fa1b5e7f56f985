import BlueprintBridge.Host.Announcement

/-!
The attachment of a running bridge to a host: one subscription on each of the five channels.

`attach` and `detach` are inverse on the channels: what `attach` puts on them, and no more,
`detach` takes off again.
-/

namespace BlueprintBridge

set_option autoImplicit false

/-- The tokens of the subscriptions, in the order of the channels; none once detached. -/
structure Attachment where
  tokens : List (EventKind × Token) := []
deriving DecidableEq, Repr, Inhabited

namespace Attachment

variable {H : Type}

def isActive (a : Attachment) : Bool := !a.tokens.isEmpty

/-- Attaches a handler to each of some channels, the first one as subscriber `id`. -/
def attachTo (handler : H) : List EventKind → Nat → Channels H → Logged (Attachment × Channels H)
  | [], _, channels => pure (⟨[]⟩, channels)
  | kind :: rest, id, channels => do
    let channel := channels.get kind
    let next := channels.set kind (channel.subscribe id handler)
    let next ← ⟨next, [channel.subscribedRecord id]⟩
    let (attachment, next) ← attachTo handler rest (id + 1) next
    return (⟨(kind, channel.token id) :: attachment.tokens⟩, next)

/-- Attaches a handler to all five channels, as the subscribers from `id` on. -/
def attach (handler : H) (id : Nat) (channels : Channels H) : Logged (Attachment × Channels H) :=
  attachTo handler EventKind.all id channels

/-- Gives back tokens; gives the number of handlers they took off. -/
def giveBack : List (EventKind × Token) → Channels H → Logged (Nat × Channels H)
  | [], channels => pure (0, channels)
  | (kind, token) :: rest, channels => do
    let channel := channels.get kind
    let (removed, next) := channel.unsubscribe token
    let next ← ⟨channels.set kind next, channel.unsubscribedRecords token⟩
    let (count, next) ← giveBack rest next
    return ((if removed then 1 else 0) + count, next)

def detach (a : Attachment) (channels : Channels H) : Logged (Nat × Channels H) :=
  giveBack a.tokens channels

end Attachment

end BlueprintBridge
