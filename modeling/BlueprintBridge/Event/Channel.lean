import BlueprintBridge.Action
import BlueprintBridge.Log
import BlueprintBridge.Text.Quoted

/-!
Channels: named lists of handlers that are called one after the other.

A subscription gives a token, and the token alone detaches the handler. Numbers are given out by
the caller, who never gives the same one twice, so a token fits no channel but its own. A
broadcast calls the handlers attached when it begins, whatever they attach or detach meanwhile.
-/

namespace BlueprintBridge

set_option autoImplicit false

/-- The right to detach one handler. -/
structure Token where
  id : Nat
  /-- The name of the channel that issued it. -/
  event : String
deriving DecidableEq, Repr

def subscriberText (id : Nat) : String := s!"SubscriberId({id})"

/-- A named list of handlers, in the order they were attached. -/
structure Channel (H : Type) where
  name : String
  handlers : List (Nat × H) := []
deriving DecidableEq, Repr

namespace Channel

variable {H σ : Type}

def subscriberCount (c : Channel H) : Nat := c.handlers.length

def isBound (c : Channel H) : Bool := c.subscriberCount > 0

def render (c : Channel H) : String :=
  "EventDispatcher \x7b name: " ++ Text.quote c.name ++
    ", subscribers: " ++ toString c.subscriberCount ++ " \x7d"

def token (c : Channel H) (id : Nat) : Token := ⟨id, c.name⟩

def subscribe (c : Channel H) (id : Nat) (handler : H) : Channel H :=
  { c with handlers := c.handlers ++ [(id, handler)] }

def subscribedRecord (c : Channel H) (id : Nat) : Record :=
  ⟨.trace, s!"Subscribed {subscriberText id} to '{c.name}'"⟩

def isSubscribed (c : Channel H) (token : Token) : Bool := c.handlers.any fun h => h.1 = token.id

/-- Detaches the handler of this token; tells whether it was attached here. -/
def unsubscribe (c : Channel H) (token : Token) : Bool × Channel H :=
  (c.isSubscribed token, { c with handlers := c.handlers.filter fun h => h.1 ≠ token.id })

/-- The records of giving back a token: a warning if it is another channel's. -/
def unsubscribedRecords (c : Channel H) (token : Token) : List Record :=
  if c.isSubscribed token then []
  else [⟨.warn, s!"Subscription {subscriberText token.id} does not belong to event '{c.name}' (it was issued by '{token.event}')"⟩]

/-- Calls every handler attached now, in order; gives their number. -/
def broadcast (c : Channel H) (call : H → Action σ Unit) : Action σ Nat := do
  c.handlers.forM fun h => call h.2
  pure c.handlers.length

end Channel

end BlueprintBridge
