import BlueprintBridge.Catalog
import BlueprintBridge.Event.Channel

/-!
A switchboard: several channels whose handlers use them again.

A handler shows that it was called and then makes the steps of its next script, which may
subscribe, give tokens back, or broadcast on any channel. Subscribers are numbered across all
channels. Every script runs at most once, so the number of steps bounds how deep calls nest.
-/

namespace BlueprintBridge.Switchboard

set_option autoImplicit false

/-- What can be done on a switchboard; channels by their number, tokens by their label. The steps
of a script have names for their answers. -/
inductive Step where
  /-- Attaches a handler, whose calls run these scripts, one each. -/
  | subscribe (channel : Nat) (label : String) (scripts : List (List (String × Step)))
  /-- Gives a token back to a channel, which uses it up. -/
  | unsubscribe (channel : Nat) (label : String)
  | isSubscribed (channel : Nat) (label : String)
  | token (label : String)
  | compare (label other : String)
  | broadcast (channel : Nat) (value : Int)
  | count (channel : Nat)
  | name (channel : Nat)
  | text (channel : Nat)
  /-- Throws an exception. -/
  | raise (message : String)

/-- Steps made one after the other, each with the name under which its answer is traced. -/
abbrev Script := List (String × Step)

mutual

/-- How many steps there are in a step, itself and all scripts counted. -/
def Step.weight : Step → Nat
  | .subscribe _ _ scripts => scriptsWeight scripts + 1
  | _ => 1

/-- How many steps there are in a script. -/
def scriptWeight : List (String × Step) → Nat
  | [] => 0
  | (_, step) :: rest => step.weight + scriptWeight rest

/-- How many steps there are in some scripts. -/
def scriptsWeight : List (List (String × Step)) → Nat
  | [] => 0
  | script :: rest => scriptWeight script + scriptsWeight rest

end

/-- What a step answers. -/
inductive Reply where
  | token (token : Token)
  | flag (value : Bool)
  | number (value : Nat)
  | text (value : String)
  | compared (same : Bool) (order : Ordering)
  | counted (subscribers : Nat) (bound : Bool)
  | noToken
  /-- A handler threw this. -/
  | unwound (message : String)
  | outOfFuel
deriving Repr

/-- A handler: its label and its number. -/
structure Handler where
  label : String
  id : Nat
deriving DecidableEq, Repr

/-- Something that happened while a step was made. -/
inductive TraceEntry where
  | log (record : Record)
  | called (label : String) (value : Int)
  /-- The step of this name in a script was made. -/
  | made (name : String) (reply : Reply)

/-- Channels, tokens, and what each handler still has to run. -/
structure Board where
  channels : List (Channel Handler)
  nextSubscriber : Nat := 1
  tokens : Catalog String Token := .empty
  scripts : Catalog Nat (List Script) := .empty
  /-- The most talkative level the log keeps. -/
  verbosity : Option Level := some .warn
  /-- What happened since the step began, in order. -/
  trace : List TraceEntry := []

namespace Board

def channel (b : Board) (i : Nat) : Channel Handler := b.channels[i]?.getD ⟨"", []⟩

def setChannel (b : Board) (i : Nat) (c : Channel Handler) : Board :=
  { b with channels := b.channels.set i c }

def emit (b : Board) (entry : TraceEntry) : Board := { b with trace := b.trace ++ [entry] }

def notes (b : Board) (records : List Record) : Board :=
  records.foldl (fun b r => if r.isKept b.verbosity then b.emit (.log r) else b) b

/-- Attaches a handler under a label; an earlier token of that label is lost. -/
def subscribe (b : Board) (i : Nat) (label : String) (scripts : List Script) : Token × Board :=
  let id := b.nextSubscriber
  let c := b.channel i
  (c.token id,
    ({ b.setChannel i (c.subscribe id ⟨label, id⟩) with
      nextSubscriber := id + 1
      tokens := b.tokens.insert label (c.token id)
      scripts := b.scripts.insert id scripts }).notes [c.subscribedRecord id])

def unsubscribe (b : Board) (i : Nat) (label : String) (token : Token) : Bool × Board :=
  let c := b.channel i
  let (removed, next) := c.unsubscribe token
  (removed,
    ({ b.setChannel i next with tokens := b.tokens.erase label }).notes
      (c.unsubscribedRecords token))

def nextScript (b : Board) (id : Nat) : Script × Board :=
  match b.scripts.get? id with
  | some (script :: rest) => (script, { b with scripts := b.scripts.insert id rest })
  | _ => ([], b)

end Board

abbrev Act (α : Type) := Action Board α

def change (f : Board → Board) : Act Unit := fun b => .ok () (f b)

def withToken (b : Board) (label : String) (f : Token → Reply) : Reply :=
  (b.tokens.get? label).elim .noToken f

/-- Calls a handler with a value; `run` makes the steps of its script. -/
def call (run : Script → Act Unit) (value : Int) (h : Handler) : Act Unit := do
  change (·.emit (.called h.label value))
  run (← fun b => let (script, b) := b.nextScript h.id; .ok script b)

/-- Makes one step; `run` makes the steps of a script. -/
def perform (run : Script → Act Unit) : Step → Act Reply
  | .subscribe i label scripts => fun b =>
    let (token, b) := b.subscribe i label scripts
    .ok (.token token) b
  | .unsubscribe i label => fun b =>
    match b.tokens.get? label with
    | none => .ok .noToken b
    | some token =>
      let (removed, b) := b.unsubscribe i label token
      .ok (.flag removed) b
  | .isSubscribed i label => do
    let b ← get
    return withToken b label fun token => .flag ((b.channel i).isSubscribed token)
  | .token label => do return withToken (← get) label .token
  | .compare label other => do
    let b ← get
    return withToken b label fun s => withToken b other fun t =>
      .compared (s = t) (Ord.compare s.id t.id)
  | .broadcast i value => do
    return .number (← ((← get).channel i).broadcast (call run value))
  | .count i => do
    let c := (← get).channel i
    return .counted c.subscriberCount c.isBound
  | .name i => do return .text ((← get).channel i).name
  | .text i => do return .text ((← get).channel i).render
  | .raise message => throw (.unwound message)

/-- Makes the steps of a script; each that comes back leaves its answer in the trace. -/
def runScript : Nat → Script → Act Unit
  | 0, _ => throw .outOfFuel
  | fuel + 1, script => script.forM fun (name, step) => do
    let reply ← perform (runScript fuel) step
    change (·.emit (.made name reply))

/-- Makes one step of the session itself. An exception ends here, as the step's answer. -/
def top (fuel : Nat) (b : Board) (step : Step) : (Reply × List TraceEntry) × Board :=
  match perform (runScript fuel) step { b with trace := [] } with
  | .ok reply b => ((reply, b.trace), b)
  | .error (.unwound message) b => ((.unwound message, b.trace), b)
  | .error .outOfFuel b => ((.outOfFuel, b.trace), b)

def topAll (fuel : Nat) : Board → List Step → List (Reply × List TraceEntry)
  | _, [] => []
  | b, step :: rest =>
    let (report, b) := top fuel b step
    report :: topAll fuel b rest

/-- What the steps on fresh channels of these names answer, and what happens meanwhile. -/
def run (names : List String) (verbosity : Option Level) (steps : List Step) :
    List (Reply × List TraceEntry) :=
  let channels := names.map fun name => ⟨name, []⟩
  let weight := steps.foldr (fun step weight => step.weight + weight) 0
  topAll (weight + 1) { channels, verbosity } steps

end BlueprintBridge.Switchboard
