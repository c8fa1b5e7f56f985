import BlueprintBridge.Event.Switchboard
import BlueprintBridge.Proofs.Chronicle

/-!
# Errands on a switchboard

An errand subscribes handlers, gives tokens back, broadcasts, looks around, throws and goes on after
an exception, choosing each act by what came before. A handler that is called runs an errand of its
own. The journal of an exchange tells what happens there, each broadcast under a number of its own.
-/

namespace BlueprintBridge.Switchboard

set_option autoImplicit false

inductive Happening where
  | subscribed (channel : Nat) (token : Token)
  /-- A channel was given a token; `removed` if it took a handler off. -/
  | givenBack (channel : Nat) (token : Token) (removed : Bool)
  /-- A broadcast begins while these handlers are attached. -/
  | begun (serial channel : Nat) (value : Int) (attached : List Handler)
  | called (serial : Nat) (handler : Handler) (value : Int)
  | returned (serial : Nat) (handler : Handler)
  | threw (serial : Nat) (handler : Handler)
  | ended (serial count : Nat)
  | cutShort (serial : Nat)
deriving DecidableEq

/-- A switchboard and what has happened on it so far. -/
structure Moment where
  board : Board
  /-- How many broadcasts have begun. -/
  broadcasts : Nat := 0
  journal : List Happening := []

namespace Moment

def attached (m : Moment) (channel : Nat) : List Handler :=
  (m.board.channel channel).handlers.map Prod.snd

def record (event : Happening) (m : Moment) : Moment := { m with journal := m.journal ++ [event] }

def begin (channel : Nat) (value : Int) (m : Moment) : Moment :=
  { m.record (.begun m.broadcasts channel value (m.attached channel)) with
    broadcasts := m.broadcasts + 1 }

def subscribe (channel : Nat) (label : String) (m : Moment) : Token × Moment :=
  let (token, board) := m.board.subscribe channel label []
  (token, { m with board }.record (.subscribed channel token))

def giveBack (channel : Nat) (label : String) (token : Token) (m : Moment) : Bool × Moment :=
  let (removed, board) := m.board.unsubscribe channel label token
  (removed, { m with board }.record (.givenBack channel token removed))

end Moment

abbrev Exchange := Chronicle Moment

def note (event : Happening) (w : Exchange) : Exchange := w.change (·.record event)

def subscribing (channel : Nat) (label : String) : Action Exchange Token := fun w =>
  let (token, m) := w.now.subscribe channel label
  .ok token { w with now := m }

def givingBack (channel : Nat) (label : String) : Action Exchange (Option Bool) := fun w =>
  match w.now.board.tokens.get? label with
  | none => .ok none w
  | some token =>
    let (removed, m) := w.now.giveBack channel label token
    .ok (some removed) { w with now := m }

def calling (serial : Nat) (value : Int) (react : Handler → Int → Action Exchange Unit)
    (h : Handler) : Action Exchange Unit := fun w =>
  match react h value (note (.called serial h value) w) with
  | .ok () w => .ok () (note (.returned serial h) w)
  | .error e w => .error e (note (.threw serial h) w)

def broadcastWith (react : Handler → Int → Action Exchange Unit) (channel : Nat) (value : Int) :
    Action Exchange Nat := fun w =>
  let serial := w.now.broadcasts
  match (w.now.board.channel channel).broadcast (calling serial value react)
      (w.change (Moment.begin channel value)) with
  | .ok count w => .ok count (note (.ended serial count) w)
  | .error e w => .error e (note (.cutShort serial) w)

/-- A program of acts on a switchboard of `size` channels; each act says what comes after its
answer. -/
inductive Errand (size : Nat) where
  | done
  | raise (message : String)
  | look (next : Exchange → Errand size)
  | subscribe (channel : Fin size) (label : String) (next : Token → Errand size)
  | giveBack (channel : Fin size) (label : String) (next : Option Bool → Errand size)
  | broadcast (channel : Fin size) (value : Int) (next : Nat → Errand size)
  /-- Runs an errand, and goes on also if it throws. -/
  | attempt (inner : Errand size) (next : Option Unit → Errand size)

namespace Errand

variable {size : Nat}

/-- Performs the acts of an errand; `broadcast` is what broadcasting does. -/
def run (broadcast : Nat → Int → Action Exchange Nat) : Errand size → Action Exchange Unit
  | .done => Chronicle.mark
  | .raise message => do
    Chronicle.mark
    throw (.unwound message)
  | .look next => do
    Chronicle.mark
    fun w => (next w).run broadcast w
  | .subscribe channel label next => do
    Chronicle.mark
    let token ← subscribing channel label
    (next token).run broadcast
  | .giveBack channel label next => do
    Chronicle.mark
    let removed ← givingBack channel label
    (next removed).run broadcast
  | .broadcast channel value next => do
    Chronicle.mark
    let count ← broadcast channel value
    (next count).run broadcast
  | .attempt inner next => do
    Chronicle.mark
    let answer ← (inner.run broadcast).caught
    (next answer).run broadcast

structure Keeping (size : Nat) (P : Exchange → Prop) : Prop where
  mark : Action.Takes P P P Chronicle.mark
  subscribing : ∀ (channel : Fin size) label, Action.Takes P P P (subscribing channel label)
  givingBack : ∀ (channel : Fin size) label, Action.Takes P P P (givingBack channel label)

theorem run_takes {P : Exchange → Prop} (keeping : Keeping size P)
    {broadcast : Nat → Int → Action Exchange Nat}
    (broadcasting : ∀ channel value, Action.Takes P P P (broadcast channel value))
    (errand : Errand size) : Action.Takes P P P (errand.run broadcast) := by
  induction errand with
  | done => exact keeping.mark
  | raise message =>
      apply Action.Takes.bind keeping.mark
      exact fun _ => .throw fun _ held => held
  | look next ih =>
      apply Action.Takes.bind keeping.mark
      exact fun _ w held => ih w w held
  | subscribe channel label next ih =>
      apply Action.Takes.bind keeping.mark
      intro _
      apply Action.Takes.bind (keeping.subscribing channel label)
      exact ih
  | giveBack channel label next ih =>
      apply Action.Takes.bind keeping.mark
      intro _
      apply Action.Takes.bind (keeping.givingBack channel label)
      exact ih
  | broadcast channel value next ih =>
      apply Action.Takes.bind keeping.mark
      intro _
      apply Action.Takes.bind (broadcasting channel value)
      exact ih
  | attempt inner next inside ih =>
      apply Action.Takes.bind keeping.mark
      intro _
      apply Action.Takes.bind inside.caught
      exact ih

end Errand

/-- A broadcast whose handlers run errands, which may broadcast again, `depth` levels deep. -/
def broadcastAt {size : Nat} (react : Handler → Int → Errand size) :
    Nat → Nat → Int → Action Exchange Nat
  | 0, _, _ => throw .outOfFuel
  | depth + 1, channel, value =>
    broadcastWith (fun h value => (react h value).run (broadcastAt react depth)) channel value

def Happening.IsQuiet : Happening → Prop
  | .subscribed .. | .givenBack .. => False
  | _ => True

section

variable {P : Exchange → Prop}

theorem broadcast_with_takes (noted : ∀ event w, event.IsQuiet → P w → P (note event w))
    (begun : ∀ channel value w, P w → P (w.change (Moment.begin channel value)))
    {react : Handler → Int → Action Exchange Unit}
    (reacts : ∀ h value, Action.Takes P P P (react h value)) (channel : Nat) (value : Int) :
    Action.Takes P P P (broadcastWith react channel value) := by
  have called (serial : Nat) (h : Handler) : Action.Takes P P P (calling serial value react h) := by
    intro w held
    have left := reacts h value _ (noted (.called serial h value) w trivial held)
    unfold calling
    cases run : react h value (note (.called serial h value) w) with
    | ok | error =>
        rw [run] at left
        exact noted _ _ trivial left
  intro w held
  have made : Action.Takes P P P
      ((w.now.board.channel channel).broadcast (calling w.now.broadcasts value react)) := by
    apply Action.Takes.bind
    · exact .forM fun h _ => called w.now.broadcasts h.2
    · exact fun _ => .pure _
  have left := made _ (begun channel value w held)
  unfold broadcastWith
  simp only
  cases run : (w.now.board.channel channel).broadcast (calling w.now.broadcasts value react)
      (w.change (Moment.begin channel value)) with
  | ok | error =>
      rw [run] at left
      exact noted _ _ trivial left

/-- What every act keeps true, and every quiet event, is true after a run with broadcasts. -/
theorem errand_at_takes {size : Nat} (keeping : Errand.Keeping size P)
    (noted : ∀ event w, event.IsQuiet → P w → P (note event w))
    (begun : ∀ channel value w, P w → P (w.change (Moment.begin channel value)))
    (react : Handler → Int → Errand size) (depth : Nat) (errand : Errand size) :
    Action.Takes P P P (errand.run (broadcastAt react depth)) := by
  induction depth generalizing errand with
  | zero =>
      apply Errand.run_takes keeping
      exact fun _ _ => .throw fun _ held => held
  | succ depth ih =>
      apply Errand.run_takes keeping
      apply broadcast_with_takes noted begun
      exact fun h value => ih (react h value)

end

namespace Board

theorem notes_eq (b : Board) (records : List Record) :
    b.notes records = { b with
      trace := b.trace ++ (records.filter fun r => r.isKept b.verbosity).map .log } := by
  unfold notes
  induction records generalizing b with
  | nil => simp
  | cons record rest ih =>
      rw [List.foldl_cons, ih]
      by_cases kept : record.isKept b.verbosity = true
      · simp [kept, emit]
      · simp [kept]

theorem channel_set_channel (b : Board) {i : Nat} (inside : i < b.channels.length)
    (c : Channel Handler) (j : Nat) :
    (b.setChannel i c).channel j = if j = i then c else b.channel j := by
  by_cases same : j = i
  · subst same
    simp [setChannel, channel, inside]
  · simp [setChannel, channel, same, List.getElem?_set_ne (Ne.symm same)]

theorem channel_subscribe (b : Board) {i : Nat} (inside : i < b.channels.length) (label : String)
    (scripts : List Script) (j : Nat) :
    (b.subscribe i label scripts).2.channel j =
      if j = i then (b.channel i).subscribe b.nextSubscriber ⟨label, b.nextSubscriber⟩
      else b.channel j := by
  unfold subscribe
  simp only
  rw [notes_eq]
  exact channel_set_channel b inside _ j

theorem channel_unsubscribe (b : Board) (i : Nat) (label : String) (token : Token) (j : Nat) :
    (b.unsubscribe i label token).2.channel j =
      if j = i then ((b.channel i).unsubscribe token).2 else b.channel j := by
  have set : (b.unsubscribe i label token).2.channel j =
      (b.setChannel i ((b.channel i).unsubscribe token).2).channel j := by
    unfold unsubscribe
    simp only
    rw [notes_eq]
    rfl
  rw [set]
  by_cases inside : i < b.channels.length
  · exact channel_set_channel b inside _ j
  · have absent : b.channels[i]? = none := List.getElem?_eq_none (Nat.le_of_not_lt inside)
    have untouched : (b.setChannel i ((b.channel i).unsubscribe token).2).channel j =
        b.channel j := by
      unfold setChannel channel
      simp only
      rw [List.set_eq_of_length_le (Nat.le_of_not_lt inside)]
    rw [untouched]
    by_cases same : j = i
    · subst same
      simp [channel, absent, Channel.unsubscribe]
    · rw [if_neg same]

end Board

end BlueprintBridge.Switchboard
