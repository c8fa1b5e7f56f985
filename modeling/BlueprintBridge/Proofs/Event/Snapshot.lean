import BlueprintBridge.Proofs.Event.Exchange

/-!
# A broadcast runs the handlers attached when it begins

Whatever the handlers do, a broadcast that comes to its end has called the handlers that were
attached when it began, each once, in order and with its value. What is journaled between a call and
its return is nested: further broadcasts are over before the handler that made them returns.
-/

namespace BlueprintBridge.Switchboard

set_option autoImplicit false

def callOf (serial : Nat) (value : Int) (call : Handler × List Happening) : List Happening :=
  .called serial call.1 value :: call.2 ++ [.returned serial call.1]

def transcript (serial channel : Nat) (value : Int) (calls : List (Handler × List Happening)) :
    List Happening :=
  .begun serial channel value (calls.map Prod.fst) :: calls.flatMap (callOf serial value) ++
    [.ended serial calls.length]

def cutTranscript (serial channel : Nat) (value : Int) (calls : List (Handler × List Happening))
    (last : Handler × List Happening) (rest : List Handler) : List Happening :=
  .begun serial channel value (calls.map Prod.fst ++ last.1 :: rest) ::
    calls.flatMap (callOf serial value) ++ .called serial last.1 value :: last.2 ++
    [.threw serial last.1, .cutShort serial]

/-- Whole broadcasts, each with everything its handlers do inside of it. Broadcasts are numbered
from `first` on, new subscribers from `number` on. -/
inductive Nested : Nat → Nat → List Happening → Prop where
  | nothing (first number : Nat) : Nested first number []
  | append {first number : Nat} {before after : List Happening} (left : Nested first number before)
      (right : Nested first number after) : Nested first number (before ++ after)
  | subscribed (first : Nat) {number : Nat} (channel : Nat) {token : Token}
      (fresh : number ≤ token.id) : Nested first number [.subscribed channel token]
  | givenBack (first number channel : Nat) (token : Token) (removed : Bool) :
      Nested first number [.givenBack channel token removed]
  | whole {first number serial : Nat} (channel : Nat) (value : Int)
      {calls : List (Handler × List Happening)} (later : first ≤ serial)
      (inside : ∀ call ∈ calls, Nested (serial + 1) number call.2) :
      Nested first number (transcript serial channel value calls)
  | cut {first number serial : Nat} (channel : Nat) (value : Int)
      {calls : List (Handler × List Happening)} {last : Handler × List Happening}
      (rest : List Handler) (later : first ≤ serial)
      (inside : ∀ call ∈ calls, Nested (serial + 1) number call.2)
      (thrown : Nested (serial + 1) number last.2) :
      Nested first number (cutTranscript serial channel value calls last rest)

def callsOf (serial : Nat) (events : List Happening) : List (Handler × Int) :=
  events.filterMap fun
    | .called other h value => if other = serial then some (h, value) else none
    | _ => none

theorem Nested.weaken {first number lower least : Nat} {events : List Happening}
    (nested : Nested first number events) (serials : lower ≤ first) (numbers : least ≤ number) :
    Nested lower least events := by
  induction nested generalizing lower with
  | nothing => exact .nothing ..
  | append _ _ left right => exact .append (left serials numbers) (right serials numbers)
  | subscribed _ channel fresh => exact .subscribed _ channel (Nat.le_trans numbers fresh)
  | givenBack => exact .givenBack ..
  | whole channel value later _ inside =>
      apply whole channel value (Nat.le_trans serials later)
      exact fun call member => inside call member (Nat.le_refl _) numbers
  | cut channel value rest later _ _ inside thrown =>
      apply cut channel value rest (Nat.le_trans serials later)
      · exact fun call member => inside call member (Nat.le_refl _) numbers
      · exact thrown (Nat.le_refl _) numbers

def Happening.IsFrom (first number : Nat) : Happening → Prop
  | .subscribed _ token => number ≤ token.id
  | .called serial _ _ => first ≤ serial
  | _ => True

theorem Happening.IsFrom.weaken {first number serial : Nat} {event : Happening}
    (later : first ≤ serial) (inside : event.IsFrom (serial + 1) number) :
    event.IsFrom first number := by
  cases event with
  | subscribed => exact inside
  | called => exact Nat.le_trans later (Nat.le_of_succ_le inside)
  | _ => trivial

theorem mem_call_of {serial : Nat} {value : Int} {call : Handler × List Happening}
    {event : Happening} :
    event ∈ callOf serial value call ↔
      event = .called serial call.1 value ∨ event ∈ call.2 ∨ event = .returned serial call.1 := by
  simp [callOf]

theorem Nested.is_from {first number : Nat} {events : List Happening}
    (nested : Nested first number events) : ∀ event ∈ events, event.IsFrom first number := by
  induction nested with
  | nothing => simp
  | append _ _ left right =>
      intro event member
      exact (List.mem_append.mp member).elim (left event) (right event)
  | subscribed _ channel fresh =>
      intro event member
      rw [List.mem_singleton.mp member]
      exact fresh
  | givenBack =>
      intro event member
      rw [List.mem_singleton.mp member]
      trivial
  | whole channel value later _ inside =>
      intro event member
      simp only [transcript, List.mem_cons, List.mem_append, List.mem_flatMap, mem_call_of,
        List.not_mem_nil, or_false] at member
      rcases member with (rfl | ⟨call, made, rfl | within | rfl⟩) | rfl
      · trivial
      · exact later
      · exact (inside call made event within).weaken later
      · trivial
      · trivial
  | cut channel value rest later _ _ inside thrown =>
      intro event member
      simp only [cutTranscript, List.mem_cons, List.mem_append, List.mem_flatMap, mem_call_of,
        List.not_mem_nil, or_false] at member
      rcases member with ((rfl | ⟨call, made, rfl | within | rfl⟩) | rfl | within) | rfl | rfl
      · trivial
      · exact later
      · exact (inside call made event within).weaken later
      · trivial
      · exact later
      · exact (thrown event within).weaken later
      · trivial
      · trivial

theorem calls_of_append (serial : Nat) (before after : List Happening) :
    callsOf serial (before ++ after) = callsOf serial before ++ callsOf serial after :=
  List.filterMap_append

theorem calls_of_later {first number serial : Nat} {events : List Happening}
    (nested : Nested first number events) (earlier : serial < first) :
    callsOf serial events = [] := by
  apply List.filterMap_eq_nil_iff.mpr
  intro event member
  have later := nested.is_from event member
  cases event with
  | called other h value =>
      have other : other ≠ serial := by
        rintro rfl
        exact Nat.lt_irrefl _ (Nat.lt_of_lt_of_le earlier later)
      simp [other]
  | _ => rfl

/-- A broadcast that comes to its end made one call for each of its handlers. -/
theorem calls_of_transcript {number serial : Nat} (channel : Nat) (value : Int)
    {calls : List (Handler × List Happening)}
    (inside : ∀ call ∈ calls, Nested (serial + 1) number call.2) :
    callsOf serial (transcript serial channel value calls) =
      calls.map fun call => (call.1, value) := by
  have made : callsOf serial (calls.flatMap (callOf serial value)) =
      calls.map fun call => (call.1, value) := by
    induction calls with
    | nil => rfl
    | cons call rest ih =>
        have within := calls_of_later (inside call (List.mem_cons_self ..)) (Nat.lt_succ_self _)
        have others := ih fun other member => inside other (List.mem_cons_of_mem _ member)
        have called : callsOf serial (callOf serial value call) = [(call.1, value)] := by
          have first : callsOf serial [.called serial call.1 value] = [(call.1, value)] := by
            simp [callsOf]
          have last : callsOf serial [.returned serial call.1] = [] := rfl
          rw [callOf, ← List.singleton_append, calls_of_append, calls_of_append, first, within, last]
          rfl
        rw [List.flatMap_cons, calls_of_append, called, others]
        rfl
  rw [transcript, calls_of_append]
  have begun : callsOf serial (.begun serial channel value (calls.map Prod.fst) ::
      calls.flatMap (callOf serial value)) = callsOf serial (calls.flatMap (callOf serial value)) :=
    rfl
  have ended : callsOf serial [.ended serial calls.length] = [] := rfl
  rw [begun, ended, made, List.append_nil]

structure Moment.Follows (m next : Moment) : Prop where
  journal : ∃ events, next.journal = m.journal ++ events ∧
    Nested m.broadcasts m.board.nextSubscriber events
  broadcasts : m.broadcasts ≤ next.broadcasts
  subscribers : m.board.nextSubscriber ≤ next.board.nextSubscriber

namespace Moment.Follows

variable {m next last : Moment}

theorem refl (m : Moment) : m.Follows m where
  journal := ⟨[], by simp, .nothing ..⟩
  broadcasts := Nat.le_refl _
  subscribers := Nat.le_refl _

theorem trans (first : m.Follows next) (second : next.Follows last) : m.Follows last where
  journal := by
    obtain ⟨before, grown, nested⟩ := first.journal
    obtain ⟨after, grew, inner⟩ := second.journal
    refine ⟨before ++ after, by rw [grew, grown, List.append_assoc], nested.append ?_⟩
    exact inner.weaken first.broadcasts first.subscribers
  broadcasts := Nat.le_trans first.broadcasts second.broadcasts
  subscribers := Nat.le_trans first.subscribers second.subscribers

end Moment.Follows

def Narrates {α : Type} (action : Action Exchange α) : Prop :=
  ∀ m : Moment, Action.Takes (fun w => m.Follows w.now) (fun w => m.Follows w.now)
    (fun w => m.Follows w.now) action

variable {size : Nat} {react : Handler → Int → Action Exchange Unit} {serial number : Nat}
  {value : Int} {m : Moment}

theorem errands_narrate {broadcast : Nat → Int → Action Exchange Nat}
    (broadcasting : ∀ channel value, Narrates (broadcast channel value)) (errand : Errand size) :
    Narrates (errand.run broadcast) := by
  intro m
  apply Errand.run_takes
  · exact {
      mark := fun w follows => follows
      subscribing := by
        intro channel label w follows
        apply follows.trans
        have numbers : (w.now.subscribe channel label).2.board.nextSubscriber =
            w.now.board.nextSubscriber + 1 := by
          simp [Moment.subscribe, Moment.record, Board.subscribe, Board.notes_eq]
        exact {
          journal := ⟨_, rfl, .subscribed _ _ (Nat.le_refl _)⟩
          broadcasts := Nat.le_refl _
          subscribers := by
            change _ ≤ (w.now.subscribe channel label).2.board.nextSubscriber
            omega }
      givingBack := by
        intro channel label w follows
        unfold givingBack
        cases held : w.now.board.tokens.get? label with
        | none => exact follows
        | some token =>
            apply follows.trans
            have numbers : (w.now.giveBack channel label token).2.board.nextSubscriber =
                w.now.board.nextSubscriber := by
              simp [Moment.giveBack, Moment.record, Board.unsubscribe, Board.notes_eq,
                Board.setChannel]
            exact {
              journal := ⟨_, rfl, .givenBack ..⟩
              broadcasts := Nat.le_refl _
              subscribers := by
                change _ ≤ (w.now.giveBack channel label token).2.board.nextSubscriber
                omega } }
  · exact fun channel value => broadcasting channel value m

structure Called (serial : Nat) (value : Int) (number : Nat) (before : Moment)
    (handlers : List Handler) (after : Moment) : Prop where
  journal : ∃ calls : List (Handler × List Happening), calls.map Prod.fst = handlers ∧
    (∀ call ∈ calls, Nested (serial + 1) number call.2) ∧
    after.journal = before.journal ++ calls.flatMap (callOf serial value)
  broadcasts : serial < after.broadcasts
  subscribers : number ≤ after.board.nextSubscriber

structure CutIn (serial : Nat) (value : Int) (number : Nat) (before : Moment)
    (handlers : List Handler) (after : Moment) : Prop where
  journal : ∃ (calls : List (Handler × List Happening)) (last : Handler × List Happening)
    (rest : List Handler), calls.map Prod.fst ++ last.1 :: rest = handlers ∧
    (∀ call ∈ calls, Nested (serial + 1) number call.2) ∧ Nested (serial + 1) number last.2 ∧
    after.journal = before.journal ++ (calls.flatMap (callOf serial value) ++
      .called serial last.1 value :: last.2 ++ [.threw serial last.1])
  broadcasts : serial < after.broadcasts
  subscribers : number ≤ after.board.nextSubscriber

theorem calling_takes (narrates : ∀ h value, Narrates (react h value)) (done : List Handler)
    (h : Handler) (rest : List Handler) :
    Action.Takes (fun w => Called serial value number m done w.now)
      (fun w => Called serial value number m (done ++ [h]) w.now)
      (fun w => CutIn serial value number m (done ++ h :: rest) w.now)
      (calling serial value react h) := by
  intro w called
  obtain ⟨calls, handlers, inside, journal⟩ := called.journal
  have follows := narrates h value _ (note (.called serial h value) w) (.refl _)
  -- What the handler did, whichever way it ended, belongs to this call.
  have within {next : Moment} (follows : (note (.called serial h value) w).now.Follows next) :
      ∃ events, Nested (serial + 1) number events ∧ next.journal =
        m.journal ++ (calls.flatMap (callOf serial value) ++ .called serial h value :: events) := by
    obtain ⟨events, grown, nested⟩ := follows.journal
    refine ⟨events, nested.weaken called.broadcasts called.subscribers, ?_⟩
    rw [grown]
    change (w.now.journal ++ _) ++ events = _
    rw [journal]
    simp
  unfold calling
  cases run : react h value (note (.called serial h value) w) with
  | ok answer t =>
      rw [run] at follows
      obtain ⟨events, nested, grown⟩ := within follows
      exact {
        journal := by
          refine ⟨calls ++ [(h, events)], by simp [handlers], ?_, ?_⟩
          · simpa [or_imp, forall_and] using ⟨fun h events => inside (h, events), nested⟩
          · change t.now.journal ++ _ = _
            rw [grown]
            simp [callOf]
        broadcasts := Nat.lt_of_lt_of_le called.broadcasts follows.broadcasts
        subscribers := Nat.le_trans called.subscribers follows.subscribers }
  | error interruption t =>
      rw [run] at follows
      obtain ⟨events, nested, grown⟩ := within follows
      exact {
        journal := by
          refine ⟨calls, (h, events), rest, by simp [handlers], inside, nested, ?_⟩
          change t.now.journal ++ _ = _
          rw [grown]
          simp
        broadcasts := Nat.lt_of_lt_of_le called.broadcasts follows.broadcasts
        subscribers := Nat.le_trans called.subscribers follows.subscribers }

theorem calls_take (narrates : ∀ h value, Narrates (react h value))
    (handlers : List (Nat × Handler)) (done : List Handler) :
    Action.Takes (fun w => Called serial value number m done w.now)
      (fun w => Called serial value number m (done ++ handlers.map Prod.snd) w.now)
      (fun w => CutIn serial value number m (done ++ handlers.map Prod.snd) w.now)
      (handlers.forM fun h => calling serial value react h.2) := by
  induction handlers generalizing done with
  | nil =>
      rw [List.map_nil, List.append_nil]
      exact .pure ()
  | cons h rest ih =>
      apply Action.Takes.bind
      · exact calling_takes narrates done h.2 (rest.map Prod.snd)
      · intro _
        have others := ih (done ++ [h.2])
        rw [List.append_assoc] at others
        exact others

/-- A broadcast that comes to its end, told by the calls it made and what each handler did. -/
structure Told (m : Moment) (channel : Nat) (value : Int) (count : Nat) (after : Moment)
    (calls : List (Handler × List Happening)) : Prop where
  /-- There is one call for each handler that was attached at the start, in their order. -/
  handlers : calls.map Prod.fst = m.attached channel
  count : count = (m.attached channel).length
  /-- A handler is called when the one before has returned. -/
  journal : after.journal = m.journal ++ transcript m.broadcasts channel value calls
  inside : ∀ call ∈ calls, Nested (m.broadcasts + 1) m.board.nextSubscriber call.2

theorem Called.begin (m : Moment) (channel : Nat) (value : Int) :
    Called m.broadcasts value m.board.nextSubscriber (m.begin channel value) []
      (m.begin channel value) where
  journal := ⟨[], rfl, by simp, by simp⟩
  broadcasts := Nat.lt_succ_self _
  subscribers := Nat.le_refl _

theorem calls_of_broadcast_take (narrates : ∀ h value, Narrates (react h value)) (channel : Nat)
    (value : Int) (w : Exchange) :
    match (w.now.board.channel channel).broadcast (calling w.now.broadcasts value react)
        (w.change (Moment.begin channel value)) with
    | .ok count t => count = (w.now.attached channel).length ∧
        Called w.now.broadcasts value w.now.board.nextSubscriber (w.now.begin channel value)
          (w.now.attached channel) t.now
    | .error _ t =>
        CutIn w.now.broadcasts value w.now.board.nextSubscriber (w.now.begin channel value)
          (w.now.attached channel) t.now := by
  have calls := calls_take (m := w.now.begin channel value) narrates
    (w.now.board.channel channel).handlers [] (w.change (Moment.begin channel value))
    (.begin w.now channel value)
  unfold Channel.broadcast
  cases run : (w.now.board.channel channel).handlers.forM
      (fun h => calling w.now.broadcasts value react h.2) (w.change (Moment.begin channel value)) with
  | ok answer t =>
      rw [run] at calls
      rw [Action.bind_of_ok run]
      exact ⟨(List.length_map _).symm, calls⟩
  | error interruption t =>
      rw [run] at calls
      rw [Action.bind_eq_error.mpr (.inl run)]
      exact calls

theorem begin_journal (m : Moment) (channel : Nat) (value : Int) :
    (m.begin channel value).journal =
      m.journal ++ [.begun m.broadcasts channel value (m.attached channel)] := rfl

theorem broadcast_takes (narrates : ∀ h value, Narrates (react h value)) (channel : Nat)
    (value : Int) (w : Exchange) :
    match broadcastWith react channel value w with
    | .ok count t => w.now.Follows t.now ∧ ∃ calls, Told w.now channel value count t.now calls
    | .error _ t => w.now.Follows t.now := by
  have made := calls_of_broadcast_take narrates channel value w
  unfold broadcastWith
  simp only
  cases run : (w.now.board.channel channel).broadcast (calling w.now.broadcasts value react)
      (w.change (Moment.begin channel value)) with
  | ok count t =>
      rw [run] at made
      have called := made.2
      obtain ⟨calls, handlers, inside, grown⟩ := called.journal
      have told : Told w.now channel value count
          (note (.ended w.now.broadcasts count) t).now calls := {
        handlers
        count := made.1
        journal := by
          have length : count = calls.length := by
            rw [made.1, ← handlers, List.length_map]
          change t.now.journal ++ _ = _
          rw [grown, begin_journal, transcript, handlers, length]
          simp
        inside }
      constructor
      · exact {
          journal := ⟨_, told.journal, .whole channel value (Nat.le_refl _) inside⟩
          broadcasts := Nat.le_of_lt called.broadcasts
          subscribers := called.subscribers }
      · exact ⟨calls, told⟩
  | error interruption t =>
      rw [run] at made
      obtain ⟨calls, last, rest, handlers, inside, thrown, grown⟩ := made.journal
      have told : (note (.cutShort w.now.broadcasts) t).now.journal =
          w.now.journal ++ cutTranscript w.now.broadcasts channel value calls last rest := by
        change t.now.journal ++ _ = _
        rw [grown, begin_journal, cutTranscript, handlers]
        simp
      exact {
        journal := ⟨_, told, .cut channel value rest (Nat.le_refl _) inside thrown⟩
        broadcasts := Nat.le_of_lt made.broadcasts
        subscribers := made.subscribers }

theorem broadcast_narrates (narrates : ∀ h value, Narrates (react h value)) (channel : Nat)
    (value : Int) : Narrates (broadcastWith react channel value) := by
  intro m w follows
  have taken := broadcast_takes narrates channel value w
  cases run : broadcastWith react channel value w with
  | ok count t =>
      rw [run] at taken
      exact follows.trans taken.1
  | error interruption t =>
      rw [run] at taken
      exact follows.trans taken

theorem broadcast_at_narrates (react : Handler → Int → Errand size) (depth channel : Nat)
    (value : Int) : Narrates (broadcastAt react depth channel value) := by
  induction depth generalizing channel value with
  | zero => exact fun _ => .throw fun _ follows => follows
  | succ depth ih =>
      apply broadcast_narrates
      exact fun h value => errands_narrate ih (react h value)

/-- A broadcast ran the handlers that were attached at a moment. -/
structure Snapshot (m : Moment) (channel : Nat) (value : Int) (count : Nat) (after : Moment)
    (calls : List (Handler × List Happening)) : Prop
    extends Told m channel value count after calls where
  /-- All calls of this broadcast, also those from deep inside. -/
  called : callsOf m.broadcasts (transcript m.broadcasts channel value calls) =
    (m.attached channel).map fun h => (h, value)
  late : (∀ h ∈ m.attached channel, h.id < m.board.nextSubscriber) →
    ∀ other token, .subscribed other token ∈ transcript m.broadcasts channel value calls →
      ∀ call ∈ callsOf m.broadcasts (transcript m.broadcasts channel value calls),
        call.1.id ≠ token.id

theorem Told.snapshot {channel count : Nat} {after : Moment}
    {calls : List (Handler × List Happening)} (told : Told m channel value count after calls) :
    Snapshot m channel value count after calls where
  toTold := told
  called := by
    rw [calls_of_transcript channel value told.inside, ← told.handlers, List.map_map]
    rfl
  late := by
    intro numbered other token subscribed call member same
    have nested := Nested.whole channel value (Nat.le_refl m.broadcasts) told.inside
    have fresh : m.board.nextSubscriber ≤ token.id := nested.is_from _ subscribed
    rw [calls_of_transcript channel value told.inside] at member
    obtain ⟨made, among, rfl⟩ := List.mem_map.mp member
    have attached : made.1 ∈ m.attached channel := by
      rw [← told.handlers]
      exact List.mem_map_of_mem among
    have earlier := numbered made.1 attached
    simp only at same
    omega

/-- A broadcast that returns has called those who were attached when it began, each once and in
their order; who was subscribed meanwhile was not called. -/
theorem broadcast_runs_snapshot (react : Handler → Int → Errand size) (depth channel : Nat)
    (value : Int) (w t : Exchange) (count : Nat)
    (ran : broadcastAt react depth channel value w = .ok count t) :
    ∃ calls, Snapshot w.now channel value count t.now calls := by
  cases depth with
  | zero => cases ran
  | succ depth =>
      have narrates (h : Handler) (value : Int) :
          Narrates ((react h value).run (broadcastAt react depth)) :=
        errands_narrate (broadcast_at_narrates react depth) (react h value)
      have taken := broadcast_takes narrates channel value w
      change broadcastWith _ channel value w = _ at ran
      rw [ran] at taken
      obtain ⟨_, calls, told⟩ := taken
      exact ⟨calls, told.snapshot⟩

def crowdedExchange : Exchange where
  now.board := {
    channels := [⟨"OnTick", [(1, ⟨"first", 1⟩), (2, ⟨"second", 2⟩), (4, ⟨"third", 4⟩)]⟩,
      ⟨"OnTick", [(3, ⟨"other", 3⟩)]⟩]
    nextSubscriber := 5
    tokens := ⟨[("second", ⟨2, "OnTick"⟩), ("third", ⟨4, "OnTick"⟩)]⟩ }

/-- The first subscriber sends the third one away and lets a new one in, then broadcasts on both
channels; the broadcast on the second channel is cut short. -/
def usher (h : Handler) (value : Int) : Errand 2 :=
  if h.label = "first" ∧ value = 0 then
    .giveBack 0 "third" fun _ =>
    .subscribe 0 "late" fun _ =>
    .broadcast 0 1 fun _ =>
    .attempt (.broadcast 1 1 fun _ => .done) fun _ =>
    .done
  else if h.label = "other" then .raise "boom"
  else .done

theorem crowded_broadcast_runs_snapshot :
    let finish := broadcastAt usher 9 0 0 crowdedExchange
    let journal := (stateAfter finish).now.journal
    valueOf? finish = some 3 ∧
      .givenBack 0 ⟨4, "OnTick"⟩ true ∈ journal ∧ .subscribed 0 ⟨5, "OnTick"⟩ ∈ journal ∧
      callsOf 0 journal = [(⟨"first", 1⟩, 0), (⟨"second", 2⟩, 0), (⟨"third", 4⟩, 0)] ∧
      callsOf 1 journal = [(⟨"first", 1⟩, 1), (⟨"second", 2⟩, 1), (⟨"late", 5⟩, 1)] ∧
      .cutShort 2 ∈ journal ∧
      ∃ calls, Snapshot crowdedExchange.now 0 0 3 (stateAfter finish).now calls := by
  have three : valueOf? (broadcastAt usher 9 0 0 crowdedExchange) = some 3 := by decide +kernel
  refine ⟨three, by decide +kernel, by decide +kernel, by decide +kernel, by decide +kernel,
    by decide +kernel, ?_⟩
  exact broadcast_runs_snapshot usher 9 0 0 crowdedExchange _ 3 (eq_ok_of_value three)

end BlueprintBridge.Switchboard
