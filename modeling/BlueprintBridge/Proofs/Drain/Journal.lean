import BlueprintBridge.Proofs.Backlog
import BlueprintBridge.Proofs.Drain.Answers

/-!
# Reading the journal

The calls of the engine, and what became of the blueprints that were put among the components.
-/

namespace BlueprintBridge

set_option autoImplicit false

inductive EngineCall where
  | compile (blueprint : BlueprintRef)
  | collect
deriving DecidableEq

def Event.call? : Event → Option EngineCall
  | compileCalled blueprint _ => some (.compile blueprint)
  | collectCalled _ _ => some .collect
  | _ => none

def engineCalls (events : List Event) : List EngineCall := events.filterMap Event.call?

def PutInto (lane : Lane) (blueprint : BlueprintRef) (events : List Event) : Prop :=
  ∃ fresh, .queued lane blueprint fresh ∈ events

/-- Every blueprint put among the components is compiled after that, or put among the classes after
that, or is one of those that wait. -/
def Followed (waiting : BlueprintRef → Prop) : List Event → Prop
  | [] => True
  | event :: later =>
      (∀ blueprint fresh, event = .queued .components blueprint fresh →
        EngineCall.compile blueprint ∈ engineCalls later ∨ PutInto .classes blueprint later ∨ waiting blueprint) ∧
      Followed waiting later

theorem engine_calls_append (first second : List Event) :
    engineCalls (first ++ second) = engineCalls first ++ engineCalls second :=
  List.filterMap_append

theorem engine_calls_snoc (events : List Event) (event : Event) :
    engineCalls (events ++ [event]) = engineCalls events ++ event.call?.toList := by
  rw [engine_calls_append]
  cases event <;> rfl

theorem put_into_append (lane : Lane) (blueprint : BlueprintRef) (first second : List Event) :
    PutInto lane blueprint (first ++ second) ↔
      PutInto lane blueprint first ∨ PutInto lane blueprint second := by
  simp only [PutInto, List.mem_append, exists_or]

/-- One more event keeps what was followed: the old waiting ones wait still, unless the event
compiles them or puts them among the classes. -/
theorem Followed.snoc {waiting next : BlueprintRef → Prop} {events : List Event} {event : Event}
    (followed : Followed waiting events)
    (kept : ∀ blueprint, waiting blueprint →
      event.call? = some (.compile blueprint) ∨ PutInto .classes blueprint [event] ∨ next blueprint)
    (added : ∀ blueprint fresh, event = .queued .components blueprint fresh → next blueprint) :
    Followed next (events ++ [event]) := by
  induction events with
  | nil => exact ⟨fun blueprint fresh same => .inr (.inr (added blueprint fresh same)), trivial⟩
  | cons first later ih =>
      obtain ⟨head, tail⟩ := followed
      refine ⟨?_, ih tail⟩
      intro blueprint fresh same
      change EngineCall.compile blueprint ∈ engineCalls (later ++ [event]) ∨
        PutInto .classes blueprint (later ++ [event]) ∨ next blueprint
      rw [engine_calls_append, put_into_append, List.mem_append]
      rcases head blueprint fresh same with compiled | moved | waits
      · exact .inl (.inl compiled)
      · exact .inr (.inl (.inl moved))
      · rcases kept blueprint waits with compiled | moved | waits
        · exact .inl (.inr (List.mem_filterMap.mpr ⟨event, by simp, compiled⟩))
        · exact .inr (.inl (.inr moved))
        · exact .inr (.inr waits)

theorem Followed.mono {waiting next : BlueprintRef → Prop} {events : List Event}
    (followed : Followed waiting events) (weaker : ∀ blueprint, waiting blueprint → next blueprint) :
    Followed next events := by
  induction events with
  | nil => trivial
  | cons first later ih =>
      obtain ⟨head, tail⟩ := followed
      refine ⟨?_, ih tail⟩
      intro blueprint fresh same
      rcases head blueprint fresh same with compiled | moved | waits
      · exact .inl compiled
      · exact .inr (.inl moved)
      · exact .inr (.inr (weaker blueprint waits))

end BlueprintBridge
