import BlueprintBridge.Compile.Recompiler
import BlueprintBridge.Host.AssemblyHost
import BlueprintBridge.Proofs.Action

/-!
# Actions that go alike

Two actions go alike if the second one does in an altered state what the first one does in the
state itself, to the same end, and the state that is left has some property. Recompilers go alike if
their engines do, and hosts if their handlers do. With one action in both places and the state
unaltered this is what the action keeps, whichever way it ends.
-/

namespace BlueprintBridge

set_option autoImplicit false

namespace Action

variable {σ α β : Type} {alter : σ → σ} {P P' : σ → Prop} {Q : α → σ → Prop} {E : σ → Prop}

/-- How an action ended, with the state it left altered. -/
def mapState (alter : σ → σ) : EStateM.Result Interruption σ α → EStateM.Result Interruption σ α
  | .ok value t => .ok value (alter t)
  | .error interruption t => .error interruption (alter t)

def Ends (Q : α → σ → Prop) (E : σ → Prop) : EStateM.Result Interruption σ α → Prop
  | .ok value t => Q value t
  | .error _ t => E t

/-- From where `P` holds, the second action does in the altered state what the first one does. -/
def Alike (alter : σ → σ) (P : σ → Prop) (Q : α → σ → Prop) (E : σ → Prop)
    (first second : Action σ α) : Prop :=
  ∀ s, P s → second (alter s) = mapState alter (first s) ∧ Ends Q E (first s)

abbrev Match (alter : σ → σ) (P E : σ → Prop) (first second : Action σ α) : Prop :=
  Alike alter P (fun _ => P) E first second

namespace Alike

variable {first second : Action σ α}

theorem of_ok {answer : σ → α} {next : σ → σ} (comes : ∀ s, first s = .ok (answer s) (next s))
    (follows : ∀ s, second (alter s) = .ok (answer s) (alter (next s)))
    (kept : ∀ s, P s → Q (answer s) (next s)) : Alike alter P Q E first second := by
  intro s held
  rw [comes s]
  exact ⟨follows s, kept s held⟩

theorem pure {value : α} (kept : ∀ s, P s → Q value s) :
    Alike alter P Q E (Pure.pure value) (Pure.pure value) :=
  fun s held => ⟨rfl, kept s held⟩

theorem idle (value : α) : Match alter P E (Pure.pure value) (Pure.pure value) :=
  pure fun _ held => held

theorem throw (interruption : Interruption) (lost : ∀ s, P s → E s) :
    Alike alter P Q E (MonadExcept.throw interruption : Action σ α)
      (MonadExcept.throw interruption) :=
  fun s held => ⟨rfl, lost s held⟩

theorem bind {R : β → σ → Prop} {next other : α → Action σ β}
    (before : Alike alter P Q E first second)
    (after : ∀ value, Alike alter (Q value) R E (next value) (other value)) :
    Alike alter P R E (first >>= next) (second >>= other) := by
  intro s held
  obtain ⟨same, middle⟩ := before s held
  cases run : first s with
  | ok value t =>
      rw [run] at same middle
      rw [bind_of_ok run, bind_of_ok same]
      exact after value t middle
  | error interruption t =>
      rw [run] at same middle
      rw [bind_eq_error.mpr (.inl run), bind_eq_error.mpr (.inl same)]
      exact ⟨rfl, middle⟩

theorem forM {χ : Type} {action other : χ → Action σ Unit} {items : List χ}
    (each : ∀ item ∈ items, Match alter P E (action item) (other item)) :
    Match alter P E (items.forM action) (items.forM other) := by
  induction items with
  | nil => exact idle ()
  | cons item rest ih =>
      apply bind
      · exact each item (List.mem_cons_self ..)
      · intro _
        exact ih fun later member => each later (List.mem_cons_of_mem _ member)

theorem mono {R : α → σ → Prop} {F : σ → Prop} (alike : Alike alter P Q E first second)
    (before : ∀ s, P' s → P s) (after : ∀ value s, Q value s → R value s)
    (lost : ∀ s, E s → F s) : Alike alter P' R F first second := by
  intro s held
  obtain ⟨same, ends⟩ := alike s (before s held)
  refine ⟨same, ?_⟩
  cases run : first s with
  | ok value t =>
      rw [run] at ends
      exact after value t ends
  | error interruption t =>
      rw [run] at ends
      exact lost t ends

theorem given {p : Prop} (alike : p → Alike alter P Q E first second) :
    Alike alter (fun s => p ∧ P s) Q E first second :=
  fun s held => alike held.1 s held.2

theorem ensuring {R : α → σ → Prop} {F : σ → Prop} {cleanup other : σ → σ}
    (inside : Alike alter P Q E first second)
    (follows : ∀ s, other (alter s) = alter (cleanup s))
    (cleaned : ∀ value s, Q value s → R value (cleanup s)) (lost : ∀ s, E s → F (cleanup s)) :
    Alike alter P R F (first.ensuring cleanup) (second.ensuring other) := by
  intro s held
  obtain ⟨same, ends⟩ := inside s held
  cases run : first s with
  | ok value t =>
      rw [run] at same ends
      rw [ensuring_of_ok run, ensuring_of_ok same, follows]
      exact ⟨rfl, cleaned value t ends⟩
  | error interruption t =>
      rw [run] at same ends
      rw [ensuring_of_error run, ensuring_of_error same, follows]
      exact ⟨rfl, lost t ends⟩

theorem onInterrupt {F : σ → Prop} {cleanup other : σ → σ}
    (inside : Alike alter P Q E first second)
    (follows : ∀ s, other (alter s) = alter (cleanup s)) (lost : ∀ s, E s → F (cleanup s)) :
    Alike alter P Q F (first.onInterrupt cleanup) (second.onInterrupt other) := by
  intro s held
  obtain ⟨same, ends⟩ := inside s held
  unfold Action.onInterrupt
  rw [same]
  cases run : first s with
  | ok value t =>
      rw [run] at ends
      exact ⟨rfl, ends⟩
  | error interruption t =>
      rw [run] at ends
      exact ⟨congrArg _ (follows t), lost t ends⟩

theorem lost (alike : Alike alter P Q E first second) {s t : σ} {interruption : Interruption}
    (held : P s) (cut : first s = .error interruption t) : E t := by
  have ends := (alike s held).2
  rw [cut] at ends
  exact ends

theorem after {R : σ → Prop} (alike : Alike alter P (fun _ => R) R first second) {s : σ}
    (held : P s) : R (stateAfter (first s)) := by
  have ends := (alike s held).2
  cases run : first s with
  | ok value t | error interruption t =>
      rw [run] at ends
      exact ends

end Alike

end Action

namespace Recompiler.Site

variable {σ : Type} {alter : σ → σ} {P E : σ → Prop} {first second : Site σ}

/-- Two recompilers that are the same but for the alteration, and whose engines go alike. Between
two calls of the engine a drain does not touch its mark. -/
structure Alike (alter : σ → σ) (P E : σ → Prop) (first second : Site σ) : Prop where
  read : ∀ s, second.recompiler.read (alter s) = first.recompiler.read s
  loading : ∀ s, second.isLoading (alter s) = first.isLoading s
  write : ∀ r s, second.recompiler.write r (alter s) = alter (first.recompiler.write r s)
  note : ∀ record s, second.note record (alter s) = alter (first.note record s)
  updated : ∀ (f : Recompiler → Recompiler) s, (∀ r, (f r).compiling = r.compiling) → P s →
    P (first.recompiler.update f s)
  noted : ∀ record s, P s → P (first.note record s)
  compiled : ∀ blueprint options,
    Action.Match alter P E (first.compile blueprint options) (second.compile blueprint options)
  collected : ∀ keep fullPurge,
    Action.Match alter P E (first.collect keep fullPurge) (second.collect keep fullPurge)

namespace Alike

variable (alike : Alike alter P E first second)

include alike

theorem writes (record : Record) :
    Action.Match alter P E (first.write record) (second.write record) :=
  .of_ok (fun _ => rfl) (fun s => congrArg _ (alike.note record s)) (alike.noted record)

theorem gets : Action.Match alter P E first.recompiler.get second.recompiler.get := by
  refine Action.Alike.of_ok (fun _ => rfl) (fun s => ?_) fun _ held => held
  rw [Part.get, alike.read]

theorem update (f : Recompiler → Recompiler) (s : σ) :
    second.recompiler.update f (alter s) = alter (first.recompiler.update f s) := by
  rw [Part.update, Part.update, alike.read, alike.write]

theorem counts (f : Stats → Stats) :
    Action.Match alter P E (first.recompiler.modify (count f))
      (second.recompiler.modify (count f)) :=
  .of_ok (fun _ => rfl) (fun s => congrArg _ (alike.update _ s))
    (fun s held => alike.updated _ s (fun _ => rfl) held)

theorem takes (lane : Lane) :
    Action.Match alter P E (first.recompiler.step (takeLane lane))
      (second.recompiler.step (takeLane lane)) := by
  refine Action.Alike.of_ok (fun _ => rfl) (fun s => ?_)
    fun s held => alike.updated (fun r => (takeLane lane r).2) s (fun _ => rfl) held
  rw [Part.step, alike.read, ← alike.write]
  rfl

theorem compile_batch (lane : Lane) (options : CompileOptions) (batch : List BlueprintRef) :
    Action.Match alter P E (first.compileBatch lane options batch)
      (second.compileBatch lane options batch) := by
  induction batch with
  | nil => exact .idle ()
  | cons blueprint rest ih =>
      refine Action.Alike.bind (alike.compiled blueprint options) fun log => ?_
      refine Action.Alike.bind (alike.counts _) fun _ => ?_
      refine Action.Alike.bind (alike.writes _) fun _ => ?_
      exact ih

theorem compile_lane (lane : Lane) :
    Action.Match alter P E (first.compileLane lane) (second.compileLane lane) := by
  refine Action.Alike.bind (alike.takes lane) fun batch => ?_
  refine Action.Alike.bind alike.gets fun r => ?_
  refine Action.Alike.bind (alike.compile_batch lane _ batch) fun _ => ?_
  exact .idle _

theorem drain_components (lost : ∀ s, P s → E s) (fuel : Nat) :
    Action.Match alter P E (first.drainComponents fuel) (second.drainComponents fuel) := by
  induction fuel with
  | zero => exact .throw _ lost
  | succ fuel ih =>
      refine Action.Alike.bind (alike.compile_lane .components) fun batch => ?_
      split
      · exact .idle _
      · refine Action.Alike.bind ih fun _ => ?_
        exact .idle _

theorem drain (lost : ∀ s, P s → E s) (fuel : Nat) :
    Action.Match alter P E (first.drain fuel) (second.drain fuel) := by
  refine Action.Alike.bind (alike.drain_components lost fuel) fun components => ?_
  refine Action.Alike.bind (alike.compile_lane .classes) fun classes => ?_
  refine Action.Alike.bind alike.gets fun r => ?_
  refine Action.Alike.bind (alike.collected _ _) fun _ => ?_
  refine Action.Alike.bind (alike.counts _) fun _ => ?_
  refine Action.Alike.bind (alike.writes _) fun _ => ?_
  exact .idle _

theorem turned_away (record : Record) (f : Stats → Stats) (outcome : Outcome) :
    Action.Match alter P E
      (do first.write record; first.recompiler.modify (count f); return outcome)
      (do second.write record; second.recompiler.modify (count f); return outcome) := by
  refine Action.Alike.bind (alike.writes record) fun _ => ?_
  refine Action.Alike.bind (alike.counts _) fun _ => ?_
  exact .idle outcome

theorem attempt (lost : ∀ s, P s → E s) (fuel : Nat) :
    Action.Match alter P E (first.attempt fuel) (second.attempt fuel) := by
  intro s held
  unfold Site.attempt
  simp only [alike.read, alike.loading]
  split
  · exact alike.turned_away _ _ _ s held
  · split
    · exact ⟨rfl, held⟩
    · exact alike.drain lost fuel s held

/-- The mark of a drain is set before it, and taken away also when it is cut short. -/
theorem trigger (marked : ∀ f s, P s → P (first.recompiler.update f s))
    (unmarked : ∀ f s, E s → E (first.recompiler.update f s)) (lost : ∀ s, P s → E s) (fuel : Nat) :
    Action.Match alter P E (first.trigger fuel) (second.trigger fuel) := by
  intro s held
  unfold Site.trigger
  simp only [alike.read]
  split
  · exact alike.turned_away _ _ _ s held
  · have attempted := Action.Alike.ensuring (alike.attempt lost fuel)
      (alike.update fun r => { r with compiling := false })
      (fun _ s held => marked _ s held) (fun s left => unmarked _ s left)
    rw [alike.update]
    exact attempted _ (marked _ s held)

end Alike

end Recompiler.Site

namespace AssemblyHost.Site

variable {σ H α : Type} {alter : σ → σ} {P E : σ → Prop} {heard : H → Prop}
  {first second : Site σ H}

/-- Two hosts that are the same but for the alteration, and whose handlers go alike. -/
structure Alike (alter : σ → σ) (P E : σ → Prop) (heard : H → Prop) (first second : Site σ H) :
    Prop where
  read : ∀ s, second.host.read (alter s) = first.host.read s
  write : ∀ host s, second.host.write host (alter s) = alter (first.host.write host s)
  note : ∀ record s, second.note record (alter s) = alter (first.note record s)
  written : ∀ host s, P s → host.channels = (first.host.read s).channels →
    P (first.host.write host s)
  noted : ∀ record s, P s → P (first.note record s)
  /-- A load is closed also when it is cut short. -/
  aborted : ∀ assembly s, E s → E (first.abortLoad assembly s)
  attached : ∀ s, P s → ∀ kind, ∀ h ∈ ((first.host.read s).channels.get kind).handlers, heard h.2
  called : ∀ news handler, heard handler →
    Action.Match alter P E (first.call news handler) (second.call news handler)

namespace Alike

variable (alike : Alike alter P E heard first second)

include alike

theorem notes (records : List Record) (s : σ) :
    records.foldl (fun s record => second.note record s) (alter s) =
      alter (records.foldl (fun s record => first.note record s) s) := by
  induction records generalizing s with
  | nil => rfl
  | cons record rest ih =>
      rw [List.foldl_cons, List.foldl_cons, alike.note]
      exact ih _

theorem all_noted (records : List Record) (s : σ) (held : P s) :
    P (records.foldl (fun s record => first.note record s) s) := by
  induction records generalizing s with
  | nil => exact held
  | cons record rest ih => exact ih _ (alike.noted record s held)

theorem writes (records : List Record) :
    Action.Match alter P E (first.write records) (second.write records) :=
  .of_ok (fun _ => rfl) (fun s => congrArg _ (alike.notes records s)) (alike.all_noted records)

theorem gets : Action.Match alter P E first.host.get second.host.get := by
  refine Action.Alike.of_ok (fun _ => rfl) (fun s => ?_) fun _ held => held
  rw [Part.get, alike.read]

theorem update (f : AssemblyHost H → AssemblyHost H) (s : σ) :
    second.host.update f (alter s) = alter (first.host.update f s) := by
  rw [Part.update, Part.update, alike.read, alike.write]

theorem modifies {f : AssemblyHost H → AssemblyHost H}
    (same : ∀ host, (f host).channels = host.channels) :
    Action.Match alter P E (first.host.modify f) (second.host.modify f) :=
  .of_ok (fun _ => rfl) (fun s => congrArg _ (alike.update f s))
    (fun s held => alike.written _ s held (same _))

theorem steps {β : Type} {f : AssemblyHost H → β × AssemblyHost H}
    (same : ∀ host, (f host).2.channels = host.channels) :
    Action.Match alter P E (first.host.step f) (second.host.step f) := by
  refine Action.Alike.of_ok (fun _ => rfl) (fun s => ?_) fun s held =>
    alike.written _ s held (same _)
  rw [Part.step, alike.read, ← alike.write]

theorem calls (news : Announcement) {handlers : List (Nat × H)}
    (all : ∀ h ∈ handlers, heard h.2) :
    Action.Match alter P E (handlers.forM fun h => first.call news h.2)
      (handlers.forM fun h => second.call news h.2) :=
  .forM fun h member => alike.called news h.2 (all h member)

theorem announce (news : Announcement) :
    Action.Match alter P E (first.announce news) (second.announce news) := by
  intro s held
  have looked : second.host.get (alter s) = .ok (first.host.read s) (alter s) := by
    rw [Part.get, alike.read]
  have called := alike.calls news (alike.attached s held news.kind)
  unfold Site.announce
  rw [Action.bind_of_ok looked, Action.bind_of_ok (rfl : first.host.get s = .ok _ s)]
  exact (Action.Alike.bind called fun _ => .idle _) s held

theorem announcing {β : Type} (news : Announcement) (answer : β) :
    Action.Match alter P E (do let _ ← first.announce news; return answer)
      (do let _ ← second.announce news; return answer) := by
  refine Action.Alike.bind (alike.announce news) fun _ => ?_
  exact .idle answer

theorem begin_load (assembly : String) :
    Action.Match alter P E (first.beginLoad assembly) (second.beginLoad assembly) := by
  refine Action.Alike.bind (alike.writes _) fun _ => ?_
  exact alike.modifies fun _ => rfl

theorem finish_load (assembly : String) :
    Action.Match alter P E (first.finishLoad assembly) (second.finishLoad assembly) := by
  refine Action.Alike.bind (alike.steps fun _ => rfl) fun finished => ?_
  split
  · refine Action.Alike.bind (alike.writes _) fun _ => ?_
    exact alike.announcing _ _
  · exact .idle _

theorem abort_load (assembly : String) (s : σ) :
    second.abortLoad assembly (alter s) = alter (first.abortLoad assembly s) := by
  rw [Site.abortLoad, Site.abortLoad, alike.note, alike.update]

theorem load_assembly (assembly : String) {generate other : Action σ (Except HostError α)}
    (inside : Action.Match alter P E generate other) :
    Action.Match alter P E (first.loadAssembly assembly generate)
      (second.loadAssembly assembly other) := by
  refine Action.Alike.bind (alike.begin_load assembly) fun _ => ?_
  refine Action.Alike.bind (inside.onInterrupt (alike.abort_load assembly)
    (alike.aborted assembly)) fun result => ?_
  refine Action.Alike.bind (alike.finish_load assembly) fun finished => ?_
  split
  · exact .idle _
  · exact .idle _

theorem define_class (d : ClassDefinition) :
    Action.Match alter P E (first.defineClass d) (second.defineClass d) := by
  refine Action.Alike.bind (alike.steps fun _ => rfl) fun generated => ?_
  split
  · exact .idle _
  · refine Action.Alike.bind (alike.writes _) fun _ => ?_
    exact alike.announcing _ _
  · refine Action.Alike.bind (alike.writes _) fun _ => ?_
    refine Action.Alike.bind (alike.modifies fun _ => rfl) fun _ => ?_
    exact .idle _

theorem process_pending :
    Action.Match alter P E first.processPending second.processPending := by
  refine Action.Alike.bind (alike.steps fun _ => rfl) fun settled => ?_
  refine Action.Alike.bind (alike.writes _) fun _ => ?_
  apply Action.Alike.bind
  · exact .forM fun ref _ => alike.announcing _ ()
  intro _
  refine Action.Alike.bind alike.gets fun host => ?_
  dsimp only
  split
  · refine Action.Alike.bind (alike.writes _) fun _ => ?_
    exact alike.announcing _ _
  · exact alike.announcing _ _

theorem define_struct (d : ManagedStruct) :
    Action.Match alter P E (first.defineStruct d) (second.defineStruct d) := by
  refine Action.Alike.bind alike.gets fun host => ?_
  split
  · exact .idle _
  · refine Action.Alike.bind (alike.modifies fun _ => rfl) fun _ => ?_
    exact alike.announcing _ _

theorem define_enum (d : ManagedEnum) :
    Action.Match alter P E (first.defineEnum d) (second.defineEnum d) := by
  refine Action.Alike.bind alike.gets fun host => ?_
  split
  · exact .idle _
  · refine Action.Alike.bind (alike.modifies fun _ => rfl) fun _ => ?_
    exact alike.announcing _ _

end Alike

end AssemblyHost.Site

end BlueprintBridge
