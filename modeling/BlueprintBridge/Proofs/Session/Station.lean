import BlueprintBridge.Proofs.Drain.QuietEngine
import BlueprintBridge.Proofs.Orders
import BlueprintBridge.Session.Run

/-!
# A station whose engine does not call back

Where the scripts for compilations and collections make no steps, the engine of a station leaves
everything but the trace alone, so its recompiler drains as one whose engine does not call back.
Where compilations end in a registry, its compilers decide whether a blueprint failed.
-/

namespace BlueprintBridge.Session

set_option autoImplicit false

def TraceEntry.call? : TraceEntry → Option EngineCall
  | compile _ blueprint _ => some (.compile blueprint)
  | collect _ _ _ => some .collect
  | _ => none

def callsIn (trace : List TraceEntry) : List EngineCall := trace.filterMap TraceEntry.call?

theorem mem_of_take_first {α : Type} {test : α → Bool} {list rest : List α} {first : α}
    (taken : takeFirst? test list = some (first, rest)) : first ∈ list ∧ rest ⊆ list := by
  induction list generalizing rest with
  | nil => cases taken
  | cons head tail ih =>
      unfold takeFirst? at taken
      split at taken
      · cases taken
        exact ⟨List.mem_cons_self .., List.subset_cons_self ..⟩
      · obtain ⟨⟨found, left⟩, later, same⟩ := Option.map_eq_some_iff.mp taken
        cases same
        obtain ⟨member, others⟩ := ih later
        exact ⟨List.mem_cons_of_mem _ member, List.cons_subset_cons _ others⟩

theorem getting (w : World) : (get : Act World) w = .ok w w := rfl

theorem changing (f : World → World) (w : World) : change f w = .ok () (f w) := rfl

theorem run_nothing (fuel : Nat) (w : World) : runScript (fuel + 1) [] w = .ok () w := rfl

theorem World.station_set_same (w : World) (id : Nat) (s : Station) :
    (w.setStation id s).station id = s := by
  rw [station_setStation, if_pos rfl]

def World.compilersOf (w : World) (station : Nat) : Option CompilerRegistry :=
  (w.station station).registry.map w.registry

/-- A world after the engine got some calls and made no step: more is on the trace, fewer scripts
are left, and everything else is as it was. -/
structure Called (w : World) (calls : List EngineCall) (t : World) : Prop where
  rest : t = { w with
    trace := t.trace, compileScripts := t.compileScripts, collectScripts := t.collectScripts }
  calls : callsIn t.trace = callsIn w.trace ++ calls
  compile_scripts : t.compileScripts ⊆ w.compileScripts
  collect_scripts : t.collectScripts ⊆ w.collectScripts

namespace Called

variable {w t u : World} {calls more : List EngineCall}

theorem refl (w : World) : Called w [] w where
  rest := rfl
  calls := (List.append_nil _).symm
  compile_scripts := List.Subset.refl _
  collect_scripts := List.Subset.refl _

theorem trans (first : Called w calls t) (later : Called t more u) :
    Called w (calls ++ more) u where
  rest := later.rest.trans (congrArg (fun x : World => { x with
    trace := u.trace, compileScripts := u.compileScripts, collectScripts := u.collectScripts })
    first.rest)
  calls := by rw [later.calls, first.calls, List.append_assoc]
  compile_scripts := List.Subset.trans later.compile_scripts first.compile_scripts
  collect_scripts := List.Subset.trans later.collect_scripts first.collect_scripts

theorem emit (w : World) (entry : TraceEntry) : Called w entry.call?.toList (w.emit entry) where
  rest := rfl
  calls := by
    rw [callsIn, World.emit, List.filterMap_append]
    cases entry <;> rfl
  compile_scripts := List.Subset.refl _
  collect_scripts := List.Subset.refl _

theorem note (w : World) (record : Record) : Called w [] (w.note record) := by
  unfold World.note
  split
  · exact emit w (.log record)
  · exact refl w

theorem show_context (w : World) (context : CompileContext) (options : CompileOptions) :
    Called w [] (showContext context options w) := by
  unfold showContext
  split
  · exact emit w (.factory ..)
  · exact refl w

theorem host_eq (called : Called w calls t) : t.host = w.host := by rw [called.rest]

theorem registry_eq (called : Called w calls t) : t.registry = w.registry := by
  funext id
  rw [called.rest]
  rfl

theorem station_eq (called : Called w calls t) (station : Nat) :
    t.station station = w.station station := by
  rw [called.rest]
  rfl

theorem compilers_eq (called : Called w calls t) (station : Nat) :
    t.compilersOf station = w.compilersOf station := by
  rw [World.compilersOf, called.station_eq, called.registry_eq, World.compilersOf]

end Called

section

variable {w : World} {run : Script → Act Unit}

theorem next_compile_script (blueprint : BlueprintRef) :
    ∃ script? t, nextCompileScript blueprint w = .ok script? t ∧
      (∀ script ∈ script?, script ∈ w.compileScripts) ∧ Called w [] t := by
  unfold nextCompileScript
  split
  · next script rest taken =>
      obtain ⟨member, others⟩ := mem_of_take_first taken
      refine ⟨some script, _, rfl, ?_,
        { Called.refl w with rest := rfl, compile_scripts := others }⟩
      rintro other ⟨⟩
      exact member
  · exact ⟨none, w, rfl, (by simp), Called.refl w⟩

theorem next_collect_script :
    ∃ script t, nextCollectScript w = .ok script t ∧ (script = [] ∨ script ∈ w.collectScripts) ∧
      Called w [] t := by
  unfold nextCollectScript
  split
  · next script rest some =>
      have others : rest ⊆ w.collectScripts := some ▸ List.subset_cons_self ..
      exact ⟨script, _, rfl, .inr (some ▸ List.mem_cons_self ..),
        { Called.refl w with rest := rfl, collect_scripts := others }⟩
  · exact ⟨[], w, rfl, .inl rfl, Called.refl w⟩

theorem compile_through (registry : Nat) (blueprint : BlueprintRef) (options : CompileOptions) :
    ∃ t, compileThrough registry blueprint options w =
        .ok ((w.registry registry).compile w.host.graph blueprint options) t ∧ Called w [] t := by
  simp only [compileThrough]
  split
  · exact ⟨w, rfl, Called.refl w⟩
  · next context _ =>
      exact ⟨_, rfl, (Called.show_context w context options).trans (Called.note _ _)⟩

theorem engine_compile (nothing : ∀ w, run [] w = .ok () w)
    (quiet : ∀ script ∈ w.compileScripts, script.steps = []) (station : Nat)
    (blueprint : BlueprintRef) (options : CompileOptions) :
    ∃ log t, engineCompile run station blueprint options w = .ok log t ∧
      (∀ compilers ∈ w.compilersOf station,
        log = compilers.compile w.host.graph blueprint options) ∧
      Called w [.compile blueprint] t := by
  have asked := Called.emit w (.compile (w.station station).slot blueprint options)
  obtain ⟨script?, taken, taking, scripted, left⟩ := next_compile_script
    (w := w.emit (.compile (w.station station).slot blueprint options)) blueprint
  have before : Called w [.compile blueprint] taken := asked.trans left
  have ran : ∀ script ∈ script?, run script.steps taken = .ok () taken := by
    intro script found
    rw [quiet script (scripted script found)]
    exact nothing taken
  unfold engineCompile World.compilersOf
  rw [Action.bind_of_ok (getting w), Action.bind_of_ok (changing _ w)]
  rw [Action.bind_of_ok taking]
  -- Whatever the script answers, the registry decides.
  cases (w.station station).registry with
  | none =>
      cases script? with
      | none => exact ⟨_, taken, rfl, (by simp), before⟩
      | some script => exact ⟨_, taken, Action.bind_of_ok (ran script rfl), (by simp), before⟩
  | some registry =>
      obtain ⟨t, compiling, compiled⟩ := compile_through (w := taken) registry blueprint options
      have shown := compiled.trans (Called.emit t (.compiled (w.station station).slot
        ((taken.registry registry).compile taken.host.graph blueprint options)))
      have after := before.trans shown
      have same : ∀ compilers ∈ (some registry).map w.registry,
          (taken.registry registry).compile taken.host.graph blueprint options =
            compilers.compile w.host.graph blueprint options := by
        rintro _ ⟨⟩
        rw [before.host_eq, before.registry_eq]
      cases script? with
      | none => exact ⟨_, _, Action.bind_of_ok compiling, same, after⟩
      | some script =>
          refine ⟨_, _, (Action.bind_of_ok (ran script rfl)).trans ?_, same, after⟩
          exact Action.bind_of_ok compiling

theorem engine_collect (nothing : ∀ w, run [] w = .ok () w)
    (quiet : ∀ script ∈ w.collectScripts, script = []) (station : Nat) (keep : ObjectFlags)
    (fullPurge : Bool) :
    ∃ t, engineCollect run station keep fullPurge w = .ok () t ∧ Called w [.collect] t := by
  have asked := Called.emit w (.collect (w.station station).slot keep fullPurge)
  obtain ⟨script, t, taking, scripted, left⟩ := next_collect_script
    (w := w.emit (.collect (w.station station).slot keep fullPurge))
  have empty : script = [] := scripted.elim id (quiet script)
  refine ⟨t, ?_, asked.trans left⟩
  unfold engineCollect
  rw [Action.bind_of_ok (getting w), Action.bind_of_ok (changing _ w),
    Action.bind_of_ok taking, empty]
  exact nothing t

end

/-- What is known of a world around a station: its host, its slots, who holds the station, whether
a drain runs there and what it has to drain. No script makes a step. -/
structure QuietStation (station : Nat) (host : AssemblyHost Handler) (slots : Catalog Nat Tenant)
    (holders : Nat) (running : Bool) (state : DrainState) (w : World) : Prop where
  host : w.host = host
  slots : w.slots = slots
  holders : (w.station station).holders = holders
  running : (w.station station).recompiler.compiling = running
  backlog : (w.station station).recompiler.backlog = state.backlog
  calls : callsIn w.trace = state.calls
  compile_quiet : ∀ script ∈ w.compileScripts, script.steps = []
  collect_quiet : ∀ script ∈ w.collectScripts, script = []

namespace QuietStation

variable {station : Nat} {host : AssemblyHost Handler} {slots : Catalog Nat Tenant}
  {holders : Nat} {running : Bool} {state : DrainState} {w t : World}

theorem called {calls : List EngineCall}
    (quiet : QuietStation station host slots holders running state w) (called : Called w calls t) :
    QuietStation station host slots holders running
      { state with calls := state.calls ++ calls } t where
  host := called.host_eq.trans quiet.host
  slots := by rw [called.rest, quiet.slots]
  holders := by rw [called.station_eq, quiet.holders]
  running := by rw [called.station_eq, quiet.running]
  backlog := by rw [called.station_eq, quiet.backlog]
  calls := by rw [called.calls, quiet.calls]
  compile_quiet script left := quiet.compile_quiet script (called.compile_scripts left)
  collect_quiet script left := quiet.collect_quiet script (called.collect_scripts left)

theorem note (quiet : QuietStation station host slots holders running state w) (record : Record) :
    QuietStation station host slots holders running state (w.note record) := by
  simpa using quiet.called (Called.note w record)

theorem notes (quiet : QuietStation station host slots holders running state w)
    (records : List Record) :
    QuietStation station host slots holders running state (w.notes records) := by
  induction records generalizing w with
  | nil => exact quiet
  | cons record rest ih => exact ih (quiet.note record)

theorem set_station (quiet : QuietStation station host slots holders running state w)
    (s : Station) :
    QuietStation station host slots s.holders s.recompiler.compiling
      { state with backlog := s.recompiler.backlog } (w.setStation station s) where
  host := quiet.host
  slots := quiet.slots
  holders := by rw [World.station_set_same]
  running := by rw [World.station_set_same]
  backlog := by rw [World.station_set_same]
  calls := quiet.calls
  compile_quiet := quiet.compile_quiet
  collect_quiet := quiet.collect_quiet

theorem hold (quiet : QuietStation station host slots holders running state w) :
    QuietStation station host slots (holders + 1) running state (w.hold station) := by
  have held := quiet.set_station { w.station station with holders := holders + 1 }
  rw [← quiet.holders] at held ⊢
  rwa [quiet.running, quiet.backlog] at held

theorem let_go (quiet : QuietStation station host slots (holders + 1) running state w) :
    QuietStation station host slots holders running state (w.letGo station) := by
  have one : (w.station station).holders - 1 = holders := by
    rw [quiet.holders, Nat.add_sub_cancel]
  have free := quiet.set_station
    { w.station station with holders := (w.station station).holders - 1 }
  rw [quiet.running, quiet.backlog] at free
  rw [← one]
  exact free

end QuietStation

/-- What is known of a world whose station compiles through these compilers, if it has any: its
host, the recompiler of the station, and the calls that the engine got. No compilation makes a
step. -/
structure CompilesThrough (station : Nat) (host : AssemblyHost Handler)
    (compilers? : Option CompilerRegistry) (r : Recompiler) (calls : List EngineCall)
    (w : World) : Prop where
  host : w.host = host
  recompiler : (w.station station).recompiler = r
  compilers : w.compilersOf station = compilers?
  calls : callsIn w.trace = calls
  compile_quiet : ∀ script ∈ w.compileScripts, script.steps = []

namespace CompilesThrough

variable {station : Nat} {host : AssemblyHost Handler} {compilers? : Option CompilerRegistry}
  {r : Recompiler} {calls more : List EngineCall} {w t : World}

theorem called (through : CompilesThrough station host compilers? r calls w)
    (called : Called w more t) : CompilesThrough station host compilers? r (calls ++ more) t where
  host := called.host_eq.trans through.host
  recompiler := by rw [called.station_eq, through.recompiler]
  compilers := by rw [called.compilers_eq, through.compilers]
  calls := by rw [called.calls, through.calls]
  compile_quiet script left := through.compile_quiet script (called.compile_scripts left)

theorem written (through : CompilesThrough station host compilers? r calls w)
    (next : Recompiler) :
    CompilesThrough station host compilers? next calls
      ((World.recompilerPart station).write next w) where
  host := through.host
  recompiler := congrArg Station.recompiler (w.station_set_same station _)
  compilers := by
    change ((w.setStation station _).station station).registry.map w.registry = compilers?
    rw [World.station_set_same]
    exact through.compilers
  calls := through.calls
  compile_quiet := through.compile_quiet

end CompilesThrough

def SaidBy (compilers? : Option CompilerRegistry) (g : TypeGraph) (blueprint : BlueprintRef)
    (failed : Bool) : Prop :=
  ∀ compilers ∈ compilers?, ∃ options, (compilers.compile g blueprint options).hasErrors = failed

section

variable {run : Script → Act Unit} {station : Nat} {host : AssemblyHost Handler}
  {compilers? : Option CompilerRegistry} {Holds : Recompiler → List EngineCall → World → Prop}

/-- Where compilations make no step, whatever else is known of the world and is left alone by calls
of the engine and by writing a recompiler stays known. -/
theorem recompiler_site_compiles (nothing : ∀ w, run [] w = .ok () w)
    (through : ∀ {r calls w}, Holds r calls w → CompilesThrough station host compilers? r calls w)
    (called : ∀ {r calls more w t}, Holds r calls w → Called w more t → Holds r (calls ++ more) t)
    (written : ∀ {r calls w} next, Holds r calls w →
      Holds next calls ((World.recompilerPart station).write next w)) :
    (recompilerSite run station).QuietCompilation host.loads.isLoadingAny
      (SaidBy compilers? host.graph) Holds where
  read holds := (through holds).recompiler
  gate {_ _ w} holds := by
    rw [← (through holds).host]
    rfl
  written next holds := written next holds
  noted {_ _ w} record holds := by
    have noted := called holds (Called.note w record)
    rwa [List.append_nil] at noted
  compiled blueprint options holds := by
    have known := through holds
    obtain ⟨log, t, compiling, said, asked⟩ :=
      engine_compile nothing known.compile_quiet station blueprint options
    refine ⟨log, t, compiling, fun compilers given => ⟨options, ?_⟩, called holds asked⟩
    rw [said compilers (known.compilers.symm ▸ given), known.host]

end

structure QuietRecompiler (station : Nat) (host : AssemblyHost Handler)
    (slots : Catalog Nat Tenant) (holders : Nat) (compilers? : Option CompilerRegistry)
    (r : Recompiler) (calls : List EngineCall) (w : World) : Prop where
  quiet : QuietStation station host slots holders r.compiling ⟨r.backlog, calls⟩ w
  through : CompilesThrough station host compilers? r calls w

theorem recompiler_site_quiet {run : Script → Act Unit} (nothing : ∀ w, run [] w = .ok () w)
    (station : Nat) (host : AssemblyHost Handler) (slots : Catalog Nat Tenant) (holders : Nat)
    (compilers? : Option CompilerRegistry) :
    (recompilerSite run station).QuietEngine host.loads.isLoadingAny (SaidBy compilers? host.graph)
      (QuietRecompiler station host slots holders compilers?) where
  toQuietCompilation := by
    apply recompiler_site_compiles nothing QuietRecompiler.through
    · exact fun holds called => ⟨holds.quiet.called called, holds.through.called called⟩
    · intro r calls w next holds
      have written := holds.quiet.set_station { w.station station with recompiler := next }
      rw [holds.quiet.holders] at written
      exact ⟨written, holds.through.written next⟩
  collected keep fullPurge holds := by
    obtain ⟨t, collecting, called⟩ :=
      engine_collect nothing holds.quiet.collect_quiet station keep fullPurge
    exact ⟨t, collecting, holds.quiet.called called, holds.through.called called⟩

namespace QuietStation

variable {station : Nat} {host : AssemblyHost Handler} {slots : Catalog Nat Tenant}
  {holders : Nat} {running : Bool} {state : DrainState} {w : World} {run : Script → Act Unit}

theorem trigger (quiet : QuietStation station host slots holders false state w)
    (nothing : ∀ w, run [] w = .ok () w) (fuel : Nat) :
    ∃ outcome t, Session.trigger run (fuel + 2) station w = .ok outcome t ∧
      QuietStation station host slots holders false (state.trigger host.loads.isLoadingAny) t := by
  obtain ⟨backlog, calls⟩ := state
  have idle := quiet.running
  have waiting : (w.station station).recompiler.backlog = backlog := quiet.backlog
  subst waiting
  have known : QuietRecompiler station host slots holders (w.compilersOf station)
      (w.station station).recompiler calls w :=
    ⟨by rwa [idle], quiet.host, rfl, rfl, quiet.calls, quiet.compile_quiet⟩
  obtain ⟨outcome, next, later, t, triggering, handled, held⟩ :=
    (recompiler_site_quiet nothing station host slots holders _).trigger fuel known idle
  obtain ⟨unmarked, state⟩ := handled.state
  have last := held.quiet
  rw [unmarked, idle, state] at last
  exact ⟨outcome, t, triggering, last⟩

/-- An intake feeds the backlog of the station, and does nothing else but write records. -/
theorem intake {α : Type} (quiet : QuietStation station host slots holders running state w)
    (f : TypeGraph → Backlog → Logged (α × Backlog)) :
    ∃ t, Session.intake station f w = .ok (f host.graph state.backlog).value.1 t ∧
      QuietStation station host slots holders running
        { state with backlog := (f host.graph state.backlog).value.2 } t := by
  have fed := quiet.set_station { w.station station with recompiler :=
    { (w.station station).recompiler with backlog := (f host.graph state.backlog).value.2 } }
  have written := fed.notes ((f host.graph state.backlog).records ++ [])
  refine ⟨_, ?_, quiet.running ▸ quiet.holders ▸ written⟩
  rw [← quiet.host, ← quiet.backlog]
  rfl

end QuietStation

end BlueprintBridge.Session
