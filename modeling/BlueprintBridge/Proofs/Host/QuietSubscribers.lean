import BlueprintBridge.Host.AssemblyHost
import BlueprintBridge.Proofs.Action

/-!
# Hosts whose subscribers do not call back

Where every handler returns and leaves the host alone, an operation of the host always returns. It
leaves the host that the operation makes of it, and each subscriber heard the announcements of the
operation in order, all of them made from that host.
-/

namespace BlueprintBridge.AssemblyHost

set_option autoImplicit false

variable {σ H β : Type}

def listeners (host : AssemblyHost H) (news : Announcement) : List H :=
  (host.channels.get news.kind).handlers.map Prod.snd

def heard (hear : AssemblyHost H → Announcement → H → β → β) (host : AssemblyHost H) (seen : β)
    (news : Announcement) : β :=
  (host.listeners news).foldl (fun seen handler => hear host news handler seen) seen

def defined (host : AssemblyHost H) (d : ClassDefinition) : AssemblyHost H :=
  match host.graph.generate d with
  | (.ok none, graph) => { host with graph, parked := host.parked ++ [d] }
  | (_, graph) => { host with graph }

def newsOfDefining (host : AssemblyHost H) (d : ClassDefinition) : List Announcement :=
  match (host.graph.generate d).1 with
  | .ok (some ref) => [.newClass ref]
  | _ => []

def retried (host : AssemblyHost H) : AssemblyHost H :=
  let pass := (host.graph.settle host.parked).value
  { host with graph := pass.graph, parked := pass.parked }

def newsOfRetrying (host : AssemblyHost H) : List Announcement :=
  let pass := (host.graph.settle host.parked).value
  pass.generated.map .newClass ++ [.pendingProcessed pass.generated.length pass.parked.length]

def begun (host : AssemblyHost H) (assembly : String) : AssemblyHost H :=
  { host with loads := host.loads.start assembly }

def finished (host : AssemblyHost H) (assembly : String) : AssemblyHost H :=
  { host with loads := (host.loads.finish assembly).2 }

def newsOfFinishing (host : AssemblyHost H) (assembly : String) : List Announcement :=
  if host.loads.isLoading assembly then [.assemblyLoaded assembly] else []

def published {kind : ObjectKind} (host : AssemblyHost H) :
    Except GraphError (Ref kind × TypeGraph) → AssemblyHost H
  | .ok (_, graph) => { host with graph }
  | .error _ => host

def newsOfPublishing {kind : ObjectKind} (news : Ref kind → Announcement) :
    Except GraphError (Ref kind × TypeGraph) → List Announcement
  | .ok (ref, _) => [news ref]
  | .error _ => []

namespace Site

/-- No handler of a site calls back. `Ready` holds where handlers may be called, `view` shows what
they change, and `hear` says how. -/
structure QuietSubscribers (site : Site σ H) (Ready : σ → Prop) (view : σ → β)
    (hear : AssemblyHost H → Announcement → H → β → β) : Prop where
  lawful : site.host.Lawful
  written : ∀ host s, Ready s → host.channels = (site.host.read s).channels →
    Ready (site.host.write host s) ∧ view (site.host.write host s) = view s
  noted : ∀ record s, Ready s → Ready (site.note record s) ∧
    site.host.read (site.note record s) = site.host.read s ∧ view (site.note record s) = view s
  called : ∀ news handler s, Ready s → handler ∈ (site.host.read s).listeners news →
    ∃ t, site.call news handler s = .ok () t ∧ Ready t ∧
      site.host.read t = site.host.read s ∧ view t = hear (site.host.read s) news handler (view s)

/-- A state with this host, in which this is seen and handlers may be called. -/
structure Rests (site : Site σ H) (Ready : σ → Prop) (view : σ → β) (t : σ)
    (host : AssemblyHost H) (seen : β) : Prop where
  ready : Ready t
  host : site.host.read t = host
  seen : view t = seen

variable {site : Site σ H} {Ready : σ → Prop} {view : σ → β}
  {hear : AssemblyHost H → Announcement → H → β → β} {s : σ} {host : AssemblyHost H} {seen : β}

namespace QuietSubscribers

theorem write_host (quiet : site.QuietSubscribers Ready view hear) (next : AssemblyHost H)
    (rests : site.Rests Ready view s host seen) (channels : next.channels = host.channels) :
    site.Rests Ready view (site.host.write next s) next seen := by
  have same : next.channels = (site.host.read s).channels := by rw [rests.host, channels]
  obtain ⟨ready, unseen⟩ := quiet.written next s rests.ready same
  exact ⟨ready, quiet.lawful.read_write next s, unseen.trans rests.seen⟩

theorem write_records (quiet : site.QuietSubscribers Ready view hear) (records : List Record)
    (rests : site.Rests Ready view s host seen) :
    ∃ t, site.write records s = .ok () t ∧ site.Rests Ready view t host seen := by
  refine ⟨_, rfl, ?_⟩
  induction records generalizing s with
  | nil => exact rests
  | cons record rest ih =>
      obtain ⟨ready, same, unseen⟩ := quiet.noted record s rests.ready
      exact ih ⟨ready, same.trans rests.host, unseen.trans rests.seen⟩

/-- The handlers of an announcement are called one after the other, and the host stays. -/
theorem announce (quiet : site.QuietSubscribers Ready view hear) (news : Announcement)
    (rests : site.Rests Ready view s host seen) :
    ∃ count t, site.announce news s = .ok count t ∧
      site.Rests Ready view t host (heard hear host seen news) := by
  have calls (handlers : List (Nat × H)) :
      ∀ s seen, (∀ handler ∈ handlers, handler.2 ∈ host.listeners news) →
        site.Rests Ready view s host seen →
        ∃ t, handlers.forM (fun handler => site.call news handler.2) s = .ok () t ∧
          site.Rests Ready view t host
            ((handlers.map Prod.snd).foldl
              (fun seen handler => hear host news handler seen) seen) := by
    induction handlers with
    | nil => exact fun s seen _ rests => ⟨s, rfl, rests⟩
    | cons handler rest ih =>
        intro s seen attached rests
        have listens : handler.2 ∈ (site.host.read s).listeners news := by
          rw [rests.host]
          exact attached handler (List.mem_cons_self ..)
        obtain ⟨t, run, ready, same, heard⟩ := quiet.called news handler.2 s rests.ready listens
        rw [rests.host, rests.seen] at heard
        obtain ⟨finish, later, last⟩ := ih t _
          (fun other member => attached other (List.mem_cons_of_mem _ member))
          ⟨ready, same.trans rests.host, heard⟩
        exact ⟨finish, (Action.bind_of_ok run).trans later, last⟩
  have channel : ((site.host.read s).channels.get news.kind).handlers =
      (host.channels.get news.kind).handlers := by rw [rests.host]
  obtain ⟨t, run, last⟩ := calls ((site.host.read s).channels.get news.kind).handlers s seen
    (by rw [channel]; exact fun _ member => List.mem_map_of_mem member) rests
  rw [channel] at last
  exact ⟨_, t, Action.bind_of_ok run, last⟩

theorem announce_classes (quiet : site.QuietSubscribers Ready view hear) (refs : List ClassRef)
    (rests : site.Rests Ready view s host seen) :
    ∃ t, (refs.forM fun ref => do let _ ← site.announce (.newClass ref)) s = .ok () t ∧
      site.Rests Ready view t host
        ((refs.map Announcement.newClass).foldl (heard hear host) seen) := by
  induction refs generalizing s seen with
  | nil => exact ⟨s, rfl, rests⟩
  | cons ref rest ih =>
      obtain ⟨_, t, run, later⟩ := quiet.announce (.newClass ref) rests
      obtain ⟨finish, runs, last⟩ := ih later
      have told : (do let _ ← site.announce (.newClass ref) : Action σ Unit) s = .ok () t :=
        Action.bind_of_ok run
      exact ⟨finish, (Action.bind_of_ok told).trans runs, last⟩

theorem begin_load (quiet : site.QuietSubscribers Ready view hear) (assembly : String)
    (rests : site.Rests Ready view s host seen) :
    ∃ t, site.beginLoad assembly s = .ok () t ∧
      site.Rests Ready view t (host.begun assembly) seen := by
  obtain ⟨t, noted, later⟩ := quiet.write_records
    [⟨.debug, s!"Loading managed assembly '{assembly}'"⟩] rests
  refine ⟨_, (Action.bind_of_ok noted).trans rfl, ?_⟩
  rw [Part.update, later.host]
  exact quiet.write_host _ later rfl

theorem finish_load (quiet : site.QuietSubscribers Ready view hear) (assembly : String)
    (rests : site.Rests Ready view s host seen) :
    ∃ t, site.finishLoad assembly s =
        .ok (if host.loads.isLoading assembly then .ok ()
          else .error (.assemblyNotLoading assembly))
          t ∧
      site.Rests Ready view t (host.finished assembly)
        ((host.newsOfFinishing assembly).foldl (heard hear (host.finished assembly)) seen) := by
  have written := quiet.write_host (host.finished assembly) rests rfl
  have step :
      site.host.step (fun host => (host.loads.isLoading assembly, host.finished assembly)) s =
      .ok (host.loads.isLoading assembly) (site.host.write (host.finished assembly) s) := by
    simp only [Part.step, rests.host]
  unfold newsOfFinishing
  cases active : host.loads.isLoading assembly with
  | false =>
      rw [active] at step
      exact ⟨_, (Action.bind_of_ok step).trans rfl, written⟩
  | true =>
      rw [active] at step
      obtain ⟨t, noted, later⟩ := quiet.write_records
        [⟨.info, s!"Managed assembly '{assembly}' loaded"⟩] written
      obtain ⟨_, finish, announced, last⟩ := quiet.announce (.assemblyLoaded assembly) later
      exact ⟨finish, (Action.bind_of_ok step).trans ((Action.bind_of_ok noted).trans
        (Action.bind_of_ok announced)), last⟩

theorem define_class (quiet : site.QuietSubscribers Ready view hear) (d : ClassDefinition)
    (rests : site.Rests Ready view s host seen) :
    ∃ t, site.defineClass d s = .ok ((host.graph.generate d).1.mapError .graph) t ∧
      site.Rests Ready view t (host.defined d)
        ((host.newsOfDefining d).foldl (heard hear (host.defined d)) seen) := by
  obtain ⟨answer, graph, run⟩ : ∃ answer graph, host.graph.generate d = (answer, graph) :=
    ⟨_, _, rfl⟩
  have step : site.host.step (fun host =>
      ((host.graph.generate d).1, { host with graph := (host.graph.generate d).2 })) s =
      .ok answer (site.host.write { host with graph } s) := by
    simp only [Part.step, rests.host, run]
  have written := quiet.write_host { host with graph } rests rfl
  unfold newsOfDefining defined
  rw [run]
  cases answer with
  | error e => exact ⟨_, (Action.bind_of_ok step).trans rfl, written⟩
  | ok made =>
      cases made with
      | some ref =>
          obtain ⟨t, noted, later⟩ := quiet.write_records [TypeGraph.generatedRecord d ref] written
          obtain ⟨_, finish, announced, last⟩ := quiet.announce (.newClass ref) later
          exact ⟨finish, (Action.bind_of_ok step).trans ((Action.bind_of_ok noted).trans
            (Action.bind_of_ok announced)), last⟩
      | none =>
          obtain ⟨t, noted, later⟩ := quiet.write_records
            [⟨.debug, s!"Parking class '{d.name}' until its parent is generated"⟩] written
          have parked := quiet.write_host
            { host with graph, parked := host.parked ++ [d] } later rfl
          refine ⟨_, (Action.bind_of_ok step).trans ((Action.bind_of_ok noted).trans rfl), ?_⟩
          rw [Part.update, later.host]
          exact parked

theorem process_pending (quiet : site.QuietSubscribers Ready view hear)
    (rests : site.Rests Ready view s host seen) :
    ∃ t, site.processPending s =
        .ok (host.graph.settle host.parked).value.generated.length t ∧
      site.Rests Ready view t host.retried
        (host.newsOfRetrying.foldl (heard hear host.retried) seen) := by
  have step : (site.host.step fun host =>
      let settled := host.graph.settle host.parked
      (settled, { host with graph := settled.value.graph, parked := settled.value.parked })) s =
      .ok (host.graph.settle host.parked) (site.host.write host.retried s) := by
    simp only [Part.step, rests.host]
    rfl
  have written := quiet.write_host host.retried rests rfl
  obtain ⟨noted, writing, later⟩ :=
    quiet.write_records (host.graph.settle host.parked).records written
  obtain ⟨told, telling, after⟩ :=
    quiet.announce_classes (host.graph.settle host.parked).value.generated later
  unfold processPending newsOfRetrying
  rw [Action.bind_of_ok step, Action.bind_of_ok writing, Action.bind_of_ok telling,
    List.foldl_append]
  have count : (site.host.read told).parked.length = host.retried.parked.length := by
    rw [after.host]
  have looked : site.host.get told = .ok (site.host.read told) told := rfl
  rw [Action.bind_of_ok looked, count]
  -- The warning about what is still parked makes no difference to the last announcement.
  split
  · obtain ⟨_, warning, rest⟩ := quiet.write_records _ after
    obtain ⟨_, finish, announced, last⟩ := quiet.announce (.pendingProcessed _ _) rest
    exact ⟨finish, (Action.bind_of_ok warning).trans (Action.bind_of_ok announced), last⟩
  · obtain ⟨_, finish, announced, last⟩ := quiet.announce (.pendingProcessed _ _) after
    exact ⟨finish, Action.bind_of_ok announced, last⟩

theorem publish {α : Type} (quiet : site.QuietSubscribers Ready view hear) (graph : TypeGraph)
    (news : Announcement) (answer : α) (rests : site.Rests Ready view s host seen) :
    ∃ t, (do
        site.host.modify fun host => { host with graph }
        let _ ← site.announce news
        return answer : Action σ α) s = .ok answer t ∧
      site.Rests Ready view t { host with graph } (heard hear { host with graph } seen news) := by
  have written := quiet.write_host { host with graph } rests rfl
  have step : site.host.modify (fun host => { host with graph }) s =
      .ok () (site.host.write { host with graph } s) := by
    rw [Part.modify, Part.update, rests.host]
  obtain ⟨_, finish, announced, last⟩ := quiet.announce news written
  exact ⟨finish, (Action.bind_of_ok step).trans (Action.bind_of_ok announced), last⟩

theorem define_struct (quiet : site.QuietSubscribers Ready view hear) (definition : ManagedStruct)
    (rests : site.Rests Ready view s host seen) :
    ∃ t, site.defineStruct definition s =
        .ok (((host.graph.defineStruct definition).map Prod.fst).mapError .graph) t ∧
      site.Rests Ready view t (host.published (host.graph.defineStruct definition))
        ((newsOfPublishing .newStruct (host.graph.defineStruct definition)).foldl
          (heard hear (host.published (host.graph.defineStruct definition))) seen) := by
  have looked : site.host.get s = .ok host s := by rw [Part.get, rests.host]
  unfold defineStruct
  rw [Action.bind_of_ok looked]
  rcases host.graph.defineStruct definition with e | ⟨ref, graph⟩
  · exact ⟨s, rfl, rests⟩
  · exact quiet.publish graph (.newStruct ref) (Except.ok ref) rests

theorem define_enum (quiet : site.QuietSubscribers Ready view hear) (definition : ManagedEnum)
    (rests : site.Rests Ready view s host seen) :
    ∃ t, site.defineEnum definition s =
        .ok (((host.graph.defineEnum definition).map Prod.fst).mapError .graph) t ∧
      site.Rests Ready view t (host.published (host.graph.defineEnum definition))
        ((newsOfPublishing .newEnum (host.graph.defineEnum definition)).foldl
          (heard hear (host.published (host.graph.defineEnum definition))) seen) := by
  have looked : site.host.get s = .ok host s := by rw [Part.get, rests.host]
  unfold defineEnum
  rw [Action.bind_of_ok looked]
  rcases host.graph.defineEnum definition with e | ⟨ref, graph⟩
  · exact ⟨s, rfl, rests⟩
  · exact quiet.publish graph (.newEnum ref) (Except.ok ref) rests

end QuietSubscribers

end Site

end BlueprintBridge.AssemblyHost
