import BlueprintBridge.Proofs.Loading.Account
import BlueprintBridge.Proofs.Loading.LastOf

/-!
# The list of open loads and the stack of calls

Where loads are only put inside of each other, the calls under way are a stack, and what ends is on
top of it. The host lists the open loads by name, and an ended one is struck off at the first entry
of its name, which stands for the outermost call and not for the one that ended. So of each name the
list has the loads begun last, as many as are under way. It is the stack of the calls throughout a
run exactly where no load is begun inside of one of its own name with another name in between.
-/

namespace BlueprintBridge.Loading

set_option autoImplicit false

/-- An errand that does nothing to the loads but put errands of its kind inside of them, and that
does not throw. -/
def Errand.Nests {R : Type} : Errand R → Prop
  | .done _ => True
  | .raise _ => False
  | .look next => ∀ w, (next w).Nests
  | .beginLoad _ _ => False
  | .finishLoad _ _ => False
  | .loadAssembly _ generate next => generate.Nests ∧ ∀ answer, (next answer).Nests
  | .attempt _ _ => False

/-- Subscribers that come back and leave the loads alone. To the rest of the host they may do what
they like. -/
def Unobtrusive (react : Nat → Announcement → Action Dock Unit) : Prop :=
  ∀ number news w, ∃ t, react number news w = .ok () t ∧
    t.now.host.loads = w.now.host.loads ∧ t.now.journal = w.now.journal ∧ t.past = w.past

def LoadEvent.onto : LoadEvent → List String → List String
  | begun assembly, calls => calls ++ [assembly]
  | ended _ _, calls => calls.dropLast
  | aborted _ _, calls => calls.dropLast
  | heard _, calls => calls

def underway (journal : List LoadEvent) : List String :=
  journal.foldl (fun calls event => event.onto calls) []

def LoadEvent.begun? : LoadEvent → Option String
  | begun assembly => some assembly
  | _ => none

def namesBegun (journal : List LoadEvent) : List String := journal.filterMap LoadEvent.begun?

def EndsInnermost (journal : List LoadEvent) : Prop :=
  ∀ before event after, journal = before ++ event :: after →
    ∀ assembly found, event.finish? = some (assembly, found) →
      found = true ∧ ∃ outer, underway before = outer ++ [assembly]

/-- No load was begun where one of its name was under way with one of another name inside of it. -/
def Uncrossed (journal : List LoadEvent) : Prop :=
  ∀ before event after, journal = before ++ event :: after →
    ∀ assembly, event.begun? = some assembly → ¬ Buried assembly (underway before)

def Unburied (calls : List String) : Prop :=
  ∀ outer name inner, calls = outer ++ name :: inner → ¬ Buried name outer

namespace Moment

/-- Of each name the host lists the loads begun last, as many as are under way. -/
structure ListsLatest (m : Moment) : Prop where
  nested : EndsInnermost m.journal
  perm : m.host.loads.entries.Perm (underway m.journal)
  entries : m.host.loads.entries = lastOf (underway m.journal) (namesBegun m.journal)

/-- The host lists the calls under way, the outermost first. -/
def ListsCalls (m : Moment) : Prop := m.host.loads.entries = underway m.journal

end Moment

variable {m : Moment} {w t : Dock} {assembly : String} {event : LoadEvent} {calls : List String}
  {journal : List LoadEvent} {react : Nat → Announcement → Action Dock Unit}

theorem underway_snoc (journal : List LoadEvent) (event : LoadEvent) :
    underway (journal ++ [event]) = event.onto (underway journal) := by
  simp [underway, List.foldl_append]

theorem names_begun_grown (journal : List LoadEvent) (assembly : String) :
    namesBegun (journal ++ [.begun assembly]) = namesBegun journal ++ [assembly] := by
  simp [namesBegun, LoadEvent.begun?]

theorem names_begun_same (idle : event.begun? = none) :
    namesBegun (journal ++ [event]) = namesBegun journal := by
  simp [namesBegun, idle]

theorem uncrossed_snoc :
    Uncrossed (journal ++ [event]) ↔ Uncrossed journal ∧
      ∀ assembly, event.begun? = some assembly → ¬ Buried assembly (underway journal) :=
  forall_split_snoc

theorem uncrossed_begun :
    Uncrossed (journal ++ [.begun assembly]) ↔
      Uncrossed journal ∧ ¬ Buried assembly (underway journal) := by
  simp [uncrossed_snoc, LoadEvent.begun?]

theorem uncrossed_same (idle : event.begun? = none) :
    Uncrossed (journal ++ [event]) ↔ Uncrossed journal := by
  simp [uncrossed_snoc, idle]

theorem unburied_concat :
    Unburied (calls ++ [assembly]) ↔ Unburied calls ∧ ¬ Buried assembly calls :=
  forall_split_snoc

theorem ends_innermost_snoc (earlier : EndsInnermost journal)
    (last : ∀ assembly found, event.finish? = some (assembly, found) →
      found = true ∧ ∃ outer, underway journal = outer ++ [assembly]) :
    EndsInnermost (journal ++ [event]) :=
  forall_split_snoc.mpr ⟨earlier, last⟩

namespace Moment.ListsLatest

theorem loading (lists : m.ListsLatest) (stack : underway m.journal = calls ++ [assembly]) :
    m.host.loads.isLoading assembly = true := by
  apply decide_eq_true
  apply lists.perm.mem_iff.mpr
  simp [stack]

theorem begun (lists : m.ListsLatest) (assembly : String) :
    Moment.ListsLatest
      { host := { m.host with loads := m.host.loads.start assembly }
        journal := m.journal ++ [.begun assembly] } where
  nested := ends_innermost_snoc lists.nested fun _ _ finish => by cases finish
  perm := by
    rw [underway_snoc]
    exact lists.perm.append_right [assembly]
  entries := by
    have grown : m.host.loads.entries ++ [assembly] = _ := congrArg (· ++ [assembly]) lists.entries
    rw [underway_snoc, names_begun_grown]
    exact grown.trans (last_of_concat assembly _ _).symm

theorem ended (lists : m.ListsLatest) (stack : underway m.journal = calls ++ [assembly]) :
    Moment.ListsLatest
      { host := { m.host with loads := (m.host.loads.finish assembly).2 }
        journal := m.journal ++ [.ended assembly true] } where
  nested := by
    apply ends_innermost_snoc lists.nested
    rintro _ _ ⟨⟩
    exact ⟨rfl, calls, stack⟩
  perm := by
    have struck := lists.perm.erase assembly
    rw [stack] at struck
    have popped := (List.perm_append_singleton assembly calls).erase assembly
    rw [List.erase_cons_head] at popped
    rw [underway_snoc, stack, LoadEvent.onto, List.dropLast_concat]
    exact struck.trans popped
  entries := by
    -- The host lists the innermost name once more than the calls outside of it do.
    have more : calls.count assembly < (namesBegun m.journal).count assembly := by
      have listed := (last_of_sublist (underway m.journal) (namesBegun m.journal)).count_le assembly
      rw [← lists.entries, lists.perm.count_eq, stack, count_concat, if_pos rfl] at listed
      exact listed
    have struck := erase_last_of more
    rw [← stack, ← lists.entries] at struck
    rw [underway_snoc, stack, names_begun_same rfl, LoadEvent.onto, List.dropLast_concat]
    exact struck

theorem heard (lists : m.ListsLatest) (news : Announcement) :
    (m.record (.heard news)).ListsLatest where
  nested := ends_innermost_snoc lists.nested fun _ _ finish => by cases finish
  perm := by
    rw [Moment.record, underway_snoc]
    exact lists.perm
  entries := by
    rw [Moment.record, underway_snoc, names_begun_same rfl]
    exact lists.entries

end Moment.ListsLatest

/-- These calls are under way. The host lists loads as it does where calls nest, and it has listed
the calls at every moment just if none was crossed, but for those still under way. -/
structure Standing (calls : List String) (w : Dock) : Prop where
  stack : underway w.now.journal = calls
  lists : w.Always Moment.ListsLatest
  shown_iff : w.Always Moment.ListsCalls ∧ Unburied calls ↔ Uncrossed w.now.journal

structure Seen (calls : List String) (w : Dock) : Prop extends Standing calls w where
  seen : w.now ∈ w.past

namespace Standing

theorem begun (standing : Standing calls w) (assembly : String) :
    Standing (calls ++ [assembly]) (w.change fun m =>
      { host := { m.host with loads := m.host.loads.start assembly }
        journal := m.journal ++ [.begun assembly] }) where
  stack := by
    rw [Chronicle.change, underway_snoc, standing.stack]
    rfl
  lists := standing.lists.moved rfl (standing.lists.now.begun assembly)
  shown_iff := by
    have grown : w.now.host.loads.entries ++ [assembly] = calls ++ [assembly] ↔
        w.now.host.loads.entries = calls := List.append_left_inj _
    simp only [Chronicle.always_iff, Chronicle.change, Moment.ListsCalls, underway_snoc,
      LoadEvent.onto, LoadLedger.start, standing.stack, grown, uncrossed_begun, unburied_concat,
      ← standing.shown_iff]
    tauto

theorem heard (standing : Standing calls w) (news : Announcement) :
    Standing calls (note (fun _ => .heard news) w) where
  stack := by
    rw [note, Chronicle.change, Moment.record, underway_snoc]
    exact standing.stack
  lists := standing.lists.moved rfl (standing.lists.now.heard news)
  shown_iff := by
    rw [note, Chronicle.change, Moment.record, uncrossed_same rfl, ← standing.shown_iff,
      Chronicle.always_iff, Chronicle.always_iff, Moment.ListsCalls, underway_snoc]
    rfl

theorem aside (standing : Standing calls w) (loads : t.now.host.loads = w.now.host.loads)
    (journal : t.now.journal = w.now.journal) (past : t.past = w.past) : Standing calls t where
  stack := by
    rw [journal]
    exact standing.stack
  lists := by
    apply standing.lists.moved past
    have now := standing.lists.now
    constructor
    · rw [journal]
      exact now.nested
    · rw [loads, journal]
      exact now.perm
    · rw [loads, journal]
      exact now.entries
  shown_iff := by
    rw [journal, ← standing.shown_iff, Chronicle.always_iff, Chronicle.always_iff, past,
      Moment.ListsCalls, loads, journal]
    rfl

theorem marked (standing : Standing calls w) : Seen calls { w with past := w.moments } where
  stack := standing.stack
  lists := Chronicle.always_marked.mpr standing.lists
  shown_iff := by
    rw [Chronicle.always_marked]
    exact standing.shown_iff
  seen := by simp [Chronicle.moments]

end Standing

/-- The innermost call has come back, and somebody has looked since anything else was done. Had
it been made where its name was buried, the list would not be the stack any more. -/
theorem Seen.ended (seen : Seen (calls ++ [assembly]) w) :
    Standing calls (w.change fun m =>
      { host := { m.host with loads := (m.host.loads.finish assembly).2 }
        journal := m.journal ++ [.ended assembly true] }) where
  stack := by
    rw [Chronicle.change, underway_snoc, seen.stack]
    exact List.dropLast_concat
  lists := seen.lists.moved rfl (seen.lists.now.ended seen.stack)
  shown_iff := by
    have struck (shown : w.now.ListsCalls) :
        w.now.host.loads.entries.erase assembly = calls ↔ ¬ Buried assembly calls := by
      rw [shown, seen.stack]
      exact erase_concat_eq_iff assembly calls
    have earlier (shown : ∀ m ∈ w.past, m.ListsCalls) : w.now.ListsCalls := shown _ seen.seen
    have before := seen.shown_iff
    rw [Chronicle.always_iff, unburied_concat] at before
    rw [Chronicle.always_iff, Chronicle.change, uncrossed_same rfl, ← before]
    rw [Moment.ListsCalls, underway_snoc, seen.stack, LoadEvent.onto, List.dropLast_concat]
    constructor
    · rintro ⟨⟨shown, now⟩, unburied⟩
      exact ⟨⟨shown, earlier shown⟩, unburied, (struck (earlier shown)).mp now⟩
    · rintro ⟨⟨shown, now⟩, unburied, clear⟩
      exact ⟨⟨shown, (struck now).mpr clear⟩, unburied⟩

def Noted (calls : List String) (event : Moment → LoadEvent) (w : Dock) : Prop :=
  ∃ before, Seen calls before ∧ w = note event before

section

variable {R : Type} {E : Dock → Prop}

theorem mark_seen : Action.Takes (Standing calls) (Seen calls) E Chronicle.mark :=
  fun _ standing => standing.marked

theorem note_noted (event : Moment → LoadEvent) :
    Action.Takes (Seen calls) (Noted calls event) E (modify (note event)) :=
  fun w seen => ⟨w, seen, rfl⟩

theorem begin_load_stands (assembly : String) :
    Action.Takes (Noted calls fun _ => .begun assembly) (Standing (calls ++ [assembly])) E
      ((siteWith react).beginLoad assembly) := by
  intro w noted
  obtain ⟨before, seen, rfl⟩ := noted
  exact seen.begun assembly

variable (unobtrusive : Unobtrusive react)

include unobtrusive

theorem announce_stands (news : Announcement) :
    Action.Takes (Standing calls) (Standing calls) E ((siteWith react).announce news) := by
  have called (listener : Listener) :
      Action.Takes (Standing calls) (Standing calls) E ((siteWith react).call news listener) := by
    intro w standing
    cases listener with
    | clerk => exact standing.heard news
    | other number =>
        obtain ⟨t, run, loads, journal, past⟩ := unobtrusive number news w
        have call : (siteWith react).call news (.other number) w = .ok () t := run
        rw [call]
        exact standing.aside loads journal past
  intro w standing
  have tell : Action.Takes (Standing calls) (Standing calls) E
      ((w.now.host.channels.get news.kind).broadcast ((siteWith react).call news)) := by
    apply Action.Takes.bind
    · exact Action.Takes.forM fun listener _ => called listener.2
    · exact fun _ => .pure _
  exact tell w standing

theorem finish_load_stands (assembly : String) :
    Action.Takes (Noted (calls ++ [assembly]) (Moment.ending assembly)) (Standing calls) E
      ((siteWith react).finishLoad assembly) := by
  intro w noted
  obtain ⟨before, seen, rfl⟩ := noted
  have opened : before.now.host.loads.isLoading assembly = true :=
    seen.lists.now.loading seen.stack
  have closed := seen.ended
  rw [← opened] at closed
  have unchanged : (note (Moment.ending assembly) before).now.host.loads =
      before.now.host.loads := rfl
  rw [finish_load_eq, unchanged, if_pos opened]
  have tell : Action.Takes (Standing calls) (Standing calls) E (do
      let _ ← (siteWith react).announce (.assemblyLoaded assembly)
      return .ok () : Action Dock (Except HostError Unit)) := by
    apply Action.Takes.bind (announce_stands unobtrusive _)
    exact fun _ => .pure _
  exact tell _ closed

theorem load_assembly_stands {body : Action Dock (Except HostError R)} (assembly : String)
    (inside : Action.Takes (Standing (calls ++ [assembly])) (Seen (calls ++ [assembly]))
      (fun _ => False) body) :
    Action.Takes (Noted calls fun _ => .begun assembly) (Standing calls) (fun _ => False)
      ((siteWith react).loadAssembly assembly (closing assembly body)) := by
  apply Action.Takes.bind (begin_load_stands assembly)
  intro _
  apply Action.Takes.bind
  · apply (closing_of_body assembly inside).onInterrupt
    rintro _ ⟨_, never, _⟩
    exact never.elim
  intro answer
  apply Action.Takes.bind (finish_load_stands unobtrusive assembly)
  intro ended
  cases ended with
  | ok | error => exact .pure _

/-- An errand that nests comes back to where it began, with the same calls under way. -/
theorem nest_stands (errand : Errand R) (nests : errand.Nests) (calls : List String) :
    Action.Takes (Standing calls) (Seen calls) (fun _ => False)
      (errand.run (siteWith react)) := by
  -- For any stack: what is put inside of a load runs on one with its name on top.
  induction errand generalizing calls with
  | done answer =>
      apply Action.Takes.bind mark_seen
      exact fun _ => .pure _
  | look next ih =>
      apply Action.Takes.bind mark_seen
      exact fun _ w seen => ih w (nests w) calls w seen.toStanding
  | loadAssembly assembly generate next inside ih =>
      obtain ⟨within, after⟩ := nests
      apply Action.Takes.bind mark_seen
      intro _
      apply Action.Takes.bind (note_noted _)
      intro _
      apply Action.Takes.bind
      · exact load_assembly_stands unobtrusive assembly (inside within _)
      · exact fun answer => ih answer (after answer) calls
  | raise | beginLoad | finishLoad | attempt => exact nests.elim

end

def fresh (start : AssemblyHost Listener) : Dock := ⟨⟨start, []⟩, []⟩

theorem unburied_nil : Unburied [] := by simp [Unburied]

theorem uncrossed_nil : Uncrossed [] := by simp [Uncrossed]

theorem fresh_stands {start : AssemblyHost Listener} (idle : start.loads = {}) :
    Standing [] (fresh start) := by
  have unlisted : (fresh start).now.host.loads.entries = [] := congrArg LoadLedger.entries idle
  have latest : (fresh start).now.ListsLatest := by
    constructor
    · simp [EndsInnermost, fresh]
    · rw [unlisted]
      exact .nil
    · exact unlisted
  constructor
  · rfl
  · exact Chronicle.always_iff.mpr ⟨by simp [fresh], latest⟩
  · apply iff_of_true
    · exact ⟨Chronicle.always_iff.mpr ⟨by simp [fresh], unlisted⟩, unburied_nil⟩
    · exact uncrossed_nil

/-- Errands that do nothing but put loads inside of each other come back. At every moment of such a
run the host lists of each name the loads begun last, as many as are under way; and at every moment
these are the calls under way, from the outermost to the innermost, just if no load was begun in the
run inside of one of its own name with another name in between. -/
theorem loading_list_is_call_stack_iff {R : Type} (react : Nat → Announcement → Action Dock Unit)
    (unobtrusive : Unobtrusive react) (errand : Errand R) (nests : errand.Nests)
    (start : AssemblyHost Listener) (idle : start.loads = {}) :
    ∃ answer finish, errand.run (siteWith react) (fresh start) = .ok answer finish ∧
      finish.Always Moment.ListsLatest ∧
      (finish.Always Moment.ListsCalls ↔ Uncrossed finish.now.journal) := by
  have stands := nest_stands unobtrusive errand nests [] (fresh start) (fresh_stands idle)
  cases run : errand.run (siteWith react) (fresh start) with
  | error interruption t =>
      rw [run] at stands
      exact stands.elim
  | ok answer finish =>
      rw [run] at stands
      have shown_iff := stands.shown_iff
      rw [and_iff_left unburied_nil] at shown_iff
      exact ⟨answer, finish, rfl, stands.lists, shown_iff⟩

def neighbours : Errand Unit :=
  .loadAssembly "Game"
    (.loadAssembly "Game" (.loadAssembly "Plugins" (.done (.ok ())) .done) fun _ =>
      .loadAssembly "Plugins" (.done (.error (.packageNotFound "/Plugins"))) .done)
    .done

def detachAll (_ : Nat) (_ : Announcement) : Action Dock Unit :=
  modify fun w => w.change fun m => { m with host := { m.host with channels := .initial } }

theorem neighbours_listed_as_called :
    let finish := stateAfter (neighbours.run (siteWith detachAll) (fresh attendedDock.now.host))
    neighbours.Nests ∧ Unobtrusive detachAll ∧ attendedDock.now.host.loads = {} ∧
      (∃ m ∈ finish.moments, m.host.loads.entries = ["Game", "Game", "Plugins"]) ∧
      finish.Always Moment.ListsLatest ∧ finish.Always Moment.ListsCalls ∧
      Uncrossed finish.now.journal := by
  intro finish
  have nests : neighbours.Nests := by simp [neighbours, Errand.Nests]
  have unobtrusive : Unobtrusive detachAll := fun _ _ w => ⟨_, rfl, rfl, rfl, rfl⟩
  have idle : attendedDock.now.host.loads = {} := rfl
  have shown : ∀ m ∈ finish.moments, m.host.loads.entries = underway m.journal := by
    decide +kernel
  obtain ⟨answer, last, run, latest, shown_iff⟩ :=
    loading_list_is_call_stack_iff detachAll unobtrusive neighbours nests _ idle
  have same : last = finish := by
    simp only [finish, run, stateAfter]
  rw [same] at latest shown_iff
  exact ⟨nests, unobtrusive, idle, by decide +kernel, latest, shown, shown_iff.mp shown⟩

def crossed : Errand Unit :=
  .loadAssembly "Game"
    (.loadAssembly "Plugins" (.loadAssembly "Game" (.done (.ok ())) fun _ => .done (.ok ())) .done)
    .done

/-- With the inner load of the game its outer one is struck off, and the game is listed inside of
its plugins. -/
theorem game_listed_inside_of_plugins :
    let finish := stateAfter (crossed.run (siteWith detachAll) (fresh {}))
    crossed.Nests ∧
      (∃ m ∈ finish.moments, underway m.journal = ["Game", "Plugins"] ∧
        m.host.loads.entries = ["Plugins", "Game"]) ∧
      ¬ finish.Always Moment.ListsCalls := by
  intro finish
  have moment : ∃ m ∈ finish.moments, underway m.journal = ["Game", "Plugins"] ∧
      m.host.loads.entries = ["Plugins", "Game"] := by decide +kernel
  refine ⟨by simp [crossed, Errand.Nests], moment, ?_⟩
  intro shown
  obtain ⟨m, member, stack, listed⟩ := moment
  have same : m.host.loads.entries = underway m.journal := shown m member
  rw [stack, listed] at same
  exact absurd same (by decide)

end BlueprintBridge.Loading
