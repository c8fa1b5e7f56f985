import BlueprintBridge.Proofs.Loading.Errands
import BlueprintBridge.Proofs.Splits

/-!
# The account of the loads

Whatever errands do, at every moment a name has as many open loads as were begun less those that
ended, and an assembly has been announced as often as one of its loads was found and ended without
an exception. A load that an exception cuts short ends like any other, without a word.
-/

namespace BlueprintBridge.Loading

set_option autoImplicit false

def begins (journal : List LoadEvent) (assembly : String) : Nat :=
  journal.count (.begun assembly)

def ends (journal : List LoadEvent) (assembly : String) : Nat :=
  journal.countP fun event => event.finish? = some (assembly, true)

def FoundWhenOpen (journal : List LoadEvent) : Prop :=
  ∀ before event after assembly found, journal = before ++ event :: after →
    event.finish? = some (assembly, found) →
    (found = true ↔ ends before assembly < begins before assembly)

namespace Moment

def ClerkFirst (m : Moment) : Prop :=
  ∃ id others, m.host.channels.assemblyLoaded.handlers = (id, .clerk) :: others ∧
    ∀ listener ∈ others, listener.2 ≠ .clerk

/-- The journal accounts for the open loads and for what was announced of them. -/
structure Accounted (m : Moment) : Prop where
  entries : ∀ assembly,
    m.host.loads.count assembly + ends m.journal assembly = begins m.journal assembly
  heard : ∀ assembly, m.journal.count (.heard (.assemblyLoaded assembly)) =
    m.journal.count (.ended assembly true)
  found : FoundWhenOpen m.journal
  clerk : m.ClerkFirst

end Moment

variable {m : Moment} {w : Dock} {assembly : String} {event : LoadEvent}
  {react : Nat → Announcement → Action Dock Unit}

theorem ends_snoc (journal : List LoadEvent) (event : LoadEvent) (assembly : String) :
    ends (journal ++ [event]) assembly =
      ends journal assembly + if event.finish? = some (assembly, true) then 1 else 0 := by
  simp [ends, List.countP_append, List.countP_singleton]

theorem begins_snoc (journal : List LoadEvent) (event : LoadEvent) (assembly : String) :
    begins (journal ++ [event]) assembly =
      begins journal assembly + if event = .begun assembly then 1 else 0 := by
  simp [begins, List.count_append, List.count_singleton]

theorem found_when_open_snoc {journal : List LoadEvent} (earlier : FoundWhenOpen journal)
    (last : ∀ assembly found, event.finish? = some (assembly, found) →
      (found = true ↔ ends journal assembly < begins journal assembly)) :
    FoundWhenOpen (journal ++ [event]) := by
  intro before entry after assembly found split
  rcases snoc_eq_split.mp split with ⟨rfl, rfl, _⟩ | ⟨between, _, rfl⟩
  · exact last assembly found
  · exact earlier before entry between assembly found rfl

namespace Moment.Accounted

theorem open_iff (accounted : m.Accounted) (assembly : String) :
    m.host.loads.isLoading assembly = true ↔
      ends m.journal assembly < begins m.journal assembly := by
  have entries := accounted.entries assembly
  have listed : m.host.loads.isLoading assembly = true ↔ 0 < m.host.loads.count assembly :=
    m.host.loads.finish_fst assembly
  rw [listed]
  omega

theorem loading_iff (accounted : m.Accounted) :
    m.host.loads.isLoadingAny = true ↔
      ∃ assembly, ends m.journal assembly < begins m.journal assembly := by
  simp only [← accounted.open_iff]
  cases listed : m.host.loads.entries with
  | nil => simp [LoadLedger.isLoadingAny, LoadLedger.isLoading, listed]
  | cons first rest =>
      simp only [LoadLedger.isLoadingAny, LoadLedger.isLoading, listed]
      exact iff_of_true rfl ⟨first, by simp⟩

theorem begun (accounted : m.Accounted) (assembly : String) :
    Moment.Accounted
      { host := { m.host with loads := m.host.loads.start assembly }
        journal := m.journal ++ [.begun assembly] } where
  entries other := by
    have entries := accounted.entries other
    simp only [LoadLedger.count_start, begins_snoc, ends_snoc, LoadEvent.finish?,
      LoadEvent.begun.injEq]
    simp
    omega
  heard other := by simpa [List.count_append] using accounted.heard other
  found := found_when_open_snoc accounted.found fun _ _ finish => by cases finish
  clerk := accounted.clerk

theorem asked (accounted : m.Accounted)
    (asks : event.finish? = some (assembly, m.host.loads.isLoading assembly)) (other : String) :
    (m.host.loads.finish assembly).2.count other + ends (m.journal ++ [event]) other =
      begins (m.journal ++ [event]) other := by
  have entries := accounted.entries other
  have opened := accounted.open_iff assembly
  have unbegun : event ≠ .begun other := by
    rintro rfl
    cases asks
  rw [begins_snoc, if_neg unbegun, LoadLedger.count_finish, ends_snoc, asks]
  by_cases same : assembly = other
  · subst same
    cases loading : m.host.loads.isLoading assembly with
    | true =>
        have less := opened.mp loading
        simp
        omega
    | false =>
        have none : ¬ ends m.journal assembly < begins m.journal assembly := by
          simpa [loading] using opened.symm.not
        simp
        omega
  · simpa [same] using entries

theorem asked_found (accounted : m.Accounted)
    (asks : event.finish? = some (assembly, m.host.loads.isLoading assembly)) :
    FoundWhenOpen (m.journal ++ [event]) := by
  apply found_when_open_snoc accounted.found
  intro other found finish
  cases asks.symm.trans finish
  exact accounted.open_iff assembly

theorem aborted (accounted : m.Accounted) (assembly : String) :
    Moment.Accounted
      { host := { m.host with loads := (m.host.loads.finish assembly).2 }
        journal := m.journal ++ [.aborted assembly (m.host.loads.isLoading assembly)] } where
  entries := accounted.asked rfl
  heard other := by simpa [List.count_append] using accounted.heard other
  found := accounted.asked_found rfl
  clerk := accounted.clerk

theorem missed (accounted : m.Accounted) (missing : m.host.loads.isLoading assembly = false) :
    Moment.Accounted { m with journal := m.journal ++ [.ended assembly false] } where
  entries other := by
    have entries := accounted.entries other
    simpa [begins_snoc, ends_snoc, LoadEvent.finish?] using entries
  heard other := by simpa [List.count_append] using accounted.heard other
  found := accounted.asked_found (by rw [missing]; rfl)
  clerk := accounted.clerk

theorem ended (accounted : m.Accounted) (opened : m.host.loads.isLoading assembly = true) :
    Moment.Accounted
      { host := { m.host with loads := (m.host.loads.finish assembly).2 }
        journal := m.journal ++ [.ended assembly true] ++ [.heard (.assemblyLoaded assembly)] } where
  entries other := by
    have asks : (LoadEvent.ended assembly true).finish? =
        some (assembly, m.host.loads.isLoading assembly) := by
      rw [opened]
      rfl
    rw [begins_snoc, ends_snoc]
    exact accounted.asked asks other
  heard other := by
    have heard := accounted.heard other
    simp only [List.count_append, List.count_singleton]
    simp
    omega
  found := by
    apply found_when_open_snoc
    · exact accounted.asked_found (by rw [opened]; rfl)
    · intro _ _ finish
      cases finish
  clerk := accounted.clerk

end Moment.Accounted

def Orderly (w : Dock) : Prop := w.Always Moment.Accounted

def Told (event : Moment → LoadEvent) (w : Dock) : Prop :=
  ∃ before, Orderly before ∧ w = note event before

def Moment.closed (assembly : String) (m : Moment) : Moment :=
  { m with host := { m.host with loads := (m.host.loads.finish assembly).2 } }

theorem note_takes {E : Dock → Prop} (event : Moment → LoadEvent) :
    Action.Takes Orderly (Told event) E (modify (note event)) :=
  fun w orderly => ⟨w, orderly, rfl⟩

theorem closing_of_body {α : Type} {P Q E : Dock → Prop} {body : Action Dock α} (assembly : String)
    (inside : Action.Takes P Q E body) :
    Action.Takes P (fun w => ∃ before, Q before ∧ w = note (Moment.ending assembly) before)
      (fun w => ∃ before, E before ∧ w = note (Moment.aborting assembly) before)
      (closing assembly body) := by
  intro w held
  have finish := inside w held
  unfold closing
  cases run : body w with
  | ok answer t | error interruption t =>
      rw [run] at finish
      exact ⟨t, finish, rfl⟩

theorem closing_takes {α : Type} {body : Action Dock α} (assembly : String)
    (inside : Action.Takes Orderly Orderly Orderly body) :
    Action.Takes Orderly (Told (Moment.ending assembly)) (Told (Moment.aborting assembly))
      (closing assembly body) := closing_of_body assembly inside

theorem begin_load_takes {E : Dock → Prop} (assembly : String) :
    Action.Takes (Told fun _ => .begun assembly) Orderly E
      ((siteWith react).beginLoad assembly) := by
  intro w told
  obtain ⟨before, orderly, rfl⟩ := told
  exact orderly.moved rfl (orderly.now.begun assembly)

/-- Ending a load fails exactly where none of its name is open, and then does nothing at all; else
the load is ended before it is announced. -/
theorem finish_load_eq (react : Nat → Announcement → Action Dock Unit) (assembly : String)
    (w : Dock) :
    (siteWith react).finishLoad assembly w =
      if w.now.host.loads.isLoading assembly then
        (do
          let _ ← (siteWith react).announce (.assemblyLoaded assembly)
          return .ok () : Action Dock (Except HostError Unit))
          (w.change (Moment.closed assembly))
      else .ok (.error (.assemblyNotLoading assembly)) w := by
  have step : (siteWith react).host.step (fun host =>
      (host.loads.isLoading assembly, { host with loads := (host.loads.finish assembly).2 })) w =
      .ok (w.now.host.loads.isLoading assembly) (w.change (Moment.closed assembly)) := rfl
  refine (Action.bind_of_ok step).trans ?_
  cases opened : w.now.host.loads.isLoading assembly with
  | true => rfl
  | false =>
      have missing : assembly ∉ w.now.host.loads.entries := by
        simpa [LoadLedger.isLoading] using opened
      have same : w.change (Moment.closed assembly) = w := by
        simp [Chronicle.change, Moment.closed, LoadLedger.finish, List.erase_of_not_mem missing]
      rw [same]
      rfl

/-- The clerk writes down the news before any other subscriber can act on it. -/
theorem announce_of_clerk_first {id : Nat} {others : List (Nat × Listener)}
    (first : w.now.host.channels.assemblyLoaded.handlers = (id, .clerk) :: others) :
    (siteWith react).announce (.assemblyLoaded assembly) w =
      (do
        others.forM fun listener => (siteWith react).call (.assemblyLoaded assembly) listener.2
        return others.length + 1 : Action Dock Nat)
        (note (fun _ => .heard (.assemblyLoaded assembly)) w) := by
  have heard : (siteWith react).announce (.assemblyLoaded assembly) w =
      (w.now.host.channels.assemblyLoaded.broadcast
        ((siteWith react).call (.assemblyLoaded assembly))) w := rfl
  rw [heard, Channel.broadcast, first]
  rfl

section

variable (called : ∀ number news, Action.Takes Orderly Orderly Orderly (react number news))

include called

theorem announce_takes (assembly : String) :
    Action.Takes
      (fun w => w.now.ClerkFirst ∧ Orderly (note (fun _ => .heard (.assemblyLoaded assembly)) w))
      Orderly Orderly ((siteWith react).announce (.assemblyLoaded assembly)) := by
  intro w ready
  obtain ⟨⟨id, others, first, rest⟩, heard⟩ := ready
  rw [announce_of_clerk_first first]
  have tell : Action.Takes Orderly Orderly Orderly (do
      others.forM fun listener => (siteWith react).call (.assemblyLoaded assembly) listener.2
      return others.length + 1 : Action Dock Nat) := by
    apply Action.Takes.bind
    · apply Action.Takes.forM
      intro listener member
      cases same : listener.2 with
      | clerk => exact absurd same (rest listener member)
      | other number => exact called number _
    · exact fun _ => .pure _
  exact tell _ heard

theorem finish_load_takes (assembly : String) :
    Action.Takes (Told (Moment.ending assembly)) Orderly Orderly
      ((siteWith react).finishLoad assembly) := by
  intro w told
  obtain ⟨before, orderly, rfl⟩ := told
  have unchanged : (note (Moment.ending assembly) before).now.host.loads =
      before.now.host.loads := rfl
  rw [finish_load_eq, unchanged]
  cases opened : before.now.host.loads.isLoading assembly with
  | false =>
      have missed := orderly.now.missed opened
      rw [← opened] at missed
      exact orderly.moved rfl missed
  | true =>
      have heard := orderly.now.ended opened
      rw [if_pos rfl]
      apply Action.Takes.bind
      · exact announce_takes called assembly
      · exact fun _ => .pure _
      · rw [← opened] at heard
        exact ⟨orderly.now.clerk, orderly.moved rfl heard⟩

theorem load_assembly_takes {R : Type} {body : Action Dock (Except HostError R)}
    (inside : Action.Takes Orderly Orderly Orderly body) (assembly : String) :
    Action.Takes (Told fun _ => .begun assembly) Orderly Orderly
      ((siteWith react).loadAssembly assembly (closing assembly body)) := by
  apply Action.Takes.bind
  · exact begin_load_takes assembly
  intro _
  apply Action.Takes.bind
  · apply (closing_takes assembly inside).onInterrupt
    intro w told
    obtain ⟨before, orderly, rfl⟩ := told
    exact orderly.moved rfl (orderly.now.aborted assembly)
  intro answer
  apply Action.Takes.bind
  · exact finish_load_takes called assembly
  intro ended
  cases ended with
  | ok | error => exact .pure _

theorem errand_takes {R : Type} (errand : Errand R) :
    Action.Takes Orderly Orderly Orderly (errand.run (siteWith react)) := by
  induction errand with
  | done answer =>
      apply Action.Takes.bind Chronicle.mark_takes
      exact fun _ => .pure _
  | raise message =>
      apply Action.Takes.bind Chronicle.mark_takes
      exact fun _ => .throw fun _ orderly => orderly
  | look next ih =>
      apply Action.Takes.bind Chronicle.mark_takes
      exact fun _ w orderly => ih w w orderly
  | beginLoad assembly next ih =>
      apply Action.Takes.bind Chronicle.mark_takes
      intro _
      apply Action.Takes.bind (note_takes _)
      intro _
      apply Action.Takes.bind (begin_load_takes assembly)
      exact fun _ => ih
  | finishLoad assembly next ih =>
      apply Action.Takes.bind Chronicle.mark_takes
      intro _
      apply Action.Takes.bind (note_takes _)
      intro _
      apply Action.Takes.bind (finish_load_takes called assembly)
      exact ih
  | loadAssembly assembly generate next inside ih =>
      apply Action.Takes.bind Chronicle.mark_takes
      intro _
      apply Action.Takes.bind (note_takes _)
      intro _
      apply Action.Takes.bind (load_assembly_takes called inside assembly)
      exact ih
  | attempt inner next inside ih =>
      apply Action.Takes.bind Chronicle.mark_takes
      intro _
      apply Action.Takes.bind inside.caught
      exact ih

end

theorem errand_at_depth_takes {R : Type} (react : Nat → Announcement → Errand R) (depth : Nat)
    (errand : Errand R) :
    Action.Takes Orderly Orderly Orderly (errand.run (siteAt react depth)) := by
  induction depth generalizing errand with
  | zero =>
      apply errand_takes
      exact fun _ _ => .throw fun _ orderly => orderly
  | succ depth ih =>
      apply errand_takes
      intro number news
      apply Action.Takes.bind (ih (react number news))
      exact fun _ => .pure _

/-- No load has begun and nothing was done yet. -/
structure Unused (w : Dock) : Prop where
  loads : w.now.host.loads = {}
  journal : w.now.journal = []
  past : w.past = []
  clerk : w.now.ClerkFirst

theorem Unused.orderly (unused : Unused w) : Orderly w := by
  intro m member
  rw [Chronicle.moments, unused.past] at member
  rw [List.mem_singleton.mp member]
  exact {
    entries := by simp [unused.loads, unused.journal, LoadLedger.count, ends, begins]
    heard := by simp [unused.journal]
    found := by simp [unused.journal, FoundWhenOpen]
    clerk := unused.clerk }

/-- The loads of a host at a moment, told by what was journaled until then. -/
structure Moment.Balanced (m : Moment) : Prop where
  entries : ∀ assembly,
    m.host.loads.count assembly + ends m.journal assembly = begins m.journal assembly
  found : FoundWhenOpen m.journal
  loading : m.host.loads.isLoadingAny = true ↔
    ∃ assembly, ends m.journal assembly < begins m.journal assembly
  /-- Where nothing is left to end, asking fails and does nothing at all. -/
  refused : ∀ react past assembly, ends m.journal assembly = begins m.journal assembly →
    (siteWith react).finishLoad assembly ⟨m, past⟩ =
      .ok (.error (.assemblyNotLoading assembly)) ⟨m, past⟩
  /-- Else it takes one entry away, then announces the assembly, and does not fail. -/
  accepted : ∀ react past assembly, ends m.journal assembly < begins m.journal assembly →
    (siteWith react).finishLoad assembly ⟨m, past⟩ =
      (do
        let _ ← (siteWith react).announce (.assemblyLoaded assembly)
        return .ok () : Action Dock (Except HostError Unit)) ⟨m.closed assembly, past⟩
  /-- Loads that were found and ended without an exception are announced once each. -/
  heard : ∀ assembly, m.journal.count (.heard (.assemblyLoaded assembly)) =
    m.journal.count (.ended assembly true)

/-- Load accounting is exact at every moment of every run. -/
theorem loads_accounted {R : Type} (react : Nat → Announcement → Errand R) (depth : Nat)
    (errand : Errand R) (start : Dock) (unused : Unused start) :
    (stateAfter (errand.run (siteAt react depth) start)).Always Moment.Balanced := by
  intro m member
  have orderly : Orderly (stateAfter (errand.run (siteAt react depth) start)) :=
    Action.keeps_iff_takes.mpr (errand_at_depth_takes react depth errand) start unused.orderly
  have accounted := orderly m member
  exact {
    entries := accounted.entries
    found := accounted.found
    loading := accounted.loading_iff
    refused := by
      intro react past assembly even
      have closed : ¬ m.host.loads.isLoading assembly = true := by
        rw [accounted.open_iff, even]
        exact Nat.lt_irrefl _
      rw [finish_load_eq, if_neg closed]
    accepted := by
      intro react past assembly more
      rw [finish_load_eq, if_pos ((accounted.open_iff assembly).mpr more)]
      rfl
    heard := accounted.heard }

def tangledErrand : Errand Unit :=
  .beginLoad "Game" <|
  .loadAssembly "Game" (.finishLoad "Game" fun _ => .done (.error (.packageNotFound "/Game")))
    fun _ =>
  .attempt (.loadAssembly "Plugins" (.beginLoad "Game" (.raise "boom")) .done) fun _ =>
  .finishLoad "Plugins" fun _ =>
  .finishLoad "Game" fun _ =>
  .done (.ok ())

def tinker (_ : Nat) (news : Announcement) : Errand Unit :=
  if news = .assemblyLoaded "Game" then
    .finishLoad "Tools" fun _ => .beginLoad "Tools" (.done (.ok ()))
  else .done (.ok ())

def attendedDock : Dock where
  now.host.channels :=
    Channels.initial.set .assemblyLoaded ⟨"OnManagedAssemblyLoaded", [(1, .clerk), (2, .other 0)]⟩

theorem tangled_loads_accounted :
    let finish := stateAfter (tangledErrand.run (siteAt tinker 9) attendedDock)
    Unused attendedDock ∧ finish.now.journal.count (.heard (.assemblyLoaded "Game")) = 3 ∧
      .ended "Plugins" false ∈ finish.now.journal ∧ .aborted "Plugins" true ∈ finish.now.journal ∧
      finish.now.host.loads.entries = ["Tools"] ∧ finish.Always Moment.Balanced := by
  have unused : Unused attendedDock := ⟨rfl, rfl, rfl, 1, [(2, .other 0)], rfl, by simp⟩
  refine ⟨unused, by decide +kernel, by decide +kernel, by decide +kernel, by decide +kernel, ?_⟩
  exact loads_accounted tinker 9 tangledErrand attendedDock unused

end BlueprintBridge.Loading
