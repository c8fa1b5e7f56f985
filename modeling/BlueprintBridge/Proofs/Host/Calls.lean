import BlueprintBridge.Proofs.Chronicle
import BlueprintBridge.Proofs.Host.QuietSubscribers

/-!
# Errands: programs that define classes

An errand defines classes on a host and retries what is parked, looks around, throws and goes on
after an exception, choosing each act by what came before; and so do the subscribers of the host
when they are called. A desk is the host with a journal of these calls, and a chronicle of both. At
every moment the host is what the calls in the journal, one after the other, make of the first one:
nothing that a subscriber hears of is still to be done to it.
-/

namespace BlueprintBridge

set_option autoImplicit false

namespace AssemblyHost

variable {H : Type}

inductive Call where
  | define (d : ClassDefinition)
  | retry
deriving DecidableEq

def took (host : AssemblyHost H) : Call → AssemblyHost H
  | .define d => host.defined d
  | .retry => host.retried

def after (host : AssemblyHost H) (calls : List Call) : AssemblyHost H := calls.foldl took host

theorem after_append (host : AssemblyHost H) (early late : List Call) :
    host.after (early ++ late) = (host.after early).after late := List.foldl_append ..

end AssemblyHost

namespace Defining

open AssemblyHost (Call)

/-- A host and the calls made of it so far. -/
structure Moment where
  host : AssemblyHost Nat := {}
  journal : List Call := []

abbrev Desk := Chronicle Moment

def note (call : Call) (w : Desk) : Desk :=
  w.change fun m => { m with journal := m.journal ++ [call] }

def siteWith (react : Nat → Announcement → Action Desk Unit) : AssemblyHost.Site Desk Nat where
  host :=
    { read := fun w => w.now.host
      write := fun host w => w.change fun m => { m with host } }
  note _ w := w
  call news number := react number news

/-- A program of acts on a desk; each act says what comes after its answer. -/
inductive Errand (R : Type) where
  | done (answer : R)
  | raise (message : String)
  | look (next : Desk → Errand R)
  | define (d : ClassDefinition) (next : Except HostError (Option ClassRef) → Errand R)
  | retry (next : Nat → Errand R)
  /-- Runs an errand, and goes on also if it throws. -/
  | attempt (inner : Errand R) (next : Option R → Errand R)

def Errand.run {R : Type} (site : AssemblyHost.Site Desk Nat) : Errand R → Action Desk R
  | .done answer => do
    Chronicle.mark
    return answer
  | .raise message => do
    Chronicle.mark
    throw (.unwound message)
  | .look next => do
    Chronicle.mark
    fun w => (next w).run site w
  | .define d next => do
    Chronicle.mark
    modify (note (.define d))
    let answer ← site.defineClass d
    (next answer).run site
  | .retry next => do
    Chronicle.mark
    modify (note .retry)
    let count ← site.processPending
    (next count).run site
  | .attempt inner next => do
    Chronicle.mark
    let answer ← (inner.run site).caught
    (next answer).run site

def siteAt {R : Type} (react : Nat → Announcement → Errand R) :
    Nat → AssemblyHost.Site Desk Nat
  | 0 => siteWith fun _ _ => throw .outOfFuel
  | depth + 1 => siteWith fun number news => do
    let _ ← (react number news).run (siteAt react depth)

variable {start : AssemblyHost Nat} {w : Desk} {react : Nat → Announcement → Action Desk Unit}

def Moment.Told (start : AssemblyHost Nat) (m : Moment) : Prop := m.host = start.after m.journal

def Orderly (start : AssemblyHost Nat) (w : Desk) : Prop := w.Always (Moment.Told start)

def Asked (start : AssemblyHost Nat) (call : Call) (w : Desk) : Prop :=
  ∃ before, Orderly start before ∧ w = note call before

theorem note_takes {E : Desk → Prop} (call : Call) :
    Action.Takes (Orderly start) (Asked start call) E (modify (note call)) :=
  fun w orderly => ⟨w, orderly, rfl⟩

theorem Asked.took {call : Call} (asked : Asked start call w) :
    Orderly start (w.change fun m => { m with host := m.host.took call }) := by
  obtain ⟨before, orderly, rfl⟩ := asked
  have told : before.now.host = start.after before.now.journal := orderly.now
  have now : Moment.Told start
      { host := before.now.host.took call, journal := before.now.journal ++ [call] } := by
    rw [Moment.Told, AssemblyHost.after_append, ← told]
    rfl
  exact Chronicle.Always.moved orderly rfl now

theorem write_eq (records : List Record) (w : Desk) :
    (siteWith react).write records w = .ok () w := by
  unfold AssemblyHost.Site.write
  congr 1
  induction records with
  | nil => rfl
  | cons record rest ih => exact ih

theorem write_takes (records : List Record) :
    Action.Takes (Orderly start) (Orderly start) (Orderly start)
      ((siteWith react).write records) := by
  intro w orderly
  rw [write_eq]
  exact orderly

section

variable (called : ∀ number news,
  Action.Takes (Orderly start) (Orderly start) (Orderly start) (react number news))

include called

theorem announce_takes (news : Announcement) :
    Action.Takes (Orderly start) (Orderly start) (Orderly start)
      ((siteWith react).announce news) := by
  intro w orderly
  have tell : Action.Takes (Orderly start) (Orderly start) (Orderly start)
      ((w.now.host.channels.get news.kind).broadcast ((siteWith react).call news)) := by
    apply Action.Takes.bind
    · exact Action.Takes.forM fun listener _ => called listener.2 news
    · exact fun _ => .pure _
  exact tell w orderly

theorem tell_takes {α : Type} (news : Announcement) (answer : α) :
    Action.Takes (Orderly start) (Orderly start) (Orderly start) (do
      let _ ← (siteWith react).announce news
      return answer : Action Desk α) := by
  apply Action.Takes.bind (announce_takes called news)
  exact fun _ => .pure _

theorem define_class_takes (d : ClassDefinition) :
    Action.Takes (Asked start (.define d)) (Orderly start) (Orderly start)
      ((siteWith react).defineClass d) := by
  intro w asked
  have orderly := asked.took
  obtain ⟨answer, graph, run⟩ : ∃ answer graph, w.now.host.graph.generate d = (answer, graph) :=
    ⟨_, _, rfl⟩
  have step : (siteWith react).host.step (fun host =>
      ((host.graph.generate d).1, { host with graph := (host.graph.generate d).2 })) w =
      .ok answer (w.change fun m => { m with host := { m.host with graph } }) := by
    simp only [Part.step, siteWith, run]
    rfl
  unfold AssemblyHost.Site.defineClass
  rw [Action.bind_of_ok step]
  simp only [Chronicle.change, AssemblyHost.took, AssemblyHost.defined, run] at orderly
  rcases answer with e | _ | ref
  · exact orderly
  · exact orderly
  · exact tell_takes called (.newClass ref) _ _ orderly

theorem process_pending_takes :
    Action.Takes (Asked start .retry) (Orderly start) (Orderly start)
      (siteWith react).processPending := by
  apply Action.Takes.bind (Q := Orderly start)
  · exact fun w asked => asked.took
  intro settled
  apply Action.Takes.bind (write_takes settled.records)
  intro _
  apply Action.Takes.bind
  · exact Action.Takes.forM fun ref _ => tell_takes called (.newClass ref) ()
  intro _
  apply Action.Takes.bind (Q := Orderly start)
  · exact fun w orderly => orderly
  intro host
  -- The warning about what is still parked leaves the desk alone.
  dsimp only
  split
  · apply Action.Takes.bind (write_takes _)
    exact fun _ => tell_takes called _ _
  · exact tell_takes called _ _

theorem errand_takes {R : Type} (errand : Errand R) :
    Action.Takes (Orderly start) (Orderly start) (Orderly start)
      (errand.run (siteWith react)) := by
  induction errand with
  | done answer =>
      apply Action.Takes.bind Chronicle.mark_takes
      exact fun _ => .pure _
  | raise message =>
      apply Action.Takes.bind Chronicle.mark_takes
      exact fun _ => .throw fun _ orderly => orderly
  | look next ih =>
      apply Action.Takes.bind Chronicle.mark_takes
      exact fun _ w orderly => ih w w orderly
  | define d next ih =>
      apply Action.Takes.bind Chronicle.mark_takes
      intro _
      apply Action.Takes.bind (note_takes _)
      intro _
      apply Action.Takes.bind (define_class_takes called d)
      exact ih
  | retry next ih =>
      apply Action.Takes.bind Chronicle.mark_takes
      intro _
      apply Action.Takes.bind (note_takes _)
      intro _
      apply Action.Takes.bind (process_pending_takes called)
      exact ih
  | attempt inner next inside ih =>
      apply Action.Takes.bind Chronicle.mark_takes
      intro _
      apply Action.Takes.bind inside.caught
      exact ih

end

theorem errand_at_depth_takes {R : Type} (react : Nat → Announcement → Errand R) (depth : Nat)
    (errand : Errand R) :
    Action.Takes (Orderly start) (Orderly start) (Orderly start)
      (errand.run (siteAt react depth)) := by
  induction depth generalizing errand with
  | zero =>
      apply errand_takes
      exact fun _ _ => .throw fun _ orderly => orderly
  | succ depth ih =>
      apply errand_takes
      intro number news
      apply Action.Takes.bind (ih (react number news))
      exact fun _ => .pure _

def fresh (start : AssemblyHost Nat) : Desk := ⟨⟨start, []⟩, []⟩

/-- Whatever errands do, at every moment the journal tells the host. -/
theorem journal_tells_host {R : Type} (react : Nat → Announcement → Errand R) (depth : Nat)
    (errand : Errand R) (start : AssemblyHost Nat) :
    (stateAfter (errand.run (siteAt react depth) (fresh start))).Always (Moment.Told start) := by
  have orderly : Orderly start (fresh start) := by
    intro m member
    rw [List.mem_singleton.mp member]
    rfl
  exact Action.keeps_iff_takes.mpr (errand_at_depth_takes react depth errand) _ orderly

end Defining

end BlueprintBridge
