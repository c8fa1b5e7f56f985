import BlueprintBridge.Proofs.Session.Invariant

/-!
# What holds of every step of every run

Steps are made by the session itself and by scripts, at any depth. A checked run tests each of them
before it is made; a condition holds of every step of every run if each run equals its checked one,
whatever a checked run does about a step that does not meet the condition.
-/

namespace BlueprintBridge.Session

set_option autoImplicit false

open Classical in
noncomputable def checkStep (fits : World → Step → Prop) (alarm : Act Unit)
    (step : Step) : Act Unit :=
  fun w => if fits w step then .ok () w else alarm w

/-- Makes the steps of a script, each one checked before it is made, at any depth. -/
noncomputable def checkedScript (fits : World → Step → Prop) (alarm : Act Unit) :
    Nat → Script → Act Unit
  | 0, _ => throw .outOfFuel
  | fuel + 1, script => script.forM fun (name, step) => do
    checkStep fits alarm step
    let reply ← perform (checkedScript fits alarm fuel) fuel step
    change (·.emit (.made name reply))

/-- Every step of every run is made where it meets a condition. -/
def Throughout (fits : World → Step → Prop) : Prop :=
  ∀ (verbosity : Option Level) (fuel : Nat) (steps : List Step) (step : Step) (alarm : Act Unit),
    let w := { (topAll fuel { verbosity } steps).2 with trace := [] }
    fits w step ∧
      perform (checkedScript fits alarm fuel) fuel step w = perform (runScript fuel) fuel step w

variable {fits : World → Step → Prop} {alarm : Act Unit} {w : World} {step : Step}

theorem check_of_fits (met : fits w step) : checkStep fits alarm step w = .ok () w := if_pos met

theorem check_of_unfit (unmet : ¬ fits w step) : checkStep fits alarm step w = alarm w :=
  if_neg unmet

theorem top_world (fuel : Nat) (w : World) (step : Step) :
    (top fuel w step).2 =
      stateAfter (perform (runScript fuel) fuel step { w with trace := [] }) := by
  unfold top
  cases perform (runScript fuel) fuel step { w with trace := [] } with
  | ok reply t => rfl
  | error interruption t => cases interruption <;> rfl

theorem run_script_eq (fuel : Nat) :
    runScript fuel = checkedScript (fun _ _ => True) (throw .outOfFuel) fuel := by
  induction fuel with
  | zero => rfl
  | succ fuel ih =>
      funext script
      unfold runScript checkedScript
      rw [ih]
      refine congrArg (List.forM script) ?_
      funext ⟨name, step⟩ w
      have passes : checkStep (fun _ _ => True) (throw .outOfFuel) step w = .ok () w :=
        check_of_fits trivial
      dsimp only
      rw [Action.bind_of_ok passes]

section

variable {ι : Type} {R : Invariant ι} (lawful : R.Lawful) {other : World → Step → Prop}
  {bell : Act Unit}

include lawful

/-- Two checked runs go alike under an invariant if their checks do, and let no other step pass than
the invariant permits. -/
theorem Invariant.Lawful.checkedScript (checked : ∀ i step, Action.Alike (World.withEngines R.swap)
      (fun w => R.holds i w.bridgeState)
      (fun _ w => w.Permits R.free step ∧ R.holds i w.bridgeState)
      (fun w => R.interrupted i w.bridgeState)
      (checkStep fits alarm step) (checkStep other bell step))
    (fuel : Nat) (i : ι) (script : Script) :
    R.Same i (Session.checkedScript fits alarm fuel script)
      (Session.checkedScript other bell fuel script) := by
  -- Scripts that a step runs on the way are one level deeper, and may find other stations started.
  induction fuel generalizing i script with
  | zero => exact .throw _ fun w held => lawful.cut i w.bridgeState held
  | succ fuel ih =>
      apply Action.Alike.forM
      intro named _
      refine Action.Alike.bind (checked i named.2) fun _ => ?_
      have made : Action.Alike (World.withEngines R.swap)
          (fun w => w.Permits R.free named.2 ∧ R.holds i w.bridgeState)
          (fun _ w => R.holds i w.bridgeState)
          (fun w => R.interrupted i w.bridgeState)
          (perform (Session.checkedScript fits alarm fuel) fuel named.2)
          (perform (Session.checkedScript other bell fuel) fuel named.2) :=
        fun w ⟨permitted, held⟩ => lawful.step held ih named.2 permitted w rfl
      refine Action.Alike.bind made fun _ => ?_
      exact (Apart.emit _).together

section

variable (permits : ∀ i (w : World) step, R.holds i w.bridgeState → w.Permits R.free step)

include permits

theorem Invariant.Lawful.run_script (fuel : Nat) (i : ι) (script : Script) :
    R.Same i (runScript fuel script) (runScript fuel script) := by
  rw [run_script_eq]
  refine lawful.checkedScript (fun i step w held => ?_) fuel i script
  have passes (v : World) : checkStep (fun _ _ => True) (throw .outOfFuel) step v = .ok () v :=
    check_of_fits trivial
  rw [passes, passes]
  exact ⟨rfl, permits i w step held, held⟩

variable (interrupted_holds : ∀ i e, R.interrupted i e → R.holds i e)

include interrupted_holds

/-- An invariant that is not lost when something is cut short holds after every step. -/
theorem Invariant.Lawful.after_step {i : ι} (held : R.holds i w.bridgeState) (depth fuel : Nat)
    (step : Step) : R.holds i (stateAfter (perform (runScript depth) fuel step w)).bridgeState := by
  have runs := lawful.run_script permits depth
  have made : R.From i w (perform (runScript depth) fuel step)
      (perform (runScript depth) fuel step) :=
    lawful.step held runs step (permits i w step held)
  exact (made.mono (fun _ same => same) (fun _ _ kept => kept) fun t lost =>
    interrupted_holds i t.bridgeState lost).after rfl

theorem Invariant.Lawful.after_call {i : ι} (held : R.holds i w.bridgeState) (depth fuel : Nat)
    (news : Announcement) {handler : Handler} (may_call : R.MayCall handler) :
    R.holds i (stateAfter (callHandler (runScript depth) fuel news handler w)).bridgeState := by
  have runs := lawful.run_script permits depth
  have called := lawful.call_handler (i := i) runs fuel news may_call
  exact (called.mono (fun _ held => held) (fun _ _ kept => kept) fun t lost =>
    interrupted_holds i t.bridgeState lost).after held

end

end

/-- All that a session has in common before and after something that concerns other stations. -/
structure Elsewhere (station : Nat) (w t : World) : Prop where
  channels : t.host.channels = w.host.channels
  slots : t.slots = w.slots
  nextStation : t.nextStation = w.nextStation
  registries : t.registries = w.registries
  station : t.stations.get? station = w.stations.get? station

/-- The worlds that a session comes to after a moment, as far as one station goes: by steps of any
depth and calls of any handler, however they end, when a bridge that was being started takes its
slot, when the station is held once more, worked on or let go of by somebody who holds it, and by
what is done between two of these, which concerns other stations. -/
inductive Later (station : Nat) (w : World) : World → Prop
  | now : Later station w w
  | step {t : World} (depth fuel : Nat) (step : Step) (later : Later station w t) :
      Later station w (stateAfter (perform (runScript depth) fuel step t))
  | call {t : World} (depth fuel : Nat) (news : Announcement) (handler : Handler)
      (later : Later station w t) :
      Later station w (stateAfter (callHandler (runScript depth) fuel news handler t))
  | fill {t : World} (slot : Nat) (tenant : Tenant) (other : tenant.station ≠ station)
      (later : Later station w t) : Later station w (stateAfter (fillSlot slot tenant t))
  | hold {t : World} (shared : (t.station station).holders ≠ 0) (later : Later station w t) :
      Later station w (t.hold station)
  | work {t : World} (recompiler : Recompiler) (shared : (t.station station).holders ≠ 0)
      (later : Later station w t) :
      Later station w ((World.recompilerPart station).write recompiler t)
  | letGo {t : World} (later : Later station w t) : Later station w (t.letGo station)
  | elsewhere {t u : World} (same : Elsewhere station t u) (later : Later station w t) :
      Later station w u

structure Invariant.Lasting {ι : Type} (R : Invariant ι) (i : ι) (station : Nat) : Prop where
  lawful : R.Lawful
  interrupted_holds : ∀ i e, R.interrupted i e → R.holds i e
  permits : ∀ i (w : World) step, R.holds i w.bridgeState → w.Permits R.free step
  may_call : ∀ handler, R.MayCall handler
  filled : ∀ e slot (tenant : Tenant), tenant.station ≠ station → R.holds i e →
    R.holds i (e.fill slot tenant)
  hold : ∀ e, (e.station station).holders ≠ 0 → R.holds i e → R.holds i (e.hold station)
  work : ∀ e recompiler, (e.station station).holders ≠ 0 → R.holds i e →
    R.holds i (e.setRecompiler station recompiler)
  letGo : ∀ e, R.holds i e → R.holds i (e.letGo station)
  elsewhere : ∀ w t : World, Elsewhere station w t → R.holds i w.bridgeState →
    R.holds i t.bridgeState

theorem Invariant.Lasting.later {ι : Type} {R : Invariant ι} {i : ι} {station : Nat} {t : World}
    (lasting : R.Lasting i station) (held : R.holds i w.bridgeState) (later : Later station w t) :
    R.holds i t.bridgeState := by
  induction later with
  | now => exact held
  | step depth fuel step _ ih =>
      exact lasting.lawful.after_step lasting.permits lasting.interrupted_holds ih depth fuel step
  | call depth fuel news handler _ ih =>
      have may_call := lasting.may_call handler
      exact lasting.lawful.after_call lasting.permits lasting.interrupted_holds ih depth fuel
        news may_call
  | fill slot tenant other _ ih =>
      -- No engine is swapped here, so what is left to show of `fillSlot` is where it ends.
      obtain ⟨u, filling, _, same⟩ := fill_slot_goes (g := .plain) slot tenant
        fun _ _ swapped => (swapped rfl).elim
      rw [filling]
      change R.holds i u.bridgeState
      rw [same]
      exact lasting.filled _ slot tenant other ih
  | @hold t shared _ ih => exact lasting.hold t.bridgeState shared ih
  | @work t recompiler shared _ ih => exact lasting.work t.bridgeState recompiler shared ih
  | letGo _ ih => exact lasting.letGo _ ih
  | elsewhere same _ ih => exact lasting.elsewhere _ _ same ih

end BlueprintBridge.Session
