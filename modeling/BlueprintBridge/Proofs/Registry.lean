import BlueprintBridge.Compile.Registry
import BlueprintBridge.Proofs.Action

/-!
# Registries, and what fails in them

A registry keeps the factories it has, so its hook is installed once and refused from then on. With
nothing but the hook installed, the compilations that fail are those of blueprints that cannot be
built: the context of a kind without a factory never fails, and that of the hook needs a class.
-/

namespace BlueprintBridge

set_option autoImplicit false

namespace TypeGraph

variable {g : TypeGraph} {ref : BlueprintRef} {blueprint : Blueprint}

/-- Why a blueprint cannot be built: it is gone, or it is managed and its class was never made or
has been removed. -/
inductive Unbuildable (g : TypeGraph) (ref : BlueprintRef) : Prop where
  | gone (dead : g.blueprint? ref = none)
  | unmade {blueprint : Blueprint} (live : g.blueprint? ref = some blueprint)
      (managed : blueprint.kind = .managed) (missing : blueprint.generatedClass = none)
  | removed {blueprint : Blueprint} {generated : ClassRef}
      (live : g.blueprint? ref = some blueprint) (managed : blueprint.kind = .managed)
      (made : blueprint.generatedClass = some generated) (dead : g.class? generated = none)

theorem generated_class_eq_none_iff (live : g.blueprint? ref = some blueprint) :
    g.generatedClass? ref = none ↔
      ∀ generated ∈ blueprint.generatedClass, g.class? generated = none := by
  rw [generatedClass?, live, Option.bind_some, Option.filter_eq_none_iff]
  simp [class?, SlotTable.contains]

theorem unbuildable_iff : g.Unbuildable ref ↔
    ∀ blueprint ∈ g.blueprint? ref, blueprint.kind = .managed ∧ g.generatedClass? ref = none := by
  constructor
  · rintro unbuildable blueprint live
    have none_iff := generated_class_eq_none_iff live
    cases unbuildable with
    | gone dead => cases dead.symm.trans live
    | unmade found managed missing =>
        cases found.symm.trans live
        exact ⟨managed, none_iff.mpr fun _ made => by cases missing.symm.trans made⟩
    | removed found managed made dead =>
        cases found.symm.trans live
        refine ⟨managed, none_iff.mpr fun other same => ?_⟩
        cases made.symm.trans same
        exact dead
  · intro all
    cases live : g.blueprint? ref with
    | none => exact .gone live
    | some blueprint =>
        obtain ⟨managed, none⟩ := all blueprint live
        cases made : blueprint.generatedClass with
        | none => exact .unmade live managed made
        | some generated =>
            exact .removed live managed made
              ((generated_class_eq_none_iff live).mp none generated made)

instance (g : TypeGraph) (ref : BlueprintRef) : Decidable (g.Unbuildable ref) :=
  decidable_of_iff' _ unbuildable_iff

end TypeGraph

namespace MessageLog

@[simp] theorem has_errors_empty : empty.hasErrors = false := rfl

@[simp] theorem has_errors_note (log : MessageLog) (text : String) :
    (log.note text).hasErrors = log.hasErrors := rfl

@[simp] theorem has_errors_warning (log : MessageLog) (text : String) :
    (log.warning text).hasErrors = log.hasErrors := rfl

@[simp] theorem has_errors_error (log : MessageLog) (text : String) :
    (log.error text).hasErrors = true := rfl

end MessageLog

theorem CompileContext.has_errors_compile (c : CompileContext) :
    (c.compile .empty).hasErrors = true ↔
      (∃ options, c.kind = .managed options) ∧ c.target.generatedClass = none := by
  obtain ⟨kind, target⟩ := c
  cases kind with
  | standard | named => simp [compile]
  | managed options => cases made : target.generatedClass <;> simp [compile, made]

deriving instance DecidableEq for Catalog

deriving instance DecidableEq for CompilerRegistry

namespace CompilerRegistry

structure Grown (r next : CompilerRegistry) : Prop where
  factories : ∀ kind factory, r.factories.get? kind = some factory →
    next.factories.get? kind = some factory
  compilers : r.compilers <+: next.compilers

variable {r next last : CompilerRegistry}

theorem Grown.refl (r : CompilerRegistry) : r.Grown r := ⟨fun _ _ held => held, List.prefix_rfl⟩

theorem Grown.trans (earlier : r.Grown next) (later : next.Grown last) : r.Grown last where
  factories kind factory held := later.factories kind factory (earlier.factories kind factory held)
  compilers := earlier.compilers.trans later.compilers

theorem Grown.has_factory (grown : r.Grown next) {kind : BlueprintKind}
    (has : r.hasFactory kind = true) : next.hasFactory kind = true := by
  obtain ⟨factory, held⟩ := Option.isSome_iff_exists.mp has
  exact Option.isSome_iff_exists.mpr ⟨factory, grown.factories kind factory held⟩

theorem grown_add_compiler (r : CompilerRegistry) (c : CompilerEntry) :
    r.Grown (r.addCompiler c) :=
  ⟨fun _ _ held => held, List.prefix_append ..⟩

theorem grown_of_register {kind : BlueprintKind} {factory : ContextFactory}
    (registered : r.registerFactory kind factory = .ok next) : r.Grown next := by
  unfold registerFactory at registered
  split at registered
  · cases registered
  · next vacant =>
      cases registered
      refine ⟨fun other held kept => ?_, List.prefix_rfl⟩
      rw [Catalog.get?_insert]
      split
      · next same =>
          subst same
          exact (vacant (Option.isSome_iff_exists.mpr ⟨held, kept⟩)).elim
      · exact kept

theorem grown_of_hook (hooked : r.installHook = .ok next) : r.Grown next := by
  obtain ⟨registered, made, rfl⟩ := map_eq_ok hooked
  exact (grown_of_register made).trans (grown_add_compiler registered .managed)

theorem has_factory_of_hook (hooked : r.installHook = .ok next) :
    next.hasFactory .managed = true := by
  obtain ⟨registered, made, rfl⟩ := map_eq_ok hooked
  unfold registerFactory at made
  split at made
  · cases made
  · cases made
    exact congrArg Option.isSome (Catalog.get?_insert_self ..)

theorem install_hook_of_taken (taken : r.hasFactory .managed = true) :
    r.installHook = .error (.factoryTaken .managed) := by
  unfold installHook registerFactory
  rw [if_pos taken]
  rfl

def afterHook (r : CompilerRegistry) : CompilerRegistry :=
  match r.installHook with
  | .ok next => next
  | .error _ => r

def hooked : Nat → CompilerRegistry
  | 0 => {}
  | times + 1 => (hooked times).afterHook

theorem hooked_succ (times : Nat) : hooked (times + 1) = hooked 1 := by
  induction times with
  | zero => rfl
  | succ times ih =>
      have taken : (hooked 1).hasFactory .managed = true := rfl
      rw [hooked, ih, afterHook, install_hook_of_taken taken]

theorem factory_hooked (times : Nat) (kind : BlueprintKind) :
    (hooked (times + 1)).factories.get? kind = some .managed ↔ kind = .managed := by
  rw [hooked_succ]
  cases kind <;> decide

theorem has_errors_compile (r : CompilerRegistry) (g : TypeGraph) (ref : BlueprintRef)
    (options : CompileOptions) :
    (r.compile g ref options).hasErrors = true ↔
      ∀ blueprint ∈ g.blueprint? ref,
        r.factories.get? blueprint.kind = some .managed ∧ g.generatedClass? ref = none := by
  unfold compile contextOf?
  cases live : g.blueprint? ref with
  | none => simp
  | some blueprint =>
      simp only [Option.map_some, contextFor, Option.mem_some_iff, forall_eq',
        CompileContext.has_errors_compile]
      cases r.factories.get? blueprint.kind with
      | none => simp
      | some factory => cases factory <;> simp [ContextFactory.make]

theorem hooked_fails_iff (times : Nat) (g : TypeGraph) (ref : BlueprintRef)
    (options : CompileOptions) :
    ((hooked (times + 1)).compile g ref options).hasErrors = true ↔ g.Unbuildable ref := by
  simp only [has_errors_compile, factory_hooked, TypeGraph.unbuildable_iff]

end CompilerRegistry

end BlueprintBridge
