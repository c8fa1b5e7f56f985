import BlueprintBridge.Proofs.SlotTable.Directory
import Mathlib.Data.List.Induction

/-!
# Tables from which nothing is taken

Where nothing is ever removed, each slot holds a value at the first generation. A reference is live
exactly if it is of that generation and its slot is there. So a live one stays live, and the one
that was handed out last is live even where the numbers of the slots have wrapped. A value that is
stored under its name takes the place of the one stored there before; as long as the slots can be
numbered, what a name leads to is the value stored last.
-/

namespace BlueprintBridge.SlotTable

set_option autoImplicit false

variable {kind : ObjectKind} {α κ : Type} [DecidableEq κ] {t next : SlotTable kind α}
  {names nextNames : Catalog κ (Ref kind)} {nameOf : α → κ} {ref : Ref kind}

/-- Each slot holds a value at the first generation, and each name leads to one of them. -/
structure Packed (t : SlotTable kind α) (names : Catalog κ (Ref kind)) : Prop where
  free : t.free = []
  full : ∀ slot ∈ t.slots, ∃ value, slot = ⟨0, some value⟩
  listed : ∀ name ref, names.get? name = some ref → t.contains ref = true

theorem packed_empty : Packed (empty : SlotTable kind α) (.empty : Catalog κ (Ref kind)) where
  free := rfl
  full slot member := by cases member
  listed name ref found := by cases found

theorem insert_of_no_free (free : t.free = []) (value : α) :
    t.insert value = (⟨UInt32.ofNat t.slots.length, 0⟩,
      { slots := t.slots ++ [⟨0, some value⟩], free := [], size := t.size + 1 }) := by
  simp [insert, free]

theorem contains_iff_of_full (full : ∀ slot ∈ t.slots, ∃ value, slot = ⟨0, some value⟩) :
    t.contains ref = true ↔ ref.generation = 0 ∧ ref.index.toNat < t.slots.length := by
  rw [contains_iff]
  constructor
  · rintro ⟨value, live⟩
    obtain ⟨inside, held⟩ := held_of_get live
    obtain ⟨_, same⟩ := full _ (List.mem_of_getElem? held)
    exact ⟨congrArg Slot.generation same, inside⟩
  · rintro ⟨first, inside⟩
    obtain ⟨value, same⟩ := full _ (List.getElem_mem inside)
    refine ⟨value, get_eq_some.mpr ⟨?_, ?_⟩⟩
    · rintro rfl
      exact absurd first (show (4294967295 : UInt32) ≠ 0 by decide)
    · rw [List.getElem?_eq_getElem inside, same, first]

namespace Packed

theorem contains_iff (packed : t.Packed names) :
    t.contains ref = true ↔ ref.generation = 0 ∧ ref.index.toNat < t.slots.length :=
  contains_iff_of_full packed.full

theorem full_insert (packed : t.Packed names) (value : α) :
    ∀ slot ∈ (t.insert value).2.slots, ∃ value, slot = ⟨0, some value⟩ := by
  rw [insert_of_no_free packed.free]
  intro slot member
  rcases List.mem_append.mp member with old | new
  · exact packed.full slot old
  · exact ⟨value, List.mem_singleton.mp new⟩

theorem contains_insert_of_live (packed : t.Packed names) (value : α)
    (live : t.contains ref = true) : (t.insert value).2.contains ref = true := by
  rw [contains_iff_of_full (packed.full_insert value)]
  obtain ⟨first, inside⟩ := packed.contains_iff.mp live
  exact ⟨first, Nat.lt_of_lt_of_le inside (t.length_insert_le value).1⟩

theorem contains_insert (packed : t.Packed names) (value : α) :
    (t.insert value).2.contains (t.insert value).1 = true := by
  rw [contains_iff_of_full (packed.full_insert value), insert_of_no_free packed.free]
  refine ⟨rfl, ?_⟩
  rw [List.length_append, List.length_singleton]
  exact Nat.lt_succ_of_le (Nat.mod_le _ _)

theorem insert (packed : t.Packed names) (name : κ) (value : α) :
    (t.insert value).2.Packed (names.insert name (t.insert value).1) where
  free := by rw [insert_of_no_free packed.free]
  full := packed.full_insert value
  listed other ref found := by
    rw [Catalog.get?_insert] at found
    split at found
    · rw [← Option.some.inj found]
      exact packed.contains_insert value
    · exact packed.contains_insert_of_live value (packed.listed other ref found)

theorem modify (packed : t.Packed names) (ref : Ref kind) (f : α → α) :
    (t.modify ref f).Packed names where
  free := by
    unfold SlotTable.modify
    split <;> exact packed.free
  full slot member := by
    unfold SlotTable.modify at member
    split at member
    · exact packed.full slot member
    · next value live =>
        rcases List.mem_or_eq_of_mem_set member with old | rfl
        · exact packed.full slot old
        · have first := (packed.contains_iff.mp (SlotTable.contains_iff.mpr ⟨value, live⟩)).1
          exact ⟨f value, by rw [first]⟩
  listed name other found := by
    rw [contains_modify]
    exact packed.listed name other found

end Packed

/-- What storing a value makes of a table and the catalog beside it, or of both if none is. A value
whose name is on file replaces the one there. -/
inductive Restocked (nameOf : α → κ) (t : SlotTable kind α) (names : Catalog κ (Ref kind)) :
    Option α → SlotTable kind α → Catalog κ (Ref kind) → Prop where
  | kept : Restocked nameOf t names none t names
  | changed {value : α} {ref : Ref kind} {f : α → α} (found : names.get? (nameOf value) = some ref)
      (renamed : ∀ old, nameOf (f old) = nameOf old)
      (replaced : ∀ old, nameOf old = nameOf value → f old = value) :
      Restocked nameOf t names (some value) (t.modify ref f) names
  | added {value : α} (free : names.get? (nameOf value) = none) :
      Restocked nameOf t names (some value) (t.insert value).2
        (names.insert (nameOf value) (t.insert value).1)

def recorded? (t : SlotTable kind α) (names : Catalog κ (Ref kind)) (name : κ) : Option α :=
  (names.get? name).bind t.get?

def lastNamed? (nameOf : α → κ) (values : List α) (name : κ) : Option α :=
  values.reverse.find? fun value => nameOf value = name

namespace Restocked

variable {value? : Option α} {value : α}

theorem refiling (restocked : Restocked nameOf t names value? next nextNames) :
    Refiling nameOf t names next nextNames := by
  cases restocked with
  | kept => exact .kept
  | changed _ renamed => exact .changed _ _ renamed
  | added free => exact .added _ free

theorem packed (restocked : Restocked nameOf t names value? next nextNames)
    (packed : t.Packed names) : next.Packed nextNames := by
  cases restocked with
  | kept => exact packed
  | changed => exact packed.modify _ _
  | added => exact packed.insert _ _

/-- A name leads to the same reference ever after. -/
theorem found (restocked : Restocked nameOf t names value? next nextNames) {name : κ}
    (found : names.get? name = some ref) : nextNames.get? name = some ref := by
  cases restocked with
  | kept | changed => exact found
  | added free =>
      rw [Catalog.get?_insert, if_neg]
      · exact found
      · rintro rfl
        rw [free] at found
        cases found

theorem recorded (restocked : Restocked nameOf t names (some value) next nextNames)
    (filed : t.Filed names nameOf) (short : next.slots.length < UInt32.size) (name : κ) :
    recorded? next nextNames name =
      if name = nameOf value then some value else recorded? t names name := by
  unfold recorded?
  cases restocked with
  | @changed _ ref f found renamed replaced =>
      obtain ⟨old, live, named⟩ := (filed.named (nameOf value) ref).mp found
      split
      · next same =>
          rw [same, found, Option.bind_some, get_modify, if_pos rfl, live, Option.map_some,
            replaced old named]
      · next apart =>
          cases lead : names.get? name with
          | none => rfl
          | some other =>
              -- No other name leads to the value that was replaced.
              have elsewhere : other ≠ ref := by
                rintro rfl
                obtain ⟨again, liveToo, namedToo⟩ := (filed.named name other).mp lead
                rw [live] at liveToo
                cases liveToo
                exact apart (namedToo.symm.trans named)
              rw [Option.bind_some, Option.bind_some, get_modify, if_neg elsewhere]
  | added free =>
      obtain ⟨fresh, lookup⟩ := filed.table.get_insert_of_short value short
      rw [Catalog.get?_insert]
      split
      · rw [Option.bind_some, lookup, if_pos rfl]
      · cases lead : names.get? name with
        | none => rfl
        | some other =>
            have elsewhere : other ≠ (t.insert value).1 := by
              rintro rfl
              exact fresh (issued_of_contains (filed.live lead))
            rw [Option.bind_some, Option.bind_some, lookup, if_neg elsewhere]

end Restocked

theorem last_named_snoc (values : List α) (value : α) (name : κ) :
    lastNamed? nameOf (values ++ [value]) name =
      if name = nameOf value then some value else lastNamed? nameOf values name := by
  unfold lastNamed?
  by_cases same : nameOf value = name
  · simp [same]
  · simp [same, Ne.symm same]

/-- Where each step stores at most one value, a name leads to the value that was stored last under
it. -/
theorem recorded_eq_last_named {χ : Type} (table : List χ → SlotTable kind α)
    (names : List χ → Catalog κ (Ref kind)) (value? : χ → Option α)
    (table_start : table [] = empty) (names_start : names [] = .empty)
    (step : ∀ steps last, Restocked nameOf (table steps) (names steps) (value? last)
      (table (steps ++ [last])) (names (steps ++ [last])))
    (steps : List χ) (short : (table steps).slots.length < UInt32.size) :
    (table steps).Filed (names steps) nameOf ∧
      ∀ name, recorded? (table steps) (names steps) name =
        lastNamed? nameOf (steps.filterMap value?) name := by
  induction steps using List.reverseRecOn with
  | nil =>
      rw [table_start, names_start]
      exact ⟨filed_empty, fun name => rfl⟩
  | append_singleton steps last ih =>
      have restocked := step steps last
      obtain ⟨filed, recorded⟩ := ih (Nat.lt_of_le_of_lt restocked.refiling.slots_le short)
      refine ⟨restocked.refiling.filed filed short, fun name => ?_⟩
      rw [List.filterMap_append]
      generalize table (steps ++ [last]) = next, names (steps ++ [last]) = nextNames
        at restocked short ⊢
      cases stored : value? last with
      | none =>
          rw [stored] at restocked
          cases restocked
          rw [recorded name, List.filterMap_cons_none stored, List.filterMap_nil, List.append_nil]
      | some value =>
          rw [stored] at restocked
          rw [restocked.recorded filed short, recorded name, List.filterMap_cons_some stored,
            List.filterMap_nil, last_named_snoc]

end BlueprintBridge.SlotTable
