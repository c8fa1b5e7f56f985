import BlueprintBridge.Proofs.SlotTable
import Mathlib.Data.List.Basic

/-!
# Links between tables

A value may hold a link to a value of another table. Told by the list of the links that were ever
made, each for a reference that was handed out by then, a live value holds the one that was made
last for its reference. The reference of a new value is in no entry: so it never takes over what the
value before it in the slot was linked with.
-/

namespace BlueprintBridge.SlotTable

set_option autoImplicit false

variable {kind : ObjectKind} {α β : Type} {t : SlotTable kind α} {link : α → Option β}
  {links : List (Ref kind × β)} {ref : Ref kind} {target : β}

def lastLink? (links : List (Ref kind × β)) (ref : Ref kind) : Option β :=
  (links.reverse.find? fun entry => entry.1 = ref).map Prod.snd

theorem last_link_snoc (links : List (Ref kind × β)) (ref other : Ref kind) (target : β) :
    lastLink? (links ++ [(ref, target)]) other =
      if other = ref then some target else lastLink? links other := by
  unfold lastLink?
  by_cases same : ref = other
  · simp [same]
  · simp [same, Ne.symm same]

theorem last_link_append (early late : List (Ref kind × β)) (ref : Ref kind) :
    lastLink? (early ++ late) ref = (lastLink? late ref).or (lastLink? early ref) := by
  unfold lastLink?
  rw [List.reverse_append, List.find?_append, Option.map_or]

theorem mem_of_last_link (last : lastLink? links ref = some target) : (ref, target) ∈ links := by
  obtain ⟨entry, found, rfl⟩ := Option.map_eq_some_iff.mp last
  have same : entry.1 = ref := by simpa using List.find?_some found
  have member := List.mem_of_find?_eq_some found
  rw [List.mem_reverse] at member
  rwa [← same]

def givenLink? [DecidableEq α] (t : SlotTable kind α) (link : α → Option β) (value : α) :
    Option (Ref kind × β) :=
  if (t.insert value).2.get? (t.insert value).1 = some value then
    (link value).map fun target => ((t.insert value).1, target)
  else none

theorem issued_of_given [DecidableEq α] {value : α} {entry : Ref kind × β}
    (given : t.givenLink? link value = some entry) : (t.insert value).2.Issued entry.1 := by
  unfold givenLink? at given
  split at given
  · next live =>
      obtain ⟨target, _, rfl⟩ := Option.map_eq_some_iff.mp given
      exact issued_of_contains (contains_iff.mpr ⟨value, live⟩)
  · cases given

theorem last_given_link [DecidableEq α] {value found : α}
    (live : (t.insert value).2.get? ref = some found) :
    lastLink? (t.givenLink? link value).toList ref =
      if ref = (t.insert value).1 ∧ found = value then link value else none := by
  unfold givenLink?
  by_cases new : ref = (t.insert value).1
  · subst new
    rw [live]
    by_cases same : found = value
    · cases link value <;> simp [same, lastLink?]
    · simp [same, lastLink?]
  · split
    · cases link value <;> simp [new, Ne.symm new, lastLink?]
    · simp [new, lastLink?]

/-- The live values hold the links that were made last. -/
structure Linked (t : SlotTable kind α) (link : α → Option β) (links : List (Ref kind × β)) :
    Prop where
  table : t.Sound
  issued : ∀ entry ∈ links, t.Issued entry.1
  last : ∀ ref value, t.get? ref = some value → link value = lastLink? links ref

namespace Linked

theorem unlinked (linked : t.Linked link links) (fresh : ¬ t.Issued ref) :
    lastLink? links ref = none := by
  cases last : lastLink? links ref with
  | none => rfl
  | some target => exact absurd (linked.issued _ (mem_of_last_link last)) fresh

theorem insert (linked : t.Linked link links) {value : α} (bare : link value = none) :
    (t.insert value).2.Linked link links := by
  refine ⟨linked.table.insert value, ?_, ?_⟩
  · intro entry member
    exact (linked.issued entry member).insert linked.table value
  · intro ref found live
    rcases linked.table.get_insert_cases value with same | ⟨fresh, lookup⟩
    · rw [same] at live
      exact linked.last ref found live
    · rw [lookup] at live
      split at live
      · next new =>
          cases live
          rw [bare, new, linked.unlinked fresh]
      · exact linked.last ref found live

theorem insert_given [DecidableEq α] {given made : List (Ref kind × β)}
    (linked : t.Linked link (given ++ made)) (value : α) :
    (t.insert value).2.Linked link (given ++ (t.givenLink? link value).toList ++ made) := by
  refine ⟨linked.table.insert value, ?_, ?_⟩
  · intro entry member
    rw [List.append_assoc, List.mem_append, List.mem_append] at member
    rcases member with old | new | old
    · exact (linked.issued entry (List.mem_append_left _ old)).insert linked.table value
    · exact issued_of_given (Option.mem_toList.mp new)
    · exact (linked.issued entry (List.mem_append_right _ old)).insert linked.table value
  · intro ref found live
    rw [last_link_append, last_link_append, last_given_link live]
    rcases linked.table.get_insert_cases value with same | ⟨fresh, lookup⟩
    -- The value cannot be looked up: what is found held its link before.
    · rw [same] at live
      have before := linked.last ref found live
      rw [last_link_append] at before
      split
      · next new =>
          rw [← new.2, before]
          cases lastLink? made ref <;> simp
      · rw [before, Option.none_or]
    · rw [lookup] at live
      split at live
      · next new =>
          cases live
          have none := linked.unlinked fresh
          rw [last_link_append, Option.or_eq_none_iff] at none
          rw [if_pos ⟨new, rfl⟩, new, none.1, none.2, Option.none_or, Option.or_none]
      · next apart =>
          rw [if_neg fun new => apart new.1, Option.none_or, ← last_link_append]
          exact linked.last ref found live

theorem remove (linked : t.Linked link links) {gone : Ref kind}
    (unwrapped : t.contains gone = true → gone.generation.toNat + 1 < UInt32.size) :
    (t.remove gone).2.Linked link links := by
  refine ⟨linked.table.remove gone, ?_, ?_⟩
  · intro entry member
    exact (linked.issued entry member).remove unwrapped
  · intro ref found live
    rw [get_remove] at live
    split at live
    · cases live
    · exact linked.last ref found live

theorem modify (linked : t.Linked link links) (changed : Ref kind) {f : α → α}
    (kept : ∀ value, link (f value) = link value) : (t.modify changed f).Linked link links := by
  refine ⟨linked.table.modify changed f, ?_, ?_⟩
  · intro entry member
    exact (linked.issued entry member).modify changed f
  · intro ref found live
    rw [get_modify] at live
    split at live
    · next same =>
        obtain ⟨value, before, rfl⟩ := Option.map_eq_some_iff.mp live
        rw [kept, linked.last changed value before, same]
    · exact linked.last ref found live

theorem join (linked : t.Linked link links) {f : α → α} (live : t.contains ref = true)
    (joined : ∀ value, link (f value) = some target) :
    (t.modify ref f).Linked link (links ++ [(ref, target)]) := by
  refine ⟨linked.table.modify ref f, ?_, ?_⟩
  · intro entry member
    apply Issued.modify
    rcases List.mem_append.mp member with old | new
    · exact linked.issued entry old
    · rw [List.mem_singleton.mp new]
      exact issued_of_contains live
  · intro other found liveThen
    rw [get_modify] at liveThen
    rw [last_link_snoc]
    split at liveThen
    · next same =>
        obtain ⟨value, _, rfl⟩ := Option.map_eq_some_iff.mp liveThen
        rw [joined, if_pos same]
    · next apart =>
        rw [if_neg apart]
        exact linked.last other found liveThen

end Linked

variable {otherKind : ObjectKind} {γ : Type} {others : SlotTable otherKind γ}
  {link : α → Option (Ref otherKind)} {links : List (Ref kind × Ref otherKind)}
  {target : Ref otherKind}

def follow? (t : SlotTable kind α) (link : α → Option (Ref otherKind))
    (others : SlotTable otherKind γ) (ref : Ref kind) : Option (Ref otherKind) :=
  ((t.get? ref).bind link).filter others.contains

theorem Linked.follow_iff (linked : t.Linked link links) :
    t.follow? link others ref = some target ↔
      t.contains ref = true ∧ others.contains target = true ∧
        lastLink? links ref = some target := by
  unfold follow?
  rw [Option.filter_eq_some_iff, Option.bind_eq_some_iff]
  constructor
  · rintro ⟨⟨value, live, held⟩, there⟩
    rw [linked.last ref value live] at held
    exact ⟨contains_iff.mpr ⟨value, live⟩, there, held⟩
  · rintro ⟨live, there, last⟩
    obtain ⟨value, found⟩ := contains_iff.mp live
    exact ⟨⟨value, found, (linked.last ref value found).trans last⟩, there⟩

theorem Sound.follow_insert (sound : t.Sound) {value : α} (bare : link value = none)
    (ref : Ref kind) : (t.insert value).2.follow? link others ref = t.follow? link others ref := by
  unfold follow?
  rcases sound.get_insert_cases value with same | ⟨fresh, lookup⟩
  · rw [same]
  · rw [lookup]
    split
    · next new =>
        subst new
        rw [get_of_not_issued fresh, Option.bind_some, bare, Option.bind_none]
    · rfl

theorem contains_insert_of_issued (sound : t.Sound) (value : α) (issued : t.Issued ref) :
    (t.insert value).2.contains ref = t.contains ref := by
  unfold contains
  rcases sound.get_insert_cases value with same | ⟨fresh, lookup⟩
  · rw [same]
  · rw [lookup, if_neg]
    rintro rfl
    exact fresh issued

theorem follow_insert_other (sound : others.Sound) (value : γ)
    (issued : ∀ target, (t.get? ref).bind link = some target → others.Issued target) :
    t.follow? link (others.insert value).2 ref = t.follow? link others ref := by
  unfold follow?
  cases held : (t.get? ref).bind link with
  | none => rfl
  | some target =>
      rw [Option.filter_some, Option.filter_some,
        contains_insert_of_issued sound value (issued target held)]

theorem follow_remove (gone : Ref kind) (ref : Ref kind) :
    (t.remove gone).2.follow? link others ref =
      if ref = gone then none else t.follow? link others ref := by
  unfold follow?
  rw [get_remove]
  split <;> rfl

theorem follow_remove_other (gone : Ref otherKind) (ref : Ref kind) :
    t.follow? link (others.remove gone).2 ref =
      (t.follow? link others ref).filter fun target => target ≠ gone := by
  unfold follow?
  rw [Option.filter_filter]
  congr 1
  funext target
  unfold contains
  rw [get_remove]
  by_cases same : target = gone <;> simp [same]

theorem follow_modify {changed : Ref kind} {f : α → α} (kept : ∀ value, link (f value) = link value)
    (ref : Ref kind) : (t.modify changed f).follow? link others ref = t.follow? link others ref := by
  unfold follow?
  rw [get_modify]
  split
  · next same =>
      subst same
      rw [Option.bind_map]
      congr 2
      funext value
      exact kept value
  · rfl

theorem follow_modify_other (changed : Ref otherKind) (f : γ → γ) (ref : Ref kind) :
    t.follow? link (others.modify changed f) ref = t.follow? link others ref := by
  unfold follow?
  congr 1
  funext target
  exact contains_modify others changed f target

theorem follow_join {joining : Ref kind} {f : α → α} (live : t.contains joining = true)
    (there : others.contains target = true) (joined : ∀ value, link (f value) = some target)
    (ref : Ref kind) : (t.modify joining f).follow? link others ref =
      if ref = joining then some target else t.follow? link others ref := by
  unfold follow?
  rw [get_modify]
  split
  · obtain ⟨value, found⟩ := contains_iff.mp live
    simp [found, joined, there]
  · rfl

end BlueprintBridge.SlotTable
