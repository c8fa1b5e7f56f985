import BlueprintBridge.Proofs.SlotTable
import BlueprintBridge.Proofs.Splits
import Mathlib.Data.List.Induction
import Mathlib.Data.List.Nodup

/-!
# A table told by its history

A history is what a table was asked, each with its answer. Told by it alone, a table is a map from
references to values: a reference is handed out by one insertion only, from then on it finds what
was stored or changed under it last, and after its removal it finds nothing for ever. The slots and
the free list never show.
-/

namespace BlueprintBridge.SlotTable

set_option autoImplicit false

inductive Request (kind : ObjectKind) (α : Type) where
  | insert (value : α)
  | remove (ref : Ref kind)
  /-- Reaches for a value to change it where it lies. -/
  | modify (ref : Ref kind) (change : α → α)
  | get (ref : Ref kind)
  | contains (ref : Ref kind)
  | size
  | list

inductive Answer (kind : ObjectKind) (α : Type) where
  | issued (ref : Ref kind)
  | found (value : Option α)
  | held (held : Bool)
  | counted (number : Nat)
  | listed (entries : List (Ref kind × α))

structure Exchange (kind : ObjectKind) (α : Type) where
  request : Request kind α
  answer : Answer kind α

variable {kind : ObjectKind} {α : Type}

def perform (t : SlotTable kind α) : Request kind α → Answer kind α × SlotTable kind α
  | .insert value => (.issued (t.insert value).1, (t.insert value).2)
  | .remove ref => (.found (t.remove ref).1, (t.remove ref).2)
  | .modify ref change => (.found (t.get? ref), t.modify ref change)
  | .get ref => (.found (t.get? ref), t)
  | .contains ref => (.held (t.contains ref), t)
  | .size => (.counted t.size, t)
  | .list => (.listed t.toList, t)

def Fits (t : SlotTable kind α) : Request kind α → Prop
  | .insert value => (t.insert value).2.slots.length < UInt32.size
  | .remove ref => t.contains ref = true → ref.generation.toNat + 1 < UInt32.size
  | _ => True

instance (t : SlotTable kind α) : (request : Request kind α) → Decidable (t.Fits request)
  | .insert value => inferInstanceAs (Decidable ((t.insert value).2.slots.length < UInt32.size))
  | .remove ref =>
      inferInstanceAs (Decidable (t.contains ref = true → ref.generation.toNat + 1 < UInt32.size))
  | .modify _ _ | .get _ | .contains _ | .size | .list => isTrue trivial

inductive Past : List (Exchange kind α) → SlotTable kind α → Prop where
  | start : Past [] empty
  | asked {history : List (Exchange kind α)} {t : SlotTable kind α} (earlier : Past history t)
      (request : Request kind α) (fits : t.Fits request) :
      Past (history ++ [⟨request, (t.perform request).1⟩]) (t.perform request).2

namespace Exchange

def effect (ref : Ref kind) (held : Option α) : Exchange kind α → Option α
  | ⟨.insert value, .issued issued⟩ => if issued = ref then some value else held
  | ⟨.remove removed, _⟩ => if removed = ref then none else held
  | ⟨.modify changed change, _⟩ => if changed = ref then held.map change else held
  | _ => held

def issued? : Exchange kind α → Option (Ref kind)
  | ⟨.insert _, .issued ref⟩ => some ref
  | _ => none

end Exchange

def heldAfter (history : List (Exchange kind α)) (ref : Ref kind) : Option α :=
  history.foldl (Exchange.effect ref) none

def issuedIn (history : List (Exchange kind α)) : List (Ref kind) :=
  history.filterMap Exchange.issued?

/-- Whether a reference was handed out and not removed since. -/
def InsertedAndKept (history : List (Exchange kind α)) (ref : Ref kind) : Prop :=
  ∃ before value after, history = before ++ ⟨.insert value, .issued ref⟩ :: after ∧
    ∀ exchange ∈ after, exchange.request ≠ .remove ref

variable {history : List (Exchange kind α)} {exchange : Exchange kind α} {ref : Ref kind}

theorem held_snoc : heldAfter (history ++ [exchange]) ref =
    exchange.effect ref (heldAfter history ref) := by
  rw [heldAfter, List.foldl_append]
  rfl

theorem issued_in_snoc : issuedIn (history ++ [exchange]) =
    issuedIn history ++ exchange.issued?.toList := by
  rw [issuedIn, List.filterMap_append]
  cases issued : exchange.issued? <;> simp [issuedIn, issued]

theorem effect_is_some (held : Option α) : (exchange.effect ref held).isSome = true ↔
    (∃ value, exchange = ⟨.insert value, .issued ref⟩) ∨
      held.isSome = true ∧ exchange.request ≠ .remove ref := by
  obtain ⟨request, answer⟩ := exchange
  cases request with
  | insert value =>
      cases answer with
      | issued issued =>
          by_cases same : issued = ref
          · simp [Exchange.effect, same]
          · simp [Exchange.effect, same]
      | found | held | counted | listed => simp [Exchange.effect]
  | remove removed =>
      by_cases same : removed = ref
      · simp [Exchange.effect, same]
      · simp [Exchange.effect, same]
  | modify changed change =>
      by_cases same : changed = ref
      · simp [Exchange.effect, same]
      · simp [Exchange.effect, same]
  | get | contains | size | list => simp [Exchange.effect]

theorem inserted_and_kept_snoc : InsertedAndKept (history ++ [exchange]) ref ↔
    (∃ value, exchange = ⟨.insert value, .issued ref⟩) ∨
      InsertedAndKept history ref ∧ exchange.request ≠ .remove ref := by
  constructor
  · rintro ⟨before, value, after, split, kept⟩
    -- Either the insertion is the last exchange, or the last exchange came after it.
    rcases snoc_eq_split.mp split with ⟨_, same, _⟩ | ⟨between, rfl, same⟩
    · exact .inl ⟨value, same⟩
    · refine .inr ⟨⟨before, value, between, same, fun other member => ?_⟩, ?_⟩
      · exact kept other (by simp [member])
      · exact kept exchange (by simp)
  · rintro (⟨value, rfl⟩ | ⟨⟨before, value, after, rfl, kept⟩, other⟩)
    · exact ⟨history, value, [], rfl, fun _ member => absurd member List.not_mem_nil⟩
    · refine ⟨before, value, after ++ [exchange], by simp, fun entry member => ?_⟩
      rcases List.mem_append.mp member with old | new
      · exact kept entry old
      · rwa [List.mem_singleton.mp new]

/-- A reference finds a value exactly if it was handed out and not removed since. -/
theorem held_is_some (history : List (Exchange kind α)) (ref : Ref kind) :
    (heldAfter history ref).isSome = true ↔ InsertedAndKept history ref := by
  induction history using List.reverseRecOn with
  | nil => simp [heldAfter, InsertedAndKept]
  | append_singleton history exchange ih =>
      rw [held_snoc, effect_is_some, inserted_and_kept_snoc, ih]

theorem InsertedAndKept.issued (kept : InsertedAndKept history ref) : ref ∈ issuedIn history := by
  obtain ⟨before, value, after, rfl, _⟩ := kept
  rw [issuedIn, List.mem_filterMap]
  exact ⟨⟨.insert value, .issued ref⟩, by simp, rfl⟩

variable {t : SlotTable kind α}

theorem mem_to_list_iff (short : t.slots.length < UInt32.size) (ref : Ref kind) (value : α) :
    (ref, value) ∈ t.toList ↔ t.get? ref = some value := by
  refine ⟨fun listed => ?_, mem_to_list⟩
  rw [toList, List.mem_filterMap] at listed
  obtain ⟨⟨⟨generation, content⟩, index⟩, member, entry⟩ := listed
  have slot := List.mem_zipIdx_iff_getElem?.mp member
  have inside := (List.getElem?_eq_some_iff.mp slot).1
  have number : (UInt32.ofNat index).toNat = index :=
    UInt32.toNat_ofNat_of_lt' (Nat.lt_trans inside short)
  cases content with
  | none => cases entry
  | some held =>
      cases entry
      refine get_eq_some.mpr ⟨?_, by rw [number]; exact slot⟩
      -- The reference to nothing has the number that no slot gets.
      intro null
      have last : (UInt32.ofNat index).toNat = 4294967295 :=
        congrArg (fun ref : Ref kind => ref.index.toNat) null
      have size : UInt32.size = 4294967296 := rfl
      rw [number] at last
      have few : t.slots.length < 4294967296 := short
      have many : index < t.slots.length := inside
      omega

theorem to_list_ordered (short : t.slots.length < UInt32.size) :
    t.toList.Pairwise fun first second => first.1.index < second.1.index := by
  have rising : t.slots.zipIdx.Pairwise fun first second => first.2 < second.2 := by
    rw [← List.pairwise_map, List.zipIdx_map_snd]
    exact List.pairwise_lt_range'
  rw [toList, List.pairwise_filterMap]
  refine rising.imp_of_mem ?_
  rintro ⟨slot, index⟩ ⟨later, next⟩ _ member order entry made other found
  have inside := (List.getElem?_eq_some_iff.mp (List.mem_zipIdx_iff_getElem?.mp member)).1
  obtain ⟨_, _, rfl⟩ := Option.map_eq_some_iff.mp made
  obtain ⟨_, _, rfl⟩ := Option.map_eq_some_iff.mp found
  have below : next < UInt32.size := Nat.lt_trans inside short
  rw [UInt32.lt_iff_toNat_lt, UInt32.toNat_ofNat_of_lt' below,
    UInt32.toNat_ofNat_of_lt' (Nat.lt_trans order below)]
  exact order

theorem nodup_references (short : t.slots.length < UInt32.size) :
    (t.toList.map Prod.fst).Nodup := by
  refine List.Pairwise.map Prod.fst (fun first second order same => ?_) (to_list_ordered short)
  rw [same] at order
  exact UInt32.lt_irrefl _ order

theorem mem_listed_iff (short : t.slots.length < UInt32.size) (wanted : α → Bool) (ref : Ref kind) :
    ref ∈ (t.toList.filter fun pair => wanted pair.2).map Prod.fst ↔
      ∃ value, t.get? ref = some value ∧ wanted value = true := by
  simp only [List.mem_map, List.mem_filter]
  constructor
  · rintro ⟨⟨listed, value⟩, ⟨member, fits⟩, rfl⟩
    exact ⟨value, (mem_to_list_iff short listed value).mp member, fits⟩
  · rintro ⟨value, live, fits⟩
    exact ⟨(ref, value), ⟨mem_to_list live, fits⟩, rfl⟩

theorem listed_ordered (short : t.slots.length < UInt32.size) (wanted : α → Bool) :
    ((t.toList.filter fun pair => wanted pair.2).map Prod.fst).Pairwise
      fun first second => first.index < second.index := by
  rw [List.pairwise_map]
  exact (to_list_ordered short).sublist List.filter_sublist

/-- A table as its history tells of it: the references handed out are issued, none twice, and each
finds what the history says. -/
structure Told (history : List (Exchange kind α)) (t : SlotTable kind α) : Prop where
  sound : t.Sound
  short : t.slots.length < UInt32.size
  issued : ∀ ref ∈ issuedIn history, t.Issued ref
  once : (issuedIn history).Nodup
  get : ∀ ref, t.get? ref = heldAfter history ref

theorem told_empty : Told [] (empty : SlotTable kind α) where
  sound := sound_empty
  short := (by decide : 0 < UInt32.size)
  issued _ member := absurd member List.not_mem_nil
  once := List.nodup_nil
  get ref := get?_empty ref

theorem Told.read (told : Told history t) (nothing : exchange.issued? = none)
    (unchanged : ∀ ref held, exchange.effect ref held = held) : Told (history ++ [exchange]) t where
  sound := told.sound
  short := told.short
  issued := by simpa [issued_in_snoc, nothing] using told.issued
  once := by simpa [issued_in_snoc, nothing] using told.once
  get ref := by rw [held_snoc, unchanged, told.get]

theorem Told.insert (told : Told history t) (value : α)
    (short : (t.insert value).2.slots.length < UInt32.size) :
    Told (history ++ [⟨.insert value, .issued (t.insert value).1⟩]) (t.insert value).2 := by
  obtain ⟨fresh, get⟩ := told.sound.get_insert_of_short value short
  refine ⟨told.sound.insert value, short, fun ref member => ?_, ?_, fun ref => ?_⟩
  · rcases List.mem_append.mp (issued_in_snoc ▸ member) with old | new
    · exact (told.issued ref old).insert told.sound value
    · obtain rfl := List.mem_singleton.mp new
      apply issued_of_contains
      rw [contains, get, if_pos rfl]
      rfl
  · rw [issued_in_snoc]
    refine List.Nodup.append told.once (List.nodup_singleton _) ?_
    -- What was handed out is issued, and what comes next is not.
    intro ref old new
    obtain rfl := List.mem_singleton.mp new
    exact fresh (told.issued _ old)
  · rw [get, held_snoc, told.get, Exchange.effect]
    simp only [eq_comm]

theorem Told.remove (told : Told history t) (ref : Ref kind)
    (unwrapped : t.contains ref = true → ref.generation.toNat + 1 < UInt32.size) :
    Told (history ++ [⟨.remove ref, .found (t.remove ref).1⟩]) (t.remove ref).2 where
  sound := told.sound.remove ref
  short := by
    rw [length_remove]
    exact told.short
  issued other member := by
    refine (told.issued other ?_).remove unwrapped
    simpa [issued_in_snoc, Exchange.issued?] using member
  once := by simpa [issued_in_snoc, Exchange.issued?] using told.once
  get other := by
    rw [get_remove, held_snoc, told.get, Exchange.effect]
    simp only [eq_comm]

theorem Told.modify (told : Told history t) (ref : Ref kind) (change : α → α) :
    Told (history ++ [⟨.modify ref change, .found (t.get? ref)⟩]) (t.modify ref change) where
  sound := told.sound.modify ref change
  short := by
    rw [length_modify]
    exact told.short
  issued other member := by
    refine (told.issued other ?_).modify ref change
    simpa [issued_in_snoc, Exchange.issued?] using member
  once := by simpa [issued_in_snoc, Exchange.issued?] using told.once
  get other := by
    rw [get_modify, held_snoc, told.get, told.get, Exchange.effect]
    by_cases same : other = ref
    · simp [same]
    · simp [same, Ne.symm same]

theorem Told.perform (told : Told history t) (request : Request kind α) (fits : t.Fits request) :
    Told (history ++ [⟨request, (t.perform request).1⟩]) (t.perform request).2 := by
  cases request with
  | insert value => exact told.insert value fits
  | remove ref => exact told.remove ref fits
  | modify ref change => exact told.modify ref change
  | get | contains | size | list => exact told.read rfl fun _ _ => rfl

theorem Past.told (past : Past history t) : Told history t := by
  induction past with
  | start => exact told_empty
  | asked earlier request fits ih => exact ih.perform request fits

theorem Told.live_count (told : Told history t) :
    ((issuedIn history).filter fun ref => (heldAfter history ref).isSome).length = t.size := by
  have distinct := nodup_references told.short
  have same : ((issuedIn history).filter fun ref => (heldAfter history ref).isSome).Perm
      (t.toList.map Prod.fst) := by
    refine (List.perm_ext_iff_of_nodup (told.once.filter _) distinct).mpr fun ref => ?_
    rw [List.mem_filter, List.mem_map]
    constructor
    · rintro ⟨_, live⟩
      obtain ⟨value, held⟩ := Option.isSome_iff_exists.mp live
      have listed : (ref, value) ∈ t.toList :=
        (mem_to_list_iff told.short ref value).mpr ((told.get ref).trans held)
      exact ⟨(ref, value), listed, rfl⟩
    · rintro ⟨⟨listed, value⟩, member, rfl⟩
      have found := (mem_to_list_iff told.short listed value).mp member
      rw [told.get] at found
      have live : (heldAfter history listed).isSome = true :=
        Option.isSome_iff_exists.mpr ⟨value, found⟩
      exact ⟨((held_is_some history listed).mp live).issued, live⟩
  rw [same.length_eq, List.length_map, length_to_list, told.sound.size_eq]

/-- A table that answers as the map its history tells of. -/
structure Mirrors (history : List (Exchange kind α)) (t : SlotTable kind α) : Prop where
  get : ∀ ref, t.get? ref = heldAfter history ref
  contains : ∀ ref, t.contains ref = (heldAfter history ref).isSome
  live_iff : ∀ ref, (heldAfter history ref).isSome = true ↔ InsertedAndKept history ref
  issued_once : (issuedIn history).Nodup
  removed : ∀ ref, (t.remove ref).1 = heldAfter history ref
  unchanged_by_removal : ∀ ref, heldAfter history ref = none → (t.remove ref).2 = t
  unchanged_by_modification : ∀ ref change, heldAfter history ref = none → t.modify ref change = t
  size : t.size = ((issuedIn history).filter fun ref => (heldAfter history ref).isSome).length
  listed : ∀ ref value, (ref, value) ∈ t.toList ↔ heldAfter history ref = some value
  /-- No slot is listed twice, and the slots come in their order. -/
  ordered : t.toList.Pairwise fun first second => first.1.index < second.1.index

/-- After any requests, as long as the slots can be numbered and no generation wraps, a table
answers as the map that its history tells of. -/
theorem table_mirrors_history {history : List (Exchange kind α)} {t : SlotTable kind α}
    (past : Past history t) : Mirrors history t := by
  have told := past.told
  have removal (ref : Ref kind) (missing : heldAfter history ref = none) :
      t.remove ref = (none, t) := remove_of_none ((told.get ref).trans missing)
  exact
    { get := told.get
      contains := fun ref => by rw [contains, told.get]
      live_iff := held_is_some history
      issued_once := told.once
      removed := fun ref => by rw [remove_fst, told.get]
      unchanged_by_removal := fun ref missing => by rw [removal ref missing]
      unchanged_by_modification := fun ref change missing =>
        modify_of_none ((told.get ref).trans missing) change
      size := told.live_count.symm
      listed := fun ref value => by rw [mem_to_list_iff told.short, told.get]
      ordered := to_list_ordered told.short }

/-- A slot filled, emptied and filled again, while the old reference, the one of the generation yet
to come and the one to nothing are used as well. -/
theorem reused_slot_mirrors_history :
    ∃ (history : List (Exchange .text Nat)) (t : SlotTable .text Nat),
    Past history t ∧ issuedIn history = [⟨0, 0⟩, ⟨1, 0⟩, ⟨0, 1⟩] ∧
      t.toList = [(⟨0, 1⟩, 10), (⟨1, 0⟩, 8)] ∧ Mirrors history t := by
  have none : Past [] (empty : SlotTable .text Nat) := .start
  have two := (none.asked (.insert 7) (by decide)).asked (.insert 8) (by decide)
  have freed := (two.asked (.remove ⟨0, 0⟩) (by decide)).asked (.remove ⟨0, 1⟩) (by decide)
  have filled := (freed.asked (.insert 9) (by decide)).asked (.modify ⟨0, 1⟩ (· + 1)) (by decide)
  have stale := filled.asked (.modify ⟨0, 0⟩ (· + 1)) (by decide)
  have missed := stale.asked (.remove Ref.null) (by decide)
  exact ⟨_, _, missed, by decide, by decide, table_mirrors_history missed⟩

end BlueprintBridge.SlotTable
