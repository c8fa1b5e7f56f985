import BlueprintBridge.Proofs.Backlog
import Mathlib.Data.List.Dedup
import Mathlib.Data.List.Induction

/-!
# A backlog told by its history

A backlog is asked to queue blueprints and to hand lanes out. What it was asked, each with its
answer, says where every blueprint waits: in the lane that it was last queued in, until that lane
is handed out. It also says in which order: a lane is handed out in the order in which its entries
were last put into it.
-/

namespace BlueprintBridge

set_option autoImplicit false

theorem Lane.eq_or_other (lane other : Lane) : other = lane ∨ other = lane.other := by
  cases lane <;> cases other <;> simp [Lane.other]

namespace Backlog

inductive Request where
  | enqueue (lane : Lane) (blueprint : BlueprintRef)
  | take (lane : Lane)
deriving DecidableEq

inductive Answer where
  /-- Whether the lane changed. -/
  | changed (changed : Bool)
  | handedOut (entries : List BlueprintRef)
deriving DecidableEq

structure Exchange where
  request : Request
  answer : Answer
deriving DecidableEq

def perform (backlog : Backlog) : Request → Answer × Backlog
  | .enqueue lane blueprint =>
      (.changed (backlog.enqueue lane blueprint).1, (backlog.enqueue lane blueprint).2)
  | .take lane => (.handedOut (backlog.take lane).1, (backlog.take lane).2)

def ask (told : List Exchange × Backlog) (request : Request) : List Exchange × Backlog :=
  (told.1 ++ [⟨request, (told.2.perform request).1⟩], (told.2.perform request).2)

def askAll (requests : List Request) : List Exchange × Backlog := requests.foldl ask ([], {})

namespace Exchange

/-- Where a blueprint waits after an exchange, if it waited at `place` before. -/
def effect (blueprint : BlueprintRef) (place : Option Lane) : Exchange → Option Lane
  | ⟨.enqueue lane queued, _⟩ => if queued = blueprint then some lane else place
  | ⟨.take lane, _⟩ => if place = some lane then none else place

def put? (lane : Lane) : Exchange → Option BlueprintRef
  | ⟨.enqueue target blueprint, .changed true⟩ => if target = lane then some blueprint else none
  | _ => none

end Exchange

def whereabouts (history : List Exchange) (blueprint : BlueprintRef) : Option Lane :=
  history.foldl (Exchange.effect blueprint) none

def putInto (history : List Exchange) (lane : Lane) : List BlueprintRef :=
  history.filterMap (Exchange.put? lane)

/-- What waits in a lane, as the history tells, in the order in which each entry was last put there:
of several occurrences `List.dedup` keeps the last. -/
def lineOf (history : List Exchange) (lane : Lane) : List BlueprintRef :=
  (putInto history lane).dedup.filter fun blueprint => whereabouts history blueprint = some lane

variable {history : List Exchange} {exchange : Exchange}

theorem whereabouts_snoc (blueprint : BlueprintRef) :
    whereabouts (history ++ [exchange]) blueprint =
      exchange.effect blueprint (whereabouts history blueprint) := by
  rw [whereabouts, List.foldl_append]
  rfl

theorem put_into_snoc (lane : Lane) :
    putInto (history ++ [exchange]) lane = putInto history lane ++ (exchange.put? lane).toList := by
  rw [putInto, List.filterMap_append]
  cases put : exchange.put? lane <;> simp [putInto, put]

theorem dedup_snoc {α : Type} [DecidableEq α] (entries : List α) (last : α) :
    (entries ++ [last]).dedup = entries.dedup.filter (· ≠ last) ++ [last] := by
  induction entries with
  | nil => rfl
  | cons entry rest ih =>
      rw [List.cons_append]
      by_cases later : entry ∈ rest
      · rw [List.dedup_cons_of_mem (List.mem_append_left _ later), List.dedup_cons_of_mem later, ih]
      · rw [List.dedup_cons_of_notMem later]
        by_cases same : entry = last
        · subst same
          rw [List.dedup_cons_of_mem (by simp), ih, List.filter_cons_of_neg (by simp)]
        · rw [List.dedup_cons_of_notMem (by simp [later, same]), ih,
            List.filter_cons_of_pos (by simp [same]), List.cons_append]

theorem line_of_snoc_of_no_put {lane : Lane} (keeps : BlueprintRef → Bool)
    (nothing : exchange.put? lane = none)
    (place : ∀ blueprint, whereabouts (history ++ [exchange]) blueprint = some lane ↔
      whereabouts history blueprint = some lane ∧ keeps blueprint = true) :
    lineOf (history ++ [exchange]) lane = (lineOf history lane).filter keeps := by
  rw [lineOf, lineOf, put_into_snoc, nothing, Option.toList_none, List.append_nil,
    List.filter_filter]
  apply List.filter_congr
  intro blueprint _
  rw [Bool.eq_iff_iff]
  simp [place, and_comm]

/-- A blueprint that is put into a lane joins its line at the end. -/
theorem line_of_snoc_of_put {lane : Lane} {blueprint : BlueprintRef}
    (put : exchange.put? lane = some blueprint)
    (elsewhere : whereabouts history blueprint ≠ some lane)
    (place : ∀ entry, whereabouts (history ++ [exchange]) entry =
      if blueprint = entry then some lane else whereabouts history entry) :
    lineOf (history ++ [exchange]) lane = lineOf history lane ++ [blueprint] := by
  rw [lineOf, put_into_snoc, put, Option.toList_some, dedup_snoc, List.filter_append,
    List.filter_filter, List.filter_cons_of_pos (by simp [place]), List.filter_nil, lineOf]
  congr 1
  apply List.filter_congr
  intro entry _
  by_cases same : blueprint = entry
  · subst same
    simp [elsewhere]
  · simp [place, same, Ne.symm same]

variable {backlog : Backlog}

theorem Exclusive.mem_iff (exclusive : backlog.Exclusive) (lane : Lane) (blueprint : BlueprintRef) :
    blueprint ∈ (backlog.lane lane).entries ↔ backlog.find? blueprint = some lane := by
  have apart := exclusive.apart blueprint
  by_cases first : blueprint ∈ (backlog.lane .components).entries
  · cases lane <;> simp [find?, Lane.order, contains, WaitList.contains, first, apart first]
  · by_cases second : blueprint ∈ (backlog.lane .classes).entries
    · cases lane <;> simp [find?, Lane.order, contains, WaitList.contains, first, second]
    · cases lane <;> simp [find?, Lane.order, contains, WaitList.contains, first, second]

theorem Exclusive.not_mem_other (exclusive : backlog.Exclusive) {lane : Lane}
    {blueprint : BlueprintRef} (member : blueprint ∈ (backlog.lane lane).entries) :
    blueprint ∉ (backlog.lane lane.other).entries := by
  rw [exclusive.mem_iff] at member ⊢
  rw [member]
  exact fun same => lane.other_ne (Option.some.inj same).symm

theorem enqueue_eq (backlog : Backlog) (lane : Lane) (blueprint : BlueprintRef) :
    backlog.enqueue lane blueprint =
      (((backlog.lane lane).push blueprint).1,
        (backlog.setLane lane.other ((backlog.lane lane.other).remove blueprint).2).setLane lane
          ((backlog.lane lane).push blueprint).2) := by
  cases lane <;> rfl

theorem set_lane_self (backlog : Backlog) (lane : Lane) :
    backlog.setLane lane (backlog.lane lane) = backlog := by
  cases lane <;> rfl

theorem enqueue_of_absent (backlog : Backlog) {lane : Lane} {blueprint : BlueprintRef}
    (absent : blueprint ∉ (backlog.lane lane).entries) :
    (backlog.enqueue lane blueprint).1 = true ∧
      ((backlog.enqueue lane blueprint).2.lane lane).entries =
        (backlog.lane lane).entries ++ [blueprint] := by
  have added : (backlog.lane lane).push blueprint =
      (true, ⟨(backlog.lane lane).entries ++ [blueprint]⟩) := if_neg absent
  rw [lane_enqueue, if_pos rfl, enqueue_eq, added]
  exact ⟨rfl, rfl⟩

theorem Exclusive.enqueue_of_mem (exclusive : backlog.Exclusive) {lane : Lane}
    {blueprint : BlueprintRef} (member : blueprint ∈ (backlog.lane lane).entries) :
    backlog.enqueue lane blueprint = (false, backlog) := by
  have elsewhere := exclusive.not_mem_other member
  have kept : ((backlog.lane lane.other).remove blueprint).2 = backlog.lane lane.other := by
    apply congrArg WaitList.mk
    apply List.filter_eq_self.mpr
    intro entry waits
    exact decide_eq_true fun same => elsewhere (same ▸ waits)
  have refused : (backlog.lane lane).push blueprint = (false, backlog.lane lane) := if_pos member
  rw [enqueue_eq, kept, refused, set_lane_self, set_lane_self]

theorem entries_enqueue_other (backlog : Backlog) (lane : Lane) (blueprint : BlueprintRef) :
    ((backlog.enqueue lane blueprint).2.lane lane.other).entries =
      (backlog.lane lane.other).entries.filter (· ≠ blueprint) := by
  rw [lane_enqueue, if_neg lane.other_ne]
  rfl

/-- Queueing a blueprint leaves all other entries in their order. -/
theorem others_enqueue (backlog : Backlog) (lane place : Lane) (blueprint : BlueprintRef) :
    ((backlog.enqueue lane blueprint).2.lane place).entries.filter (· ≠ blueprint) =
      (backlog.lane place).entries.filter (· ≠ blueprint) := by
  rw [lane_enqueue]
  split
  · next target =>
      subst target
      unfold WaitList.push
      split
      · rfl
      · simp
  · simp [WaitList.remove]

theorem Exclusive.nodup_append (exclusive : backlog.Exclusive) :
    ((backlog.lane .components).entries ++ (backlog.lane .classes).entries).Nodup :=
  List.Nodup.append (exclusive.nodup .components) (exclusive.nodup .classes)
    fun entry first second => exclusive.apart entry first second

theorem Exclusive.total_size (exclusive : backlog.Exclusive) :
    ∃ waiting : List BlueprintRef, waiting.Nodup ∧
      (∀ blueprint, blueprint ∈ waiting ↔ (backlog.find? blueprint).isSome = true) ∧
      backlog.totalSize = waiting.length := by
  refine ⟨(backlog.lane .components).entries ++ (backlog.lane .classes).entries, ?_, ?_, ?_⟩
  · exact exclusive.nodup_append
  · intro blueprint
    rw [List.mem_append, find_is_some]
  · rw [List.length_append]
    rfl

theorem is_empty_iff_find (backlog : Backlog) :
    backlog.isEmpty = true ↔ ∀ blueprint, backlog.find? blueprint = none := by
  have sizes : backlog.isEmpty = true ↔
      (backlog.lane .components).entries = [] ∧ (backlog.lane .classes).entries = [] := by
    simp [isEmpty, totalSize, size, WaitList.size]
  have none_iff (blueprint : BlueprintRef) : backlog.find? blueprint = none ↔
      blueprint ∉ (backlog.lane .components).entries ∧
        blueprint ∉ (backlog.lane .classes).entries := by
    rw [← Option.not_isSome_iff_eq_none, find_is_some, not_or]
  simp only [sizes, none_iff, forall_and, List.eq_nil_iff_forall_not_mem]

structure Told (history : List Exchange) (backlog : Backlog) : Prop where
  exclusive : backlog.Exclusive
  find : ∀ blueprint, backlog.find? blueprint = whereabouts history blueprint
  line : ∀ lane, (backlog.lane lane).entries = lineOf history lane

theorem told_initial : Told [] {} where
  exclusive := exclusive_initial
  find _ := rfl
  line lane := by cases lane <;> rfl

theorem Told.mem_iff (told : Told history backlog) (lane : Lane) (blueprint : BlueprintRef) :
    blueprint ∈ (backlog.lane lane).entries ↔ whereabouts history blueprint = some lane := by
  rw [told.exclusive.mem_iff, told.find]

theorem whereabouts_enqueue (lane : Lane) (blueprint entry : BlueprintRef) (answer : Answer) :
    whereabouts (history ++ [⟨.enqueue lane blueprint, answer⟩]) entry =
      if blueprint = entry then some lane else whereabouts history entry :=
  whereabouts_snoc entry

theorem whereabouts_take (lane : Lane) (entry : BlueprintRef) (answer : Answer) :
    whereabouts (history ++ [⟨.take lane, answer⟩]) entry =
      if whereabouts history entry = some lane then none else whereabouts history entry :=
  whereabouts_snoc entry

theorem Told.enqueue_of_mem (told : Told history backlog) {lane : Lane} {blueprint : BlueprintRef}
    (waits : blueprint ∈ (backlog.lane lane).entries) :
    Told (history ++ [⟨.enqueue lane blueprint, .changed false⟩]) backlog := by
  have stays := (told.mem_iff lane blueprint).mp waits
  have same (entry : BlueprintRef) :
      whereabouts (history ++ [⟨.enqueue lane blueprint, .changed false⟩]) entry =
        whereabouts history entry := by
    rw [whereabouts_enqueue]
    split
    · next here => rw [← here, stays]
    · rfl
  refine ⟨told.exclusive, fun entry => ?_, fun other => ?_⟩
  · rw [same, told.find]
  · have nothing : Exchange.put? other ⟨.enqueue lane blueprint, .changed false⟩ = none := rfl
    rw [told.line, line_of_snoc_of_no_put (fun _ => true) nothing (by simp [same]),
      List.filter_true]

theorem Told.enqueue_of_absent (told : Told history backlog) {lane : Lane}
    {blueprint : BlueprintRef} (absent : blueprint ∉ (backlog.lane lane).entries) :
    Told (history ++ [⟨.enqueue lane blueprint, .changed true⟩])
      (backlog.enqueue lane blueprint).2 := by
  have put (other : Lane) : Exchange.put? other ⟨.enqueue lane blueprint, .changed true⟩ =
      if lane = other then some blueprint else none := rfl
  refine ⟨told.exclusive.enqueue lane blueprint, fun entry => ?_, fun other => ?_⟩
  · rw [find_enqueue, whereabouts_enqueue, told.find]
    simp only [eq_comm]
  · rcases lane.eq_or_other other with rfl | rfl
    · have elsewhere := mt (told.mem_iff other blueprint).mpr absent
      rw [(backlog.enqueue_of_absent absent).2, told.line]
      symm
      apply line_of_snoc_of_put (by rw [put, if_pos rfl]) elsewhere
      intro entry
      rw [whereabouts_enqueue]
    · rw [entries_enqueue_other, told.line]
      symm
      apply line_of_snoc_of_no_put _ (by rw [put, if_neg lane.other_ne.symm])
      intro entry
      rw [whereabouts_enqueue]
      by_cases same : blueprint = entry
      · simp [same, lane.other_ne.symm]
      · simp [same, Ne.symm same]

theorem Told.enqueue (told : Told history backlog) (lane : Lane) (blueprint : BlueprintRef) :
    Told (history ++ [⟨.enqueue lane blueprint, .changed (backlog.enqueue lane blueprint).1⟩])
      (backlog.enqueue lane blueprint).2 := by
  by_cases waits : blueprint ∈ (backlog.lane lane).entries
  · rw [told.exclusive.enqueue_of_mem waits]
    exact told.enqueue_of_mem waits
  · rw [(backlog.enqueue_of_absent waits).1]
    exact told.enqueue_of_absent waits

theorem Told.take (told : Told history backlog) (lane : Lane) :
    Told (history ++ [⟨.take lane, .handedOut (backlog.take lane).1⟩]) (backlog.take lane).2 := by
  have exclusive := told.exclusive.take lane
  have nothing (other : Lane) :
      Exchange.put? other ⟨.take lane, .handedOut (backlog.take lane).1⟩ = none := rfl
  have place (other : Lane) (entry : BlueprintRef) :
      whereabouts (history ++ [⟨.take lane, .handedOut (backlog.take lane).1⟩]) entry =
          some other ↔ whereabouts history entry = some other ∧ decide (other ≠ lane) = true := by
    rw [whereabouts_take]
    by_cases here : whereabouts history entry = some lane
    · rw [if_pos here, here, decide_eq_true_iff]
      constructor
      · intro nowhere
        cases nowhere
      · rintro ⟨there, different⟩
        exact absurd (Option.some.inj there).symm different
    · rw [if_neg here]
      refine ⟨fun there => ⟨there, decide_eq_true fun same => here (same ▸ there)⟩, And.left⟩
  have line (other : Lane) : ((backlog.take lane).2.lane other).entries =
      lineOf (history ++ [⟨.take lane, .handedOut (backlog.take lane).1⟩]) other := by
    rw [line_of_snoc_of_no_put _ (nothing other) (place other), lane_take, ← told.line]
    by_cases same : other = lane
    · simp [same]
    · simp [same]
  refine ⟨exclusive, fun entry => ?_, line⟩
  -- Either both find the blueprint in one lane, or neither finds it anywhere.
  apply Option.ext
  intro other
  rw [← exclusive.mem_iff, lane_take, place, decide_eq_true_iff, ← told.mem_iff]
  split
  · next same => simp [same]
  · next different => simp [different]

theorem Told.perform (told : Told history backlog) (request : Request) :
    Told (history ++ [⟨request, (backlog.perform request).1⟩]) (backlog.perform request).2 := by
  cases request with
  | enqueue lane blueprint => exact told.enqueue lane blueprint
  | take lane => exact told.take lane

theorem ask_all_snoc (requests : List Request) (request : Request) :
    askAll (requests ++ [request]) = ask (askAll requests) request := by
  rw [askAll, List.foldl_append]
  rfl

theorem ask_all_requests (requests : List Request) :
    (askAll requests).1.map Exchange.request = requests := by
  induction requests using List.reverseRecOn with
  | nil => rfl
  | append_singleton requests request ih =>
      rw [ask_all_snoc, ask, List.map_append, ih]
      rfl

theorem ask_all_told (requests : List Request) :
    Told (askAll requests).1 (askAll requests).2 := by
  induction requests using List.reverseRecOn with
  | nil => exact told_initial
  | append_singleton requests request ih =>
      rw [ask_all_snoc]
      exact ih.perform request

/-- Two sets that no blueprint is in twice or in both, each in the order of insertion. -/
structure OrderedSets (history : List Exchange) (backlog : Backlog) : Prop where
  nodup : ∀ lane, (backlog.lane lane).entries.Nodup
  apart : ∀ lane, ∀ blueprint ∈ (backlog.lane lane).entries,
    blueprint ∉ (backlog.lane lane.other).entries
  /-- A blueprint waits where it was queued last, unless that lane was handed out since. -/
  find : ∀ blueprint, backlog.find? blueprint = whereabouts history blueprint
  mem_iff : ∀ lane blueprint,
    blueprint ∈ (backlog.lane lane).entries ↔ backlog.find? blueprint = some lane
  queued : ∀ lane blueprint,
    blueprint ∈ ((backlog.enqueue lane blueprint).2.lane lane).entries ∧
      blueprint ∉ ((backlog.enqueue lane blueprint).2.lane lane.other).entries
  refused_iff : ∀ lane blueprint,
    (backlog.enqueue lane blueprint).1 = false ↔ blueprint ∈ (backlog.lane lane).entries
  unchanged : ∀ lane, ∀ blueprint ∈ (backlog.lane lane).entries,
    (backlog.enqueue lane blueprint).2 = backlog
  appended : ∀ lane blueprint, blueprint ∉ (backlog.lane lane).entries →
    ((backlog.enqueue lane blueprint).2.lane lane).entries =
      (backlog.lane lane).entries ++ [blueprint]
  others : ∀ lane blueprint place,
    ((backlog.enqueue lane blueprint).2.lane place).entries.filter (· ≠ blueprint) =
      (backlog.lane place).entries.filter (· ≠ blueprint)
  /-- A lane is handed out in the order in which its entries were last put into it. -/
  taken : ∀ lane, (backlog.take lane).1 = lineOf history lane
  emptied : ∀ lane, ((backlog.take lane).2.lane lane).entries = []
  untouched : ∀ lane, (backlog.take lane).2.lane lane.other = backlog.lane lane.other
  total : ∃ waiting : List BlueprintRef, waiting.Nodup ∧
    (∀ blueprint, blueprint ∈ waiting ↔ (backlog.find? blueprint).isSome = true) ∧
    backlog.totalSize = waiting.length
  empty_iff : backlog.isEmpty = true ↔ ∀ blueprint, backlog.find? blueprint = none

/-- After any requests the two lanes are two disjoint sets, ordered as the history tells. -/
theorem lanes_are_ordered_sets (requests : List Request) :
    (askAll requests).1.map Exchange.request = requests ∧
      OrderedSets (askAll requests).1 (askAll requests).2 := by
  have told := ask_all_told requests
  have exclusive := told.exclusive
  refine ⟨ask_all_requests requests, ?_⟩
  exact
    { nodup := exclusive.nodup
      apart := fun lane blueprint member => exclusive.not_mem_other member
      find := told.find
      mem_iff := exclusive.mem_iff
      queued := fun lane blueprint => by
        rw [mem_enqueue, mem_enqueue, if_pos rfl, if_pos rfl]
        exact ⟨rfl, lane.other_ne⟩
      refused_iff := fun lane blueprint => by
        by_cases waits : blueprint ∈ ((askAll requests).2.lane lane).entries
        · simp [exclusive.enqueue_of_mem waits, waits]
        · simp [((askAll requests).2.enqueue_of_absent waits).1, waits]
      unchanged := fun lane blueprint member => by rw [exclusive.enqueue_of_mem member]
      appended := fun lane blueprint absent => (enqueue_of_absent _ absent).2
      others := fun lane blueprint place => others_enqueue _ lane place blueprint
      taken := told.line
      emptied := fun lane => by rw [lane_take, if_pos rfl]
      untouched := fun lane => by rw [lane_take, if_neg lane.other_ne]
      total := exclusive.total_size
      empty_iff := is_empty_iff_find _ }

/-- Moved away and back again, the first blueprint comes after the second. -/
example : ((askAll [.enqueue .classes ⟨1, 0⟩, .enqueue .classes ⟨2, 0⟩, .enqueue .components ⟨1, 0⟩,
    .enqueue .classes ⟨1, 0⟩, .enqueue .classes ⟨2, 0⟩]).2.take .classes).1 =
      [⟨2, 0⟩, ⟨1, 0⟩] := by decide

end Backlog

end BlueprintBridge
