import BlueprintBridge.Handle.Cabinet
import BlueprintBridge.Proofs.Catalog
import Mathlib.Data.List.Count

/-!
# The custody of handles

A handle that was adopted is in one place at any time: a drawer holds it, it went back to the
runtime, its parts were handed out, or its owner let go of it. No step of a cabinet makes a second
one of it or loses it, whatever handles it moves, swaps and overwrites; so what was adopted once is
given back at most once, and the warnings about handles let go of tell exactly what stays rooted.
-/

namespace BlueprintBridge

set_option autoImplicit false

def rootedEnding : String := " dropped without dispose; the managed object stays rooted"

def Record.tellsRooted (r : Record) : Bool :=
  r.level = .warn && rootedEnding.toList.isSuffixOf r.text.toList

def Handle.live (h : Handle) : List Handle := if h.isNull then [] else [h]

namespace HandleEffect

def returned? : HandleEffect → Option Handle
  | released address kind => some ⟨address, kind⟩
  | freed address kind => some ⟨address, kind⟩
  | leaked address kind => some ⟨address, kind⟩
  | _ => none

def dropped? : HandleEffect → Option Handle
  | dropped address kind => some ⟨address, kind⟩
  | _ => none

end HandleEffect

namespace Cabinet

def held (c : Cabinet) : List Handle := c.drawers.entries.flatMap (·.2.live)

def Unique (c : Cabinet) : Prop := (c.drawers.entries.map Prod.fst).Nodup

/-- The handle that a step takes in from the runtime. -/
def Step.adopted : Step → List Handle
  | adopt _ address kind => (⟨address, kind⟩ : Handle).live
  | _ => []

/-- The parts that a step gives back although no drawer held them. -/
def Step.givenBack : Step → List Handle
  | release address kind _ => [⟨address, kind⟩]
  | _ => []

def Reply.handedOut : Reply → List Handle
  | parts address kind => (⟨address, kind⟩ : Handle).live
  | _ => []

def effectsOf (reports : List (Reply × List HandleEffect)) : List HandleEffect :=
  reports.flatMap Prod.snd

def handedOutOf (reports : List (Reply × List HandleEffect)) : List Handle :=
  reports.flatMap fun report => report.1.handedOut

/-- A program that chooses each step by the answers that came before. -/
inductive Deed where
  | done
  | act (s : Step) (next : Reply → Deed)
  /-- Disposes of what a drawer holds. The releaser, if one is called, is a program itself. -/
  | disposeBy (drawer : String) (inside : Handle → Deed) (next : Deed)

/-- The steps of a program with their answers and effects, and the cabinet they leave. A releaser is
called when the drawer is empty already. -/
def Deed.run : Deed → Cabinet → List (Step × Reply × List HandleEffect) × Cabinet
  | .done, c => ([], c)
  | .act s next, c =>
    let (reply, middle, effects) := c.step s
    let (rest, last) := (next reply).run middle
    ((s, reply, effects) :: rest, last)
  | .disposeBy drawer inside next, c =>
    let (reply, middle, effects) := c.step (.dispose drawer .recorder)
    match effects.filterMap HandleEffect.returned? with
    | [] =>
      let (rest, last) := next.run middle
      ((.dispose drawer .recorder, reply, effects) :: rest, last)
    | h :: _ =>
      let (inner, after) := (inside h).run middle
      let (rest, last) := next.run after
      ((.dispose drawer .recorder, reply, effects) :: (inner ++ rest), last)

/-- The books of a run that began with an empty cabinet. -/
structure Accounted (steps : List Step) (reports : List (Reply × List HandleEffect))
    (last : Cabinet) : Prop where
  /-- What came in is in one place each: a drawer, the runtime, outside hands, or nobody's. -/
  once : (steps.flatMap Step.adopted ++ steps.flatMap Step.givenBack).Perm
    (last.held ++ (effectsOf reports).filterMap HandleEffect.returned? ++ handedOutOf reports ++
      (effectsOf reports).filterMap HandleEffect.dropped?)
  returned_at_most : ∀ h, ((effectsOf reports).filterMap HandleEffect.returned?).count h ≤
    (steps.flatMap Step.adopted).count h + (steps.flatMap Step.givenBack).count h
  /-- No releaser hears of a null handle. -/
  null_not_returned : ∀ drawer releaser h, last.drawers.get? drawer = some h → h.isNull →
    (last.step (.dispose drawer releaser)).2.2 = []
  /-- A live handle goes back to its releaser, once, and the null handle stays behind. -/
  live_returned : ∀ drawer releaser h, last.drawers.get? drawer = some h → ¬ h.isNull →
    last.step (.dispose drawer releaser) = (.handle .null, ⟨last.drawers.insert drawer .null⟩,
        [releaser.release h.address h.kind]) ∧
      (releaser.release h.address h.kind).returned? = some h
  not_returned_again : ∀ drawer releaser again,
    ((last.step (.dispose drawer releaser)).2.1.step (.dispose drawer again)).2.2 = []
  warned : ((effectsOf reports).filterMap HandleEffect.record?).countP Record.tellsRooted =
    ((effectsOf reports).filterMap HandleEffect.dropped?).countP (·.kind.isRooting)
  /-- In the end whatever is still held is let go of, and the warnings tell what stays rooted. -/
  closed : (last.close.filterMap HandleEffect.dropped?).Perm last.held ∧
    last.close.filterMap HandleEffect.returned? = [] ∧
    (last.close.filterMap HandleEffect.record?).countP Record.tellsRooted =
      last.held.countP (·.kind.isRooting)

variable {c : Cabinet} {drawer : String} {h x : Handle}

theorem live_null : Handle.null.live = [] := rfl

theorem live_adopt (address : UInt64) (kind : HandleKind) :
    (Handle.adopt address kind).live = (⟨address, kind⟩ : Handle).live := by
  by_cases null : address = 0
  · simp [Handle.live, Handle.isNull, Handle.null, null]
  · rw [Handle.adopt_of_ne null]

theorem dropped_drop (h : Handle) : h.drop.filterMap HandleEffect.dropped? = h.live := by
  unfold Handle.drop Handle.live
  split <;> rfl

theorem returned_drop (h : Handle) : h.drop.filterMap HandleEffect.returned? = [] := by
  unfold Handle.drop
  split <;> rfl

theorem returned_release (r : Releaser) (address : UInt64) (kind : HandleKind) :
    (r.release address kind).returned? = some ⟨address, kind⟩ := by
  cases r with
  | recorder => rfl
  | runtime callbacks =>
      simp only [Releaser.release, RuntimeCallbacks.release]
      split <;> rfl

theorem dropped_release (r : Releaser) (address : UInt64) (kind : HandleKind) :
    (r.release address kind).dropped? = none := by
  cases r with
  | recorder => rfl
  | runtime callbacks =>
      simp only [Releaser.release, RuntimeCallbacks.release]
      split <;> rfl

theorem live_dispose (h : Handle) (r : Releaser) :
    (h.dispose r).1.live = [] ∧ (h.dispose r).2.filterMap HandleEffect.returned? = h.live ∧
      (h.dispose r).2.filterMap HandleEffect.dropped? = [] := by
  unfold Handle.dispose Handle.live
  split
  · simp
  · simp [returned_release, dropped_release, Handle.isNull, Handle.null]

theorem held_insert (c : Cabinet) (drawer : String) (h : Handle) :
    held ⟨c.drawers.insert drawer h⟩ = held ⟨c.drawers.erase drawer⟩ ++ h.live := by
  simp [held, Catalog.insert]

theorem held_split (unique : c.Unique) (found : c.drawers.get? drawer = some x) :
    c.held.Perm (x.live ++ held ⟨c.drawers.erase drawer⟩) :=
  Catalog.flatMap_perm_erase unique found _

theorem unique_erase (unique : c.Unique) (drawer : String) :
    Unique ⟨c.drawers.erase drawer⟩ :=
  Catalog.nodup_keys_erase unique drawer

theorem unique_insert (unique : c.Unique) (drawer : String) (h : Handle) :
    Unique ⟨c.drawers.insert drawer h⟩ :=
  Catalog.nodup_keys_insert unique drawer h

theorem put_conserves (unique : c.Unique) (drawer : String) (x : Handle) :
    (c.put drawer x).1.Unique ∧
      (c.put drawer x).2.filterMap HandleEffect.returned? = [] ∧
      ∀ h, (c.put drawer x).1.held.count h +
          ((c.put drawer x).2.filterMap HandleEffect.dropped?).count h =
        c.held.count h + x.live.count h := by
  refine ⟨unique_insert unique drawer x, ?_, fun h => ?_⟩
  · unfold put
    cases c.drawers.get? drawer with
    | none => rfl
    | some previous => exact returned_drop previous
  · unfold put
    rw [held_insert, List.count_append]
    cases found : c.drawers.get? drawer with
    | none =>
        rw [Catalog.erase_of_absent found]
        rfl
    | some previous =>
        rw [(held_split unique found).count_eq, List.count_append, Option.elim_some, dropped_drop]
        omega

/-- What a step does to handles: each one held or taken in is held, given back, handed out or let go
of afterwards, and none twice. -/
structure Conserved (c : Cabinet) (s : Step) (reply : Reply) (next : Cabinet)
    (effects : List HandleEffect) : Prop where
  unique : next.Unique
  balance : ∀ h, c.held.count h + s.adopted.count h + s.givenBack.count h =
    next.held.count h + (effects.filterMap HandleEffect.returned?).count h +
      reply.handedOut.count h + (effects.filterMap HandleEffect.dropped?).count h

theorem Conserved.idle (unique : c.Unique) {s : Step} {reply : Reply} (adopted : s.adopted = [])
    (givenBack : s.givenBack = []) (handedOut : reply.handedOut = []) :
    Conserved c s reply c [] where
  unique := unique
  balance h := by simp [adopted, givenBack, handedOut]

theorem Conserved.nothing_there (unique : c.Unique) {s : Step} (adopted : s.adopted = [])
    (givenBack : s.givenBack = []) : Conserved c s .noDrawer c [] :=
  .idle unique adopted givenBack rfl

theorem adopt_conserved (unique : c.Unique) (drawer : String) (address : UInt64)
    (kind : HandleKind) :
    Conserved c (.adopt drawer address kind) (.handle (Handle.adopt address kind))
      (c.put drawer (Handle.adopt address kind)).1
      (c.put drawer (Handle.adopt address kind)).2 := by
  have ⟨unique, returned, balance⟩ := put_conserves unique drawer (Handle.adopt address kind)
  refine ⟨unique, fun h => ?_⟩
  have balance := balance h
  rw [live_adopt] at balance
  simp only [returned, Step.adopted, Step.givenBack, Reply.handedOut, List.count_nil]
  omega

theorem clear_conserved (unique : c.Unique) (drawer : String) :
    Conserved c (.clear drawer) (.handle .null) (c.put drawer .null).1 (c.put drawer .null).2 := by
  have ⟨unique, returned, balance⟩ := put_conserves unique drawer .null
  refine ⟨unique, fun h => ?_⟩
  have balance := balance h
  simp only [live_null, List.count_nil] at balance
  simp only [returned, Step.adopted, Step.givenBack, Reply.handedOut, List.count_nil]
  omega

theorem take_conserved (unique : c.Unique) (target : String)
    (found : c.drawers.get? drawer = some x) :
    Conserved c (.take drawer target) (.handle x)
      (put ⟨c.drawers.insert drawer .null⟩ target x).1
      (put ⟨c.drawers.insert drawer .null⟩ target x).2 := by
  have ⟨unique', returned, balance⟩ := put_conserves (unique_insert unique drawer .null) target x
  refine ⟨unique', fun h => ?_⟩
  have balance := balance h
  have parted := (held_split unique found).count_eq h
  rw [held_insert, live_null, List.append_nil] at balance
  rw [List.count_append] at parted
  simp only [returned, Step.adopted, Step.givenBack, Reply.handedOut, List.count_nil]
  omega

/-- Two drawers and what they hold: one handle takes the place of the other, which moves on. -/
theorem replace_conserved (unique : c.Unique) (source rest : String)
    (found : c.drawers.get? source = some h)
    (there : (c.drawers.erase source).get? drawer = some x) :
    Conserved c (.replace drawer source rest) (.handle x)
      (put ⟨(c.drawers.erase source).insert drawer h⟩ rest x).1
      (put ⟨(c.drawers.erase source).insert drawer h⟩ rest x).2 := by
  have without : Unique ⟨c.drawers.erase source⟩ := unique_erase unique source
  have ⟨unique', returned, balance⟩ := put_conserves (unique_insert without drawer h) rest x
  refine ⟨unique', fun y => ?_⟩
  have balance := balance y
  have parted := (held_split unique found).count_eq y
  have parted_again := (held_split without there).count_eq y
  rw [held_insert, List.count_append] at balance
  rw [List.count_append] at parted parted_again
  dsimp only at balance parted_again
  simp only [returned, Step.adopted, Step.givenBack, Reply.handedOut, List.count_nil]
  omega

theorem drop_conserved (unique : c.Unique) (s : Step) (reply : Reply) (adopted : s.adopted = [])
    (givenBack : s.givenBack = []) (handedOut : reply.handedOut = [])
    (found : c.drawers.get? drawer = some x) :
    Conserved c s reply ⟨c.drawers.erase drawer⟩ x.drop := by
  refine ⟨unique_erase unique drawer, fun h => ?_⟩
  have parted := (held_split unique found).count_eq h
  rw [List.count_append] at parted
  simp only [returned_drop, dropped_drop, adopted, givenBack, handedOut, List.count_nil]
  omega

theorem dispose_conserved (unique : c.Unique) (releaser : Releaser)
    (found : c.drawers.get? drawer = some x) :
    Conserved c (.dispose drawer releaser) (.handle (x.dispose releaser).1)
      ⟨c.drawers.insert drawer (x.dispose releaser).1⟩ (x.dispose releaser).2 := by
  have ⟨left, returned, dropped⟩ := live_dispose x releaser
  refine ⟨unique_insert unique drawer _, fun h => ?_⟩
  have parted := (held_split unique found).count_eq h
  rw [List.count_append] at parted
  simp only [held_insert, left, returned, dropped, Step.adopted, Step.givenBack, Reply.handedOut,
    List.count_nil, List.append_nil]
  omega

theorem hand_out_conserved (unique : c.Unique) (found : c.drawers.get? drawer = some x) :
    Conserved c (.handOut drawer) (.parts x.address x.kind) ⟨c.drawers.erase drawer⟩ [] := by
  refine ⟨unique_erase unique drawer, fun h => ?_⟩
  have parted := (held_split unique found).count_eq h
  rw [List.count_append] at parted
  have same : (⟨x.address, x.kind⟩ : Handle) = x := rfl
  simp only [same, Step.adopted, Step.givenBack, Reply.handedOut, List.filterMap_nil,
    List.count_nil]
  omega

theorem dispose_object_conserved (unique : c.Unique) (address : UInt64)
    (callbacks : RuntimeCallbacks) :
    Conserved c (.disposeObject address callbacks) (.flag (callbacks.disposeObject address).1) c
      (callbacks.disposeObject address).2 := by
  unfold RuntimeCallbacks.disposeObject
  split
  · exact ⟨unique, fun h => rfl⟩
  · exact .idle unique rfl rfl rfl

theorem release_conserved (unique : c.Unique) (address : UInt64) (kind : HandleKind)
    (callbacks : RuntimeCallbacks) :
    Conserved c (.release address kind callbacks) .nothing c
      [callbacks.release address kind] := by
  refine ⟨unique, fun h => ?_⟩
  have returned := returned_release (.runtime callbacks) address kind
  have dropped := dropped_release (.runtime callbacks) address kind
  simp only [Releaser.release] at returned dropped
  simp [returned, dropped, Step.adopted, Step.givenBack, Reply.handedOut]

theorem step_conserved (unique : c.Unique) (s : Step) :
    Conserved c s (c.step s).1 (c.step s).2.1 (c.step s).2.2 := by
  cases s with
  | adopt drawer address kind => exact adopt_conserved unique drawer address kind
  | clear drawer => exact clear_conserved unique drawer
  | look drawer =>
      simp only [step]
      split <;> exact .idle unique rfl rfl rfl
  | take drawer target =>
      simp only [step]
      split
      · next found => exact take_conserved unique target found
      · exact .nothing_there unique rfl rfl
  | replace drawer source rest =>
      simp only [step]
      split
      · exact .nothing_there unique rfl rfl
      · next found =>
          split
          -- the handle taken from `source` has nowhere to go
          · exact drop_conserved unique _ _ rfl rfl rfl found
          · next there => exact replace_conserved unique source rest found there
  | dispose drawer releaser =>
      simp only [step]
      split
      · next found => exact dispose_conserved unique releaser found
      · exact .nothing_there unique rfl rfl
  | drop drawer =>
      simp only [step]
      split
      · next found => exact drop_conserved unique _ _ rfl rfl rfl found
      · exact .nothing_there unique rfl rfl
  | handOut drawer =>
      simp only [step]
      split
      · next found => exact hand_out_conserved unique found
      · exact .nothing_there unique rfl rfl
  | compare drawer other =>
      simp only [step]
      split <;> exact .idle unique rfl rfl rfl
  | disposeObject address callbacks => exact dispose_object_conserved unique address callbacks
  | release address kind callbacks => exact release_conserved unique address kind callbacks

theorem semicolon_not_mem_hex (n : Nat) : ';' ∉ Nat.toDigits 16 n := by
  induction n using Nat.strongRecOn with
  | ind n ih =>
      have other (d : Nat) : ';' ≠ d.digitChar := (Nat.digitChar_ne ';' (by decide)).symm
      rw [Nat.toDigits_eq_if (by decide)]
      split
      · simp [other]
      · simp [other, ih (n / 16) (by omega)]

theorem dropped_tells_rooted (address : UInt64) (kind : HandleKind) :
    (HandleEffect.dropped address kind).record?.any Record.tellsRooted = kind.isRooting := by
  unfold HandleEffect.record?
  split
  · next contradiction => cases contradiction
  · next same =>
      cases same
      split
      · next rooting =>
          simp only [rooting, Option.any_some, Record.tellsRooted, String.toList_append,
            decide_true, Bool.true_and, List.isSuffixOf_iff_suffix]
          exact List.suffix_append _ _
      · next loose => simp [loose]
  · next other => exact absurd rfl (other _ _)

theorem leaked_not_tells_rooted (address : UInt64) (kind : HandleKind) :
    (HandleEffect.leaked address kind).record?.any Record.tellsRooted = false := by
  have unnamed : ';' ∉ kind.name.toList := by cases kind <;> decide
  have plain (text : String) : toString text = text := rfl
  rw [Bool.eq_false_iff]
  simp only [HandleEffect.record?, Option.any_some, Record.tellsRooted, String.toList_append,
    decide_true, Bool.true_and, ne_eq, List.isSuffixOf_iff_suffix]
  intro suffix
  have semicolon := suffix.subset (show ';' ∈ rootedEnding.toList by decide)
  simp [plain, addressText, Text.hexNumber, Text.hex, semicolon_not_mem_hex, unnamed] at semicolon

theorem tells_rooted_eq (effect : HandleEffect) :
    effect.record?.any Record.tellsRooted = effect.dropped?.any (·.kind.isRooting) := by
  cases effect with
  | released address kind => rfl
  | freed address kind => rfl
  | leaked address kind => exact leaked_not_tells_rooted address kind
  | disposed address => rfl
  | dropped address kind => exact dropped_tells_rooted address kind

theorem count_warnings (effects : List HandleEffect) :
    (effects.filterMap HandleEffect.record?).countP Record.tellsRooted =
      (effects.filterMap HandleEffect.dropped?).countP (·.kind.isRooting) := by
  have any_eq {α : Type} (p : α → Bool) (o : Option α) : (o.map p).getD false = o.any p := by
    cases o <;> rfl
  simp only [List.countP_filterMap, any_eq, tells_rooted_eq]

theorem run_cons (c : Cabinet) (s : Step) (rest : List Step) :
    c.run (s :: rest) = (((c.step s).1, (c.step s).2.2) :: ((c.step s).2.1.run rest).1,
      ((c.step s).2.1.run rest).2) := rfl

/-- The whole of a run: what was held or came in is held, given back, handed out or let go of. -/
theorem run_conserved (steps : List Step) (unique : c.Unique) :
    (c.run steps).2.Unique ∧ ∀ h,
      c.held.count h + (steps.flatMap Step.adopted).count h +
          (steps.flatMap Step.givenBack).count h =
        (c.run steps).2.held.count h +
          ((effectsOf (c.run steps).1).filterMap HandleEffect.returned?).count h +
          (handedOutOf (c.run steps).1).count h +
          ((effectsOf (c.run steps).1).filterMap HandleEffect.dropped?).count h := by
  induction steps generalizing c with
  | nil => exact ⟨unique, fun h => by simp [run, effectsOf, handedOutOf]⟩
  | cons s rest ih =>
      have first := step_conserved unique s
      have ⟨unique', later⟩ := ih first.unique
      refine ⟨unique', fun h => ?_⟩
      have first := first.balance h
      have later := later h
      simp only [run_cons, effectsOf, handedOutOf, List.flatMap_cons, List.filterMap_append,
        List.count_append] at later ⊢
      omega

theorem close_lets_go (c : Cabinet) :
    (c.close.filterMap HandleEffect.dropped?).Perm c.held ∧
      c.close.filterMap HandleEffect.returned? = [] := by
  have sorted := List.mergeSort_perm c.drawers.entries fun a b => a.1 ≤ b.1
  unfold close held
  rw [List.filterMap_flatMap, List.filterMap_flatMap]
  simp only [dropped_drop, returned_drop]
  exact ⟨sorted.flatMap_right _, by simp⟩

theorem null_not_returned (releaser : Releaser) (found : c.drawers.get? drawer = some h)
    (null : h.isNull) : (c.step (.dispose drawer releaser)).2.2 = [] := by
  simp [step, found, Handle.dispose, null]

theorem live_returned (releaser : Releaser) (found : c.drawers.get? drawer = some h)
    (live : ¬ h.isNull) :
    c.step (.dispose drawer releaser) = (.handle .null, ⟨c.drawers.insert drawer .null⟩,
        [releaser.release h.address h.kind]) ∧
      (releaser.release h.address h.kind).returned? = some h := by
  have disposed : h.dispose releaser = (.null, [releaser.release h.address h.kind]) := if_neg live
  refine ⟨?_, returned_release releaser h.address h.kind⟩
  simp only [step, found, disposed]

theorem not_returned_again (c : Cabinet) (drawer : String) (releaser again : Releaser) :
    ((c.step (.dispose drawer releaser)).2.1.step (.dispose drawer again)).2.2 = [] := by
  cases found : c.drawers.get? drawer with
  | none => simp [step, found]
  | some h => simp [step, found, Catalog.get?_insert_self, Handle.dispose_dispose]

theorem run_accounted (steps : List Step) :
    Accounted steps (({} : Cabinet).run steps).1 (({} : Cabinet).run steps).2 := by
  have ⟨_, balance⟩ := run_conserved (c := {}) steps (List.nodup_nil)
  have empty : held {} = [] := rfl
  simp only [empty, List.count_nil, Nat.zero_add] at balance
  have ⟨let_go, kept⟩ := close_lets_go (({} : Cabinet).run steps).2
  constructor
  case once =>
    rw [List.perm_iff_count]
    intro h
    simp only [List.count_append, balance h]
  case returned_at_most =>
    intro h
    have balance := balance h
    omega
  case null_not_returned => exact fun drawer releaser h found => null_not_returned releaser found
  case live_returned => exact fun drawer releaser h found => live_returned releaser found
  case not_returned_again => exact not_returned_again _
  case warned => exact count_warnings _
  case closed => exact ⟨let_go, kept, (count_warnings _).trans (let_go.countP_eq _)⟩

theorem run_append (c : Cabinet) (early late : List Step) :
    c.run (early ++ late) = ((c.run early).1 ++ ((c.run early).2.run late).1,
      ((c.run early).2.run late).2) := by
  induction early generalizing c with
  | nil => rfl
  | cons s rest ih => rw [List.cons_append, run_cons, run_cons, ih, List.cons_append]

/-- What a program does is what its steps do one after the other, those of releasers included. -/
theorem Deed.run_eq (deed : Deed) (c : Cabinet) :
    c.run ((deed.run c).1.map Prod.fst) = ((deed.run c).1.map Prod.snd, (deed.run c).2) := by
  induction deed generalizing c with
  | done => rfl
  | act s next ih => rw [Deed.run, List.map_cons, List.map_cons, run_cons, ih]
  | disposeBy drawer inside next inner last =>
      cases given : (c.step (.dispose drawer .recorder)).2.2.filterMap HandleEffect.returned? with
      | nil => simp only [Deed.run, given, List.map_cons, run_cons, last]
      | cons h rest =>
          simp only [Deed.run, given, List.map_cons, List.map_append, run_cons, run_append, inner,
            last]

/-- Every handle is accounted for exactly once, whatever is done with handles: in any row of steps,
and where each step is chosen by what came before, also by releasers. -/
theorem handles_accounted_once :
    (∀ steps, Accounted steps (({} : Cabinet).run steps).1 (({} : Cabinet).run steps).2) ∧
    ∀ deed : Deed, Accounted ((deed.run {}).1.map Prod.fst) ((deed.run {}).1.map Prod.snd)
      (deed.run {}).2 := by
  refine ⟨run_accounted, fun deed => ?_⟩
  have accounted := run_accounted ((deed.run {}).1.map Prod.fst)
  rwa [deed.run_eq] at accounted

def movingOut : Deed :=
  .act (.adopt "door" 16 .pinned) fun _ => .act (.take "door" "spare") fun _ =>
    .disposeBy "spare"
      (fun _ => .act (.adopt "door" 32 .strong) fun _ =>
        .act (.dispose "spare" .recorder) fun _ => .done)
      (.act (.clear "door") fun _ => .done)

/-- One goes back, one is let go of, and a warning tells that it stays rooted. -/
theorem moving_out_accounted :
    Accounted ((movingOut.run {}).1.map Prod.fst) ((movingOut.run {}).1.map Prod.snd)
        (movingOut.run {}).2 ∧
      effectsOf ((movingOut.run {}).1.map Prod.snd) = [.released 16 .pinned, .dropped 32 .strong] ∧
      ((effectsOf ((movingOut.run {}).1.map Prod.snd)).filterMap
        HandleEffect.record?).countP Record.tellsRooted = 1 := by
  have accounted := handles_accounted_once.2 movingOut
  refine ⟨accounted, by decide, ?_⟩
  rw [accounted.warned]
  decide

end Cabinet

end BlueprintBridge
