import BlueprintBridge.Proofs.Handle.Custody

/-!
# The tags of handles

No step of a cabinet makes a handle up: each one that a drawer holds, that is answered, given back
or let go of is the null handle, or was adopted as it is. So a handle that refers to nothing is
tagged null without exception. The converse rests with the runtime: an address that it gives out
under the tag of the null handle keeps that tag for good, and is given back under it. Where no
address is given out so, and only there, tags and addresses agree throughout.
-/

namespace BlueprintBridge

set_option autoImplicit false

def HandleEffect.handle? : HandleEffect → Option Handle
  | released address kind => some ⟨address, kind⟩
  | freed address kind => some ⟨address, kind⟩
  | leaked address kind => some ⟨address, kind⟩
  | dropped address kind => some ⟨address, kind⟩
  | disposed _ => none

namespace Cabinet

def contents (c : Cabinet) : List Handle := c.drawers.entries.map Prod.snd

def Reply.handles : Reply → List Handle
  | handle h => [h]
  | parts address kind => [⟨address, kind⟩]
  | _ => []

/-- A step of a run with its answer and what it did to handles. -/
abbrev Entry := Step × Reply × List HandleEffect

namespace Entry

def handles (entry : Entry) : List Handle :=
  entry.2.1.handles ++
    if entry.1.givenBack = [] then entry.2.2.filterMap HandleEffect.handle? else []

def returned (entry : Entry) : List Handle :=
  if entry.1.givenBack = [] then entry.2.2.filterMap HandleEffect.returned? else []

end Entry

def entriesOf (c : Cabinet) (steps : List Step) : List Entry := steps.zip (c.run steps).1

def adoptedIn (log : List Entry) : List Handle := log.flatMap fun entry => entry.1.adopted

def known (log : List Entry) (last : Cabinet) : List Handle :=
  log.flatMap Entry.handles ++ last.contents

/-- The tags of the handles of a run that began with an empty cabinet. -/
structure Tagged (log : List Entry) (last : Cabinet) : Prop where
  origin : ∀ h ∈ known log last, h = .null ∨ h ∈ adoptedIn log ∧ h.isNull = false
  null_tagged : ∀ h ∈ known log last, h.isNull = true → h.kind = .null
  /-- Tags and addresses agree if no address was adopted under the null tag, and else not. -/
  agree_iff : (∀ h ∈ known log last, h.kind = .null ↔ h.isNull = true) ↔
    ∀ h ∈ adoptedIn log, h.kind ≠ .null
  strength_iff : (∀ h ∈ known log last, h.isNull = false →
    h.isWeak = true ∨ h.kind.isRooting = true) ↔ ∀ h ∈ adoptedIn log, h.kind ≠ .null
  /-- What a releaser is called with refers to an object, under the tag it was adopted with. -/
  returned : ∀ h ∈ log.flatMap Entry.returned, h.isNull = false ∧ h ∈ adoptedIn log

variable {c : Cabinet} {drawer : String} {h x : Handle} {s : Step} {log : List Entry}

theorem contents_erase (c : Cabinet) (drawer : String) :
    contents ⟨c.drawers.erase drawer⟩ ⊆ c.contents :=
  List.map_subset _ (List.filter_subset_self _)

theorem mem_contents_insert (member : h ∈ contents ⟨c.drawers.insert drawer x⟩) :
    h = x ∨ h ∈ c.contents := by
  rw [contents, Catalog.insert, List.map_append, List.mem_append] at member
  rcases member with kept | new
  · exact .inr (contents_erase c drawer kept)
  · exact .inl (List.mem_singleton.mp new)

theorem mem_contents (found : c.drawers.get? drawer = some x) : x ∈ c.contents := by
  obtain ⟨pair, first, rfl⟩ := Option.map_eq_some_iff.mp found
  exact List.mem_map_of_mem (List.mem_of_find?_eq_some first)

theorem handles_drop (h : Handle) : h.drop.filterMap HandleEffect.handle? ⊆ [h] := by
  unfold Handle.drop
  split
  · exact List.nil_subset _
  · exact fun _ member => member

theorem handle_release (r : Releaser) (address : UInt64) (kind : HandleKind) :
    (r.release address kind).handle? = some ⟨address, kind⟩ := by
  cases r with
  | recorder => rfl
  | runtime callbacks =>
      simp only [Releaser.release, RuntimeCallbacks.release]
      split <;> rfl

theorem handles_dispose (h : Handle) (r : Releaser) :
    ((h.dispose r).1 = h ∨ (h.dispose r).1 = .null) ∧
      (h.dispose r).2.filterMap HandleEffect.handle? ⊆ [h] := by
  unfold Handle.dispose
  split
  · exact ⟨.inl rfl, List.nil_subset _⟩
  · exact ⟨.inr rfl, by simp [handle_release]⟩

/-- The handles that a step may leave behind or have to do with: those that were there, the one it
adopts, and the null handle. -/
def Familiar (c : Cabinet) (s : Step) (h : Handle) : Prop :=
  h = .null ∨ h ∈ c.contents ∨ h ∈ s.adopted

structure Moved (c : Cabinet) (s : Step) (reply : Reply) (next : Cabinet)
    (effects : List HandleEffect) : Prop where
  left : ∀ h ∈ next.contents, Familiar c s h
  shown : ∀ h ∈ Entry.handles (s, reply, effects), Familiar c s h

theorem Moved.idle (reply : Reply) (shown : ∀ h ∈ reply.handles, Familiar c s h) :
    Moved c s reply c [] where
  left h member := .inr (.inl member)
  shown h member := by
    unfold Entry.handles at member
    rcases List.mem_append.mp member with answered | done
    · exact shown h answered
    · split at done <;> cases done

theorem put_moved {middle : Cabinet} {reply : Reply} (drawer : String)
    (kept : ∀ h ∈ middle.contents, Familiar c s h) (known : Familiar c s x)
    (shown : ∀ h ∈ reply.handles, Familiar c s h) :
    Moved c s reply (middle.put drawer x).1 (middle.put drawer x).2 where
  left h member := by
    rcases mem_contents_insert member with rfl | old
    · exact known
    · exact kept h old
  shown h member := by
    unfold Entry.handles at member
    rcases List.mem_append.mp member with answered | done
    · exact shown h answered
    · split at done
      · unfold put at done
        cases found : middle.drawers.get? drawer with
        | none =>
            rw [found] at done
            cases done
        | some previous =>
            rw [found] at done
            rw [List.mem_singleton.mp (handles_drop previous done)]
            exact kept previous (mem_contents found)
      · cases done

theorem erase_moved {reply : Reply} {effects : List HandleEffect}
    (found : c.drawers.get? drawer = some x) (shown : reply.handles ⊆ [x])
    (happened : effects.filterMap HandleEffect.handle? ⊆ [x]) :
    Moved c s reply ⟨c.drawers.erase drawer⟩ effects where
  left h member := .inr (.inl (contents_erase c drawer member))
  shown h member := by
    have leaving : Familiar c s x := .inr (.inl (mem_contents found))
    unfold Entry.handles at member
    rcases List.mem_append.mp member with answered | done
    · rw [List.mem_singleton.mp (shown answered)]
      exact leaving
    · split at done
      · rw [List.mem_singleton.mp (happened done)]
        exact leaving
      · cases done

theorem adopt_familiar (drawer : String) (address : UInt64) (kind : HandleKind) :
    Familiar c (.adopt drawer address kind) (Handle.adopt address kind) := by
  by_cases null : address = 0
  · rw [null, Handle.adopt_zero]
    exact .inl rfl
  · rw [Handle.adopt_of_ne null]
    exact .inr (.inr (by simp [Step.adopted, Handle.live, Handle.isNull, null]))

theorem dispose_moved (releaser : Releaser) (found : c.drawers.get? drawer = some x) :
    Moved c (.dispose drawer releaser) (.handle (x.dispose releaser).1)
      ⟨c.drawers.insert drawer (x.dispose releaser).1⟩ (x.dispose releaser).2 := by
  obtain ⟨remains, happened⟩ := handles_dispose x releaser
  have held : Familiar c (.dispose drawer releaser) x := .inr (.inl (mem_contents found))
  have rest : Familiar c (.dispose drawer releaser) (x.dispose releaser).1 := by
    rcases remains with same | null
    · rw [same]
      exact held
    · rw [null]
      exact .inl rfl
  constructor
  · intro h member
    rcases mem_contents_insert member with rfl | old
    · exact rest
    · exact .inr (.inl old)
  · intro h member
    rcases List.mem_append.mp member with answered | done
    · rw [List.mem_singleton.mp answered]
      exact rest
    · rw [List.mem_singleton.mp (happened done)]
      exact held

theorem step_moved (c : Cabinet) (s : Step) :
    Moved c s (c.step s).1 (c.step s).2.1 (c.step s).2.2 := by
  have old {h : Handle} (member : h ∈ c.contents) : Familiar c s h := .inr (.inl member)
  have none : ∀ h ∈ Reply.noDrawer.handles, Familiar c s h := fun _ member => by cases member
  cases s with
  | adopt drawer address kind =>
      apply put_moved drawer (fun _ => old) (adopt_familiar drawer address kind)
      intro h member
      rw [List.mem_singleton.mp member]
      exact adopt_familiar drawer address kind
  | clear drawer =>
      apply put_moved drawer (fun _ => old) (.inl rfl)
      exact fun h member => .inl (List.mem_singleton.mp member)
  | look drawer =>
      simp only [step]
      split
      · next found =>
          apply Moved.idle
          intro h member
          rw [List.mem_singleton.mp member]
          exact old (mem_contents found)
      · exact .idle _ none
  | take drawer target =>
      simp only [step]
      split
      · next x found =>
          refine put_moved target ?_ (old (mem_contents found)) ?_
          · intro h member
            exact (mem_contents_insert member).elim .inl old
          · intro h member
            rw [List.mem_singleton.mp member]
            exact old (mem_contents found)
      · exact .idle _ none
  | replace drawer source rest =>
      simp only [step]
      split
      · exact .idle _ none
      · next incoming found =>
          have without {h : Handle} (member : h ∈ contents ⟨c.drawers.erase source⟩) :
              Familiar c (.replace drawer source rest) h := old (contents_erase c source member)
          split
          -- the handle taken from `source` has nowhere to go
          · exact erase_moved found (List.nil_subset _) (handles_drop incoming)
          · next previous there =>
              refine put_moved rest ?_ (without (mem_contents there)) ?_
              · intro h member
                have kept := mem_contents_insert (c := ⟨c.drawers.erase source⟩) member
                rcases kept with rfl | other
                · exact old (mem_contents found)
                · exact without other
              · intro h member
                rw [List.mem_singleton.mp member]
                exact without (mem_contents there)
  | dispose drawer releaser =>
      simp only [step]
      split
      · next found => exact dispose_moved releaser found
      · exact .idle _ none
  | drop drawer =>
      simp only [step]
      split
      · next found => exact erase_moved found (List.nil_subset _) (handles_drop _)
      · exact .idle _ none
  | handOut drawer =>
      simp only [step]
      split
      · next found => exact erase_moved found (fun _ member => member) (List.nil_subset _)
      · exact .idle _ none
  | compare drawer other =>
      simp only [step]
      split
      · exact .idle _ fun _ member => by cases member
      · exact .idle _ none
  | disposeObject address callbacks =>
      refine ⟨fun h => old, fun h member => ?_⟩
      simp only [step, RuntimeCallbacks.disposeObject] at member
      split at member <;> cases member
  | release address kind callbacks => exact ⟨fun h => old, fun h member => by cases member⟩

theorem weak_or_rooting_iff (h : Handle) :
    (h.isWeak = true ∨ h.kind.isRooting = true) ↔ h.kind ≠ .null := by
  rw [Handle.isWeak]
  cases h.kind <;> decide

theorem adopted_shown (c : Cabinet) (s : Step) :
    s.adopted ⊆ Entry.handles (s, (c.step s).1, (c.step s).2.2) := by
  cases s with
  | adopt drawer address kind =>
      intro h member
      by_cases null : address = 0
      · simp [Step.adopted, Handle.live, Handle.isNull, null] at member
      · have same : h = Handle.adopt address kind := by
          rw [Handle.adopt_of_ne null]
          simpa [Step.adopted, Handle.live, Handle.isNull, null] using member
        rw [same]
        exact List.mem_append_left _ (List.mem_singleton_self _)
  | _ => exact List.nil_subset _

theorem live_of_mem (member : x ∈ h.live) : x.isNull = false := by
  unfold Handle.live at member
  split at member
  · cases member
  · next live =>
      rw [List.mem_singleton.mp member]
      exact Bool.eq_false_iff.mpr live

theorem live_of_adopted (member : h ∈ s.adopted) : h.isNull = false := by
  cases s with
  | adopt drawer address kind => exact live_of_mem member
  | _ => cases member

theorem live_of_held (member : h ∈ c.held) : h.isNull = false := by
  obtain ⟨_, _, held⟩ := List.mem_flatMap.mp member
  exact live_of_mem held

theorem returned_subset (entry : Entry) : entry.returned ⊆ entry.handles := by
  intro h member
  unfold Entry.returned at member
  unfold Entry.handles
  split at member
  · next own =>
      obtain ⟨effect, done, given⟩ := List.mem_filterMap.mp member
      refine List.mem_append_right _ ?_
      rw [if_pos own]
      refine List.mem_filterMap.mpr ⟨effect, done, ?_⟩
      cases effect with
      | released | freed | leaked => exact given
      | disposed | dropped => cases given
  · cases member

theorem returned_live (unique : c.Unique) (s : Step) :
    ∀ h ∈ Entry.returned (s, (c.step s).1, (c.step s).2.2), h.isNull = false := by
  intro h member
  unfold Entry.returned at member
  split at member
  · next own =>
      by_contra null
      have balance := (step_conserved unique s).balance h
      have held : c.held.count h = 0 :=
        List.count_eq_zero.mpr fun held => null (live_of_held held)
      have adopted : s.adopted.count h = 0 :=
        List.count_eq_zero.mpr fun adopted => null (live_of_adopted adopted)
      have given := List.count_pos_iff.mpr member
      dsimp only at own given
      rw [own, held, adopted, List.count_nil] at balance
      omega
  · cases member

theorem entries_of_cons (c : Cabinet) (s : Step) (rest : List Step) :
    c.entriesOf (s :: rest) =
      (s, (c.step s).1, (c.step s).2.2) :: (c.step s).2.1.entriesOf rest := rfl

/-- Every handle of a run was there before it, was adopted in it, or is the null handle. -/
theorem run_familiar (c : Cabinet) (steps : List Step) :
    ∀ h ∈ known (c.entriesOf steps) (c.run steps).2,
      h = .null ∨ h ∈ c.contents ∨ h ∈ adoptedIn (c.entriesOf steps) := by
  induction steps generalizing c with
  | nil => exact fun h member => .inr (.inl member)
  | cons s rest ih =>
      intro h member
      have first := step_moved c s
      have here {h : Handle} (familiar : Familiar c s h) :
          h = .null ∨ h ∈ c.contents ∨ h ∈ adoptedIn (c.entriesOf (s :: rest)) :=
        familiar.imp_right (Or.imp_right (List.mem_append_left _))
      rw [entries_of_cons, known, List.flatMap_cons, List.append_assoc, run_cons] at member
      rcases List.mem_append.mp member with now | later
      · exact here (first.shown h now)
      · rcases ih (c.step s).2.1 h later with null | between | adopted
        · exact .inl null
        · exact here (first.left h between)
        · exact .inr (.inr (List.mem_append_right _ adopted))

theorem forall_entries {P : Entry → Prop}
    (each : ∀ (c : Cabinet) s, c.Unique → P (s, (c.step s).1, (c.step s).2.2))
    (unique : c.Unique) (steps : List Step) : ∀ entry ∈ c.entriesOf steps, P entry := by
  induction steps generalizing c with
  | nil => exact fun entry member => by cases member
  | cons s rest ih =>
      rw [entries_of_cons]
      exact List.forall_mem_cons.mpr ⟨each c s unique, ih (step_conserved unique s).unique⟩

theorem live_of_mem_adopted_in {steps : List Step} {h : Handle}
    (member : h ∈ adoptedIn (entriesOf {} steps)) : h.isNull = false := by
  obtain ⟨entry, _, adopted⟩ := List.mem_flatMap.mp member
  exact live_of_adopted adopted

theorem known_of_mem_adopted_in {steps : List Step} {h : Handle}
    (member : h ∈ adoptedIn (entriesOf {} steps)) :
    h ∈ known (entriesOf {} steps) (({} : Cabinet).run steps).2 := by
  obtain ⟨entry, there, adopted⟩ := List.mem_flatMap.mp member
  have shown : entry.1.adopted ⊆ entry.handles :=
    forall_entries (c := {}) (P := fun entry => entry.1.adopted ⊆ entry.handles)
      (fun c s _ => adopted_shown c s) List.nodup_nil steps entry there
  exact List.mem_append_left _ (List.mem_flatMap.mpr ⟨entry, there, shown adopted⟩)

theorem known_origin {steps : List Step} {h : Handle}
    (member : h ∈ known (entriesOf {} steps) (({} : Cabinet).run steps).2) :
    h = .null ∨ h ∈ adoptedIn (entriesOf {} steps) ∧ h.isNull = false := by
  rcases run_familiar {} steps h member with null | before | adopted
  · exact .inl null
  · cases before
  · exact .inr ⟨adopted, live_of_mem_adopted_in adopted⟩

theorem run_tagged (steps : List Step) :
    Tagged (entriesOf {} steps) (({} : Cabinet).run steps).2 := by
  constructor
  case origin => exact fun h member => known_origin member
  case null_tagged =>
    intro h member null
    rcases known_origin member with rfl | ⟨_, live⟩
    · rfl
    · rw [live] at null
      cases null
  case agree_iff =>
    constructor
    · intro agree h member untold
      have null := (agree h (known_of_mem_adopted_in member)).mp untold
      rw [live_of_mem_adopted_in member] at null
      cases null
    · intro told h member
      rcases known_origin member with rfl | ⟨adopted, live⟩
      · decide
      · exact iff_of_false (told h adopted) (by simp [live])
  case strength_iff =>
    simp only [weak_or_rooting_iff]
    constructor
    · exact fun strong h member =>
        strong h (known_of_mem_adopted_in member) (live_of_mem_adopted_in member)
    · intro told h member live
      rcases known_origin member with rfl | ⟨adopted, _⟩
      · cases live
      · exact told h adopted
  case returned =>
    intro h member
    obtain ⟨entry, there, given⟩ := List.mem_flatMap.mp member
    have live : h.isNull = false :=
      forall_entries (c := {}) (P := fun entry => ∀ h ∈ entry.returned, h.isNull = false)
        (fun _ s unique => returned_live unique s) List.nodup_nil steps entry there h given
    refine ⟨live, ?_⟩
    have turned_up := List.mem_append_left (({} : Cabinet).run steps).2.contents
      (List.mem_flatMap.mpr ⟨entry, there, returned_subset entry given⟩)
    rcases known_origin turned_up with rfl | ⟨adopted, _⟩
    · cases live
    · exact adopted

theorem length_run (c : Cabinet) (steps : List Step) : (c.run steps).1.length = steps.length := by
  induction steps generalizing c with
  | nil => rfl
  | cons s rest ih => rw [run_cons, List.length_cons, List.length_cons, ih]

/-- The steps that a program has made up to a moment make the same entries by themselves. -/
theorem Deed.entries_of_early {deed : Deed} {c : Cabinet} {early late : List Entry}
    (split : (deed.run c).1 = early ++ late) : c.entriesOf (early.map Prod.fst) = early := by
  have run := congrArg Prod.fst (deed.run_eq c)
  rw [split, List.map_append, List.map_append, run_append] at run
  have lengths : (c.run (early.map Prod.fst)).1.length = (early.map Prod.snd).length := by
    rw [length_run, List.length_map, List.length_map]
  rw [entriesOf, (List.append_inj run lengths).1]
  exact (List.zip_of_prod rfl rfl).symm

/-- At every moment of every program, whatever its releasers do, tags and addresses have agreed
exactly if no address was adopted under the null tag until then. -/
theorem tags_agree_iff_adopted_so (deed : Deed) (early late : List Entry)
    (split : (deed.run {}).1 = early ++ late) :
    Tagged early (({} : Cabinet).run (early.map Prod.fst)).2 := by
  have tagged := run_tagged (early.map Prod.fst)
  rwa [Deed.entries_of_early split] at tagged

def readopted : Deed :=
  .act (.adopt "door" 16 .null) fun _ =>
    .disposeBy "door" (fun h => .act (.adopt "spare" h.address .weak) fun _ => .done) .done

theorem readopted_tagged :
    let early := (readopted.run {}).1
    let last := (({} : Cabinet).run (early.map Prod.fst)).2
    early = early ++ [] ∧ Tagged early last ∧ last.contents = [.null, ⟨16, .weak⟩] ∧
      ¬ ∀ h ∈ known early last, h.kind = .null ↔ h.isNull = true := by
  intro early last
  have whole : early = early ++ [] := (List.append_nil early).symm
  have tagged : Tagged early last := tags_agree_iff_adopted_so readopted early [] whole
  refine ⟨whole, tagged, by decide, ?_⟩
  rw [tagged.agree_iff]
  exact fun proper => proper ⟨16, .null⟩ (by decide) rfl

/-- An address adopted under the null tag is neither weak nor rooting, and is given back so. -/
theorem null_tag_of_live_address :
    (Handle.adopt 16 .null).isNull = false ∧ (Handle.adopt 16 .null).kind = .null ∧
      (Handle.adopt 16 .null).isWeak = false ∧
      effectsOf (({} : Cabinet).run [.adopt "door" 16 .null, .take "door" "spare",
        .dispose "spare" .recorder]).1 = [.released 16 .null] := by decide

end Cabinet

end BlueprintBridge
