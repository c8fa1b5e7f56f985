import BlueprintBridge.Proofs.Event.Channel
import BlueprintBridge.Proofs.Event.Exchange
import Mathlib.Data.List.Nodup

/-!
# Tokens are exact capabilities

Subscribers are numbered across all channels, so subscribing answers a token that nobody had before,
and a token that was not given back yet fits the channel that issued it, whatever the channels are
called, and detaches that one handler.
-/

namespace BlueprintBridge.Switchboard

set_option autoImplicit false

structure Ledger where
  issued : List (Nat × Token)
  returned : List (Nat × Token × Bool)

namespace Ledger

def issue (channel : Nat) (token : Token) (l : Ledger) : Ledger :=
  { l with issued := l.issued ++ [(channel, token)] }

def giveBack (channel : Nat) (token : Token) (removed : Bool) (l : Ledger) : Ledger :=
  { l with returned := l.returned ++ [(channel, token, removed)] }

def enter (l : Ledger) : Happening → Ledger
  | .subscribed channel token => l.issue channel token
  | .givenBack channel token removed => l.giveBack channel token removed
  | _ => l

def ofJournal (journal : List Happening) : Ledger := journal.foldl enter ⟨[], []⟩

theorem of_journal_append (journal : List Happening) (event : Happening) :
    ofJournal (journal ++ [event]) = (ofJournal journal).enter event := by
  rw [ofJournal, List.foldl_append]
  rfl

theorem enter_quiet (l : Ledger) {event : Happening} (quiet : event.IsQuiet) :
    l.enter event = l := by
  cases event with
  | subscribed | givenBack => exact quiet.elim
  | _ => rfl

/-- A channel issued the token, and nobody has given it back. -/
structure Unused (l : Ledger) (channel : Nat) (token : Token) : Prop where
  issued : (channel, token) ∈ l.issued
  kept : ∀ entry ∈ l.returned, entry.2.1 ≠ token

/-- The numbers of tokens grow, also from channel to channel; each is given back once at most, and
the answer is whether it came to its own channel. -/
structure Orderly (l : Ledger) (size next : Nat) : Prop where
  increasing : (l.issued.map fun entry => entry.2.id).Pairwise (· < ·)
  below : ∀ entry ∈ l.issued, entry.1 < size ∧ entry.2.id < next
  spent : ∀ entry ∈ l.returned, ∃ owner, (owner, entry.2.1) ∈ l.issued
  once : (l.returned.map fun entry => entry.2.1).Nodup
  answered : ∀ entry ∈ l.returned, entry.2.2 = true ↔ (entry.1, entry.2.1) ∈ l.issued

variable {l : Ledger} {size next channel owner i : Nat} {token other : Token} {removed : Bool}

theorem Orderly.unique (orderly : l.Orderly size next) (issued : (i, other) ∈ l.issued)
    (also : (owner, token) ∈ l.issued) (same : other.id = token.id) :
    i = owner ∧ other = token := by
  have apart : (l.issued.map fun entry => entry.2.id).Nodup :=
    orderly.increasing.imp Nat.ne_of_lt
  exact Prod.mk.inj (List.inj_on_of_nodup_map apart issued also same)

theorem Orderly.not_issued (orderly : l.Orderly size next) (number : token.id = next) :
    (i, token) ∉ l.issued := by
  intro earlier
  have lower := (orderly.below _ earlier).2
  simp only at lower
  omega

theorem unused_issue_iff (orderly : l.Orderly size next) (number : token.id = next) :
    (l.issue channel token).Unused i other ↔ l.Unused i other ∨ i = channel ∧ other = token := by
  constructor
  · intro unused
    rcases List.mem_append.mp unused.issued with earlier | last
    · exact .inl ⟨earlier, unused.kept⟩
    · exact .inr (Prod.mk.inj (List.mem_singleton.mp last))
  · rintro (unused | ⟨rfl, rfl⟩)
    · exact ⟨List.mem_append_left _ unused.issued, unused.kept⟩
    · refine ⟨List.mem_append_right _ (List.mem_singleton_self _), ?_⟩
      rintro entry given rfl
      obtain ⟨owner, earlier⟩ := orderly.spent entry given
      exact orderly.not_issued number earlier

theorem unused_give_back_iff :
    (l.giveBack channel token removed).Unused i other ↔ l.Unused i other ∧ token ≠ other := by
  constructor
  · intro unused
    constructor
    · exact ⟨unused.issued, fun entry given => unused.kept entry (List.mem_append_left _ given)⟩
    · exact unused.kept _ (List.mem_append_right _ (List.mem_singleton_self _))
  · rintro ⟨unused, apart⟩
    refine ⟨unused.issued, ?_⟩
    intro entry given
    rcases List.mem_append.mp given with earlier | last
    · exact unused.kept entry earlier
    · rw [List.mem_singleton.mp last]
      exact apart

theorem Orderly.issue (orderly : l.Orderly size next) (inside : channel < size)
    (number : token.id = next) : (l.issue channel token).Orderly size (next + 1) where
  increasing := by
    simp only [Ledger.issue, List.map_append, List.pairwise_append]
    refine ⟨orderly.increasing, List.pairwise_singleton .., ?_⟩
    intro id earlier last new
    obtain ⟨entry, issued, rfl⟩ := List.mem_map.mp earlier
    rw [List.mem_singleton.mp new]
    have lower := (orderly.below entry issued).2
    simp only
    omega
  below := by
    intro entry issued
    rcases List.mem_append.mp issued with earlier | last
    · have bounds := orderly.below entry earlier
      omega
    · rw [List.mem_singleton.mp last]
      simp only
      omega
  spent := by
    intro entry given
    exact (orderly.spent entry given).imp fun _ => List.mem_append_left _
  once := orderly.once
  answered := by
    intro entry given
    rw [orderly.answered entry given]
    constructor
    · exact List.mem_append_left _
    · intro issued
      apply (List.mem_append.mp issued).resolve_right
      intro last
      obtain ⟨owner, earlier⟩ := orderly.spent entry given
      rw [(Prod.mk.inj (List.mem_singleton.mp last)).2] at earlier
      exact orderly.not_issued number earlier

theorem Orderly.give_back (orderly : l.Orderly size next) (unused : l.Unused owner token)
    (answer : removed = true ↔ channel = owner) :
    (l.giveBack channel token removed).Orderly size next where
  increasing := orderly.increasing
  below := orderly.below
  spent := by
    intro entry given
    rcases List.mem_append.mp given with earlier | last
    · exact orderly.spent entry earlier
    · rw [List.mem_singleton.mp last]
      exact ⟨owner, unused.issued⟩
  once := by
    simp only [Ledger.giveBack, List.map_append, List.nodup_append]
    refine ⟨orderly.once, List.nodup_singleton _, ?_⟩
    intro earlier before last new
    obtain ⟨entry, given, rfl⟩ := List.mem_map.mp before
    rw [List.mem_singleton.mp new]
    exact unused.kept entry given
  answered := by
    intro entry given
    rcases List.mem_append.mp given with earlier | last
    · exact orderly.answered entry earlier
    · rw [List.mem_singleton.mp last]
      apply answer.trans
      constructor
      · rintro rfl
        exact unused.issued
      · intro issued
        exact (orderly.unique issued unused.issued rfl).1

end Ledger

/-- Who is attached to a channel has a token of it, and who has an unused token is attached. -/
structure Fits (l : Ledger) (i : Nat) (c : Channel Handler) : Prop where
  order : (c.handlers.map Prod.fst).Pairwise (· < ·)
  origin : ∀ h ∈ c.handlers, ∃ token, (i, token) ∈ l.issued ∧ token.id = h.1
  attached : ∀ token, l.Unused i token → c.isSubscribed token = true

namespace Fits

variable {l : Ledger} {c : Channel Handler} {size next channel owner i : Nat} {token : Token}

theorem is_subscribed_iff (fits : Fits l i c) (orderly : l.Orderly size next)
    (unused : l.Unused owner token) : c.isSubscribed token = true ↔ i = owner := by
  constructor
  · intro subscribed
    obtain ⟨h, attached, same⟩ := List.any_eq_true.mp subscribed
    obtain ⟨issued, here, number⟩ := fits.origin h attached
    have fitting : issued.id = token.id := number.trans (of_decide_eq_true same)
    exact (orderly.unique here unused.issued fitting).1
  · rintro rfl
    exact fits.attached token unused

theorem subscribe (fits : Fits l i c) (orderly : l.Orderly size next) (number : token.id = next)
    (h : Handler) : Fits (l.issue i token) i (c.subscribe token.id h) where
  order := by
    simp only [Channel.subscribe, List.map_append, List.pairwise_append]
    refine ⟨fits.order, List.pairwise_singleton .., ?_⟩
    intro id earlier last new
    obtain ⟨h, attached, rfl⟩ := List.mem_map.mp earlier
    obtain ⟨issued, here, same⟩ := fits.origin h attached
    have lower := (orderly.below _ here).2
    simp only [List.map_cons, List.map_nil, List.mem_singleton] at new
    simp only at lower
    omega
  origin := by
    intro h attached
    rcases List.mem_append.mp attached with earlier | last
    · obtain ⟨issued, here, same⟩ := fits.origin h earlier
      exact ⟨issued, List.mem_append_left _ here, same⟩
    · rw [List.mem_singleton.mp last]
      exact ⟨token, List.mem_append_right _ (List.mem_singleton_self _), rfl⟩
  attached := by
    intro other unused
    simp only [Channel.isSubscribed, Channel.subscribe, List.any_append, Bool.or_eq_true]
    rcases (Ledger.unused_issue_iff orderly number).mp unused with earlier | ⟨_, rfl⟩
    · exact .inl (fits.attached other earlier)
    · exact .inr (by simp)

theorem issue_elsewhere (fits : Fits l i c) (orderly : l.Orderly size next)
    (number : token.id = next) (elsewhere : i ≠ channel) : Fits (l.issue channel token) i c where
  order := fits.order
  origin := by
    intro h attached
    obtain ⟨issued, here, same⟩ := fits.origin h attached
    exact ⟨issued, List.mem_append_left _ here, same⟩
  attached := by
    intro other unused
    rcases (Ledger.unused_issue_iff orderly number).mp unused with earlier | ⟨here, _⟩
    · exact fits.attached other earlier
    · exact (elsewhere here).elim

theorem give_back_elsewhere (fits : Fits l i c) {removed : Bool} :
    Fits (l.giveBack channel token removed) i c where
  order := fits.order
  origin := fits.origin
  attached other unused := fits.attached other (Ledger.unused_give_back_iff.mp unused).1

theorem unsubscribe (fits : Fits l i c) (orderly : l.Orderly size next)
    (unused : l.Unused owner token) {removed : Bool} :
    Fits (l.giveBack i token removed) i (c.unsubscribe token).2 where
  order := fits.order.sublist (List.filter_sublist.map _)
  origin h attached := fits.origin h (List.mem_of_mem_filter attached)
  attached := by
    intro other still
    obtain ⟨before, apart⟩ := Ledger.unused_give_back_iff.mp still
    obtain ⟨h, attached, same⟩ := List.any_eq_true.mp (fits.attached other before)
    have number : h.1 = other.id := of_decide_eq_true same
    apply List.any_eq_true.mpr
    refine ⟨h, List.mem_filter.mpr ⟨attached, ?_⟩, same⟩
    apply decide_eq_true
    intro clash
    exact apart (orderly.unique unused.issued before.issued (clash.symm.trans number)).2

theorem handlers_unsubscribe (fits : Fits l i c) (unused : l.Unused i token) :
    ∃ before h after, c.handlers = before ++ h :: after ∧ h.1 = token.id ∧
      (c.unsubscribe token).2 = { c with handlers := before ++ after } := by
  obtain ⟨h, attached, same⟩ := List.any_eq_true.mp (fits.attached token unused)
  have number : h.1 = token.id := of_decide_eq_true same
  obtain ⟨before, after, split, left⟩ :=
    Channel.unsubscribe_own (fits.order.imp Nat.ne_of_lt) attached number
  exact ⟨before, h, after, split, number, left⟩

end Fits

structure Holds (l : Ledger) (tokens : Catalog String Token) : Prop where
  unused : ∀ label token, tokens.get? label = some token → ∃ owner, l.Unused owner token
  apart : ∀ label other token, tokens.get? label = some token →
    tokens.get? other = some token → label = other

namespace Holds

variable {l : Ledger} {tokens : Catalog String Token} {size next channel : Nat} {token : Token}

theorem insert (holds : Holds l tokens) (orderly : l.Orderly size next)
    (number : token.id = next) (label : String) :
    Holds (l.issue channel token) (tokens.insert label token) where
  unused := by
    intro name other held
    simp only [Ledger.unused_issue_iff orderly number]
    rw [Catalog.get?_insert] at held
    split at held
    · cases held
      exact ⟨channel, .inr ⟨rfl, rfl⟩⟩
    · exact (holds.unused name other held).imp fun _ => .inl
  apart := by
    have old {name : String} : tokens.get? name ≠ some token := by
      intro held
      obtain ⟨owner, unused⟩ := holds.unused name token held
      exact orderly.not_issued number unused.issued
    intro first second other held also
    rw [Catalog.get?_insert] at held also
    split at held
    · next one =>
        split at also
        · next two => exact one.trans two.symm
        · cases held
          exact (old also).elim
    · split at also
      · cases also
        exact (old held).elim
      · exact holds.apart first second other held also

theorem erase (holds : Holds l tokens) {label : String}
    (held : tokens.get? label = some token) {removed : Bool} :
    Holds (l.giveBack channel token removed) (tokens.erase label) where
  unused := by
    intro name other still
    simp only [Ledger.unused_give_back_iff]
    rw [Catalog.get?_erase] at still
    split at still
    · cases still
    · next different =>
        obtain ⟨owner, unused⟩ := holds.unused name other still
        refine ⟨owner, unused, ?_⟩
        rintro rfl
        exact different (holds.apart name label token still held)
  apart := by
    intro first second other held also
    rw [Catalog.get?_erase] at held also
    split at held
    · cases held
    · split at also
      · cases also
      · exact holds.apart first second other held also

end Holds

/-- How the tokens of a board go with its channels, told by what was journaled. -/
structure Numbered (size : Nat) (m : Moment) : Prop where
  channels : m.board.channels.length = size
  orderly : (Ledger.ofJournal m.journal).Orderly size m.board.nextSubscriber
  fits : ∀ i, Fits (Ledger.ofJournal m.journal) i (m.board.channel i)
  holds : Holds (Ledger.ofJournal m.journal) m.board.tokens

/-- What subscribing under a label on a channel makes of a moment, if it answers this token. -/
structure Moment.Issued (m : Moment) (channel : Nat) (label : String) (token : Token)
    (after : Moment) : Prop where
  own : token.event = (m.board.channel channel).name
  fresh : ∀ entry ∈ (Ledger.ofJournal m.journal).issued, entry.2.id < token.id
  entered : Ledger.ofJournal after.journal = (Ledger.ofJournal m.journal).issue channel token
  unused : (Ledger.ofJournal after.journal).Unused channel token
  held : after.board.tokens.get? label = some token
  /-- The handler comes last on its channel. -/
  attached : ∀ i, after.board.channel i =
    if i = channel then { m.board.channel channel with
      handlers := (m.board.channel channel).handlers ++ [(token.id, ⟨label, token.id⟩)] }
    else m.board.channel i

namespace Numbered

variable {size channel : Nat} {m : Moment}

theorem issued (numbered : Numbered size m) (inside : channel < size) (label : String) :
    m.Issued channel label (m.subscribe channel label).1 (m.subscribe channel label).2 := by
  have bound : channel < m.board.channels.length := by
    rw [numbered.channels]
    exact inside
  have entered : Ledger.ofJournal (m.subscribe channel label).2.journal =
      (Ledger.ofJournal m.journal).issue channel (m.subscribe channel label).1 :=
    Ledger.of_journal_append m.journal (.subscribed channel _)
  exact {
    own := rfl
    fresh := fun entry earlier => (numbered.orderly.below entry earlier).2
    entered
    unused := by
      rw [entered]
      exact (Ledger.unused_issue_iff numbered.orderly rfl).mpr (.inr ⟨rfl, rfl⟩)
    held := by simp [Moment.subscribe, Moment.record, Board.subscribe, Board.notes_eq]
    attached := Board.channel_subscribe m.board bound label [] }

theorem quiet (numbered : Numbered size m) {event : Happening} (quiet : event.IsQuiet)
    (broadcasts : Nat) : Numbered size { m.record event with broadcasts } := by
  have same : Ledger.ofJournal (m.journal ++ [event]) = Ledger.ofJournal m.journal := by
    rw [Ledger.of_journal_append, Ledger.enter_quiet _ quiet]
  exact {
    channels := numbered.channels
    orderly := same ▸ numbered.orderly
    fits := same ▸ numbered.fits
    holds := same ▸ numbered.holds }

theorem subscribe (numbered : Numbered size m) (inside : channel < size) (label : String) :
    Numbered size (m.subscribe channel label).2 := by
  have issued := numbered.issued inside label
  let token := (m.board.channel channel).token m.board.nextSubscriber
  exact {
    channels := by
      simpa [Moment.subscribe, Moment.record, Board.subscribe, Board.notes_eq, Board.setChannel]
        using numbered.channels
    orderly := by
      have next : (m.subscribe channel label).2.board.nextSubscriber =
          m.board.nextSubscriber + 1 := by
        simp [Moment.subscribe, Moment.record, Board.subscribe, Board.notes_eq]
      rw [issued.entered, next]
      exact numbered.orderly.issue inside rfl
    fits := by
      intro i
      rw [issued.entered, issued.attached]
      split
      · next own =>
          rw [own]
          exact (numbered.fits channel).subscribe numbered.orderly rfl _
      · next elsewhere =>
          exact (numbered.fits i).issue_elsewhere numbered.orderly rfl elsewhere
    holds := by
      have tokens : (m.subscribe channel label).2.board.tokens =
          m.board.tokens.insert label token := by
        simp [Moment.subscribe, Moment.record, Board.subscribe, Board.notes_eq, token]
      rw [issued.entered, tokens]
      exact numbered.holds.insert numbered.orderly rfl label }

theorem give_back (numbered : Numbered size m) {label : String} {token : Token}
    (held : m.board.tokens.get? label = some token) (channel : Nat) :
    Numbered size (m.giveBack channel label token).2 := by
  obtain ⟨owner, unused⟩ := numbered.holds.unused label token held
  let removed := (m.board.channel channel).isSubscribed token
  have ledger : Ledger.ofJournal (m.giveBack channel label token).2.journal =
      (Ledger.ofJournal m.journal).giveBack channel token removed :=
    Ledger.of_journal_append m.journal (.givenBack channel token removed)
  exact {
    channels := by
      simpa [Moment.giveBack, Moment.record, Board.unsubscribe, Board.notes_eq, Board.setChannel]
        using numbered.channels
    orderly := by
      have next : (m.giveBack channel label token).2.board.nextSubscriber =
          m.board.nextSubscriber := by
        simp [Moment.giveBack, Moment.record, Board.unsubscribe, Board.notes_eq, Board.setChannel]
      rw [ledger, next]
      apply numbered.orderly.give_back unused
      exact (numbered.fits channel).is_subscribed_iff numbered.orderly unused
    fits := by
      intro i
      have handlers : (m.giveBack channel label token).2.board.channel i = _ :=
        Board.channel_unsubscribe m.board channel label token i
      rw [ledger, handlers]
      split
      · next own =>
          rw [own]
          exact (numbered.fits channel).unsubscribe numbered.orderly unused
      · exact (numbered.fits i).give_back_elsewhere
    holds := by
      have tokens : (m.giveBack channel label token).2.board.tokens =
          m.board.tokens.erase label := by
        simp [Moment.giveBack, Moment.record, Board.unsubscribe, Board.notes_eq, Board.setChannel]
      rw [ledger, tokens]
      exact numbered.holds.erase held }

end Numbered

theorem numbered_errand_takes {size : Nat} (react : Handler → Int → Errand size) (depth : Nat)
    (errand : Errand size) :
    Action.Takes (Chronicle.Always (Numbered size)) (Chronicle.Always (Numbered size))
      (Chronicle.Always (Numbered size)) (errand.run (broadcastAt react depth)) := by
  apply errand_at_takes
  · exact {
      mark := Chronicle.mark_takes
      subscribing := by
        intro channel label w always
        exact always.moved rfl (always.now.subscribe channel.isLt label)
      givingBack := by
        intro channel label w always
        unfold givingBack
        cases held : w.now.board.tokens.get? label with
        | none => exact always
        | some token => exact always.moved rfl (always.now.give_back held channel) }
  · intro event w quiet always
    exact always.moved rfl (always.now.quiet quiet _)
  · intro channel value w always
    have quiet : (Happening.begun w.now.broadcasts channel value
        (w.now.attached channel)).IsQuiet := trivial
    exact always.moved rfl (always.now.quiet quiet _)

def freshExchange (names : List String) (first : Nat) (verbosity : Option Level) : Exchange where
  now.board := { channels := names.map (⟨·, []⟩), nextSubscriber := first, verbosity }

theorem numbered_fresh (names : List String) (first : Nat) (verbosity : Option Level) :
    Numbered names.length (freshExchange names first verbosity).now := by
  have empty (i : Nat) :
      ((freshExchange names first verbosity).now.board.channel i).handlers = [] := by
    unfold Board.channel freshExchange
    simp only [List.getElem?_map]
    cases names[i]? with
    | none | some => rfl
  exact {
    channels := List.length_map _
    orderly := {
      increasing := .nil
      below := by simp [Ledger.ofJournal, freshExchange]
      spent := by simp [Ledger.ofJournal, freshExchange]
      once := .nil
      answered := by simp [Ledger.ofJournal, freshExchange] }
    fits := by
      intro i
      exact {
        order := by simp [empty]
        origin := by simp [empty]
        attached := by
          intro token unused
          cases unused.issued }
    holds := {
      unused := by simp [freshExchange]
      apart := by simp [freshExchange] } }

/-- What a token is good for at a moment, on any channel and under any label. -/
structure Moment.Exact (size : Nat) (m : Moment) : Prop where
  channels : m.board.channels.length = size
  /-- Who subscribes is answered a new token, entered as issued by that channel. -/
  issued : ∀ w : Exchange, w.now = m → ∀ channel < size, ∀ label, ∃ token after,
    subscribing channel label w = .ok token { w with now := after } ∧
      m.Issued channel label token after
  distinct : ((Ledger.ofJournal m.journal).issued.map fun entry => entry.2.id).Pairwise (· < ·)
  order : ∀ i, ((m.board.channel i).handlers.map Prod.fst).Pairwise (· < ·)
  subscribed : ∀ i owner token, (Ledger.ofJournal m.journal).Unused owner token →
    ((m.board.channel i).isSubscribed token = true ↔ i = owner)
  removed : ∀ i label owner token, (Ledger.ofJournal m.journal).Unused owner token →
    ((m.board.unsubscribe i label token).1 = true ↔ i = owner)
  /-- Who gives a token back is answered what the channel says, and that is entered. -/
  returned : ∀ w : Exchange, w.now = m → ∀ i label token,
    m.board.tokens.get? label = some token → ∃ after,
      givingBack i label w =
        .ok (some (m.board.unsubscribe i label token).1) { w with now := after } ∧
      after.board = (m.board.unsubscribe i label token).2 ∧
      Ledger.ofJournal after.journal = (Ledger.ofJournal m.journal).giveBack i token
        (m.board.unsubscribe i label token).1
  /-- Its own channel takes that one handler off, and no other. -/
  detached : ∀ label owner token, (Ledger.ofJournal m.journal).Unused owner token →
    ∃ before h after, (m.board.channel owner).handlers = before ++ h :: after ∧
      h.1 = token.id ∧ ∀ i, (m.board.unsubscribe owner label token).2.channel i =
        if i = owner then { m.board.channel owner with handlers := before ++ after }
        else m.board.channel i
  /-- Another channel takes off nobody. -/
  refused : ∀ i label owner token, (Ledger.ofJournal m.journal).Unused owner token → i ≠ owner →
    ∀ j, (m.board.unsubscribe i label token).2.channel j = m.board.channel j
  held : ∀ label token, m.board.tokens.get? label = some token →
    ∃ owner, (Ledger.ofJournal m.journal).Unused owner token
  /-- Who gives back a token uses it up, and was told whether it was that channel's own. -/
  used : ((Ledger.ofJournal m.journal).returned.map fun entry => entry.2.1).Nodup
  answered : ∀ entry ∈ (Ledger.ofJournal m.journal).returned,
    entry.2.2 = true ↔ (entry.1, entry.2.1) ∈ (Ledger.ofJournal m.journal).issued

theorem Numbered.exact {size : Nat} {m : Moment} (numbered : Numbered size m) :
    m.Exact size where
  channels := numbered.channels
  issued := by
    rintro w rfl channel inside label
    exact ⟨_, _, rfl, numbered.issued inside label⟩
  returned := by
    rintro w rfl i label token held
    refine ⟨(w.now.giveBack i label token).2, ?_, rfl, ?_⟩
    · simp only [givingBack, held]
      rfl
    · exact Ledger.of_journal_append w.now.journal (.givenBack i token _)
  distinct := numbered.orderly.increasing
  order i := (numbered.fits i).order
  subscribed i _ _ unused := (numbered.fits i).is_subscribed_iff numbered.orderly unused
  removed i _ _ _ unused := (numbered.fits i).is_subscribed_iff numbered.orderly unused
  detached := by
    intro label owner token unused
    obtain ⟨before, h, after, handlers, number, left⟩ :=
      (numbered.fits owner).handlers_unsubscribe unused
    refine ⟨before, h, after, handlers, number, ?_⟩
    intro i
    rw [Board.channel_unsubscribe, left]
  refused := by
    intro i label owner token unused elsewhere j
    have absent : (m.board.channel i).isSubscribed token = false := by
      apply Bool.eq_false_iff.mpr
      intro subscribed
      exact elsewhere (((numbered.fits i).is_subscribed_iff numbered.orderly unused).mp subscribed)
    rw [Board.channel_unsubscribe, Channel.unsubscribe_foreign absent]
    split
    · next own => rw [own]
    · rfl
  held := numbered.holds.unused
  used := numbered.orderly.once
  answered := numbered.orderly.answered

/-- At every moment of every run on fresh channels, tokens are exact capabilities. -/
theorem tokens_exact (names : List String) (first : Nat) (verbosity : Option Level)
    (react : Handler → Int → Errand names.length) (depth : Nat) (errand : Errand names.length) :
    (stateAfter (errand.run (broadcastAt react depth)
      (freshExchange names first verbosity))).Always (Moment.Exact names.length) := by
  have fresh : (freshExchange names first verbosity).Always (Numbered names.length) := by
    intro m member
    rw [List.mem_singleton.mp member]
    exact numbered_fresh names first verbosity
  have always := Action.keeps_iff_takes.mpr (numbered_errand_takes react depth errand) _ fresh
  exact fun m member => (always m member).exact

/-- The first handler lets another one in, and gives the token that it was answered to the other
channel of that name; then it sends the handler there away, and broadcasts again. -/
def misdirecting (h : Handler) (value : Int) : Errand 3 :=
  if h.label = "first" ∧ value = 0 then
    .subscribe 0 "late" fun late =>
    .giveBack 1 (if late = ⟨3, "OnTick"⟩ then "late" else "") fun _ =>
    .giveBack 1 "other" fun _ =>
    .broadcast 0 1 fun _ =>
    .done
  else .done

def misdirectedErrand : Errand 3 :=
  .subscribe 0 "first" fun _ =>
  .subscribe 1 "other" fun _ =>
  .broadcast 0 0 fun _ =>
  .giveBack 0 "first" fun _ =>
  .done

/-- The handler whose token went astray stays where it is. -/
theorem misdirected_token_exact :
    let finish := stateAfter (misdirectedErrand.run (broadcastAt misdirecting 9)
      (freshExchange ["OnTick", "OnTick", "OnStop"] 1 none))
    let ledger := Ledger.ofJournal finish.now.journal
    ledger.issued = [(0, ⟨1, "OnTick"⟩), (1, ⟨2, "OnTick"⟩), (0, ⟨3, "OnTick"⟩)] ∧
      ledger.returned =
        [(1, ⟨3, "OnTick"⟩, false), (1, ⟨2, "OnTick"⟩, true), (0, ⟨1, "OnTick"⟩, true)] ∧
      finish.now.board.channels =
        [⟨"OnTick", [(3, ⟨"late", 3⟩)]⟩, ⟨"OnTick", []⟩, ⟨"OnStop", []⟩] ∧
      finish.Always (Moment.Exact 3) :=
  ⟨by decide +kernel, by decide +kernel, by decide +kernel,
    tokens_exact ["OnTick", "OnTick", "OnStop"] 1 none misdirecting 9 misdirectedErrand⟩

end BlueprintBridge.Switchboard
