import Starry.Source.EpollPoller

/-!
# Pointers of `EpollPoller`

`channels_` and the kernel's epoll set hold pointers to channels. `Registry` says that they point to
channels that exist, each at its own fd, for any channels at any addresses: fds and addresses may
be used again, and a channel that is not registered may have the fd of one that is. Each operation
that succeeds keeps it.
-/
namespace Starry.Source.PollerRegistry

open Starry.Foundation
open Starry.Source

/-! ## What a successful call has done -/

variable {ch : Channel} {p : EpollPoller}

/-- What `epoll_ctl` leaves at the fd, if it succeeds. -/
theorem update_effect {operation : EpollPoller.CtlOp} {q : EpollPoller}
    (success : p.update operation ch = .ok q) :
    q.channels = p.channels ∧
      q.epollSet ch.fd = match operation with
        | .add | .mod => some (ch.events, ch.address)
        | .del => none := by
  unfold EpollPoller.update at success
  cases operation with
  | add | mod | del =>
    cases present : p.epollSet ch.fd
    all_goals
      simp only [present] at success
      cases success
      try exact ⟨rfl, Function.update_self _ _ _⟩

/-- An update enters the channel at its fd; the kernel is given its address, or nothing. -/
theorem setEvents_effect {events : EventMask} {out : Channel × EpollPoller}
    (success : ch.setEvents events p = .ok out) :
    (p.channels ch.fd = if ch.index = .kNew then none else some ch.address) ∧
    out.2.channels = Function.update p.channels ch.fd (some ch.address) ∧
    out.2.epollSet ch.fd =
      if out.1.index = .kAdded then some (events, ch.address) else none := by
  unfold Channel.setEvents EpollPoller.updateChannel at success
  dsimp only at success
  cases place : ch.index with
  | kNew =>
    simp only [place] at success
    obtain ⟨_, free, success⟩ := bind_eq_ok success
    obtain ⟨added, entered, success⟩ := bind_eq_ok success
    cases success
    obtain ⟨channels, set⟩ := update_effect entered
    exact ⟨cassert_ok free, channels, set⟩
  | kDeleted =>
    simp only [place] at success
    obtain ⟨_, _, success⟩ := bind_eq_ok success
    obtain ⟨_, here, success⟩ := bind_eq_ok success
    obtain ⟨added, entered, success⟩ := bind_eq_ok success
    cases success
    have here := cassert_ok here
    obtain ⟨channels, set⟩ := update_effect entered
    exact ⟨here, by rw [channels, ← here, Function.update_eq_self], set⟩
  | kAdded =>
    simp only [place] at success
    obtain ⟨_, _, success⟩ := bind_eq_ok success
    obtain ⟨_, here, success⟩ := bind_eq_ok success
    have here := cassert_ok here
    have kept : p.channels = Function.update p.channels ch.fd (some ch.address) := by
      rw [← here, Function.update_eq_self]
    split at success
    · obtain ⟨deleted, entered, success⟩ := bind_eq_ok success
      cases success
      obtain ⟨channels, set⟩ := update_effect entered
      exact ⟨here, channels.trans kept, set⟩
    · obtain ⟨changed, entered, success⟩ := bind_eq_ok success
      cases success
      obtain ⟨channels, set⟩ := update_effect entered
      exact ⟨here, channels.trans kept, set.trans (if_pos rfl).symm⟩

/-- A removal takes the channel from its fd. -/
theorem remove_effect {inUse : Bool} {out : Channel × EpollPoller}
    (success : ch.remove inUse p = .ok out) :
    p.channels ch.fd = some ch.address ∧
    out.2.channels = Function.update p.channels ch.fd none ∧
    out.2.epollSet ch.fd = if ch.index = .kAdded then none else p.epollSet ch.fd := by
  obtain ⟨_, _, success⟩ := bind_eq_ok success
  obtain ⟨_, _, success⟩ := bind_eq_ok success
  obtain ⟨_, _, success⟩ := bind_eq_ok success
  obtain ⟨_, here, success⟩ := bind_eq_ok success
  obtain ⟨_, _, success⟩ := bind_eq_ok success
  obtain ⟨_, _, success⟩ := bind_eq_ok success
  obtain ⟨_, erased, success⟩ := bind_eq_ok success
  cases success
  refine ⟨cassert_ok here, ?_⟩
  split at erased
  next added =>
    obtain ⟨channels, set⟩ := update_effect erased
    exact ⟨channels, set.trans (if_pos added).symm⟩
  next deleted =>
    cases erased
    exact ⟨rfl, (if_neg deleted).symm⟩

/-! ## Pointers of the poller -/

/-- Both the poller's map and the kernel's set point to channels that exist, at their own fds. -/
structure Registry (objects : Nat → Option Channel) (p : EpollPoller) : Prop where
  addressed : ∀ address ch, objects address = some ch → ch.address = address
  entered : ∀ address ch, objects address = some ch → ch.index ≠ .kNew →
    p.channels ch.fd = some address
  known : ∀ fd address, p.channels fd = some address →
    ∃ ch, objects address = some ch ∧ ch.fd = fd ∧ ch.index ≠ .kNew
  watched : ∀ fd mask address, p.epollSet fd = some (mask, address) →
    ∃ ch, objects address = some ch ∧ ch.fd = fd ∧ ch.index = .kAdded
  marked : ∀ address ch, objects address = some ch →
    (ch.addedToLoop = true ↔ ch.index ≠ .kNew)

/-- What the registration of a channel does not depend on is blanked out. -/
def core (ch : Channel) : Channel := { ch with revents := 0, tied := false, eventHandling := false }

/-- The same channels, but for events reported, ties and callbacks begun. -/
def Alike (before after : Nat → Option Channel) : Prop :=
  ∀ address, (after address).map core = (before address).map core

variable {objects after : Nat → Option Channel} {address : Nat}

theorem Alike.refl (objects : Nat → Option Channel) : Alike objects objects := fun _ => rfl

theorem Alike.trans {later : Nat → Option Channel} (first : Alike objects after)
    (second : Alike after later) : Alike objects later :=
  fun address => (second address).trans (first address)

theorem Alike.symm (alike : Alike objects after) : Alike after objects :=
  fun address => (alike address).symm

/-- A channel that differs from its predecessor in what `core` blanks out. -/
theorem alike_update {revised : Channel} (present : objects address = some ch)
    (same : core revised = core ch) :
    Alike objects (Function.update objects address (some revised)) := by
  intro other
  by_cases here : other = address
  · subst here
    simp [present, same]
  · simp [here]

theorem Alike.found {revised : Channel} (alike : Alike objects after)
    (present : after address = some revised) :
    ∃ ch, objects address = some ch ∧ core revised = core ch := by
  have same := alike address
  rw [present, Option.map_some] at same
  obtain ⟨ch, before, equal⟩ := Option.map_eq_some_iff.mp same.symm
  exact ⟨ch, before, equal.symm⟩

theorem core_eq {revised : Channel} (same : core revised = core ch) :
    revised.address = ch.address ∧ revised.fd = ch.fd ∧ revised.index = ch.index ∧
      revised.addedToLoop = ch.addedToLoop ∧ revised.events = ch.events := by
  simp only [core, Channel.mk.injEq] at same
  exact ⟨same.1, same.2.1, same.2.2.2.2.1, same.2.2.2.2.2.2.2, same.2.2.1⟩

theorem Registry.alike (registry : Registry objects p) (alike : Alike objects after) :
    Registry after p := by
  refine ⟨?_, ?_, ?_, ?_, ?_⟩
  · intro address revised present
    obtain ⟨ch, before, same⟩ := alike.found present
    rw [(core_eq same).1]
    exact registry.addressed address ch before
  · intro address revised present known
    obtain ⟨ch, before, same⟩ := alike.found present
    obtain ⟨_, fd, index, _⟩ := core_eq same
    rw [fd]
    exact registry.entered address ch before (index ▸ known)
  · intro fd address entry
    obtain ⟨ch, before, at_fd, known⟩ := registry.known fd address entry
    obtain ⟨revised, present, same⟩ := alike.symm.found before
    obtain ⟨_, same_fd, index, _⟩ := core_eq same
    exact ⟨revised, present, same_fd.symm.trans at_fd, index ▸ known⟩
  · intro fd mask address entry
    obtain ⟨ch, before, at_fd, added⟩ := registry.watched fd mask address entry
    obtain ⟨revised, present, same⟩ := alike.symm.found before
    obtain ⟨_, same_fd, index, _⟩ := core_eq same
    exact ⟨revised, present, same_fd.symm.trans at_fd, index ▸ added⟩
  · intro address revised present
    obtain ⟨ch, before, same⟩ := alike.found present
    obtain ⟨_, _, index, marked, _⟩ := core_eq same
    rw [index, marked]
    exact registry.marked address ch before

theorem Registry.construct (registry : Registry objects p) (unused : objects address = none)
    (fd : Nat) :
    Registry (Function.update objects address (some (Channel.new address fd))) p := by
  have others : ∀ other ch, objects other = some ch →
      Function.update objects address (some (Channel.new address fd)) other = some ch := by
    intro other ch present
    have distinct : other ≠ address := by
      rintro rfl
      rw [unused] at present
      cases present
    rw [Function.update_of_ne distinct, present]
  refine ⟨?_, ?_, ?_, ?_, ?_⟩
  · intro other ch present
    by_cases here : other = address
    · subst here
      rw [Function.update_self] at present
      cases present
      rfl
    · rw [Function.update_of_ne here] at present
      exact registry.addressed other ch present
  · intro other ch present known
    by_cases here : other = address
    · subst here
      rw [Function.update_self] at present
      cases present
      exact absurd rfl known
    · rw [Function.update_of_ne here] at present
      exact registry.entered other ch present known
  · intro fd other entry
    obtain ⟨ch, present, rest⟩ := registry.known fd other entry
    exact ⟨ch, others other ch present, rest⟩
  · intro fd mask other entry
    obtain ⟨ch, present, rest⟩ := registry.watched fd mask other entry
    exact ⟨ch, others other ch present, rest⟩
  · intro other ch present
    by_cases here : other = address
    · subst here
      rw [Function.update_self] at present
      cases present
      simp [Channel.new]
    · rw [Function.update_of_ne here] at present
      exact registry.marked other ch present

/-- The poller knows at most one channel at an fd. -/
theorem Registry.unique (registry : Registry objects p) {other : Nat} {ch₁ ch₂ : Channel}
    (first : objects address = some ch₁) (second : objects other = some ch₂)
    (known₁ : ch₁.index ≠ .kNew) (known₂ : ch₂.index ≠ .kNew) (same : ch₁.fd = ch₂.fd) :
    address = other := by
  have entry := registry.entered address ch₁ first known₁
  rw [same, registry.entered other ch₂ second known₂] at entry
  exact (Option.some.inj entry).symm

/-- A channel that is not in `kNew` is found in `channels_`. -/
theorem Registry.has (registry : Registry objects p) (found : objects address = some ch)
    (known : ch.index ≠ .kNew) : p.hasChannel ch = true := by
  rw [EpollPoller.hasChannel, registry.entered address ch found known,
    registry.addressed address ch found]
  exact beq_self_eq_true _

/-- A call of a channel that has its fd to itself, and touches the poller there only. -/
theorem Registry.replace {q : EpollPoller} {revised : Channel} (registry : Registry objects p)
    (present : objects address = some ch) (same_address : revised.address = ch.address)
    (same_fd : revised.fd = ch.fd) (beside : Channel.SameBeside ch.fd p q)
    (alone : ∀ other, p.channels ch.fd = some other → other = address)
    (channels : q.channels ch.fd = if revised.index = .kNew then none else some address)
    (set : ∀ mask other, q.epollSet ch.fd = some (mask, other) →
      other = address ∧ revised.index = .kAdded)
    (marked : revised.addedToLoop = true ↔ revised.index ≠ .kNew) :
    Registry (Function.update objects address (some revised)) q := by
  -- a registered channel other than this one has another fd
  have apart : ∀ other channel, other ≠ address → objects other = some channel →
      channel.index ≠ .kNew → channel.fd ≠ ch.fd := by
    intro other channel distinct found known same
    have entry := registry.entered other channel found known
    rw [same] at entry
    exact distinct (alone other entry)
  refine ⟨?_, ?_, ?_, ?_, ?_⟩
  · intro other channel found
    by_cases here : other = address
    · subst here
      rw [Function.update_self] at found
      cases found
      exact same_address.trans (registry.addressed other ch present)
    · rw [Function.update_of_ne here] at found
      exact registry.addressed other channel found
  · intro other channel found known
    by_cases here : other = address
    · subst here
      rw [Function.update_self] at found
      cases found
      rw [same_fd, channels, if_neg known]
    · rw [Function.update_of_ne here] at found
      rw [(beside _ (apart other channel here found known)).1]
      exact registry.entered other channel found known
  · intro fd other entry
    by_cases at_fd : fd = ch.fd
    · subst at_fd
      rw [channels] at entry
      split at entry
      · cases entry
      next known =>
        cases entry
        exact ⟨revised, Function.update_self _ _ _, same_fd, known⟩
    · rw [(beside fd at_fd).1] at entry
      obtain ⟨channel, found, its_fd, known⟩ := registry.known fd other entry
      have distinct : other ≠ address := by
        rintro rfl
        rw [present] at found
        cases found
        exact at_fd its_fd.symm
      exact ⟨channel, by rw [Function.update_of_ne distinct, found], its_fd, known⟩
  · intro fd mask other entry
    by_cases at_fd : fd = ch.fd
    · subst at_fd
      obtain ⟨rfl, added⟩ := set mask other entry
      exact ⟨revised, Function.update_self _ _ _, same_fd, added⟩
    · rw [(beside fd at_fd).2] at entry
      obtain ⟨channel, found, its_fd, added⟩ := registry.watched fd mask other entry
      have distinct : other ≠ address := by
        rintro rfl
        rw [present] at found
        cases found
        exact at_fd its_fd.symm
      exact ⟨channel, by rw [Function.update_of_ne distinct, found], its_fd, added⟩
  · intro other channel found
    by_cases here : other = address
    · subst here
      rw [Function.update_self] at found
      cases found
      exact marked
    · rw [Function.update_of_ne here] at found
      exact registry.marked other channel found

/-- An update registers the channel under its own fd. -/
theorem Registry.update {events : EventMask} {out : Channel × EpollPoller}
    (registry : Registry objects p) (present : objects address = some ch)
    (success : ch.setEvents events p = .ok out) :
    Registry (Function.update objects address (some out.1)) out.2 := by
  obtain ⟨before, channels, set⟩ := setEvents_effect success
  have shape := Channel.setEvents_ok success
  have placed : out.1.index ≠ .kNew := by
    rw [shape]
    simp only [Channel.updated]
    split <;> simp
  have here := registry.addressed address ch present
  refine registry.replace present (by rw [shape]; rfl) (by rw [shape]; rfl)
    (Channel.setEvents_beside success) ?_ ?_ ?_ ?_
  · intro other entry
    rw [before, here] at entry
    split at entry
    · cases entry
    · exact (Option.some.inj entry).symm
  · rw [channels, Function.update_self, if_neg placed, here]
  · intro mask other entry
    rw [set] at entry
    split at entry
    next added =>
      cases entry
      exact ⟨here, added⟩
    · cases entry
  · have added : out.1.addedToLoop = true := by
      rw [shape]
      rfl
    simp [added, placed]

/-- Where the kernel has a channel at the fd of a registered one, it is that one. -/
theorem Registry.kernel (registry : Registry objects p) (present : objects address = some ch)
    (known : ch.index ≠ .kNew) {mask : EventMask} {other : Nat}
    (entry : p.epollSet ch.fd = some (mask, other)) : other = address ∧ ch.index = .kAdded := by
  obtain ⟨channel, found, same, added⟩ := registry.watched ch.fd mask other entry
  have equal := registry.unique found present (by simp [added]) known same
  subst equal
  rw [present] at found
  cases found
  exact ⟨rfl, added⟩

theorem Registry.remove {inUse : Bool} {out : Channel × EpollPoller}
    (registry : Registry objects p) (present : objects address = some ch)
    (success : ch.remove inUse p = .ok out) :
    Registry (Function.update objects address (some out.1)) out.2 := by
  obtain ⟨before, channels, set⟩ := remove_effect success
  obtain ⟨shape, _, known, _⟩ := Channel.remove_ok success
  have here := registry.addressed address ch present
  refine registry.replace present (by rw [shape]; rfl) (by rw [shape]; rfl)
    (Channel.remove_beside success) ?_ ?_ ?_ (by simp [shape, Channel.removed])
  · intro other entry
    rw [before, here] at entry
    exact (Option.some.inj entry).symm
  · rw [channels, Function.update_self, shape]
    exact (if_pos rfl).symm
  · intro mask other entry
    rw [set] at entry
    split at entry
    · cases entry
    next other_index => exact absurd (registry.kernel present known entry).2 other_index

theorem Registry.destroy (registry : Registry objects p) (present : objects address = some ch)
    (unknown : ch.index = .kNew) : Registry (Function.update objects address none) p := by
  have others : ∀ other channel, channel.index ≠ .kNew → objects other = some channel →
      Function.update objects address none other = some channel := by
    intro other channel known found
    have distinct : other ≠ address := by
      rintro rfl
      rw [present] at found
      cases found
      exact known unknown
    rw [Function.update_of_ne distinct, found]
  have earlier : ∀ other channel, Function.update objects address none other = some channel →
      objects other = some channel := by
    intro other channel found
    by_cases here : other = address
    · subst here
      rw [Function.update_self] at found
      cases found
    · rwa [Function.update_of_ne here] at found
  refine ⟨?_, ?_, ?_, ?_, ?_⟩
  · intro other channel found
    exact registry.addressed other channel (earlier other channel found)
  · intro other channel found
    exact registry.entered other channel (earlier other channel found)
  · intro fd other entry
    obtain ⟨channel, found, at_fd, known⟩ := registry.known fd other entry
    exact ⟨channel, others other channel known found, at_fd, known⟩
  · intro fd mask other entry
    obtain ⟨channel, found, at_fd, added⟩ := registry.watched fd mask other entry
    exact ⟨channel, others other channel (by simp [added]) found, at_fd, added⟩
  · intro other channel found
    exact registry.marked other channel (earlier other channel found)

/-- Closing a descriptor takes it out of the epoll set, and not out of `channels_`. -/
theorem Registry.closeFd (registry : Registry objects p) (fd : Nat) :
    Registry objects { p with epollSet := Function.update p.epollSet fd none } := by
  refine ⟨registry.addressed, registry.entered, registry.known, ?_, registry.marked⟩
  intro other mask address entry
  by_cases here : other = fd
  · subst here
    simp at entry
  · simp only [Function.update_of_ne here] at entry
    exact registry.watched other mask address entry

end Starry.Source.PollerRegistry
