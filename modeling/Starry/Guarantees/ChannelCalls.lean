import Starry.Guarantees.ChannelDispatch

/-!
# Calls of channels

Which calls of channels go through, when descriptors are closed only while no channel is registered
for them. The kernel then has of every registered channel what the channel says (`Faithful`), so
`epoll_ctl` never fails, and the assertions come down to four rules (`Accepted`). The rule for
`remove` goes by address: after a channel that was active has gone, it bars a new one at its
address for the rest of the round.
-/
namespace Starry.Guarantees.ChannelCalls

open Starry.Foundation
open Starry.Source
open Starry.Source.ChannelLoop
open Starry.Source.PollerRegistry
open Starry.Guarantees.ChannelDispatch

variable {ch : Channel} {address : Nat} {l l' : ChannelLoop}

/-- A descriptor is closed only when no channel is registered for it. -/
def Unregistered (l : ChannelLoop) : Act → Prop
  | .closeFd fd => l.poller.channels fd = none
  | _ => True

/-- The kernel has of every registered channel what the channel says. -/
structure Faithful (l : ChannelLoop) : Prop where
  idle : ∀ address ch, l.objects address = some ch → ch.index = .kNew → ch.events = 0#32
  agrees : ∀ address ch, l.objects address = some ch → ch.index ≠ .kNew → ch.Agrees l.poller

/-- What is asked of a call: an update that enters a channel finds its fd free; a channel that is
removed has no interest, is registered, and is not active unless it is the one being handled; one
that is destroyed is in no callback and not registered. -/
def Accepted (l : ChannelLoop) : Act → Prop
  | .update address _ => ∀ ch, l.objects address = some ch → ch.index = .kNew →
      l.poller.channels ch.fd = none
  | .remove address => ∀ ch, l.objects address = some ch →
      ch.events = 0#32 ∧ ch.addedToLoop = true ∧
        (l.eventHandling = true → l.currentActiveChannel = some address ∨ address ∉ l.activeChannels)
  | .destroy address _ => ∀ ch, l.objects address = some ch →
      ch.eventHandling = false ∧ ch.addedToLoop = false
  | _ => True

theorem inUse_iff : l.inUse address = false ↔
    (l.eventHandling = true → l.currentActiveChannel = some address ∨ address ∉ l.activeChannels) := by
  cases on : l.eventHandling
  · simp [ChannelLoop.inUse, on]
  · simp only [ChannelLoop.inUse, on, Bool.true_and, Bool.not_eq_false', Bool.or_eq_true,
      decide_eq_true_eq, forall_const]

/-- A new channel whose fd is free agrees with the poller. -/
theorem Faithful.fresh (faithful : Faithful l) (registry : Registry l.objects l.poller)
    (found : l.objects address = some ch) (new : ch.index = .kNew)
    (free : l.poller.channels ch.fd = none) : ch.Agrees l.poller := by
  have unwatched : l.poller.epollSet ch.fd = none := by
    cases entry : l.poller.epollSet ch.fd with
    | none => rfl
    | some interest =>
      obtain ⟨mask, other⟩ := interest
      obtain ⟨channel, present, same, added⟩ := registry.watched ch.fd mask other entry
      have entered := registry.entered other channel present (by simp [added])
      rw [same, free] at entered
      cases entered
  simp only [Channel.Agrees, new]
  exact ⟨free, unwatched, faithful.idle address ch found new⟩

theorem Faithful.before_update (faithful : Faithful l) (registry : Registry l.objects l.poller)
    (found : l.objects address = some ch)
    (free : ch.index = .kNew → l.poller.channels ch.fd = none) : ch.Agrees l.poller := by
  by_cases new : ch.index = .kNew
  · exact faithful.fresh registry found new (free new)
  · exact faithful.agrees address ch found new

/-- `updateChannel` fails for a channel whose fd another one has. -/
theorem update_accepted (sound : Sound l) (faithful : Faithful l) {call : ChannelCall}
    (present : l.objects address ≠ none) :
    (∃ l', l.updateChannel address call = .ok l') ↔ Accepted l (.update address call) := by
  obtain ⟨ch, found⟩ := Option.ne_none_iff_exists'.mp present
  constructor
  · rintro ⟨l', success⟩ other same new
    rw [found] at same
    cases same
    obtain ⟨_, here, success⟩ := bind_eq_ok success
    rw [object_eq found] at here
    cases here
    obtain ⟨out, updated, _⟩ := bind_eq_ok success
    rw [(setEvents_effect updated).1, if_pos new]
  · intro accepted
    have agrees := faithful.before_update sound.registry found (accepted ch found)
    obtain ⟨out, updated, _⟩ := Channel.setEvents_yields agrees (call.events ch.events)
    unfold ChannelLoop.updateChannel
    simp only [object_eq found, ok_bind, updated]
    exact ⟨_, rfl⟩

/-- `removeChannel` fails for a channel that still has events, is not registered or is in use. -/
theorem remove_accepted (sound : Sound l) (faithful : Faithful l) (present : l.objects address ≠ none) :
    (∃ l', l.removeChannel address = .ok l') ↔ Accepted l (.remove address) := by
  obtain ⟨ch, found⟩ := Option.ne_none_iff_exists'.mp present
  constructor
  · rintro ⟨l', success⟩ other same
    rw [found] at same
    cases same
    obtain ⟨_, here, success⟩ := bind_eq_ok success
    rw [object_eq found] at here
    cases here
    obtain ⟨out, removed, _⟩ := bind_eq_ok success
    obtain ⟨_, idle, known, free⟩ := Channel.remove_ok removed
    exact ⟨idle, (sound.registry.marked address ch found).mpr known, inUse_iff.mp free⟩
  · intro accepted
    obtain ⟨idle, marked, spared⟩ := accepted ch found
    have known := (sound.registry.marked address ch found).mp marked
    have free := inUse_iff.mpr spared
    obtain ⟨out, removed, _⟩ :=
      Channel.remove_yields (faithful.agrees address ch found known) idle known
    unfold ChannelLoop.removeChannel
    simp only [object_eq found, ok_bind, free, removed]
    exact ⟨_, rfl⟩

/-- `~Channel` fails for a channel that is registered or handles an event. -/
theorem destroy_accepted (sound : Sound l) {inLoopThread : Bool} (present : l.objects address ≠ none) :
    (∃ l', l.destroyChannel address inLoopThread = .ok l') ↔
      Accepted l (.destroy address inLoopThread) := by
  obtain ⟨ch, found⟩ := Option.ne_none_iff_exists'.mp present
  constructor
  · rintro ⟨l', success⟩ other same
    rw [found] at same
    cases same
    obtain ⟨_, here, success⟩ := bind_eq_ok success
    rw [object_eq found] at here
    cases here
    obtain ⟨_, passed, _⟩ := bind_eq_ok success
    exact destroy_ok passed
  · intro accepted
    obtain ⟨finished, unmarked⟩ := accepted ch found
    have missing : l.poller.hasChannel ch = false := by
      rw [Bool.eq_false_iff]
      intro has
      have entry : l.poller.channels ch.fd = some address := by
        rw [← sound.registry.addressed address ch found]
        exact beq_iff_eq.mp has
      obtain ⟨channel, same, _, known⟩ := sound.registry.known ch.fd address entry
      rw [found] at same
      cases same
      rw [(sound.registry.marked address ch found).mpr known] at unmarked
      cases unmarked
    unfold ChannelLoop.destroyChannel Channel.destroy
    simp only [object_eq found, ok_bind, cassert_of finished, cassert_of unmarked, cassert_of missing]
    refine ⟨l.setObject address none, ?_⟩
    cases inLoopThread <;> rfl

/-- A call at one address and one fd leaves the others faithful. -/
theorem Faithful.replace {q : EpollPoller} {revised : Channel} (faithful : Faithful l)
    (registry : Registry l.objects l.poller) (beside : Channel.SameBeside ch.fd l.poller q)
    (alone : ∀ other, l.poller.channels ch.fd = some other → other = address)
    (idle : revised.index = .kNew → revised.events = 0#32)
    (agrees : revised.index ≠ .kNew → revised.Agrees q) :
    Faithful { l with objects := Function.update l.objects address (some revised), poller := q } := by
  constructor
  · intro other channel found new
    by_cases here : other = address
    · subst here
      simp only [Function.update_self, Option.some.injEq] at found
      subst found
      exact idle new
    · simp only [Function.update_of_ne here] at found
      exact faithful.idle other channel found new
  · intro other channel found known
    by_cases here : other = address
    · subst here
      simp only [Function.update_self, Option.some.injEq] at found
      subst found
      exact agrees known
    · simp only [Function.update_of_ne here] at found
      refine (faithful.agrees other channel found known).beside beside ?_
      intro same
      have entry := registry.entered other channel found known
      rw [same] at entry
      exact here (alone other entry)

theorem update_faithful (sound : Sound l) (faithful : Faithful l) {call : ChannelCall}
    (success : l.updateChannel address call = .ok l') : Faithful l' := by
  obtain ⟨ch, found, success⟩ := bind_eq_ok success
  have found := object_ok found
  obtain ⟨out, updated, success⟩ := bind_eq_ok success
  cases success
  obtain ⟨before, _, _⟩ := setEvents_effect updated
  have shape := Channel.setEvents_ok updated
  have agrees := faithful.before_update sound.registry found (fun new => by rw [before, if_pos new])
  have placed : out.1.index ≠ .kNew := by
    rw [shape]
    simp only [Channel.updated]
    split <;> simp
  refine faithful.replace sound.registry (Channel.setEvents_beside updated) ?_
    (fun new => absurd new placed) ?_
  · intro other entry
    rw [before, sound.registry.addressed address ch found] at entry
    split at entry
    · cases entry
    · exact (Option.some.inj entry).symm
  · intro _
    exact ((Channel.setEvents_yields agrees _).of_ok updated).1

theorem remove_faithful (sound : Sound l) (faithful : Faithful l)
    (success : l.removeChannel address = .ok l') : Faithful l' := by
  obtain ⟨ch, found, success⟩ := bind_eq_ok success
  have found := object_ok found
  obtain ⟨out, removed, success⟩ := bind_eq_ok success
  cases success
  obtain ⟨before, _, _⟩ := remove_effect removed
  obtain ⟨shape, idle, _, _⟩ := Channel.remove_ok removed
  refine faithful.replace sound.registry (Channel.remove_beside removed) ?_ ?_ ?_
  · intro other entry
    rw [before, sound.registry.addressed address ch found] at entry
    exact (Option.some.inj entry).symm
  · intro _
    rw [shape]
    exact idle
  · intro known
    rw [shape] at known
    exact absurd rfl known

theorem Faithful.alike (faithful : Faithful l)
    (alike : Alike l.objects l'.objects) (same : l'.poller = l.poller) : Faithful l' := by
  constructor
  · intro address revised present new
    obtain ⟨ch, before, equal⟩ := alike.found present
    obtain ⟨_, _, index, _, events⟩ := core_eq equal
    rw [events]
    exact faithful.idle address ch before (index ▸ new)
  · intro address revised present known
    obtain ⟨ch, before, equal⟩ := alike.found present
    obtain ⟨pointer, fd, index, _, events⟩ := core_eq equal
    have agrees := faithful.agrees address ch before (index ▸ known)
    unfold Channel.Agrees at agrees ⊢
    rw [same, pointer, fd, index, events]
    exact agrees

theorem fill_alike {events : List EpollEvent} (success : l.fillActiveChannels events = .ok l') :
    Alike l.objects l'.objects ∧ l'.poller = l.poller := by
  induction events generalizing l with
  | nil =>
    cases success
    exact ⟨.refl _, rfl⟩
  | cons event rest ih =>
    obtain ⟨ch, found, success⟩ := bind_eq_ok success
    have alike := alike_update (object_ok found)
      (show core { ch with revents := event.events } = core ch from rfl)
    obtain ⟨later, poller⟩ := ih success
    exact ⟨alike.trans later, poller⟩

theorem loop_alike {a : Act} (loop : ofLoop a = true) (success : l.step a = .ok l') :
    Alike l.objects l'.objects ∧ l'.poller = l.poller := by
  cases a with
  | enter | doPendingFunctors | finish =>
    cases success
    exact ⟨.refl _, rfl⟩
  | pollReturns events =>
    obtain ⟨_, _, success⟩ := bind_eq_ok success
    obtain ⟨filled, filling, success⟩ := bind_eq_ok success
    cases success
    have alike := fill_alike filling
    exact alike
  | handleEvent locked =>
    simp only [ChannelLoop.step, ChannelLoop.handleEvent] at success
    split at success
    · cases success
      exact ⟨.refl _, rfl⟩
    · obtain ⟨ch, found, success⟩ := bind_eq_ok success
      split at success
      · cases success
        exact ⟨.refl _, rfl⟩
      · cases success
        exact ⟨alike_update (object_ok found) rfl, rfl⟩
  | callbackReturns =>
    simp only [ChannelLoop.step, ChannelLoop.callbackReturns] at success
    split at success
    · obtain ⟨_, _, success⟩ := bind_eq_ok success
      cases success
      exact ⟨.refl _, rfl⟩
    · cases success
      exact ⟨.refl _, rfl⟩
  | leave =>
    simp only [ChannelLoop.step, ChannelLoop.leave] at success
    split at success
    · obtain ⟨ch, found, success⟩ := bind_eq_ok success
      cases success
      exact ⟨alike_update (object_ok found) rfl, rfl⟩
    · cases success
      exact ⟨.refl _, rfl⟩
  | setQuit | construct | tie | update | remove | destroy | closeFd => cases loop

/-- Every step keeps the channels and the poller agreed, if no registered descriptor is closed. -/
theorem step_faithful {a : Act} (sound : Sound l) (faithful : Faithful l) (enabled : l.Enabled a)
    (unregistered : Unregistered l a) (success : l.step a = .ok l') : Faithful l' := by
  cases a with
  | enter | pollReturns | handleEvent | callbackReturns | leave | doPendingFunctors | finish =>
    obtain ⟨alike, same⟩ := loop_alike rfl success
    exact faithful.alike alike same
  | setQuit =>
    cases success
    exact ⟨faithful.idle, faithful.agrees⟩
  | construct address fd =>
    cases success
    constructor
    · intro other channel found new
      by_cases here : other = address
      · subst here
        simp only [ChannelLoop.setObject, Function.update_self, Option.some.injEq] at found
        subst found
        rfl
      · simp only [ChannelLoop.setObject, Function.update_of_ne here] at found
        exact faithful.idle other channel found new
    · intro other channel found known
      by_cases here : other = address
      · subst here
        simp only [ChannelLoop.setObject, Function.update_self, Option.some.injEq] at found
        subst found
        exact absurd rfl known
      · simp only [ChannelLoop.setObject, Function.update_of_ne here] at found
        exact faithful.agrees other channel found known
  | tie address =>
    obtain ⟨ch, found, success⟩ := bind_eq_ok success
    cases success
    exact faithful.alike (alike_update (object_ok found) rfl) rfl
  | update address call => exact update_faithful sound faithful success
  | remove address => exact remove_faithful sound faithful success
  | destroy address inLoopThread =>
    obtain ⟨ch, found, success⟩ := bind_eq_ok success
    obtain ⟨_, _, success⟩ := bind_eq_ok success
    cases success
    have earlier : ∀ other channel, Function.update l.objects address none other = some channel →
        l.objects other = some channel := by
      intro other channel present
      by_cases here : other = address
      · subst here
        rw [Function.update_self] at present
        cases present
      · rwa [Function.update_of_ne here] at present
    exact ⟨fun other channel present => faithful.idle other channel (earlier other channel present),
      fun other channel present => faithful.agrees other channel (earlier other channel present)⟩
  | closeFd fd =>
    cases success
    refine ⟨faithful.idle, fun address ch found known => ?_⟩
    have entered := sound.registry.entered address ch found known
    refine @Channel.Agrees.beside ch l.poller fd _ (faithful.agrees address ch found known) ?_ ?_
    · exact fun other distinct => ⟨rfl, Function.update_of_ne distinct _ _⟩
    · rintro rfl
      rw [unregistered] at entered
      cases entered

/-- Whether a step is taken can be told from the channel, the poller and the round. -/
theorem accepted_iff {a : Act} (sound : Sound l) (faithful : Faithful l) (enabled : l.Enabled a) :
    (∃ l', l.step a = .ok l') ↔ Accepted l a := by
  cases a with
  | update address call => exact update_accepted sound faithful enabled.2
  | remove address => exact remove_accepted sound faithful enabled.2
  | destroy address inLoopThread => exact destroy_accepted sound enabled.2
  | enter | pollReturns | handleEvent | callbackReturns | leave | doPendingFunctors | finish =>
    obtain ⟨l', stepped, _⟩ := loop_yields sound rfl enabled
    exact ⟨fun _ => trivial, fun _ => ⟨l', stepped⟩⟩
  | setQuit | construct | closeFd => exact ⟨fun _ => trivial, fun _ => ⟨_, rfl⟩⟩
  | tie address =>
    obtain ⟨ch, found⟩ := Option.ne_none_iff_exists'.mp enabled.2
    refine ⟨fun _ => trivial, fun _ => ?_⟩
    simp only [ChannelLoop.step, ChannelLoop.tie, object_eq found, ok_bind]
    exact ⟨_, rfl⟩

instance (l : ChannelLoop) (a : Act) : Decidable (Unregistered l a) := by
  cases a with
  | closeFd fd => exact inferInstanceAs (Decidable (l.poller.channels fd = none))
  | _ => exact isTrue trivial

/-- In every run in which no descriptor of a registered channel is closed, an enabled step succeeds
exactly when it is accepted: no other assertion fails and no `epoll_ctl`. -/
theorem steps_accepted_iff {actions : List Act} {a : Act}
    (run : (machine.restrict Unregistered).Run .new actions l) (enabled : machine.enabled l a) :
    (∃ l', machine.step l a = .ok l') ↔ Accepted l a := by
  have inv : Sound l ∧ Faithful l :=
    @Machine.Run.invariant _ _ _ (machine.restrict Unregistered) (fun l => Sound l ∧ Faithful l) _ _ _
      (fun _ _ _ both allowed stepped => ⟨step_sound both.1 allowed.1 stepped,
        step_faithful both.1 both.2 allowed.1 allowed.2 stepped⟩)
      ⟨new_sound, by rintro _ _ ⟨⟩, by rintro _ _ ⟨⟩⟩ run
  exact accepted_iff inv.1 inv.2 enabled

/-- `activeChannels_` still holds the address of a channel that has been handled and destroyed. The
new channel there, which was never reported, cannot be removed in the same round. -/
def reusedAddress : List Act :=
  [.construct 1 5, .update 1 .enableReading, .construct 2 6, .update 2 .enableWriting, .enter,
    .pollReturns [⟨5, EPOLLIN, 1⟩, ⟨6, EPOLLOUT, 2⟩], .handleEvent true, .update 1 .disableAll,
    .remove 1, .callbackReturns, .leave, .handleEvent true, .destroy 1 true, .closeFd 5,
    .construct 1 7, .update 1 .enableReading, .update 1 .disableReading]

/-- The removal that is refused is of a channel that is not active itself. -/
theorem steps_accepted_iff_reused : ∃ l,
    (machine.restrict Unregistered).Run .new reusedAddress l ∧ machine.enabled l (.remove 1) ∧
    ¬∃ l', machine.step l (.remove 1) = .ok l' := by
  obtain ⟨l, run, holds⟩ := (machine.restrict Unregistered).exists_run_of_exec .new reusedAddress
    (fun l => decide (machine.enabled l (.remove 1) ∧ l.eventHandling = true ∧
      l.currentActiveChannel = some 2 ∧ 1 ∈ l.activeChannels)) (by decide +kernel)
  obtain ⟨enabled, handling, current, active⟩ := of_decide_eq_true holds
  refine ⟨l, run, enabled, ?_⟩
  rw [steps_accepted_iff run enabled]
  intro accepted
  obtain ⟨ch, found⟩ := Option.ne_none_iff_exists'.mp enabled.2
  rcases (accepted ch found).2.2 handling with itself | passed
  · rw [current] at itself
    cases itself
  · exact passed active

end Starry.Guarantees.ChannelCalls
