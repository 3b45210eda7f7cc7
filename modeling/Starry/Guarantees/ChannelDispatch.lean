import Starry.Source.ChannelLoop
import Starry.Source.PollerRegistry

/-!
# Events and the lifetime of channels

`epoll_wait` hands back pointers, and `activeChannels_` keeps them for a whole round of `loop()`,
while callbacks construct, remove and destroy channels as they like. What keeps the pointers good
are assertions: `removeChannel` refuses an active channel other than the one being handled, and
`~Channel` one that is registered or in its own callback.
-/
namespace Starry.Guarantees.ChannelDispatch

open Starry.Foundation
open Starry.Source
open Starry.Source.ChannelLoop
open Starry.Source.PollerRegistry

variable {ch : Channel} {p : EpollPoller} {address : Nat}

/-! ## Rounds of the loop -/

/-- The channels still to be handled in this round are registered, and none of them twice or the
one being handled. -/
structure Rounds (l : ChannelLoop) : Prop where
  registered : ∀ address ∈ l.upcoming, ∃ ch, l.objects address = some ch ∧ ch.index ≠ .kNew
  distinct : l.upcoming.Nodup
  current : ∀ address, l.currentActiveChannel = some address → address ∉ l.upcoming
  active : ∀ address ∈ l.upcoming, address ∈ l.activeChannels
  during : l.upcoming ≠ [] → l.eventHandling = true
  handling : ∀ callbacks, l.phase = .handling callbacks →
    ∃ address ch, l.currentActiveChannel = some address ∧ l.objects address = some ch ∧
      ch.eventHandling = true
  between : l.phase = .outside ∨ l.phase = .polling ∨ l.phase = .calling →
    l.upcoming = [] ∧ l.currentActiveChannel = none

structure Sound (l : ChannelLoop) : Prop where
  registry : Registry l.objects l.poller
  rounds : Rounds l
  room : 0 < l.eventListSize ∧ l.eventListSize < 2 * fdLimit

variable {l l' : ChannelLoop}

theorem new_sound : Sound ChannelLoop.new := by
  refine ⟨⟨?_, ?_, ?_, ?_, ?_⟩, ⟨?_, ?_, ?_, ?_, ?_, ?_, ?_⟩, ?_⟩
  · rintro _ _ ⟨⟩
  · rintro _ _ ⟨⟩
  · rintro _ _ ⟨⟩
  · rintro _ _ _ ⟨⟩
  · rintro _ _ ⟨⟩
  · rintro _ ⟨⟩
  · exact List.nodup_nil
  · rintro _ ⟨⟩
  · rintro _ ⟨⟩
  · exact fun some => absurd rfl some
  · rintro _ ⟨⟩
  · exact fun _ => ⟨rfl, rfl⟩
  · decide

theorem object_ok {file : SourceFile} {line : Nat} (success : l.object address file line = .ok ch) :
    l.objects address = some ch := by
  unfold ChannelLoop.object at success
  split at success
  next found =>
    cases success
    exact found
  · cases success

theorem object_eq {file : SourceFile} {line : Nat} (present : l.objects address = some ch) :
    l.object address file line = .ok ch := by
  rw [ChannelLoop.object, present]

/-- The steps of owners that touch one channel, which keeps its registration or is not awaited. -/
theorem Rounds.owner (rounds : Rounds l) {objects : Nat → Option Channel} {poller : EpollPoller}
    (others : ∀ other, other ≠ address → objects other = l.objects other)
    (kept : address ∈ l.upcoming → ∃ ch, objects address = some ch ∧ ch.index ≠ .kNew)
    (running : ∀ ch, l.objects address = some ch → ch.eventHandling = true →
      ∃ ch', objects address = some ch' ∧ ch'.eventHandling = true) :
    Rounds { l with objects := objects, poller := poller } := by
  refine ⟨?_, rounds.distinct, rounds.current, rounds.active, rounds.during, ?_, rounds.between⟩
  · intro other member
    by_cases here : other = address
    · subst here
      exact kept member
    · dsimp only
      rw [others other here]
      exact rounds.registered other member
  · intro callbacks phase
    obtain ⟨other, ch, current, present, begun⟩ := rounds.handling callbacks phase
    by_cases here : other = address
    · subst here
      obtain ⟨ch', after, still⟩ := running ch present begun
      exact ⟨other, ch', current, after, still⟩
    · exact ⟨other, ch, current, (others other here).trans present, begun⟩

/-- Only the state of channels has changed, so the round goes on with those that were active. -/
theorem Rounds.alike (rounds : Rounds l) {objects : Nat → Option Channel}
    (alike : Alike l.objects objects) :
    ∀ address ∈ l.upcoming, ∃ ch, objects address = some ch ∧ ch.index ≠ .kNew := by
  intro address member
  obtain ⟨ch, present, known⟩ := rounds.registered address member
  obtain ⟨revised, after, same⟩ := alike.symm.found present
  refine ⟨revised, after, ?_⟩
  rw [← (core_eq same).2.2.1]
  exact known

/-! ### Polling -/

/-- `fillActiveChannels` follows the pointers of the kernel to registered channels. -/
theorem fill_yields {events : List EpollEvent}
    (present : ∀ event ∈ events, ∃ ch, l.objects event.ptr = some ch) :
    Yields (l.fillActiveChannels events) fun out =>
      Alike l.objects out.objects ∧
      out = { l with
        objects := out.objects
        activeChannels := l.activeChannels ++ events.map EpollEvent.ptr } := by
  induction events generalizing l with
  | nil => exact .ok ⟨.refl _, by simp⟩
  | cons event rest ih =>
    obtain ⟨ch, found⟩ := present event (List.mem_cons_self ..)
    unfold ChannelLoop.fillActiveChannels
    rw [object_eq found]
    simp only [ok_bind]
    have alike := alike_update found (show core { ch with revents := event.events } = core ch from rfl)
    refine (@ih { l.setObject event.ptr (some { ch with revents := event.events }) with
      activeChannels := l.activeChannels ++ [event.ptr] } ?_).imp ?_
    · intro other member
      obtain ⟨channel, before⟩ := present other (List.mem_cons_of_mem _ member)
      obtain ⟨revised, after, _⟩ := alike.symm.found before
      exact ⟨revised, after⟩
    · rintro out ⟨later, shape⟩
      refine ⟨alike.trans later, ?_⟩
      rw [shape]
      simp [ChannelLoop.setObject]

/-- `poll` finds every channel that it reports, and doubles `events_` when it was full. -/
theorem poll_yields (sound : Sound l) {events : List EpollEvent} (reports : l.Reports events)
    (polling : l.phase = .polling) : Yields (l.poll events) Sound := by
  obtain ⟨distinct, watched, room, few⟩ := reports
  have reported : ∀ event ∈ events, ∃ ch, l.objects event.ptr = some ch ∧ ch.fd = event.fd ∧
      ch.index = .kAdded := by
    intro event member
    obtain ⟨⟨mask, address⟩, entry, same⟩ := Option.map_eq_some_iff.mp (watched event member)
    dsimp only at same
    subst same
    exact sound.registry.watched event.fd mask event.ptr entry
  obtain ⟨_, idle⟩ := sound.rounds.between (.inr (.inl polling))
  unfold ChannelLoop.poll
  apply yields_cassert room
  refine (@fill_yields { l with activeChannels := [] } events ?_).bind ?_
  · intro event member
    obtain ⟨ch, found, _⟩ := reported event member
    exact ⟨ch, found⟩
  rintro filled ⟨alike, shape⟩
  have pointers : filled.activeChannels = events.map EpollEvent.ptr := by
    rw [shape]
    simp
  have unchanged : filled.poller = l.poller ∧ filled.currentActiveChannel = none := by
    rw [shape]
    exact ⟨rfl, idle⟩
  refine .ok ⟨?_, ⟨?_, ?_, ?_, ?_, fun _ => rfl, ?_, ?_⟩, ?_⟩
  · dsimp only
    rw [unchanged.1]
    exact sound.registry.alike alike
  · intro address member
    dsimp only at member
    rw [pointers] at member
    obtain ⟨event, inside, rfl⟩ := List.mem_map.mp member
    obtain ⟨ch, found, _, added⟩ := reported event inside
    obtain ⟨revised, after, same⟩ := alike.symm.found found
    refine ⟨revised, after, ?_⟩
    rw [← (core_eq same).2.2.1, added]
    simp
  · dsimp only
    rw [pointers]
    refine List.Nodup.map_on ?_ distinct.of_map
    intro first inside second inside' same
    obtain ⟨ch, found, fd, _⟩ := reported first inside
    obtain ⟨ch', found', fd', _⟩ := reported second inside'
    rw [same, found'] at found
    cases found
    exact List.inj_on_of_nodup_map distinct inside inside' (fd.symm.trans fd')
  · dsimp only
    rw [unchanged.2]
    rintro _ ⟨⟩
  · exact fun address member => member
  · rintro _ ⟨⟩
  · rintro (outside | polling | calling)
    · cases outside
    · cases polling
    · cases calling
  · obtain ⟨positive, bound⟩ := sound.room
    dsimp only
    split
    · omega
    · omega

/-! ### Handling -/

/-- The next active channel exists, whatever the callbacks before it did. -/
theorem handleEvent_yields (sound : Sound l) (dispatching : l.phase = .dispatching)
    (some : l.upcoming ≠ []) (locked : Bool) : Yields (l.handleEvent locked) Sound := by
  obtain ⟨address, rest, upcoming⟩ := List.exists_cons_of_ne_nil some
  have rounds := sound.rounds
  have active := rounds.during some
  obtain ⟨ch, found, known⟩ := rounds.registered address (by simp [upcoming])
  have distinct := rounds.distinct
  rw [upcoming, List.nodup_cons] at distinct
  -- the rest of the round, whatever becomes of the channel itself
  have further : ∀ l' : ChannelLoop, Alike l.objects l'.objects → l'.upcoming = rest →
      l'.currentActiveChannel = .some address → l'.activeChannels = l.activeChannels →
      l'.eventHandling = true → l'.phase ≠ .outside ∧ l'.phase ≠ .polling ∧ l'.phase ≠ .calling →
      (∀ callbacks, l'.phase = .handling callbacks →
        ∃ ch, l'.objects address = .some ch ∧ ch.eventHandling = true) → Rounds l' := by
    intro l' alike left current same on phase begun
    refine ⟨?_, ?_, ?_, ?_, fun _ => on, ?_, ?_⟩
    · intro other member
      rw [left] at member
      exact rounds.alike alike other (by rw [upcoming]; exact List.mem_cons_of_mem _ member)
    · rw [left]
      exact distinct.2
    · rw [left, current]
      rintro _ ⟨⟩
      exact distinct.1
    · intro other member
      rw [left] at member
      rw [same]
      exact rounds.active other (by rw [upcoming]; exact List.mem_cons_of_mem _ member)
    · intro callbacks handling
      obtain ⟨ch, found, begun⟩ := begun callbacks handling
      exact ⟨address, ch, current, found, begun⟩
    · rintro (outside | polling | calling)
      · exact absurd outside phase.1
      · exact absurd polling phase.2.1
      · exact absurd calling phase.2.2
  unfold ChannelLoop.handleEvent
  rw [upcoming]
  simp only [object_eq found, ok_bind]
  split
  · refine .ok ⟨sound.registry, ?_, sound.room⟩
    refine further _ (.refl _) rfl rfl rfl active ?_ ?_
    · simp [dispatching]
    · simp [dispatching]
  · have alike := alike_update found (show core { ch with eventHandling := true } = core ch from rfl)
    refine .ok ⟨sound.registry.alike alike, ?_, sound.room⟩
    refine further _ alike rfl rfl rfl active (by simp) ?_
    intro _ _
    exact ⟨_, Function.update_self _ _ _, rfl⟩

/-- The channel whose callback ran has not been destroyed, as `~Channel` asserts. -/
theorem callbackReturns_yields (sound : Sound l) (running : l.inCallback = true) :
    Yields l.callbackReturns Sound := by
  obtain ⟨first, rest, phase⟩ : ∃ first rest, l.phase = .handling (first :: rest) := by
    unfold ChannelLoop.inCallback at running
    split at running
    next first rest phase => exact ⟨first, rest, phase⟩
    · cases running
  have rounds := sound.rounds
  obtain ⟨address, ch, current, found, begun⟩ := rounds.handling _ phase
  unfold ChannelLoop.callbackReturns
  rw [phase, current]
  simp only [object_eq found, ok_bind]
  refine .ok ⟨sound.registry, ⟨rounds.registered, rounds.distinct, ?_, rounds.active, rounds.during,
    ?_, ?_⟩, sound.room⟩
  · rw [← current]
    exact rounds.current
  · intro _ _
    exact ⟨address, ch, rfl, found, begun⟩
  · rintro (outside | polling | calling)
    · cases outside
    · cases polling
    · cases calling

theorem leave_yields (sound : Sound l) (phase : l.phase = .handling []) : Yields l.leave Sound := by
  have rounds := sound.rounds
  obtain ⟨address, ch, current, found, _⟩ := rounds.handling _ phase
  have alike := alike_update found (show core { ch with eventHandling := false } = core ch from rfl)
  unfold ChannelLoop.leave
  rw [current]
  simp only [object_eq found, ok_bind]
  refine .ok ⟨sound.registry.alike alike, ⟨rounds.alike alike, rounds.distinct, ?_, rounds.active,
    rounds.during, by rintro _ ⟨⟩, ?_⟩, sound.room⟩
  · exact rounds.current
  · rintro (outside | polling | calling)
    · cases outside
    · cases polling
    · cases calling

/-! ### Owners -/

theorem update_sound (sound : Sound l) {call : ChannelCall}
    (success : l.updateChannel address call = .ok l') : Sound l' := by
  obtain ⟨ch, found, success⟩ := bind_eq_ok success
  have found := object_ok found
  obtain ⟨out, updated, success⟩ := bind_eq_ok success
  cases success
  have shape := Channel.setEvents_ok updated
  refine ⟨sound.registry.update found updated, ?_, sound.room⟩
  refine sound.rounds.owner (fun other distinct => Function.update_of_ne distinct _ _) ?_ ?_
  · intro _
    refine ⟨_, Function.update_self _ _ _, ?_⟩
    rw [shape]
    simp only [Channel.updated]
    split <;> simp
  · intro channel present begun
    rw [found] at present
    cases present
    refine ⟨_, Function.update_self _ _ _, ?_⟩
    rw [shape]
    exact begun

/-- The assertion of `removeChannel` spares the channels of the round. -/
theorem not_upcoming_of_free (rounds : Rounds l) (free : l.inUse address = false) :
    address ∉ l.upcoming := by
  intro member
  have on := rounds.during (List.ne_nil_of_mem member)
  have active := rounds.active address member
  have other : l.currentActiveChannel ≠ some address :=
    fun current => rounds.current address current member
  simp [ChannelLoop.inUse, on, active, other] at free

/-- A removal takes the channel out of both tables. -/
theorem remove_sound (sound : Sound l) (success : l.removeChannel address = .ok l') : Sound l' := by
  obtain ⟨ch, found, success⟩ := bind_eq_ok success
  have found := object_ok found
  obtain ⟨out, removed, success⟩ := bind_eq_ok success
  cases success
  obtain ⟨shape, _, _, free⟩ := Channel.remove_ok removed
  refine ⟨sound.registry.remove found removed, ?_, sound.room⟩
  refine sound.rounds.owner (fun other distinct => Function.update_of_ne distinct _ _) ?_ ?_
  · intro member
    exact absurd member (not_upcoming_of_free sound.rounds free)
  · intro channel present begun
    rw [found] at present
    cases present
    refine ⟨_, Function.update_self _ _ _, ?_⟩
    rw [shape]
    exact begun

/-- `~Channel` lets go a channel that is in no callback and not registered. -/
theorem destroy_ok {inLoopThread : Bool} {value : Unit}
    (success : ch.destroy inLoopThread p = .ok value) :
    ch.eventHandling = false ∧ ch.addedToLoop = false := by
  obtain ⟨_, begun, success⟩ := bind_eq_ok success
  obtain ⟨_, added, _⟩ := bind_eq_ok success
  exact ⟨cassert_ok begun, cassert_ok added⟩

/-- What is destroyed is registered nowhere and not to be handled. -/
theorem destroy_sound (sound : Sound l) {inLoopThread : Bool}
    (success : l.destroyChannel address inLoopThread = .ok l') : Sound l' := by
  obtain ⟨ch, found, success⟩ := bind_eq_ok success
  have found := object_ok found
  obtain ⟨_, passed, success⟩ := bind_eq_ok success
  cases success
  obtain ⟨finished, unmarked⟩ := destroy_ok passed
  have unknown : ch.index = .kNew := by
    by_contra known
    rw [(sound.registry.marked address ch found).mpr known] at unmarked
    cases unmarked
  refine ⟨sound.registry.destroy found unknown, ?_, sound.room⟩
  refine sound.rounds.owner (fun other distinct => Function.update_of_ne distinct _ _) ?_ ?_
  · intro member
    obtain ⟨channel, present, known⟩ := sound.rounds.registered address member
    rw [found] at present
    cases present
    exact absurd unknown known
  · intro channel present begun
    rw [found] at present
    cases present
    rw [finished] at begun
    cases begun

/-- A new channel may take the address of one that is gone. -/
theorem construct_sound (sound : Sound l) (unused : l.objects address = none) (fd : Nat) :
    Sound (l.setObject address (some (Channel.new address fd))) := by
  refine ⟨sound.registry.construct unused fd, ?_, sound.room⟩
  refine sound.rounds.owner (fun other distinct => Function.update_of_ne distinct _ _) ?_ ?_
  · intro member
    obtain ⟨channel, present, _⟩ := sound.rounds.registered address member
    rw [unused] at present
    cases present
  · intro channel present
    rw [unused] at present
    cases present

theorem tie_sound (sound : Sound l) (success : l.tie address = .ok l') : Sound l' := by
  obtain ⟨ch, found, success⟩ := bind_eq_ok success
  have found := object_ok found
  cases success
  have alike := alike_update found (show core { ch with tied := true } = core ch from rfl)
  refine ⟨sound.registry.alike alike, ?_, sound.room⟩
  refine sound.rounds.owner (fun other distinct => Function.update_of_ne distinct _ _) ?_ ?_
  · exact sound.rounds.alike alike address
  · intro channel present begun
    rw [found] at present
    cases present
    exact ⟨_, Function.update_self _ _ _, begun⟩

/-! ## Every run -/

/-- A step that is taken by `loop()` itself. -/
def ofLoop : Act → Bool
  | .enter | .pollReturns _ | .handleEvent _ | .callbackReturns | .leave | .doPendingFunctors
  | .finish => true
  | .setQuit | .construct _ _ | .tie _ | .update _ _ | .remove _ | .destroy _ _ | .closeFd _ => false

theorem loop_yields {a : Act} (sound : Sound l) (loop : ofLoop a = true) (enabled : l.Enabled a) :
    Yields (l.step a) Sound := by
  have rounds := sound.rounds
  cases a with
  | pollReturns events => exact poll_yields sound enabled.2 enabled.1
  | handleEvent locked => exact handleEvent_yields sound enabled.1 enabled.2 locked
  | callbackReturns => exact callbackReturns_yields sound enabled
  | leave => exact leave_yields sound enabled
  | enter =>
    have between := rounds.between (.inl enabled)
    refine .ok ⟨sound.registry, ⟨rounds.registered, rounds.distinct, rounds.current, rounds.active,
      rounds.during, by rintro _ ⟨⟩, fun _ => between⟩, sound.room⟩
  | doPendingFunctors =>
    have finished : l.upcoming = [] := enabled.2
    refine .ok ⟨sound.registry, ⟨rounds.registered, rounds.distinct, by rintro _ ⟨⟩, rounds.active,
      ?_, by rintro _ ⟨⟩, fun _ => ⟨finished, rfl⟩⟩, sound.room⟩
    exact fun some => absurd finished some
  | finish =>
    have between := rounds.between (.inr (.inr enabled))
    refine .ok ⟨sound.registry, ⟨rounds.registered, rounds.distinct, rounds.current, rounds.active,
      rounds.during, ?_, fun _ => between⟩, sound.room⟩
    intro callbacks handling
    dsimp only at handling
    split at handling <;> cases handling
  | setQuit | construct | tie | update | remove | destroy | closeFd => cases loop

/-- Every step, of the loop and of its owners, keeps the invariant. -/
theorem step_sound {a : Act} (sound : Sound l) (enabled : l.Enabled a) (success : l.step a = .ok l') :
    Sound l' := by
  cases a with
  | enter | pollReturns | handleEvent | callbackReturns | leave | doPendingFunctors | finish =>
    exact (loop_yields sound rfl enabled).of_ok success
  | setQuit =>
    cases success
    obtain ⟨registry, ⟨registered, distinct, current, active, during, handling, between⟩, room⟩ := sound
    exact ⟨registry, ⟨registered, distinct, current, active, during, handling, between⟩, room⟩
  | construct address fd =>
    cases success
    exact construct_sound sound enabled.2 fd
  | tie address => exact tie_sound sound success
  | update address call => exact update_sound sound success
  | remove address => exact remove_sound sound success
  | destroy address inLoopThread => exact destroy_sound sound success
  | closeFd fd =>
    cases success
    obtain ⟨registry, ⟨registered, distinct, current, active, during, handling, between⟩, room⟩ := sound
    exact ⟨registry.closeFd fd, ⟨registered, distinct, current, active, during, handling, between⟩, room⟩

/-! ### No pointer is followed in vain -/

/-- The process ends by an assertion or at level FATAL. -/
def Checked (reason : Abort) : Prop :=
  ∀ file line, reason ≠ .undefinedBehaviour file line

theorem faults_assert {condition : Prop} [Decidable condition] {file : SourceFile} {line : Nat} :
    Faults (cassert condition file line) Checked :=
  faults_cassert (by rintro _ _ ⟨⟩)

theorem update_faults (operation : EpollPoller.CtlOp) (ch : Channel) (p : EpollPoller) :
    Faults (p.update operation ch) Checked := by
  unfold EpollPoller.update
  split
  · exact .ok
  · exact .ok
  · exact .ok
  · exact .error (by rintro _ _ ⟨⟩)

/-- `update` fails in assertions and in `epoll_ctl`. -/
theorem setEvents_faults (ch : Channel) (events : EventMask) (p : EpollPoller) :
    Faults (ch.setEvents events p) Checked := by
  unfold Channel.setEvents EpollPoller.updateChannel
  dsimp only
  split
  · exact .bind faults_assert fun _ _ => .bind (update_faults _ _ _) fun _ _ => .ok
  · exact .bind faults_assert fun _ _ => .bind faults_assert fun _ _ =>
      .bind (update_faults _ _ _) fun _ _ => .ok
  · refine .bind faults_assert fun _ _ => .bind faults_assert fun _ _ => ?_
    split
    · exact .bind (update_faults _ _ _) fun _ _ => .ok
    · exact .bind (update_faults _ _ _) fun _ _ => .ok

theorem remove_faults (inUse : Bool) (ch : Channel) (p : EpollPoller) :
    Faults (ch.remove inUse p) Checked := by
  refine .bind faults_assert fun _ _ => .bind faults_assert fun _ _ => ?_
  refine .bind faults_assert fun _ _ => .bind faults_assert fun _ _ => ?_
  refine .bind faults_assert fun _ _ => .bind faults_assert fun _ _ => .bind ?_ fun _ _ => .ok
  split
  · exact update_faults _ _ _
  · exact .ok

theorem destroy_faults (inLoopThread : Bool) (ch : Channel) (p : EpollPoller) :
    Faults (ch.destroy inLoopThread p) Checked := by
  refine .bind faults_assert fun _ _ => .bind faults_assert fun _ _ => ?_
  split
  · exact faults_assert
  · exact .ok

theorem step_faults {a : Act} (sound : Sound l) (enabled : l.Enabled a) :
    Faults (l.step a) Checked := by
  have existing {address : Nat} (present : l.objects address ≠ none) {file : SourceFile}
      {line : Nat} : Faults (l.object address file line) Checked := by
    obtain ⟨ch, found⟩ := Option.ne_none_iff_exists'.mp present
    rw [object_eq found]
    exact .ok
  cases a with
  | enter | pollReturns | handleEvent | callbackReturns | leave | doPendingFunctors | finish =>
    exact .of_yields (loop_yields sound rfl enabled)
  | setQuit | construct | closeFd => exact .ok
  | tie address => exact .bind (existing enabled.2) fun _ _ => .ok
  | update address call =>
    exact .bind (existing enabled.2) fun ch _ => .bind (setEvents_faults ch _ _) fun _ _ => .ok
  | remove address =>
    exact .bind (existing enabled.2) fun ch _ => .bind (remove_faults _ ch _) fun _ _ => .ok
  | destroy address inLoopThread =>
    exact .bind (existing enabled.2) fun ch _ => .bind (destroy_faults _ ch _) fun _ _ => .ok

/-- Every pointer that the kernel or the round holds is one to a registered channel, the loop's
own steps are defined and pass their assertions, and so no step follows a pointer to a channel that
is gone. `events_.size()` fits an `int`. -/
structure Outlives (l : ChannelLoop) : Prop where
  kernel : ∀ fd mask address, l.poller.epollSet fd = some (mask, address) →
    ∃ ch, l.objects address = some ch ∧ ch.fd = fd ∧ l.poller.hasChannel ch = true
  round : ∀ address ∈ l.upcoming,
    ∃ ch, l.objects address = some ch ∧ l.poller.hasChannel ch = true
  loop : ∀ a, ofLoop a = true → l.Enabled a → ∃ l', l.step a = .ok l'
  checked : ∀ a, l.Enabled a → Faults (l.step a) Checked
  size : 0 < l.eventListSize ∧ l.eventListSize < 2 ^ 31

/-- In every run, whatever the owners of channels do in callbacks and functors, channels outlive the
events that the loop still has to handle for them. -/
theorem channels_outlive_events {actions : List Act} (run : machine.Run .new actions l) :
    Outlives l := by
  have sound : Sound l :=
    @Machine.Run.invariant _ _ _ machine Sound _ _ _
      (fun _ _ _ sound enabled stepped => step_sound sound enabled stepped) new_sound run
  refine ⟨?_, ?_, ?_, fun a enabled => step_faults sound enabled, sound.room⟩
  · intro fd mask address entry
    obtain ⟨ch, found, at_fd, added⟩ := sound.registry.watched fd mask address entry
    exact ⟨ch, found, at_fd, sound.registry.has found (by simp [added])⟩
  · intro address member
    obtain ⟨ch, found, known⟩ := sound.rounds.registered address member
    exact ⟨ch, found, sound.registry.has found known⟩
  · intro a loop enabled
    obtain ⟨l', stepped, _⟩ := loop_yields sound loop enabled
    exact ⟨l', stepped⟩

/-- Two channels are reported. In the callback of the first, it is removed, and the descriptor of the
other one is closed. -/
theorem channels_outlive_events_closed : ∃ l,
    machine.Run .new
      [.construct 1 5, .update 1 .enableReading, .construct 2 6, .update 2 .enableWriting, .enter,
        .pollReturns [⟨5, EPOLLIN, 1⟩, ⟨6, EPOLLOUT, 2⟩], .handleEvent true, .closeFd 6,
        .update 1 .disableAll, .remove 1] l ∧
    l.upcoming = [2] ∧ Outlives l := by
  obtain ⟨l, run, upcoming⟩ := machine.exists_run_of_exec .new
    [.construct 1 5, .update 1 .enableReading, .construct 2 6, .update 2 .enableWriting, .enter,
      .pollReturns [⟨5, EPOLLIN, 1⟩, ⟨6, EPOLLOUT, 2⟩], .handleEvent true, .closeFd 6,
      .update 1 .disableAll, .remove 1]
    (fun l => l.upcoming = [2]) (by decide +kernel)
  exact ⟨l, run, by simpa using upcoming, channels_outlive_events run⟩

end Starry.Guarantees.ChannelDispatch
