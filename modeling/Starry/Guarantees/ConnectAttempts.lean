import Mathlib.Data.List.Count
import Starry.Source.Connector

/-!
# One connection attempt at a time

`connect` of a client starts an attempt whatever the connector is doing: `startInLoop` only
asserts that nothing is going on. It is, while a socket is connecting, after a connection
was made (the state stays `KConnected` when that connection closes), while a retry timer is
running, and until `resetChannel` has run. A retry timer, too, may come before that functor.

`one_attempt` is about the runs in which neither happens, whatever the order of the calls,
connect results, events, timers, functors and closes; `second_connect_aborts` is a run in
which `connect` is called twice.
-/
namespace Starry.Guarantees.ConnectAttempts

open Starry.Foundation
open Starry.Source
open Starry.Source.ClientLoop

/-- The assertions of `startInLoop` and of `connecting`. -/
def AttemptAssertion (reason : Abort) : Prop :=
  reason = .assertion .connectorCpp 40 ∨ reason = .assertion .connectorCpp 116

/-- At most one socket is connecting, and no step of `M` enters `startInLoop` out of
`kDisconnected` or `connecting` with a channel. -/
structure OneAttempt (M : Machine ClientLoop Act Abort) (l : ClientLoop) : Prop where
  sockets : l.sockets.count .connecting ≤ 1
  entered : ∀ a, M.enabled l a → Faults (M.step l a) fun reason => ¬AttemptAssertion reason

/-- `connect` comes when nothing is going on, and a retry timer after `resetChannel`. -/
def Calm (l : ClientLoop) : Act → Prop
  | .connect _ => l.connector.state = .kDisconnected ∧ l.timers = [] ∧
    ClientFunctor.resetChannel ∉ l.pending
  | .timer _ _ => ClientFunctor.resetChannel ∉ l.pending
  | _ => True

instance (l : ClientLoop) (a : Act) : Decidable (Calm l a) :=
  match a with
  | .connect _ => inferInstanceAs (Decidable (_ ∧ _))
  | .timer _ _ => inferInstanceAs (Decidable (¬_))
  | .disconnect | .stop | .enableRetry | .event _ _ _ | .functor | .close => isTrue trivial

/-! ## The invariant -/

/-- The socket is the only connecting one. -/
structure Only (sockets : List SocketFate) (socket : Nat) : Prop where
  connecting : sockets[socket]? = some .connecting
  alone : sockets.count .connecting = 1

/-- The channel is gone, or will be when `resetChannel` runs. -/
structure Leaving (l : ClientLoop) : Prop where
  reset : l.connector.channel = none ∨ ClientFunctor.resetChannel ∈ l.pending
  unwatched : ∀ channel ∈ l.connector.channel, channel.watched = false

structure Inv (l : ClientLoop) : Prop where
  attempt : l.connector.state = .KConnecting →
    (∃ socket, l.connector.channel = some ⟨socket, true⟩ ∧ Only l.sockets socket) ∧
    l.timers = [] ∧ ClientFunctor.resetChannel ∉ l.pending
  idle : l.connector.state ≠ .KConnecting → l.sockets.count .connecting = 0 ∧ Leaving l
  timers : l.timers ≠ [] → l.connector.state = .kDisconnected ∧ l.timers.length = 1

variable {l : ClientLoop} {socket : Nat}

theorem Only.settle (only : Only l.sockets socket) (fate : SocketFate) (settled : fate ≠ .connecting) :
    (l.sockets.set socket fate).count .connecting = 0 := by
  obtain ⟨inside, found⟩ := List.getElem?_eq_some_iff.mp only.connecting
  rw [List.count_set inside, found, only.alone]
  simp [settled]

theorem only_of_new {sockets : List SocketFate} (none : sockets.count .connecting = 0) :
    Only (sockets ++ [.connecting]) sockets.length := by
  refine ⟨by simp, ?_⟩
  rw [List.count_append, none]
  rfl

theorem new_inv : Inv ClientLoop.new := by
  refine ⟨fun connecting => ?_, fun _ => ⟨rfl, .inl rfl, ?_⟩, fun some => absurd rfl some⟩
  · cases connecting
  · simp [ClientLoop.new, Connector.new]

/-! ## One attempt -/

/-- The step ends in the invariant, or in another way than by an attempt's assertion. -/
def Keeps (outcome : Except Abort ClientLoop) : Prop :=
  Ends outcome Inv fun reason => ¬AttemptAssertion reason

theorem keeps_ok (inv : Inv l) : Keeps (.ok l) := inv

theorem keeps_error {reason : Abort} (other : ¬AttemptAssertion reason) :
    Keeps (.error reason) := other

/-- A function that may fail elsewhere, followed by one that keeps the invariant. -/
theorem keeps_bind {α : Type} {first : Except Abort α} {next : α → Except Abort ClientLoop}
    {post : α → Prop} (before : Yields first post) (after : ∀ value, post value → Keeps (next value)) :
    Keeps (first >>= next) := by
  obtain ⟨value, returned, holds⟩ := before
  rw [returned]
  exact after value holds

/-- `retry` closes the only socket before it arms the timer. -/
theorem Inv.retry (only : Only l.sockets socket) (quiet : l.timers = []) (leaving : Leaving l) :
    Inv (Connector.retry l socket) := by
  have closed := only.settle .closed (by decide)
  unfold Connector.retry
  dsimp only [Connector.setState]
  split
  · refine ⟨fun connecting => ?_, fun _ => ⟨closed, leaving.reset, leaving.unwatched⟩, fun _ => ⟨rfl, ?_⟩⟩
    · cases connecting
    · simp [quiet]
  · refine ⟨fun connecting => ?_, fun _ => ⟨closed, leaving.reset, leaving.unwatched⟩, fun some => ?_⟩
    · cases connecting
    · exact absurd quiet some

/-- Nothing is going on. -/
structure Quiet (l : ClientLoop) : Prop where
  state : l.connector.state = .kDisconnected
  channel : l.connector.channel = none
  sockets : l.sockets.count .connecting = 0
  timers : l.timers = []
  pending : ClientFunctor.resetChannel ∉ l.pending

/-- A quiet connector has no channel, as `connecting` asserts. -/
theorem Quiet.connecting (quiet : Quiet l) :
    Keeps (Connector.connecting { l with sockets := l.sockets ++ [.connecting] } l.sockets.length) := by
  unfold Connector.connecting
  dsimp only [Connector.setState]
  rw [cassert_of quiet.channel, ok_bind]
  refine keeps_ok ⟨fun _ => ⟨⟨_, rfl, only_of_new quiet.sockets⟩, quiet.timers, quiet.pending⟩, ?_, ?_⟩
  · exact fun idle => absurd rfl idle
  · exact fun some => absurd quiet.timers some

theorem Quiet.connect (quiet : Quiet l) (answers : ConnectAnswers) :
    Keeps (Connector.connect l answers) := by
  have retried : Inv (Connector.retry { l with sockets := l.sockets ++ [.connecting] }
      l.sockets.length) :=
    .retry (only_of_new quiet.sockets) quiet.timers ⟨.inl quiet.channel, by simp [quiet.channel]⟩
  unfold Connector.connect
  split
  · exact keeps_error (by simp [AttemptAssertion])
  · dsimp only
    split
    all_goals first
      | exact quiet.connecting
      | exact keeps_ok retried
      | exact keeps_error (by simp [AttemptAssertion])

/-- `startInLoop` asserts `kDisconnected`, which a quiet connector is in. -/
theorem Quiet.startInLoop (quiet : Quiet l) (answers : ConnectAnswers) (inv : Inv l) :
    Keeps (Connector.startInLoop l answers) := by
  rw [Connector.startInLoop, cassert_of quiet.state, ok_bind]
  split
  · exact quiet.connect answers
  · exact keeps_ok inv

/-! ## The end of an attempt -/

/-- What `removeAndResetChannel` leaves of an attempt. -/
structure Detached (l : ClientLoop) (socket : Nat) : Prop where
  only : Only l.sockets socket
  quiet : l.timers = []
  leaving : Leaving l

/-- The channel of the attempt is taken off the poller. -/
theorem removeAndResetChannel_yields (channel : l.connector.channel = some ⟨socket, true⟩)
    (only : Only l.sockets socket) (quiet : l.timers = []) :
    Yields (Connector.removeAndResetChannel l) fun out =>
      out.1 = socket ∧ Detached out.2 socket := by
  unfold Connector.removeAndResetChannel
  rw [channel]
  refine .ok ⟨rfl, only, quiet, .inr ?_, ?_⟩
  · simp [Connector.queueInLoop]
  · simp [Connector.queueInLoop]

theorem Inv.detach (inv : Inv l) (connecting : l.connector.state = .KConnecting) :
    Yields (Connector.removeAndResetChannel l) fun out => Detached out.2 out.1 := by
  obtain ⟨⟨socket, channel, only⟩, quiet, _⟩ := inv.attempt connecting
  apply (removeAndResetChannel_yields channel only quiet).imp
  rintro out ⟨rfl, detached⟩
  exact detached

theorem Detached.settle (detached : Detached l socket) (fate : SocketFate)
    (settled : fate ≠ .connecting) (connection : Option Nat) :
    Inv { Connector.setState l .KConnected with
      sockets := l.sockets.set socket fate
      client := { l.client with connection := connection } } := by
  refine ⟨fun connecting => ?_, fun _ => ⟨detached.only.settle fate settled, ?_⟩, fun some => ?_⟩
  · cases connecting
  · exact ⟨detached.leaving.reset, detached.leaving.unwatched⟩
  · exact absurd detached.quiet some

theorem Inv.handleError (inv : Inv l) : Keeps (Connector.handleError l) := by
  unfold Connector.handleError
  split
  next connecting =>
    refine keeps_bind (inv.detach connecting) ?_
    rintro ⟨socket, left⟩ detached
    exact keeps_ok (.retry detached.only detached.quiet detached.leaving)
  next => exact keeps_ok inv

theorem Inv.handleWrite (inv : Inv l) (soError selfConnect : Bool) :
    Keeps (Connector.handleWrite l soError selfConnect) := by
  unfold Connector.handleWrite
  split
  next connecting =>
    refine keeps_bind (inv.detach connecting) ?_
    rintro ⟨socket, left⟩ detached
    have retried := Inv.retry detached.only detached.quiet detached.leaving
    dsimp only
    split
    · exact keeps_ok retried
    · split
      · exact keeps_ok retried
      · split
        · exact keeps_ok (detached.settle .handedOver (by decide) _)
        · exact keeps_ok (detached.settle .closed (by decide) left.client.connection)
  next =>
    by_cases state : l.connector.state = .kDisconnected
    · rw [cassert_of state]
      exact keeps_ok inv
    · rw [cassert_of_not state]
      exact keeps_error (by simp [AttemptAssertion])

theorem Inv.handleEvent (inv : Inv l) (revents : EventMask) (soError selfConnect : Bool) :
    Keeps (Connector.handleEvent l revents soError selfConnect) := by
  have handled : Keeps (if revents &&& EPOLLERR ≠ 0#32 then Connector.handleError l else .ok l) := by
    split
    · exact inv.handleError
    · exact keeps_ok inv
  refine handled.bind fun l' _ kept => ?_
  split
  · exact kept.handleWrite soError selfConnect
  · exact keeps_ok kept

theorem Inv.stopInLoop (inv : Inv l) : Keeps (Connector.stopInLoop l) := by
  unfold Connector.stopInLoop
  split
  next connecting =>
    obtain ⟨⟨socket, channel, only⟩, quiet, _⟩ := inv.attempt connecting
    refine keeps_bind (removeAndResetChannel_yields (l := Connector.setState l .KConnected)
      channel only quiet) ?_
    rintro ⟨_, left⟩ ⟨rfl, detached⟩
    exact keeps_ok (.retry detached.only detached.quiet detached.leaving)
  next => exact keeps_ok inv

/-! ## Functors -/

/-- Taking a functor off the queue that is not the `resetChannel` the channel waits for. -/
theorem Inv.pop {functor : ClientFunctor} {rest : List ClientFunctor} (inv : Inv l)
    (front : l.pending = functor :: rest) (other : functor ≠ .resetChannel) :
    Inv { l with pending := rest } := by
  have same : ClientFunctor.resetChannel ∈ l.pending ↔ ClientFunctor.resetChannel ∈ rest := by
    rw [front, List.mem_cons]
    exact or_iff_right other.symm
  obtain ⟨attempt, idle, timers⟩ := inv
  refine ⟨fun connecting => ?_, fun state => ?_, timers⟩
  · obtain ⟨channel, quiet, absent⟩ := attempt connecting
    exact ⟨channel, quiet, fun inside => absent (same.mpr inside)⟩
  · obtain ⟨none, leaving⟩ := idle state
    exact ⟨none, leaving.reset.imp_right same.mp, leaving.unwatched⟩

/-- The detached channel is deleted before the next attempt makes one. -/
theorem Inv.resetChannel {rest : List ClientFunctor} (inv : Inv l)
    (front : l.pending = .resetChannel :: rest) :
    Keeps (Connector.resetChannel { l with pending := rest }) := by
  have state : l.connector.state ≠ .KConnecting := fun connecting =>
    (inv.attempt connecting).2.2 (by simp [front])
  obtain ⟨none, leaving⟩ := inv.idle state
  rw [Connector.resetChannel, cassert_of leaving.unwatched, ok_bind]
  refine keeps_ok ⟨fun connecting => absurd connecting state, fun _ => ⟨none, .inl rfl, ?_⟩, inv.timers⟩
  simp

/-- The functors of the connector run in the order in which they were queued. -/
theorem Inv.functor (inv : Inv l) : Keeps (ClientLoop.step l .functor) := by
  unfold ClientLoop.step
  cases front : l.pending with
  | nil => exact keeps_ok inv
  | cons functor rest =>
    cases functor with
    | connectDestroyed => exact keeps_ok (inv.pop front (by decide))
    | stopInLoop =>
      simp only [runFunctor]
      split
      · exact keeps_error (by simp [AttemptAssertion])
      · exact (inv.pop front (by decide)).stopInLoop
    | resetChannel =>
      simp only [runFunctor]
      split
      · exact keeps_error (by simp [AttemptAssertion])
      · exact inv.resetChannel front

/-! ## Every step -/

/-- The connector and the rest of the loop are as before, but for the flags of both classes and
for other functors at the end of the queue. -/
theorem Inv.move {l' : ClientLoop} (inv : Inv l) (state : l'.connector.state = l.connector.state)
    (channel : l'.connector.channel = l.connector.channel) (sockets : l'.sockets = l.sockets)
    (timers : l'.timers = l.timers)
    (pending : ClientFunctor.resetChannel ∈ l'.pending ↔ ClientFunctor.resetChannel ∈ l.pending) :
    Inv l' := by
  obtain ⟨attempt, idle, one⟩ := inv
  refine ⟨?_, ?_, ?_⟩
  · rwa [state, channel, sockets, timers, pending]
  · rw [state, sockets]
    intro still
    obtain ⟨none, reset, unwatched⟩ := idle still
    exact ⟨none, by rwa [channel, pending], by rwa [channel]⟩
  · rwa [state, timers]

/-- Where `~Connector` runs there is no attempt left. -/
theorem Inv.release (inv : Inv l) : Keeps (Connector.release l) := by
  unfold Connector.release
  split
  · by_cases gone : l.connector.channel = none
    · rw [cassert_of gone]
      exact keeps_ok inv
    · rw [cassert_of_not gone]
      exact keeps_error (by simp [AttemptAssertion])
  · exact keeps_ok inv

/-- In `kDisconnected` without a queued `resetChannel` and without another timer. -/
theorem Inv.quiet (inv : Inv l) (state : l.connector.state = .kDisconnected) (timers : l.timers = [])
    (absent : ClientFunctor.resetChannel ∉ l.pending) : Quiet l := by
  obtain ⟨none, leaving⟩ := inv.idle (by rw [state]; decide)
  exact ⟨state, leaving.reset.resolve_right absent, none, timers, absent⟩

/-- A calm `connect` comes when no attempt and no timer is there. -/
theorem Inv.connect (inv : Inv l) (answers : ConnectAnswers) (calm : Calm l (.connect answers)) :
    Keeps (TcpClient.connect l answers) := by
  obtain ⟨state, timers, absent⟩ := calm
  unfold TcpClient.connect
  split
  · exact keeps_error (by simp [AttemptAssertion])
  · have moved : Inv { l with
        client := { l.client with connectFlag := true }
        connector := { l.connector with connectFlag := true } } :=
      inv.move rfl rfl rfl rfl Iff.rfl
    exact (moved.quiet state timers absent).startInLoop answers moved

/-- A calm retry timer fires after `resetChannel`, so that `channel_` is free. -/
theorem Inv.timer (inv : Inv l) {index : Nat} (answers : ConnectAnswers)
    (running : index < l.timers.length) (calm : Calm l (.timer index answers)) :
    Keeps (ClientLoop.step l (.timer index answers)) := by
  obtain ⟨state, one⟩ := inv.timers (List.ne_nil_of_length_pos (by omega))
  have fired : l.timers.eraseIdx index = [] := by
    rw [← List.length_eq_zero_iff, List.length_eraseIdx_of_lt running]
    omega
  have moved : Inv { l with timers := l.timers.eraseIdx index } := by
    obtain ⟨none, reset, unwatched⟩ := inv.idle (by rw [state]; decide)
    refine ⟨fun connecting => ?_, fun _ => ⟨none, reset, unwatched⟩, fun some => absurd fired some⟩
    rw [state] at connecting
    cases connecting
  have started := (moved.quiet state fired calm).startInLoop answers moved
  exact started.bind fun l' _ kept => kept.release

theorem Inv.close (inv : Inv l) : Keeps (TcpClient.removeConnection l) := by
  have moved : Inv (Connector.queueInLoop
      { l with client := { l.client with connection := none } } .connectDestroyed) :=
    inv.move rfl rfl rfl rfl (by simp [Connector.queueInLoop])
  unfold TcpClient.removeConnection
  dsimp only
  split
  · split
    · exact keeps_error (by simp [AttemptAssertion])
    · refine Inv.release ?_
      exact moved.move rfl rfl rfl rfl Iff.rfl
  · exact keeps_ok moved

/-- Every calm step keeps the invariant, and fails in no assertion about attempts. -/
theorem Inv.step {a : Act} (inv : Inv l) (enabled : l.Enabled a) (calm : Calm l a) :
    Keeps (l.step a) := by
  cases a with
  | connect answers => exact inv.connect answers calm
  | disconnect | enableRetry => exact keeps_ok (inv.move rfl rfl rfl rfl Iff.rfl)
  | stop =>
    simp only [ClientLoop.step, TcpClient.stop]
    split
    · exact keeps_error (by simp [AttemptAssertion])
    · exact keeps_ok (inv.move rfl rfl rfl rfl (by simp [Connector.stop, Connector.queueInLoop]))
  | timer index answers => exact inv.timer answers enabled calm
  | event revents soError selfConnect => exact inv.handleEvent revents soError selfConnect
  | functor => exact inv.functor
  | close => exact inv.close

theorem Inv.sockets (inv : Inv l) : l.sockets.count .connecting ≤ 1 := by
  by_cases connecting : l.connector.state = .KConnecting
  · obtain ⟨⟨socket, _, only⟩, _⟩ := inv.attempt connecting
    exact Nat.le_of_eq only.alone
  · rw [(inv.idle connecting).1]
    exact Nat.zero_le 1

/-- In every run of a client whose steps are calm. -/
theorem one_attempt {actions : List Act} (run : (machine.restrict Calm).Run .new actions l) :
    OneAttempt (machine.restrict Calm) l := by
  have inv : Inv l :=
    @Machine.Run.invariant _ _ _ (machine.restrict Calm) Inv _ _ _
      (fun _ _ _ inv enabled stepped => (inv.step enabled.1 enabled.2).of_ok stepped) new_inv run
  exact ⟨inv.sockets, fun a enabled => (inv.step enabled.1 enabled.2).faults⟩

def inProgress : ConnectAnswers := ⟨none, some .EINPROGRESS⟩

/-- The first attempt is refused, `stop` and `connect` interrupt the second one, and the third
becomes a connection, which the peer closes. -/
def threeAttempts : List Act :=
  [.connect inProgress, .event (EPOLLERR ||| EPOLLOUT) true false, .functor,
    .timer 0 inProgress, .stop, .functor, .functor, .connect inProgress, .event EPOLLOUT false false,
    .functor, .close, .functor]

/-- Two attempts are refused before the third is accepted. -/
theorem one_attempt_three_attempts :
    ∃ l, (machine.restrict Calm).Run .new threeAttempts l ∧
      l.sockets = [.closed, .closed, .handedOver] ∧ OneAttempt (machine.restrict Calm) l := by
  obtain ⟨l, run, holds⟩ := (machine.restrict Calm).exists_run_of_exec .new threeAttempts
    (fun l => decide (l.sockets = [.closed, .closed, .handedOver])) (by decide +kernel)
  exact ⟨l, run, of_decide_eq_true holds, one_attempt run⟩

/-- `connect` is called again while the first attempt is under way. -/
theorem second_connect_aborts :
    ∃ l, machine.Run .new [.connect inProgress] l ∧ ¬OneAttempt machine l := by
  obtain ⟨l, run, holds⟩ := machine.exists_run_of_exec .new [.connect inProgress]
    (fun l => failsWith (machine.step l (.connect inProgress)) (.assertion .connectorCpp 40))
    (by decide +kernel)
  refine ⟨l, run, fun attempt => ?_⟩
  exact attempt.entered (.connect inProgress) trivial _ (eq_error_of_failsWith holds) (.inl rfl)

end Starry.Guarantees.ConnectAttempts
