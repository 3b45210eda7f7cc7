import Mathlib.Data.List.Count
import Starry.Source.OwnedClient

/-!
# When a client may be destroyed

The connector calls its client through a raw `this`, and its functors `stopInLoop` and
`resetChannel` are bound to a raw `this` of the connector. Over every run, with `~TcpClient` at any
point of it, no connection is handed to a client that is gone: it has cleared `connect_` of the
connector, or the connector is in `KConnected`, which it never leaves.

Two things do go wrong. A client whose connection is open gives up its connector at once, and
`~Connector` asserts that `resetChannel` has run; and a `stopInLoop` that is queued by then runs
for a connector that is gone. Besides, `connector_` may be null, where the reconnecting
`removeConnection` left it so, and `~TcpClient` calls `stop` through it.
-/
namespace Starry.Guarantees.ClientDestruction

open Starry.Foundation
open Starry.Source
open Starry.Source.OwnedClient

variable {l l' : ClientLoop} {s s' : OwnedClient} {socket : Nat}

/-! ## The connector -/

/-- The channel is gone, or `resetChannel` is queued for it. -/
def Reset (l : ClientLoop) : Prop :=
  (l.connector.channel = none ∧ ClientFunctor.resetChannel ∉ l.pending) ∨
    ∃ socket, l.connector.channel = some ⟨socket, false⟩ ∧
      l.pending.count ClientFunctor.resetChannel = 1

/-- Some `shared_ptr` of the connector is left. -/
def Held (l : ClientLoop) : Prop := l.client.connector = true ∨ l.timers ≠ []

/-- What the connector's members say of each other. -/
structure Form (l : ClientLoop) : Prop where
  connecting : l.connector.state = .KConnecting → ∃ socket,
    l.connector.channel = some ⟨socket, true⟩ ∧ ClientFunctor.resetChannel ∉ l.pending
  reset : l.connector.state ≠ .KConnecting → Reset l
  connected : l.client.connection ≠ none → l.connector.state = .KConnected

structure Shape (l : ClientLoop) : Prop extends Form l where
  deleted : ¬Held l → l.connector.channel = none

/-- The connector has no connection to hand over, now or later. -/
def Idle (l : ClientLoop) : Prop :=
  l.client.connection = none ∧
    (l.connector.connectFlag = false ∨ l.connector.state = .KConnected)

/-- The reason is not undefined behaviour. -/
def Defined (reason : Abort) : Prop := ∀ file line, reason ≠ .undefinedBehaviour file line

/-- What a function of the connector does from `l`: its shape is kept, and it stays idle. -/
def Keeps (l : ClientLoop) (outcome : Except Abort ClientLoop) : Prop :=
  Ends outcome (fun l' => Shape l' ∧ (Idle l → Idle l')) Defined

theorem keeps_same (shape : Shape l) : Keeps l (.ok l) := ⟨shape, id⟩

theorem keeps_cassert {condition : Prop} [Decidable condition] {file : SourceFile} {line : Nat}
    {next : Unit → Except Abort ClientLoop} (after : condition → Keeps l (next ())) :
    Keeps l (cassert condition file line >>= next) :=
  ends_cassert (by rintro _ _ ⟨⟩) after

/-- The channel is there exactly as long as `resetChannel` is queued. -/
theorem Reset.channel_iff (reset : Reset l) :
    l.connector.channel = none ↔ ClientFunctor.resetChannel ∉ l.pending := by
  rcases reset with ⟨gone, absent⟩ | ⟨socket, present, once⟩
  · simp [gone, absent]
  · have queued : ClientFunctor.resetChannel ∈ l.pending :=
      List.count_pos_iff.mp (by omega)
    simp [present, queued]

/-- A connector that is gone is not connecting. -/
theorem Shape.held (shape : Shape l) (connecting : l.connector.state = .KConnecting) : Held l := by
  by_contra gone
  obtain ⟨socket, channel, _⟩ := shape.connecting connecting
  rw [shape.deleted gone] at channel
  cases channel

theorem new_shape : Shape .new := by
  refine ⟨⟨fun connecting => ?_, fun _ => .inl ⟨rfl, by simp [ClientLoop.new]⟩, fun some => ?_⟩,
    fun _ => rfl⟩
  · cases connecting
  · exact absurd rfl some

/-- Flags, other functors and other sockets do not matter. -/
theorem Form.move (form : Form l) (state : l'.connector.state = l.connector.state)
    (channel : l'.connector.channel = l.connector.channel)
    (connection : l'.client.connection = l.client.connection ∨ l'.client.connection = none)
    (count : l'.pending.count ClientFunctor.resetChannel =
      l.pending.count ClientFunctor.resetChannel) : Form l' := by
  have member : ClientFunctor.resetChannel ∈ l'.pending ↔ ClientFunctor.resetChannel ∈ l.pending := by
    rw [← List.count_pos_iff, ← List.count_pos_iff, count]
  refine ⟨?_, ?_, ?_⟩
  · rw [state, channel, member]
    exact form.connecting
  · rw [state, Reset, channel, member, count]
    exact form.reset
  · rw [state]
    rcases connection with same | none
    · rw [same]
      exact form.connected
    · exact fun some => absurd none some

theorem Shape.move (shape : Shape l) (state : l'.connector.state = l.connector.state)
    (channel : l'.connector.channel = l.connector.channel) (held : Held l → Held l')
    (connection : l'.client.connection = l.client.connection ∨ l'.client.connection = none)
    (count : l'.pending.count ClientFunctor.resetChannel =
      l.pending.count ClientFunctor.resetChannel) : Shape l' := by
  refine ⟨shape.toForm.move state channel connection count, ?_⟩
  rw [channel]
  exact fun gone => shape.deleted fun kept => gone (held kept)

/-! ## The end of an attempt -/

/-- What `removeAndResetChannel` leaves. -/
def removed (l : ClientLoop) (socket : Nat) : ClientLoop :=
  Connector.queueInLoop
    { l with connector := { l.connector with channel := some ⟨socket, false⟩ } } .resetChannel

/-- `removeAndResetChannel` queues one `resetChannel`. -/
theorem removed_reset (absent : ClientFunctor.resetChannel ∉ l.pending) :
    Reset (removed l socket) := by
  refine .inr ⟨socket, rfl, ?_⟩
  simp [removed, Connector.queueInLoop, List.count_eq_zero.mpr absent]

theorem retry_held (held : Held l) : Held (Connector.retry l socket) := by
  unfold Connector.retry
  dsimp only [Connector.setState]
  split
  · exact .inr (by simp)
  · exact held

/-- After a retry the channel is on its way out and there is no connection. -/
theorem retry_form (reset : Reset l) (none : l.client.connection = none) :
    Form (Connector.retry l socket) := by
  unfold Connector.retry
  dsimp only [Connector.setState]
  split
  · exact ⟨fun connecting => (by cases connecting), fun _ => reset, fun some => absurd none some⟩
  · exact ⟨fun connecting => (by cases connecting), fun _ => reset, fun some => absurd none some⟩

theorem retry_idle (unwanted : l.connector.connectFlag = false) (none : l.client.connection = none) :
    Idle (Connector.retry l socket) := by
  unfold Connector.retry
  dsimp only [Connector.setState]
  simp [unwanted, Idle, none]

/-- No connection is there while the connector is connecting, and only `connect_` could keep it
from handing one over. -/
theorem Form.during (form : Form l) (connecting : l.connector.state = .KConnecting) :
    l.client.connection = none ∧ (Idle l → l.connector.connectFlag = false) := by
  constructor
  · by_contra some
    have connected := form.connected some
    rw [connecting] at connected
    cases connected
  · rintro ⟨_, unwanted | connected⟩
    · exact unwanted
    · rw [connecting] at connected
      cases connected

theorem removeAndResetChannel_eq {watched : Bool}
    (channel : l.connector.channel = some ⟨socket, watched⟩) :
    Connector.removeAndResetChannel l = .ok (socket, removed l socket) := by
  rw [Connector.removeAndResetChannel, channel]
  rfl

theorem Shape.retried (shape : Shape l) (connecting : l.connector.state = .KConnecting) :
    Keeps l (.ok (Connector.retry (removed l socket) socket)) := by
  obtain ⟨_, _, absent⟩ := shape.connecting connecting
  obtain ⟨none, unwanted⟩ := shape.during connecting
  have held : Held (removed l socket) := shape.held connecting
  exact ⟨⟨retry_form (removed_reset absent) none, fun gone => absurd (retry_held held) gone⟩,
    fun idle => @retry_idle (removed l socket) _ (unwanted idle) none⟩

theorem handleError_keeps (shape : Shape l) : Keeps l (Connector.handleError l) := by
  unfold Connector.handleError
  split
  next connecting =>
    obtain ⟨socket, channel, _⟩ := shape.connecting connecting
    rw [removeAndResetChannel_eq channel]
    exact shape.retried connecting
  next => exact keeps_same shape

/-- `handleWrite` hands the socket over, or gives the attempt up. -/
theorem handleWrite_keeps (shape : Shape l) (soError selfConnect : Bool) :
    Keeps l (Connector.handleWrite l soError selfConnect) := by
  unfold Connector.handleWrite
  split
  next connecting =>
    obtain ⟨socket, channel, absent⟩ := shape.connecting connecting
    have held := shape.held connecting
    obtain ⟨none, unwanted⟩ := shape.during connecting
    have reset := @removed_reset l socket absent
    rw [removeAndResetChannel_eq channel, ok_bind]
    dsimp only
    split
    · exact shape.retried connecting
    · split
      · exact shape.retried connecting
      · split
        next wanted =>
          refine ⟨⟨⟨fun again => ?_, fun _ => reset, fun _ => rfl⟩, fun gone => absurd held gone⟩, ?_⟩
          · cases again
          · intro idle
            have wanted : l.connector.connectFlag = true := wanted
            rw [unwanted idle] at wanted
            cases wanted
        next =>
          refine ⟨⟨⟨fun again => ?_, fun _ => reset, fun _ => rfl⟩, fun gone => absurd held gone⟩, ?_⟩
          · cases again
          · exact fun _ => ⟨none, .inr rfl⟩
  next => exact keeps_cassert fun _ => keeps_same shape

theorem Keeps.after {m : ClientLoop} {outcome : Except Abort ClientLoop} (keeps : Keeps m outcome)
    (idle : Idle l → Idle m) : Keeps l outcome :=
  Ends.imp keeps fun _ ⟨shape, still⟩ => ⟨shape, fun before => still (idle before)⟩

/-- Functions that keep the shape one after the other. -/
theorem Keeps.bind {first : Except Abort ClientLoop} {next : ClientLoop → Except Abort ClientLoop}
    (before : Keeps l first) (later : ∀ m, Shape m → Keeps m (next m)) : Keeps l (first >>= next) :=
  Ends.bind before fun m _ ⟨shape, idle⟩ => (later m shape).after idle

/-- The channel of the connector calls back into `handleError` and `handleWrite` only. -/
theorem handleEvent_keeps (shape : Shape l) (revents : EventMask) (soError selfConnect : Bool) :
    Keeps l (Connector.handleEvent l revents soError selfConnect) := by
  have handled : Keeps l (if revents &&& EPOLLERR ≠ 0#32 then Connector.handleError l else .ok l) := by
    split
    · exact handleError_keeps shape
    · exact keeps_same shape
  refine handled.bind fun m later => ?_
  split
  · exact handleWrite_keeps later soError selfConnect
  · exact keeps_same later

theorem stopInLoop_keeps (shape : Shape l) : Keeps l (Connector.stopInLoop l) := by
  unfold Connector.stopInLoop
  split
  next connecting =>
    obtain ⟨socket, channel, _⟩ := shape.connecting connecting
    rw [@removeAndResetChannel_eq (Connector.setState l .KConnected) socket true channel]
    exact shape.retried connecting
  next => exact keeps_same shape

/-! ## The beginning of an attempt -/

/-- What `startInLoop` does, whether the connector is still held or runs on the copy in its timer. -/
def Starts (l : ClientLoop) (outcome : Except Abort ClientLoop) : Prop :=
  Ends outcome (fun l' => Form l' ∧ (Idle l → Idle l') ∧ (Held l → Held l')) Defined

/-- A connector that starts has handed no connection over that is still open. -/
theorem Form.unconnected (form : Form l) (state : l.connector.state = .kDisconnected) :
    l.client.connection = none := by
  by_contra some
  have connected := form.connected some
  rw [state] at connected
  cases connected

/-- A connector that wants a connection is not idle. -/
theorem not_idle (wanted : l.connector.connectFlag = true)
    (state : l.connector.state = .kDisconnected) : ¬Idle l := by
  rintro ⟨_, unwanted | connected⟩
  · rw [wanted] at unwanted
    cases unwanted
  · rw [state] at connected
    cases connected

/-- `connecting` makes the channel, for which `channel_` must be free. -/
theorem connecting_starts (form : Form l) (wanted : l.connector.connectFlag = true)
    (state : l.connector.state = .kDisconnected) {sockets : List SocketFate} :
    Starts l (Connector.connecting { l with sockets := sockets } socket) := by
  unfold Connector.connecting
  refine ends_cassert (by rintro _ _ ⟨⟩) fun free => ?_
  have free : l.connector.channel = none := free
  have absent := (form.reset (by rw [state]; decide)).channel_iff.mp free
  refine ⟨⟨fun _ => ⟨socket, rfl, absent⟩, fun other => absurd rfl other,
    fun some => absurd (form.unconnected state) some⟩, fun idle => absurd idle (not_idle wanted state),
    id⟩

/-- `startInLoop` begins an attempt, or leaves everything as it is. -/
theorem startInLoop_starts (form : Form l) (answers : ConnectAnswers) :
    Starts l (Connector.startInLoop l answers) := by
  unfold Connector.startInLoop
  refine ends_cassert (by rintro _ _ ⟨⟩) fun state => ?_
  split
  next wanted =>
    unfold Connector.connect
    split
    · rintro _ _ ⟨⟩
    · dsimp only
      have retried : Starts l (.ok (Connector.retry
          { l with sockets := l.sockets ++ [.connecting] } l.sockets.length)) :=
        ⟨retry_form (form.reset (by rw [state]; decide)) (form.unconnected state),
          fun idle => absurd idle (not_idle wanted state),
          fun held => @retry_held { l with sockets := l.sockets ++ [.connecting] } _ held⟩
      split
      all_goals first
        | exact connecting_starts form wanted state
        | exact retried
        | (rintro _ _ ⟨⟩)
  next => exact ⟨form, id, id⟩

/-- `~Connector` fails in its assertion or changes nothing. -/
theorem release_keeps (form : Form l) : Keeps l (Connector.release l) := by
  unfold Connector.release
  split
  next gone =>
    refine keeps_cassert fun free => ⟨⟨form, fun _ => free⟩, id⟩
  next kept =>
    refine keeps_same ⟨form, fun gone => absurd ?_ kept⟩
    simpa [Held] using gone

/-! ## Steps of the loop -/

/-- The step goes through the null `connector_`, or runs `stopInLoop` of a connector that is gone. -/
def Stray (l : ClientLoop) : ClientLoop.Act → SourceFile → Nat → Prop
  | .connect _, file, line => l.client.connector = false ∧ file = .tcpClientCpp ∧ line = 70
  | .stop, file, line => l.client.connector = false ∧ file = .tcpClientCpp ∧ line = 87
  | .close, file, line => (l.client.retry = true ∧ l.client.connectFlag = true) ∧
    l.client.connector = false ∧ file = .tcpClientCpp ∧ line = 122
  | .functor, file, line => (l.pending.head? = some .stopInLoop ∧ ¬Held l) ∧
    file = .connectorCpp ∧ line = 57
  | _, _, _ => False

/-- If the reason is undefined behaviour, it is at one of these places. -/
def Within (places : SourceFile → Nat → Prop) (reason : Abort) : Prop :=
  ∀ file line, reason = .undefinedBehaviour file line → places file line

theorem Defined.within {places : SourceFile → Nat → Prop} {reason : Abort}
    (defined : Defined reason) : Within places reason :=
  fun file line undefined => absurd undefined (defined file line)

/-- A step keeps the shape, and stays idle unless it is `connect`; what is undefined is stray. -/
def Holds (l : ClientLoop) (a : ClientLoop.Act) (outcome : Except Abort ClientLoop) : Prop :=
  Ends outcome (fun l' => Shape l' ∧ ((∀ answers, a ≠ .connect answers) → Idle l → Idle l'))
    (Within (Stray l a))

theorem Keeps.holds {a : ClientLoop.Act} {outcome : Except Abort ClientLoop}
    (keeps : Keeps l outcome) : Holds l a outcome := by
  cases outcome with
  | ok l' => exact ⟨keeps.1, fun _ => keeps.2⟩
  | error reason => exact Defined.within keeps

theorem Shape.pop {functor : ClientFunctor} {rest : List ClientFunctor} (shape : Shape l)
    (front : l.pending = functor :: rest) (other : functor ≠ .resetChannel) :
    Shape { l with pending := rest } := by
  refine shape.move rfl rfl id (.inl rfl) ?_
  rw [front, List.count_cons_of_ne other]

/-- `resetChannel` finds the channel that it was queued for. -/
theorem resetChannel_keeps {rest : List ClientFunctor} (shape : Shape l)
    (front : l.pending = .resetChannel :: rest) :
    Keeps l (Connector.resetChannel { l with pending := rest }) := by
  have queued : ClientFunctor.resetChannel ∈ l.pending := by simp [front]
  have other : l.connector.state ≠ .KConnecting := by
    intro connecting
    obtain ⟨_, _, absent⟩ := shape.connecting connecting
    exact absent queued
  rcases shape.reset other with ⟨_, absent⟩ | ⟨socket, channel, once⟩
  · exact absurd queued absent
  · unfold Connector.resetChannel
    refine keeps_cassert fun _ => ?_
    have absent : ClientFunctor.resetChannel ∉ rest := by
      rw [front, List.count_cons_self] at once
      exact List.count_eq_zero.mp (by omega)
    refine ⟨⟨⟨fun connecting => absurd connecting other, fun _ => .inl ⟨rfl, absent⟩,
      shape.connected⟩, fun _ => rfl⟩, id⟩

/-- A functor finds its connector, unless it is a `stopInLoop` queued for one since deleted. -/
theorem functor_holds (shape : Shape l) : Holds l .functor (l.step .functor) := by
  unfold ClientLoop.step
  cases front : l.pending with
  | nil => exact (keeps_same shape).holds
  | cons functor rest =>
    cases functor with
    | connectDestroyed =>
      exact Keeps.holds ⟨shape.pop front (by decide), id⟩
    | stopInLoop =>
      simp only [ClientLoop.runFunctor]
      split
      next gone =>
        rintro _ _ ⟨⟩
        exact ⟨⟨by rw [front]; rfl, by simpa [Held] using gone⟩, rfl, rfl⟩
      next =>
        have popped := shape.pop front (by decide)
        exact Keeps.holds ((stopInLoop_keeps popped).after id)
    | resetChannel =>
      simp only [ClientLoop.runFunctor]
      split
      next gone =>
        -- a channel that waits for `resetChannel` keeps its connector from being deleted
        exfalso
        have free := shape.deleted (by simpa [Held] using gone)
        have other : l.connector.state ≠ .KConnecting := by
          intro connecting
          obtain ⟨_, channel, _⟩ := shape.connecting connecting
          rw [free] at channel
          cases channel
        exact (shape.reset other).channel_iff.mp free (by simp [front])
      next => exact (resetChannel_keeps shape front).holds

theorem connect_holds (shape : Shape l) (answers : ConnectAnswers) :
    Holds l (.connect answers) (TcpClient.connect l answers) := by
  unfold TcpClient.connect
  split
  next null =>
    rintro _ _ ⟨⟩
    exact ⟨null, rfl, rfl⟩
  next present =>
    have moved : Form { l with
        client := { l.client with connectFlag := true }
        connector := { l.connector with connectFlag := true } } :=
      shape.toForm.move rfl rfl (.inl rfl) rfl
    have started := startInLoop_starts moved answers
    unfold Connector.start
    cases outcome : Connector.startInLoop { l with
        client := { l.client with connectFlag := true }
        connector := { l.connector with connectFlag := true } } answers with
    | ok l' =>
      rw [outcome] at started
      obtain ⟨form, _, held⟩ := started
      exact ⟨⟨form, fun gone => absurd (held (.inl (by simpa using present))) gone⟩,
        fun other => absurd rfl (other answers)⟩
    | error reason =>
      rw [outcome] at started
      exact Defined.within started

theorem timer_holds (shape : Shape l) (index : Nat) (answers : ConnectAnswers) :
    Holds l (.timer index answers) (l.step (.timer index answers)) := by
  have moved : Form { l with timers := l.timers.eraseIdx index } :=
    shape.toForm.move rfl rfl (.inl rfl) rfl
  have keeps : Keeps l (l.step (.timer index answers)) := by
    exact Ends.bind (startInLoop_starts moved answers) fun m _ ⟨form, idle, _⟩ =>
      (release_keeps form).after idle
  exact keeps.holds

/-- A close gives the connection up, and with `retry_` goes through `connector_`. -/
theorem close_holds (shape : Shape l) : Holds l .close (TcpClient.removeConnection l) := by
  have moved : Shape (Connector.queueInLoop
      { l with client := { l.client with connection := none } } .connectDestroyed) :=
    shape.move rfl rfl id (.inr rfl) (by simp [Connector.queueInLoop])
  unfold TcpClient.removeConnection
  dsimp only
  split
  next reconnecting =>
    split
    next null =>
      rintro _ _ ⟨⟩
      exact ⟨reconnecting, null, rfl, rfl⟩
    next =>
      refine Keeps.holds (Keeps.after (release_keeps ?_) fun ⟨_, idle⟩ => ⟨rfl, idle⟩)
      exact moved.toForm.move rfl rfl (.inl rfl) rfl
  next => exact ⟨moved, fun _ ⟨_, idle⟩ => ⟨rfl, idle⟩⟩

/-- Every step of the loop, whatever state the client is in. -/
theorem step_holds {a : ClientLoop.Act} (shape : Shape l) : Holds l a (l.step a) := by
  cases a with
  | connect answers => exact connect_holds shape answers
  | disconnect | enableRetry =>
    exact ⟨shape.move rfl rfl id (.inl rfl) rfl, fun _ => id⟩
  | stop =>
    simp only [ClientLoop.step, TcpClient.stop]
    split
    next null =>
      rintro _ _ ⟨⟩
      exact ⟨null, rfl, rfl⟩
    next =>
      refine ⟨shape.move rfl rfl id (.inl rfl) ?_, fun _ idle => ⟨idle.1, .inl rfl⟩⟩
      simp [Connector.stop, Connector.queueInLoop]
  | timer index answers => exact timer_holds shape index answers
  | event revents soError selfConnect =>
    exact (handleEvent_keeps shape revents soError selfConnect).holds
  | functor => exact functor_holds shape
  | close => exact close_holds shape

theorem step_of_stray {a : ClientLoop.Act} {file : SourceFile} {line : Nat}
    (stray : Stray l a file line) : l.step a = .error (.undefinedBehaviour file line) := by
  cases a with
  | connect answers =>
    obtain ⟨null, rfl, rfl⟩ := stray
    simp [ClientLoop.step, TcpClient.connect, null]
  | stop =>
    obtain ⟨null, rfl, rfl⟩ := stray
    simp [ClientLoop.step, TcpClient.stop, null]
  | close =>
    obtain ⟨⟨retry, wanted⟩, null, rfl, rfl⟩ := stray
    simp [ClientLoop.step, TcpClient.removeConnection, Connector.queueInLoop, retry, wanted, null]
  | functor =>
    obtain ⟨⟨front, gone⟩, rfl, rfl⟩ := stray
    have gone : l.client.connector = false ∧ l.timers = [] := by simpa [Held] using gone
    cases pending : l.pending with
    | nil => simp [pending] at front
    | cons functor rest =>
      have first : functor = .stopInLoop := by simpa [pending] using front
      simp [ClientLoop.step, pending, first, ClientLoop.runFunctor, gone.1, gone.2]
  | disconnect | enableRetry | timer index answers | event revents soError selfConnect =>
    exact absurd stray id

/-! ## The end of the client -/

structure Inv (s : OwnedClient) : Prop where
  shape : Shape s.loop
  gone : s.alive = false → Idle s.loop

/-- Only one `shared_ptr` of the connector is left, that of the client or of `removeConnector`. -/
def LastPointer (l : ClientLoop) : Prop := l.client.connector = true ∧ l.timers = []

/-- The channel is gone. -/
def Free (l : ClientLoop) : Prop :=
  l.connector.state ≠ .KConnecting ∧ ClientFunctor.resetChannel ∉ l.pending

/-- Whether the connector has a channel can be told from the queue and the state. -/
theorem Shape.free_iff (shape : Shape l) : l.connector.channel = none ↔ Free l := by
  by_cases connecting : l.connector.state = .KConnecting
  · obtain ⟨socket, channel, _⟩ := shape.connecting connecting
    simp [channel, Free, connecting]
  · rw [(shape.reset connecting).channel_iff]
    simp [Free, connecting]

/-- The pointer is given up, or `~Connector` finds the channel. -/
theorem dropConnector_keeps (shape : Shape l) : Keeps l (dropConnector l) := by
  unfold dropConnector
  split
  · refine Keeps.after (release_keeps ?_) id
    exact shape.toForm.move rfl rfl (.inl rfl) rfl
  · exact keeps_same shape

/-- `~Connector` runs with the last pointer, and its assertion needs the channel gone. -/
theorem dropConnector_ok_iff (shape : Shape l) :
    (∃ l', dropConnector l = .ok l') ↔ (LastPointer l → Free l) := by
  unfold dropConnector Connector.release
  by_cases held : l.client.connector = true
  · by_cases last : l.timers = []
    · by_cases free : l.connector.channel = none
      · have passes := shape.free_iff.mp free
        simp [held, last, free, cassert, passes]
      · have busy : ¬Free l := fun passes => free (shape.free_iff.mpr passes)
        simp [held, last, free, cassert, busy, LastPointer]
    · simp [held, last, LastPointer]
  · simp [held, LastPointer]

theorem clientStep_ends (inv : Inv s) {a : ClientLoop.Act} (enabled : s.Enabled (.client a)) :
    Ends (s.clientStep a) Inv (Within (Stray s.loop a)) := by
  refine Ends.bind (@step_holds _ a inv.shape) fun loop _ ⟨shape, idle⟩ => ?_
  have gone : s.alive = false → Idle loop := by
    intro dead
    refine idle ?_ (inv.gone dead)
    rintro answers rfl
    have alive : s.alive = true := enabled
    rw [dead] at alive
    cases alive
  split
  next called => exact absurd (gone called.1).1 called.2
  next => exact ⟨shape, gone⟩

/-- What is undefined for a client and its owner. -/
def StrayStep (s : OwnedClient) : Act → SourceFile → Nat → Prop
  | .client a, file, line => Stray s.loop a file line
  | .destroy _, file, line =>
    (s.loop.client.connection = none ∧ s.loop.client.connector = false) ∧
      file = .tcpClientCpp ∧ line = 62
  | _, _, _ => False

/-- The client is destroyed without a connection. -/
theorem stop_idle (shape : Shape l) (unconnected : l.client.connection = none) :
    Shape (Connector.stop l) ∧ Idle (Connector.stop l) := by
  refine ⟨shape.move rfl rfl id (.inl rfl) ?_, unconnected, .inl rfl⟩
  simp [Connector.stop, Connector.queueInLoop]

/-- What `~TcpClient` needs: without a connection `connector_`, and with one that `resetChannel` is
not queued, unless a retry timer keeps the connector. -/
def Destroyable (l : ClientLoop) : Prop :=
  (l.client.connection = none ∧ l.client.connector = true) ∨
    (l.client.connection ≠ none ∧ (LastPointer l → ClientFunctor.resetChannel ∉ l.pending))

/-- The loop without the member `connection_`. -/
def disowned (l : ClientLoop) : ClientLoop :=
  { l with client := { l.client with connection := none } }

theorem disowned_shape (shape : Shape l) : Shape (disowned l) := shape.move rfl rfl id (.inr rfl) rfl

theorem disowned_idle (shape : Shape l) (connection : l.client.connection ≠ none) :
    Idle (disowned l) := ⟨rfl, .inr (shape.connected connection)⟩

/-- A client that had a connection leaves a connector whose channel waits for `resetChannel` only. -/
theorem disowned_free (shape : Shape l) (connection : l.client.connection ≠ none) :
    Free (disowned l) ↔ ClientFunctor.resetChannel ∉ l.pending := by
  simp [Free, disowned, shape.connected connection]

/-- `~TcpClient` leaves the connector in its shape, or the timer that keeps it. -/
theorem destroy_ends (inv : Inv s) (unique : Bool) :
    Ends (s.destroy unique) Inv (Within (StrayStep s (.destroy unique))) := by
  unfold OwnedClient.destroy
  split
  next socket connected =>
    have idle := disowned_idle inv.shape (by simp [connected])
    have keeps := dropConnector_keeps (disowned_shape inv.shape)
    have dropped : Ends (dropConnector (disowned s.loop)) (fun l => Shape l ∧ Idle l)
        (Within (StrayStep s (.destroy unique))) := by
      refine .of_faults (fun l returned => ?_) ((keeps.faults).imp fun _ => Defined.within)
      obtain ⟨shape, still⟩ := keeps.of_ok returned
      exact ⟨shape, still idle⟩
    exact dropped.bind fun l _ ⟨shape, idle⟩ => ⟨shape, fun _ => idle⟩
  next unconnected =>
    split
    next null =>
      rintro _ _ ⟨⟩
      exact ⟨⟨unconnected, null⟩, rfl, rfl⟩
    next =>
      obtain ⟨shape, idle⟩ := stop_idle inv.shape unconnected
      exact ⟨shape, fun _ => idle⟩

theorem destroy_ok_iff (inv : Inv s) (unique : Bool) :
    (∃ s', s.destroy unique = .ok s') ↔ Destroyable s.loop := by
  unfold OwnedClient.destroy Destroyable
  split
  next socket connected =>
    have dropped := dropConnector_ok_iff (disowned_shape inv.shape)
    rw [disowned_free inv.shape (by simp [connected])] at dropped
    change _ ↔ (LastPointer s.loop → _) at dropped
    simp only [connected, ne_eq, reduceCtorEq, not_false_eq_true, true_and, false_and, false_or]
    rw [← dropped]
    constructor
    · rintro ⟨s', success⟩
      obtain ⟨l, returned, _⟩ := bind_eq_ok success
      exact ⟨l, returned⟩
    · rintro ⟨l, returned⟩
      unfold disowned at returned
      rw [returned]
      exact ⟨_, rfl⟩
  next unconnected =>
    by_cases null : s.loop.client.connector = false
    · simp [unconnected, null]
    · simp [unconnected, null]

theorem removeConnection_inv (inv : Inv s) : Inv s.removeConnection := by
  refine ⟨inv.shape.move rfl rfl id (.inl rfl) ?_, inv.gone⟩
  simp [OwnedClient.removeConnection, Connector.queueInLoop]

/-- Every step, of the client, its destructor and the timer after it. -/
theorem step_ends (inv : Inv s) {a : Act} (enabled : s.Enabled a) :
    Ends (s.step a) Inv (Within (StrayStep s a)) := by
  cases a with
  | client a => exact clientStep_ends inv enabled
  | destroy unique => exact destroy_ends inv unique
  | removeConnector =>
    have keeps := dropConnector_keeps inv.shape
    have dropped : Ends (dropConnector s.loop) (fun l => Shape l ∧ (Idle s.loop → Idle l))
        (Within (StrayStep s .removeConnector)) :=
      .of_faults (fun l returned => keeps.of_ok returned) ((keeps.faults).imp fun _ => Defined.within)
    exact dropped.bind fun l _ ⟨shape, idle⟩ => ⟨shape, fun dead => idle (inv.gone dead)⟩
  | forceCloseInLoop =>
    have run : Inv { s with forced := false } := ⟨inv.shape, inv.gone⟩
    simp only [OwnedClient.step]
    split
    · exact run
    · exact removeConnection_inv run
  | closeLeft => exact removeConnection_inv inv

/-- The stray steps are undefined behaviour, in both stages. -/
theorem step_of_strayStep {a : Act} {file : SourceFile} {line : Nat}
    (stray : StrayStep s a file line) : s.step a = .error (.undefinedBehaviour file line) := by
  cases a with
  | client a => simp [OwnedClient.step, clientStep, step_of_stray stray]
  | destroy unique =>
    obtain ⟨⟨unconnected, null⟩, rfl, rfl⟩ := stray
    simp [OwnedClient.step, OwnedClient.destroy, unconnected, null]
  | removeConnector | forceCloseInLoop | closeLeft => exact absurd stray id

/-! ## Every run -/

structure EndsWell (s : OwnedClient) : Prop where
  /-- A client that is gone is not called, and a connector that is gone only by `stopInLoop`. -/
  undefined : ∀ a file line, s.Enabled a →
    (s.step a = .error (.undefinedBehaviour file line) ↔ StrayStep s a file line)
  destroyed : ∀ unique, s.Enabled (.destroy unique) →
    ((∃ s', s.step (.destroy unique) = .ok s') ↔ Destroyable s.loop)
  removed : s.Enabled .removeConnector →
    ((∃ s', s.step .removeConnector = .ok s') ↔ (LastPointer s.loop → Free s.loop))

theorem Inv.endsWell (inv : Inv s) : EndsWell s := by
  refine ⟨fun a file line enabled => ⟨fun failed => ?_, step_of_strayStep⟩,
    fun unique _ => destroy_ok_iff inv unique, fun _ => ?_⟩
  · exact (step_ends inv enabled).faults _ failed file line rfl
  · rw [← dropConnector_ok_iff inv.shape]
    constructor
    · rintro ⟨s', success⟩
      obtain ⟨l, returned, _⟩ := bind_eq_ok success
      exact ⟨l, returned⟩
    · rintro ⟨l, returned⟩
      simp [OwnedClient.step, returned]

/-- In every run, with the client destroyed at any point of it. -/
theorem client_ends_well {actions : List Act} (run : machine.Run .new actions s) : EndsWell s := by
  have inv : Inv s :=
    @Machine.Run.invariant _ _ _ machine Inv _ _ _
      (fun _ _ _ inv enabled stepped => (step_ends inv enabled).of_ok stepped)
      ⟨new_shape, fun dead => by cases dead⟩ run
  exact inv.endsWell

def inProgress : ConnectAnswers := ⟨none, some .EINPROGRESS⟩

/-- The client is connected, calls `stop`, and is destroyed; `stopInLoop` runs for its connector. -/
theorem client_ends_well_stop : ∃ s, machine.Run .new
      [.client (.connect inProgress), .client (.event EPOLLOUT false false), .client .functor,
        .client .stop, .destroy true] s ∧
    s.loop.client.connector = false ∧
    s.step (.client .functor) = .error (.undefinedBehaviour .connectorCpp 57) := by
  obtain ⟨s, run, passes⟩ := machine.exists_run_of_exec .new
      [.client (.connect inProgress), .client (.event EPOLLOUT false false), .client .functor,
        .client .stop, .destroy true]
    (fun s => decide (s.loop.client.connector = false ∧ s.loop.pending = [.stopInLoop] ∧
      s.loop.timers = [])) (by decide +kernel)
  obtain ⟨gone, queued, timers⟩ := of_decide_eq_true passes
  have enabled : s.Enabled (.client .functor) := by
    show s.loop.pending ≠ []
    simp [queued]
  have stray : StrayStep s (.client .functor) .connectorCpp 57 := by
    refine ⟨⟨by simp [queued], ?_⟩, rfl, rfl⟩
    simp [Held, gone, timers]
  exact ⟨s, run, gone, ((client_ends_well run).undefined _ _ _ enabled).mpr stray⟩

/-- A client that is connecting is destroyed, and then its socket becomes writable: the connection is
not made. -/
example : ((machine.exec .new [.client (.connect inProgress), .destroy false,
    .client (.event EPOLLOUT false false), .client .functor, .client .functor,
    .removeConnector]).map fun s => s.loop.sockets) = some [.closed] := by decide +kernel

end Starry.Guarantees.ClientDestruction
