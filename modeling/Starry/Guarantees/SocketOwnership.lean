import Starry.Foundation.Lifetimes
import Starry.Source.ConnectorSockets

/-!
# Who owns a connecting socket

A socket leaves the connector through `retry`, `stopInLoop`, `handleError` or `handleWrite`, and
the last two may run for one event. Each of them first takes the connector out of `KConnecting`,
so the next one finds nothing to close: over every run a socket is closed once or handed over
once, and it is open in the connector only while that is connecting with it. The account of
`Starry.Foundation.Lifetimes` is kept with closing and handing over as the two ways to give a
socket up.

After `stop` the flag `connect_` is off until the next `start`, and no socket is handed over.
-/
namespace Starry.Guarantees.SocketOwnership

open Starry.Foundation
open Starry.Source
open Starry.Source.ConnectorLoop

variable {l l' : ConnectorLoop} {socket : Nat}

def closings (l : ConnectorLoop) (socket : Nat) : Nat := l.ledger.count (.closed socket)

def handovers (l : ConnectorLoop) (socket : Nat) : Nat := l.ledger.count (.handedOver socket)

/-- The connector is connecting with the socket. -/
structure Held (l : ConnectorLoop) (socket : Nat) : Prop where
  state : l.connector.state = .KConnecting
  channel : l.connector.channel = some ⟨socket, true⟩

structure Owned (l : ConnectorLoop) : Prop where
  /-- A created socket is closed once, handed over once, or held. -/
  once : ∀ socket < l.sockets,
    (closings l socket = 1 ∧ handovers l socket = 0) ∨
    (closings l socket = 0 ∧ handovers l socket = 1) ∨
    (closings l socket = 0 ∧ handovers l socket = 0 ∧ Held l socket)
  /-- No other socket is closed or handed over. -/
  own : ∀ socket, l.sockets ≤ socket → closings l socket = 0 ∧ handovers l socket = 0
  /-- Out of `KConnecting` no created socket is open in the connector. -/
  idle : l.connector.state ≠ .KConnecting → ∀ socket < l.sockets,
    closings l socket + handovers l socket = 1

/-! ## The account of the sockets -/

def asUse : SocketEvent → Use Unit Nat
  | .opened socket => .constructed socket
  | .closed socket | .handedOver socket => .deleted socket

/-- The sockets in `live` are open, and all others have been given up once. -/
structure Account (l : ConnectorLoop) (live : Nat → Prop) : Prop where
  uses : Use.Account (l.ledger.map asUse) live
  numbered : ∀ socket, .opened socket ∈ l.ledger ↔ socket < l.sockets

/-- A socket is constructed when it is opened. -/
theorem constructed_iff {ledger : List SocketEvent} :
    Use.constructed socket ∈ ledger.map asUse ↔ .opened socket ∈ ledger := by
  rw [List.mem_map]
  constructor
  · rintro ⟨event, member, same⟩
    cases event with
    | opened other =>
      cases same
      exact member
    | closed other => cases same
    | handedOver other => cases same
  · exact fun member => ⟨_, member, rfl⟩

theorem count_deleted (ledger : List SocketEvent) (socket : Nat) :
    (ledger.map asUse).count (.deleted socket) =
      ledger.count (.closed socket) + ledger.count (.handedOver socket) := by
  induction ledger with
  | nil => rfl
  | cons event rest ih =>
    rw [List.map_cons, List.count_cons, List.count_cons, List.count_cons, ih]
    cases event with
    | opened other => simp [asUse]
    | closed other =>
      simp only [asUse, beq_iff_eq, reduceCtorEq, Use.deleted.injEq, SocketEvent.closed.injEq, if_false]
      omega
    | handedOver other =>
      simp only [asUse, beq_iff_eq, reduceCtorEq, Use.deleted.injEq, SocketEvent.handedOver.injEq,
        if_false]
      omega

theorem Account.congr {live live' : Nat → Prop} (account : Account l live)
    (ledger : l'.ledger = l.ledger) (sockets : l'.sockets = l.sockets)
    (same : ∀ socket, live' socket ↔ live socket) : Account l' live' := by
  obtain ⟨uses, numbered⟩ := account
  refine ⟨?_, ?_⟩
  · rw [ledger]
    exact uses.congr same
  · rw [ledger, sockets]
    exact numbered

/-- `createNonblocking` enters a socket that is live. -/
theorem Account.create (account : Account l fun _ => False) :
    Account l.createSocket fun other => other = l.sockets := by
  obtain ⟨uses, numbered⟩ := account
  have fresh : Use.constructed l.sockets ∉ l.ledger.map asUse := by
    rw [constructed_iff, numbered]
    omega
  refine ⟨?_, ?_⟩
  · have opened := (uses.construct fresh).congr fun other => (or_iff_right id).symm
    simpa [createSocket, note, asUse] using opened
  · intro socket
    simp only [createSocket, note, List.mem_append, List.mem_singleton, numbered,
      SocketEvent.opened.injEq]
    omega

/-- The one open socket is given up. -/
theorem Account.settle (account : Account l fun other => other = socket) (event : SocketEvent)
    (settles : asUse event = .deleted socket) : Account (l.note event) fun _ => False := by
  obtain ⟨uses, numbered⟩ := account
  refine ⟨?_, ?_⟩
  · have gone := (uses.delete rfl).congr fun other => (and_not_self_iff (other = socket)).symm
    simpa [note, settles] using gone
  · intro other
    have unopened : event ≠ .opened other := by
      rintro rfl
      cases settles
    simp [note, numbered, unopened.symm]

/-! ## The invariant -/

structure Inv (l : ConnectorLoop) : Prop where
  account : Account l (Held l)
  attempt : l.connector.state = .KConnecting → ∃ socket, l.connector.channel = some ⟨socket, true⟩

theorem Inv.of_idle (account : Account l fun _ => False) (idle : l.connector.state ≠ .KConnecting) :
    Inv l := by
  refine ⟨account.congr rfl rfl fun socket => ?_, fun connecting => absurd connecting idle⟩
  exact ⟨fun held => idle held.state, False.elim⟩

theorem Inv.idle (inv : Inv l) (idle : l.connector.state ≠ .KConnecting) :
    Account l fun _ => False := by
  refine inv.account.congr rfl rfl fun socket => ?_
  exact ⟨False.elim, fun held => idle held.state⟩

theorem new_inv : Inv .new := by
  refine .of_idle ⟨?_, ?_⟩ (by decide)
  · exact .nil fun _ => id
  · simp [ConnectorLoop.new]

/-- The connector's state, channel and ledger are as before. -/
theorem Inv.move (inv : Inv l) (state : l'.connector.state = l.connector.state)
    (channel : l'.connector.channel = l.connector.channel) (sockets : l'.sockets = l.sockets)
    (ledger : l'.ledger = l.ledger) : Inv l' := by
  obtain ⟨account, attempt⟩ := inv
  refine ⟨account.congr ledger sockets fun socket => ?_, ?_⟩
  · constructor
    · rintro ⟨state', channel'⟩
      exact ⟨state.symm.trans state', channel.symm.trans channel'⟩
    · rintro ⟨state', channel'⟩
      exact ⟨state.trans state', channel.trans channel'⟩
  · rw [state, channel]
    exact attempt

/-- A step that returns keeps the invariant. -/
def Keeps (outcome : Except Abort ConnectorLoop) : Prop := Ends outcome Inv fun _ => True

theorem keeps_error {reason : Abort} : Keeps (.error reason) := trivial

/-- `retry` closes the socket of the attempt. -/
theorem Inv.retry (account : Account l fun other => other = socket) : Inv (l.retry socket) := by
  have settled := account.settle (.closed socket) rfl
  unfold ConnectorLoop.retry
  dsimp only
  split
  · exact .of_idle (settled.congr rfl rfl fun _ => Iff.rfl) (by simp [setState])
  · exact .of_idle (settled.congr rfl rfl fun _ => Iff.rfl) (by simp [setState])

/-- The channel of the attempt owns its socket. -/
theorem Account.connecting (account : Account l fun other => other = socket) :
    Keeps (l.connecting socket) := by
  unfold ConnectorLoop.connecting
  refine ends_cassert trivial fun _ => ?_
  refine ⟨account.congr rfl rfl fun other => ?_, fun _ => ⟨socket, rfl⟩⟩
  constructor
  · rintro ⟨_, channel⟩
    simpa using channel.symm
  · rintro rfl
    exact ⟨rfl, rfl⟩

theorem Inv.startInLoop (inv : Inv l) (answers : ConnectAnswers) : Keeps (l.startInLoop answers) := by
  unfold ConnectorLoop.startInLoop
  refine ends_cassert trivial fun disconnected => ?_
  split
  · have created := (inv.idle (by rw [disconnected]; decide)).create
    unfold ConnectorLoop.connect
    split
    · exact keeps_error
    · split
      all_goals first
        | exact created.connecting
        | exact Inv.retry created
        | exact keeps_error
  · exact inv

/-! ## The end of an attempt -/

/-- What `removeAndResetChannel` leaves of an attempt. -/
theorem removeAndResetChannel_yields {state : ConnectorState} (inv : Inv l)
    (connecting : l.connector.state = .KConnecting) :
    Yields (l.setState state).removeAndResetChannel fun out =>
      Account out.2 fun other => other = out.1 := by
  obtain ⟨socket, channel⟩ := inv.attempt connecting
  unfold ConnectorLoop.removeAndResetChannel
  simp only [setState, channel]
  refine .ok (inv.account.congr rfl rfl fun other => ?_)
  constructor
  · rintro rfl
    exact ⟨connecting, channel⟩
  · rintro ⟨_, held⟩
    rw [channel] at held
    simpa using held.symm

/-- The channel is removed, and what comes next gives up its socket. -/
theorem Inv.removed {next : Nat × ConnectorLoop → Except Abort ConnectorLoop} (inv : Inv l)
    (state : ConnectorState) (connecting : l.connector.state = .KConnecting)
    (later : ∀ socket left, (Account left fun other => other = socket) → Keeps (next (socket, left))) :
    Keeps ((l.setState state).removeAndResetChannel >>= next) := by
  obtain ⟨⟨socket, left⟩, returned, account⟩ := removeAndResetChannel_yields inv connecting
  rw [returned]
  exact later socket left account

/-- A stop closes the socket of the attempt. -/
theorem Inv.stopInLoop (inv : Inv l) : Keeps l.stopInLoop := by
  unfold ConnectorLoop.stopInLoop
  split
  next connecting => exact inv.removed .KConnected connecting fun socket left account => .retry account
  next => exact inv

theorem Inv.handleError (inv : Inv l) : Keeps l.handleError := by
  unfold ConnectorLoop.handleError
  split
  next connecting =>
    exact inv.removed l.connector.state connecting fun socket left account => Inv.retry account
  next => exact inv

/-- A socket that is connected is handed over, or closed if nobody wants it. -/
theorem Inv.handleWrite (inv : Inv l) (soError selfConnect : Bool) :
    Keeps (l.handleWrite soError selfConnect) := by
  unfold ConnectorLoop.handleWrite
  split
  next connecting =>
    refine inv.removed l.connector.state connecting fun socket left account => ?_
    have connected : Account (left.setState .KConnected) fun other => other = socket :=
      account.congr rfl rfl fun _ => Iff.rfl
    dsimp only
    split
    · exact Inv.retry account
    · split
      · exact Inv.retry account
      · split
        · exact Inv.of_idle (connected.settle (.handedOver socket) rfl) (by simp [note, setState])
        · exact Inv.of_idle (connected.settle (.closed socket) rfl) (by simp [note, setState])
  next => exact ends_cassert trivial fun _ => inv

/-- The handler of the error comes first; what it leaves is handled as writable. -/
theorem Inv.handleEvent (inv : Inv l) (revents : EventMask) (soError selfConnect : Bool) :
    Keeps (l.handleEvent revents soError selfConnect) := by
  have handled : Keeps (if revents &&& EPOLLERR ≠ 0#32 then l.handleError else .ok l) := by
    split
    · exact inv.handleError
    · exact inv
  refine handled.bind fun left _ kept => ?_
  split
  · exact kept.handleWrite soError selfConnect
  · exact kept

/-! ## Every step -/

theorem Inv.resetChannel (inv : Inv l) : Keeps l.resetChannel := by
  unfold ConnectorLoop.resetChannel
  refine ends_cassert trivial fun unwatched => ?_
  have idle : l.connector.state ≠ .KConnecting := by
    intro connecting
    obtain ⟨socket, channel⟩ := inv.attempt connecting
    have watched := unwatched ⟨socket, true⟩ (by simp [channel])
    cases watched
  exact Inv.of_idle ((inv.idle idle).congr rfl rfl fun _ => Iff.rfl) idle

theorem Inv.runFunctor (inv : Inv l) (answers : ConnectAnswers) (functor : ConnectorFunctor) :
    Keeps (l.runFunctor answers functor) := by
  cases functor with
  | startInLoop => exact inv.startInLoop answers
  | stopInLoop => exact inv.stopInLoop
  | resetChannel => exact inv.resetChannel

/-- Every step keeps the account of the sockets. -/
theorem Inv.step (inv : Inv l) (a : Act) : Keeps (l.step a) := by
  cases a with
  | start answers =>
    have stored : Inv (l.setConnect true) := inv.move rfl rfl rfl rfl
    exact stored.startInLoop answers
  | storeStart | storeStop => exact inv.move rfl rfl rfl rfl
  | queue index =>
    simp only [ConnectorLoop.step]
    split
    · exact inv
    · exact inv.move rfl rfl rfl rfl
  | timer index answers =>
    have fired : Inv { l with timers := l.timers.eraseIdx index } := inv.move rfl rfl rfl rfl
    exact fired.startInLoop answers
  | event revents soError selfConnect => exact inv.handleEvent revents soError selfConnect
  | functor answers =>
    simp only [ConnectorLoop.step]
    split
    · exact inv
    next functor rest _ =>
      have popped : Inv { l with pending := rest } := inv.move rfl rfl rfl rfl
      exact popped.runFunctor answers functor

theorem run_inv {actions : List Act} (inv : Inv l) (run : machine.Run l actions l') : Inv l' :=
  @Machine.Run.invariant _ _ _ machine Inv _ _ _
    (fun _ a _ inv _ stepped => (inv.step a).of_ok stepped) inv run

/-! ## What the account says -/

/-- No socket is given up twice, and those given up are the ones no longer live. -/
theorem Account.given_up {live : Nat → Prop} (account : Account l live) :
    closings l socket + handovers l socket ≤ 1 ∧
      (closings l socket + handovers l socket = 0 ↔ ¬(socket < l.sockets ∧ ¬live socket)) := by
  have total := count_deleted l.ledger socket
  have most := account.uses.deleted_once socket
  have deletions := account.uses.deletions socket
  rw [constructed_iff, account.numbered] at deletions
  rw [← deletions, ← List.count_eq_zero]
  simp only [closings, handovers]
  rw [total] at most ⊢
  exact ⟨most, Iff.rfl⟩

theorem Inv.owned (inv : Inv l) : Owned l := by
  refine ⟨?_, ?_, ?_⟩
  · intro socket created
    obtain ⟨most, none⟩ := @Account.given_up l socket _ inv.account
    by_cases held : Held l socket
    · have open' := none.mpr fun both => both.2 held
      exact .inr (.inr ⟨by omega, by omega, held⟩)
    · have some := mt none.mp (not_not.mpr ⟨created, held⟩)
      omega
  · intro socket beyond
    have none := (@Account.given_up l socket _ inv.account).2.mpr fun both => by omega
    exact ⟨by omega, by omega⟩
  · intro idle socket created
    obtain ⟨most, none⟩ := @Account.given_up l socket _ (inv.idle idle)
    have some := mt none.mp (not_not.mpr ⟨created, id⟩)
    omega

/-! ## After a stop -/

def isHandover : SocketEvent → Bool
  | .handedOver _ => true
  | _ => false

/-- The calls of `newConnectionCallback_`, in order. -/
def callbacks (l : ConnectorLoop) : List SocketEvent := l.ledger.filter isHandover

/-- A call of `start`. -/
def IsStart : Act → Prop
  | .start _ | .storeStart => True
  | _ => False

/-- `connect_` is off, and the callbacks so far are those of `given`. -/
structure Stopped (given : List SocketEvent) (l : ConnectorLoop) : Prop where
  connectFlag : l.connector.connectFlag = false
  callbacks : callbacks l = given

variable {given : List SocketEvent}

def KeepsStopped (given : List SocketEvent) (outcome : Except Abort ConnectorLoop) : Prop :=
  Ends outcome (Stopped given) fun _ => True

theorem Stopped.move (stopped : Stopped given l)
    (flag : l'.connector.connectFlag = l.connector.connectFlag) (ledger : l'.ledger = l.ledger) :
    Stopped given l' := by
  obtain ⟨off, same⟩ := stopped
  refine ⟨flag.trans off, ?_⟩
  rw [SocketOwnership.callbacks, ledger]
  exact same

theorem Stopped.close (stopped : Stopped given l) (socket : Nat) :
    Stopped given (l.note (.closed socket)) := by
  obtain ⟨off, same⟩ := stopped
  refine ⟨off, ?_⟩
  simpa [SocketOwnership.callbacks, note, List.filter_append, isHandover] using same

/-- A retry closes, and does not arm the timer once the connector is stopped. -/
theorem Stopped.retry (stopped : Stopped given l) (socket : Nat) : Stopped given (l.retry socket) := by
  unfold ConnectorLoop.retry
  dsimp only
  split
  · exact (stopped.close socket).move rfl rfl
  · exact (stopped.close socket).move rfl rfl

/-- Without `connect_` no attempt is begun. -/
theorem Stopped.startInLoop (stopped : Stopped given l) (answers : ConnectAnswers) :
    KeepsStopped given (l.startInLoop answers) := by
  unfold ConnectorLoop.startInLoop
  refine ends_cassert trivial fun _ => ?_
  rw [stopped.connectFlag, if_neg Bool.false_ne_true]
  exact stopped

/-- What follows `removeAndResetChannel` in a stopped connector. -/
theorem Stopped.removed {next : Nat × ConnectorLoop → Except Abort ConnectorLoop}
    (stopped : Stopped given l)
    (later : ∀ socket left, Stopped given left → KeepsStopped given (next (socket, left))) :
    KeepsStopped given (l.removeAndResetChannel >>= next) := by
  unfold ConnectorLoop.removeAndResetChannel
  split
  · trivial
  · exact later _ _ (stopped.move rfl rfl)

theorem Stopped.handleError (stopped : Stopped given l) : KeepsStopped given l.handleError := by
  unfold ConnectorLoop.handleError
  split
  · exact stopped.removed fun socket left kept => kept.retry socket
  · exact stopped

/-- With `connect_` false the socket is closed. -/
theorem Stopped.handleWrite (stopped : Stopped given l) (soError selfConnect : Bool) :
    KeepsStopped given (l.handleWrite soError selfConnect) := by
  unfold ConnectorLoop.handleWrite
  split
  · refine stopped.removed fun socket left kept => ?_
    have connected : Stopped given (left.setState .KConnected) := kept.move rfl rfl
    dsimp only
    split
    · exact kept.retry socket
    · split
      · exact kept.retry socket
      · -- the socket is connected, and closed because of `connect_`
        rw [connected.connectFlag, if_neg Bool.false_ne_true]
        exact connected.close socket
  · exact ends_cassert trivial fun _ => stopped

theorem Stopped.runFunctor (stopped : Stopped given l) (answers : ConnectAnswers)
    (functor : ConnectorFunctor) : KeepsStopped given (l.runFunctor answers functor) := by
  cases functor with
  | startInLoop => exact stopped.startInLoop answers
  | stopInLoop =>
    simp only [ConnectorLoop.runFunctor, ConnectorLoop.stopInLoop]
    split
    · have connected : Stopped given (l.setState .KConnected) := stopped.move rfl rfl
      exact connected.removed fun socket left kept => kept.retry socket
    · exact stopped
  | resetChannel => exact ends_cassert trivial fun _ => stopped.move rfl rfl

/-- No step but a start hands a socket over after a stop. -/
theorem Stopped.step (stopped : Stopped given l) {a : Act} (other : ¬IsStart a) :
    KeepsStopped given (l.step a) := by
  cases a with
  | start answers => exact absurd trivial other
  | storeStart => exact absurd trivial other
  | storeStop => exact ⟨rfl, stopped.callbacks⟩
  | queue index =>
    simp only [ConnectorLoop.step]
    split
    · exact stopped
    · exact stopped.move rfl rfl
  | timer index answers =>
    have fired : Stopped given { l with timers := l.timers.eraseIdx index } := stopped.move rfl rfl
    exact fired.startInLoop answers
  | event revents soError selfConnect =>
    have handled : KeepsStopped given
        (if revents &&& EPOLLERR ≠ 0#32 then l.handleError else .ok l) := by
      split
      · exact stopped.handleError
      · exact stopped
    refine handled.bind fun left _ kept => ?_
    split
    · exact kept.handleWrite soError selfConnect
    · exact kept
  | functor answers =>
    simp only [ConnectorLoop.step]
    split
    · exact stopped
    next functor rest _ =>
      have popped : Stopped given { l with pending := rest } := stopped.move rfl rfl
      exact popped.runFunctor answers functor

theorem run_stopped {later : List Act} (stopped : Stopped given l) (run : machine.Run l later l')
    (others : ∀ a ∈ later, ¬IsStart a) : Stopped given l' := by
  have kept : (∀ a ∈ [] ++ later, ¬IsStart a) → Stopped given l' :=
    @Machine.Run.history _ _ _ machine
      (fun past l => (∀ a ∈ past, ¬IsStart a) → Stopped given l) _ _ [] _
      (fun past l a l' before _ stepped others => by
        have stopped := before fun b member => others b (List.mem_append_left _ member)
        exact (stopped.step (others a (by simp))).of_ok stepped)
      (fun _ => stopped) run
  exact kept others

/-! ## Every run -/

/-- Every created socket is closed once or handed over once, unless the connector is connecting
with it; and between a `stop` and the next `start` none is handed over. -/
theorem sockets_owned :
    (∀ actions l, machine.Run .new actions l → Owned l) ∧
    (∀ past l stopped later l', machine.Run .new past l → machine.step l .storeStop = .ok stopped →
      machine.Run stopped later l' → (∀ a ∈ later, ¬IsStart a) → callbacks l' = callbacks stopped) := by
  refine ⟨fun actions l run => (run_inv new_inv run).owned, ?_⟩
  intro past l stopped later l' _ stepped run others
  cases stepped
  exact (run_stopped ⟨rfl, rfl⟩ run others).callbacks

def inProgress : ConnectAnswers := ⟨none, some .EINPROGRESS⟩

/-- The first socket fails with EPOLLERR and EPOLLOUT in one event, so does the second, a
`stop` of another thread comes before its retry timer, and the third is handed over. -/
def threeSockets : List Act :=
  [.start inProgress, .event (EPOLLERR ||| EPOLLOUT) true false, .functor inProgress,
    .timer 0 inProgress, .event (EPOLLERR ||| EPOLLOUT) false false, .functor inProgress,
    .storeStop, .timer 0 inProgress, .queue 0, .functor inProgress, .start inProgress,
    .event EPOLLOUT false false]

/-- The first socket is refused, the second is stopped, and the third is handed over. -/
theorem sockets_owned_three_sockets : ∃ l, machine.Run .new threeSockets l ∧
    l.ledger = [.opened 0, .closed 0, .opened 1, .closed 1, .opened 2, .handedOver 2] ∧ Owned l := by
  obtain ⟨l, run, holds⟩ := machine.exists_run_of_exec .new threeSockets
    (fun l => decide (l.ledger =
      [SocketEvent.opened 0, .closed 0, .opened 1, .closed 1, .opened 2, .handedOver 2]))
    (by decide +kernel)
  exact ⟨l, run, of_decide_eq_true holds, sockets_owned.1 _ _ run⟩

end Starry.Guarantees.SocketOwnership
