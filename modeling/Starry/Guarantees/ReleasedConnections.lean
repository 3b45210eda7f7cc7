import Starry.Guarantees.ConnectionRegistry
import Starry.Guarantees.LoopAffinity
import Starry.Source.OwnedServer

/-!
# What the destructor of a server leaves of a connection

`Stands` says how far a connection is and what waits for it: in its own loop the functors that
move it on, the last of them the `connectDestroyed` that the destructor queued, and in the base
loop its `removeConnectionInLoop`. `Released` is what holds of each connection from the
destructor on. `_goes` says of each function of a connection that it stays so, and
`releases_released` that the loop of the destructor brings every connection there.
-/
namespace Starry.Guarantees.ReleasedConnections

open Starry.Foundation
open Starry.Source
open Starry.Guarantees.ConnectionRegistry (history lifeCycle pendingOf subject isLife Touches Stays)

/-- The lives of connections, whether the server is destroyed on the way or not. The last is
that of a connection destroyed in `kDisconnecting`. -/
def lives : List (List Life) :=
  [lifeCycle, [.accepted, .established, .closed, .destroyed],
    [.accepted, .established, .destroyed, .closed]]

/-! ## Where a connection stands -/

/-- How far a connection is. -/
inductive Stage where
  | accepted | established | closed | erased | destroyed
  /-- Destroyed when it was established; it may be left in `kDisconnecting`. -/
  | torn | tornOpen
  | tornClosed
  /-- Closed after it was destroyed. -/
  | reclosed

namespace Stage

def path : Stage → List Life
  | .accepted => [.accepted]
  | .established => [.accepted, .established]
  | .closed => [.accepted, .established, .closed]
  | .erased => [.accepted, .established, .closed, .erased]
  | .destroyed => lifeCycle
  | .torn | .tornOpen => [.accepted, .established, .destroyed]
  | .tornClosed => [.accepted, .established, .closed, .destroyed]
  | .reclosed => [.accepted, .established, .destroyed, .closed]

/-- What waits in the loop of the connection to move it on; `due` is what the destructor added. -/
def own (c : Nat) (due : List ServerFunctor) : Stage → List ServerFunctor
  | .accepted => .connectEstablished c :: due
  | .established | .closed => due
  | .erased => [.ofConnection c .connectDestroyed]
  | .destroyed | .torn | .tornOpen | .tornClosed | .reclosed => []

def removals (c : Nat) : Stage → List ServerFunctor
  | .closed | .tornClosed | .reclosed => [.removeConnectionInLoop c]
  | .accepted | .established | .erased | .destroyed | .torn | .tornOpen => []

def Fits (conn : TcpConnection) : Stage → Prop
  | .accepted => conn.state = .kConnecting ∧ conn.channel.index = .kNew
  | .established | .tornOpen => conn.isOpen = true
  | .closed | .erased | .destroyed | .torn | .tornClosed | .reclosed => conn.state = .kDisconnected

/-- Erased, or released by the destructor in the thread of the base loop. -/
def isPast : Stage → Bool
  | .accepted | .established | .closed => false
  | .erased | .destroyed | .torn | .tornOpen | .tornClosed | .reclosed => true

theorem path_prefix (stage : Stage) : ∃ life ∈ lives, stage.path <+: life := by
  cases stage with
  | accepted | established | closed | erased | destroyed => exact ⟨lifeCycle, by decide, by decide⟩
  | tornClosed => exact ⟨_, .tail _ (.head _), by decide⟩
  | torn | tornOpen | reclosed => exact ⟨_, .tail _ (.tail _ (.head _)), by decide⟩

/-- One `connectDestroyed` is due until the connection has been destroyed. -/
theorem count_own (c : Nat) (stage : Stage) :
    (stage.own c [.ofConnection c .connectDestroyed]).count (.ofConnection c .connectDestroyed) =
      if .destroyed ∉ stage.path then 1 else 0 := by
  cases stage <;> simp [own, path, lifeCycle]

theorem count_removals (c : Nat) (stage : Stage) :
    (stage.removals c).count (.removeConnectionInLoop c) =
      if .closed ∈ stage.path ∧ .erased ∉ stage.path then 1 else 0 := by
  cases stage <;> simp [removals, path, lifeCycle]

/-- A connection that is open and past the server was destroyed. -/
theorem open_past {stage : Stage} {conn : TcpConnection} (fits : stage.Fits conn)
    (opened : conn.isOpen = true) (past : stage.isPast = true) : stage = .tornOpen := by
  cases stage with
  | tornOpen => rfl
  | accepted | established | closed => cases past
  | erased | destroyed | torn | tornClosed | reclosed =>
    have state : conn.state = .kDisconnected := fits
    simp [TcpConnection.isOpen, state] at opened

theorem open_stage {stage : Stage} {conn : TcpConnection} (fits : stage.Fits conn)
    (opened : conn.isOpen = true) : stage = .established ∨ stage = .tornOpen := by
  cases stage with
  | established => exact .inl rfl
  | tornOpen => exact .inr rfl
  | accepted => simp [TcpConnection.isOpen, fits.1] at opened
  | closed | erased | destroyed | torn | tornClosed | reclosed =>
    have state : conn.state = .kDisconnected := fits
    simp [TcpConnection.isOpen, state] at opened

/-- A function that leaves the state within the open connection leaves its stage. -/
theorem Fits.stays {stage : Stage} {l l' : IoLoop} (fits : stage.Fits l.conn)
    (late : stage ≠ .accepted) (stays : Stays l l') : stage.Fits l'.conn := by
  have keepsOpen (opened : l.conn.isOpen = true) : l'.conn.isOpen = true := by
    rcases stays.state with same | ⟨_, disconnecting⟩
    · simpa [TcpConnection.isOpen, same] using opened
    · simp [TcpConnection.isOpen, disconnecting]
  have keepsClosed (closed : l.conn.state = .kDisconnected) : l'.conn.state = .kDisconnected := by
    rcases stays.state with same | ⟨opened, _⟩
    · exact same.trans closed
    · simp [TcpConnection.isOpen, closed] at opened
  cases stage with
  | accepted => exact absurd rfl late
  | established | tornOpen => exact keepsOpen fits
  | closed | erased | destroyed | torn | tornClosed | reclosed => exact keepsClosed fits

end Stage

/-! ## What waits for a connection -/

def isOwn : ServerFunctor → Bool
  | .connectEstablished _ | .ofConnection _ .connectDestroyed => true
  | .removeConnectionInLoop _ | .ofConnection _ _ => false

def isRemoval : ServerFunctor → Bool
  | .removeConnectionInLoop _ => true
  | .connectEstablished _ | .ofConnection _ _ => false

/-- The past of a connection, and what waits to move it on in its own loop and in the base loop. -/
structure Held (w : ServerWorld) (c : Nat) (sc : ServerConnection) (past : List Life)
    (own removals : List ServerFunctor) : Prop where
  found : w.conns[c]? = some sc
  history : history w.log c = past
  own : ∀ loop, (pendingOf w loop c).filter isOwn = if loop = sc.ioLoop then own else []
  removals : (pendingOf w 0 c).filter isRemoval = removals

structure Stands (w : ServerWorld) (c : Nat) (sc : ServerConnection) (stage : Stage)
    (due : List ServerFunctor) : Prop where
  held : Held w c sc stage.path (stage.own c due) (stage.removals c)
  fits : stage.Fits sc.conn
  early : stage = .accepted → ∀ loop, ∀ functor ∈ pendingOf w loop c, isLife functor = true

/-- What the destructor leaves of a connection. -/
def Released (w : ServerWorld) (c : Nat) : Prop :=
  (w.conns[c]? = none ∧ history w.log c = [] ∧ ∀ loop, pendingOf w loop c = []) ∨
  ∃ sc stage, Stands w c sc stage [.ofConnection c .connectDestroyed] ∧
    (sc.ioLoop = 0 → stage.isPast = true)

section Held

variable {w w' : ServerWorld} {c d : Nat} {sc : ServerConnection} {past : List Life}
variable {own removals due : List ServerFunctor} {stage : Stage}

/-- What one connection does changes nothing of what waits for another. -/
theorem Held.touch (held : Held w d sc past own removals) (touches : Touches c w w')
    (other : d ≠ c) : Held w' d sc past own removals where
  found := (touches.conns d other).trans held.found
  history := (touches.history d other).trans held.history
  own loop := by rw [touches.queued d other loop, held.own]
  removals := by rw [touches.queued d other 0, held.removals]

theorem Stands.touch (stands : Stands w d sc stage due) (touches : Touches c w w') (other : d ≠ c) :
    Stands w' d sc stage due where
  held := stands.held.touch touches other
  fits := stands.fits
  early accepted loop := by
    rw [touches.queued d other loop]
    exact stands.early accepted loop

theorem Released.touch (released : Released w d) (touches : Touches c w w') (other : d ≠ c) :
    Released w' d := by
  rcases released with ⟨absent, nothing, none⟩ | ⟨sc, stage, stands, base⟩
  · refine .inl ⟨?_, ?_, fun loop => ?_⟩
    · rw [touches.conns d other, absent]
    · rw [touches.history d other, nothing]
    · rw [touches.queued d other, none]
  · exact .inr ⟨sc, stage, stands.touch touches other, base⟩

/-- A released connection has been destroyed, or one `connectDestroyed` waits in its loop. -/
theorem Released.found (released : Released w c) (found : w.conns[c]? = some sc) :
    ∃ stage, Stands w c sc stage [.ofConnection c .connectDestroyed] ∧
      (sc.ioLoop = 0 → stage.isPast = true) := by
  rcases released with ⟨absent, _, _⟩ | ⟨other, stage, stands, base⟩
  · rw [found] at absent
    cases absent
  · have same := stands.held.found
    rw [found] at same
    cases same
    exact ⟨stage, stands, base⟩

/-- The functors that a function of the connection queued do not move it on. -/
theorem Held.put {l : IoLoop} (held : Held w c sc past own removals)
    (plain : .connectDestroyed ∉ l.pendingFunctors) :
    Held (w.put c sc l) c { sc with conn := l.conn } past own removals := by
  have mine : (l.pendingFunctors.map (ServerFunctor.ofConnection c)).filter isOwn = [] := by
    rw [List.filter_eq_nil_iff]
    intro functor member
    obtain ⟨queued, inside, rfl⟩ := List.mem_map.mp member
    cases queued with
    | connectDestroyed => exact absurd inside plain
    | sendInLoop _ | shutdownInLoop | forceCloseInLoop | startReadInLoop | stopReadInLoop
    | writeCompleteCallback | highWaterMarkCallback _ => simp [isOwn]
  have removal : (l.pendingFunctors.map (ServerFunctor.ofConnection c)).filter isRemoval = [] := by
    rw [List.filter_eq_nil_iff]
    intro functor member
    obtain ⟨queued, _, rfl⟩ := List.mem_map.mp member
    simp [isRemoval]
  have subjects : (l.pendingFunctors.map (ServerFunctor.ofConnection c)).filter
      (fun functor => subject functor = c) = l.pendingFunctors.map (.ofConnection c) := by
    rw [List.filter_eq_self]
    intro functor member
    simpa using ConnectionRegistry.map_ofConnection_subject _ functor member
  have grown (i : Nat) := (ConnectionRegistry.put_grows w c sc l).pendingOf i c
  refine ⟨ConnectionRegistry.put_found held.found l, held.history, fun i => ?_, ?_⟩
  · rw [grown i, subjects, List.filter_append, held.own i]
    split
    · rw [mine, List.append_nil]
    · simp
  · rw [grown 0, subjects, List.filter_append, held.removals]
    split
    · rw [removal, List.append_nil]
    · simp

theorem Held.note (held : Held w c sc past own removals) (event : Life) :
    Held (w.note c event) c sc (past ++ [event]) own removals where
  found := held.found
  history := by rw [ConnectionRegistry.history_note, held.history]
  own := held.own
  removals := held.removals

/-- `connectDestroyed` joins the queue of the loop of the connection. -/
theorem Held.queueOwn (held : Held w c sc past own removals) :
    Held (w.queueInLoop sc.ioLoop [.ofConnection c .connectDestroyed]) c sc past
      (own ++ [.ofConnection c .connectDestroyed]) removals := by
  have grown (i : Nat) :=
    (ConnectionRegistry.queueInLoop_grows w sc.ioLoop [.ofConnection c .connectDestroyed]).pendingOf i c
  refine ⟨held.found, held.history, fun i => ?_, ?_⟩
  · rw [grown i, List.filter_append, held.own i]
    split
    · simp [subject, isOwn]
    · simp
  · rw [grown 0, List.filter_append, held.removals]
    split
    · simp [subject, isRemoval]
    · simp

theorem Held.queueRemoval (held : Held w c sc past own removals) :
    Held (w.queueInLoop 0 [.removeConnectionInLoop c]) c sc past own
      (removals ++ [.removeConnectionInLoop c]) := by
  have grown (i : Nat) :=
    (ConnectionRegistry.queueInLoop_grows w 0 [.removeConnectionInLoop c]).pendingOf i c
  refine ⟨held.found, held.history, fun i => ?_, ?_⟩
  · rw [grown i, List.filter_append, held.own i]
    split
    · simp [subject, isOwn]
    · simp [isOwn]
  · rw [grown 0, List.filter_append, held.removals]
    simp [subject, isRemoval]

variable {loop : Nat} {functor : ServerFunctor} {rest : List ServerFunctor}

/-- A functor that moves the connection on comes into the hand of its loop. -/
theorem Held.pop_own (held : Held w c sc past own removals)
    (front : (w.loops loop).pendingFunctors = functor :: rest) (about : subject functor = c)
    (mine : isOwn functor = true) : ∃ later, own = functor :: later ∧
      Held (w.pop loop rest) c sc past later removals := by
  subst about
  have here := held.own loop
  rw [ConnectionRegistry.pop_pendingOf_self front, List.filter_cons_of_pos mine] at here
  have home : loop = sc.ioLoop := by
    by_contra elsewhere
    rw [if_neg elsewhere] at here
    cases here
  subst home
  rw [if_pos rfl] at here
  refine ⟨_, here.symm, held.found, held.history, fun i => ?_, ?_⟩
  · by_cases same : i = sc.ioLoop
    · subst same
      rw [if_pos rfl]
    · rw [ConnectionRegistry.pop_pendingOf_loop same, held.own i, if_neg same, if_neg same]
  · rw [← held.removals]
    by_cases same : 0 = sc.ioLoop
    · have other : isRemoval functor = false := by
        cases functor with
        | removeConnectionInLoop d => cases mine
        | connectEstablished d => rfl
        | ofConnection d queued => rfl
      rw [same, ConnectionRegistry.pop_pendingOf_self front,
        List.filter_cons_of_neg (by simp [other])]
    · rw [ConnectionRegistry.pop_pendingOf_loop same]

/-- A functor that does not belong to its life comes off the queue. -/
theorem Held.pop_other (held : Held w c sc past own removals)
    (front : (w.loops loop).pendingFunctors = functor :: rest) (about : subject functor = c)
    (plain : isOwn functor = false) (stays : isRemoval functor = false) :
    Held (w.pop loop rest) c sc past own removals := by
  subst about
  refine ⟨held.found, held.history, fun i => ?_, ?_⟩
  · rw [← held.own i]
    by_cases same : i = loop
    · subst same
      rw [ConnectionRegistry.pop_pendingOf_self front, List.filter_cons_of_neg (by simp [plain])]
    · rw [ConnectionRegistry.pop_pendingOf_loop same]
  · rw [← held.removals]
    by_cases same : 0 = loop
    · subst same
      rw [ConnectionRegistry.pop_pendingOf_self front, List.filter_cons_of_neg (by simp [stays])]
    · rw [ConnectionRegistry.pop_pendingOf_loop same]

end Held

/-! ## Functions of one connection -/

/-- Only the connection was touched, and it is as the destructor leaves it. -/
def Goes (c : Nat) (w w' : ServerWorld) : Prop := Touches c w w' ∧ Released w' c

section Functions

variable {w w' : ServerWorld} {c : Nat} {sc : ServerConnection} {stage : Stage}
variable {removals due : List ServerFunctor}

theorem onConnection_ok {run : IoLoop → Except Abort IoLoop} (found : w.conns[c]? = some sc)
    (success : w.onConnection c run = .ok w') :
    ∃ l, run (w.loopOf sc) = .ok l ∧ w' = w.put c sc l := by
  unfold ServerWorld.onConnection at success
  rw [found] at success
  obtain ⟨l, ran, success⟩ := bind_eq_ok success
  cases success
  exact ⟨l, ran, rfl⟩

/-- `connectDestroyed` closes in `kConnected` only; its `remove` asserts that the channel was
registered. -/
theorem connectDestroyed_ok {l l' : IoLoop} (success : l.connectDestroyed = .ok l') :
    l'.pendingFunctors = l.pendingFunctors ∧
      (l.conn.state ≠ .kConnected → l.conn.channel.index ≠ .kNew) ∧
      l'.conn.state = if l.conn.state = .kConnected then .kDisconnected else l.conn.state := by
  unfold IoLoop.connectDestroyed at success
  obtain ⟨left, begun, success⟩ := bind_eq_ok success
  obtain ⟨_, known, effect, _⟩ := IoLoop.removeChannel_ok success
  rw [effect]
  split at begun
  next connected =>
    have announced := (IoLoop.beginDestroy_ok begun).effect
    rw [announced, if_pos connected]
    exact ⟨rfl, fun other => absurd connected other, rfl⟩
  next other =>
    cases begun
    rw [if_neg other]
    exact ⟨rfl, fun _ => known, rfl⟩

/-- The connection after its `connectDestroyed`. -/
theorem connectDestroyed_goes (held : Held w c sc stage.path [] (stage.removals c))
    (fits : stage.Fits sc.conn) (ready : stage = .established ∨ stage = .closed ∨ stage = .erased)
    (success : w.connectDestroyed c = .ok w') : Goes c w w' := by
  unfold ServerWorld.connectDestroyed at success
  obtain ⟨destroyed, ran, success⟩ := bind_eq_ok success
  cases success
  obtain ⟨l, run, rfl⟩ := onConnection_ok held.found ran
  obtain ⟨queue, _, state⟩ := connectDestroyed_ok run
  have after := (held.put (l := l) (by simp [queue, ServerWorld.loopOf])).note .destroyed
  refine ⟨(ConnectionRegistry.put_touches held.found l).trans
    (ConnectionRegistry.note_touches _ c _), .inr ?_⟩
  have early {stage : Stage} (other : stage ≠ .accepted) : stage = .accepted → ∀ loop,
      ∀ functor ∈ pendingOf ((w.put c sc l).note c .destroyed) loop c, isLife functor = true :=
    fun accepted => absurd accepted other
  have closed (was : sc.conn.state = .kDisconnected) : l.conn.state = .kDisconnected := by
    simpa [ServerWorld.loopOf, was] using state
  rcases ready with rfl | rfl | rfl
  · by_cases connected : sc.conn.state = .kConnected
    · have down : l.conn.state = .kDisconnected := by
        simpa [ServerWorld.loopOf, connected] using state
      exact ⟨_, .torn, ⟨after, down, early (by simp)⟩, fun _ => rfl⟩
    · have same : l.conn.state = sc.conn.state := by
        simpa [ServerWorld.loopOf, connected] using state
      have opened : sc.conn.isOpen = true := fits
      have still : l.conn.isOpen = true := by simpa [TcpConnection.isOpen, same] using opened
      exact ⟨_, .tornOpen, ⟨after, still, early (by simp)⟩, fun _ => rfl⟩
  · exact ⟨_, .tornClosed, ⟨after, closed fits, early (by simp)⟩, fun _ => rfl⟩
  · exact ⟨_, .destroyed, ⟨after, closed fits, early (by simp)⟩, fun _ => rfl⟩

/-- A connection that the destructor found waiting is still established, and destroyed after it. -/
theorem connectEstablished_goes
    (held : Held w c sc [.accepted] [.ofConnection c .connectDestroyed] []) (io : sc.ioLoop ≠ 0)
    (success : w.connectEstablished c = .ok w') : Goes c w w' := by
  unfold ServerWorld.connectEstablished at success
  obtain ⟨established, ran, success⟩ := bind_eq_ok success
  cases success
  obtain ⟨l, run, rfl⟩ := onConnection_ok held.found ran
  obtain ⟨_, announced⟩ := IoLoop.connectEstablished_ok run
  have effect := announced.effect
  have plain : .connectDestroyed ∉ l.pendingFunctors := by
    rw [effect]
    simp [ServerWorld.loopOf]
  have opened : l.conn.isOpen = true := by
    rw [effect]
    rfl
  have after := (held.put plain).note .established
  refine ⟨(ConnectionRegistry.put_touches held.found l).trans
    (ConnectionRegistry.note_touches _ c _), .inr ?_⟩
  exact ⟨_, .established, ⟨after, opened, by simp⟩, fun base => absurd base io⟩

theorem Stands.put {l : IoLoop} (stands : Stands w c sc stage due) (late : stage ≠ .accepted)
    (fits : stage.Fits l.conn) (plain : .connectDestroyed ∉ l.pendingFunctors) :
    Stands (w.put c sc l) c { sc with conn := l.conn } stage due :=
  ⟨stands.held.put plain, fits, fun accepted => absurd accepted late⟩

/-- A connection of an io loop closes; its erase is left to the base loop. -/
theorem handleClose_goes (stands : Stands w c sc stage [.ofConnection c .connectDestroyed])
    (io : sc.ioLoop ≠ 0) (success : w.handleClose c = .ok w') : Goes c w w' := by
  unfold ServerWorld.handleClose at success
  obtain ⟨closed, ran, success⟩ := bind_eq_ok success
  obtain ⟨l, run, rfl⟩ := onConnection_ok stands.held.found ran
  obtain ⟨opened, announced⟩ := IoLoop.handleClose_ok run
  have effect := announced.effect
  have plain : .connectDestroyed ∉ l.pendingFunctors := by
    rw [effect]
    simp [ServerWorld.loopOf]
  have down : l.conn.state = .kDisconnected := by
    rw [effect]
  have after := ((stands.held.put plain).note .closed).queueRemoval
  have found : ((w.put c sc l).note c .closed).conns[c]? = some { sc with conn := l.conn } :=
    ConnectionRegistry.put_found stands.held.found l
  unfold ServerWorld.removeConnection at success
  rw [found] at success
  dsimp only at success
  rw [if_neg io] at success
  cases success
  refine ⟨((ConnectionRegistry.put_touches stands.held.found l).trans
    (ConnectionRegistry.note_touches _ c _)).trans
    (ConnectionRegistry.queueInLoop_touches _ 0 rfl), .inr ?_⟩
  rcases Stage.open_stage stands.fits opened with rfl | rfl
  · exact ⟨_, .closed, ⟨after, down, by simp⟩, fun base => absurd base io⟩
  · exact ⟨_, .reclosed, ⟨after, down, by simp⟩, fun base => absurd base io⟩

/-- A function that leaves the connection where it is. -/
theorem stays_goes {run : IoLoop → Except Abort IoLoop}
    (stands : Stands w c sc stage [.ofConnection c .connectDestroyed])
    (base : sc.ioLoop = 0 → stage.isPast = true) (late : stage ≠ .accepted)
    (stays : ∀ l l', run l = .ok l' → Stays l l') (success : w.onConnection c run = .ok w') :
    Goes c w w' := by
  obtain ⟨l, ran, rfl⟩ := onConnection_ok stands.held.found success
  have kept := stays _ _ ran
  have after := stands.put late (stands.fits.stays (l := w.loopOf sc) late kept) fun member => by
    cases kept.queue member
  exact ⟨ConnectionRegistry.put_touches stands.held.found l, .inr ⟨_, stage, after, base⟩⟩

theorem readFd_empty {b : Buffer} {result : ReadResult} {out : Buffer.ReadFd}
    (read : b.readFd true result = .ok out) (none : out.n = 0) : result = .bytes [] := by
  cases result with
  | failed errno =>
    cases read
    cases none
  | bytes data =>
    have length : out.n = data.length := by
      unfold Buffer.readFd at read
      dsimp only at read
      split at read
      · cases read
        rfl
      · obtain ⟨longer, _, read⟩ := bind_eq_ok read
        cases read
        rfl
    have empty : data.length = 0 := by omega
    rw [List.eq_nil_of_length_eq_zero empty]

/-- A connection on an io loop may close while the server is destructed. -/
theorem handleRead_goes {result : ReadResult}
    (stands : Stands w c sc stage [.ofConnection c .connectDestroyed])
    (base : sc.ioLoop = 0 → stage.isPast = true) (late : stage ≠ .accepted)
    (io : result = .bytes [] → sc.ioLoop ≠ 0) (success : w.handleRead c result = .ok w') :
    Goes c w w' := by
  unfold ServerWorld.handleRead at success
  rw [stands.held.found] at success
  obtain ⟨out, read, success⟩ := bind_eq_ok success
  -- reading is a function of the connection that leaves its loop alone
  have stored : w.put c sc { w.loopOf sc with conn := { sc.conn with inputBuffer := out.buffer } } =
      { w with conns := w.conns.set c { sc with conn := { sc.conn with inputBuffer := out.buffer } } } := by
    simp [ServerWorld.put, ServerWorld.loopOf]
  have after := stands.put
    (l := { w.loopOf sc with conn := { sc.conn with inputBuffer := out.buffer } }) late
    (stands.fits.stays (l := w.loopOf sc) late (ConnectionRegistry.stays_of_same rfl rfl))
    (by simp [ServerWorld.loopOf])
  have touches := ConnectionRegistry.put_touches stands.held.found
    { w.loopOf sc with conn := { sc.conn with inputBuffer := out.buffer } }
  rw [stored] at after touches
  dsimp only at success
  split at success
  next none =>
    have closed := handleClose_goes after (io (readFd_empty read none)) success
    exact ⟨touches.trans closed.1, closed.2⟩
  next =>
    cases success
    exact ⟨touches, .inr ⟨_, stage, after, base⟩⟩

/-- Its functors run as they would have, without `connectDestroyed`. -/
theorem runConnectionFunctor_goes {answers : Answers} {functor : LoopFunctor}
    (stands : Stands w c sc stage [.ofConnection c .connectDestroyed])
    (base : sc.ioLoop = 0 → stage.isPast = true) (late : stage ≠ .accepted)
    (plain : functor ≠ .connectDestroyed)
    (io : functor = .forceCloseInLoop → sc.conn.isOpen = true → sc.ioLoop ≠ 0)
    (success : w.runConnectionFunctor c answers functor = .ok w') : Goes c w w' := by
  have same : Goes c w w := ⟨.refl c w, .inr ⟨sc, stage, stands, base⟩⟩
  cases functor with
  | sendInLoop message =>
    simp only [ServerWorld.runConnectionFunctor] at success
    refine stays_goes stands base late (fun l l' sent => ?_) success
    exact ConnectionRegistry.stays_of_aside (IoLoop.sendInLoop_aside sent)
  | shutdownInLoop =>
    simp only [ServerWorld.runConnectionFunctor] at success
    refine stays_goes stands base late (fun l l' shut => ?_) success
    exact ConnectionRegistry.stays_of_aside (IoLoop.shutdownInLoop_aside shut)
  | forceCloseInLoop =>
    simp only [ServerWorld.runConnectionFunctor, ServerWorld.forceCloseInLoop,
      stands.held.found] at success
    split at success
    next opened => exact handleClose_goes stands (io rfl opened) success
    next =>
      cases success
      exact same
  | startReadInLoop =>
    exact stays_goes stands base late (fun l l' => ConnectionRegistry.startReadInLoop_stays) success
  | stopReadInLoop =>
    exact stays_goes stands base late (fun l l' => ConnectionRegistry.stopReadInLoop_stays) success
  | writeCompleteCallback | highWaterMarkCallback _ =>
    cases success
    exact same
  | connectDestroyed => exact absurd rfl plain

theorem runFunctor_goes {loop : Nat} {functor : ServerFunctor} {rest : List ServerFunctor}
    {answers : Answers} (released : Released w (subject functor))
    (front : (w.loops loop).pendingFunctors = functor :: rest) (plain : isRemoval functor = false)
    (io : ∀ c sc, functor = .ofConnection c .forceCloseInLoop → w.conns[c]? = some sc →
      sc.conn.isOpen = true → sc.ioLoop ≠ 0)
    (success : (w.pop loop rest).runFunctor answers functor = .ok w') :
    Goes (subject functor) (w.pop loop rest) w' := by
  rcases released with ⟨_, _, none⟩ | ⟨sc, stage, stands, base⟩
  · have head := ConnectionRegistry.pop_pendingOf_self front
    rw [none loop] at head
    cases head
  cases functor with
  | connectEstablished c =>
    obtain ⟨later, queue, popped⟩ := stands.held.pop_own front rfl rfl
    cases stage with
    | accepted =>
      cases queue
      exact connectEstablished_goes popped (fun zero => by cases base zero) success
    | established | closed | erased | destroyed | torn | tornOpen | tornClosed | reclosed =>
      cases queue
  | removeConnectionInLoop c => cases plain
  | ofConnection c functor =>
    by_cases last : functor = .connectDestroyed
    · subst last
      obtain ⟨later, queue, popped⟩ := stands.held.pop_own front rfl rfl
      have ready : later = [] ∧ (stage = .established ∨ stage = .closed ∨ stage = .erased) := by
        cases stage with
        | established | closed | erased =>
          cases queue
          simp
        | accepted | destroyed | torn | tornOpen | tornClosed | reclosed => cases queue
      obtain ⟨rfl, ready⟩ := ready
      exact connectDestroyed_goes popped stands.fits ready success
    · have other : isOwn (.ofConnection c functor) = false := by
        cases functor with
        | connectDestroyed => exact absurd rfl last
        | sendInLoop _ | shutdownInLoop | forceCloseInLoop | startReadInLoop | stopReadInLoop
        | writeCompleteCallback | highWaterMarkCallback _ => rfl
      have late : stage ≠ .accepted := by
        intro accepted
        have life := stands.early accepted loop (.ofConnection c functor) (by
          rw [ConnectionRegistry.pop_pendingOf_self front]
          exact .head _)
        cases functor with
        | connectDestroyed => exact last rfl
        | sendInLoop _ | shutdownInLoop | forceCloseInLoop | startReadInLoop | stopReadInLoop
        | writeCompleteCallback | highWaterMarkCallback _ => cases life
      have popped : Stands (w.pop loop rest) c sc stage [.ofConnection c .connectDestroyed] :=
        ⟨stands.held.pop_other front rfl other rfl, stands.fits,
          fun accepted => absurd accepted late⟩
      refine runConnectionFunctor_goes popped base late last (fun closing opened => ?_) success
      subst closing
      exact io c sc rfl stands.held.found opened

end Functions

/-! ## The destructor -/

/-- The connection is in `connections_`, and the destructor has not come to it. -/
def Unreleased (w : ServerWorld) (c : Nat) : Prop :=
  ∃ sc stage, Stands w c sc stage [] ∧ stage.isPast = false

section Destructor

variable {n : Nat} {w w' : ServerWorld} {c : Nat} {sc : ServerConnection}

/-- The loop of `~TcpServer` destroys a connection of the base loop at once and leaves
`connectDestroyed` in another. -/
theorem release_goes (unreleased : Unreleased w c) (success : OwnedServer.release w c = .ok w') :
    Goes c w w' := by
  obtain ⟨sc, stage, stands, waiting⟩ := unreleased
  have found := stands.held.found
  unfold OwnedServer.release at success
  rw [found] at success
  dsimp only at success
  split at success
  · cases stage with
    | accepted =>
      -- its channel has never been in the poller, so it cannot be removed
      have ran := success
      unfold ServerWorld.connectDestroyed at ran
      obtain ⟨destroyed, ran, _⟩ := bind_eq_ok ran
      obtain ⟨l, run, _⟩ := onConnection_ok found ran
      obtain ⟨_, known, _⟩ := connectDestroyed_ok run
      have state : sc.conn.state = .kConnecting := stands.fits.1
      exact absurd stands.fits.2 (known (by simp [ServerWorld.loopOf, state]))
    | established => exact connectDestroyed_goes stands.held stands.fits (.inl rfl) success
    | closed => exact connectDestroyed_goes stands.held stands.fits (.inr (.inl rfl)) success
    | erased | destroyed | torn | tornOpen | tornClosed | reclosed => cases waiting
  next io =>
    cases success
    have after := stands.held.queueOwn
    refine ⟨ConnectionRegistry.queueInLoop_touches w sc.ioLoop rfl,
      .inr ⟨sc, stage, ⟨?_, stands.fits, ?_⟩, fun base => absurd base io⟩⟩
    · cases stage with
      | accepted | established | closed => exact after
      | erased | destroyed | torn | tornOpen | tornClosed | reclosed => cases waiting
    · intro accepted loop functor member
      rw [(ConnectionRegistry.queueInLoop_grows w sc.ioLoop _).pendingOf] at member
      rcases List.mem_append.mp member with before | now
      · exact stands.early accepted loop functor before
      · split at now
        · rw [List.mem_singleton.mp (List.mem_filter.mp now).1]
          rfl
        · cases now

theorem releases_released {conns : List Nat} (distinct : conns.Nodup)
    (waiting : ∀ c ∈ conns, Unreleased w c) (rest : ∀ c, c ∉ conns → Released w c)
    (success : conns.foldlM OwnedServer.release w = .ok w') : ∀ c, Released w' c := by
  induction conns generalizing w with
  | nil =>
    cases success
    exact fun c => rest c List.not_mem_nil
  | cons c more ih =>
    rw [List.foldlM_cons] at success
    obtain ⟨next, first, success⟩ := bind_eq_ok success
    obtain ⟨fresh, distinct⟩ := List.nodup_cons.mp distinct
    obtain ⟨touches, released⟩ := release_goes (waiting c (.head _)) first
    refine ih distinct (fun d member => ?_) (fun d other => ?_) success
    · have apart : d ≠ c := fun same => fresh (same ▸ member)
      obtain ⟨sd, stage, stands, unreleased⟩ := waiting d (.tail _ member)
      exact ⟨sd, stage, stands.touch touches apart, unreleased⟩
    · by_cases same : d = c
      · subst same
        exact released
      · refine (rest d ?_).touch touches same
        simpa [same] using other

theorem release_placed (placed : LoopAffinity.Placed n w)
    (success : OwnedServer.release w c = .ok w') : LoopAffinity.Placed n w' := by
  unfold OwnedServer.release at success
  split at success
  · cases success
    exact placed
  next sc found =>
    split at success
    · exact placed.connectDestroyed success
    · cases success
      have given : LoopAffinity.Given n w.conns.length sc.ioLoop c := placed.given found
      exact placed.queueInLoop given

theorem releases_placed {conns : List Nat} (placed : LoopAffinity.Placed n w)
    (success : conns.foldlM OwnedServer.release w = .ok w') : LoopAffinity.Placed n w' := by
  induction conns generalizing w with
  | nil =>
    cases success
    exact placed
  | cons c more ih =>
    rw [List.foldlM_cons] at success
    obtain ⟨next, first, success⟩ := bind_eq_ok success
    exact ih (release_placed placed first) success

/-- The stage of a connection of a server that is there. -/
def stageOf : Life → Stage
  | .accepted => .accepted
  | .established => .established
  | .closed => .closed
  | .erased => .erased
  | .destroyed => .destroyed

theorem filter_own (functors : List ServerFunctor) :
    functors.filter isOwn = (functors.filter isLife).filter isOwn := by
  rw [List.filter_filter]
  refine List.filter_congr fun functor _ => ?_
  cases functor with
  | connectEstablished c => rfl
  | removeConnectionInLoop c => rfl
  | ofConnection c queued => cases queued <;> rfl

theorem filter_removal (functors : List ServerFunctor) :
    functors.filter isRemoval = (functors.filter isLife).filter isRemoval := by
  rw [List.filter_filter]
  refine List.filter_congr fun functor _ => ?_
  cases functor with
  | connectEstablished c => rfl
  | removeConnectionInLoop c => rfl
  | ofConnection c queued => cases queued <;> rfl

/-- Where a connection stands while its server is there, told in the stages of its end. -/
theorem stands_of_at {life : Life} {due : List ServerFunctor}
    (held : ConnectionRegistry.At w c sc life (ConnectionRegistry.awaited c sc life))
    (ready : due = [] ∨ .erased ∈ ConnectionRegistry.upTo life) :
    Stands w c sc (stageOf life) due := by
  have fits : (stageOf life).Fits sc.conn := by
    have fits := held.fits
    cases life <;> exact fits
  refine ⟨⟨held.found, ?_, fun loop => ?_, ?_⟩, fits, fun accepted => ?_⟩
  · rw [held.history]
    cases life <;> rfl
  · rw [filter_own, held.queued loop]
    cases life with
    | accepted =>
      rcases ready with rfl | erased
      · simp only [ConnectionRegistry.awaited, stageOf, Stage.own]
        split <;> rfl
      · exact absurd erased (by decide)
    | established | closed =>
      rcases ready with rfl | erased
      · simp only [ConnectionRegistry.awaited, stageOf, Stage.own]
        split <;> first | rfl | (split <;> rfl)
      · exact absurd erased (by decide)
    | erased =>
      simp only [ConnectionRegistry.awaited, stageOf, Stage.own]
      split <;> rfl
    | destroyed => simp [ConnectionRegistry.awaited, stageOf, Stage.own]
  · rw [filter_removal, held.queued 0]
    cases life with
    | accepted | erased =>
      simp only [ConnectionRegistry.awaited, stageOf, Stage.removals]
      split <;> rfl
    | established | closed | destroyed => rfl
  · refine held.early ?_
    cases life with
    | accepted => rfl
    | established | closed | erased | destroyed => cases accepted

/-- The destructor goes through the connections that the map still has. -/
theorem mem_entries : c ∈ OwnedServer.entries w ↔
    ∃ sc : ServerConnection, w.conns[c]? = some sc ∧ w.server.connections sc.name = some c := by
  unfold OwnedServer.entries
  rw [List.mem_insertionSort, List.mem_filter, List.mem_range, Option.any_eq_true]
  constructor
  · rintro ⟨_, sc, found, registered⟩
    exact ⟨sc, found, of_decide_eq_true registered⟩
  · rintro ⟨sc, found, registered⟩
    exact ⟨(List.getElem?_eq_some_iff.mp found).1, sc, found, decide_eq_true registered⟩

theorem entries_nodup (w : ServerWorld) : (OwnedServer.entries w).Nodup := by
  unfold OwnedServer.entries
  rw [(List.perm_insertionSort _ _).nodup_iff]
  exact List.nodup_range.filter _

/-- A connection in the map has not been destroyed, and no `connectDestroyed` waits for it. -/
theorem entered_unreleased (inv : ConnectionRegistry.Inv w) (member : c ∈ OwnedServer.entries w) :
    Unreleased w c := by
  obtain ⟨sc, found, registered⟩ := mem_entries.mp member
  obtain ⟨life, held⟩ := inv.found found
  refine ⟨sc, stageOf life, stands_of_at held (.inl rfl), ?_⟩
  have there := held.registered.mp registered
  cases life with
  | accepted | established | closed => rfl
  | erased | destroyed => exact absurd (by decide) there

/-- For one that is no longer there it waits already, or has run. -/
theorem absent_released (inv : ConnectionRegistry.Inv w) (other : c ∉ OwnedServer.entries w) :
    Released w c := by
  rcases inv.lives c with absent | ⟨sc, life, held⟩
  · exact .inl absent
  · have erased : .erased ∈ ConnectionRegistry.upTo life := by
      by_contra kept
      exact other (mem_entries.mpr ⟨sc, held.found, held.registered.mpr kept⟩)
    refine .inr ⟨sc, stageOf life, stands_of_at held (.inr erased), fun _ => ?_⟩
    cases life with
    | accepted | established | closed => exact absurd erased (by decide)
    | erased | destroyed => rfl

end Destructor

end Starry.Guarantees.ReleasedConnections
