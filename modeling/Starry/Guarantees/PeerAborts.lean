import Starry.Source.TcpServerSpec

/-!
# What a peer can do to the process

A logger at level FATAL aborts when it is destructed, so the code after `LOG_FATAL` is not
reached: neither the `faultError` branch of `sendInLoop`, nor the fallback of
`Acceptor::handleRead` on `idleFd_`, nor the rest of `handleWrite` after a write that would
block. Any such answer of the kernel ends the process.

`no_peer_abort` is about the runs in which none of these calls fails: whatever is accepted,
read and written, and in whatever order the connections of the server live and die, no
logger at level FATAL is reached. The system calls of the poller do not fail either, since
`channels_` is asserted to know the fd wherever the kernel is asked about it.
-/
namespace Starry.Guarantees.PeerAborts

open Starry.Foundation
open Starry.Source
open Starry.Source.ServerWorld

def Fatal : Abort → Prop
  | .logFatal _ _ => True
  | .assertion _ _ | .undefinedBehaviour _ _ => False

def NotFatal (reason : Abort) : Prop := ¬Fatal reason

/-! ## Calls that fail -/

/-- The condition holds of connection `c` on its loop. -/
def Has (w : ServerWorld) (c : Nat) (condition : IoLoop → Prop) : Prop :=
  ∃ sc, w.conns[c]? = some sc ∧ condition (w.loopOf sc)

/-- `sendInLoop` writes, and the write fails for another reason than EWOULDBLOCK. -/
def SendFails (answers : Answers) (l : IoLoop) : Prop :=
  l.WritesDirectly ∧ ¬IoLoop.Delivered answers.write

/-- Not a single byte was taken. -/
def Stuck : WriteResult → Prop
  | .wrote n => n = 0
  | .failed _ => True

/-- `handleWrite` writes in vain. -/
def WriteFails (answers : Answers) (l : IoLoop) : Prop :=
  l.conn.channel.isWriting = true ∧ Stuck answers.write

def ShutdownFails (answers : Answers) (l : IoLoop) : Prop :=
  l.conn.channel.isWriting = false ∧ answers.shutdown ≠ none

/-- The functor at the head of a queue makes a call that fails. -/
def FunctorFails (w : ServerWorld) (answers : Answers) : Option ServerFunctor → Prop
  | some (.ofConnection c (.sendInLoop _)) => Has w c (SendFails answers)
  | _ => False

/-- The `accept` or the `write` of the step fails. -/
def Failing (w : ServerWorld) : Act → Prop
  | .accept (.error _) => True
  | .handleWrite c answers => Has w c (WriteFails answers)
  | .runFunctor loop answers => FunctorFails w answers (w.loops loop).pendingFunctors.head?
  | .call c true (.send _) answers =>
    Has w c fun l => l.conn.state = .kConnected ∧ SendFails answers l
  | _ => False

/-- The functor at the head of a queue calls `::shutdown`, which fails. -/
def FunctorFailsShutdown (w : ServerWorld) (answers : Answers) : Option ServerFunctor → Prop
  | some (.ofConnection c .shutdownInLoop) => Has w c (ShutdownFails answers)
  | _ => False

/-- The `::shutdown` of the step fails. -/
def FailingShutdown (w : ServerWorld) : Act → Prop
  | .handleWrite c answers => Has w c fun l => l.Finishes answers ∧ answers.shutdown ≠ none
  | .runFunctor loop answers => FunctorFailsShutdown w answers (w.loops loop).pendingFunctors.head?
  | .call c true .shutdown answers =>
    Has w c fun l => l.conn.state = .kConnected ∧ ShutdownFails answers l
  | _ => False

/-- No step of `M` reaches a logger at level FATAL; one whose `accept` or `write` fails leaves
the connections as they are, with their unsent bytes. -/
structure NoPeerAbort (M : Machine ServerWorld Act Abort) (w : ServerWorld) : Prop where
  quiet : ∀ a, M.enabled w a → Faults (M.step w a) NotFatal
  survives : ∀ a, M.enabled w a → Failing w a → ∃ w', M.step w a = .ok w' ∧ w'.conns = w.conns

/-- The calls of the step succeed. -/
def Served (w : ServerWorld) (a : Act) : Prop := ¬Failing w a ∧ ¬FailingShutdown w a

section Decidability

variable (w : ServerWorld) (answers : Answers)

instance (c : Nat) (condition : IoLoop → Prop) [DecidablePred condition] :
    Decidable (Has w c condition) :=
  match found : w.conns[c]? with
  | none => isFalse fun ⟨_, present, _⟩ => by simp [found] at present
  | some sc => decidable_of_iff (condition (w.loopOf sc)) (by simp [Has, found])

instance : DecidablePred Stuck
  | .wrote n => inferInstanceAs (Decidable (n = 0))
  | .failed _ => isTrue trivial

instance : DecidablePred (SendFails answers) := fun _ => inferInstanceAs (Decidable (_ ∧ _))
instance : DecidablePred (WriteFails answers) := fun _ => inferInstanceAs (Decidable (_ ∧ _))
instance : DecidablePred (ShutdownFails answers) := fun _ => inferInstanceAs (Decidable (_ ∧ _))

instance : DecidablePred (FunctorFails w answers)
  | some (.ofConnection c (.sendInLoop _)) => inferInstanceAs (Decidable (Has w c (SendFails answers)))
  | none | some (.connectEstablished _) | some (.removeConnectionInLoop _)
  | some (.ofConnection _ .shutdownInLoop) | some (.ofConnection _ .forceCloseInLoop)
  | some (.ofConnection _ .startReadInLoop) | some (.ofConnection _ .stopReadInLoop)
  | some (.ofConnection _ .writeCompleteCallback) | some (.ofConnection _ (.highWaterMarkCallback _))
  | some (.ofConnection _ .connectDestroyed) => isFalse id

instance : DecidablePred (FunctorFailsShutdown w answers)
  | some (.ofConnection c .shutdownInLoop) =>
    inferInstanceAs (Decidable (Has w c (ShutdownFails answers)))
  | none | some (.connectEstablished _) | some (.removeConnectionInLoop _)
  | some (.ofConnection _ (.sendInLoop _)) | some (.ofConnection _ .forceCloseInLoop)
  | some (.ofConnection _ .startReadInLoop) | some (.ofConnection _ .stopReadInLoop)
  | some (.ofConnection _ .writeCompleteCallback) | some (.ofConnection _ (.highWaterMarkCallback _))
  | some (.ofConnection _ .connectDestroyed) => isFalse id

instance : DecidablePred (Failing w)
  | .accept (.error _) => isTrue trivial
  | .handleWrite c answers => inferInstanceAs (Decidable (Has w c (WriteFails answers)))
  | .runFunctor _ answers => inferInstanceAs (Decidable (FunctorFails w answers _))
  | .call c true (.send _) answers => inferInstanceAs (Decidable
    (Has w c fun l => l.conn.state = .kConnected ∧ SendFails answers l))
  | .accept (.ok _) | .handleRead _ _ | .handleClose _ | .retrieveInput _ _
  | .setHighWaterMarkCallback _ _ | .call _ false _ _ | .call _ true .shutdown _
  | .call _ true .forceClose _ | .call _ true .startRead _ | .call _ true .stopRead _ => isFalse id

instance : DecidablePred (FailingShutdown w)
  | .handleWrite c answers => inferInstanceAs (Decidable
    (Has w c fun l => l.Finishes answers ∧ answers.shutdown ≠ none))
  | .runFunctor _ answers => inferInstanceAs (Decidable (FunctorFailsShutdown w answers _))
  | .call c true .shutdown answers => inferInstanceAs (Decidable
    (Has w c fun l => l.conn.state = .kConnected ∧ ShutdownFails answers l))
  | .accept _ | .handleRead _ _ | .handleClose _ | .retrieveInput _ _
  | .setHighWaterMarkCallback _ _ | .call _ false _ _ | .call _ true (.send _) _
  | .call _ true .forceClose _ | .call _ true .startRead _ | .call _ true .stopRead _ => isFalse id

instance (a : Act) : Decidable (Served w a) := inferInstanceAs (Decidable (¬_ ∧ ¬_))

end Decidability

/-! ## The invariant -/

structure Sound (w : ServerWorld) : Prop where
  sane : ∀ loop, (w.loops loop).poller.Sane
  tracked : ∀ (c : Nat) (sc : ServerConnection), w.conns[c]? = some sc →
    sc.conn.channel.address = c ∧ sc.conn.channel.Tracked (w.loops sc.ioLoop).poller

variable {w w' : ServerWorld} {c : Nat} {sc : ServerConnection}

theorem notFatal_tolerant : Channel.Tolerant NotFatal := fun _ _ _ => id

/-- A step that leaves the connections and the pollers leaves the agreement between them. -/
theorem Sound.same (sound : Sound w) (conns : w'.conns = w.conns)
    (pollers : ∀ loop, (w'.loops loop).poller = (w.loops loop).poller) : Sound w' := by
  refine ⟨fun loop => ?_, fun c sc found => ?_⟩
  · rw [pollers]
    exact sound.sane loop
  · rw [conns] at found
    rw [pollers]
    exact sound.tracked c sc found

/-- A connection is what its poller takes it for. -/
theorem Sound.registered (sound : Sound w) (found : w.conns[c]? = some sc) :
    (w.loopOf sc).Registered NotFatal :=
  .inl ⟨sound.sane sc.ioLoop, (sound.tracked c sc found).2⟩

theorem queueInLoop_pollers (w : ServerWorld) (loop : Nat) (functors : List ServerFunctor) (i : Nat) :
    ((w.queueInLoop loop functors).loops i).poller = (w.loops i).poller := by
  by_cases same : i = loop
  · subst same
    simp [queueInLoop]
  · simp [queueInLoop, same]

theorem pop_pollers (w : ServerWorld) (loop : Nat) (rest : List ServerFunctor) (i : Nat) :
    ((w.pop loop rest).loops i).poller = (w.loops i).poller := by
  by_cases same : i = loop
  · subst same
    simp [pop]
  · simp [pop, same]

/-- A function of one connection touches its own entry in the poller. -/
theorem Sound.put {l : IoLoop} (sound : Sound w) (found : w.conns[c]? = some sc)
    (kept : (w.loopOf sc).Kept l) : Sound (w.put c sc l) := by
  obtain ⟨address, tracked⟩ := sound.tracked c sc found
  have sane := sound.sane sc.ioLoop
  obtain ⟨inside, _⟩ := List.getElem?_eq_some_iff.mp found
  refine ⟨fun loop => ?_, fun d sd found' => ?_⟩
  · by_cases same : loop = sc.ioLoop
    · subst same
      simpa [ServerWorld.put] using kept.sane sane tracked
    · simpa [ServerWorld.put, same] using sound.sane loop
  · by_cases own : d = c
    · subst own
      simp only [ServerWorld.put, List.getElem?_set_self inside] at found'
      cases found'
      refine ⟨kept.address.trans address, ?_⟩
      simpa [ServerWorld.put] using kept.own sane tracked
    · simp only [ServerWorld.put, List.getElem?_set_ne (Ne.symm own)] at found'
      obtain ⟨address', tracked'⟩ := sound.tracked d sd found'
      refine ⟨address', ?_⟩
      by_cases same : sd.ioLoop = sc.ioLoop
      · have foreign : sd.conn.channel.address ≠ sc.conn.channel.address := by
          rw [address, address']
          exact own
        rw [same] at tracked' ⊢
        simpa [ServerWorld.put] using kept.others sane tracked sd.conn.channel foreign tracked'
      · simpa [ServerWorld.put, same] using tracked'

/-! ## Functions -/

/-- A function that ends without a fatal log ends so for the connection of a server. -/
theorem Sound.onConnection {run : IoLoop → Except Abort IoLoop} (sound : Sound w)
    (ends : ∀ sc, w.conns[c]? = some sc →
      Ends (run (w.loopOf sc)) (w.loopOf sc).Kept NotFatal) :
    Ends (w.onConnection c run) Sound NotFatal := by
  cases found : w.conns[c]? with
  | none =>
    unfold ServerWorld.onConnection
    rw [found]
    exact sound
  | some sc =>
    refine (onConnection_ends found (ends sc found)).imp ?_
    rintro w' ⟨l, kept, rfl⟩
    exact sound.put found kept

/-- `epoll_ctl` is asked to add only what `channels_` does not know. -/
theorem Sound.connectEstablished (sound : Sound w) (c : Nat) :
    Ends (w.connectEstablished c) Sound NotFatal := by
  have ran : Ends (w.onConnection c IoLoop.connectEstablished) Sound NotFatal :=
    sound.onConnection fun sc found =>
      IoLoop.connectEstablished_ends notFatal_tolerant (sound.registered found)
  exact ran.bind fun established _ after => after.same rfl fun _ => rfl

theorem Sound.connectDestroyed (sound : Sound w) (c : Nat) :
    Ends (w.connectDestroyed c) Sound NotFatal := by
  have ran : Ends (w.onConnection c IoLoop.connectDestroyed) Sound NotFatal :=
    sound.onConnection fun sc found =>
      IoLoop.connectDestroyed_ends notFatal_tolerant (sound.registered found)
  exact ran.bind fun destroyed _ after => after.same rfl fun _ => rfl

theorem Sound.removeConnectionInLoop (sound : Sound w) (c : Nat) :
    Ends (w.removeConnectionInLoop c) Sound NotFatal := by
  unfold ServerWorld.removeConnectionInLoop
  split
  · exact sound
  next sc _ =>
    dsimp only
    refine ends_cassert id fun _ => ?_
    exact sound.same rfl (queueInLoop_pollers _ _ _)

theorem Sound.removeConnection (sound : Sound w) (c : Nat) :
    Ends (w.removeConnection c) Sound NotFatal := by
  unfold ServerWorld.removeConnection
  split
  · exact sound
  · split
    · exact sound.removeConnectionInLoop c
    · exact sound.same rfl (queueInLoop_pollers _ _ _)

theorem Sound.handleClose (sound : Sound w) (c : Nat) : Ends (w.handleClose c) Sound NotFatal := by
  have ran : Ends (w.onConnection c IoLoop.handleClose) Sound NotFatal :=
    sound.onConnection fun sc found =>
      IoLoop.handleClose_ends notFatal_tolerant (sound.registered found)
  refine ran.bind fun closed _ after => ?_
  have noted : Sound (closed.note c .closed) := after.same rfl fun _ => rfl
  exact noted.removeConnection c

theorem Sound.forceCloseInLoop (sound : Sound w) (c : Nat) :
    Ends (w.forceCloseInLoop c) Sound NotFatal := by
  unfold ServerWorld.forceCloseInLoop
  split
  · exact sound
  · split
    · exact sound.handleClose c
    · exact sound

/-- A change of the buffers of a connection. -/
theorem Sound.setConn {conn : TcpConnection} (sound : Sound w) (found : w.conns[c]? = some sc)
    (channel : conn.channel = sc.conn.channel) :
    Sound { w with conns := w.conns.set c { sc with conn := conn } } := by
  have stored : w.put c sc { w.loopOf sc with conn := conn } =
      { w with conns := w.conns.set c { sc with conn := conn } } := by
    simp [ServerWorld.put, loopOf]
  rw [← stored]
  exact sound.put found (.of_same channel rfl)

theorem Sound.handleRead (sound : Sound w) (c : Nat) (result : ReadResult) :
    Ends (w.handleRead c result) Sound NotFatal := by
  unfold ServerWorld.handleRead
  split
  · exact sound
  next sc found =>
    have read : Ends (sc.conn.inputBuffer.readFd true result) (fun _ => True) NotFatal := by
      refine .of_faults (fun _ _ => trivial) ((Buffer.readFd_faults _ _ _).imp ?_)
      rintro _ ⟨line, rfl⟩
      exact id
    refine read.bind fun out _ _ => ?_
    have after : Sound { w with
        conns := w.conns.set c { sc with conn := { sc.conn with inputBuffer := out.buffer } } } :=
      sound.setConn found rfl
    dsimp only
    split
    · exact after.handleClose c
    · exact after

/-- A new connection is not in the poller yet. -/
theorem Sound.newConnection (sound : Sound w) (sockfd : Nat) :
    Ends (w.newConnection sockfd) Sound NotFatal := by
  have entered : Sound (w.enter sockfd) := by
    refine ⟨sound.sane, fun d sd found => ?_⟩
    change (w.conns ++ [_])[d]? = some sd at found
    by_cases inside : d < w.conns.length
    · rw [List.getElem?_append_left inside] at found
      exact sound.tracked d sd found
    · obtain ⟨within, _⟩ := List.getElem?_eq_some_iff.mp found
      simp only [List.length_append, List.length_cons, List.length_nil] at within
      obtain rfl : d = w.conns.length := by omega
      rw [List.getElem?_append_right (Nat.le_refl _), Nat.sub_self] at found
      cases found
      exact ⟨rfl, Channel.new_tracked _ _ _⟩
  unfold ServerWorld.newConnection
  dsimp only
  split
  · exact entered.connectEstablished _
  · exact entered.same rfl (queueInLoop_pollers _ _ _)

/-! ## Functors -/

theorem pop_loopOf (w : ServerWorld) (loop : Nat) (rest : List ServerFunctor) (sc : ServerConnection) :
    (w.pop loop rest).loopOf sc = w.loopOf sc := by
  simp only [loopOf, pop_pollers]

/-- A functor that writes or shuts down finds a kernel that lets it. -/
theorem Sound.runConnectionFunctor (sound : Sound w) (answers : Answers) {functor : LoopFunctor}
    (send : ∀ message, functor = .sendInLoop message → ¬Has w c (SendFails answers))
    (shutdown : functor = .shutdownInLoop → ¬Has w c (ShutdownFails answers)) :
    Ends (w.runConnectionFunctor c answers functor) Sound NotFatal := by
  cases functor with
  | sendInLoop message =>
    simp only [ServerWorld.runConnectionFunctor]
    refine sound.onConnection fun sc found => ?_
    refine IoLoop.sendInLoop_ends notFatal_tolerant (sound.registered found) message fun direct => .inl ?_
    by_contra failed
    exact send message rfl ⟨sc, found, direct, failed⟩
  | shutdownInLoop =>
    simp only [ServerWorld.runConnectionFunctor]
    refine sound.onConnection fun sc found => ?_
    refine IoLoop.shutdownInLoop_ends fun idle => .inl ?_
    by_contra failed
    exact shutdown rfl ⟨sc, found, idle, failed⟩
  | forceCloseInLoop => exact sound.forceCloseInLoop c
  | startReadInLoop =>
    exact sound.onConnection fun sc found =>
      IoLoop.startReadInLoop_ends notFatal_tolerant (sound.registered found)
  | stopReadInLoop =>
    exact sound.onConnection fun sc found =>
      IoLoop.stopReadInLoop_ends notFatal_tolerant (sound.registered found)
  | writeCompleteCallback | highWaterMarkCallback _ => exact sound
  | connectDestroyed => exact sound.connectDestroyed c

theorem Sound.runFunctor {loop : Nat} {answers : Answers} (sound : Sound w)
    (served : Served w (.runFunctor loop answers)) :
    Ends (w.step (.runFunctor loop answers)) Sound NotFatal := by
  simp only [ServerWorld.step]
  cases front : (w.loops loop).pendingFunctors with
  | nil => exact sound
  | cons functor rest =>
    have popped : Sound (w.pop loop rest) := sound.same rfl (pop_pollers w loop rest)
    have head : (w.loops loop).pendingFunctors.head? = some functor := by rw [front]; rfl
    cases functor with
    | connectEstablished d => exact popped.connectEstablished d
    | removeConnectionInLoop d => exact popped.removeConnectionInLoop d
    | ofConnection d own =>
      refine popped.runConnectionFunctor answers ?_ ?_
      · rintro message rfl ⟨sc, found, failed⟩
        rw [pop_loopOf] at failed
        refine served.1 ?_
        simp only [Failing, head]
        exact ⟨sc, found, failed⟩
      · rintro rfl ⟨sc, found, failed⟩
        rw [pop_loopOf] at failed
        refine served.2 ?_
        simp only [FailingShutdown, head]
        exact ⟨sc, found, failed⟩

/-! ## Every step -/

/-- The rest of the output buffer is written. -/
theorem Sound.handleWrite {answers : Answers} (sound : Sound w)
    (served : Served w (.handleWrite c answers)) :
    Ends (w.step (.handleWrite c answers)) Sound NotFatal := by
  simp only [ServerWorld.step]
  refine sound.onConnection fun sc found => ?_
  refine IoLoop.handleWrite_ends notFatal_tolerant (sound.registered found)
    (fun writing => .inl ?_) fun finishes => .inl ?_
  · cases written : answers.write with
    | failed errno =>
      refine absurd ⟨sc, found, writing, ?_⟩ served.1
      rw [written]
      trivial
    | wrote n =>
      refine ⟨n, Nat.pos_of_ne_zero fun zero => served.1 ⟨sc, found, writing, ?_⟩, rfl⟩
      rw [written]
      exact zero
  · by_contra failed
    exact served.2 ⟨sc, found, finishes, failed⟩

/-- A call in the loop thread may write at once. -/
theorem Sound.call {inLoopThread : Bool} {call : IoLoop.Call} {answers : Answers} (sound : Sound w)
    (served : Served w (.call c inLoopThread call answers)) :
    Ends (w.step (.call c inLoopThread call answers)) Sound NotFatal := by
  simp only [ServerWorld.step]
  refine sound.onConnection fun sc found => ?_
  refine IoLoop.call_ends notFatal_tolerant (sound.registered found) ⟨?_, ?_⟩
  · intro message sends inside connected direct
    refine .inl ?_
    by_contra failed
    subst inside sends
    exact served.1 ⟨sc, found, connected, direct, failed⟩
  · intro shuts inside connected idle
    refine .inl ?_
    by_contra failed
    subst inside shuts
    exact served.2 ⟨sc, found, connected, idle, failed⟩

/-- A step that the kernel serves does not abort. -/
theorem Sound.step {a : Act} (sound : Sound w) (served : Served w a) :
    Ends (w.step a) Sound NotFatal := by
  cases a with
  | accept result =>
    cases result with
    | ok connfd => exact sound.newConnection connfd
    | error errno => exact absurd trivial served.1
  | handleRead c result => exact sound.handleRead c result
  | handleWrite c answers => exact sound.handleWrite served
  | handleClose c => exact sound.handleClose c
  | runFunctor loop answers => exact sound.runFunctor served
  | call c inLoopThread call answers => exact sound.call served
  | retrieveInput c len =>
    simp only [ServerWorld.step]
    refine sound.onConnection fun sc found => ?_
    refine (IoLoop.retrieve_ends notFatal_tolerant _ _).bind fun shorter _ _ => ?_
    exact .of_same rfl rfl
  | setHighWaterMarkCallback c highWaterMark =>
    simp only [ServerWorld.step]
    refine sound.onConnection fun sc found => ?_
    exact .of_same rfl rfl

theorem start_sound (name : List Char) (listenAddr : InetAddress) (writeComplete : Bool)
    (numThreads : Nat) : Sound (start name listenAddr writeComplete numThreads) := by
  refine ⟨fun loop fd _ => rfl, fun c sc found => ?_⟩
  cases found

/-- In every run in which the kernel reports none of the errors that the code calls fatal. -/
theorem no_peer_abort {name : List Char} {listenAddr : InetAddress} {writeComplete : Bool}
    {numThreads : Nat} {actions : List Act}
    (run : (machine.restrict Served).Run (start name listenAddr writeComplete numThreads) actions w) :
    NoPeerAbort (machine.restrict Served) w := by
  have sound : Sound w :=
    @Machine.Run.invariant _ _ _ (machine.restrict Served) Sound _ _ _
      (fun _ _ _ sound enabled stepped => (sound.step enabled.2).of_ok stepped)
      (start_sound name listenAddr writeComplete numThreads) run
  refine ⟨fun a enabled => (sound.step enabled.2).faults, fun a enabled failing => ?_⟩
  exact absurd failing enabled.2.1

/-- A write that takes `n` bytes. -/
def taking (n : Nat) : Answers := ⟨.bytes [], .wrote n, none⟩

def failing (errno : Errno) : Answers := ⟨.bytes [], .failed errno, none⟩

/-- A message leaves in three pieces, the first of which is refused for want of space, while a
second peer connects and sends; then the first peer closes. -/
def threePieces : List Act :=
  [.accept (.ok 7), .runFunctor 1 (taking 0), .call 0 true (.send [1, 2, 3]) (failing .EWOULDBLOCK),
    .accept (.ok 8), .handleWrite 0 (taking 1), .runFunctor 1 (taking 0), .handleRead 1 (.bytes [9]),
    .handleWrite 0 (taking 2), .handleRead 1 (.failed .ECONNRESET), .handleRead 0 (.bytes []),
    .runFunctor 0 (taking 0), .runFunctor 1 (taking 0)]

/-- A message leaves in three pieces before the connection is torn down. -/
theorem no_peer_abort_three_pieces : ∃ w,
    (machine.restrict Served).Run (start ['e'] (.loopback 8000) false 1) threePieces w ∧
    (0, .destroyed) ∈ w.log ∧ NoPeerAbort (machine.restrict Served) w := by
  obtain ⟨w, run, holds⟩ := (machine.restrict Served).exists_run_of_exec
    (start ['e'] (.loopback 8000) false 1) threePieces (fun w => decide ((0, .destroyed) ∈ w.log))
    (by decide +kernel)
  exact ⟨w, run, of_decide_eq_true holds, no_peer_abort run⟩

/-- A peer that has reset its connection and one that arrives when no fd is left both end the
process. -/
theorem peer_aborts : ∃ w, machine.Run (start ['e'] (.loopback 8000) false 0) [.accept (.ok 7)] w ∧
    machine.step w (.call 0 true (.send [1]) (failing .EPIPE)) =
      .error (.logFatal .tcpConnectionCpp 135) ∧
    machine.step w (.accept (.error .EMFILE)) = .error (.logFatal .socketsOpsCpp 74) ∧
    ¬NoPeerAbort machine w := by
  obtain ⟨w, run, holds⟩ := machine.exists_run_of_exec (start ['e'] (.loopback 8000) false 0)
    [.accept (.ok 7)] (fun w => decide (machine.enabled w (.call 0 true (.send [1]) (failing .EPIPE))) &&
      failsWith (machine.step w (.call 0 true (.send [1]) (failing .EPIPE)))
        (.logFatal .tcpConnectionCpp 135)) (by decide +kernel)
  obtain ⟨enabled, aborts⟩ := Bool.and_eq_true_iff.mp holds
  refine ⟨w, run, eq_error_of_failsWith aborts, rfl, fun spared => ?_⟩
  exact spared.quiet (.call 0 true (.send [1]) (failing .EPIPE)) (of_decide_eq_true enabled) _
    (eq_error_of_failsWith aborts) trivial

end Starry.Guarantees.PeerAborts
