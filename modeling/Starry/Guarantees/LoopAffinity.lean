import Mathlib.Data.Int.CardIntervalMod
import Starry.Source.TcpServer

/-!
# One loop for each connection

`getNextLoop` gives the connections to the io loops in turn, so two io loops never differ by
more than one connection, and the base loop has connections only when there is no other. A
connection stays with its loop: what is queued for it waits in the queue of that loop, and
its channel is known to the poller of that loop alone, in `channels_` as in the kernel. So
what its fd reports and what is queued for it are handled in one thread. Only the erase,
which changes `connections_`, waits in the base loop.
-/
namespace Starry.Guarantees.LoopAffinity

open Starry.Foundation
open Starry.Source
open Starry.Source.ServerWorld

/-! ## Taking turns -/

/-- The loop of connection `c` when there are `n` io loops. -/
def turn (n c : Nat) : Nat := if n = 0 then 0 else c % n + 1

/-- How many of the first `m` connections a loop is given. -/
def share (n m loop : Nat) : Nat := (List.range m).countP fun c => turn n c = loop

/-- Every io loop gets its part of the whole rounds, and the first ones the rest. -/
theorem share_worker {n i : Nat} (worker : i < n) (m : Nat) :
    share n m (i + 1) = m / n + if i < m % n then 1 else 0 := by
  have some_loops : 0 < n := by omega
  have residue (c : Nat) : (turn n c = i + 1) ↔ c ≡ i [MOD n] := by
    unfold turn Nat.ModEq
    rw [if_neg (by omega), Nat.mod_eq_of_lt worker]
    omega
  have counted : share n m (i + 1) = m.count (· ≡ i [MOD n]) := by
    unfold share Nat.count
    exact List.countP_congr fun c _ => by simp [residue c]
  rw [counted, Nat.count_modEq_card m some_loops, Nat.mod_eq_of_lt worker]

/-- Two io loops never differ by more than one connection. -/
theorem share_balanced {n i j : Nat} (first : i < n) (second : j < n) (m : Nat) :
    share n m (i + 1) ≤ share n m (j + 1) + 1 := by
  rw [share_worker first, share_worker second]
  split
  · omega
  · omega

/-- With io loops, the base loop gets nothing. -/
theorem share_base {n : Nat} (some_loops : 0 < n) (m : Nat) : share n m 0 = 0 := by
  unfold share
  rw [List.countP_eq_zero]
  intro c _
  have other : turn n c ≠ 0 := by
    unfold turn
    rw [if_neg (by omega)]
    omega
  simpa using other

/-! ## What is kept -/

/-- The number of connections that live in a loop. -/
def load (w : ServerWorld) (loop : Nat) : Nat := w.conns.countP fun sc => sc.ioLoop = loop

/-- Connection `c` lives in a loop. -/
def LivesIn (w : ServerWorld) (loop c : Nat) : Prop :=
  ∃ sc, w.conns[c]? = some sc ∧ sc.ioLoop = loop

/-- The loop is one where the functor may run. -/
def MayRun (livesIn : Nat → Prop) (loop : Nat) : ServerFunctor → Prop
  | .connectEstablished c | .ofConnection c _ => livesIn c
  | .removeConnectionInLoop _ => loop = 0

structure Affinity (numThreads : Nat) (w : ServerWorld) : Prop where
  assigned : ∀ (c : Nat) (sc : ServerConnection), w.conns[c]? = some sc →
    sc.ioLoop = turn numThreads c
  balanced : ∀ i j, i < numThreads → j < numThreads → load w (i + 1) ≤ load w (j + 1) + 1
  base : 0 < numThreads → load w 0 = 0
  queues : ∀ loop, ∀ functor ∈ (w.loops loop).pendingFunctors, MayRun (LivesIn w loop) loop functor
  channels : ∀ loop fd c, (w.loops loop).poller.channels fd = some c → LivesIn w loop c
  kernel : ∀ loop fd events c, (w.loops loop).poller.epollSet fd = some (events, c) →
    LivesIn w loop c

/-! ## Functions of a connection -/

/-- The poller knows only channels that are its own. -/
structure Only (own : Nat → Prop) (p : EpollPoller) : Prop where
  channels : ∀ fd c, p.channels fd = some c → own c
  kernel : ∀ fd events c, p.epollSet fd = some (events, c) → own c

/-- The poller of the connection knows only channels that are its own, this one among them. -/
structure Local (own : Nat → Prop) (c : Nat) (ch : Channel) (p : EpollPoller) : Prop where
  address : ch.address = c
  known : own c
  only : Only own p

variable {own : Nat → Prop} {c : Nat} {ch : Channel} {p q : EpollPoller} {l l' : IoLoop}

theorem Only.enter (only : Only own p) (known : own c) (fd : Nat) :
    Only own { p with channels := Function.update p.channels fd (some c) } where
  channels other d found := by
    by_cases same : other = fd
    · subst same
      simp only [Function.update_self, Option.some.injEq] at found
      exact found ▸ known
    · simp only [Function.update_of_ne same] at found
      exact only.channels other d found
  kernel := only.kernel

theorem Only.erase (only : Only own p) (fd : Nat) :
    Only own { p with channels := Function.update p.channels fd none } where
  channels other d found := by
    by_cases same : other = fd
    · subst same
      simp at found
    · simp only [Function.update_of_ne same] at found
      exact only.channels other d found
  kernel := only.kernel

theorem Only.control {entry : Option (EventMask × Nat)} (only : Only own p) (fd : Nat)
    (known : ∀ events d, entry = some (events, d) → own d) :
    Only own { p with epollSet := Function.update p.epollSet fd entry } where
  channels := only.channels
  kernel other events d found := by
    by_cases same : other = fd
    · subst same
      simp only [Function.update_self] at found
      exact known events d found
    · simp only [Function.update_of_ne same] at found
      exact only.kernel other events d found

/-- `epoll_ctl` for a channel of the loop leaves the kernel with channels of the loop. -/
theorem Only.update {operation : EpollPoller.CtlOp} (only : Only own p)
    (success : p.update operation ch = .ok q) (known : own ch.address) : Only own q := by
  have registered : Only own
      { p with epollSet := Function.update p.epollSet ch.fd (some (ch.events, ch.address)) } := by
    refine only.control ch.fd fun events d entry => ?_
    cases entry
    exact known
  unfold EpollPoller.update at success
  split at success
  · cases success
    exact registered
  · cases success
    exact registered
  · cases success
    exact only.control ch.fd fun events d entry => by cases entry
  · cases success

/-- `Channel::update` enters at most the channel itself. -/
theorem Local.setEvents {events : EventMask} {out : Channel × EpollPoller} (here : Local own c ch p)
    (success : ch.setEvents events p = .ok out) : Local own c out.1 out.2 := by
  obtain ⟨address, known, only⟩ := here
  have named := address ▸ known
  unfold Channel.setEvents EpollPoller.updateChannel at success
  dsimp only at success
  split at success
  · obtain ⟨_, _, success⟩ := bind_eq_ok success
    obtain ⟨entered, updated, success⟩ := bind_eq_ok success
    cases success
    exact ⟨address, known, (only.enter named ch.fd).update updated named⟩
  · obtain ⟨_, _, success⟩ := bind_eq_ok success
    obtain ⟨_, _, success⟩ := bind_eq_ok success
    obtain ⟨entered, updated, success⟩ := bind_eq_ok success
    cases success
    exact ⟨address, known, only.update updated named⟩
  · obtain ⟨_, _, success⟩ := bind_eq_ok success
    obtain ⟨_, _, success⟩ := bind_eq_ok success
    split at success
    · obtain ⟨left, updated, success⟩ := bind_eq_ok success
      cases success
      exact ⟨address, known, only.update updated named⟩
    · obtain ⟨changed, updated, success⟩ := bind_eq_ok success
      cases success
      exact ⟨address, known, only.update updated named⟩

/-- `Channel::remove` only takes away. -/
theorem Local.remove {inUse : Bool} {out : Channel × EpollPoller} (here : Local own c ch p)
    (success : ch.remove inUse p = .ok out) : Local own c out.1 out.2 := by
  obtain ⟨address, known, only⟩ := here
  have named := address ▸ known
  unfold Channel.remove EpollPoller.removeChannel at success
  obtain ⟨_, _, success⟩ := bind_eq_ok success
  obtain ⟨_, _, success⟩ := bind_eq_ok success
  obtain ⟨_, _, success⟩ := bind_eq_ok success
  obtain ⟨_, _, success⟩ := bind_eq_ok success
  obtain ⟨_, _, success⟩ := bind_eq_ok success
  obtain ⟨_, _, success⟩ := bind_eq_ok success
  obtain ⟨left, removed, success⟩ := bind_eq_ok success
  cases success
  refine ⟨address, known, ?_⟩
  split at removed
  · exact (only.erase ch.fd).update removed named
  · cases removed
    exact only.erase ch.fd

/-- What `Local` says of a connection in its loop. -/
def Here (own : Nat → Prop) (c : Nat) (l : IoLoop) : Prop :=
  Local own c l.conn.channel l.poller

/-- The function leaves the connection in its loop. -/
def Keeps (own : Nat → Prop) (c : Nat) (run : IoLoop → Except Abort IoLoop) : Prop :=
  ∀ l l', Here own c l → run l = .ok l' → Here own c l'

/-- A function of the connection that changes its interest stays in its loop. -/
theorem Here.setEvents {op : Channel.Op} {events : EventMask} (here : Here own c l)
    (success : l.onChannel op = .ok l')
    (shape : op l.conn.channel l.poller = l.conn.channel.setEvents events l.poller) :
    Here own c l' := by
  unfold IoLoop.onChannel at success
  rw [shape] at success
  obtain ⟨out, changed, success⟩ := bind_eq_ok success
  cases success
  exact Local.setEvents here changed

theorem Here.writeDirectly {data : List UInt8} {result : WriteResult} {nwrote : Nat}
    (here : Here own c l) (success : l.writeDirectly data result = .ok (l', nwrote)) :
    Here own c l' := by
  unfold IoLoop.writeDirectly at success
  split at success
  · dsimp only at success
    split at success
    · cases success
      exact here
    · cases success
      exact here
  · cases success
    exact here
  · cases success

theorem Here.bufferOutput {rest : List UInt8} (here : Here own c l)
    (success : l.bufferOutput rest = .ok l') : Here own c l' := by
  unfold IoLoop.bufferOutput at success
  obtain ⟨longer, _, success⟩ := bind_eq_ok success
  have poller : ∀ note : Prop, ∀ [Decidable note], ∀ functor,
      (if note then l.queueInLoop functor else l).poller = l.poller := by
    intro note _ functor
    split
    · rfl
    · rfl
  have buffered : Here own c { (if l.conn.highWaterMark ≤ l.conn.outputBuffer.readableBytes +
        rest.length ∧ l.conn.outputBuffer.readableBytes < l.conn.highWaterMark ∧
        l.conn.highWaterMarkCallback = true then
      l.queueInLoop (.highWaterMarkCallback (l.conn.outputBuffer.readableBytes + rest.length))
      else l) with conn := { l.conn with outputBuffer := longer } } := by
    unfold Here
    rw [poller]
    exact here
  dsimp only at success
  split at success
  · cases success
    exact buffered
  · exact buffered.setEvents success rfl

/-- `sendInLoop` queues functors of its own connection. -/
theorem sendInLoop_keeps (data : List UInt8) (result : WriteResult) :
    Keeps own c fun l => l.sendInLoop data result := by
  intro l l' here success
  dsimp only at success
  unfold IoLoop.sendInLoop at success
  split at success
  · cases success
    exact here
  · obtain ⟨⟨written, nwrote⟩, first, success⟩ := bind_eq_ok success
    have direct : Here own c written := by
      split at first
      · exact here.writeDirectly first
      · cases first
        exact here
    obtain ⟨_, _, success⟩ := bind_eq_ok success
    split at success
    · exact direct.bufferOutput success
    · cases success
      exact direct

theorem shutdownInLoop_keeps (result : Option Errno) :
    Keeps own c fun l => l.shutdownInLoop result := by
  intro l l' here success
  dsimp only at success
  unfold IoLoop.shutdownInLoop at success
  split at success
  · cases success
    exact here
  · split at success
    · cases success
      exact here
    · cases success

theorem drained_keeps (answers : Answers) : Keeps own c fun l => l.drained answers := by
  intro l l' here success
  dsimp only at success
  unfold IoLoop.drained at success
  obtain ⟨quiet, disabled, success⟩ := bind_eq_ok success
  have after := here.setEvents disabled rfl
  have noted : Here own c (if l.conn.writeCompleteCallback then
      quiet.queueInLoop .writeCompleteCallback else quiet) := by
    split
    · exact after
    · exact after
  dsimp only at success
  split at success
  · exact shutdownInLoop_keeps _ _ _ noted success
  · cases success
    exact noted

theorem handleWrite_keeps (answers : Answers) : Keeps own c fun l => l.handleWrite answers := by
  intro l l' here success
  dsimp only at success
  unfold IoLoop.handleWrite at success
  split at success
  · split at success
    · cases success
    · split at success
      · cases success
      · obtain ⟨shorter, _, success⟩ := bind_eq_ok success
        dsimp only at success
        split at success
        · refine drained_keeps answers _ _ ?_ success
          exact here
        · cases success
          exact here
  · cases success
    exact here

theorem startReadInLoop_keeps : Keeps own c IoLoop.startReadInLoop := by
  intro l l' here success
  unfold IoLoop.startReadInLoop at success
  split at success
  · obtain ⟨enabled, changed, success⟩ := bind_eq_ok success
    have after := here.setEvents changed rfl
    cases success
    exact after
  · cases success
    exact here

theorem stopReadInLoop_keeps : Keeps own c IoLoop.stopReadInLoop := by
  intro l l' here success
  unfold IoLoop.stopReadInLoop at success
  split at success
  · obtain ⟨disabled, changed, success⟩ := bind_eq_ok success
    have after := here.setEvents changed rfl
    cases success
    exact after
  · cases success
    exact here

theorem connectEstablished_keeps : Keeps own c IoLoop.connectEstablished := by
  intro l l' here success
  unfold IoLoop.connectEstablished at success
  obtain ⟨_, _, success⟩ := bind_eq_ok success
  obtain ⟨enabled, changed, success⟩ := bind_eq_ok success
  have tied : Here own c { l.setState .kConnected with
      conn := { (l.setState .kConnected).conn with
        channel := { (l.setState .kConnected).conn.channel with tied := true } } } :=
    ⟨here.address, here.known, here.only⟩
  have after := tied.setEvents changed rfl
  cases success
  exact after

theorem handleClose_keeps : Keeps own c IoLoop.handleClose := by
  intro l l' here success
  unfold IoLoop.handleClose at success
  obtain ⟨_, _, success⟩ := bind_eq_ok success
  obtain ⟨disabled, changed, success⟩ := bind_eq_ok success
  have closed : Here own c (l.setState .kDisconnected) := here
  have after := closed.setEvents changed rfl
  cases success
  exact after

theorem connectDestroyed_keeps : Keeps own c IoLoop.connectDestroyed := by
  intro l l' here success
  unfold IoLoop.connectDestroyed at success
  obtain ⟨left, begun, success⟩ := bind_eq_ok success
  have begins : Here own c left := by
    split at begun
    · unfold IoLoop.beginDestroy at begun
      obtain ⟨disabled, changed, begun⟩ := bind_eq_ok begun
      have closed : Here own c (l.setState .kDisconnected) := here
      have after := closed.setEvents changed rfl
      cases begun
      exact after
    · cases begun
      exact here
  unfold IoLoop.removeChannel IoLoop.onChannel at success
  obtain ⟨removed, changed, success⟩ := bind_eq_ok success
  obtain ⟨out, remove, changed⟩ := bind_eq_ok changed
  cases changed
  cases success
  exact Local.remove begins remove

/-- A call of another thread is queued in the loop of the connection. -/
theorem Keeps.runInLoop {run : IoLoop → Except Abort IoLoop} (keeps : Keeps own c run)
    (inLoopThread : Bool) (functor : LoopFunctor) :
    Keeps own c fun l => l.runInLoop inLoopThread functor run := by
  intro l l' here success
  dsimp only at success
  unfold IoLoop.runInLoop at success
  split at success
  · exact keeps l l' here success
  · cases success
    exact here

/-- Every call of user code on a connection stays in the loop of that connection. -/
theorem call_keeps (inLoopThread : Bool) (answers : Answers) (call : IoLoop.Call) :
    Keeps own c fun l => l.call inLoopThread answers call := by
  intro l l' here success
  cases call with
  | send message =>
    simp only [IoLoop.call, IoLoop.send] at success
    split at success
    · exact (sendInLoop_keeps message answers.write).runInLoop _ _ l l' here success
    · cases success
      exact here
  | shutdown =>
    simp only [IoLoop.call, IoLoop.shutdown] at success
    split at success
    · have closing : Here own c (l.setState .kDisconnecting) := here
      exact (shutdownInLoop_keeps answers.shutdown).runInLoop _ _ _ l' closing success
    · cases success
      exact here
  | forceClose =>
    simp only [IoLoop.call, IoLoop.forceClose] at success
    split at success
    · cases success
      exact here
    · cases success
      exact here
  | startRead => exact startReadInLoop_keeps.runInLoop _ _ l l' here success
  | stopRead => exact stopReadInLoop_keeps.runInLoop _ _ l l' here success

/-! ## Steps of the server -/

/-- Connection `c` is one of the first `m`, and its loop is the given one. -/
def Given (n m loop c : Nat) : Prop := c < m ∧ turn n c = loop

structure Placed (n : Nat) (w : ServerWorld) : Prop where
  numLoops : w.server.numLoops = n
  next : 0 < n → w.server.next = w.conns.length % n
  conns : ∀ (c : Nat) (sc : ServerConnection), w.conns[c]? = some sc →
    sc.ioLoop = turn n c ∧ sc.conn.channel.address = c
  queues : ∀ loop, ∀ functor ∈ (w.loops loop).pendingFunctors,
    MayRun (Given n w.conns.length loop) loop functor
  pollers : ∀ loop, Only (Given n w.conns.length loop) (w.loops loop).poller

variable {n loop : Nat} {w w' : ServerWorld} {sc : ServerConnection}

theorem MayRun.imp {before after : Nat → Prop} {functor : ServerFunctor}
    (may : MayRun before loop functor) (implies : ∀ c, before c → after c) :
    MayRun after loop functor := by
  cases functor with
  | connectEstablished c => exact implies c may
  | removeConnectionInLoop c => exact may
  | ofConnection c functor => exact implies c may

theorem Only.imp {after : Nat → Prop} (only : Only own p) (implies : ∀ c, own c → after c) :
    Only after p :=
  ⟨fun fd c found => implies c (only.channels fd c found),
    fun fd events c found => implies c (only.kernel fd events c found)⟩

namespace Placed

/-- Where a connection lives, its turn has been. -/
theorem given (placed : Placed n w) (found : w.conns[c]? = some sc) :
    Given n w.conns.length sc.ioLoop c := by
  obtain ⟨inside, _⟩ := List.getElem?_eq_some_iff.mp found
  exact ⟨inside, (placed.conns c sc found).1.symm⟩

theorem note (placed : Placed n w) (c : Nat) (event : Life) : Placed n (w.note c event) :=
  ⟨placed.numLoops, placed.next, placed.conns, placed.queues, placed.pollers⟩

/-- What may run in a loop may be queued there. -/
theorem queueInLoop {functor : ServerFunctor} (placed : Placed n w)
    (may : MayRun (Given n w.conns.length loop) loop functor) :
    Placed n (w.queueInLoop loop [functor]) where
  numLoops := placed.numLoops
  next := placed.next
  conns := placed.conns
  queues i waiting member := by
    by_cases same : i = loop
    · subst same
      simp only [ServerWorld.queueInLoop, Function.update_self, List.mem_append,
        List.mem_singleton] at member
      rcases member with before | rfl
      · exact placed.queues i waiting before
      · exact may
    · simp only [ServerWorld.queueInLoop, Function.update_of_ne same] at member
      exact placed.queues i waiting member
  pollers i := by
    by_cases same : i = loop
    · subst same
      simpa [ServerWorld.queueInLoop] using placed.pollers i
    · simpa [ServerWorld.queueInLoop, same] using placed.pollers i

/-- What comes off a queue may run in that loop. -/
theorem pop {functor : ServerFunctor} {rest : List ServerFunctor} (placed : Placed n w)
    (front : (w.loops loop).pendingFunctors = functor :: rest) :
    Placed n (w.pop loop rest) ∧ MayRun (Given n w.conns.length loop) loop functor := by
  have may := placed.queues loop functor (by simp [front])
  refine ⟨⟨placed.numLoops, placed.next, placed.conns, fun i waiting member => ?_, fun i => ?_⟩,
    may⟩
  · by_cases same : i = loop
    · subst same
      simp only [ServerWorld.pop, Function.update_self] at member
      exact placed.queues i waiting (by simp [front, member])
    · simp only [ServerWorld.pop, Function.update_of_ne same] at member
      exact placed.queues i waiting member
  · by_cases same : i = loop
    · subst same
      simpa [ServerWorld.pop] using placed.pollers i
    · simpa [ServerWorld.pop, same] using placed.pollers i

theorem here (placed : Placed n w) (found : w.conns[c]? = some sc) :
    Here (Given n w.conns.length sc.ioLoop) c (w.loopOf sc) :=
  ⟨(placed.conns c sc found).2, placed.given found, placed.pollers sc.ioLoop⟩

/-- The connection of number `c` is changed, but not its loop or the address of its channel. -/
theorem set {conn : TcpConnection} (placed : Placed n w) (found : w.conns[c]? = some sc)
    (address : conn.channel.address = c) :
    ∀ (d : Nat) (sd : ServerConnection), (w.conns.set c { sc with conn := conn })[d]? = some sd →
      sd.ioLoop = turn n d ∧ sd.conn.channel.address = d := by
  intro d sd found'
  obtain ⟨inside, _⟩ := List.getElem?_eq_some_iff.mp found
  by_cases same : c = d
  · subst same
    rw [List.getElem?_set_self inside] at found'
    cases found'
    exact ⟨(placed.conns c sc found).1, address⟩
  · rw [List.getElem?_set_ne same] at found'
    exact placed.conns d sd found'

theorem put (placed : Placed n w) (found : w.conns[c]? = some sc)
    (here : Here (Given n w.conns.length sc.ioLoop) c l) : Placed n (w.put c sc l) where
  numLoops := placed.numLoops
  next := by simpa [ServerWorld.put] using placed.next
  conns := placed.set found here.address
  queues i waiting member := by
    simp only [ServerWorld.put, List.length_set]
    by_cases same : i = sc.ioLoop
    · subst same
      simp only [ServerWorld.put, Function.update_self, List.mem_append, List.mem_map] at member
      rcases member with before | ⟨functor, _, rfl⟩
      · exact placed.queues _ waiting before
      · exact here.known
    · simp only [ServerWorld.put, Function.update_of_ne same] at member
      exact placed.queues i waiting member
  pollers i := by
    simp only [ServerWorld.put, List.length_set]
    by_cases same : i = sc.ioLoop
    · subst same
      simpa using here.only
    · simpa [same] using placed.pollers i

/-- What stays in the loop of its connection keeps every connection placed. -/
theorem onConnection {run : IoLoop → Except Abort IoLoop} (placed : Placed n w)
    (keeps : ∀ own, Keeps own c run) (success : w.onConnection c run = .ok w') : Placed n w' := by
  unfold ServerWorld.onConnection at success
  split at success
  · cases success
    exact placed
  next sc found =>
    obtain ⟨left, ran, success⟩ := bind_eq_ok success
    cases success
    exact placed.put found (keeps _ _ _ (placed.here found) ran)

theorem connectEstablished (placed : Placed n w) (success : w.connectEstablished c = .ok w') :
    Placed n w' := by
  unfold ServerWorld.connectEstablished at success
  obtain ⟨established, ran, success⟩ := bind_eq_ok success
  cases success
  exact (placed.onConnection (fun _ => connectEstablished_keeps) ran).note c _

theorem connectDestroyed (placed : Placed n w) (success : w.connectDestroyed c = .ok w') :
    Placed n w' := by
  unfold ServerWorld.connectDestroyed at success
  obtain ⟨destroyed, ran, success⟩ := bind_eq_ok success
  cases success
  exact (placed.onConnection (fun _ => connectDestroyed_keeps) ran).note c _

theorem erase (placed : Placed n w) (name : List Char) (c : Nat) :
    Placed n ({ w with server := (w.server.erase name).2 }.note c .erased) := by
  have same : (w.server.erase name).2.numLoops = w.server.numLoops ∧
      (w.server.erase name).2.next = w.server.next := by
    unfold TcpServer.erase
    split
    · exact ⟨rfl, rfl⟩
    · exact ⟨rfl, rfl⟩
  refine ⟨same.1.trans placed.numLoops, fun some_loops => ?_, placed.conns, placed.queues,
    placed.pollers⟩
  exact same.2.trans (placed.next some_loops)

/-- The erase runs in the base loop and queues `connectDestroyed` in the io loop. -/
theorem removeConnectionInLoop (placed : Placed n w)
    (success : w.removeConnectionInLoop c = .ok w') : Placed n w' := by
  unfold ServerWorld.removeConnectionInLoop at success
  split at success
  · cases success
    exact placed
  next sc found =>
    obtain ⟨_, _, success⟩ := bind_eq_ok success
    cases success
    have given : Given n w.conns.length sc.ioLoop c := placed.given found
    exact (placed.erase sc.name c).queueInLoop given

/-- The erase is run or queued in the base loop. -/
theorem removeConnection (placed : Placed n w) (success : w.removeConnection c = .ok w') :
    Placed n w' := by
  unfold ServerWorld.removeConnection at success
  split at success
  · cases success
    exact placed
  · split at success
    · exact placed.removeConnectionInLoop success
    · cases success
      have base : MayRun (Given n w.conns.length 0) 0 (.removeConnectionInLoop c) := rfl
      exact placed.queueInLoop base

theorem handleClose (placed : Placed n w) (success : w.handleClose c = .ok w') : Placed n w' := by
  unfold ServerWorld.handleClose at success
  obtain ⟨closed, ran, success⟩ := bind_eq_ok success
  exact ((placed.onConnection (fun _ => handleClose_keeps) ran).note c _).removeConnection success

theorem handleRead {result : ReadResult} (placed : Placed n w)
    (success : w.handleRead c result = .ok w') : Placed n w' := by
  unfold ServerWorld.handleRead at success
  split at success
  · cases success
    exact placed
  next sc found =>
    obtain ⟨out, _, success⟩ := bind_eq_ok success
    have read : Placed n { w with
        conns := w.conns.set c { sc with conn := { sc.conn with inputBuffer := out.buffer } } } := by
      refine ⟨placed.numLoops, ?_, placed.set found (placed.conns c sc found).2, ?_, ?_⟩
      · simpa using placed.next
      · simpa using placed.queues
      · simpa using placed.pollers
    dsimp only at success
    split at success
    · exact read.handleClose success
    · cases success
      exact read

theorem runConnectionFunctor {answers : Answers} {functor : LoopFunctor} (placed : Placed n w)
    (success : w.runConnectionFunctor c answers functor = .ok w') : Placed n w' := by
  cases functor with
  | sendInLoop message => exact placed.onConnection (fun _ => sendInLoop_keeps _ _) success
  | shutdownInLoop => exact placed.onConnection (fun _ => shutdownInLoop_keeps _) success
  | forceCloseInLoop =>
    simp only [ServerWorld.runConnectionFunctor, ServerWorld.forceCloseInLoop] at success
    split at success
    · cases success
      exact placed
    · split at success
      · exact placed.handleClose success
      · cases success
        exact placed
  | startReadInLoop => exact placed.onConnection (fun _ => startReadInLoop_keeps) success
  | stopReadInLoop => exact placed.onConnection (fun _ => stopReadInLoop_keeps) success
  | writeCompleteCallback =>
    cases success
    exact placed
  | highWaterMarkCallback _ =>
    cases success
    exact placed
  | connectDestroyed => exact placed.connectDestroyed success

/-- A new connection is given the loop whose turn it is. -/
theorem getNextLoop (placed : Placed n w) :
    w.server.getNextLoop.1 = turn n w.conns.length ∧
      (0 < n → w.server.getNextLoop.2 = (w.conns.length + 1) % n) := by
  unfold TcpServer.getNextLoop turn
  rw [placed.numLoops]
  by_cases none : n = 0
  · simp [none]
  · rw [if_neg none, if_neg none, placed.next (by omega)]
    exact ⟨rfl, fun _ => Nat.mod_add_mod _ _ _⟩

/-- The new connection takes the next turn. -/
theorem enter (placed : Placed n w) (sockfd : Nat) : Placed n (w.enter sockfd) := by
  obtain ⟨given, next⟩ := placed.getNextLoop
  have later (i c : Nat) (before : Given n w.conns.length i c) :
      Given n (w.conns.length + 1) i c := ⟨Nat.lt_succ_of_lt before.1, before.2⟩
  refine ⟨placed.numLoops, fun some_loops => ?_, fun c sc found => ?_, fun i waiting member => ?_,
    fun i => ?_⟩
  · simpa [ServerWorld.enter] using next some_loops
  · simp only [ServerWorld.enter] at found
    by_cases last : c = w.conns.length
    · subst last
      rw [List.getElem?_concat_length] at found
      cases found
      exact ⟨given, rfl⟩
    · rw [List.getElem?_append] at found
      split at found
      · exact placed.conns c sc found
      · rw [List.getElem?_eq_none (by simp; omega)] at found
        cases found
  · simp only [ServerWorld.enter, List.length_append, List.length_singleton]
    exact (placed.queues i waiting member).imp (later i)
  · simp only [ServerWorld.enter, List.length_append, List.length_singleton]
    exact (placed.pollers i).imp (later i)

/-- `newConnection` queues `connectEstablished` in the loop whose turn it was. -/
theorem newConnection {sockfd : Nat} (placed : Placed n w)
    (success : w.newConnection sockfd = .ok w') : Placed n w' := by
  have entered := placed.enter sockfd
  unfold ServerWorld.newConnection at success
  dsimp only at success
  split at success
  · exact entered.connectEstablished success
  · cases success
    have given : Given n (w.enter sockfd).conns.length w.server.getNextLoop.1 w.conns.length :=
      ⟨by simp [ServerWorld.enter], placed.getNextLoop.1.symm⟩
    exact entered.queueInLoop given

/-- Every step of every loop keeps the connections placed. -/
theorem step {a : Act} (placed : Placed n w) (success : w.step a = .ok w') : Placed n w' := by
  cases a with
  | accept result =>
    simp only [ServerWorld.step, ServerWorld.acceptorHandleRead] at success
    obtain ⟨connfd, _, success⟩ := bind_eq_ok success
    exact placed.newConnection success
  | handleRead c result => exact placed.handleRead success
  | handleWrite c answers => exact placed.onConnection (fun _ => handleWrite_keeps _) success
  | handleClose c => exact placed.handleClose success
  | runFunctor loop answers =>
    simp only [ServerWorld.step] at success
    split at success
    · cases success
      exact placed
    next functor rest front =>
      have popped := (placed.pop front).1
      cases functor with
      | connectEstablished c => exact popped.connectEstablished success
      | removeConnectionInLoop c => exact popped.removeConnectionInLoop success
      | ofConnection c functor => exact popped.runConnectionFunctor success
  | call c inLoopThread call answers =>
    exact placed.onConnection (fun _ => call_keeps _ _ _) success
  | retrieveInput c len =>
    simp only [ServerWorld.step] at success
    refine placed.onConnection (fun own l l' here shorter => ?_) success
    obtain ⟨_, _, shorter⟩ := bind_eq_ok shorter
    cases shorter
    exact here
  | setHighWaterMarkCallback c highWaterMark =>
    simp only [ServerWorld.step] at success
    refine placed.onConnection (fun own l l' here set => ?_) success
    cases set
    exact here

/-- A loop has as many connections as its turns give it. -/
theorem load (placed : Placed n w) (loop : Nat) :
    LoopAffinity.load w loop = share n w.conns.length loop := by
  have loops : w.conns.map ServerConnection.ioLoop = (List.range w.conns.length).map (turn n) := by
    apply List.ext_getElem?
    intro c
    cases found : w.conns[c]? with
    | none => simp [List.getElem?_eq_none_iff.mp found]
    | some sc =>
      obtain ⟨inside, _⟩ := List.getElem?_eq_some_iff.mp found
      rw [List.getElem?_map, List.getElem?_map, found, List.getElem?_range inside]
      simp [(placed.conns c sc found).1]
  have left := List.countP_map (p := fun i => i = loop) (f := ServerConnection.ioLoop) (l := w.conns)
  have right := List.countP_map (p := fun i => i = loop) (f := turn n) (l := List.range w.conns.length)
  rw [loops, right] at left
  exact left.symm

/-- What the placement means for the loads, the queues and the pollers. -/
theorem affinity (placed : Placed n w) : Affinity n w := by
  have lives (loop c : Nat) (given : Given n w.conns.length loop c) : LivesIn w loop c := by
    have found := List.getElem?_eq_getElem given.1
    exact ⟨_, found, (placed.conns c _ found).1.trans given.2⟩
  refine ⟨fun c sc found => (placed.conns c sc found).1, fun i j first second => ?_,
    fun some_loops => ?_, fun loop functor member => ?_, fun loop fd c found => ?_,
    fun loop fd events c found => ?_⟩
  · rw [placed.load, placed.load]
    exact share_balanced first second _
  · rw [placed.load]
    exact share_base some_loops _
  · exact (placed.queues loop functor member).imp (lives loop)
  · exact lives loop c ((placed.pollers loop).channels fd c found)
  · exact lives loop c ((placed.pollers loop).kernel fd events c found)

end Placed

theorem start_placed (name : List Char) (listenAddr : InetAddress) (writeComplete : Bool)
    (numThreads : Nat) : Placed numThreads (start name listenAddr writeComplete numThreads) := by
  refine ⟨rfl, fun _ => (Nat.zero_mod _).symm, fun c sc found => ?_, fun loop functor member => ?_,
    fun loop => ⟨fun fd c found => ?_, fun fd events c found => ?_⟩⟩
  · cases found
  · cases member
  · cases found
  · cases found

/-- In every run of a server with any number of io loops, in any order of their steps. -/
theorem one_loop_each {name : List Char} {listenAddr : InetAddress} {writeComplete : Bool}
    {numThreads : Nat} {actions : List Act}
    (run : machine.Run (start name listenAddr writeComplete numThreads) actions w) :
    Affinity numThreads w := by
  have placed : Placed numThreads w :=
    run.invariant (fun _ _ _ placed _ stepped => placed.step stepped)
      (start_placed name listenAddr writeComplete numThreads)
  exact placed.affinity

def quietAnswers : Answers := ⟨.bytes [], .wrote 0, none⟩

/-- Two io loops and three connections. The first is closed by its peer, and its erase waits. -/
def threeConnections : List Act :=
  [.accept (.ok 7), .accept (.ok 8), .runFunctor 1 quietAnswers, .accept (.ok 9),
    .runFunctor 2 quietAnswers, .handleRead 0 (.bytes [])]

/-- The third connection is in the same loop as the first. -/
theorem one_loop_each_three_connections : ∃ w,
    machine.Run (start ['e'] (.loopback 8000) false 2) threeConnections w ∧
    w.conns.map ServerConnection.ioLoop = [1, 2, 1] ∧
    (w.loops 0).pendingFunctors = [.removeConnectionInLoop 0] ∧ Affinity 2 w := by
  obtain ⟨w, run, holds⟩ := machine.exists_run_of_exec
    (start ['e'] (.loopback 8000) false 2) threeConnections
    (fun w => decide (w.conns.map ServerConnection.ioLoop = [1, 2, 1] ∧
      (w.loops 0).pendingFunctors = [.removeConnectionInLoop 0]))
    (by decide +kernel)
  obtain ⟨loops, waiting⟩ := of_decide_eq_true holds
  exact ⟨w, run, loops, waiting, one_loop_each run⟩

end Starry.Guarantees.LoopAffinity
