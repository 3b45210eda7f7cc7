import Mathlib.Data.List.Sort
import Starry.Source.TcpServer

/-!
# The end of a `starry::TcpServer`

`~TcpServer` of `net/src/tcp_server.cpp`, called by the thread of the base loop outside the
callbacks of its connections, with what destructs its members: `~EventLoopThreadPool` has the
threads of the io loops quit and joins them, and until they have ended the base loop does
nothing else. The io loops go on meanwhile. A loop that has ended drops the functors left in
its queue, which stay in the model to be looked at, and user code no longer calls its
connections. The server is the only owner of its thread pool.

The close callback of a connection is bound to the raw `this` of its server. While the
destructor joins the threads `loop_` can still be read through it; once it has returned,
`removeConnection` and a queued `removeConnectionInLoop` go through a dangling pointer.
-/
namespace Starry.Source

open Starry.Foundation

inductive ServerStage where
  | alive
  /-- `~TcpServer` joins the threads of the io loops. -/
  | joining
  | gone
  deriving DecidableEq, Repr

structure OwnedServer where
  world : ServerWorld
  stage : ServerStage
  /-- The thread of the io loop has not ended. -/
  running : Nat → Bool

namespace OwnedServer

open ServerWorld

inductive Act where
  | world (a : ServerWorld.Act)
  | destroy
  | loopEnds (loop : Nat)
  /-- The destructor returns. -/
  | joined

/-! ## The destructor -/

def nameOf (w : ServerWorld) (c : Nat) : List Char :=
  (w.conns[c]?).elim [] ServerConnection.name

/-- The order of the keys of a map. -/
def precedes : List Char → List Char → Bool
  | [], _ => true
  | _ :: _, [] => false
  | a :: as, b :: bs => if a = b then precedes as bs else decide (a.toNat < b.toNat)

/-- `connections_` in the order of its keys. -/
def entries (w : ServerWorld) : List Nat :=
  ((List.range w.conns.length).filter fun c =>
    (w.conns[c]?).any fun sc => w.server.connections sc.name = some c).insertionSort
      fun c d => precedes (nameOf w c) (nameOf w d) = true

/-- One turn of the loop of `~TcpServer`. -/
def release (w : ServerWorld) (c : Nat) : Except Abort ServerWorld :=
  match w.conns[c]? with
  | none => .ok w
  | some sc =>
    if sc.ioLoop = 0 then w.connectDestroyed c
    else .ok (w.queueInLoop sc.ioLoop [.ofConnection c .connectDestroyed])

/-- `TcpServer::~TcpServer`, up to the join of the io loops if there are any. -/
def destroy (s : OwnedServer) : Except Abort OwnedServer := do
  let released ← (entries s.world).foldlM release s.world
  return { s with
    world := { released with server := { released.server with connections := fun _ => none } }
    stage := if s.world.server.numLoops = 0 then .gone else .joining }

/-! ## Steps -/

/-- The connection that `handleClose` is called for. -/
def closes (w : ServerWorld) : ServerWorld.Act → Option Nat
  | .handleClose c => some c
  | .handleRead c (.bytes []) => some c
  | .runFunctor loop _ =>
    match (w.loops loop).pendingFunctors.head? with
    | some (.ofConnection c .forceCloseInLoop) =>
      if (w.conns[c]?).any (fun sc => sc.conn.isOpen) then some c else none
    | _ => none
  | _ => none

/-- The step runs a queued `removeConnectionInLoop`. -/
def runsRemoval (w : ServerWorld) : ServerWorld.Act → Bool
  | .runFunctor loop _ =>
    match (w.loops loop).pendingFunctors.head? with
    | some (.removeConnectionInLoop _) => true
    | _ => false
  | _ => false

/-- A step when the server is gone. -/
def stepAfter (w : ServerWorld) (a : ServerWorld.Act) : Except Abort ServerWorld :=
  if runsRemoval w a then .error (.undefinedBehaviour .tcpServerCpp 90)
  else
    match closes w a with
    | some c => do
      let _ ← w.onConnection c IoLoop.handleClose
      .error (.undefinedBehaviour .tcpServerCpp 86)
    | none => w.step a

def worldStep (s : OwnedServer) (a : ServerWorld.Act) : Except Abort ServerWorld :=
  if s.stage = .gone then stepAfter s.world a else s.world.step a

def step (s : OwnedServer) : Act → Except Abort OwnedServer
  | .world a => do return { s with world := ← s.worldStep a }
  | .destroy => s.destroy
  | .loopEnds loop => .ok { s with running := Function.update s.running loop false }
  | .joined => .ok { s with stage := .gone }

/-- The loop takes steps. -/
def Runs (s : OwnedServer) (loop : Nat) : Prop :=
  s.stage = .alive ∨ (s.stage = .joining ∧ loop ≠ 0 ∧ s.running loop = true) ∨
    (s.stage = .gone ∧ loop = 0)

def isAccept : ServerWorld.Act → Bool
  | .accept _ => true
  | _ => false

/-- The loop whose thread takes the step; for a call from another thread, the loop it is
made for. -/
def loopFor (w : ServerWorld) : ServerWorld.Act → Nat
  | .accept _ => 0
  | .runFunctor loop _ => loop
  | .handleRead c _ | .handleWrite c _ | .handleClose c | .call c _ _ _ | .retrieveInput c _
  | .setHighWaterMarkCallback c _ => (w.conns[c]?).elim 0 ServerConnection.ioLoop

def ioLoops (s : OwnedServer) : List Nat := (List.range s.world.server.numLoops).map (· + 1)

def Enabled (s : OwnedServer) : Act → Prop
  | .world a => s.world.Enabled a ∧ s.Runs (loopFor s.world a) ∧
      (isAccept a = true → s.stage = .alive)
  | .destroy => s.stage = .alive
  | .loopEnds loop => s.stage = .joining ∧ loop ∈ s.ioLoops ∧ s.running loop = true
  | .joined => s.stage = .joining ∧ ∀ loop ∈ s.ioLoops, s.running loop = false

def machine : Machine OwnedServer Act Abort where
  enabled := Enabled
  step := step

instance (s : OwnedServer) (loop : Nat) : Decidable (s.Runs loop) :=
  inferInstanceAs (Decidable (_ ∨ _ ∨ _))

instance (s : OwnedServer) (a : Act) : Decidable (s.Enabled a) :=
  match a with
  | .world _ => inferInstanceAs (Decidable (_ ∧ _ ∧ _))
  | .destroy => inferInstanceAs (Decidable (_ = _))
  | .loopEnds _ => inferInstanceAs (Decidable (_ ∧ _ ∧ _))
  | .joined => inferInstanceAs (Decidable (_ ∧ _))

instance (s : OwnedServer) (a : Act) : Decidable (machine.enabled s a) :=
  inferInstanceAs (Decidable (s.Enabled a))

/-- A server that has been started. -/
def start (name : List Char) (listenAddr : InetAddress) (writeCompleteCallback : Bool)
    (numThreads : Nat) : OwnedServer where
  world := .start name listenAddr writeCompleteCallback numThreads
  stage := .alive
  running := fun _ => true

end OwnedServer

end Starry.Source
