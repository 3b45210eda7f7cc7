import Starry.Guarantees.ReleasedConnections

/-!
# The destruction of a server

`~TcpServer` may run at any point of a run, and the io loops go on while it joins their
threads. From then on each connection has been destroyed or has one `connectDestroyed`
waiting in its loop, or dropped with it; none is destroyed twice. A connection that closes
too late to be erased leaves a `removeConnectionInLoop` in the base loop, bound to the server
that is no more.

`connectDestroyed` leaves a connection in `kDisconnecting` as it is when it has no interest, so
`forceClose` can still close it. When there are no io loops this reaches the dead server too.
-/
namespace Starry.Guarantees.ServerDestruction

open Starry.Foundation
open Starry.Source
open Starry.Guarantees.ConnectionRegistry (history lifeCycle pendingOf subject isLife Touches)
open Starry.Guarantees.ReleasedConnections

/-- The step runs a queued `removeConnectionInLoop` or closes a connection that was destroyed,
and the server is gone. -/
def UsesServer (s : OwnedServer) (a : OwnedServer.Act) : Prop :=
  s.stage = .gone ∧
    ((∃ answers c, a = .world (.runFunctor 0 answers) ∧
        (s.world.loops 0).pendingFunctors.head? = some (.removeConnectionInLoop c)) ∨
      ∃ b c closed, a = .world b ∧ OwnedServer.closes s.world b = some c ∧
        s.world.onConnection c IoLoop.handleClose = .ok closed ∧
        .destroyed ∈ history s.world.log c)

structure EndsWell (s : OwnedServer) : Prop where
  /-- Nothing happens to a connection twice. -/
  order : ∀ c, ∃ life ∈ lives, history s.world.log c <+: life
  /-- Its `connectDestroyed` waits in its loop, once, until it has run. -/
  destroyed : s.stage ≠ .alive → ∀ (c : Nat) (sc : ServerConnection),
    s.world.conns[c]? = some sc → ∀ loop,
      (s.world.loops loop).pendingFunctors.count (.ofConnection c .connectDestroyed) =
        if loop = sc.ioLoop ∧ .destroyed ∉ history s.world.log c then 1 else 0
  /-- The connections that closed too late leave a functor in the base loop. -/
  removals : s.stage ≠ .alive → ∀ c,
    (s.world.loops 0).pendingFunctors.count (.removeConnectionInLoop c) =
      if .closed ∈ history s.world.log c ∧ .erased ∉ history s.world.log c then 1 else 0
  dangling : ∀ a, s.Enabled a →
    ((∃ file line, s.step a = .error (.undefinedBehaviour file line)) ↔ UsesServer s a)

/-- The run accepts fewer than 2^31 connections. -/
def Numbered (s : OwnedServer) : OwnedServer.Act → Prop
  | .world a => ConnectionRegistry.Numbered s.world a
  | .destroy | .loopEnds _ | .joined => True

instance (s : OwnedServer) (a : OwnedServer.Act) : Decidable (Numbered s a) :=
  match a with
  | .world a => inferInstanceAs (Decidable (ConnectionRegistry.Numbered s.world a))
  | .destroy | .loopEnds _ | .joined => isTrue trivial

/-! ## Steps of a server that is there -/

def Defined (reason : Abort) : Prop := ∀ file line, reason ≠ .undefinedBehaviour file line

theorem defined_assertion (file : SourceFile) (line : Nat) : Defined (.assertion file line) := by
  intro other number same
  cases same

theorem defined_fatal (file : SourceFile) (line : Nat) : Defined (.logFatal file line) := by
  intro other number same
  cases same

theorem defined_tolerant : Channel.Tolerant Defined := fun file line _ =>
  defined_assertion file line

section Defined

variable {w : ServerWorld} {c : Nat}

/-- A connection of the server fails in the ways of the function that is run on it. -/
theorem onConnection_defined {run : IoLoop → Except Abort IoLoop}
    (faults : ∀ l, Faults (run l) Defined) : Faults (w.onConnection c run) Defined := by
  unfold ServerWorld.onConnection
  split
  · exact .ok
  · exact (faults _).bind fun _ _ => .ok

theorem connectEstablished_defined : Faults (w.connectEstablished c) Defined := by
  refine Faults.bind (onConnection_defined fun l => ?_) fun _ _ => .ok
  exact (IoLoop.connectEstablished_ends defined_tolerant (.inr (defined_fatal _ _))).faults

theorem connectDestroyed_defined : Faults (w.connectDestroyed c) Defined := by
  refine Faults.bind (onConnection_defined fun l => ?_) fun _ _ => .ok
  exact (IoLoop.connectDestroyed_ends defined_tolerant (.inr (defined_fatal _ _))).faults

theorem removeConnectionInLoop_defined : Faults (w.removeConnectionInLoop c) Defined := by
  unfold ServerWorld.removeConnectionInLoop
  split
  · exact .ok
  · exact Faults.bind (faults_cassert (defined_assertion _ _)) fun _ _ => .ok

theorem closing_defined : Faults (w.onConnection c IoLoop.handleClose) Defined :=
  onConnection_defined fun _ =>
    (IoLoop.handleClose_ends defined_tolerant (.inr (defined_fatal _ _))).faults

/-- A close fails in an assertion or in the poller only. -/
theorem handleClose_defined : Faults (w.handleClose c) Defined := by
  refine closing_defined.bind fun closed _ => ?_
  unfold ServerWorld.removeConnection
  split
  · exact .ok
  · split
    · exact removeConnectionInLoop_defined
    · exact .ok

theorem handleRead_defined {result : ReadResult} : Faults (w.handleRead c result) Defined := by
  unfold ServerWorld.handleRead
  split
  · exact .ok
  next sc found =>
    refine Faults.bind ((Buffer.readFd_faults _ _ _).imp ?_) fun out _ => ?_
    · rintro _ ⟨line, rfl⟩
      exact defined_assertion _ _
    · dsimp only
      split
      · exact handleClose_defined
      · exact .ok

theorem runConnectionFunctor_defined (answers : Answers) (functor : LoopFunctor) :
    Faults (w.runConnectionFunctor c answers functor) Defined := by
  have registered (l : IoLoop) : l.Registered Defined := .inr (defined_fatal _ _)
  cases functor with
  | sendInLoop message =>
    exact onConnection_defined fun l => (IoLoop.sendInLoop_ends defined_tolerant (registered l) message
      fun _ => .inr (defined_fatal _ _)).faults
  | shutdownInLoop =>
    simp only [ServerWorld.runConnectionFunctor]
    refine onConnection_defined fun l => ?_
    have ends : Ends (l.shutdownInLoop answers.shutdown) l.Kept Defined :=
      IoLoop.shutdownInLoop_ends fun _ => .inr (defined_fatal _ _)
    exact ends.faults
  | forceCloseInLoop =>
    simp only [ServerWorld.runConnectionFunctor, ServerWorld.forceCloseInLoop]
    split
    · exact .ok
    · split
      · exact handleClose_defined
      · exact .ok
  | startReadInLoop =>
    exact onConnection_defined fun l =>
      (IoLoop.startReadInLoop_ends defined_tolerant (registered l)).faults
  | stopReadInLoop =>
    exact onConnection_defined fun l =>
      (IoLoop.stopReadInLoop_ends defined_tolerant (registered l)).faults
  | writeCompleteCallback | highWaterMarkCallback _ => exact .ok
  | connectDestroyed => exact connectDestroyed_defined

/-- While the server is there, no step is undefined behaviour. -/
theorem step_defined (a : ServerWorld.Act) : Faults (w.step a) Defined := by
  have registered (l : IoLoop) : l.Registered Defined := .inr (defined_fatal _ _)
  cases a with
  | accept result =>
    cases result with
    | error errno => exact .error (defined_fatal _ _)
    | ok connfd =>
      simp only [ServerWorld.step, ServerWorld.acceptorHandleRead, ServerWorld.accept, ok_bind,
        ServerWorld.newConnection]
      split
      · exact connectEstablished_defined
      · exact .ok
  | handleRead c result => exact handleRead_defined
  | handleWrite c answers =>
    exact onConnection_defined fun l => (IoLoop.handleWrite_ends defined_tolerant (registered l)
      (fun _ => .inr (defined_fatal _ _)) fun _ => .inr (defined_fatal _ _)).faults
  | handleClose c => exact handleClose_defined
  | runFunctor loop answers =>
    simp only [ServerWorld.step]
    split
    · exact .ok
    next functor rest front =>
      cases functor with
      | connectEstablished c => exact connectEstablished_defined
      | removeConnectionInLoop c => exact removeConnectionInLoop_defined
      | ofConnection c functor => exact runConnectionFunctor_defined answers functor
  | call c inLoopThread call answers =>
    exact onConnection_defined fun l => (IoLoop.call_ends defined_tolerant (registered l)
      ⟨fun _ _ _ _ _ => .inr (defined_fatal _ _), fun _ _ _ _ => .inr (defined_fatal _ _)⟩).faults
  | retrieveInput c len =>
    simp only [ServerWorld.step]
    refine onConnection_defined fun l => ?_
    exact Faults.bind (IoLoop.retrieve_ends defined_tolerant _ _).faults fun _ _ => .ok
  | setHighWaterMarkCallback c highWaterMark =>
    simp only [ServerWorld.step]
    exact onConnection_defined fun l => .ok

theorem release_defined : Faults (OwnedServer.release w c) Defined := by
  unfold OwnedServer.release
  split
  · exact .ok
  · split
    · exact connectDestroyed_defined
    · exact .ok

theorem releases_defined (conns : List Nat) : Faults (conns.foldlM OwnedServer.release w) Defined := by
  induction conns generalizing w with
  | nil => exact .ok
  | cons c rest ih =>
    rw [List.foldlM_cons]
    exact release_defined.bind fun _ _ => ih

end Defined

/-! ## After the destructor -/

structure Dead (n : Nat) (w : ServerWorld) : Prop where
  released : ∀ c, Released w c
  placed : LoopAffinity.Placed n w

section Dead

variable {n : Nat} {w w' : ServerWorld} {c : Nat} {sc : ServerConnection} {a : ServerWorld.Act}

/-- After the destructor, a step of one connection keeps what holds of all. -/
theorem Dead.goes (dead : Dead n w) (goes : Goes c w w') (placed : LoopAffinity.Placed n w') :
    Dead n w' := by
  refine ⟨fun d => ?_, placed⟩
  by_cases own : d = c
  · subst own
    exact goes.2
  · exact (dead.released d).touch goes.1 own

/-- A connection that the kernel reports has been established. -/
theorem Dead.polled (dead : Dead n w) (polled : w.Polled c) :
    ∃ sc stage, Stands w c sc stage [.ofConnection c .connectDestroyed] ∧
      (sc.ioLoop = 0 → stage.isPast = true) ∧ stage ≠ .accepted := by
  obtain ⟨sc, found, known⟩ := (Option.any_eq_true _ _).mp polled
  obtain ⟨stage, stands, base⟩ := (dead.released c).found found
  refine ⟨sc, stage, stands, base, ?_⟩
  rintro rfl
  exact of_decide_eq_true known stands.fits.2

theorem Dead.announced (dead : Dead n w) (announced : w.Announced c) :
    ∃ sc stage, Stands w c sc stage [.ofConnection c .connectDestroyed] ∧
      (sc.ioLoop = 0 → stage.isPast = true) ∧ stage ≠ .accepted := by
  obtain ⟨sc, found, known⟩ := (Option.any_eq_true _ _).mp announced
  obtain ⟨stage, stands, base⟩ := (dead.released c).found found
  refine ⟨sc, stage, stands, base, ?_⟩
  rintro rfl
  exact of_decide_eq_true known stands.fits.1

/-- A step that accepts nothing, runs no `removeConnectionInLoop`, and closes connections of io
loops only. -/
theorem Dead.step (dead : Dead n w) (enabled : w.Enabled a) (old : OwnedServer.isAccept a = false)
    (plain : OwnedServer.runsRemoval w a = false)
    (io : ∀ c sc, OwnedServer.closes w a = some c → w.conns[c]? = some sc → sc.ioLoop ≠ 0)
    (success : w.step a = .ok w') : Dead n w' := by
  have placed := dead.placed.step success
  cases a with
  | accept result => cases old
  | handleRead c result =>
    obtain ⟨sc, stage, stands, base, late⟩ := dead.polled enabled
    refine dead.goes (handleRead_goes stands base late (fun empty => ?_) success) placed
    subst empty
    exact io c sc rfl stands.held.found
  | handleWrite c answers =>
    obtain ⟨sc, stage, stands, base, late⟩ := dead.polled enabled
    simp only [ServerWorld.step] at success
    refine dead.goes (stays_goes stands base late (fun l l' written => ?_) success) placed
    exact ConnectionRegistry.stays_of_aside (IoLoop.handleWrite_aside written)
  | handleClose c =>
    obtain ⟨sc, stage, stands, base, late⟩ := dead.polled enabled
    exact dead.goes (handleClose_goes stands (io c sc rfl stands.held.found) success) placed
  | runFunctor loop answers =>
    simp only [ServerWorld.step] at success
    cases front : (w.loops loop).pendingFunctors with
    | nil => exact absurd front enabled
    | cons functor rest =>
      rw [front] at success
      have ordinary : isRemoval functor = false := by
        cases functor with
        | removeConnectionInLoop c => simp [OwnedServer.runsRemoval, front] at plain
        | connectEstablished c => rfl
        | ofConnection c queued => rfl
      have goes := runFunctor_goes (dead.released _) front ordinary (fun c sc closing found opened => by
        subst closing
        refine io c sc ?_ found
        simp [OwnedServer.closes, front, found, opened]) success
      have popped := ConnectionRegistry.pop_touches front
      refine dead.goes ⟨popped.trans goes.1, goes.2⟩ placed
  | call c inLoopThread call answers =>
    obtain ⟨sc, stage, stands, base, late⟩ := dead.announced enabled
    simp only [ServerWorld.step] at success
    refine dead.goes (stays_goes stands base late (fun l l' called => ?_) success) placed
    exact ConnectionRegistry.call_stays called
  | retrieveInput c len =>
    obtain ⟨sc, stage, stands, base, late⟩ := dead.announced enabled
    simp only [ServerWorld.step] at success
    refine dead.goes (stays_goes stands base late (fun l l' shorter => ?_) success) placed
    obtain ⟨_, _, shorter⟩ := bind_eq_ok shorter
    cases shorter
    exact ConnectionRegistry.stays_of_same rfl rfl
  | setHighWaterMarkCallback c highWaterMark =>
    obtain ⟨sc, stage, stands, base, late⟩ := dead.announced enabled
    simp only [ServerWorld.step] at success
    refine dead.goes (stays_goes stands base late (fun l l' set => ?_) success) placed
    cases set
    exact ConnectionRegistry.stays_of_same rfl rfl

/-- A functor that closes its connection waits in the loop of the connection. -/
theorem closes_home (placed : LoopAffinity.Placed n w) (closing : OwnedServer.closes w a = some c)
    (found : w.conns[c]? = some sc) : OwnedServer.loopFor w a = sc.ioLoop := by
  cases a with
  | handleClose d =>
    cases closing
    simp [OwnedServer.loopFor, found]
  | handleRead d result =>
    have same : d = c := by
      cases result with
      | failed errno => cases closing
      | bytes data =>
        cases data with
        | nil => exact Option.some.inj closing
        | cons first more => cases closing
    subst same
    simp [OwnedServer.loopFor, found]
  | runFunctor loop answers =>
    simp only [OwnedServer.closes] at closing
    split at closing
    next d front =>
      split at closing
      · cases closing
        have given := placed.queues loop (.ofConnection c .forceCloseInLoop) (List.mem_of_head? front)
        exact given.2.symm.trans (placed.conns c sc found).1.symm
      · cases closing
    next => cases closing
  | accept _ | handleWrite _ _ | call _ _ _ _ | retrieveInput _ _ | setHighWaterMarkCallback _ _ =>
    cases closing

/-- A queued `removeConnectionInLoop` waits in the base loop. -/
theorem removal_home (placed : LoopAffinity.Placed n w) (removal : OwnedServer.runsRemoval w a = true) :
    ∃ answers c, a = .runFunctor 0 answers ∧
      (w.loops 0).pendingFunctors.head? = some (.removeConnectionInLoop c) := by
  unfold OwnedServer.runsRemoval at removal
  split at removal
  next loop answers =>
    split at removal
    next c front =>
      have base : loop = 0 := placed.queues loop (.removeConnectionInLoop c) (List.mem_of_head? front)
      subst base
      exact ⟨answers, c, rfl, front⟩
    next => cases removal
  next => cases removal

end Dead

/-! ## Every run -/

structure Inv (n : Nat) (s : OwnedServer) : Prop where
  alive : s.stage = .alive → ConnectionRegistry.Inv s.world
  released : s.stage ≠ .alive → ∀ c, Released s.world c
  placed : LoopAffinity.Placed n s.world

section Runs

variable {n : Nat} {s s' : OwnedServer} {a : OwnedServer.Act} {b : ServerWorld.Act}

/-- A step that succeeds after the destructor does not use the server. -/
theorem stepAfter_ok {w w' : ServerWorld} (success : OwnedServer.stepAfter w b = .ok w') :
    OwnedServer.runsRemoval w b = false ∧ OwnedServer.closes w b = none ∧ w.step b = .ok w' := by
  unfold OwnedServer.stepAfter at success
  split at success
  · cases success
  next plain =>
    split at success
    · obtain ⟨_, _, success⟩ := bind_eq_ok success
      cases success
    next quiet => exact ⟨by simpa using plain, quiet, success⟩

/-- A step of a loop that goes on while the server is destroyed, or after it. -/
theorem Inv.beyond {w' : ServerWorld} (inv : Inv n s) (dead : s.stage ≠ .alive)
    (enabled : s.Enabled (.world b)) (plain : OwnedServer.runsRemoval s.world b = false)
    (io : ∀ c sc, OwnedServer.closes s.world b = some c → s.world.conns[c]? = some sc →
      sc.ioLoop ≠ 0)
    (ran : s.world.step b = .ok w') : Inv n { s with world := w' } := by
  obtain ⟨able, _, new⟩ := enabled
  have old : OwnedServer.isAccept b = false := by
    by_contra accepts
    exact dead (new (by simpa using accepts))
  have after := Dead.step ⟨inv.released dead, inv.placed⟩ able old plain io ran
  exact ⟨fun alive => absurd alive dead, fun _ => after.released, after.placed⟩

/-- Steps of the loops, before, during and after the destructor. -/
theorem Inv.world (inv : Inv n s) (enabled : s.Enabled (.world b)) (numbered : Numbered s (.world b))
    (success : s.step (.world b) = .ok s') : Inv n s' := by
  have runs := enabled.2.1
  simp only [OwnedServer.step] at success
  obtain ⟨world, ran, success⟩ := bind_eq_ok success
  unfold OwnedServer.worldStep at ran
  cases success
  rcases runs with alive | ⟨joining, io, _⟩ | ⟨gone, _⟩
  · rw [if_neg (by simp [alive])] at ran
    refine ⟨fun _ => ?_, fun dead => absurd alive dead, inv.placed.step ran⟩
    exact ((inv.alive alive).step enabled.1 numbered).of_ok ran
  · rw [if_neg (by simp [joining])] at ran
    -- the base loop is the thread that waits, and only it runs `removeConnectionInLoop`
    have plain : OwnedServer.runsRemoval s.world b = false := by
      by_contra removal
      obtain ⟨answers, c, rfl, _⟩ := removal_home inv.placed (by simpa using removal)
      exact io rfl
    refine inv.beyond (by simp [joining]) enabled plain (fun c sc closing found => ?_) ran
    rwa [← closes_home inv.placed closing found]
  · rw [if_pos gone] at ran
    obtain ⟨plain, quiet, ran⟩ := stepAfter_ok ran
    refine inv.beyond (by simp [gone]) enabled plain (fun c sc closing _ => ?_) ran
    rw [quiet] at closing
    cases closing

/-- `~TcpServer` leaves every connection destroyed or with one `connectDestroyed` to come. -/
theorem Inv.destroy (inv : Inv n s) (alive : s.stage = .alive) (success : s.destroy = .ok s') :
    Inv n s' := by
  obtain ⟨released, ran, success⟩ := bind_eq_ok success
  have left := inv.alive alive
  have all := releases_released (entries_nodup s.world) (fun c => entered_unreleased left)
    (fun c => absent_released left) ran
  have placed := releases_placed inv.placed ran
  cases success
  refine ⟨fun there => ?_, fun _ c => ?_, ⟨placed.numLoops, placed.next, placed.conns, placed.queues,
    placed.pollers⟩⟩
  · dsimp only at there
    split at there
    · cases there
    · cases there
  · rcases all c with absent | ⟨sc, stage, stands, base⟩
    · exact .inl absent
    · have held := stands.held
      exact .inr ⟨sc, stage, ⟨⟨held.found, held.history, held.own, held.removals⟩, stands.fits,
        stands.early⟩, base⟩

theorem Inv.step (inv : Inv n s) (enabled : s.Enabled a) (numbered : Numbered s a)
    (success : s.step a = .ok s') : Inv n s' := by
  cases a with
  | world b => exact inv.world enabled numbered success
  | destroy => exact inv.destroy enabled success
  | loopEnds loop =>
    cases success
    exact ⟨inv.alive, inv.released, inv.placed⟩
  | joined =>
    cases success
    have dead : s.stage ≠ .alive := by
      rw [enabled.1]
      decide
    exact ⟨fun alive => (by cases alive), fun _ => inv.released dead, inv.placed⟩

/-- What an error of a step with a defined meaning is not. -/
theorem not_undefined {outcome : Except Abort OwnedServer} (faults : Faults outcome Defined) :
    ¬∃ file line, outcome = .error (.undefinedBehaviour file line) := by
  rintro ⟨file, line, failed⟩
  exact faults _ failed file line rfl

/-- What closes is a connection of the server. -/
theorem closes_found {w : ServerWorld} {c : Nat} (enabled : w.Enabled b)
    (closing : OwnedServer.closes w b = some c) : ∃ sc, w.conns[c]? = some sc := by
  have there {d : Nat} (polled : w.Polled d) : ∃ sc, w.conns[d]? = some sc := by
    obtain ⟨sc, found, _⟩ := (Option.any_eq_true _ _).mp polled
    exact ⟨sc, found⟩
  unfold OwnedServer.closes at closing
  split at closing
  · cases closing
    exact there enabled
  · cases closing
    exact there enabled
  · split at closing
    · split at closing
      next opened =>
        cases closing
        obtain ⟨sc, found, _⟩ := (Option.any_eq_true _ _).mp opened
        exact ⟨sc, found⟩
      next => cases closing
    · cases closing
  · cases closing

/-- A connection of the base loop that can still be closed was destroyed. -/
theorem Inv.closed_late {c : Nat} {closed : ServerWorld} (inv : Inv n s) (dead : s.stage ≠ .alive)
    (enabled : s.world.Enabled b) (base : OwnedServer.loopFor s.world b = 0)
    (closing : OwnedServer.closes s.world b = some c)
    (ran : s.world.onConnection c IoLoop.handleClose = .ok closed) :
    .destroyed ∈ history s.world.log c := by
  obtain ⟨sc, found⟩ := closes_found enabled closing
  obtain ⟨l, run, _⟩ := onConnection_ok found ran
  have opened : sc.conn.isOpen = true := (IoLoop.handleClose_ok run).1
  obtain ⟨stage, stands, past⟩ := (inv.released dead c).found found
  have home : sc.ioLoop = 0 := by rw [← closes_home inv.placed closing found, base]
  obtain rfl := Stage.open_past stands.fits opened (past home)
  rw [stands.held.history]
  decide

/-- With the server gone, the steps that use it are those that go wrong. -/
theorem Inv.dangling_gone (inv : Inv n s) (gone : s.stage = .gone) (enabled : s.Enabled (.world b)) :
    (∃ file line, s.step (.world b) = .error (.undefinedBehaviour file line)) ↔
      UsesServer s (.world b) := by
  obtain ⟨able, runs, _⟩ := enabled
  have dead : s.stage ≠ .alive := by simp [gone]
  have base : OwnedServer.loopFor s.world b = 0 := by
    rcases runs with alive | ⟨joining, _⟩ | ⟨_, base⟩
    · exact absurd alive dead
    · rw [gone] at joining
      cases joining
    · exact base
  have unfolded : s.step (.world b) = OwnedServer.stepAfter s.world b >>= fun world =>
      .ok { s with world := world } := by
    simp only [OwnedServer.step, OwnedServer.worldStep, gone, if_true]
    rfl
  rw [unfolded]
  unfold OwnedServer.stepAfter
  cases removal : OwnedServer.runsRemoval s.world b with
  | true =>
    obtain ⟨answers, c, rfl, front⟩ := removal_home inv.placed removal
    exact ⟨fun _ => ⟨gone, .inl ⟨answers, c, rfl, front⟩⟩, fun _ => ⟨_, _, rfl⟩⟩
  | false =>
    have plain : ¬∃ answers c, b = .runFunctor 0 answers ∧
        (s.world.loops 0).pendingFunctors.head? = some (.removeConnectionInLoop c) := by
      rintro ⟨answers, c, rfl, front⟩
      simp [OwnedServer.runsRemoval, front] at removal
    cases closing : OwnedServer.closes s.world b with
    | none =>
      refine iff_of_false (not_undefined ?_) ?_
      · exact Faults.bind (step_defined b) fun _ _ => .ok
      · rintro ⟨_, ⟨answers, c, same, front⟩ | ⟨b', c, closed, same, other, _⟩⟩
        · cases same
          exact plain ⟨answers, c, rfl, front⟩
        · cases same
          rw [closing] at other
          cases other
    | some c =>
      cases ran : s.world.onConnection c IoLoop.handleClose with
      | error reason =>
        refine iff_of_false (not_undefined ?_) ?_
        · have defined := closing_defined (w := s.world) (c := c) reason ran
          simp only [Bool.false_eq_true, if_false, ran, error_bind]
          exact .error defined
        · rintro ⟨_, ⟨answers, d, same, front⟩ | ⟨b', d, closed, same, other, ran', _⟩⟩
          · cases same
            exact plain ⟨answers, d, rfl, front⟩
          · cases same
            rw [closing] at other
            cases other
            rw [ran] at ran'
            cases ran'
      | ok closed =>
        refine iff_of_true ⟨.tcpServerCpp, 86, ?_⟩ ⟨gone, .inr ⟨b, c, closed, rfl, closing, ran, ?_⟩⟩
        · simp only [Bool.false_eq_true, if_false, ran, ok_bind, error_bind]
        · exact inv.closed_late dead able base closing ran

/-- At every stage, a step is undefined behaviour exactly if it uses a server that is gone. -/
theorem Inv.dangling (inv : Inv n s) (enabled : s.Enabled a) :
    (∃ file line, s.step a = .error (.undefinedBehaviour file line)) ↔ UsesServer s a := by
  have apart (other : ∀ b, a ≠ .world b) : ¬UsesServer s a := by
    rintro ⟨_, ⟨answers, c, same, _⟩ | ⟨b, c, closed, same, _⟩⟩
    · exact other _ same
    · exact other _ same
  cases a with
  | world b =>
    by_cases gone : s.stage = .gone
    · exact inv.dangling_gone gone enabled
    · refine iff_of_false (not_undefined ?_) fun uses => gone uses.1
      simp only [OwnedServer.step, OwnedServer.worldStep, if_neg gone]
      exact Faults.bind (step_defined b) fun _ _ => .ok
  | destroy =>
    refine iff_of_false (not_undefined ?_) (apart fun b same => by cases same)
    exact Faults.bind (releases_defined _) fun _ _ => .ok
  | loopEnds loop => exact iff_of_false (not_undefined .ok) (apart fun b same => by cases same)
  | joined => exact iff_of_false (not_undefined .ok) (apart fun b same => by cases same)

/-- What is counted in a queue is about one connection. -/
theorem count_waiting {w : ServerWorld} {functor : ServerFunctor} (kind : ServerFunctor → Bool)
    (is : kind functor = true) (loop : Nat) : (w.loops loop).pendingFunctors.count functor =
      ((pendingOf w loop (subject functor)).filter kind).count functor := by
  rw [List.count_filter is]
  unfold ConnectionRegistry.pendingOf
  rw [List.count_filter (by simp)]

theorem Inv.endsWell (inv : Inv n s) : EndsWell s where
  order c := by
    by_cases alive : s.stage = .alive
    · exact ⟨lifeCycle, by decide, (ConnectionRegistry.Inv.registry (inv.alive alive)).order c⟩
    · rcases inv.released alive c with ⟨_, nothing, _⟩ | ⟨sc, stage, stands, _⟩
      · rw [nothing]
        exact ⟨lifeCycle, by decide, List.nil_prefix⟩
      · rw [stands.held.history]
        exact stage.path_prefix
  destroyed dead c sc found loop := by
    obtain ⟨stage, stands, _⟩ := (inv.released dead c).found found
    rw [count_waiting isOwn rfl loop, stands.held.history]
    have own := stands.held.own loop
    simp only [subject]
    rw [own]
    by_cases home : loop = sc.ioLoop
    · rw [if_pos home, stage.count_own]
      simp [home]
    · rw [if_neg home]
      simp [home]
  removals dead c := by
    rw [count_waiting isRemoval rfl 0]
    simp only [subject]
    rcases inv.released dead c with ⟨_, nothing, none⟩ | ⟨sc, stage, stands, _⟩
    · rw [none 0, nothing]
      rfl
    · rw [stands.held.removals, stands.held.history, stage.count_removals]
  dangling _ enabled := inv.dangling enabled

theorem start_inv (name : List Char) (listenAddr : InetAddress) (writeComplete : Bool)
    (numThreads : Nat) : Inv numThreads (.start name listenAddr writeComplete numThreads) where
  alive _ := ConnectionRegistry.start_inv name listenAddr writeComplete numThreads
  released dead := absurd rfl dead
  placed := LoopAffinity.start_placed name listenAddr writeComplete numThreads

/-- In every run that accepts fewer than 2^31 connections, whenever the destructor comes. -/
theorem server_ends_well {name : List Char} {listenAddr : InetAddress} {writeComplete : Bool}
    {numThreads : Nat} {actions : List OwnedServer.Act}
    (run : (OwnedServer.machine.restrict Numbered).Run
      (.start name listenAddr writeComplete numThreads) actions s) : EndsWell s := by
  have inv : Inv numThreads s :=
    @Machine.Run.invariant _ _ _ (OwnedServer.machine.restrict Numbered) (Inv numThreads) _ _ _
      (fun _ _ _ inv enabled stepped => inv.step enabled.1 enabled.2 stepped)
      (start_inv name listenAddr writeComplete numThreads) run
  exact inv.endsWell

/-- One io loop and two connections. The peer of the first has closed when the server is
destroyed, and the loop ends before it has destroyed the second. -/
def closedAndDropped : List OwnedServer.Act :=
  [.world (.accept (.ok 7)), .world (.runFunctor 1 LoopAffinity.quietAnswers),
    .world (.accept (.ok 8)), .world (.handleRead 0 (.bytes [])), .destroy,
    .world (.runFunctor 1 LoopAffinity.quietAnswers), .world (.runFunctor 1 LoopAffinity.quietAnswers),
    .loopEnds 1, .joined]

theorem server_ends_well_closed_and_dropped : ∃ s,
    (OwnedServer.machine.restrict Numbered).Run (.start ['e'] (.loopback 8000) false 1)
      closedAndDropped s ∧
    history s.world.log 0 = [.accepted, .established, .closed, .destroyed] ∧
    (s.world.loops 0).pendingFunctors = [.removeConnectionInLoop 0] ∧
    (s.world.loops 1).pendingFunctors = [.ofConnection 1 .connectDestroyed] ∧ EndsWell s := by
  obtain ⟨s, run, holds⟩ := (OwnedServer.machine.restrict Numbered).exists_run_of_exec
    (.start ['e'] (.loopback 8000) false 1) closedAndDropped
    (fun s => decide (history s.world.log 0 = [.accepted, .established, .closed, .destroyed] ∧
      (s.world.loops 0).pendingFunctors = [.removeConnectionInLoop 0] ∧
      (s.world.loops 1).pendingFunctors = [.ofConnection 1 .connectDestroyed]))
    (by decide +kernel)
  obtain ⟨past, base, dropped⟩ := of_decide_eq_true holds
  exact ⟨s, run, past, base, dropped, server_ends_well run⟩

end Runs

end Starry.Guarantees.ServerDestruction
