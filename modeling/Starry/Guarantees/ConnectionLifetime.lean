import Starry.Source.ConnectionHolders
import Starry.Source.ConnectionLoopSpec

/-!
# A connection outlives what uses it

`TcpConnection` objects are kept by `shared_ptr`, and most of what refers to one holds a copy.
The functors of `send`, `shutdown`, `startRead` and `stopRead` do not, and neither does the
poller. The connection survives them all the same, because `connectDestroyed` is the last
functor that anyone queues for it, as long as a user who keeps a copy does not give up the last
one while such a functor is behind `connectDestroyed`, and a server is not destroyed on the
connection's own loop while one is waiting.
-/
namespace Starry.Guarantees.ConnectionLifetime

open Starry.Foundation Starry.Source
open Starry.Source.HeldConnection

/-! ## The condition -/

/-- The loop has taken up `connectDestroyed`. -/
def Begun (s : HeldConnection) : Prop :=
  .connectDestroyed ∈ s.batch ∨ .removeChannel ∈ s.session.todo ∨ .destroyed ∈ s.session.io.seen

/-- A functor bound to a raw `this` is waiting, and `connectDestroyed` is not in its batch. -/
def Exposed (s : HeldConnection) : Prop :=
  (∃ functor ∈ s.session.io.pendingFunctors, functor.holds = false) ∨
  (.connectDestroyed ∉ s.batch ∧ ∃ functor ∈ s.session.functors, functor.holds = false)

def Kept (s : HeldConnection) : Act → Prop
  | .drop => s.copies = 1 → s.calls = [] → Begun s → ¬ Exposed s
  | .session .destroyServer => s.session.registered = true → s.session.sameLoop = true →
      s.copies = 0 → s.calls = [] → ¬ Exposed s
  | _ => True

instance (s : HeldConnection) : Decidable (Begun s) := inferInstanceAs (Decidable (_ ∨ _))

instance (s : HeldConnection) : Decidable (Exposed s) := inferInstanceAs (Decidable (_ ∨ _))

instance (s : HeldConnection) (a : Act) : Decidable (Kept s a) :=
  match a with
  | .drop => inferInstanceAs (Decidable (_ → _))
  | .session .destroyServer => inferInstanceAs (Decidable (_ → _))
  | .session (.connectEstablished) | .session (.call _ _ _) | .session (.retrieveInput _)
  | .session (.poll _) | .session (.handleEvent) | .session (.proceed _)
  | .session (.doPendingFunctors) | .session (.runFunctor _) | .session (.iterate)
  | .session (.removeConnectionInLoop) | .copy | .call _ | .queue _ => .isTrue trivial

/-! ## What the loop's functions leave -/

/-- Only functors that hold the connection were queued, and its channel stayed registered. -/
structure Frame (l l' : IoLoop) : Prop where
  queued : ∃ added, l'.pendingFunctors = l.pendingFunctors ++ added ∧
    ∀ functor ∈ added, functor.holds = true
  destroyed : .destroyed ∈ l'.seen ↔ .destroyed ∈ l.seen
  channel : l'.conn.channel.addedToLoop = true ∨
    (l'.conn.channel.addedToLoop = l.conn.channel.addedToLoop ∧
      l'.conn.channel.index = l.conn.channel.index)
  agrees : l.Agrees → l'.Agrees

variable {l l' : IoLoop}

theorem Frame.refl (l : IoLoop) : Frame l l :=
  ⟨⟨[], by simp⟩, Iff.rfl, .inr ⟨rfl, rfl⟩, id⟩

/-- What two functions leave, one after the other. -/
theorem Frame.trans {l'' : IoLoop} (first : Frame l l') (second : Frame l' l'') : Frame l l'' := by
  obtain ⟨added, queued, holding⟩ := first.queued
  obtain ⟨more, queued', holding'⟩ := second.queued
  refine ⟨⟨added ++ more, ?_, ?_⟩, second.destroyed.trans first.destroyed, ?_,
    fun agrees => second.agrees (first.agrees agrees)⟩
  · rw [queued', queued, List.append_assoc]
  · intro functor member
    exact (List.mem_append.mp member).elim (holding functor) (holding' functor)
  · rcases second.channel with added | ⟨added, index⟩
    · exact .inl added
    · rw [added, index]
      exact first.channel

/-- The output path queues callbacks, which hold the connection. -/
theorem frame_output (l : IoLoop) (buffer : Buffer) {added : List LoopFunctor}
    {observed : List Observation} (holding : ∀ functor ∈ added, functor.holds = true)
    (silent : .destroyed ∉ observed) : Frame l (l.output buffer added observed) :=
  ⟨⟨added, rfl, holding⟩, by simp [IoLoop.output, silent], .inr ⟨rfl, rfl⟩, id⟩

theorem frame_observe (l : IoLoop) {observation : Observation} (other : observation ≠ .destroyed) :
    Frame l (l.observe observation) := by
  have frame := @frame_output l l.conn.outputBuffer [] [observation]
    (by simp) (by simpa using other.symm)
  simpa [IoLoop.output, IoLoop.observe] using frame

/-- A functor that holds the connection may always be queued. -/
theorem frame_queueInLoop (l : IoLoop) {functor : LoopFunctor} (holding : functor.holds = true) :
    Frame l (l.queueInLoop functor) := by
  have frame := @frame_output l l.conn.outputBuffer [functor] []
    (by simpa using holding) (by simp)
  simpa [IoLoop.output, IoLoop.queueInLoop] using frame

theorem frame_reinterested {events : EventMask} (changed : l.Reinterested events l') :
    Frame l l' := by
  have effect := changed.effect
  refine ⟨⟨[], ?_, by simp⟩, ?_, .inl ?_, changed.agrees⟩ <;> rw [effect]
  · simp
  · rfl

theorem frame_retuned {events : EventMask} {reading : Bool}
    (changed : l.Retuned events reading l') : Frame l l' := by
  have effect := changed.effect
  refine ⟨⟨[], ?_, by simp⟩, ?_, .inl ?_, changed.agrees⟩ <;> rw [effect]
  · simp
  · rfl

theorem frame_announced {state : StateE} {events : EventMask} {tied : Bool}
    (changed : l.Announced state events tied l') : Frame l l' := by
  have effect := changed.effect
  refine ⟨⟨[], ?_, by simp⟩, ?_, .inl ?_, changed.agrees⟩ <;> rw [effect]
  · simp
  · simp
  · rfl

theorem frame_writeDirectly {data : List UInt8} {result : WriteResult} {nwrote : Nat}
    (success : l.writeDirectly data result = .ok (l', nwrote)) : Frame l l' := by
  rcases IoLoop.writeDirectly_ok success with ⟨_, rfl⟩ | ⟨_, added, completes, rfl⟩
  · exact .refl l'
  · refine frame_output l _ (fun functor member => ?_) (by simp)
    rw [completes functor member]
    rfl

/-- The high-water callback holds the connection too. -/
theorem frame_bufferOutput {rest : List UInt8} (success : l.bufferOutput rest = .ok l') :
    Frame l l' := by
  obtain ⟨longer, added, _, marks, outcome⟩ := IoLoop.bufferOutput_ok success
  have noted : Frame l (l.output longer added []) := by
    refine frame_output l _ (fun functor member => ?_) (by simp)
    obtain ⟨backlog, rfl⟩ := marks functor member
    rfl
  rcases outcome with ⟨_, rfl⟩ | ⟨_, changed⟩
  · exact noted
  · exact noted.trans (frame_reinterested changed)

theorem frame_sendInLoop {data : List UInt8} {result : WriteResult}
    (success : l.sendInLoop data result = .ok l') : Frame l l' := by
  rcases IoLoop.sendInLoop_ok success with ⟨_, rfl⟩ | ⟨_, written, nwrote, direct, rest⟩
  · exact .refl l'
  · have front : Frame l written := by
      rcases direct with ⟨_, _, direct⟩ | ⟨_, rfl, _⟩
      · exact frame_writeDirectly direct
      · exact .refl written
    rcases rest with ⟨_, buffered⟩ | ⟨_, rfl⟩
    · exact front.trans (frame_bufferOutput buffered)
    · exact front

theorem frame_shutdownInLoop {result : Option Errno} (success : l.shutdownInLoop result = .ok l') :
    Frame l l' := by
  rcases IoLoop.shutdownInLoop_ok success with ⟨_, rfl⟩ | ⟨_, rfl⟩
  · exact .refl l'
  · exact frame_observe l (by simp)

theorem frame_handleWrite {answers : Answers} (success : l.handleWrite answers = .ok l') :
    Frame l l' := by
  rcases IoLoop.handleWrite_ok success with ⟨_, rfl⟩ | ⟨_, n, shorter, _, _, _, outcome⟩
  · exact .refl l'
  · have sent : Frame l (l.output shorter [] [.accepted (l.conn.outputBuffer.readable.take n)]) :=
      frame_output l _ (by simp) (by simp)
    rcases outcome with ⟨_, drained⟩ | ⟨_, rfl⟩
    · obtain ⟨quiet, added, changed, completes, ended⟩ := IoLoop.drained_ok drained
      have noted : Frame quiet (quiet.output quiet.conn.outputBuffer added []) := by
        refine frame_output quiet _ (fun functor member => ?_) (by simp)
        rw [completes functor member]
        rfl
      have quieted := (sent.trans (frame_reinterested changed)).trans noted
      rcases ended with rfl | ⟨_, shut⟩
      · exact quieted
      · exact quieted.trans (frame_shutdownInLoop shut)
    · exact sent

theorem frame_startReadInLoop (success : l.startReadInLoop = .ok l') : Frame l l' := by
  rcases IoLoop.startReadInLoop_ok success with ⟨_, rfl⟩ | ⟨_, changed⟩
  · exact .refl l'
  · exact frame_retuned changed

theorem frame_stopReadInLoop (success : l.stopReadInLoop = .ok l') : Frame l l' := by
  rcases IoLoop.stopReadInLoop_ok success with ⟨_, rfl⟩ | ⟨_, changed⟩
  · exact .refl l'
  · exact frame_retuned changed

theorem frame_setState (l : IoLoop) (state : StateE) : Frame l (l.setState state) :=
  ⟨⟨[], by simp [IoLoop.setState]⟩, Iff.rfl, .inr ⟨rfl, rfl⟩, id⟩

/-- A call in the loop thread queues at most `forceCloseInLoop`. -/
theorem frame_call {answers : Answers} {call : IoLoop.Call}
    (success : l.call true answers call = .ok l') : Frame l l' := by
  cases call with
  | send message =>
    simp only [IoLoop.call, IoLoop.send, IoLoop.runInLoop, if_true] at success
    split at success
    · exact frame_sendInLoop success
    · cases success
      exact .refl l
  | shutdown =>
    simp only [IoLoop.call, IoLoop.shutdown, IoLoop.runInLoop, if_true] at success
    split at success
    · exact (frame_setState l _).trans (frame_shutdownInLoop success)
    · cases success
      exact .refl l
  | forceClose =>
    simp only [IoLoop.call, IoLoop.forceClose] at success
    split at success <;> cases success
    · exact (frame_setState l _).trans (frame_queueInLoop _ rfl)
    · exact .refl l
  | startRead => exact frame_startReadInLoop success
  | stopRead => exact frame_stopReadInLoop success

/-! ## The invariant -/

/-- Something holds the connection that will still run `connectDestroyed`, or is running it. -/
def Owned (s : Session) : Prop :=
  s.registered = true ∨ 0 < s.removals ∨ .connectDestroyed ∈ s.io.pendingFunctors ∨
    .connectDestroyed ∈ s.functors ∨ .closeCallback ∈ s.todo ∨ .removeChannel ∈ s.todo

structure Inv (s : HeldConnection) : Prop where
  owned : .destroyed ∉ s.session.io.seen → Owned s.session
  batch : s.session.functors ⊆ s.batch
  between : s.session.phase ≠ .functors → s.session.functors = []
  agrees : s.session.io.Agrees
  known : s.session.io.conn.channel.addedToLoop = false →
    s.session.io.conn.channel.index = .kNew
  reported : s.session.phase = .events → s.session.activity = .waiting →
    s.session.io.conn.channel.addedToLoop = true
  guarded : s.copies = 0 → s.calls = [] → Begun s → ¬ Exposed s

variable {s : HeldConnection} {t : Session}

theorem Frame.known (frame : Frame l l')
    (known : l.conn.channel.addedToLoop = false → l.conn.channel.index = .kNew) :
    l'.conn.channel.addedToLoop = false → l'.conn.channel.index = .kNew := by
  intro free
  rcases frame.channel with added | ⟨same, index⟩
  · rw [added] at free
    cases free
  · rw [index]
    exact known (same ▸ free)

theorem Frame.added (frame : Frame l l') (added : l.conn.channel.addedToLoop = true) :
    l'.conn.channel.addedToLoop = true := by
  rcases frame.channel with now | ⟨same, _⟩
  · exact now
  · rw [same, added]

theorem Frame.stays_queued (frame : Frame l l') {functor : LoopFunctor}
    (member : functor ∈ l.pendingFunctors) : functor ∈ l'.pendingFunctors := by
  obtain ⟨added, queued, _⟩ := frame.queued
  rw [queued]
  exact List.mem_append_left _ member

/-- A functor with a raw `this` was queued before. -/
theorem Frame.raw (frame : Frame l l') {functor : LoopFunctor}
    (member : functor ∈ l'.pendingFunctors) (raw : functor.holds = false) :
    functor ∈ l.pendingFunctors := by
  obtain ⟨added, queued, holding⟩ := frame.queued
  rw [queued] at member
  rcases List.mem_append.mp member with before | now
  · exact before
  · rw [holding functor now] at raw
    cases raw

/-- A step of the session within a batch keeps the invariant if the connection stays owned and
`connectDestroyed` has not begun with functors exposed. -/
theorem Inv.move (inv : Inv s) (frame : Frame s.session.io t.io)
    (owned : .destroyed ∉ t.io.seen → Owned t)
    (functors : t.functors ⊆ s.session.functors)
    (phase : t.phase = s.session.phase)
    (waiting : t.activity = .waiting → s.session.activity = .waiting)
    (guarded : s.copies = 0 → s.calls = [] → Begun { s with session := t } → ¬ Exposed s) :
    Inv { s with session := t } where
  owned := owned
  batch := fun _ member => inv.batch (functors member)
  between := by
    intro other
    apply List.eq_nil_of_subset_nil
    rw [← inv.between (phase ▸ other)]
    exact functors
  agrees := frame.agrees inv.agrees
  known := frame.known inv.known
  reported := by
    intro events waits
    exact frame.added (inv.reported (phase ▸ events) (waiting waits))
  guarded := by
    intro copies calls begun exposed
    apply guarded copies calls begun
    rcases exposed with ⟨functor, member, raw⟩ | ⟨apart, functor, member, raw⟩
    · exact .inl ⟨functor, frame.raw member raw, raw⟩
    · exact .inr ⟨apart, functor, functors member, raw⟩

/-- The step neither runs `connectDestroyed` nor hands it on. -/
structure Quiet (s t : Session) : Prop where
  frame : Frame s.io t.io
  registered : t.registered = s.registered
  removals : t.removals = s.removals
  functors : t.functors ⊆ s.functors
  connectDestroyed : .connectDestroyed ∈ s.functors → .connectDestroyed ∈ t.functors
  phase : t.phase = s.phase
  waiting : t.activity = .waiting → s.activity = .waiting
  closing : .closeCallback ∈ s.todo → .closeCallback ∈ t.todo
  removing : .removeChannel ∈ t.todo ↔ .removeChannel ∈ s.todo

theorem Inv.quiet (inv : Inv s) (quiet : Quiet s.session t) : Inv { s with session := t } := by
  have frame := quiet.frame
  refine inv.move frame ?_ quiet.functors quiet.phase quiet.waiting ?_
  · intro unseen
    rcases inv.owned (fun seen => unseen (frame.destroyed.mpr seen)) with
      registered | removals | pending | running | closing | removing
    · exact .inl (quiet.registered.trans registered)
    · exact .inr (.inl (quiet.removals ▸ removals))
    · exact .inr (.inr (.inl (frame.stays_queued pending)))
    · exact .inr (.inr (.inr (.inl (quiet.connectDestroyed running))))
    · exact .inr (.inr (.inr (.inr (.inl (quiet.closing closing)))))
    · exact .inr (.inr (.inr (.inr (.inr (quiet.removing.mpr removing)))))
  · intro copies calls begun
    apply inv.guarded copies calls
    rcases begun with taken | removing | destroyed
    · exact .inl taken
    · exact .inr (.inl (quiet.removing.mp removing))
    · exact .inr (.inr (frame.destroyed.mp destroyed))

/-! ## Quiet steps -/

section Quiet

variable {s t : Session}

theorem quiet_tasks {io : IoLoop} (frame : Frame s.io io) (added : List Task)
    (plain : .removeChannel ∉ added) : Quiet s { s with io := io, todo := added ++ s.todo } where
  frame := frame
  registered := rfl
  removals := rfl
  functors := fun _ member => member
  connectDestroyed := id
  phase := rfl
  waiting := id
  closing := fun member => List.mem_append_right _ member
  removing := by simp [plain]

theorem quiet_io {io : IoLoop} (frame : Frame s.io io) : Quiet s { s with io := io } :=
  quiet_tasks frame [] (by simp)

/-- `handleClose` leaves its last line, which calls `closeCallback_`, to come. -/
theorem quiet_close (success : s.close = .ok t) : Quiet s t := by
  obtain ⟨io, closed, rfl⟩ := Session.close_ok success
  exact quiet_tasks (frame_announced (IoLoop.handleClose_ok closed).2) [.userCode, .closeCallback]
    (by simp)

theorem frame_input (l : IoLoop) (buffer : Buffer) : Frame l (Session.input l buffer) :=
  ⟨⟨[], by simp [Session.input]⟩, Iff.rfl, .inr ⟨rfl, rfl⟩, id⟩

theorem quiet_handleRead {result : ReadResult} (success : s.handleRead result = .ok t) :
    Quiet s t := by
  obtain ⟨buffer, rfl | ⟨_, closed⟩ | rfl⟩ := Session.handleRead_ok success
  · exact quiet_tasks ((frame_input _ _).trans (frame_observe _ (by simp))) [.userCode] (by simp)
  · have read : Quiet s { s with io := Session.input s.io buffer } := quiet_io (frame_input _ _)
    have after := quiet_close closed
    exact ⟨read.frame.trans after.frame, after.registered, after.removals, after.functors,
      after.connectDestroyed, after.phase, after.waiting, after.closing, after.removing⟩
  · exact quiet_io (frame_input _ _)

/-- The tasks besides the last lines of `handleClose` and `connectDestroyed`. -/
theorem quiet_perform {answers : Answers} {task : Task} (success : s.perform answers task = .ok t)
    (notClosing : task ≠ .closeCallback) (notRemoving : task ≠ .removeChannel) : Quiet s t := by
  have same : Quiet s s := quiet_io (.refl s.io)
  cases task with
  | closeOnHangup =>
    simp only [Session.perform] at success
    split at success
    · exact quiet_close success
    · cases success
      exact same
  | reportError =>
    cases success
    exact same
  | readEvent =>
    simp only [Session.perform] at success
    split at success
    · exact quiet_handleRead success
    · cases success
      exact same
  | writeEvent =>
    rcases Session.writeEvent_ok success with rfl | ⟨io, written, rfl⟩
    · exact same
    · exact quiet_io (frame_handleWrite written)
  | leaveEvent =>
    cases success
    refine ⟨⟨⟨[], ?_⟩, Iff.rfl, .inr ⟨rfl, rfl⟩, id⟩, rfl, rfl, fun _ => id, id, rfl, ?_, id, Iff.rfl⟩
    · simp [Session.setChannel]
    · simp
  | userCode =>
    cases success
    exact same
  | closeCallback => exact absurd rfl notClosing
  | removeChannel => exact absurd rfl notRemoving

theorem quiet_runFunctor {answers : Answers} {functor : LoopFunctor}
    (success : s.runFunctor answers functor = .ok t) (other : functor ≠ .connectDestroyed) :
    Quiet s t := by
  cases functor with
  | sendInLoop message =>
    obtain ⟨io, sent, success⟩ := bind_eq_ok success
    cases success
    exact quiet_io (frame_sendInLoop sent)
  | shutdownInLoop =>
    obtain ⟨io, shut, success⟩ := bind_eq_ok success
    cases success
    exact quiet_io (frame_shutdownInLoop shut)
  | forceCloseInLoop =>
    simp only [Session.runFunctor] at success
    split at success
    · exact quiet_close success
    · cases success
      exact quiet_io (.refl _)
  | startReadInLoop =>
    obtain ⟨io, started, success⟩ := bind_eq_ok success
    cases success
    exact quiet_io (frame_startReadInLoop started)
  | stopReadInLoop =>
    obtain ⟨io, stopped, success⟩ := bind_eq_ok success
    cases success
    exact quiet_io (frame_stopReadInLoop stopped)
  | writeCompleteCallback =>
    cases success
    exact quiet_tasks (frame_observe _ (by simp)) [.userCode] (by simp)
  | highWaterMarkCallback backlog =>
    cases success
    exact quiet_tasks (frame_observe _ (by simp)) [.userCode] (by simp)
  | connectDestroyed => exact absurd rfl other

end Quiet

/-! ## The other steps -/

/-- `closeCallback_` hands the connection on: `connectDestroyed` is queued here, or its queueing
asked of the base loop. -/
theorem Inv.closeCallback (inv : Inv s) {rest : List Task}
    (front : s.session.todo = .closeCallback :: rest)
    (success : ({ s.session with todo := rest } : Session).removeConnection = .ok t) :
    Inv { s with session := t } := by
  have seen : Frame s.session.io (s.session.io.observe .closeCallback) := frame_observe _ (by simp)
  have removing : Task.removeChannel ∈ rest → Begun s := fun member =>
    .inr (.inl (by rw [front]; exact List.mem_cons_of_mem _ member))
  rcases Session.removeConnection_ok success with rfl | rfl
  · refine inv.move (seen.trans (frame_queueInLoop _ rfl)) ?_ (fun _ member => member) rfl id ?_
    · exact fun _ => .inr (.inr (.inl (by simp [IoLoop.queueInLoop])))
    · intro copies calls begun
      apply inv.guarded copies calls
      rcases begun with taken | member | destroyed
      · exact .inl taken
      · exact removing member
      · exact .inr (.inr (seen.destroyed.mp destroyed))
  · refine inv.move seen ?_ (fun _ member => member) rfl id ?_
    · exact fun _ => .inr (.inl (Nat.succ_pos _))
    · intro copies calls begun
      apply inv.guarded copies calls
      rcases begun with taken | member | destroyed
      · exact .inl taken
      · exact removing member
      · exact .inr (.inr (seen.destroyed.mp destroyed))

/-- The end of `connectDestroyed`. -/
theorem Inv.removeChannel (inv : Inv s) {rest : List Task}
    (front : s.session.todo = .removeChannel :: rest) {inUse : Bool} {io : IoLoop}
    (idle : inUse = s.session.inUse) (success : s.session.io.removeChannel inUse = .ok io) :
    Inv { s with session := { s.session with io := io, todo := rest } } := by
  have free : inUse = false := by
    obtain ⟨⟨_, _⟩, erased, _⟩ := bind_eq_ok (bind_eq_ok success).choose_spec.1
    exact (Channel.remove_ok erased).2.2.2
  obtain ⟨_, _, effect, agrees⟩ := IoLoop.removeChannel_ok success
  have begun : Begun s := .inr (.inl (by rw [front]; exact List.mem_cons_self))
  have queue : io.pendingFunctors = s.session.io.pendingFunctors := by rw [effect]
  refine ⟨?_, inv.batch, inv.between, agrees inv.agrees, ?_, ?_, ?_⟩
  · intro unseen
    exact absurd (by rw [effect]; simp) unseen
  · intro _
    dsimp only
    rw [effect]
    rfl
  · intro events waits
    rw [idle] at free
    simp [Session.inUse, show s.session.phase = .events from events,
      show s.session.activity = .waiting from waits] at free
  · intro copies calls _ exposed
    apply inv.guarded copies calls begun
    unfold Exposed at exposed
    dsimp only at exposed
    rwa [queue] at exposed

/-- `connectDestroyed`, from a functor or from `~TcpServer`. -/
theorem Inv.connectDestroyed (inv : Inv s) (session : Session)
    (same_io : session.io = s.session.io) (phase : session.phase = s.session.phase)
    (activity : session.activity = s.session.activity)
    (functors : session.functors ⊆ s.session.functors)
    (guarded : s.copies = 0 → s.calls = [] → ¬ Exposed s)
    (success : session.connectDestroyed = .ok t) : Inv { s with session := t } := by
  rcases Session.connectDestroyed_ok success with ⟨_, io, begun, rfl⟩ | ⟨_, rfl⟩
  · refine inv.move ?_ ?_ functors phase ?_ fun copies calls _ => guarded copies calls
    · rw [← same_io]
      exact frame_announced (IoLoop.beginDestroy_ok begun)
    · exact fun _ => .inr (.inr (.inr (.inr (.inr (by simp)))))
    · exact fun waits => activity ▸ waits
  · refine inv.move ?_ ?_ functors phase ?_ fun copies calls _ => guarded copies calls
    · rw [← same_io]
      exact .refl _
    · exact fun _ => .inr (.inr (.inr (.inr (.inr (by simp)))))
    · exact fun waits => activity ▸ waits

/-- `TcpServer::removeConnectionInLoop`, and the loop of `~TcpServer` where the connection has
another loop. -/
theorem Inv.handOver (inv : Inv s) (same : t.io = s.session.io.queueInLoop .connectDestroyed)
    (functors : t.functors = s.session.functors) (todo : t.todo = s.session.todo)
    (phase : t.phase = s.session.phase) (activity : t.activity = s.session.activity) :
    Inv { s with session := t } := by
  refine inv.move ?_ ?_ ?_ phase (fun waits => activity ▸ waits) ?_
  · rw [same]
    exact frame_queueInLoop _ rfl
  · exact fun _ => .inr (.inr (.inl (by rw [same]; simp [IoLoop.queueInLoop])))
  · exact functors ▸ fun _ member => member
  · intro copies calls begun
    apply inv.guarded copies calls
    unfold Begun at begun ⊢
    dsimp only at begun
    rw [todo, same] at begun
    exact begun

/-- A channel that the kernel may report is registered. -/
theorem Inv.deliverable (inv : Inv s) {revents : EventMask}
    (deliverable : s.session.Deliverable revents) :
    s.session.io.conn.channel.addedToLoop = true := by
  obtain ⟨mask, address, listed, _⟩ := deliverable
  have agrees := inv.agrees
  by_contra free
  have new := inv.known (by simpa using free)
  unfold IoLoop.Agrees Channel.Agrees at agrees
  rw [new] at agrees
  rw [agrees.2.1] at listed
  cases listed

/-- A new batch protects its raw functors by `connectDestroyed`, or it has none. -/
theorem Inv.doPendingFunctors (inv : Inv s) (events : s.session.phase = .events) :
    Inv { s with
      session := { s.session with
        phase := .functors
        functors := s.session.io.pendingFunctors
        io := { s.session.io with pendingFunctors := [] } }
      batch := s.session.io.pendingFunctors } where
  owned := by
    intro unseen
    rcases inv.owned unseen with registered | removals | pending | running | closing | removing
    · exact .inl registered
    · exact .inr (.inl removals)
    · exact .inr (.inr (.inr (.inl pending)))
    · rw [inv.between (by simp [events])] at running
      cases running
    · exact .inr (.inr (.inr (.inr (.inl closing))))
    · exact .inr (.inr (.inr (.inr (.inr removing))))
  batch := fun _ => id
  between := fun other => absurd rfl other
  agrees := inv.agrees
  known := inv.known
  reported := fun events => by cases events
  guarded := by
    intro copies calls begun exposed
    rcases exposed with ⟨_, member, _⟩ | ⟨apart, functor, member, raw⟩
    · cases member
    · rcases begun with taken | removing | destroyed
      · exact apart taken
      · exact inv.guarded copies calls (.inr (.inl removing)) (.inl ⟨functor, member, raw⟩)
      · exact inv.guarded copies calls (.inr (.inr destroyed)) (.inl ⟨functor, member, raw⟩)

/-- `EpollPoller::poll` reports no channel but a registered one. -/
theorem Inv.poll (inv : Inv s) {reported : Option EventMask}
    (enabled : s.Enabled (.session (.poll reported)))
    (success : s.session.step (.poll reported) = .ok t) : Inv { s with session := t } := by
  cases reported with
  | none =>
    have idle := inv.between (by simp [show s.session.phase = .poll from enabled.1])
    cases success
    exact ⟨inv.owned, inv.batch, fun _ => idle, inv.agrees, inv.known,
      (fun _ waits => by cases waits), inv.guarded⟩
  | some revents =>
    have idle := inv.between (by simp [show s.session.phase = .poll from enabled.1])
    have added := inv.deliverable enabled.2.2
    cases success
    exact ⟨inv.owned, inv.batch, fun _ => idle, inv.agrees, inv.known, fun _ _ => added,
      inv.guarded⟩

/-- `Channel::handleEvent` begins with nothing else under way. -/
theorem Inv.handleEvent (inv : Inv s) (enabled : s.Enabled (.session .handleEvent))
    (success : s.session.step .handleEvent = .ok t) : Inv { s with session := t } := by
  obtain ⟨events, _, idle⟩ := enabled
  cases success
  refine inv.quiet ⟨⟨⟨[], ?_⟩, Iff.rfl, .inr ⟨rfl, rfl⟩, id⟩, rfl, rfl, fun _ => id, id, rfl, ?_,
    ?_, ?_⟩
  · simp [Session.setChannel]
  · simp
  · simp [idle]
  · simp [idle]

theorem Inv.proceed (inv : Inv s) {answers : Answers}
    (enabled : s.Enabled (.session (.proceed answers)))
    (success : s.session.step (.proceed answers) = .ok t) : Inv { s with session := t } := by
  obtain ⟨task, rest, front, performed⟩ := Session.proceed_ok enabled success
  by_cases closing : task = .closeCallback
  · subst closing
    exact inv.closeCallback front performed
  by_cases removing : task = .removeChannel
  · subst removing
    obtain ⟨io, removed, performed⟩ := bind_eq_ok performed
    cases performed
    exact inv.removeChannel front rfl removed
  · have popped : Quiet s.session { s.session with todo := rest } := by
      refine ⟨.refl _, rfl, rfl, fun _ => id, id, rfl, id, ?_, ?_⟩
      · simp [front, Ne.symm closing]
      · simp [front, Ne.symm removing]
    exact (inv.quiet popped).quiet (quiet_perform performed closing removing)

/-- A functor of the batch; that `connectDestroyed` is one of them guards the others. -/
theorem Inv.runFunctor (inv : Inv s) {answers : Answers}
    (enabled : s.Enabled (.session (.runFunctor answers)))
    (success : s.session.step (.runFunctor answers) = .ok t) : Inv { s with session := t } := by
  obtain ⟨functor, rest, front, performed⟩ := Session.runFunctor_ok enabled success
  have shorter : rest ⊆ s.session.functors := front ▸ List.subset_cons_self functor rest
  by_cases destroys : functor = .connectDestroyed
  · subst destroys
    have taken : LoopFunctor.connectDestroyed ∈ s.batch :=
      inv.batch (by rw [front]; exact List.mem_cons_self)
    exact inv.connectDestroyed { s.session with functors := rest } rfl rfl rfl shorter
      (fun copies calls => inv.guarded copies calls (.inl taken)) performed
  · have popped : Quiet s.session { s.session with functors := rest } := by
      refine ⟨.refl _, rfl, rfl, shorter, ?_, rfl, id, id, Iff.rfl⟩
      simp [front, Ne.symm destroys]
    exact (inv.quiet popped).quiet (quiet_runFunctor performed destroys)

/-- The batch is destroyed when the loop goes round, with all its functors run. -/
theorem Inv.iterate (inv : Inv s) (enabled : s.Enabled (.session .iterate))
    (success : s.session.step .iterate = .ok t) :
    Inv { s with session := t, batch := s.nextBatch .iterate } := by
  obtain ⟨_, _, idle⟩ := enabled
  have none : s.session.functors = [] := idle
  cases success
  refine ⟨inv.owned, ?_, fun _ => none, inv.agrees, inv.known, (fun events => by cases events), ?_⟩
  · intro functor member
    rw [none] at member
    cases member
  · intro copies calls begun exposed
    have before : Begun s := begun.elim (fun taken => by cases taken) .inr
    apply inv.guarded copies calls before
    rcases exposed with pending | ⟨_, functor, member, _⟩
    · exact .inl pending
    · rw [none] at member
      cases member

/-- `~TcpServer` runs `connectDestroyed` on its own loop and queues it on another. -/
theorem Inv.destroyServer (inv : Inv s) (kept : Kept s (.session .destroyServer))
    (success : s.session.step .destroyServer = .ok t) : Inv { s with session := t } := by
  simp only [Session.step, Session.destroyServer] at success
  split at success
  next gone =>
    cases success
    refine inv.quiet ⟨.refl _, ?_, rfl, fun _ => id, id, rfl, id, id, Iff.rfl⟩
    exact gone.symm
  next registered =>
    split at success
    next same =>
      exact inv.connectDestroyed
        { s.session with serverAlive := false, registered := false } rfl rfl rfl (fun _ => id)
        (kept (by simpa using registered) same) success
    next =>
      cases success
      exact inv.handOver rfl rfl rfl rfl rfl

/-- A step of the connection or of its server that is kept keeps the invariant. -/
theorem Inv.session (inv : Inv s) {a : Session.Act} (enabled : s.Enabled (.session a))
    (kept : Kept s (.session a)) (success : s.session.step a = .ok t) :
    Inv { s with session := t, batch := s.nextBatch a } := by
  cases a with
  | connectEstablished =>
    obtain ⟨io, established, success⟩ := bind_eq_ok success
    cases success
    exact inv.quiet (quiet_tasks (frame_announced (IoLoop.connectEstablished_ok established).2)
      [.userCode] (by simp))
  | call inLoopThread call answers =>
    obtain ⟨_, rfl, _⟩ := enabled
    obtain ⟨io, called, success⟩ := bind_eq_ok success
    cases success
    exact inv.quiet (quiet_io (frame_call called))
  | retrieveInput len =>
    obtain ⟨shorter, _, success⟩ := bind_eq_ok success
    cases success
    exact inv.quiet (quiet_io (frame_input _ _))
  | poll reported => exact inv.poll enabled success
  | handleEvent => exact inv.handleEvent enabled success
  | proceed answers => exact inv.proceed enabled success
  | doPendingFunctors =>
    cases success
    exact inv.doPendingFunctors enabled.1
  | runFunctor answers => exact inv.runFunctor enabled success
  | iterate => exact inv.iterate enabled success
  | removeConnectionInLoop =>
    simp only [Session.step] at success
    split at success
    · cases success
    · have same := Session.removeConnectionInLoop_ok success
      subst same
      exact inv.handOver rfl rfl rfl rfl rfl
  | destroyServer => exact inv.destroyServer kept success

/-! ## Copies of the user -/

/-- While a user has a copy, or a thread is inside a call, nothing is exposed to deletion. -/
theorem Inv.pinned (inv : Inv s) (copies : Nat) (calls : List LoopFunctor)
    (pin : 0 < copies ∨ calls ≠ []) : Inv { s with copies := copies, calls := calls } where
  owned := inv.owned
  batch := inv.batch
  between := inv.between
  agrees := inv.agrees
  known := inv.known
  reported := inv.reported
  guarded := by
    intro none idle
    rcases pin with some | busy
    · exact absurd none (Nat.pos_iff_ne_zero.mp some)
    · exact absurd idle busy

theorem Inv.drop (inv : Inv s) (some : 0 < s.copies) (kept : Kept s .drop) :
    Inv { s with copies := s.copies - 1 } where
  owned := inv.owned
  batch := inv.batch
  between := inv.between
  agrees := inv.agrees
  known := inv.known
  reported := inv.reported
  guarded := by
    intro last
    have one : s.copies = 1 := by
      have none : s.copies - 1 = 0 := last
      omega
    exact kept one

/-- The part of a call before `queueInLoop` only stores the state. -/
theorem frame_enter {call : IoLoop.Call} {functor : LoopFunctor}
    (entered : enter l call = some (l', functor)) : Frame l l' := by
  cases call with
  | send message =>
    simp only [enter] at entered
    split at entered <;> cases entered
    exact .refl l
  | shutdown =>
    simp only [enter] at entered
    split at entered <;> cases entered
    exact frame_setState l _
  | forceClose =>
    simp only [enter] at entered
    split at entered <;> cases entered
    exact frame_setState l _
  | startRead =>
    cases entered
    exact .refl l
  | stopRead =>
    cases entered
    exact .refl l

/-- The thread that queues a functor, raw or not, has a copy again. -/
theorem Inv.queue (inv : Inv s) (functor : LoopFunctor) (calls : List LoopFunctor) :
    Inv { s with
      session := { s.session with io := s.session.io.queueInLoop functor }
      copies := s.copies + 1
      calls := calls } where
  owned := by
    intro unseen
    rcases inv.owned unseen with registered | removals | pending | tasks
    · exact .inl registered
    · exact .inr (.inl removals)
    · exact .inr (.inr (.inl (List.mem_append_left _ pending)))
    · exact .inr (.inr (.inr tasks))
  batch := inv.batch
  between := inv.between
  agrees := inv.agrees
  known := inv.known
  reported := inv.reported
  guarded := fun none => absurd none (Nat.succ_ne_zero _)

/-! ## The deleted connection -/

/-- Nothing refers to the connection any more. -/
structure Gone (s : HeldConnection) : Prop where
  destroyed : .destroyed ∈ s.session.io.seen
  registered : s.session.registered = false
  removals : s.session.removals = 0
  todo : s.session.todo = []
  batch : ∀ functor ∈ s.batch, functor.holds = false
  activity : s.session.activity ≠ .current
  copies : s.copies = 0
  calls : s.calls = []
  functors : s.session.functors = []
  pending : s.session.io.pendingFunctors = []
  state : s.session.io.conn.state = .kDisconnected
  unlisted : s.session.io.poller.epollSet s.session.io.conn.channel.fd = none
  passed : ¬ (s.session.phase = .events ∧ s.session.activity = .waiting)

variable {s' : HeldConnection}

/-- Nobody holds the connection: neither the map, the queues, the batch nor a user. -/
theorem held_eq_false : s.held = false ↔
    s.session.registered = false ∧ s.session.removals = 0 ∧ s.session.todo = [] ∧
    s.session.activity ≠ .current ∧
    (∀ functor ∈ s.session.io.pendingFunctors, functor.holds = false) ∧
    (∀ functor ∈ s.batch, functor.holds = false) ∧ s.copies = 0 ∧ s.calls = [] := by
  simp [held, and_assoc]

/-- A deleted connection is not held, so it is not deleted a second time. -/
theorem Gone.unheld (gone : Gone s) : s.held = false :=
  held_eq_false.mpr ⟨gone.registered, gone.removals, gone.todo, gone.activity,
    by simp [gone.pending], gone.batch, gone.copies, gone.calls⟩

/-- What nobody holds has been through `connectDestroyed`, and no functor waits for it. -/
theorem Inv.gone (inv : Inv s) (unheld : s.held = false)
    (state : s.session.io.conn.state = .kDisconnected)
    (free : s.session.io.conn.channel.addedToLoop = false) : Gone { s with deleted := true } := by
  obtain ⟨registered, removals, todo, activity, pending, batch, copies, calls⟩ :=
    held_eq_false.mp unheld
  have untaken : LoopFunctor.connectDestroyed ∉ s.batch := fun member =>
    absurd (batch _ member) (by simp [LoopFunctor.holds])
  have destroyed : .destroyed ∈ s.session.io.seen := by
    by_contra unseen
    rcases inv.owned unseen with owner | owner | owner | owner | owner | owner
    · simp [registered] at owner
    · omega
    · exact absurd (pending _ owner) (by simp [LoopFunctor.holds])
    · exact untaken (inv.batch owner)
    · simp [todo] at owner
    · simp [todo] at owner
  have covered := inv.guarded copies calls (.inr (.inr destroyed))
  have agrees := inv.agrees
  unfold IoLoop.Agrees Channel.Agrees at agrees
  rw [inv.known free] at agrees
  refine ⟨destroyed, registered, removals, todo, batch, activity, copies, calls, ?_, ?_, state,
    agrees.2.1, ?_⟩
  · refine List.eq_nil_iff_forall_not_mem.mpr fun functor member => covered (.inr ⟨untaken, ?_⟩)
    exact ⟨functor, member, batch functor (inv.batch member)⟩
  · refine List.eq_nil_iff_forall_not_mem.mpr fun functor member => covered (.inl ?_)
    exact ⟨functor, member, pending functor member⟩
  · rintro ⟨events, waits⟩
    rw [inv.reported events waits] at free
    cases free

/-- The connection is there and the invariant holds, or it is deleted and nothing refers to it. -/
def Sound (s : HeldConnection) : Prop :=
  if s.deleted then Gone s else Inv s

/-- If no copy is left after a step, the destructor finds the connection as it asserts. -/
theorem Inv.settle (inv : Inv s) (alive : s.deleted = false) (settled : s.settle = .ok s') :
    Sound s' := by
  unfold HeldConnection.settle at settled
  split at settled
  · cases settled
    simpa [Sound, alive] using inv
  next unheld =>
    obtain ⟨_, disconnected, settled⟩ := bind_eq_ok settled
    obtain ⟨_, _, settled⟩ := bind_eq_ok settled
    obtain ⟨_, free, settled⟩ := bind_eq_ok settled
    cases settled
    exact inv.gone (by simpa [alive] using unheld) (cassert_ok disconnected) (cassert_ok free)

/-- No step that can be taken touches the deleted connection. -/
theorem Gone.unused (gone : Gone s) {a : Session.Act} (enabled : s.Enabled (.session a)) :
    useAfterDeletion s.session a = none := by
  cases a with
  | connectEstablished => simp [HeldConnection.Enabled, Session.Enabled, gone.state] at enabled
  | call inLoopThread call answers =>
    simp [HeldConnection.Enabled, InHand, gone.todo, gone.copies] at enabled
  | retrieveInput len => simp [HeldConnection.Enabled, Session.Enabled, gone.todo] at enabled
  | poll reported =>
    cases reported with
    | none => rfl
    | some revents =>
      obtain ⟨_, _, _, _, listed, _⟩ := enabled
      rw [gone.unlisted] at listed
      cases listed
  | handleEvent => exact absurd ⟨enabled.1, enabled.2.1⟩ gone.passed
  | proceed answers => exact absurd gone.todo enabled
  | doPendingFunctors => rfl
  | runFunctor answers => exact absurd gone.functors enabled.2.2
  | iterate => rfl
  | removeConnectionInLoop => rfl
  | destroyServer => rfl

/-- The steps that can still be taken leave the deleted connection alone. -/
theorem Gone.step (gone : Gone s) (deleted : s.deleted = true) {a : Act} (enabled : s.Enabled a)
    (success : s.step a = .ok s') : s'.deleted = true ∧ Gone s' := by
  cases a with
  | session a =>
    simp only [HeldConnection.step, sessionStep, deleted, gone.unused enabled] at success
    obtain ⟨session, stepped, settled⟩ := bind_eq_ok success
    cases settled
    refine ⟨rfl, ?_⟩
    have unused := gone.unused enabled
    cases a with
    | poll reported =>
      cases reported with
      | some revents => cases unused
      | none =>
        cases stepped
        exact ⟨gone.destroyed, gone.registered, gone.removals, gone.todo, gone.batch, by simp,
          gone.copies, gone.calls, gone.functors, gone.pending, gone.state, gone.unlisted, by simp⟩
    | doPendingFunctors =>
      cases stepped
      exact ⟨gone.destroyed, gone.registered, gone.removals, gone.todo, by simp [nextBatch, gone.pending],
        gone.activity, gone.copies, gone.calls, gone.pending, rfl, gone.state, gone.unlisted, by simp⟩
    | iterate =>
      cases stepped
      exact ⟨gone.destroyed, gone.registered, gone.removals, gone.todo, by simp [nextBatch],
        gone.activity, gone.copies, gone.calls, gone.functors, gone.pending, gone.state,
        gone.unlisted, by simp⟩
    | removeConnectionInLoop =>
      have queued : 0 < s.session.removals := enabled
      rw [gone.removals] at queued
      cases queued
    | destroyServer =>
      simp only [Session.step, Session.destroyServer, gone.registered, if_true] at stepped
      cases stepped
      exact ⟨gone.destroyed, rfl, gone.removals, gone.todo, gone.batch, gone.activity, gone.copies,
        gone.calls, gone.functors, gone.pending, gone.state, gone.unlisted, gone.passed⟩
    | connectEstablished | call _ _ _ | retrieveInput _ | handleEvent | proceed _ => cases unused
    | runFunctor answers => exact absurd gone.functors enabled.2.2
  | copy => simp [HeldConnection.Enabled, InHand, gone.todo, gone.copies] at enabled
  | drop => simp [HeldConnection.Enabled, gone.copies] at enabled
  | call call => simp [HeldConnection.Enabled, gone.copies] at enabled
  | queue index => simp [HeldConnection.Enabled, gone.calls] at enabled

/-! ## Runs -/

/-- A step of a connection that is there keeps the invariant or deletes it, and what is deleted
stays so. -/
theorem step_sound (sound : Sound s) {a : Act} (enabled : s.Enabled a) (kept : Kept s a)
    (success : s.step a = .ok s') : Sound s' := by
  unfold Sound at sound
  split at sound
  next deleted =>
    obtain ⟨still, gone⟩ := sound.step deleted enabled success
    simpa [Sound, still] using gone
  next alive =>
    have alive : s.deleted = false := by simpa using alive
    have inv := sound
    cases a with
    | session a =>
      simp only [HeldConnection.step, sessionStep] at success
      split at success
      next deleted _ =>
        rw [alive] at deleted
        cases deleted
      next =>
        obtain ⟨session, stepped, settled⟩ := bind_eq_ok success
        exact (inv.session enabled kept stepped).settle alive settled
    | copy =>
      cases success
      simpa [Sound, alive] using inv.pinned (s.copies + 1) s.calls (.inl (Nat.succ_pos _))
    | drop => exact (inv.drop enabled kept).settle alive success
    | call call =>
      simp only [HeldConnection.step] at success
      split at success
      · cases success
        simpa [Sound, alive] using inv
      next io functor entered =>
        cases success
        have moved := inv.quiet (quiet_io (frame_enter entered))
        simpa [Sound, alive] using
          moved.pinned (s.copies - 1) (s.calls ++ [functor]) (.inr (by simp))
    | queue index =>
      simp only [HeldConnection.step] at success
      split at success
      · cases success
        simpa [Sound, alive] using inv
      next functor _ =>
        cases success
        simpa [Sound, alive] using inv.queue functor (s.calls.eraseIdx index)

/-- The new connection is in the map of its server. -/
theorem fresh_inv {address sockfd : Nat} {poller : EpollPoller}
    (unknown : poller.channels sockfd = none ∧ poller.epollSet sockfd = none)
    (writeComplete highWater sameLoop : Bool) :
    Inv (of (Session.fresh address sockfd poller writeComplete highWater sameLoop)) where
  owned := fun _ => .inl rfl
  batch := fun _ => id
  between := fun _ => rfl
  agrees := Channel.new_agrees unknown
  known := fun _ => rfl
  reported := fun _ waits => by cases waits
  guarded := by
    rintro - - - (⟨_, member, _⟩ | ⟨_, _, member, _⟩)
    · cases member
    · cases member

/-- A connection is deleted only after `connectDestroyed` has run to its end. By then no functor
waits for it and the kernel does not report it, so that no step which can be taken uses it. -/
theorem deleted_unused {address sockfd : Nat} {poller : EpollPoller}
    {writeComplete highWater sameLoop : Bool} {actions : List Act}
    (unknown : poller.channels sockfd = none ∧ poller.epollSet sockfd = none)
    (run : (machine.restrict Kept).Run
      (of (Session.fresh address sockfd poller writeComplete highWater sameLoop)) actions s)
    (deleted : s.deleted = true) :
    .destroyed ∈ s.session.io.seen ∧ s.held = false ∧
    s.session.functors = [] ∧ s.session.io.pendingFunctors = [] ∧
    s.session.io.poller.epollSet s.session.io.conn.channel.fd = none ∧
    ∀ a, machine.enabled s (.session a) → useAfterDeletion s.session a = none := by
  have start : Sound (of (Session.fresh address sockfd poller writeComplete highWater sameLoop)) :=
    fresh_inv unknown writeComplete highWater sameLoop
  have sound := @Machine.Run.invariant _ _ _ (machine.restrict Kept) Sound _ _ _
    (fun _ _ _ sound enabled stepped => step_sound sound enabled.1 enabled.2 stepped) start run
  have gone : Gone s := by simpa [Sound, deleted] using sound
  exact ⟨gone.destroyed, gone.unheld, gone.functors, gone.pending, gone.unlisted,
    fun a enabled => gone.unused enabled⟩

/-- The kernel's answers in the runs below. -/
def obliging : Answers := ⟨.bytes [], .wrote 1, none⟩

/-- Another thread sends a byte, asks for `forceClose` and gives up its copy; the connection is
deleted when the batch with `connectDestroyed` ends. -/
def forcedClose : List Act :=
  [.session .connectEstablished, .copy, .session (.proceed obliging), .call (.send [1]), .queue 0,
    .call .forceClose, .queue 0, .drop, .session .doPendingFunctors,
    .session (.runFunctor obliging), .session (.runFunctor obliging), .session (.proceed obliging),
    .session (.proceed obliging), .session .iterate, .session (.poll none),
    .session .doPendingFunctors, .session (.runFunctor obliging), .session (.proceed obliging),
    .session .iterate]

/-- A connection that is closed by force is deleted with its queue empty. -/
theorem deleted_unused_forced : ∃ s,
    (machine.restrict Kept).Run (of (Session.fresh 1 7 EpollPoller.empty false false true))
      forcedClose s ∧
    s.deleted = true ∧ s.session.io.pendingFunctors = [] := by
  obtain ⟨s, run, deleted⟩ := (machine.restrict Kept).exists_run_of_exec
    (of (Session.fresh 1 7 EpollPoller.empty false false true)) forcedClose
    (fun s => s.deleted) (by decide +kernel)
  have unused := deleted_unused ⟨rfl, rfl⟩ run deleted
  exact ⟨s, run, deleted, unused.2.2.2.1⟩

/-- A functor of `startRead` is queued behind `connectDestroyed` and the last copy given up: the
functor runs on a deleted connection. -/
example : (machine.exec (of (Session.fresh 1 7 EpollPoller.empty false false true))
    [.session .connectEstablished, .copy, .session (.call true .forceClose obliging),
      .session (.proceed obliging), .session .doPendingFunctors, .session (.runFunctor obliging),
      .session (.proceed obliging), .session (.proceed obliging), .session .iterate,
      .session (.poll none), .session .doPendingFunctors, .call .startRead, .queue 0, .drop,
      .session (.runFunctor obliging), .session (.proceed obliging), .session .iterate,
      .session (.poll none), .session .doPendingFunctors]).any
    (fun s => failsWith (s.step (.session (.runFunctor obliging)))
      (.undefinedBehaviour .tcpConnectionCpp 222)) = true := by decide +kernel

/-- The server is destroyed on the connection's loop while a message of another thread waits. -/
example : (machine.exec (of (Session.fresh 1 7 EpollPoller.empty false false true))
    [.session .connectEstablished, .copy, .session (.proceed obliging), .call (.send [1]), .queue 0,
      .drop, .session .destroyServer, .session (.proceed obliging), .session (.proceed obliging),
      .session .doPendingFunctors]).any
    (fun s => failsWith (s.step (.session (.runFunctor obliging)))
      (.undefinedBehaviour .tcpConnectionCpp 110)) = true := by decide +kernel

end Starry.Guarantees.ConnectionLifetime
