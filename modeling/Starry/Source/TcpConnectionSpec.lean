import Starry.Source.BufferSpec
import Starry.Source.TcpConnection

/-!
# What each function of `TcpConnection` does when it returns

One lemma per function says what a successful execution did (`_ok`). The functions of the
output path, and calls that only queue a functor, share the frame `Aside`: they leave the
life of the connection alone (`_aside`). The last part says for which reasons a function
may fail (`_faults`).
-/
namespace Starry.Source.IoLoop

open Starry.Foundation

variable {l l' : IoLoop}

def Agrees (l : IoLoop) : Prop := l.conn.channel.Agrees l.poller

/-- The callbacks that report the life of the connection. -/
def isCallback : Observation → Bool
  | .connectionCallback _ | .messageCallback | .closeCallback => true
  | _ => false

def callbacks (l : IoLoop) : List Observation := l.seen.filter isCallback

/-- The channel was updated to `events` and nothing else was touched. -/
structure Reinterested (l : IoLoop) (events : EventMask) (l' : IoLoop) : Prop where
  effect : l' = { l with
    conn := { l.conn with channel := l.conn.channel.updated events }, poller := l'.poller }
  agrees : l.Agrees → l'.Agrees

theorem onChannel_ok {op : Channel.Op} {e : EventMask}
    (shape : op l.conn.channel l.poller = l.conn.channel.setEvents e l.poller)
    (success : l.onChannel op = .ok l') : l.Reinterested e l' := by
  obtain ⟨⟨channel, poller⟩, changed, success⟩ := bind_eq_ok success
  cases success
  rw [shape] at changed
  have channel_eq := Channel.setEvents_ok changed
  dsimp only at channel_eq
  subst channel_eq
  refine ⟨rfl, ?_⟩
  intro agrees
  exact ((Channel.setEvents_yields agrees e).of_ok changed).1

/-- A change of interest succeeds while channel and poller agree. -/
theorem onChannel_yields {op : Channel.Op} {events : EventMask}
    (shape : op l.conn.channel l.poller = l.conn.channel.setEvents events l.poller)
    (agrees : l.Agrees) : Yields (l.onChannel op) fun l' => l.Reinterested events l' := by
  obtain ⟨out, changed, _⟩ := Channel.setEvents_yields agrees events
  have success : l.onChannel op = .ok { l with
      conn := { l.conn with channel := out.1 }, poller := out.2 } := by
    unfold onChannel
    rw [shape, changed]
    rfl
  exact ⟨_, success, onChannel_ok shape success⟩

/-- Nothing of the life of the connection changed, except that functors other than
`connectDestroyed` may have been queued; a closed connection without interest kept its
channel. -/
structure Aside (l l' : IoLoop) : Prop where
  state : l'.conn.state = l.conn.state
  reading : l'.conn.reading = l.conn.reading
  revents : l'.conn.channel.revents = l.conn.channel.revents
  callbacks : l'.callbacks = l.callbacks
  destroyed : .destroyed ∈ l'.seen ↔ .destroyed ∈ l.seen
  queue : .connectDestroyed ∈ l'.pendingFunctors ↔ .connectDestroyed ∈ l.pendingFunctors
  agrees : l.Agrees → l'.Agrees
  closed : l.conn.state = .kDisconnected → l.conn.channel.events = 0#32 →
    l'.conn.channel = l.conn.channel

theorem Aside.refl (l : IoLoop) : l.Aside l :=
  ⟨rfl, rfl, rfl, rfl, Iff.rfl, Iff.rfl, id, fun _ _ => rfl⟩

theorem Aside.trans {l'' : IoLoop} (first : l.Aside l') (second : l'.Aside l'') :
    l.Aside l'' where
  state := second.state.trans first.state
  reading := second.reading.trans first.reading
  revents := second.revents.trans first.revents
  callbacks := second.callbacks.trans first.callbacks
  destroyed := second.destroyed.trans first.destroyed
  queue := second.queue.trans first.queue
  agrees := fun agrees => second.agrees (first.agrees agrees)
  closed := by
    intro closed idle
    have same := first.closed closed idle
    rw [second.closed (first.state.trans closed) (by rw [same]; exact idle), same]

/-! ## Output -/

/-- The loop with another output buffer, further functors and further observations. -/
def output (l : IoLoop) (buffer : Buffer) (added : List LoopFunctor)
    (observed : List Observation) : IoLoop :=
  { l with
    conn := { l.conn with outputBuffer := buffer }
    pendingFunctors := l.pendingFunctors ++ added
    seen := l.seen ++ observed }

/-- The direct write took `nwrote` bytes; the write-complete callback may be queued. -/
theorem writeDirectly_ok {data : List UInt8} {result : WriteResult} {nwrote : Nat}
    (success : l.writeDirectly data result = .ok (l', nwrote)) :
    (nwrote = 0 ∧ l' = l) ∨
    (result = .wrote nwrote ∧ ∃ added, (∀ functor ∈ added, functor = .writeCompleteCallback) ∧
      l' = l.output l.conn.outputBuffer added [.accepted (data.take nwrote)]) := by
  unfold writeDirectly at success
  split at success
  next count =>
    right
    split at success
    · cases success
      exact ⟨rfl, [.writeCompleteCallback], by simp, rfl⟩
    · cases success
      exact ⟨rfl, [], by simp, by simp [observe, output]⟩
  next =>
    cases success
    exact .inl ⟨rfl, rfl⟩
  next => cases success

/-- The rest was appended to the output buffer and the channel is writing. -/
theorem bufferOutput_ok {rest : List UInt8} (success : l.bufferOutput rest = .ok l') :
    ∃ longer added, l.conn.outputBuffer.append true rest = .ok longer ∧
      (∀ functor ∈ added, ∃ backlog, functor = .highWaterMarkCallback backlog) ∧
      ((l.conn.channel.isWriting = true ∧ l' = l.output longer added []) ∨
        (l.conn.channel.isWriting = false ∧
          (l.output longer added []).Reinterested
            (l.conn.channel.events ||| Channel.kWriteEvent) l')) := by
  obtain ⟨longer, appended, success⟩ := bind_eq_ok success
  have noted : ∃ added, (∀ functor ∈ added, ∃ backlog, functor = .highWaterMarkCallback backlog) ∧
      (if l.conn.highWaterMark ≤ l.conn.outputBuffer.readableBytes + rest.length ∧
          l.conn.outputBuffer.readableBytes < l.conn.highWaterMark ∧
          l.conn.highWaterMarkCallback = true then
        l.queueInLoop (.highWaterMarkCallback (l.conn.outputBuffer.readableBytes + rest.length))
      else l) = { l with pendingFunctors := l.pendingFunctors ++ added } := by
    split
    · exact ⟨[_], by simp, rfl⟩
    · exact ⟨[], by simp, by simp⟩
  obtain ⟨added, marks, noted⟩ := noted
  refine ⟨longer, added, appended, marks, ?_⟩
  simp only [noted] at success
  split at success
  next writing =>
    cases success
    exact .inl ⟨writing, by simp [output]⟩
  next idle =>
    have idle : l.conn.channel.isWriting = false := by simpa using idle
    have buffered : ({ l with
        conn := { l.conn with outputBuffer := longer }
        pendingFunctors := l.pendingFunctors ++ added } : IoLoop) = l.output longer added [] := by
      simp [output]
    rw [← buffered]
    exact .inr ⟨idle, onChannel_ok rfl success⟩

/-- Nothing on a closed connection; otherwise a direct write if nothing is queued before
the message, and the rest of it, if there is one, buffered. -/
theorem sendInLoop_ok {data : List UInt8} {result : WriteResult}
    (success : l.sendInLoop data result = .ok l') :
    (l.conn.state = .kDisconnected ∧ l' = l) ∨
    (l.conn.state ≠ .kDisconnected ∧ ∃ written nwrote,
      ((l.conn.channel.isWriting = false ∧ l.conn.outputBuffer.readableBytes = 0 ∧
          l.writeDirectly data result = .ok (written, nwrote)) ∨
        (¬ (l.conn.channel.isWriting = false ∧ l.conn.outputBuffer.readableBytes = 0) ∧
          written = l ∧ nwrote = 0)) ∧
      ((nwrote < data.length ∧ written.bufferOutput (data.drop nwrote) = .ok l') ∨
        (data.length ≤ nwrote ∧ l' = written))) := by
  unfold sendInLoop at success
  split at success
  next closed =>
    cases success
    exact .inl ⟨closed, rfl⟩
  next opened =>
    obtain ⟨⟨written, nwrote⟩, direct, success⟩ := bind_eq_ok success
    obtain ⟨_, _, success⟩ := bind_eq_ok success
    refine .inr ⟨opened, written, nwrote, ?_, ?_⟩
    · split at direct
      next empty => exact .inl ⟨empty.1, empty.2, direct⟩
      next queued =>
        cases direct
        exact .inr ⟨queued, rfl, rfl⟩
    · split at success
      next partly => exact .inl ⟨by omega, success⟩
      next whole =>
        cases success
        exact .inr ⟨by omega, rfl⟩

/-- `shutdownWrite` is called unless the channel is writing. -/
theorem shutdownInLoop_ok {result : Option Errno} (success : l.shutdownInLoop result = .ok l') :
    (l.conn.channel.isWriting = true ∧ l' = l) ∨
    (l.conn.channel.isWriting = false ∧
      l' = l.observe (.shutdownWrite l.conn.outputBuffer.readableBytes)) := by
  unfold shutdownInLoop at success
  split at success
  next writing =>
    cases success
    exact .inl ⟨writing, rfl⟩
  next idle =>
    split at success
    · cases success
      exact .inr ⟨by simpa using idle, rfl⟩
    · cases success

/-- Write interest off, the write-complete callback perhaps queued, and the delayed
`shutdownWrite` of a connection in `kDisconnecting`. -/
theorem drained_ok {answers : Answers} (success : l.drained answers = .ok l') :
    ∃ quiet added, l.Reinterested (l.conn.channel.events &&& ~~~ Channel.kWriteEvent) quiet ∧
      (∀ functor ∈ added, functor = .writeCompleteCallback) ∧
      (l' = quiet.output quiet.conn.outputBuffer added [] ∨
        (l.conn.state = .kDisconnecting ∧
          (quiet.output quiet.conn.outputBuffer added []).shutdownInLoop answers.shutdown =
            .ok l')) := by
  obtain ⟨quiet, disabled, success⟩ := bind_eq_ok success
  have noted : ∃ added, (∀ functor ∈ added, functor = .writeCompleteCallback) ∧
      (if l.conn.writeCompleteCallback then quiet.queueInLoop .writeCompleteCallback else quiet) =
        quiet.output quiet.conn.outputBuffer added [] := by
    split
    · exact ⟨[.writeCompleteCallback], by simp, by simp [queueInLoop, output]⟩
    · exact ⟨[], by simp, by simp [output]⟩
  obtain ⟨added, completes, noted⟩ := noted
  refine ⟨quiet, added, onChannel_ok rfl disabled, completes, ?_⟩
  simp only [noted] at success
  split at success
  next closing => exact .inr ⟨closing, success⟩
  next =>
    cases success
    exact .inl rfl

/-- Nothing unless the channel is writing; otherwise the kernel took a positive number of
bytes off the front of the output buffer. -/
theorem handleWrite_ok {answers : Answers} (success : l.handleWrite answers = .ok l') :
    (l.conn.channel.isWriting = false ∧ l' = l) ∨
    (l.conn.channel.isWriting = true ∧ ∃ n shorter, answers.write = .wrote n ∧ 0 < n ∧
      l.conn.outputBuffer.retrieve n = .ok shorter ∧
      ((shorter.readableBytes = 0 ∧
          (l.output shorter [] [.accepted (l.conn.outputBuffer.readable.take n)]).drained answers =
            .ok l') ∨
        (shorter.readableBytes ≠ 0 ∧
          l' = l.output shorter [] [.accepted (l.conn.outputBuffer.readable.take n)]))) := by
  unfold handleWrite at success
  split at success
  next writing =>
    split at success
    next => cases success
    next n wrote =>
      split at success
      next => cases success
      next positive =>
        obtain ⟨shorter, retrieved, success⟩ := bind_eq_ok success
        refine .inr ⟨writing, n, shorter, wrote, by omega, retrieved, ?_⟩
        split at success
        next empty =>
          refine .inl ⟨empty, ?_⟩
          simpa [output, observe] using success
        next more =>
          cases success
          exact .inr ⟨more, by simp [output, observe]⟩
  next idle =>
    cases success
    exact .inl ⟨by simpa using idle, rfl⟩

/-! ## The frame of the output path -/

/-- The output path leaves state and channel aside. -/
theorem output_aside (l : IoLoop) (buffer : Buffer) (added : List LoopFunctor)
    (observed : List Observation) (plain : .connectDestroyed ∉ added)
    (silent : ∀ o ∈ observed, isCallback o = false ∧ o ≠ .destroyed) :
    l.Aside (l.output buffer added observed) := by
  have unseen : observed.filter isCallback = [] := by
    rw [List.filter_eq_nil_iff]
    intro o member
    simp [(silent o member).1]
  have unbroken : .destroyed ∉ observed := fun member => (silent _ member).2 rfl
  exact ⟨rfl, rfl, rfl, by simp [callbacks, output, unseen], by simp [output, unbroken],
    by simp [output, plain], id, fun _ _ => rfl⟩

/-- A change of interest, outside the closed state. -/
theorem Reinterested.aside {events : EventMask} (changed : l.Reinterested events l')
    (live : l.conn.state = .kDisconnected → l.conn.channel.events ≠ 0#32) : l.Aside l' := by
  have effect := changed.effect
  refine ⟨?_, ?_, ?_, ?_, ?_, ?_, changed.agrees, fun closed idle => absurd idle (live closed)⟩
  all_goals rw [effect]
  all_goals rfl

theorem writeDirectly_aside {data : List UInt8} {result : WriteResult} {nwrote : Nat}
    (success : l.writeDirectly data result = .ok (l', nwrote)) : l.Aside l' := by
  rcases writeDirectly_ok success with ⟨_, rfl⟩ | ⟨_, added, completes, rfl⟩
  · exact .refl l'
  · apply output_aside
    · intro member
      cases completes _ member
    · simp [isCallback]

/-- Buffering turns the write interest on, and leaves the rest aside. -/
theorem bufferOutput_aside {rest : List UInt8} (live : l.conn.state ≠ .kDisconnected)
    (success : l.bufferOutput rest = .ok l') : l.Aside l' := by
  obtain ⟨longer, added, _, marks, outcome⟩ := bufferOutput_ok success
  have plain : .connectDestroyed ∉ added := by
    intro member
    obtain ⟨_, mark⟩ := marks _ member
    cases mark
  have buffered := output_aside l longer added [] plain (by simp)
  rcases outcome with ⟨_, rfl⟩ | ⟨_, changed⟩
  · exact buffered
  · exact buffered.trans (changed.aside fun closed => absurd closed live)

theorem sendInLoop_aside {data : List UInt8} {result : WriteResult}
    (success : l.sendInLoop data result = .ok l') : l.Aside l' := by
  rcases sendInLoop_ok success with ⟨_, rfl⟩ | ⟨live, written, nwrote, direct, rest⟩
  · exact .refl l'
  · have front : l.Aside written := by
      rcases direct with ⟨_, _, direct⟩ | ⟨_, rfl, _⟩
      · exact writeDirectly_aside direct
      · exact .refl written
    rcases rest with ⟨_, buffered⟩ | ⟨_, rfl⟩
    · exact front.trans (bufferOutput_aside (by rw [front.state]; exact live) buffered)
    · exact front

theorem shutdownInLoop_aside {result : Option Errno} (success : l.shutdownInLoop result = .ok l') :
    l.Aside l' := by
  rcases shutdownInLoop_ok success with ⟨_, rfl⟩ | ⟨_, rfl⟩
  · exact .refl l'
  · have same := output_aside l l.conn.outputBuffer []
      [.shutdownWrite l.conn.outputBuffer.readableBytes] (by simp)
      (by simp [isCallback])
    simpa [output, observe] using same

theorem handleWrite_aside {answers : Answers} (success : l.handleWrite answers = .ok l') :
    l.Aside l' := by
  rcases handleWrite_ok success with ⟨_, rfl⟩ | ⟨writing, n, shorter, _, _, _, outcome⟩
  · exact .refl l'
  · have busy : l.conn.channel.events ≠ 0#32 := by
      intro none
      rw [Channel.isWriting_none none] at writing
      cases writing
    have sent := output_aside l shorter []
      [.accepted (l.conn.outputBuffer.readable.take n)] (by simp)
      (by simp [isCallback])
    rcases outcome with ⟨_, success⟩ | ⟨_, rfl⟩
    · obtain ⟨quiet, added, changed, completes, outcome⟩ := drained_ok success
      have plain : .connectDestroyed ∉ added := by
        intro member
        cases completes _ member
      have noted := (sent.trans (changed.aside fun _ => busy)).trans
        (output_aside quiet quiet.conn.outputBuffer added [] plain (by simp))
      rcases outcome with rfl | ⟨_, shut⟩
      · exact noted
      · exact noted.trans (shutdownInLoop_aside shut)
    · exact sent

/-! ## Read interest, establishing and closing -/

/-- Read interest was changed to `events` and `reading_` set accordingly. -/
structure Retuned (l : IoLoop) (events : EventMask) (reading : Bool) (l' : IoLoop) : Prop where
  effect : l' = { l with
    conn := { l.conn with channel := l.conn.channel.updated events, reading := reading }
    poller := l'.poller }
  agrees : l.Agrees → l'.Agrees

theorem Reinterested.retuned {events : EventMask} (changed : l.Reinterested events l')
    (reading : Bool) :
    l.Retuned events reading { l' with conn := { l'.conn with reading := reading } } := by
  refine ⟨?_, changed.agrees⟩
  rw [changed.effect]

theorem startReadInLoop_ok (success : l.startReadInLoop = .ok l') :
    ((l.conn.reading = true ∧ l.conn.channel.isReading = true) ∧ l' = l) ∨
    ((l.conn.reading = false ∨ l.conn.channel.isReading = false) ∧
      l.Retuned (l.conn.channel.events ||| Channel.kReadEvent) true l') := by
  unfold startReadInLoop at success
  split at success
  next touched =>
    obtain ⟨enabled, changed, success⟩ := bind_eq_ok success
    cases success
    exact .inr ⟨touched, (onChannel_ok rfl changed).retuned true⟩
  next already =>
    cases success
    refine .inl ⟨?_, rfl⟩
    simpa only [not_or, Bool.not_eq_false] using already

theorem stopReadInLoop_ok (success : l.stopReadInLoop = .ok l') :
    ((l.conn.reading = false ∧ l.conn.channel.isReading = false) ∧ l' = l) ∨
    ((l.conn.reading = true ∨ l.conn.channel.isReading = true) ∧
      l.Retuned (l.conn.channel.events &&& ~~~ Channel.kReadEvent) false l') := by
  unfold stopReadInLoop at success
  split at success
  next touched =>
    obtain ⟨disabled, changed, success⟩ := bind_eq_ok success
    cases success
    exact .inr ⟨touched, (onChannel_ok rfl changed).retuned false⟩
  next already =>
    cases success
    refine .inl ⟨?_, rfl⟩
    simpa only [not_or, Bool.not_eq_true] using already

/-- The state was changed, the channel updated to `events`, and the connection callback
invoked in the new state. -/
structure Announced (l : IoLoop) (state : StateE) (events : EventMask) (tied : Bool)
    (l' : IoLoop) : Prop where
  effect : l' = { l with
    conn := { l.conn with
      state := state
      channel := { l.conn.channel.updated events with tied := tied } }
    poller := l'.poller
    seen := l.seen ++ [.connectionCallback state] }
  agrees : l.Agrees → l'.Agrees

/-- `connectEstablished` asserts `kConnecting`, and reads from then on. -/
theorem connectEstablished_ok (success : l.connectEstablished = .ok l') :
    l.conn.state = .kConnecting ∧
      l.Announced .kConnected (l.conn.channel.events ||| Channel.kReadEvent) true l' := by
  obtain ⟨_, connecting, success⟩ := bind_eq_ok success
  obtain ⟨enabled, changed, success⟩ := bind_eq_ok success
  cases success
  have changed := onChannel_ok (e := l.conn.channel.events ||| Channel.kReadEvent) rfl changed
  refine ⟨cassert_ok connecting, ?_, changed.agrees⟩
  rw [changed.effect]
  rfl

/-- `handleClose` asserts that the connection is open, and disables the channel. -/
theorem handleClose_ok (success : l.handleClose = .ok l') :
    l.conn.isOpen = true ∧ l.Announced .kDisconnected 0#32 l.conn.channel.tied l' := by
  obtain ⟨_, opened, success⟩ := bind_eq_ok success
  obtain ⟨disabled, changed, success⟩ := bind_eq_ok success
  cases success
  have opened := cassert_ok opened
  have changed := onChannel_ok (e := 0#32) rfl changed
  refine ⟨by simpa [TcpConnection.isOpen] using opened, ?_, changed.agrees⟩
  rw [changed.effect]
  rfl

/-- `connectDestroyed` in `kConnected` disables the channel. -/
theorem beginDestroy_ok (success : l.beginDestroy = .ok l') :
    l.Announced .kDisconnected 0#32 l.conn.channel.tied l' := by
  obtain ⟨disabled, changed, success⟩ := bind_eq_ok success
  cases success
  have changed := onChannel_ok (e := 0#32) rfl changed
  refine ⟨?_, changed.agrees⟩
  rw [changed.effect]
  rfl

/-- `remove` asserts a channel that is disabled and registered. -/
theorem removeChannel_ok {inUse : Bool} (success : l.removeChannel inUse = .ok l') :
    l.conn.channel.events = 0#32 ∧ l.conn.channel.index ≠ .kNew ∧
    l' = { l with
      conn := { l.conn with channel := l.conn.channel.removed }
      poller := l'.poller
      seen := l.seen ++ [.destroyed] } ∧ (l.Agrees → l'.Agrees) := by
  obtain ⟨removed, changed, success⟩ := bind_eq_ok success
  obtain ⟨⟨channel, poller⟩, erased, changed⟩ := bind_eq_ok changed
  cases changed
  cases success
  obtain ⟨channel_eq, idle, known, free⟩ := Channel.remove_ok erased
  dsimp only at channel_eq
  subst channel_eq free
  refine ⟨idle, known, rfl, ?_⟩
  intro agrees
  exact ((Channel.remove_yields agrees idle known).of_ok erased).1

/-! ## Calls of the user -/

theorem queueInLoop_aside {functor : LoopFunctor} (plain : functor ≠ .connectDestroyed) :
    l.Aside (l.queueInLoop functor) := by
  have same := output_aside l l.conn.outputBuffer [functor] [] (by simpa using plain.symm) (by simp)
  simpa [output, queueInLoop] using same

/-- A call leaves the life of the connection alone, or moves an open connection on to
`kDisconnecting`, or runs `startReadInLoop` or `stopReadInLoop` in the loop thread. -/
theorem call_ok {inLoopThread : Bool} {answers : Answers} {call : Call}
    (success : l.call inLoopThread answers call = .ok l') :
    l.Aside l' ∨ (l.conn.isOpen = true ∧ (l.setState .kDisconnecting).Aside l') ∨
    (inLoopThread = true ∧ call = .startRead ∧ l.startReadInLoop = .ok l') ∨
    (inLoopThread = true ∧ call = .stopRead ∧ l.stopReadInLoop = .ok l') := by
  cases call with
  | send message =>
    left
    simp only [IoLoop.call, send, runInLoop] at success
    split at success
    · cases inLoopThread with
      | true => exact sendInLoop_aside success
      | false =>
        cases success
        exact queueInLoop_aside (by simp)
    · cases success
      exact .refl _
  | shutdown =>
    simp only [IoLoop.call, shutdown, runInLoop] at success
    split at success
    next connected =>
      refine .inr (.inl ⟨by simp [TcpConnection.isOpen, connected], ?_⟩)
      cases inLoopThread with
      | true => exact shutdownInLoop_aside success
      | false =>
        cases success
        exact queueInLoop_aside (by simp)
    next =>
      cases success
      exact .inl (.refl _)
  | forceClose =>
    simp only [IoLoop.call, forceClose] at success
    split at success
    next opened =>
      cases success
      exact .inr (.inl ⟨by simpa [TcpConnection.isOpen] using opened, queueInLoop_aside (by simp)⟩)
    next =>
      cases success
      exact .inl (.refl _)
  | startRead =>
    simp only [IoLoop.call, startRead, runInLoop] at success
    cases inLoopThread with
    | true => exact .inr (.inr (.inl ⟨rfl, rfl, success⟩))
    | false =>
      cases success
      exact .inl (queueInLoop_aside (by simp))
  | stopRead =>
    simp only [IoLoop.call, stopRead, runInLoop] at success
    cases inLoopThread with
    | true => exact .inr (.inr (.inr ⟨rfl, rfl, success⟩))
    | false =>
      cases success
      exact .inl (queueInLoop_aside (by simp))

/-! ## Ways to fail -/

/-- Any reason but the assertions of `handleClose`, `Channel::remove` and
`EpollPoller::removeChannel` on the state of the connection. -/
def Foreign (reason : Abort) : Prop :=
  reason ≠ .assertion .tcpConnectionCpp 314 ∧ reason ≠ .assertion .channelCpp 49 ∧
    reason ≠ .assertion .epollPollerCpp 109

instance : DecidablePred Foreign := fun _ => inferInstanceAs (Decidable (_ ∧ _ ∧ _))

theorem foreign_of_buffer {reason : Abort} (own : Buffer.OwnAssertion reason) :
    Foreign reason := by
  obtain ⟨line, rfl⟩ := own
  simp [Foreign]

/-- While channel and poller agree, a change of interest does not fail. -/
theorem onChannel_faults {op : Channel.Op} {e : EventMask} {allowed : Abort → Prop}
    (shape : op l.conn.channel l.poller = l.conn.channel.setEvents e l.poller)
    (agrees : l.Agrees) : Faults (l.onChannel op) allowed :=
  .of_yields (onChannel_yields shape agrees)

theorem writeDirectly_faults (l : IoLoop) (data : List UInt8) (result : WriteResult) :
    Faults (l.writeDirectly data result) Foreign := by
  unfold writeDirectly
  split
  · split
    · exact .ok
    · exact .ok
  · exact .ok
  · exact .error (by decide)

theorem bufferOutput_faults (agrees : l.Agrees) (rest : List UInt8) :
    Faults (l.bufferOutput rest) Foreign := by
  refine Faults.bind ((Buffer.append_faults _ _ _).imp fun _ => foreign_of_buffer) fun longer _ => ?_
  -- the two tests are independent: the high-water mark first, then the write bit
  split
  · dsimp only
    split
    · exact .ok
    · exact onChannel_faults rfl agrees
  · dsimp only
    split
    · exact .ok
    · exact onChannel_faults rfl agrees

theorem sendInLoop_faults (agrees : l.Agrees) (data : List UInt8) (result : WriteResult) :
    Faults (l.sendInLoop data result) Foreign := by
  unfold sendInLoop
  split
  · exact .ok
  · refine Faults.bind ?_ fun out direct => ?_
    · split
      · exact writeDirectly_faults l data result
      · exact .ok
    · have front : out.1.Agrees := by
        split at direct
        · exact (writeDirectly_aside direct).agrees agrees
        · cases direct
          exact agrees
      refine Faults.bind (faults_cassert (by decide)) fun _ _ => ?_
      split
      · exact bufferOutput_faults front _
      · exact .ok

theorem shutdownInLoop_faults (l : IoLoop) (result : Option Errno) :
    Faults (l.shutdownInLoop result) Foreign := by
  unfold shutdownInLoop
  split
  · exact .ok
  · split
    · exact .ok
    · exact .error (by decide)

theorem drained_faults (agrees : l.Agrees) (answers : Answers) :
    Faults (l.drained answers) Foreign := by
  refine Faults.bind (onChannel_faults rfl agrees) fun quiet _ => ?_
  generalize (if l.conn.writeCompleteCallback then quiet.queueInLoop .writeCompleteCallback
    else quiet) = noted
  dsimp only
  split
  · exact shutdownInLoop_faults noted _
  · exact .ok

/-- `handleWrite` fails in no assertion on the state of the connection. -/
theorem handleWrite_faults (agrees : l.Agrees) (answers : Answers) :
    Faults (l.handleWrite answers) Foreign := by
  unfold handleWrite
  split
  · split
    · exact .error (by decide)
    · split
      · exact .error (by decide)
      · refine Faults.bind ((Buffer.retrieve_faults _ _).imp fun _ => foreign_of_buffer) ?_
        intro shorter _
        split
        · refine drained_faults ?_ answers
          exact agrees
        · exact .ok
  · exact .ok

theorem startReadInLoop_faults (agrees : l.Agrees) : Faults l.startReadInLoop Foreign := by
  unfold startReadInLoop
  split
  · exact Faults.bind (onChannel_faults rfl agrees) fun _ _ => .ok
  · exact .ok

theorem stopReadInLoop_faults (agrees : l.Agrees) : Faults l.stopReadInLoop Foreign := by
  unfold stopReadInLoop
  split
  · exact Faults.bind (onChannel_faults rfl agrees) fun _ _ => .ok
  · exact .ok

theorem connectEstablished_faults (agrees : l.Agrees) : Faults l.connectEstablished Foreign := by
  refine Faults.bind (faults_cassert (by decide)) fun _ _ => ?_
  exact Faults.bind (onChannel_faults rfl agrees) fun _ _ => .ok

/-- An open connection closes without fail; on another one only the first assertion fails. -/
theorem handleClose_faults (agrees : l.Agrees) :
    Faults l.handleClose fun reason =>
      reason = .assertion .tcpConnectionCpp 314 ∧ l.conn.isOpen = false := by
  by_cases opened : l.conn.isOpen = true
  · have asserted : l.conn.state = .kConnected ∨ l.conn.state = .kDisconnecting := by
      simpa [TcpConnection.isOpen] using opened
    unfold handleClose
    rw [cassert_of asserted, ok_bind]
    exact Faults.bind (onChannel_faults rfl agrees) fun _ _ => .ok
  · have refused : ¬ (l.conn.state = .kConnected ∨ l.conn.state = .kDisconnecting) := by
      simpa [TcpConnection.isOpen] using opened
    unfold handleClose
    rw [cassert_of_not refused, error_bind]
    exact .error ⟨rfl, by simpa using opened⟩

theorem beginDestroy_faults (agrees : l.Agrees) : Faults l.beginDestroy Foreign :=
  Faults.bind (onChannel_faults rfl agrees) fun _ _ => .ok

/-- The removal of a disabled channel fails in neither of the two assertions on its events. -/
theorem removeChannel_faults {inUse : Bool} (idle : l.conn.channel.events = 0#32) :
    Faults (l.removeChannel inUse) Foreign := by
  have none := Channel.isNoneEvent_iff.mpr idle
  refine Faults.bind (Faults.bind ?_ fun _ _ => .ok) fun _ _ => .ok
  unfold Channel.remove
  rw [cassert_of none, ok_bind]
  refine Faults.bind (faults_cassert (by decide)) fun _ _ => ?_
  refine Faults.bind (faults_cassert (by decide)) fun _ _ => ?_
  refine Faults.bind (faults_cassert (by decide)) fun _ _ => ?_
  have still : ({ l.conn.channel with addedToLoop := false } : Channel).isNoneEvent = true := none
  rw [cassert_of still, ok_bind]
  refine Faults.bind (faults_cassert (by decide)) fun _ _ => ?_
  refine Faults.bind ?_ fun _ _ => .ok
  split
  · unfold EpollPoller.update
    split
    · exact .ok
    · exact .ok
    · exact .ok
    · exact .error (by decide)
  · exact .ok

/-- A user call fails in no assertion on the state of the connection. -/
theorem call_faults (agrees : l.Agrees) (inLoopThread : Bool) (answers : Answers) (call : Call) :
    Faults (l.call inLoopThread answers call) Foreign := by
  cases call with
  | send message =>
    simp only [IoLoop.call, send, runInLoop]
    split
    · split
      · exact sendInLoop_faults agrees _ _
      · exact .ok
    · exact .ok
  | shutdown =>
    simp only [IoLoop.call, shutdown, runInLoop]
    split
    · split
      · exact shutdownInLoop_faults _ _
      · exact .ok
    · exact .ok
  | forceClose => exact .ok
  | startRead =>
    simp only [IoLoop.call, startRead, runInLoop]
    split
    · exact startReadInLoop_faults agrees
    · exact .ok
  | stopRead =>
    simp only [IoLoop.call, stopRead, runInLoop]
    split
    · exact stopReadInLoop_faults agrees
    · exact .ok

end Starry.Source.IoLoop
