import Starry.Guarantees.OutputIntegrity

/-!
# Flow-control callbacks

`highWaterMarkCallback_` is queued by one branch of `sendInLoop` and `writeCompleteCallback_` by
two, one in `sendInLoop` and one in `handleWrite`. Over the runs of `OutputIntegrity`, with any
partial writes, the first is queued by the steps that take the size of `outputBuffer_` from
below the mark to the mark or above, and the second by the steps whose `write(2)` leaves
nothing that was passed to `sendInLoop` unaccepted. A write that fails with `EWOULDBLOCK` takes
nothing and is not counted as one.
-/
namespace Starry.Guarantees.FlowControl

open Starry.Foundation
open Starry.Source
open Starry.Source.IoLoop
open Starry.Guarantees.OutputIntegrity

/-- Both callbacks are set, and the mark is `mark`. -/
structure Armed (mark : Nat) (l : IoLoop) : Prop where
  mark : l.conn.highWaterMark = mark
  writeComplete : l.conn.writeCompleteCallback = true
  highWater : l.conn.highWaterMarkCallback = true

def backlog (l : IoLoop) : Nat := l.conn.outputBuffer.readableBytes

def isAccepted : Observation → Bool
  | .accepted _ => true
  | _ => false

/-- The step from `before` to `after` wrote to the socket. -/
def wrote (before after : IoLoop) : Bool :=
  (after.seen.drop before.seen.length).any isAccepted

/-- What a step should queue for the writes it made, when `sent` is all that was passed to
`sendInLoop` up to and with this step. -/
def completion (sent : List UInt8) (before after : IoLoop) : List LoopFunctor :=
  if wrote before after = true ∧ accepted after.seen = sent then [.writeCompleteCallback] else []

/-- What a step should queue for the change of the backlog. -/
def crossing (mark : Nat) (before after : IoLoop) : List LoopFunctor :=
  if backlog before < mark ∧ mark ≤ backlog after then [.highWaterMarkCallback (backlog after)]
  else []

/-- The step queued what it should, once. -/
def Signals (mark : Nat) (sent : List UInt8) (before after : IoLoop) : Prop :=
  after.pendingFunctors =
    before.pendingFunctors ++ completion sent before after ++ crossing mark before after

variable {l l' : IoLoop} {mark : Nat} {sent : List UInt8}

/-! ## What the functions queue -/

/-- Whether anything was written can be seen in what was added. -/
theorem wrote_of_append (observed : List Observation) (seen : l'.seen = l.seen ++ observed) :
    wrote l l' = observed.any isAccepted := by
  rw [wrote, seen, List.drop_left]

/-- A step that neither writes nor queues nor lets the backlog reach the mark. -/
theorem Signals.quiet (observed : List Observation) (queue : l'.pendingFunctors = l.pendingFunctors)
    (seen : l'.seen = l.seen ++ observed) (unwritten : observed.any isAccepted = false)
    (lower : backlog l' ≤ backlog l) : Signals mark sent l l' := by
  have silent : completion sent l l' = [] := by
    simp [completion, wrote_of_append observed seen, unwritten]
  have below : crossing mark l l' = [] := if_neg (by omega)
  rw [Signals, silent, below, queue]
  simp

theorem backlog_of_reinterested {events : EventMask} (changed : l.Reinterested events l') :
    backlog l' = backlog l := by
  rw [changed.effect]
  rfl

/-- The direct write queues the completion exactly when it took everything. -/
theorem writeDirectly_queues {data : List UInt8} {result : WriteResult} {nwrote : Nat}
    (armed : Armed mark l) (success : l.writeDirectly data result = .ok (l', nwrote)) :
    (nwrote = 0 ∧ l' = l) ∨
    l' = l.output l.conn.outputBuffer
      (if data.length ≤ nwrote then [.writeCompleteCallback] else []) [.accepted (data.take nwrote)] := by
  unfold writeDirectly at success
  split at success
  next count =>
    right
    split at success
    next whole =>
      cases success
      rw [if_pos (by omega)]
      rfl
    next partly =>
      cases success
      have more : ¬ data.length ≤ nwrote := fun whole => partly ⟨by omega, armed.writeComplete⟩
      rw [if_neg more]
      simp [observe, output]
  next =>
    cases success
    exact .inl ⟨rfl, rfl⟩
  next => cases success

/-- The high-water callback is queued when the backlog crosses the mark from below. -/
theorem bufferOutput_queues {rest : List UInt8} (armed : Armed mark l)
    (success : l.bufferOutput rest = .ok l') :
    l'.pendingFunctors = l.pendingFunctors ++
      (if backlog l < mark ∧ mark ≤ backlog l + rest.length then
        [.highWaterMarkCallback (backlog l + rest.length)] else []) ∧
    l'.seen = l.seen := by
  obtain ⟨longer, _, success⟩ := bind_eq_ok success
  have noted : (if l.conn.highWaterMark ≤ l.conn.outputBuffer.readableBytes + rest.length ∧
          l.conn.outputBuffer.readableBytes < l.conn.highWaterMark ∧
          l.conn.highWaterMarkCallback = true then
        l.queueInLoop (.highWaterMarkCallback (l.conn.outputBuffer.readableBytes + rest.length))
      else l) = { l with pendingFunctors := l.pendingFunctors ++
        (if backlog l < mark ∧ mark ≤ backlog l + rest.length then
          [.highWaterMarkCallback (backlog l + rest.length)] else []) } := by
    rw [armed.mark, armed.highWater]
    by_cases crosses : backlog l < mark ∧ mark ≤ backlog l + rest.length
    · rw [if_pos ⟨crosses.2, crosses.1, rfl⟩, if_pos crosses]
      rfl
    · rw [if_neg fun both => crosses ⟨both.2.1, both.1⟩, if_neg crosses]
      simp
  simp only [noted] at success
  split at success
  · cases success
    exact ⟨rfl, rfl⟩
  · rw [(onChannel_ok rfl success).effect]
    exact ⟨rfl, rfl⟩

/-! ## Steps -/

/-- Everything sent has been accepted exactly when nothing is buffered. -/
theorem Carries.accepted_iff (carries : Carries sent l) : accepted l.seen = sent ↔ backlog l = 0 := by
  obtain ⟨⟨pending, rep, whole, _⟩, _⟩ := carries
  have size : pending.length = backlog l := rep.length_eq
  rw [← size, List.length_eq_zero_iff, ← whole]
  simp

/-- The rest of a message is buffered, after a partial write or without one. -/
theorem Signals.buffered {written : IoLoop} {rest : List UInt8} (armed : Armed mark written)
    (queue : written.pendingFunctors = l.pendingFunctors) (same : backlog written = backlog l)
    (some : rest ≠ []) (larger : backlog l' = backlog l + rest.length) (carries : Carries sent l')
    (success : written.bufferOutput rest = .ok l') : Signals mark sent l l' := by
  have positive : 0 < rest.length := List.length_pos_iff.mpr some
  have left : accepted l'.seen ≠ sent := by
    rw [ne_eq, Carries.accepted_iff carries]
    omega
  have silent : completion sent l l' = [] := if_neg fun both => left both.2
  rw [Signals, silent, (bufferOutput_queues armed success).1, queue, same, crossing, larger,
    List.append_nil]

theorem bufferOutput_backlog {rest : List UInt8} (carries : Carries sent l)
    (success : l.bufferOutput rest = .ok l') : backlog l' = backlog l + rest.length := by
  obtain ⟨⟨pending, rep, _, _⟩, _⟩ := carries
  obtain ⟨longer, added, appended, _, outcome⟩ := bufferOutput_ok success
  have grown := (Buffer.append_ok rep appended).length_eq
  have size : backlog (l.output longer added []) = backlog l + rest.length := by
    rw [List.length_append, rep.length_eq] at grown
    exact grown.symm
  rcases outcome with ⟨_, rfl⟩ | ⟨_, changed⟩
  · exact size
  · rw [backlog_of_reinterested changed, size]

/-- `sendInLoop` signals a message written at once, or a mark that was crossed. -/
theorem sendInLoop_signals {data : List UInt8} {result : WriteResult} (armed : Armed mark l)
    (carries : Carries sent l) (isOpen : l.conn.isOpen = true)
    (success : l.sendInLoop data result = .ok l') : Signals mark (sent ++ data) l l' := by
  have after := sendInLoop_carries carries isOpen success
  rcases sendInLoop_ok success with ⟨closed, _⟩ | ⟨_, written, nwrote, direct, rest⟩
  · simp [TcpConnection.isOpen, closed] at isOpen
  · -- Without a direct write, or when it would block, the whole message is left.
    have untouched (same : written = l) (nothing : nwrote = 0) : Signals mark (sent ++ data) l l' := by
      subst same nothing
      rcases rest with ⟨partly, buffered⟩ | ⟨_, rfl⟩
      · have some : data.drop 0 ≠ [] := by
          rw [List.drop_zero, ← List.length_pos_iff]
          exact partly
        exact .buffered armed rfl rfl some (bufferOutput_backlog carries buffered) after buffered
      · exact .quiet [] rfl (by simp) rfl le_rfl
    rcases direct with ⟨idle, empty, direct⟩ | ⟨_, same, nothing⟩
    · rcases writeDirectly_queues armed direct with ⟨nothing, same⟩ | written_eq
      · exact untouched same nothing
      · have front := writeDirectly_carries carries idle direct
        rcases rest with ⟨partly, buffered⟩ | ⟨whole, rfl⟩
        · rw [if_neg (by omega)] at written_eq
          have some : data.drop nwrote ≠ [] := by
            rw [← List.length_pos_iff, List.length_drop]
            omega
          have same : backlog written = backlog l := by rw [written_eq]; rfl
          refine .buffered ?_ ?_ same some ?_ after buffered
          · rw [written_eq]
            exact ⟨armed.mark, armed.writeComplete, armed.highWater⟩
          · simp [written_eq, output]
          · rw [bufferOutput_backlog front buffered, same]
        · rw [if_pos whole] at written_eq
          have same : backlog l' = backlog l := by rw [written_eq]; rfl
          have wrote : wrote l l' = true := by
            rw [wrote_of_append [.accepted (data.take nwrote)] (by rw [written_eq]; rfl)]
            rfl
          have all : accepted l'.seen = sent ++ data := by
            rw [Carries.accepted_iff after, same]
            exact empty
          have below : crossing mark l l' = [] := if_neg (by omega)
          rw [Signals, completion, if_pos ⟨wrote, all⟩, below, written_eq]
          simp [output]
    · exact untouched same nothing

theorem shutdownInLoop_queues {result : Option Errno} (success : l.shutdownInLoop result = .ok l') :
    l'.pendingFunctors = l.pendingFunctors ∧ backlog l' = backlog l ∧
      ∃ observed, l'.seen = l.seen ++ observed ∧ observed.any isAccepted = false := by
  rcases shutdownInLoop_ok success with ⟨_, rfl⟩ | ⟨_, rfl⟩
  · exact ⟨rfl, rfl, [], by simp, rfl⟩
  · exact ⟨rfl, rfl, _, rfl, rfl⟩

/-- A buffer that runs empty is signalled. -/
theorem drained_queues {answers : Answers} (armed : Armed mark l)
    (success : l.drained answers = .ok l') :
    l'.pendingFunctors = l.pendingFunctors ++ [.writeCompleteCallback] ∧ backlog l' = backlog l ∧
      ∃ observed, l'.seen = l.seen ++ observed := by
  obtain ⟨quiet, disabled, success⟩ := bind_eq_ok success
  have changed := onChannel_ok rfl disabled
  simp only [armed.writeComplete, if_true] at success
  have noted : (quiet.queueInLoop .writeCompleteCallback).pendingFunctors =
        l.pendingFunctors ++ [.writeCompleteCallback] ∧
      backlog (quiet.queueInLoop .writeCompleteCallback) = backlog l ∧
      (quiet.queueInLoop .writeCompleteCallback).seen = l.seen := by
    rw [changed.effect]
    exact ⟨rfl, rfl, rfl⟩
  obtain ⟨queue, size, seen⟩ := noted
  split at success
  · obtain ⟨queue', size', observed, seen', _⟩ := shutdownInLoop_queues success
    exact ⟨queue'.trans queue, size'.trans size, observed, by rw [seen', seen]⟩
  · cases success
    exact ⟨queue, size, [], by rw [seen, List.append_nil]⟩

/-- `handleWrite` signals at the end of the backlog only. -/
theorem handleWrite_signals {answers : Answers} (armed : Armed mark l) (carries : Carries sent l)
    (success : l.handleWrite answers = .ok l') : Signals mark sent l l' := by
  have after := handleWrite_carries carries success
  rcases handleWrite_ok success with ⟨_, rfl⟩ | ⟨_, n, shorter, _, _, retrieved, outcome⟩
  · exact .quiet [] rfl (by simp) rfl le_rfl
  · -- The buffer gets shorter, so the mark is not crossed upwards.
    have lower : shorter.readableBytes ≤ backlog l := by
      obtain ⟨⟨pending, rep, _, _⟩, _⟩ := carries
      have enough : n ≤ pending.length := by
        obtain ⟨_, asserted, _⟩ := bind_eq_ok retrieved
        rw [rep.length_eq]
        exact cassert_ok asserted
      have left := ((Buffer.retrieve_yields rep enough).of_ok retrieved).length_eq
      rw [List.length_drop, rep.length_eq] at left
      rw [← left]
      exact Nat.sub_le _ _
    rcases outcome with ⟨empty, success⟩ | ⟨more, rfl⟩
    · have kept : Armed mark (l.output shorter [] [.accepted (l.conn.outputBuffer.readable.take n)]) :=
        ⟨armed.mark, armed.writeComplete, armed.highWater⟩
      obtain ⟨queue, size, observed, seen⟩ := drained_queues kept success
      have size : backlog l' = shorter.readableBytes := size
      have wrote : wrote l l' = true := by
        rw [wrote_of_append _ (seen.trans (List.append_assoc _ _ _))]
        rfl
      have all : accepted l'.seen = sent := by
        rw [Carries.accepted_iff after, size, empty]
      have below : crossing mark l l' = [] := if_neg (by omega)
      rw [Signals, completion, if_pos ⟨wrote, all⟩, below, queue]
      simp [output]
    · have left : accepted
          (l.output shorter [] [.accepted (l.conn.outputBuffer.readable.take n)]).seen ≠ sent :=
        fun all => more ((Carries.accepted_iff after).mp all)
      have below : ¬ (backlog l < mark ∧ mark ≤
          backlog (l.output shorter [] [.accepted (l.conn.outputBuffer.readable.take n)])) := by
        have size : backlog (l.output shorter [] [.accepted (l.conn.outputBuffer.readable.take n)]) =
          shorter.readableBytes := rfl
        omega
      rw [Signals, completion, if_neg fun both => left both.2, crossing, if_neg below]
      simp [output]

theorem Signals.of_retuned {events : EventMask} {reading : Bool}
    (changed : l.Retuned events reading l') : Signals mark sent l l' := by
  rw [changed.effect]
  exact .quiet [] rfl (by simp) rfl le_rfl

/-- Every step signals what it should, and nothing else. -/
theorem step_signals {past : List Act} {a : Act} (armed : Armed mark l)
    (carries : Carries (sentBy past) l) (enabled : machine.enabled l a)
    (stepped : machine.step l a = .ok l') : Signals mark (sentBy (past ++ [a])) l l' := by
  rw [sentBy_append]
  cases a with
  | sendInLoop message result =>
    simpa [sentBy] using sendInLoop_signals armed carries enabled.1 stepped
  | handleWrite answers => simpa [sentBy] using handleWrite_signals armed carries stepped
  | shutdownInLoop result =>
    obtain ⟨queue, size, observed, seen, unwritten⟩ := shutdownInLoop_queues stepped
    exact .quiet observed queue seen unwritten (by omega)
  | startReadInLoop =>
    rcases startReadInLoop_ok stepped with ⟨_, rfl⟩ | ⟨_, changed⟩
    · exact .quiet [] rfl (by simp) rfl le_rfl
    · exact .of_retuned changed
  | stopReadInLoop =>
    rcases stopReadInLoop_ok stepped with ⟨_, rfl⟩ | ⟨_, changed⟩
    · exact .quiet [] rfl (by simp) rfl le_rfl
    · exact .of_retuned changed
  | disconnecting =>
    cases stepped
    exact .quiet [] rfl (by simp [setState]) rfl le_rfl

/-! ## The settings stay -/

theorem Armed.output (armed : Armed mark l) (buffer : Buffer) (added : List LoopFunctor)
    (observed : List Observation) : Armed mark (l.output buffer added observed) :=
  ⟨armed.mark, armed.writeComplete, armed.highWater⟩

theorem Armed.reinterested {events : EventMask} (armed : Armed mark l)
    (changed : l.Reinterested events l') : Armed mark l' := by
  rw [changed.effect]
  exact ⟨armed.mark, armed.writeComplete, armed.highWater⟩

theorem Armed.shutdownInLoop {result : Option Errno} (armed : Armed mark l)
    (success : l.shutdownInLoop result = .ok l') : Armed mark l' := by
  rcases shutdownInLoop_ok success with ⟨_, rfl⟩ | ⟨_, rfl⟩
  · exact armed
  · exact ⟨armed.mark, armed.writeComplete, armed.highWater⟩

theorem Armed.sendInLoop {data : List UInt8} {result : WriteResult} (armed : Armed mark l)
    (success : l.sendInLoop data result = .ok l') : Armed mark l' := by
  rcases sendInLoop_ok success with ⟨_, rfl⟩ | ⟨_, written, nwrote, direct, rest⟩
  · exact armed
  · have front : Armed mark written := by
      rcases direct with ⟨_, _, direct⟩ | ⟨_, rfl, _⟩
      · rcases writeDirectly_ok direct with ⟨_, rfl⟩ | ⟨_, added, _, rfl⟩
        · exact armed
        · exact armed.output _ added _
      · exact armed
    rcases rest with ⟨_, buffered⟩ | ⟨_, rfl⟩
    · obtain ⟨longer, added, _, _, outcome⟩ := bufferOutput_ok buffered
      rcases outcome with ⟨_, rfl⟩ | ⟨_, changed⟩
      · exact front.output longer added []
      · exact (front.output longer added []).reinterested changed
    · exact front

theorem Armed.handleWrite {answers : Answers} (armed : Armed mark l)
    (success : l.handleWrite answers = .ok l') : Armed mark l' := by
  rcases handleWrite_ok success with ⟨_, rfl⟩ | ⟨_, n, shorter, _, _, _, outcome⟩
  · exact armed
  · have taken := armed.output shorter [] [.accepted (l.conn.outputBuffer.readable.take n)]
    rcases outcome with ⟨_, success⟩ | ⟨_, rfl⟩
    · obtain ⟨quiet, added, changed, _, outcome⟩ := drained_ok success
      have noted := (taken.reinterested changed).output quiet.conn.outputBuffer added []
      rcases outcome with rfl | ⟨_, shut⟩
      · exact noted
      · exact noted.shutdownInLoop shut
    · exact taken

theorem Armed.retuned {events : EventMask} {reading : Bool} (armed : Armed mark l)
    (changed : l.Retuned events reading l') : Armed mark l' := by
  rw [changed.effect]
  exact ⟨armed.mark, armed.writeComplete, armed.highWater⟩

/-- The callbacks and the mark stay as they were set. -/
theorem Armed.step {a : Act} (armed : Armed mark l) (stepped : machine.step l a = .ok l') :
    Armed mark l' := by
  cases a with
  | sendInLoop message result => exact armed.sendInLoop stepped
  | handleWrite answers => exact armed.handleWrite stepped
  | shutdownInLoop result => exact armed.shutdownInLoop stepped
  | startReadInLoop =>
    rcases startReadInLoop_ok stepped with ⟨_, rfl⟩ | ⟨_, changed⟩
    · exact armed
    · exact armed.retuned changed
  | stopReadInLoop =>
    rcases stopReadInLoop_ok stepped with ⟨_, rfl⟩ | ⟨_, changed⟩
    · exact armed
    · exact armed.retuned changed
  | disconnecting =>
    cases stepped
    exact ⟨armed.mark, armed.writeComplete, armed.highWater⟩

/-! ## Every run -/

/-- The step queued `highWaterMarkCallback_`. -/
def Fires (before after : IoLoop) : Prop :=
  ∃ size, .highWaterMarkCallback size ∈ after.pendingFunctors.drop before.pendingFunctors.length

/-- A signal that fires has crossed the mark. -/
theorem Signals.fires (signals : Signals mark sent l l') (fires : Fires l l') :
    backlog l < mark ∧ mark ≤ backlog l' := by
  obtain ⟨size, member⟩ := fires
  rw [signals, List.append_assoc, List.drop_left] at member
  by_contra apart
  rw [crossing, if_neg apart, List.append_nil, completion] at member
  split at member <;> simp at member

/-- A step of a run from `l` to its end, after the actions `past`. -/
structure StepAfter (l : IoLoop) (past : List Act) (a : Act) (before after : IoLoop) : Prop where
  reached : machine.Run l past before
  enabled : machine.enabled before a
  stepped : machine.step before a = .ok after

theorem StepAfter.signals {past : List Act} {a : Act} {before after : IoLoop}
    (step : StepAfter l past a before after) (unused : Unused l) (armed : Armed mark l) :
    Signals mark (sentBy (past ++ [a])) before after := by
  have related : Carries (sentBy ([] ++ past)) before ∧ Armed mark before :=
    @Machine.Run.history _ _ _ machine (fun past l => Carries (sentBy past) l ∧ Armed mark l) _ _ [] _
      (fun _ _ _ _ before enabled stepped =>
        ⟨step_carries before.1 enabled stepped, before.2.step stepped⟩)
      ⟨unused.carries, armed⟩ step.reached
  exact step_signals related.2 related.1 step.enabled step.stepped

/-- Every step of every run queues exactly the callbacks it should, and a step that fires the
high-water mark is followed by a backlog below the mark before the next one that does. -/
theorem callbacks_edge_triggered (unused : Unused l) (armed : Armed mark l) :
    (∀ past a before after, StepAfter l past a before after →
      Signals mark (sentBy (past ++ [a])) before after) ∧
    (∀ past a before after between b before' after', StepAfter l past a before after →
      machine.Run after between before' → StepAfter l (past ++ a :: between) b before' after' →
      Fires before after → Fires before' after' → mark ≤ backlog after ∧ backlog before' < mark) := by
  refine ⟨fun past a before after step => step.signals unused armed, ?_⟩
  intro past a before after between b before' after' first _ second fires fires'
  exact ⟨((first.signals unused armed).fires fires).2, ((second.signals unused armed).fires fires').1⟩

/-- The small connection, with a mark of two bytes. -/
def markedConnection : IoLoop :=
  { smallConnection with conn := { smallConnection.conn with highWaterMark := 2 } }

/-- Three bytes are buffered, two of them written, and one more buffered: the mark is crossed
twice, and nothing is complete. -/
theorem callbacks_edge_triggered_twice : Unused markedConnection ∧ Armed 2 markedConnection ∧
    ∃ before after,
      StepAfter markedConnection
        [.sendInLoop [1, 2, 3] (.failed .EWOULDBLOCK), .handleWrite ⟨.bytes [], .wrote 2, none⟩]
        (.sendInLoop [4] (.failed .EWOULDBLOCK)) before after ∧
      before.pendingFunctors = [.highWaterMarkCallback 3] ∧
      after.pendingFunctors = [.highWaterMarkCallback 3, .highWaterMarkCallback 2] ∧
      Signals 2 [1, 2, 3, 4] before after := by
  have unused : Unused markedConnection :=
    ⟨Buffer.new_represents 4, by decide, rfl, by simp [markedConnection, smallConnection]⟩
  have armed : Armed 2 markedConnection := ⟨rfl, rfl, rfl⟩
  have run : machine.Run markedConnection
      [.sendInLoop [1, 2, 3] (.failed .EWOULDBLOCK), .handleWrite ⟨.bytes [], .wrote 2, none⟩] _ :=
    .next ⟨rfl, rfl⟩ rfl
      (.next ⟨rfl, fun _ => ⟨2, rfl, by decide, by change 2 ≤ 3; decide⟩⟩ rfl (.done _))
  have step : StepAfter markedConnection _ (.sendInLoop [4] (.failed .EWOULDBLOCK)) _ _ :=
    ⟨run, ⟨rfl, rfl⟩, rfl⟩
  exact ⟨unused, armed, _, _, step, rfl, rfl,
    (callbacks_edge_triggered unused armed).1 _ _ _ _ step⟩

end Starry.Guarantees.FlowControl
