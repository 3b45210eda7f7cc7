import Starry.Source.TcpConnectionSpec
import Starry.Source.TcpServer

/-!
# How the functions of a connection end

Many connections share the poller of a loop, and an fd is reused when its connection is
gone, so a channel may be out of step with the poller for good reasons. `Tracked` is what is
always left: where `channels_` has the channel, its index says whether the kernel has the fd.
Since every function of the poller asserts the former, this is enough for `epoll_ctl` to
succeed wherever it is reached.

`_ends` says of each function what it keeps of this for its own and for every other channel,
and bounds its reasons to fail. The bound is a parameter: it allows the assertions outside
the server, and each reason at level FATAL unless the answers of the kernel exclude it.
-/
namespace Starry.Source

open Starry.Foundation

/-! ## The poller -/

/-- The kernel has no fd that `channels_` does not have. -/
def EpollPoller.Sane (p : EpollPoller) : Prop := ∀ fd, p.channels fd = none → p.epollSet fd = none

namespace Channel

structure Tracked (ch : Channel) (p : EpollPoller) : Prop where
  added : p.channels ch.fd = some ch.address → ch.index = .kAdded → p.epollSet ch.fd ≠ none
  deleted : p.channels ch.fd = some ch.address → ch.index = .kDeleted → p.epollSet ch.fd = none

/-- What an operation on `ch` keeps: the poller is sane, the channel is tracked, and so is every
other channel that was. -/
structure Kept (ch : Channel) (p : EpollPoller) (out : Channel × EpollPoller) : Prop where
  address : out.1.address = ch.address
  sane : p.Sane → ch.Tracked p → out.2.Sane
  own : p.Sane → ch.Tracked p → out.1.Tracked out.2
  others : p.Sane → ch.Tracked p → ∀ other : Channel, other.address ≠ ch.address →
    other.Tracked p → other.Tracked out.2

variable {ch out : Channel} {p q : EpollPoller} {allowed : Abort → Prop}

theorem new_tracked (address fd : Nat) (p : EpollPoller) : (Channel.new address fd).Tracked p := by
  refine ⟨fun _ added => ?_, fun _ deleted => ?_⟩
  · cases added
  · cases deleted

/-- The poller with the entries of one fd replaced. -/
def assigned (p : EpollPoller) (fd : Nat) (channel : Option Nat) (entry : Option (EventMask × Nat)) :
    EpollPoller where
  channels := Function.update p.channels fd channel
  epollSet := Function.update p.epollSet fd entry

/-- An entry in the epoll set goes with one in `channels_`. -/
theorem assigned_sane {fd : Nat} {channel : Option Nat} {entry : Option (EventMask × Nat)}
    (sane : p.Sane) (own : channel = none → entry = none) :
    (assigned p fd channel entry).Sane := by
  intro other absent
  by_cases same : other = fd
  · subst same
    simp only [assigned, Function.update_self] at absent ⊢
    exact own absent
  · simp only [assigned, Function.update_of_ne same] at absent ⊢
    exact sane other absent

/-- The entries of other channels stay. -/
theorem assigned_others {fd : Nat} {channel : Option Nat} {entry : Option (EventMask × Nat)}
    {other : Channel} (tracked : other.Tracked p) (foreign : channel ≠ some other.address) :
    other.Tracked (assigned p fd channel entry) := by
  by_cases same : other.fd = fd
  · have elsewhere : (assigned p fd channel entry).channels other.fd ≠ some other.address := by
      simpa [assigned, same] using foreign
    exact ⟨fun found => absurd found elsewhere, fun found => absurd found elsewhere⟩
  · obtain ⟨added, deleted⟩ := tracked
    refine ⟨?_, ?_⟩
    · simpa [assigned, same] using added
    · simpa [assigned, same] using deleted

/-- The channel holds its fd afterwards, with an entry in the kernel as its index says. -/
theorem kept_held {entry : Option (EventMask × Nat)} (fd : out.fd = ch.fd)
    (address : out.address = ch.address) (added : out.index = .kAdded → entry ≠ none)
    (deleted : out.index = .kDeleted → entry = none) :
    Kept ch p (out, assigned p ch.fd (some ch.address) entry) where
  address := address
  sane sane _ := assigned_sane sane (by simp)
  own _ _ := by
    refine ⟨fun _ place => ?_, fun _ place => ?_⟩
    · simpa [assigned, fd] using added place
    · simpa [assigned, fd] using deleted place
  others _ _ other foreign tracked := assigned_others tracked (by simpa using foreign.symm)

theorem kept_again {entry : Option (EventMask × Nat)} (held : p.channels ch.fd = some ch.address)
    (fd : out.fd = ch.fd) (address : out.address = ch.address)
    (added : out.index = .kAdded → entry ≠ none) (deleted : out.index = .kDeleted → entry = none) :
    Kept ch p (out, { p with epollSet := Function.update p.epollSet ch.fd entry }) := by
  have kept := kept_held (p := p) fd address added deleted
  have same : Function.update p.channels ch.fd (some ch.address) = p.channels := by
    rw [← held, Function.update_eq_self]
  rwa [assigned, same] at kept

/-- The channel has left the poller. -/
theorem kept_left (address : out.address = ch.address) (new : out.index = .kNew)
    (q_eq : p.Sane → ch.Tracked p → q = assigned p ch.fd none none) : Kept ch p (out, q) where
  address := address
  sane sane tracked := by
    rw [q_eq sane tracked]
    exact assigned_sane sane fun _ => rfl
  own _ _ := by
    refine ⟨fun _ place => ?_, fun _ place => ?_⟩
    · rw [new] at place
      cases place
    · rw [new] at place
      cases place
  others sane tracked other _ others := by
    dsimp only
    rw [q_eq sane tracked]
    exact assigned_others others (by simp)

/-! ## Its functions -/

/-- The kernel accepts the operation on the fd. -/
def Accepted (p : EpollPoller) (fd : Nat) : EpollPoller.CtlOp → Prop
  | .add => p.epollSet fd = none
  | .mod | .del => p.epollSet fd ≠ none

def entryAfter (ch : Channel) : EpollPoller.CtlOp → Option (EventMask × Nat)
  | .add | .mod => some (ch.events, ch.address)
  | .del => none

/-- `epoll_ctl` fails where it is asked for what it does not accept. -/
theorem update_ends {operation : EpollPoller.CtlOp}
    (ctl : Accepted p ch.fd operation ∨ allowed (.logFatal .epollPollerCpp 133)) :
    Ends (p.update operation ch)
      (fun q => q = { p with epollSet := Function.update p.epollSet ch.fd (entryAfter ch operation) })
      allowed := by
  unfold EpollPoller.update
  cases operation with
  | add =>
    cases entry : p.epollSet ch.fd with
    | none => rfl
    | some _ => exact ctl.resolve_left (by simp [Accepted, entry])
  | mod =>
    cases entry : p.epollSet ch.fd with
    | none => exact ctl.resolve_left (by simp [Accepted, entry])
    | some _ => rfl
  | del =>
    cases entry : p.epollSet ch.fd with
    | none => exact ctl.resolve_left (by simp [Accepted, entry])
    | some _ => rfl

/-- The reasons to fail that are tolerated of a connection: assertions outside the server. -/
def Tolerant (allowed : Abort → Prop) : Prop :=
  ∀ file line, file ≠ .tcpServerCpp → allowed (.assertion file line)

/-- `update` fails in assertions outside the server, or in `epoll_ctl`. -/
theorem setEvents_ends (tolerant : Tolerant allowed) (events : EventMask)
    (ctl : (p.Sane ∧ ch.Tracked p) ∨ allowed (.logFatal .epollPollerCpp 133)) :
    Ends (ch.setEvents events p) (Kept ch p) allowed := by
  unfold setEvents EpollPoller.updateChannel
  dsimp only
  cases place : ch.index with
  | kNew =>
    refine ends_cassert (tolerant _ _ (by decide)) fun absent => ?_
    refine (update_ends (ctl.imp_left fun sound => ?_)).bind fun q _ q_eq => ?_
    · exact sound.1 _ absent
    · subst q_eq
      exact kept_held rfl rfl (by simp [entryAfter]) (by simp)
  | kDeleted =>
    refine ends_cassert (tolerant _ _ (by decide)) fun _ => ?_
    refine ends_cassert (tolerant _ _ (by decide)) fun held => ?_
    refine (update_ends (ctl.imp_left fun sound => ?_)).bind fun q _ q_eq => ?_
    · exact sound.2.deleted held place
    · subst q_eq
      exact kept_again held rfl rfl (by simp [entryAfter]) (by simp)
  | kAdded =>
    refine ends_cassert (tolerant _ _ (by decide)) fun _ => ?_
    refine ends_cassert (tolerant _ _ (by decide)) fun held => ?_
    split
    · refine (update_ends (ctl.imp_left fun sound => ?_)).bind fun q _ q_eq => ?_
      · exact sound.2.added held place
      · subst q_eq
        exact kept_again held rfl rfl (by simp) (by simp [entryAfter])
    · refine (update_ends (ctl.imp_left fun sound => ?_)).bind fun q _ q_eq => ?_
      · exact sound.2.added held place
      · subst q_eq
        exact kept_again held rfl rfl (by simp [entryAfter]) (by simp)

/-- `remove` fails in assertions outside the server, or in `epoll_ctl`. -/
theorem remove_ends (tolerant : Tolerant allowed) (inUse : Bool)
    (ctl : (p.Sane ∧ ch.Tracked p) ∨ allowed (.logFatal .epollPollerCpp 133)) :
    Ends (ch.remove inUse p) (Kept ch p) allowed := by
  unfold remove EpollPoller.removeChannel
  refine ends_cassert (tolerant _ _ (by decide)) fun _ => ?_
  refine ends_cassert (tolerant _ _ (by decide)) fun _ => ?_
  refine ends_cassert (tolerant _ _ (by decide)) fun _ => ?_
  refine ends_cassert (tolerant _ _ (by decide)) fun held => ?_
  refine ends_cassert (tolerant _ _ (by decide)) fun _ => ?_
  refine ends_cassert (tolerant _ _ (by decide)) fun known => ?_
  dsimp only at held known ⊢
  split
  next place =>
    refine (update_ends (ctl.imp_left fun sound => ?_)).bind fun q _ q_eq => ?_
    · exact sound.2.added held place
    · exact kept_left rfl rfl fun _ _ => q_eq
  next place =>
    have deleted := known.resolve_left place
    refine kept_left rfl rfl fun _ tracked => ?_
    have absent := tracked.deleted held deleted
    have same : Function.update p.epollSet ch.fd none = p.epollSet := by
      rw [← absent, Function.update_eq_self]
    rw [assigned, same]

end Channel

/-! ## The functions of a connection -/

namespace IoLoop

variable {l l' : IoLoop} {allowed : Abort → Prop}

def Kept (l l' : IoLoop) : Prop := l.conn.channel.Kept l.poller (l'.conn.channel, l'.poller)

/-- The poller will not fail in `epoll_ctl`, or that failure is allowed. -/
def Registered (allowed : Abort → Prop) (l : IoLoop) : Prop :=
  (l.poller.Sane ∧ l.conn.channel.Tracked l.poller) ∨ allowed (.logFatal .epollPollerCpp 133)

theorem Kept.of_same (channel : l'.conn.channel = l.conn.channel) (poller : l'.poller = l.poller) :
    l.Kept l' := by
  refine ⟨congrArg Channel.address channel, fun sane _ => ?_, fun _ tracked => ?_,
    fun _ _ other _ tracked => ?_⟩
  · rwa [poller]
  · rwa [channel, poller]
  · rwa [poller]

theorem Kept.refl (l : IoLoop) : l.Kept l := .of_same rfl rfl

/-- What two functions keep, one after the other. -/
theorem Kept.trans {l'' : IoLoop} (first : l.Kept l') (second : l'.Kept l'') : l.Kept l'' where
  address := second.address.trans first.address
  sane sane tracked := second.sane (first.sane sane tracked) (first.own sane tracked)
  own sane tracked := second.own (first.sane sane tracked) (first.own sane tracked)
  others sane tracked other foreign before := by
    refine second.others (first.sane sane tracked) (first.own sane tracked) other ?_
      (first.others sane tracked other foreign before)
    rw [first.address]
    exact foreign

theorem Registered.kept (registered : l.Registered allowed) (kept : l.Kept l') :
    l'.Registered allowed :=
  registered.imp_left fun sound => ⟨kept.sane sound.1 sound.2, kept.own sound.1 sound.2⟩

/-- A function of the channel, as one of the connection. -/
theorem onChannel_ends {op : Channel.Op} (ends : Ends (op l.conn.channel l.poller)
      (l.conn.channel.Kept l.poller) allowed) : Ends (l.onChannel op) l.Kept allowed :=
  ends.bind fun _ _ kept => kept

theorem setEvents_ends {op : Channel.Op} {events : EventMask} (tolerant : Channel.Tolerant allowed)
    (registered : l.Registered allowed)
    (shape : op l.conn.channel l.poller = l.conn.channel.setEvents events l.poller) :
    Ends (l.onChannel op) l.Kept allowed := by
  apply onChannel_ends
  rw [shape]
  exact Channel.setEvents_ends tolerant events registered

/-! ### Output -/

/-- The answers to a direct write that leave the connection usable. -/
def Delivered : WriteResult → Prop
  | .wrote _ => True
  | .failed errno => errno = .EWOULDBLOCK

/-- `sendInLoop` calls `write`. -/
def WritesDirectly (l : IoLoop) : Prop :=
  l.conn.state ≠ .kDisconnected ∧ l.conn.channel.isWriting = false ∧
    l.conn.outputBuffer.readableBytes = 0

instance : DecidablePred Delivered
  | .wrote _ => isTrue trivial
  | .failed errno => inferInstanceAs (Decidable (errno = .EWOULDBLOCK))

instance (l : IoLoop) : Decidable l.WritesDirectly := inferInstanceAs (Decidable (_ ∧ _))

/-- A direct write that fails is fatal. -/
theorem writeDirectly_ends (data : List UInt8) {result : WriteResult}
    (write : Delivered result ∨ allowed (.logFatal .tcpConnectionCpp 135)) :
    Ends (l.writeDirectly data result) (fun out => l.Kept out.1) allowed := by
  unfold writeDirectly
  split
  · split
    · exact .of_same rfl rfl
    · exact .of_same rfl rfl
  · exact .refl l
  next errno other =>
    refine write.resolve_left fun delivered => ?_
    cases delivered
    exact other rfl

theorem bufferOutput_ends (tolerant : Channel.Tolerant allowed) (registered : l.Registered allowed)
    (rest : List UInt8) : Ends (l.bufferOutput rest) l.Kept allowed := by
  have appended : Ends (l.conn.outputBuffer.append true rest) (fun _ => True) allowed := by
    refine .of_faults (fun _ _ => trivial) ((Buffer.append_faults _ _ _).imp ?_)
    rintro _ ⟨line, rfl⟩
    exact tolerant _ _ (by decide)
  refine appended.bind fun longer _ _ => ?_
  generalize noted : (if l.conn.highWaterMark ≤ l.conn.outputBuffer.readableBytes + rest.length ∧
      l.conn.outputBuffer.readableBytes < l.conn.highWaterMark ∧
      l.conn.highWaterMarkCallback = true then
    l.queueInLoop (.highWaterMarkCallback (l.conn.outputBuffer.readableBytes + rest.length))
    else l) = loop
  have poller : loop.poller = l.poller := by
    rw [← noted]
    split
    · rfl
    · rfl
  dsimp only
  split
  · exact .of_same rfl poller
  · have same : l.Kept { loop with conn := { l.conn with outputBuffer := longer } } :=
      .of_same rfl poller
    exact (setEvents_ends tolerant (registered.kept same) rfl).imp fun _ kept => same.trans kept

/-- `sendInLoop` is fatal where its direct write is. -/
theorem sendInLoop_ends (tolerant : Channel.Tolerant allowed) (registered : l.Registered allowed)
    (data : List UInt8) {result : WriteResult}
    (write : l.WritesDirectly → Delivered result ∨ allowed (.logFatal .tcpConnectionCpp 135)) :
    Ends (l.sendInLoop data result) l.Kept allowed := by
  unfold sendInLoop
  split
  · exact .refl l
  next opened =>
    have first : Ends (if l.conn.channel.isWriting = false ∧ l.conn.outputBuffer.readableBytes = 0
        then l.writeDirectly data result else .ok (l, 0)) (fun out => l.Kept out.1) allowed := by
      split
      next idle => exact writeDirectly_ends data (write ⟨opened, idle⟩)
      next => exact .refl l
    refine first.bind fun out _ kept => ?_
    refine ends_cassert (tolerant _ _ (by decide)) fun _ => ?_
    split
    · exact (bufferOutput_ends tolerant (registered.kept kept) _).imp fun _ after => kept.trans after
    · exact kept

theorem shutdownInLoop_ends {result : Option Errno}
    (shut : l.conn.channel.isWriting = false →
      result = none ∨ allowed (.logFatal .socketsOpsCpp 133)) :
    Ends (l.shutdownInLoop result) l.Kept allowed := by
  unfold shutdownInLoop
  split
  · exact .refl l
  next idle =>
    split
    · exact .of_same rfl rfl
    next => exact (shut (by simpa using idle)).resolve_left (by simp)

/-- A buffer that ran empty may be shut down. -/
theorem drained_ends (tolerant : Channel.Tolerant allowed) (registered : l.Registered allowed)
    {answers : Answers}
    (shut : l.conn.state = .kDisconnecting →
      answers.shutdown = none ∨ allowed (.logFatal .socketsOpsCpp 133)) :
    Ends (l.drained answers) l.Kept allowed := by
  refine (setEvents_ends tolerant registered rfl).bind fun quiet _ kept => ?_
  have noted : l.Kept (if l.conn.writeCompleteCallback then
      quiet.queueInLoop .writeCompleteCallback else quiet) := by
    split
    · exact kept.trans (.of_same rfl rfl)
    · exact kept
  revert noted
  generalize (if l.conn.writeCompleteCallback then quiet.queueInLoop .writeCompleteCallback
    else quiet) = noted
  intro kept
  dsimp only
  split
  next closing => exact (shutdownInLoop_ends fun _ => shut closing).imp fun _ after => kept.trans after
  next => exact kept

/-- `handleWrite` empties the buffer of a connection in `kDisconnecting`. -/
def Finishes (l : IoLoop) (answers : Answers) : Prop :=
  l.conn.channel.isWriting = true ∧ l.conn.state = .kDisconnecting ∧
    answers.write = .wrote l.conn.outputBuffer.readableBytes

instance (l : IoLoop) (answers : Answers) : Decidable (l.Finishes answers) :=
  inferInstanceAs (Decidable (_ ∧ _))

theorem retrieve_ends (tolerant : Channel.Tolerant allowed) (b : Buffer) (len : Nat) :
    Ends (b.retrieve len) (fun shorter => shorter.readableBytes = 0 → len = b.readableBytes)
      allowed := by
  refine ends_cassert (tolerant _ _ (by decide)) fun enough => ?_
  split
  next more =>
    intro empty
    simp only [Buffer.readableBytes] at more empty
    omega
  next whole =>
    intro _
    omega

/-- `handleWrite` is fatal where nothing is written, or the shutdown fails. -/
theorem handleWrite_ends (tolerant : Channel.Tolerant allowed) (registered : l.Registered allowed)
    {answers : Answers}
    (write : l.conn.channel.isWriting = true →
      (∃ n, 0 < n ∧ answers.write = .wrote n) ∨ allowed (.logFatal .tcpConnectionCpp 302))
    (shut : l.Finishes answers →
      answers.shutdown = none ∨ allowed (.logFatal .socketsOpsCpp 133)) :
    Ends (l.handleWrite answers) l.Kept allowed := by
  unfold handleWrite
  split
  next writing =>
    split
    next failed =>
      refine (write writing).resolve_left ?_
      rintro ⟨n, _, wrote⟩
      rw [failed] at wrote
      cases wrote
    next n wrote =>
      split
      next zero =>
        refine (write writing).resolve_left ?_
        rintro ⟨m, positive, wrote'⟩
        rw [wrote] at wrote'
        cases wrote'
        omega
      next =>
        refine (retrieve_ends tolerant _ n).bind fun shorter _ emptied => ?_
        have same : l.Kept { l with
            conn := { l.conn with outputBuffer := shorter }
            seen := l.seen ++ [.accepted (l.conn.outputBuffer.readable.take n)] } :=
          .of_same rfl rfl
        dsimp only
        split
        next empty =>
          refine (drained_ends tolerant (registered.kept same) fun closing => ?_).imp
            fun _ after => same.trans after
          exact shut ⟨writing, closing, by rw [wrote, emptied empty]⟩
        next => exact same
  next => exact .refl l

/-! ### Reading, establishing and closing -/

theorem startReadInLoop_ends (tolerant : Channel.Tolerant allowed)
    (registered : l.Registered allowed) : Ends l.startReadInLoop l.Kept allowed := by
  unfold startReadInLoop
  split
  · refine (setEvents_ends tolerant registered rfl).bind fun enabled _ kept => ?_
    exact kept.trans (.of_same rfl rfl)
  · exact .refl l

theorem stopReadInLoop_ends (tolerant : Channel.Tolerant allowed)
    (registered : l.Registered allowed) : Ends l.stopReadInLoop l.Kept allowed := by
  unfold stopReadInLoop
  split
  · refine (setEvents_ends tolerant registered rfl).bind fun disabled _ kept => ?_
    exact kept.trans (.of_same rfl rfl)
  · exact .refl l

/-- `tie` changes neither the address nor the index of the channel. -/
theorem tied_kept (l : IoLoop) : l.Kept { l with
    conn := { l.conn with state := .kConnected, channel := { l.conn.channel with tied := true } } } :=
  ⟨rfl, fun sane _ => sane, fun _ tracked => ⟨tracked.added, tracked.deleted⟩,
    fun _ _ _ _ before => before⟩

theorem connectEstablished_ends (tolerant : Channel.Tolerant allowed)
    (registered : l.Registered allowed) : Ends l.connectEstablished l.Kept allowed := by
  refine ends_cassert (tolerant _ _ (by decide)) fun _ => ?_
  have tied := tied_kept l
  refine (setEvents_ends tolerant (registered.kept tied) rfl).bind fun enabled _ kept => ?_
  exact tied.trans (kept.trans (.of_same rfl rfl))

theorem handleClose_ends (tolerant : Channel.Tolerant allowed)
    (registered : l.Registered allowed) : Ends l.handleClose l.Kept allowed := by
  refine ends_cassert (tolerant _ _ (by decide)) fun _ => ?_
  have stated : l.Kept (l.setState .kDisconnected) := .of_same rfl rfl
  refine (setEvents_ends tolerant (registered.kept stated) rfl).bind fun disabled _ kept => ?_
  exact stated.trans (kept.trans (.of_same rfl rfl))

theorem connectDestroyed_ends (tolerant : Channel.Tolerant allowed)
    (registered : l.Registered allowed) : Ends l.connectDestroyed l.Kept allowed := by
  have first : Ends (if l.conn.state = .kConnected then l.beginDestroy else .ok l) l.Kept allowed := by
    split
    · have stated : l.Kept (l.setState .kDisconnected) := .of_same rfl rfl
      refine (setEvents_ends tolerant (registered.kept stated) rfl).bind fun disabled _ kept => ?_
      exact stated.trans (kept.trans (.of_same rfl rfl))
    · exact .refl l
  refine first.bind fun left _ kept => ?_
  have removed := onChannel_ends (Channel.remove_ends tolerant false (registered.kept kept))
  refine removed.bind fun out _ after => ?_
  exact kept.trans (after.trans (.of_same rfl rfl))

/-! ### Calls of the user -/

/-- The answers of the kernel that a call may need. -/
structure CallAnswered (allowed : Abort → Prop) (l : IoLoop) (inLoopThread : Bool)
    (answers : Answers) (call : Call) : Prop where
  send : ∀ message, call = .send message → inLoopThread = true → l.conn.state = .kConnected →
    l.WritesDirectly → Delivered answers.write ∨ allowed (.logFatal .tcpConnectionCpp 135)
  shutdown : call = .shutdown → inLoopThread = true → l.conn.state = .kConnected →
    l.conn.channel.isWriting = false →
    answers.shutdown = none ∨ allowed (.logFatal .socketsOpsCpp 133)

/-- A user call is fatal where the system calls that it makes are. -/
theorem call_ends (tolerant : Channel.Tolerant allowed) (registered : l.Registered allowed)
    {inLoopThread : Bool} {answers : Answers} {call : Call}
    (answered : l.CallAnswered allowed inLoopThread answers call) :
    Ends (l.call inLoopThread answers call) l.Kept allowed := by
  cases call with
  | send message =>
    simp only [IoLoop.call, send, runInLoop]
    split
    next connected =>
      split
      next inside =>
        exact sendInLoop_ends tolerant registered message (answered.send message rfl inside connected)
      next => exact .of_same rfl rfl
    next => exact .refl l
  | shutdown =>
    simp only [IoLoop.call, shutdown, runInLoop]
    split
    next connected =>
      split
      next inside =>
        have stated : l.Kept (l.setState .kDisconnecting) := .of_same rfl rfl
        have ends := shutdownInLoop_ends (l := l.setState .kDisconnecting) fun idle =>
          answered.shutdown rfl inside connected idle
        exact ends.imp fun _ after => stated.trans after
      next => exact .of_same rfl rfl
    next => exact .refl l
  | forceClose =>
    simp only [IoLoop.call, forceClose]
    split
    · exact .of_same rfl rfl
    · exact .refl l
  | startRead =>
    simp only [IoLoop.call, startRead, runInLoop]
    split
    · exact startReadInLoop_ends tolerant registered
    · exact .of_same rfl rfl
  | stopRead =>
    simp only [IoLoop.call, stopRead, runInLoop]
    split
    · exact stopReadInLoop_ends tolerant registered
    · exact .of_same rfl rfl

end IoLoop

namespace ServerWorld

/-- A function of a connection ends as it does on its loop alone. -/
theorem onConnection_ends {w : ServerWorld} {c : Nat} {sc : ServerConnection}
    {run : IoLoop → Except Abort IoLoop} {post : IoLoop → Prop} {allowed : Abort → Prop}
    (found : w.conns[c]? = some sc)
    (ends : Ends (run (w.loopOf sc)) post allowed) :
    Ends (w.onConnection c run) (fun w' => ∃ l, post l ∧ w' = w.put c sc l) allowed := by
  unfold onConnection
  rw [found]
  exact ends.bind fun l _ after => ⟨l, after, rfl⟩

end ServerWorld

end Starry.Source
