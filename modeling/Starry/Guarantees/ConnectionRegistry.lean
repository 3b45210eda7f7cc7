import Starry.Source.TcpServerSpec

/-!
# The connections of a server

Any number of loops, any order of their steps. Each connection goes through `newConnection`,
`connectEstablished`, `handleClose`, the erase and `connectDestroyed` in this order and never
twice, because at any time at most one functor that moves it on is queued, in the loop where
the next of these steps belongs. Its name is its own, so `connections_` holds it from the
first of the steps to the erase.

Fewer than 2^31 connections are accepted in a run. A second `handleClose` of a connection
meets the assertion on its state, which ends the run.
-/
namespace Starry.Guarantees.ConnectionRegistry

open Starry.Foundation
open Starry.Source
open Starry.Source.ServerWorld

/-- What happened to one connection. -/
def history (log : List (Nat × Life)) (c : Nat) : List Life :=
  (log.filter fun entry => entry.1 = c).map Prod.snd

def lifeCycle : List Life := [.accepted, .established, .closed, .erased, .destroyed]

structure Registry (M : Machine ServerWorld Act Abort) (w : ServerWorld) : Prop where
  names : ∀ (c d : Nat) (sc sd : ServerConnection), w.conns[c]? = some sc → w.conns[d]? = some sd →
    sc.name = sd.name → c = d
  connections : ∀ name c, w.server.connections name = some c ↔
    ∃ sc : ServerConnection, w.conns[c]? = some sc ∧ sc.name = name ∧ .erased ∉ history w.log c
  erases : ∀ a, M.enabled w a → Faults (M.step w a) fun reason =>
    reason ≠ .assertion .tcpServerCpp 96
  order : ∀ c, history w.log c <+: lifeCycle

/-- The run accepts fewer than 2^31 connections. -/
def Numbered (w : ServerWorld) : Act → Prop
  | .accept _ => w.conns.length + 1 < 2 ^ 31
  | _ => True

instance (w : ServerWorld) (a : Act) : Decidable (Numbered w a) :=
  match a with
  | .accept _ => inferInstanceAs (Decidable (_ < _))
  | .handleRead _ _ | .handleWrite _ _ | .handleClose _ | .runFunctor _ _ | .call _ _ _ _
  | .retrieveInput _ _ | .setHighWaterMarkCallback _ _ => isTrue trivial

/-! ## Names -/

theorem decimal_natCast (n : Nat) : decimal n = Nat.toDigits 10 n := rfl

theorem toDigits_inj {m n : Nat} (same : Nat.toDigits 10 m = Nat.toDigits 10 n) : m = n := by
  rw [← Nat.ofDigitChars_ten_toDigits (n := m), same, Nat.ofDigitChars_ten_toDigits]

/-- The numbers below 2^31 have at most ten digits, so the text fits into the buffer. -/
theorem connName_eq (s : TcpServer) {id : Nat} (small : id < 2 ^ 31) :
    s.connName id = s.name ++ ('-' :: (s.ipPort.val ++ '#' :: Nat.toDigits 10 id)) := by
  have digits : (Nat.toDigits 10 id).length ≤ 10 :=
    (Nat.length_toDigits_le_iff (by decide) (by decide)).mpr (by omega)
  have short := s.ipPort.property
  unfold TcpServer.connName snprintf
  rw [decimal_natCast, List.take_of_length_le]
  simp only [List.length_cons, List.length_append]
  omega

theorem connName_inj (s : TcpServer) {m n : Nat} (small : m < 2 ^ 31) (small' : n < 2 ^ 31)
    (same : s.connName m = s.connName n) : m = n := by
  rw [connName_eq s small, connName_eq s small'] at same
  simpa using toDigits_inj (List.cons.inj (List.append_cancel_left (List.cons.inj
    (List.append_cancel_left same)).2)).2

/-! ## The life of one connection -/

/-- The life of a connection up to an event. -/
def upTo : Life → List Life
  | .accepted => [.accepted]
  | .established => [.accepted, .established]
  | .closed => [.accepted, .established, .closed]
  | .erased => [.accepted, .established, .closed, .erased]
  | .destroyed => lifeCycle

def Fits (conn : TcpConnection) : Life → Prop
  | .accepted => conn.state = .kConnecting ∧ conn.channel.index = .kNew
  | .established => conn.isOpen = true
  | .closed | .erased | .destroyed => conn.state = .kDisconnected

/-- The functors that move a connection on. -/
def isLife : ServerFunctor → Bool
  | .connectEstablished _ | .removeConnectionInLoop _ | .ofConnection _ .connectDestroyed => true
  | .ofConnection _ _ => false

def subject : ServerFunctor → Nat
  | .connectEstablished c | .removeConnectionInLoop c | .ofConnection c _ => c

/-- The functors of one connection in the queue of a loop. -/
def pendingOf (w : ServerWorld) (loop c : Nat) : List ServerFunctor :=
  (w.loops loop).pendingFunctors.filter fun functor => subject functor = c

/-- The functor that moves the connection on, in the queue where it waits. -/
def awaited (c : Nat) (sc : ServerConnection) (stage : Life) (loop : Nat) : List ServerFunctor :=
  match stage with
  | .accepted => if loop = sc.ioLoop then [.connectEstablished c] else []
  | .closed => if loop = 0 then [.removeConnectionInLoop c] else []
  | .erased => if loop = sc.ioLoop then [.ofConnection c .connectDestroyed] else []
  | .established | .destroyed => []

/-- A connection after the event `stage`, with the functors of `queue` waiting to move it on. -/
structure At (w : ServerWorld) (c : Nat) (sc : ServerConnection) (stage : Life)
    (queue : Nat → List ServerFunctor) : Prop where
  found : w.conns[c]? = some sc
  history : history w.log c = upTo stage
  fits : Fits sc.conn stage
  queued : ∀ loop, (pendingOf w loop c).filter isLife = queue loop
  early : stage = .accepted → ∀ loop, ∀ functor ∈ pendingOf w loop c, isLife functor = true
  registered : w.server.connections sc.name = some c ↔ .erased ∉ upTo stage

/-- Not accepted yet, or between two steps. -/
def Lives (w : ServerWorld) (c : Nat) : Prop :=
  (w.conns[c]? = none ∧ history w.log c = [] ∧ ∀ loop, pendingOf w loop c = []) ∨
  ∃ sc stage, At w c sc stage (awaited c sc stage)

/-- The numbers and names of the connections. -/
structure Named (w : ServerWorld) : Prop where
  bound : w.conns.length < 2 ^ 31
  next : w.conns.length + 1 < 2 ^ 31 → w.server.nextConnId = (w.conns.length + 1 : Nat)
  names : ∀ (c : Nat) (sc : ServerConnection), w.conns[c]? = some sc →
    sc.name = w.server.connName (c + 1 : Nat)
  entries : ∀ name c, w.server.connections name = some c →
    ∃ sc : ServerConnection, w.conns[c]? = some sc ∧ sc.name = name

structure Inv (w : ServerWorld) : Prop where
  named : Named w
  lives : ∀ c, Lives w c

/-! ## Steps that touch one connection -/

/-- What the other connections have is as before. -/
structure Touches (c : Nat) (w w' : ServerWorld) : Prop where
  texts : w'.server.connName = w.server.connName
  next : w'.server.nextConnId = w.server.nextConnId
  names : w'.conns.map ServerConnection.name = w.conns.map ServerConnection.name
  conns : ∀ d, d ≠ c → w'.conns[d]? = w.conns[d]?
  history : ∀ d, d ≠ c → history w'.log d = history w.log d
  queued : ∀ d, d ≠ c → ∀ loop, pendingOf w' loop d = pendingOf w loop d
  connections : ∀ d, d ≠ c → ∀ name,
    w'.server.connections name = some d ↔ w.server.connections name = some d
  own : ∀ name, w'.server.connections name = some c → w.server.connections name = some c

variable {w w' w'' : ServerWorld} {c d : Nat} {sc : ServerConnection} {stage : Life}
variable {queue : Nat → List ServerFunctor}

theorem Touches.refl (c : Nat) (w : ServerWorld) : Touches c w w :=
  ⟨rfl, rfl, rfl, fun _ _ => rfl, fun _ _ => rfl, fun _ _ _ => rfl, fun _ _ _ => Iff.rfl, fun _ => id⟩

theorem Touches.trans (first : Touches c w w') (second : Touches c w' w'') : Touches c w w'' where
  texts := second.texts.trans first.texts
  next := second.next.trans first.next
  names := second.names.trans first.names
  conns d other := (second.conns d other).trans (first.conns d other)
  history d other := (second.history d other).trans (first.history d other)
  queued d other loop := (second.queued d other loop).trans (first.queued d other loop)
  connections d other name := (second.connections d other name).trans (first.connections d other name)
  own name found := first.own name (second.own name found)

/-- What a step does to one connection leaves the life of any other as it was. -/
theorem Touches.lives (touches : Touches c w w') (other : d ≠ c) (lives : Lives w d) : Lives w' d := by
  rcases lives with ⟨absent, nothing, none⟩ | ⟨sc, stage, found, history, fits, queued, early, registered⟩
  · refine .inl ⟨?_, ?_, fun loop => ?_⟩
    · rw [touches.conns d other, absent]
    · rw [touches.history d other, nothing]
    · rw [touches.queued d other, none]
  · refine .inr ⟨sc, stage, ?_, ?_, fits, fun loop => ?_, fun accepted loop => ?_, ?_⟩
    · rw [touches.conns d other, found]
    · rw [touches.history d other, history]
    · rw [touches.queued d other, queued]
    · rw [touches.queued d other]
      exact early accepted loop
    · rw [touches.connections d other, registered]

theorem Touches.length (touches : Touches c w w') : w'.conns.length = w.conns.length := by
  have same := congrArg List.length touches.names
  simpa using same

theorem Touches.name (touches : Touches c w w') {d : Nat} {sd : ServerConnection}
    (found : w'.conns[d]? = some sd) : ∃ before, w.conns[d]? = some before ∧ before.name = sd.name := by
  have same := congrArg (·[d]?) touches.names
  simp only [List.getElem?_map, found, Option.map_some] at same
  exact Option.map_eq_some_iff.mp same.symm

/-- The names and the entries of the map stay right when only one connection changes. -/
theorem Named.touch (named : Named w) (touches : Touches c w w') : Named w' where
  bound := by
    rw [touches.length]
    exact named.bound
  next := by
    rw [touches.length, touches.next]
    exact named.next
  names d sd found := by
    obtain ⟨before, earlier, same⟩ := touches.name found
    rw [← same, named.names d before earlier, touches.texts]
  entries name d found := by
    have earlier : w.server.connections name = some d := by
      by_cases own : d = c
      · subst own
        exact touches.own name found
      · exact (touches.connections d own name).mp found
    obtain ⟨sd, inside, named⟩ := named.entries name d earlier
    have same := congrArg (·[d]?) touches.names
    simp only [List.getElem?_map, inside, Option.map_some] at same
    obtain ⟨after, found', renamed⟩ := Option.map_eq_some_iff.mp same
    exact ⟨after, found', renamed.trans named⟩

/-- The other connections live on, and the one that was touched does too. -/
theorem inv_of_touches (named : Named w) (others : ∀ d, d ≠ c → Lives w d) (touches : Touches c w w')
    (lives : Lives w' c) : Inv w' := by
  refine ⟨named.touch touches, fun d => ?_⟩
  by_cases own : d = c
  · subst own
    exact lives
  · exact touches.lives own (others d own)

/-! ## Queues -/

/-- Functors were added at the end of the queue of one loop. -/
def Grows (loop : Nat) (added : List ServerFunctor) (w w' : ServerWorld) : Prop :=
  ∀ i, (w'.loops i).pendingFunctors =
    (w.loops i).pendingFunctors ++ if i = loop then added else []

theorem queueInLoop_grows (w : ServerWorld) (loop : Nat) (functors : List ServerFunctor) :
    Grows loop functors w (w.queueInLoop loop functors) := by
  intro i
  by_cases same : i = loop
  · subst same
    simp [queueInLoop]
  · simp [queueInLoop, same]

theorem put_grows (w : ServerWorld) (c : Nat) (sc : ServerConnection) (l : IoLoop) :
    Grows sc.ioLoop (l.pendingFunctors.map (.ofConnection c)) w (w.put c sc l) := by
  intro i
  by_cases same : i = sc.ioLoop
  · subst same
    simp [put]
  · simp [put, same]

theorem Grows.pendingOf {loop : Nat} {added : List ServerFunctor} (grows : Grows loop added w w')
    (i d : Nat) : pendingOf w' i d =
      pendingOf w i d ++ if i = loop then added.filter fun functor => subject functor = d else [] := by
  unfold ConnectionRegistry.pendingOf
  rw [grows i, List.filter_append]
  split
  · rfl
  · rfl

/-- What is queued for `c` is no functor of another connection. -/
theorem Grows.other {loop : Nat} {added : List ServerFunctor} (grows : Grows loop added w w')
    (about : ∀ functor ∈ added, subject functor = c) (other : d ≠ c) (i : Nat) :
    ConnectionRegistry.pendingOf w' i d = ConnectionRegistry.pendingOf w i d := by
  have none : (added.filter fun functor => subject functor = d) = [] := by
    rw [List.filter_eq_nil_iff]
    intro functor member
    rw [about functor member]
    simpa using other.symm
  rw [grows.pendingOf, none, ite_self, List.append_nil]

theorem map_ofConnection_subject (functors : List LoopFunctor) :
    ∀ functor ∈ functors.map (.ofConnection c), subject functor = c := by
  intro functor member
  obtain ⟨_, _, rfl⟩ := List.mem_map.mp member
  rfl

/-- Functors of a connection other than `connectDestroyed` do not move it on. -/
theorem put_queued {l : IoLoop} (plain : .connectDestroyed ∉ l.pendingFunctors) (i : Nat) :
    (pendingOf (w.put c sc l) i c).filter isLife = (pendingOf w i c).filter isLife := by
  have none : (l.pendingFunctors.map (ServerFunctor.ofConnection c)).filter isLife = [] := by
    rw [List.filter_eq_nil_iff]
    intro functor member
    obtain ⟨own, inside, rfl⟩ := List.mem_map.mp member
    cases own with
    | connectDestroyed => exact absurd inside plain
    | sendInLoop _ | shutdownInLoop | forceCloseInLoop | startReadInLoop | stopReadInLoop
    | writeCompleteCallback | highWaterMarkCallback _ => simp [isLife]
  rw [(put_grows w c sc l).pendingOf, List.filter_append]
  split
  · rw [List.filter_filter, List.filter_congr fun functor _ => Bool.and_comm _ _, ← List.filter_filter,
      none]
    simp
  · simp

/-! ## Functions of one connection -/

theorem history_note (w : ServerWorld) (c : Nat) (event : Life) :
    history (w.note c event).log c = history w.log c ++ [event] := by
  simp [history, note]

theorem note_touches (w : ServerWorld) (c : Nat) (event : Life) : Touches c w (w.note c event) := by
  refine ⟨rfl, rfl, rfl, fun _ _ => rfl, fun d other => ?_, fun _ _ _ => rfl, fun _ _ _ => Iff.rfl,
    fun _ => id⟩
  simp [history, note, other.symm]

theorem set_names {conn : TcpConnection} (found : w.conns[c]? = some sc) :
    (w.conns.set c { sc with conn := conn }).map ServerConnection.name =
      w.conns.map ServerConnection.name := by
  apply List.ext_getElem?
  intro d
  obtain ⟨inside, at_c⟩ := List.getElem?_eq_some_iff.mp found
  by_cases same : c = d
  · subst same
    simp [inside, at_c]
  · simp [same]

/-- A function of `c` that leaves its functors in the queue touches no other connection. -/
theorem put_touches (found : w.conns[c]? = some sc) (l : IoLoop) : Touches c w (w.put c sc l) := by
  refine ⟨rfl, rfl, set_names found, fun d other => ?_, fun _ _ => rfl, fun d other => ?_,
    fun _ _ _ => Iff.rfl, fun _ => id⟩
  · exact List.getElem?_set_ne other.symm
  · exact (put_grows w c sc l).other (map_ofConnection_subject _) other

theorem put_found (found : w.conns[c]? = some sc) (l : IoLoop) :
    (w.put c sc l).conns[c]? = some { sc with conn := l.conn } := by
  obtain ⟨inside, _⟩ := List.getElem?_eq_some_iff.mp found
  exact List.getElem?_set_self inside

/-- A function that leaves the connection where it is in its life. -/
theorem At.put {l : IoLoop} (held : At w c sc stage queue) (late : stage ≠ .accepted)
    (fits : Fits l.conn stage) (plain : .connectDestroyed ∉ l.pendingFunctors) :
    At (w.put c sc l) c { sc with conn := l.conn } stage queue where
  found := put_found held.found l
  history := held.history
  fits := fits
  queued loop := (put_queued plain loop).trans (held.queued loop)
  early accepted := absurd accepted late
  registered := held.registered

/-- A function that moves the connection on. -/
theorem At.advance {l : IoLoop} {event : Life} (held : At w c sc stage queue)
    (next : upTo event = upTo stage ++ [event]) (late : event ≠ .accepted)
    (fits : Fits l.conn event) (plain : .connectDestroyed ∉ l.pendingFunctors)
    (same : .erased ∉ upTo event ↔ .erased ∉ upTo stage) :
    At ((w.put c sc l).note c event) c { sc with conn := l.conn } event queue where
  found := put_found held.found l
  history := by
    rw [history_note, next]
    exact congrArg (· ++ [event]) held.history
  fits := fits
  queued loop := (put_queued plain loop).trans (held.queued loop)
  early accepted := absurd accepted late
  registered := held.registered.trans same.symm

theorem queueInLoop_touches (w : ServerWorld) (loop : Nat) {functor : ServerFunctor}
    (own : subject functor = c) : Touches c w (w.queueInLoop loop [functor]) := by
  refine ⟨rfl, rfl, rfl, fun _ _ => rfl, fun _ _ => rfl, fun d other => ?_, fun _ _ _ => Iff.rfl,
    fun _ => id⟩
  exact (queueInLoop_grows w loop [functor]).other (by simpa using own) other

/-- The functor that is to move the connection on joins a queue. -/
theorem At.queueInLoop {functor : ServerFunctor} (held : At w c sc stage fun _ => []) (loop : Nat)
    (own : subject functor = c) (life : isLife functor = true) :
    At (w.queueInLoop loop [functor]) c sc stage fun i => if i = loop then [functor] else [] where
  found := held.found
  history := held.history
  fits := held.fits
  queued i := by
    rw [(queueInLoop_grows w loop [functor]).pendingOf, List.filter_append, held.queued i]
    split
    · simp [own, life]
    · rfl
  early accepted i member inside := by
    rw [(queueInLoop_grows w loop [functor]).pendingOf] at inside
    rcases List.mem_append.mp inside with before | now
    · exact held.early accepted i member before
    · split at now
      · rw [List.mem_singleton.mp (List.mem_filter.mp now).1]
        exact life
      · cases now
  registered := held.registered

/-! ## Establishing and destroying -/

/-- A way to fail that is not the assertion on the erase. -/
def NotErase (reason : Abort) : Prop := reason ≠ .assertion .tcpServerCpp 96

theorem notErase_tolerant : Channel.Tolerant NotErase := by
  intro file line other same
  cases same
  exact other rfl

theorem notErase_fatal (file : SourceFile) (line : Nat) : NotErase (.logFatal file line) := by
  intro same
  cases same

/-- Only the connection was touched, and it lives on. -/
def Continues (c : Nat) (w w' : ServerWorld) : Prop := Touches c w w' ∧ Lives w' c

/-- `connectEstablished` takes an accepted connection on, or fails elsewhere than in the erase. -/
theorem connectEstablished_ends (held : At w c sc .accepted fun _ => []) :
    Ends (w.connectEstablished c) (Continues c w) NotErase := by
  have ends := IoLoop.connectEstablished_ends (l := w.loopOf sc)
    notErase_tolerant (.inr (notErase_fatal _ _))
  have opens := Ends.of_faults (fun _ success => IoLoop.connectEstablished_ok success) ends.faults
  refine (onConnection_ends held.found opens).bind ?_
  rintro established _ ⟨l, ⟨_, announced⟩, rfl⟩
  have effect := announced.effect
  refine ⟨(put_touches held.found l).trans (note_touches _ c _), .inr ⟨{ sc with conn := l.conn }, .established, ?_⟩⟩
  refine held.advance rfl (by decide) ?_ ?_ (by decide)
  · rw [effect]
    rfl
  · rw [effect]
    simp [loopOf]

/-- After the erase, `connectDestroyed` is the last event in the life of `c`. -/
theorem connectDestroyed_ends (held : At w c sc .erased fun _ => []) :
    Ends (w.connectDestroyed c) (Continues c w) NotErase := by
  have state : sc.conn.state = .kDisconnected := held.fits
  have ends := IoLoop.connectDestroyed_ends (l := w.loopOf sc)
    notErase_tolerant (.inr (notErase_fatal _ _))
  have leaves : Ends (w.loopOf sc).connectDestroyed
      (fun l => l.conn.state = .kDisconnected ∧ l.pendingFunctors = []) NotErase := by
    refine .of_faults (fun l success => ?_) ends.faults
    unfold IoLoop.connectDestroyed at success
    rw [if_neg (by simp [loopOf, state]), ok_bind] at success
    obtain ⟨_, _, effect, _⟩ := IoLoop.removeChannel_ok success
    rw [effect]
    exact ⟨state, rfl⟩
  refine (onConnection_ends held.found leaves).bind ?_
  rintro destroyed _ ⟨l, ⟨closed, empty⟩, rfl⟩
  refine ⟨(put_touches held.found l).trans (note_touches _ c _), .inr ⟨{ sc with conn := l.conn }, .destroyed, ?_⟩⟩
  exact held.advance rfl (by decide) closed (by simp [empty]) (by decide)

/-! ## The erase -/

/-- The assertion `n == 1` holds where the name is registered. -/
theorem erase_registered {s : TcpServer} {name : List Char} (found : s.connections name = some c) :
    s.erase name = (1, { s with connections := Function.update s.connections name none }) := by
  unfold TcpServer.erase
  rw [found]

theorem awaited_conn (c : Nat) (sc : ServerConnection) (conn : TcpConnection) (stage : Life) :
    awaited c { sc with conn := conn } stage = awaited c sc stage := by
  cases stage <;> rfl

/-- The server without the entry `name`. -/
def drop (w : ServerWorld) (name : List Char) : ServerWorld :=
  { w with server := { w.server with connections := Function.update w.server.connections name none } }

theorem drop_touches {name : List Char} (entry : w.server.connections name = some c) :
    Touches c w (drop w name) := by
  refine ⟨rfl, rfl, rfl, fun _ _ => rfl, fun _ _ => rfl, fun _ _ _ => rfl, fun d other key => ?_,
    fun key => ?_⟩
  · by_cases same : key = name
    · subst same
      simp [drop, entry, other.symm]
    · simp [drop, same]
  · by_cases same : key = name
    · subst same
      simp [drop]
    · simp [drop, same]

/-- The erase takes the next step in the life of `c`. -/
theorem At.drop (held : At w c sc .closed fun _ => []) :
    At ((ConnectionRegistry.drop w sc.name).note c .erased) c sc .erased fun _ => [] where
  found := held.found
  history := by
    rw [history_note]
    exact congrArg (· ++ [.erased]) held.history
  fits := held.fits
  queued := held.queued
  early accepted := by cases accepted
  registered := by simp [ConnectionRegistry.drop, note, upTo]

/-- The connection is found and erased, and its `connectDestroyed` queued. -/
theorem removeConnectionInLoop_at (held : At w c sc .closed fun _ => []) :
    Yields (w.removeConnectionInLoop c) fun w' =>
      Touches c w w' ∧ At w' c sc .erased (awaited c sc .erased) := by
  have entry := held.registered.mpr (by decide)
  unfold removeConnectionInLoop
  rw [held.found]
  dsimp only
  rw [erase_registered entry]
  apply yields_cassert rfl
  refine .ok ⟨?_, held.drop.queueInLoop sc.ioLoop rfl rfl⟩
  exact ((drop_touches entry).trans (note_touches _ c .erased)).trans (queueInLoop_touches _ _ rfl)

/-! ## Closing -/

/-- `TcpServer::removeConnection` runs or queues the erase, once, in the base loop. -/
theorem removeConnection_ends (held : At w c sc .closed fun _ => []) :
    Ends (w.removeConnection c) (Continues c w) NotErase := by
  unfold removeConnection
  rw [held.found]
  dsimp only
  split
  · obtain ⟨w', success, touches, after⟩ := removeConnectionInLoop_at held
    rw [success]
    exact ⟨touches, .inr ⟨sc, .erased, after⟩⟩
  · exact ⟨queueInLoop_touches w 0 rfl, .inr ⟨sc, .closed, held.queueInLoop 0 rfl rfl⟩⟩

theorem At.open_stage (held : At w c sc stage queue) (opened : sc.conn.isOpen = true) :
    stage = .established := by
  have fits := held.fits
  cases stage with
  | established => rfl
  | accepted => simp [TcpConnection.isOpen, fits.1] at opened
  | closed | erased | destroyed =>
    have state : sc.conn.state = .kDisconnected := fits
    simp [TcpConnection.isOpen, state] at opened

/-- `handleClose` fails on a connection that is not open. -/
theorem handleClose_ends (held : At w c sc stage (awaited c sc stage)) :
    Ends (w.handleClose c) (Continues c w) NotErase := by
  have ends := IoLoop.handleClose_ends (l := w.loopOf sc)
    notErase_tolerant (.inr (notErase_fatal _ _))
  have closes := Ends.of_faults (fun _ success => IoLoop.handleClose_ok success) ends.faults
  refine (onConnection_ends held.found closes).bind ?_
  rintro closed _ ⟨l, ⟨opened, announced⟩, rfl⟩
  obtain rfl := held.open_stage opened
  have effect := announced.effect
  have after : At ((w.put c sc l).note c .closed) c { sc with conn := l.conn } .closed fun _ => [] := by
    refine held.advance rfl (by decide) ?_ ?_ (by decide)
    · rw [effect]
      rfl
    · rw [effect]
      simp [loopOf]
  refine (removeConnection_ends after).imp fun w' continues => ⟨?_, continues.2⟩
  exact ((put_touches held.found l).trans (note_touches _ c _)).trans continues.1

/-! ## Other functions of a connection -/

/-- The function did not move the connection on. -/
structure Stays (l l' : IoLoop) : Prop where
  state : l'.conn.state = l.conn.state ∨
    (l.conn.isOpen = true ∧ l'.conn.state = .kDisconnecting)
  queue : .connectDestroyed ∈ l'.pendingFunctors → .connectDestroyed ∈ l.pendingFunctors

/-- The output path leaves the state alone, and queues callbacks only. -/
theorem stays_of_aside {l l' : IoLoop} (aside : l.Aside l') : Stays l l' :=
  ⟨.inl aside.state, aside.queue.mp⟩

theorem stays_of_same {l l' : IoLoop} (state : l'.conn.state = l.conn.state)
    (queue : l'.pendingFunctors = l.pendingFunctors) : Stays l l' :=
  ⟨.inl state, by rw [queue]; exact id⟩

theorem startReadInLoop_stays {l l' : IoLoop} (success : l.startReadInLoop = .ok l') : Stays l l' := by
  rcases IoLoop.startReadInLoop_ok success with ⟨_, rfl⟩ | ⟨_, retuned⟩
  · exact stays_of_same rfl rfl
  · rw [retuned.effect]
    exact stays_of_same rfl rfl

theorem stopReadInLoop_stays {l l' : IoLoop} (success : l.stopReadInLoop = .ok l') : Stays l l' := by
  rcases IoLoop.stopReadInLoop_ok success with ⟨_, rfl⟩ | ⟨_, retuned⟩
  · exact stays_of_same rfl rfl
  · rw [retuned.effect]
    exact stays_of_same rfl rfl

/-- A user call changes the state only to `kDisconnecting`, and queues nothing of the life of a
connection. -/
theorem call_stays {l l' : IoLoop} {inLoopThread : Bool} {answers : Answers} {call : IoLoop.Call}
    (success : l.call inLoopThread answers call = .ok l') : Stays l l' := by
  rcases IoLoop.call_ok success with aside | ⟨opened, aside⟩ | ⟨_, _, read⟩ | ⟨_, _, read⟩
  · exact stays_of_aside aside
  · exact ⟨.inr ⟨opened, aside.state⟩, aside.queue.mp⟩
  · exact startReadInLoop_stays read
  · exact stopReadInLoop_stays read

theorem Stays.fits {l l' : IoLoop} (stays : Stays l l') (late : stage ≠ .accepted)
    (fits : Fits l.conn stage) : Fits l'.conn stage := by
  cases stage with
  | accepted => exact absurd rfl late
  | established =>
    rcases stays.state with same | ⟨_, disconnecting⟩
    · have opened : l.conn.isOpen = true := fits
      simpa [Fits, TcpConnection.isOpen, same] using opened
    · simp [Fits, TcpConnection.isOpen, disconnecting]
  | closed | erased | destroyed =>
    have closed : l.conn.state = .kDisconnected := fits
    rcases stays.state with same | ⟨opened, _⟩
    · exact same.trans closed
    · simp [TcpConnection.isOpen, closed] at opened

/-- Whatever stays within an open connection keeps its stage. -/
theorem At.stay {run : IoLoop → Except Abort IoLoop} (held : At w c sc stage (awaited c sc stage))
    (late : stage ≠ .accepted)
    (stays : ∀ l l', run l = .ok l' → Stays l l')
    (faults : ∀ l, Faults (run l) NotErase) :
    Ends (w.onConnection c run) (Continues c w) NotErase := by
  have ends := Ends.of_faults (fun l' success => stays (w.loopOf sc) l' success)
    (faults _)
  refine (onConnection_ends held.found ends).imp ?_
  rintro w' ⟨l, stays, rfl⟩
  have after := held.put late (stays.fits late held.fits) fun member => by cases stays.queue member
  rw [← awaited_conn c sc l.conn stage] at after
  exact ⟨put_touches held.found l, .inr ⟨_, stage, after⟩⟩

/-! ## Functors -/

section Functors

variable {loop : Nat} {functor : ServerFunctor} {rest : List ServerFunctor}

theorem pop_pendingOf_self (front : (w.loops loop).pendingFunctors = functor :: rest) :
    pendingOf w loop (subject functor) =
      functor :: pendingOf (w.pop loop rest) loop (subject functor) := by
  simp [pendingOf, front, pop]

theorem pop_pendingOf_loop {i : Nat} (other : i ≠ loop) (d : Nat) :
    pendingOf (w.pop loop rest) i d = pendingOf w i d := by
  simp [pendingOf, pop, other]

/-- Taking a functor off a queue touches the connection that it is about. -/
theorem pop_touches (front : (w.loops loop).pendingFunctors = functor :: rest) :
    Touches (subject functor) w (w.pop loop rest) := by
  refine ⟨rfl, rfl, rfl, fun _ _ => rfl, fun _ _ => rfl, fun d other i => ?_, fun _ _ _ => Iff.rfl,
    fun _ => id⟩
  by_cases same : i = loop
  · subst same
    simp [pendingOf, front, pop, other.symm]
  · exact pop_pendingOf_loop same d

/-- A functor that does not move its connection on; its connection is established. -/
theorem At.pop_other (held : At w c sc stage queue) (own : subject functor = c)
    (front : (w.loops loop).pendingFunctors = functor :: rest) (other : isLife functor = false) :
    stage ≠ .accepted ∧ At (w.pop loop rest) c sc stage queue := by
  subst own
  have late : stage ≠ .accepted := by
    intro accepted
    have life := held.early accepted loop functor (by rw [pop_pendingOf_self front]; exact .head _)
    rw [other] at life
    cases life
  refine ⟨late, held.found, held.history, held.fits, fun i => ?_, fun accepted => absurd accepted late,
    held.registered⟩
  rw [← held.queued i]
  by_cases same : i = loop
  · subst same
    rw [pop_pendingOf_self front, List.filter_cons_of_neg (by simp [other])]
  · rw [pop_pendingOf_loop same]

theorem awaited_length (c : Nat) (sc : ServerConnection) (stage : Life) (loop : Nat) :
    (awaited c sc stage loop).length ≤ 1 := by
  unfold awaited
  split <;> first | (split <;> simp) | simp

/-- A connection waits in one loop. -/
theorem awaited_elsewhere {i : Nat} (some : awaited c sc stage loop ≠ []) (other : i ≠ loop) :
    awaited c sc stage i = [] := by
  unfold awaited at some ⊢
  cases stage with
  | accepted | erased | closed =>
    dsimp only at some ⊢
    split at some
    next here =>
      rw [← here]
      exact if_neg other
    next => exact absurd rfl some
  | established | destroyed => rfl

/-- The functor that a connection waits for tells where it stands. -/
theorem awaited_stage (waiting : awaited c sc stage loop = [functor]) :
    (stage = .accepted ∧ functor = .connectEstablished c) ∨
    (stage = .closed ∧ functor = .removeConnectionInLoop c) ∨
    (stage = .erased ∧ functor = .ofConnection c .connectDestroyed) := by
  unfold awaited at waiting
  cases stage with
  | accepted =>
    dsimp only at waiting
    split at waiting <;> cases waiting
    exact .inl ⟨rfl, rfl⟩
  | closed =>
    dsimp only at waiting
    split at waiting <;> cases waiting
    exact .inr (.inl ⟨rfl, rfl⟩)
  | erased =>
    dsimp only at waiting
    split at waiting <;> cases waiting
    exact .inr (.inr ⟨rfl, rfl⟩)
  | established | destroyed => cases waiting

/-- The functor that the connection waits for comes into the hand of the loop. -/
theorem At.pop_life (held : At w c sc stage (awaited c sc stage)) (own : subject functor = c)
    (front : (w.loops loop).pendingFunctors = functor :: rest) (life : isLife functor = true) :
    awaited c sc stage loop = [functor] ∧ At (w.pop loop rest) c sc stage fun _ => [] := by
  subst own
  have here := held.queued loop
  rw [pop_pendingOf_self front, List.filter_cons_of_pos life] at here
  have short := awaited_length (subject functor) sc stage loop
  rw [← here, List.length_cons] at short
  have alone : (pendingOf (w.pop loop rest) loop (subject functor)).filter isLife = [] :=
    List.eq_nil_of_length_eq_zero (by omega)
  rw [alone] at here
  have elsewhere : ∀ i, i ≠ loop → awaited (subject functor) sc stage i = [] := fun i other =>
    awaited_elsewhere (by rw [← here]; simp) other
  refine ⟨here.symm, held.found, held.history, held.fits, fun i => ?_, fun accepted i member inside => ?_,
    held.registered⟩
  · by_cases same : i = loop
    · subst same
      exact alone
    · rw [pop_pendingOf_loop same, held.queued i, elsewhere i same]
  · refine held.early accepted i member ?_
    by_cases same : i = loop
    · subst same
      rw [pop_pendingOf_self front]
      exact .tail _ inside
    · rwa [pop_pendingOf_loop same] at inside

end Functors

/-! ## Every step -/

/-- Every connection in the vector stands somewhere in its life. -/
theorem Inv.found (inv : Inv w) (found : w.conns[c]? = some sc) :
    ∃ stage, At w c sc stage (awaited c sc stage) := by
  rcases inv.lives c with ⟨absent, _⟩ | ⟨other, stage, held⟩
  · rw [found] at absent
    cases absent
  · have same := held.found
    rw [found] at same
    cases same
    exact ⟨stage, held⟩

/-- A step that only carries `c` on keeps the invariant. -/
theorem Inv.continues {outcome : Except Abort ServerWorld} (inv : Inv w)
    (ends : Ends outcome (Continues c w) NotErase) : Ends outcome Inv NotErase :=
  ends.imp fun _ continues =>
    inv_of_touches inv.named (fun d _ => inv.lives d) continues.1 continues.2

/-- `forceCloseInLoop` closes an open connection and passes by a closed one. -/
theorem forceCloseInLoop_ends (held : At w c sc stage (awaited c sc stage)) :
    Ends (w.forceCloseInLoop c) (Continues c w) NotErase := by
  unfold forceCloseInLoop
  rw [held.found]
  dsimp only
  split
  · exact handleClose_ends held
  · exact ⟨.refl c w, .inr ⟨sc, stage, held⟩⟩

/-- The functors of an established connection, without `connectDestroyed`. -/
theorem runConnectionFunctor_ends {functor : LoopFunctor} (answers : Answers)
    (held : At w c sc stage (awaited c sc stage)) (late : stage ≠ .accepted)
    (other : functor ≠ .connectDestroyed) :
    Ends (w.runConnectionFunctor c answers functor) (Continues c w) NotErase := by
  cases functor with
  | sendInLoop message =>
    refine held.stay late (fun l l' success => stays_of_aside (IoLoop.sendInLoop_aside success))
      fun l => Ends.faults (IoLoop.sendInLoop_ends notErase_tolerant (.inr (notErase_fatal _ _)) message
        fun _ => .inr (notErase_fatal _ _))
  | shutdownInLoop =>
    refine held.stay late (fun l l' success => stays_of_aside (IoLoop.shutdownInLoop_aside success))
      fun l => Ends.faults (IoLoop.shutdownInLoop_ends fun _ => .inr (notErase_fatal _ _))
  | forceCloseInLoop => exact forceCloseInLoop_ends held
  | startReadInLoop =>
    exact held.stay late (fun l l' success => startReadInLoop_stays success)
      fun l => Ends.faults (IoLoop.startReadInLoop_ends notErase_tolerant (.inr (notErase_fatal _ _)))
  | stopReadInLoop =>
    exact held.stay late (fun l l' success => stopReadInLoop_stays success)
      fun l => Ends.faults (IoLoop.stopReadInLoop_ends notErase_tolerant (.inr (notErase_fatal _ _)))
  | writeCompleteCallback | highWaterMarkCallback _ =>
    exact ⟨.refl c w, .inr ⟨sc, stage, held⟩⟩
  | connectDestroyed => exact absurd rfl other

/-- A functor is of the life of its connection and the one awaited, or it changes nothing in that
life. -/
theorem Inv.runFunctor {loop : Nat} {functor : ServerFunctor} {rest : List ServerFunctor} (inv : Inv w)
    (front : (w.loops loop).pendingFunctors = functor :: rest) (answers : Answers) :
    Ends ((w.pop loop rest).runFunctor answers functor) Inv NotErase := by
  have popped := pop_touches front
  have head := pop_pendingOf_self front
  generalize own : subject functor = c at popped head
  have done : Ends ((w.pop loop rest).runFunctor answers functor) (Continues c (w.pop loop rest))
      NotErase := by
    rcases inv.lives c with ⟨_, _, none⟩ | ⟨sc, stage, held⟩
    · rw [none loop] at head
      cases head
    · cases life : isLife functor with
      | false =>
        obtain ⟨late, after⟩ := held.pop_other own front life
        cases functor with
        | connectEstablished d => cases life
        | removeConnectionInLoop d => cases life
        | ofConnection d own' =>
          obtain rfl : d = c := own
          refine runConnectionFunctor_ends answers after late ?_
          rintro rfl
          cases life
      | true =>
        obtain ⟨waiting, after⟩ := held.pop_life own front life
        rcases awaited_stage waiting with ⟨rfl, rfl⟩ | ⟨rfl, rfl⟩ | ⟨rfl, rfl⟩
        · exact connectEstablished_ends after
        · obtain ⟨w', success, touches, erased⟩ := removeConnectionInLoop_at after
          simp only [ServerWorld.runFunctor, success]
          exact ⟨touches, .inr ⟨sc, .erased, erased⟩⟩
        · exact connectDestroyed_ends after
  exact done.imp fun _ continues =>
    inv_of_touches (inv.named.touch popped) (fun d other => popped.lives other (inv.lives d))
      continues.1 continues.2

/-! ## A new connection -/

section Accepting

variable {sockfd : Nat}

/-- The connection that `newConnection` makes. -/
def entrant (w : ServerWorld) (sockfd : Nat) : ServerConnection where
  name := w.server.connName w.server.nextConnId
  ioLoop := w.server.getNextLoop.1
  conn := TcpConnection.new w.conns.length sockfd w.server.writeCompleteCallback false

theorem enter_conns (w : ServerWorld) (sockfd : Nat) :
    (w.enter sockfd).conns = w.conns ++ [entrant w sockfd] := rfl

theorem enter_connections (w : ServerWorld) (sockfd : Nat) : (w.enter sockfd).server.connections =
    Function.update w.server.connections (entrant w sockfd).name (some w.conns.length) := rfl

/-- No connection has the next name. -/
theorem Named.fresh (named : Named w) (small : w.conns.length + 1 < 2 ^ 31) {d : Nat} :
    w.server.connections (entrant w sockfd).name ≠ some d := by
  intro taken
  obtain ⟨sd, found, name⟩ := named.entries _ _ taken
  obtain ⟨inside, _⟩ := List.getElem?_eq_some_iff.mp found
  rw [named.names d sd found, entrant, named.next small] at name
  have same := connName_inj w.server (by omega) (by omega) name
  omega

/-- The new entry is under a name that no connection has, so none is overwritten. -/
theorem enter_named (named : Named w) (small : w.conns.length + 1 < 2 ^ 31) :
    Named (w.enter sockfd) where
  bound := by
    rw [enter_conns, List.length_append]
    exact small
  next := by
    intro more
    rw [enter_conns, List.length_append] at more ⊢
    change (w.server.nextConnId + 1).bmod (2 ^ 32) = _
    rw [named.next small]
    simp only [Int.bmod, List.length_cons, List.length_nil] at more ⊢
    omega
  names d sd found := by
    change sd.name = w.server.connName _
    rw [enter_conns] at found
    by_cases inside : d < w.conns.length
    · rw [List.getElem?_append_left inside] at found
      exact named.names d sd found
    · obtain ⟨within, _⟩ := List.getElem?_eq_some_iff.mp found
      rw [List.length_append] at within
      simp only [List.length_cons, List.length_nil] at within
      obtain rfl : d = w.conns.length := by omega
      rw [List.getElem?_append_right (Nat.le_refl _), Nat.sub_self] at found
      cases found
      rw [entrant, named.next small]
  entries name d found := by
    rw [enter_connections] at found
    rw [enter_conns]
    by_cases own : name = (entrant w sockfd).name
    · subst own
      rw [Function.update_self] at found
      cases found
      exact ⟨entrant w sockfd, by simp, rfl⟩
    · rw [Function.update_of_ne own] at found
      obtain ⟨sd, inside, named⟩ := named.entries name d found
      obtain ⟨within, _⟩ := List.getElem?_eq_some_iff.mp inside
      exact ⟨sd, by rwa [List.getElem?_append_left within], named⟩

theorem enter_lives (named : Named w) (small : w.conns.length + 1 < 2 ^ 31)
    (other : d ≠ w.conns.length) (lives : Lives w d) : Lives (w.enter sockfd) d := by
  have conns : (w.enter sockfd).conns[d]? = w.conns[d]? := by
    rw [enter_conns]
    by_cases inside : d < w.conns.length
    · exact List.getElem?_append_left inside
    · have beyond : w.conns[d]? = none := List.getElem?_eq_none (by omega)
      rw [beyond]
      apply List.getElem?_eq_none
      simp only [List.length_append, List.length_cons, List.length_nil]
      omega
  have past : history (w.enter sockfd).log d = history w.log d := by
    change history (w.log ++ [(w.conns.length, Life.accepted)]) d = _
    simp [history, other.symm]
  rcases lives with ⟨absent, nothing, none⟩ | ⟨sc, stage, found, history, fits, queued, early, registered⟩
  · exact .inl ⟨conns.trans absent, past.trans nothing, none⟩
  · refine .inr ⟨sc, stage, conns.trans found, past.trans history, fits, queued, early, ?_⟩
    rw [← registered, enter_connections]
    by_cases own : sc.name = (entrant w sockfd).name
    · rw [own, Function.update_self]
      refine iff_of_false ?_ (named.fresh small)
      simpa using other.symm
    · rw [Function.update_of_ne own]

/-- The new connection is accepted, and waits for `connectEstablished` once it is queued. -/
theorem enter_at (inv : Inv w) :
    At (w.enter sockfd) w.conns.length (entrant w sockfd) .accepted fun _ => [] := by
  have absent : w.conns[w.conns.length]? = none := by simp
  rcases inv.lives w.conns.length with ⟨_, nothing, none⟩ | ⟨sc, _, held⟩
  · refine ⟨by simp [enter_conns], ?_, ⟨rfl, rfl⟩, fun loop => ?_, fun _ loop functor inside => ?_, ?_⟩
    · change history (w.log ++ [(w.conns.length, Life.accepted)]) w.conns.length = _
      have past : history (w.log ++ [(w.conns.length, Life.accepted)]) w.conns.length =
          history w.log w.conns.length ++ [.accepted] := by simp [history]
      rw [past, nothing]
      rfl
    · change (pendingOf w loop w.conns.length).filter isLife = []
      rw [none loop]
      rfl
    · change functor ∈ pendingOf w loop w.conns.length at inside
      rw [none loop] at inside
      cases inside
    · rw [enter_connections, Function.update_self]
      simp [upTo]
  · rw [held.found] at absent
    cases absent

/-- `newConnection` in every state in which fewer than 2^31 connections have been accepted. -/
theorem Inv.newConnection (inv : Inv w) (small : w.conns.length + 1 < 2 ^ 31) :
    Ends (w.newConnection sockfd) Inv NotErase := by
  have held : At (w.enter sockfd) w.conns.length (entrant w sockfd) .accepted fun _ => [] :=
    enter_at inv
  have done : Ends (w.newConnection sockfd) (Continues w.conns.length (w.enter sockfd)) NotErase := by
    unfold ServerWorld.newConnection
    dsimp only
    split
    · exact connectEstablished_ends held
    · exact ⟨queueInLoop_touches _ _ rfl, .inr ⟨entrant w sockfd, .accepted, held.queueInLoop _ rfl rfl⟩⟩
  exact done.imp fun _ continues =>
    inv_of_touches (enter_named inv.named small)
      (fun d other => enter_lives inv.named small other (inv.lives d)) continues.1 continues.2

end Accepting

/-! ## Every run -/

/-- A connection whose channel is registered has been established. -/
theorem Inv.polled (inv : Inv w) (polled : w.Polled c) :
    ∃ sc stage, At w c sc stage (awaited c sc stage) ∧ stage ≠ .accepted := by
  obtain ⟨sc, found, known⟩ := (Option.any_eq_true _ _).mp polled
  obtain ⟨stage, held⟩ := inv.found found
  refine ⟨sc, stage, held, ?_⟩
  rintro rfl
  exact of_decide_eq_true known held.fits.2

/-- A connection that user code knows has been established. -/
theorem Inv.announced (inv : Inv w) (announced : w.Announced c) :
    ∃ sc stage, At w c sc stage (awaited c sc stage) ∧ stage ≠ .accepted := by
  obtain ⟨sc, found, known⟩ := (Option.any_eq_true _ _).mp announced
  obtain ⟨stage, held⟩ := inv.found found
  refine ⟨sc, stage, held, ?_⟩
  rintro rfl
  exact of_decide_eq_true known held.fits.1

/-- `handleRead` reads, or closes at the end of the stream. -/
theorem handleRead_ends (held : At w c sc stage (awaited c sc stage)) (late : stage ≠ .accepted)
    (result : ReadResult) : Ends (w.handleRead c result) (Continues c w) NotErase := by
  unfold ServerWorld.handleRead
  rw [held.found]
  have read : Ends (sc.conn.inputBuffer.readFd true result) (fun _ => True) NotErase := by
    refine .of_faults (fun _ _ => trivial) ((Buffer.readFd_faults _ _ _).imp ?_)
    rintro _ ⟨line, rfl⟩
    exact notErase_tolerant _ _ (by decide)
  refine read.bind fun out _ _ => ?_
  -- reading is a function of the connection that leaves its loop alone
  have stored : w.put c sc { w.loopOf sc with conn := { sc.conn with inputBuffer := out.buffer } } =
      { w with conns := w.conns.set c { sc with conn := { sc.conn with inputBuffer := out.buffer } } } := by
    simp [put, loopOf]
  have after := held.put (l := { w.loopOf sc with conn := { sc.conn with inputBuffer := out.buffer } })
    late ((stays_of_same (l := w.loopOf sc) rfl rfl).fits late held.fits) (by simp [loopOf])
  rw [← awaited_conn c sc { sc.conn with inputBuffer := out.buffer } stage, stored] at after
  have touches := put_touches held.found
    { w.loopOf sc with conn := { sc.conn with inputBuffer := out.buffer } }
  rw [stored] at touches
  dsimp only
  split
  · exact (handleClose_ends after).imp fun _ continues => ⟨touches.trans continues.1, continues.2⟩
  · exact ⟨touches, .inr ⟨_, stage, after⟩⟩

/-- Every step keeps the invariant, and no step fails in the assertion of the erase. -/
theorem Inv.step {a : Act} (inv : Inv w) (enabled : w.Enabled a) (numbered : Numbered w a) :
    Ends (w.step a) Inv NotErase := by
  cases a with
  | accept result =>
    cases result with
    | ok connfd => exact inv.newConnection numbered
    | error errno => exact notErase_fatal _ _
  | handleRead c result =>
    obtain ⟨sc, stage, held, late⟩ := inv.polled enabled
    exact inv.continues (handleRead_ends held late result)
  | handleWrite c answers =>
    obtain ⟨sc, stage, held, late⟩ := inv.polled enabled
    simp only [ServerWorld.step]
    refine inv.continues (held.stay late (fun _ _ success => stays_of_aside ?_) fun l => ?_)
    · exact IoLoop.handleWrite_aside success
    · exact (IoLoop.handleWrite_ends notErase_tolerant (.inr (notErase_fatal _ _))
        (fun _ => .inr (notErase_fatal _ _)) fun _ => .inr (notErase_fatal _ _)).faults
  | handleClose c =>
    obtain ⟨sc, stage, held, _⟩ := inv.polled enabled
    exact inv.continues (handleClose_ends held)
  | runFunctor loop answers =>
    simp only [ServerWorld.step]
    cases front : (w.loops loop).pendingFunctors with
    | nil => exact inv
    | cons functor rest => exact inv.runFunctor front answers
  | call c inLoopThread call answers =>
    obtain ⟨sc, stage, held, late⟩ := inv.announced enabled
    refine inv.continues (held.stay late (fun _ _ success => call_stays success) fun l => ?_)
    exact (IoLoop.call_ends notErase_tolerant (.inr (notErase_fatal _ _))
      ⟨fun _ _ _ _ _ => .inr (notErase_fatal _ _), fun _ _ _ _ => .inr (notErase_fatal _ _)⟩).faults
  | retrieveInput c len =>
    obtain ⟨sc, stage, held, late⟩ := inv.announced enabled
    simp only [ServerWorld.step]
    refine inv.continues (held.stay late (fun l l' success => ?_) fun l => ?_)
    · obtain ⟨shorter, _, success⟩ := bind_eq_ok success
      cases success
      exact stays_of_same rfl rfl
    · exact Faults.bind (IoLoop.retrieve_ends notErase_tolerant _ _).faults fun _ _ => .ok
  | setHighWaterMarkCallback c highWaterMark =>
    obtain ⟨sc, stage, held, late⟩ := inv.announced enabled
    simp only [ServerWorld.step]
    refine inv.continues (held.stay late (fun l l' success => ?_) fun l => .ok)
    cases success
    exact stays_of_same rfl rfl

theorem start_inv (name : List Char) (listenAddr : InetAddress) (writeComplete : Bool)
    (numThreads : Nat) : Inv (start name listenAddr writeComplete numThreads) := by
  refine ⟨⟨by simp [start], fun _ => rfl, ?_, ?_⟩, fun c => .inl ⟨rfl, rfl, fun loop => rfl⟩⟩
  · intro c sc found
    cases found
  · intro name c found
    cases found

theorem upTo_prefix (stage : Life) : upTo stage <+: lifeCycle := by
  cases stage <;> decide

theorem Inv.registry (inv : Inv w) : Registry (machine.restrict Numbered) w where
  names c d sc sd found found' same := by
    obtain ⟨inside, _⟩ := List.getElem?_eq_some_iff.mp found
    obtain ⟨inside', _⟩ := List.getElem?_eq_some_iff.mp found'
    have bound := inv.named.bound
    rw [inv.named.names c sc found, inv.named.names d sd found'] at same
    have numbers := connName_inj w.server (by omega) (by omega) same
    omega
  connections name c := by
    constructor
    · intro entry
      obtain ⟨sc, found, named⟩ := inv.named.entries name c entry
      obtain ⟨stage, held⟩ := inv.found found
      subst named
      refine ⟨sc, found, rfl, ?_⟩
      rw [held.history]
      exact held.registered.mp entry
    · rintro ⟨sc, found, rfl, kept⟩
      obtain ⟨stage, held⟩ := inv.found found
      rw [held.history] at kept
      exact held.registered.mpr kept
  erases a enabled := (inv.step enabled.1 enabled.2).faults
  order c := by
    rcases inv.lives c with ⟨_, nothing, _⟩ | ⟨sc, stage, held⟩
    · rw [nothing]
      exact List.nil_prefix
    · rw [held.history]
      exact upTo_prefix stage

/-- In every run that accepts fewer than 2^31 connections, with any number of io loops and any order
of their steps. -/
theorem registry_holds {name : List Char} {listenAddr : InetAddress} {writeComplete : Bool}
    {numThreads : Nat} {actions : List Act}
    (run : (machine.restrict Numbered).Run (start name listenAddr writeComplete numThreads) actions w) :
    Registry (machine.restrict Numbered) w := by
  have inv : Inv w :=
    @Machine.Run.invariant _ _ _ (machine.restrict Numbered) Inv _ _ _
      (fun _ _ _ inv enabled stepped => (inv.step enabled.1 enabled.2).of_ok stepped)
      (start_inv name listenAddr writeComplete numThreads) run
  exact inv.registry

def quietAnswers : Answers := ⟨.bytes [], .wrote 0, none⟩

/-- One io loop. The first connection goes through its life while the second is accepted. -/
def twoConnections : List Act :=
  [.accept (.ok 7), .runFunctor 1 quietAnswers, .accept (.ok 8), .handleRead 0 (.bytes []),
    .runFunctor 1 quietAnswers, .runFunctor 0 quietAnswers, .runFunctor 1 quietAnswers]

/-- The first of two connections is taken through its whole life. -/
theorem registry_holds_two_connections : ∃ w,
    (machine.restrict Numbered).Run (start ['e'] (.loopback 8000) false 1) twoConnections w ∧
    history w.log 0 = lifeCycle ∧ history w.log 1 = upTo .established ∧
    Registry (machine.restrict Numbered) w := by
  obtain ⟨w, run, holds⟩ := (machine.restrict Numbered).exists_run_of_exec
    (start ['e'] (.loopback 8000) false 1) twoConnections
    (fun w => decide (history w.log 0 = lifeCycle ∧ history w.log 1 = upTo .established))
    (by decide +kernel)
  obtain ⟨first, second⟩ := of_decide_eq_true holds
  exact ⟨w, run, first, second, registry_holds run⟩

end Starry.Guarantees.ConnectionRegistry
