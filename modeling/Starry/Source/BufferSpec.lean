import Starry.Source.Buffer

/-!
# What each operation of `Buffer` does to the byte string it holds

`Represents b content` says that the indices of `b` are in order and that its readable
bytes are `content`. Each operation has one lemma: called within its own asserted
precondition it returns, and what it returns represents the changed content. The lemmas
for operations that may move the contents carry the only further way to end,
`MoveTrips`: the assertion of line 252 compares the readable bytes with the reserve.
-/
namespace Starry.Source.Buffer

open Starry.Foundation
open Starry.Foundation.Memory

structure Represents (b : Buffer) (content : List UInt8) : Prop where
  ordered : b.readerIndex ≤ b.writerIndex
  inside : b.writerIndex ≤ b.buffer.length
  reserve : kCheapPrepend ≤ b.buffer.length
  readable_eq : b.readable = content

/-- `makeSpace` is called, takes the branch that moves the contents, and finds no more
readable bytes than the reserve. -/
def MoveTrips (b : Buffer) (len : Nat) : Prop :=
  b.writableBytes < len ∧ len + kCheapPrepend ≤ b.writableBytes + b.prependableBytes ∧
    b.readableBytes ≤ kCheapPrepend

instance (b : Buffer) (len : Nat) : Decidable (b.MoveTrips len) := by
  unfold MoveTrips; infer_instance

variable {b : Buffer} {content : List UInt8}

theorem Represents.length_eq (rep : b.Represents content) : content.length = b.readableBytes := by
  rw [← rep.readable_eq, readable, window_length _ _ _ rep.inside]
  rfl

/-- A pointer into the readable bytes reads the content at the same offset. -/
theorem Represents.window_eq (rep : b.Represents content) {offset len : Nat}
    (fits : offset + len ≤ content.length) :
    window b.buffer (b.readerIndex + offset) (b.readerIndex + offset + len) =
      (content.drop offset).take len := by
  have length := rep.length_eq
  have ordered := rep.ordered
  simp only [readableBytes] at length
  rw [window_take _ _ b.writerIndex _ (by omega), window_drop]
  exact congrArg (fun bytes => (bytes.drop offset).take len) rep.readable_eq

theorem new_represents (initialSize : Nat) : (new initialSize).Represents [] where
  ordered := Nat.le_refl _
  inside := by simp [new]
  reserve := by simp [new]
  readable_eq := by simp [readable, new]

theorem retrieveAll_represents (rep : b.Represents content) : b.retrieveAll.Represents [] where
  ordered := Nat.le_refl _
  inside := rep.reserve
  reserve := rep.reserve
  readable_eq := by simp [readable, retrieveAll]

theorem retrieve_yields (rep : b.Represents content) {len : Nat} (enough : len ≤ content.length) :
    Yields (b.retrieve len) fun rest => rest.Represents (content.drop len) := by
  have length := rep.length_eq
  apply yields_cassert (by omega)
  split
  next shorter =>
    have ordered := rep.ordered
    refine .ok ⟨?_, rep.inside, rep.reserve, ?_⟩
    · simp only [readableBytes] at shorter ⊢
      omega
    · rw [readable, window_drop]
      exact congrArg (List.drop len) rep.readable_eq
  next whole =>
    have all : content.drop len = [] := List.drop_eq_nil_of_le (by omega)
    rw [all]
    exact .ok (retrieveAll_represents rep)

/-- The end pointer lies within the readable bytes. -/
theorem retrieveUntil_yields (rep : b.Represents content) {last : Nat}
    (low : b.readerIndex ≤ last) (high : last ≤ b.writerIndex) :
    Yields (b.retrieveUntil last) fun rest =>
      rest.Represents (content.drop (last - b.readerIndex)) := by
  have length := rep.length_eq
  apply yields_cassert low
  apply yields_cassert high
  apply retrieve_yields rep
  simp only [readableBytes] at length
  omega

/-- The string is what is taken from the front. -/
theorem retrieveAsString_yields (rep : b.Represents content) {len : Nat}
    (enough : len ≤ content.length) :
    Yields (b.retrieveAsString len) fun out =>
      out.1 = content.take len ∧ out.2.Represents (content.drop len) := by
  have length := rep.length_eq
  have ordered := rep.ordered
  apply yields_cassert (by omega)
  apply Yields.bind (retrieve_yields rep enough)
  intro rest after
  refine .ok ⟨?_, after⟩
  simp only [readableBytes] at length
  rw [window_take _ _ b.writerIndex _ (by omega)]
  exact congrArg (List.take len) rep.readable_eq

theorem unwrite_yields (rep : b.Represents content) {len : Nat} (enough : len ≤ content.length) :
    Yields (b.unwrite len) fun rest =>
      rest.Represents (content.take (content.length - len)) := by
  have length := rep.length_eq
  have ordered := rep.ordered
  have inside := rep.inside
  apply yields_cassert (by omega)
  simp only [readableBytes] at length
  refine .ok ⟨?_, ?_, rep.reserve, ?_⟩
  · change b.readerIndex ≤ b.writerIndex - len
    omega
  · change b.writerIndex - len ≤ b.buffer.length
    omega
  · have last : b.writerIndex - len = b.readerIndex + (content.length - len) := by omega
    simp only [readable, last]
    rw [window_take _ _ b.writerIndex _ (by omega)]
    exact congrArg (List.take _) rep.readable_eq

/-- `prepend` puts bytes in front, if there is room. -/
theorem prepend_yields (rep : b.Represents content) {data : List UInt8}
    (room : data.length ≤ b.prependableBytes) :
    Yields (b.prepend data) fun wider => wider.Represents (data ++ content) := by
  have ordered := rep.ordered
  have inside := rep.inside
  apply yields_cassert room
  simp only [prependableBytes] at room
  have size := store_length b.buffer data (b.readerIndex - data.length) (by omega)
  refine .ok ⟨?_, ?_, ?_, ?_⟩
  · change b.readerIndex - data.length ≤ b.writerIndex
    omega
  · change b.writerIndex ≤ (store b.buffer (b.readerIndex - data.length) data).length
    rw [size]
    exact inside
  · change kCheapPrepend ≤ (store b.buffer (b.readerIndex - data.length) data).length
    rw [size]
    exact rep.reserve
  · simp only [readable]
    rw [window_prepend _ _ _ _ room ordered (by omega)]
    exact congrArg (data ++ ·) rep.readable_eq

/-! ## Filling the writable area -/

/-- Bytes in the writable area are not readable yet. -/
theorem fill_represents (rep : b.Represents content) {data : List UInt8}
    (room : data.length ≤ b.writableBytes) : (b.fill data).Represents content := by
  have inside := rep.inside
  simp only [writableBytes] at room
  have size := store_length b.buffer data b.writerIndex (by omega)
  refine ⟨rep.ordered, ?_, ?_, ?_⟩
  · change b.writerIndex ≤ (store b.buffer b.writerIndex data).length
    rw [size]
    exact inside
  · change kCheapPrepend ≤ (store b.buffer b.writerIndex data).length
    rw [size]
    exact rep.reserve
  · rw [readable, fill, window_store_after _ _ _ _ _ (Nat.le_refl _) inside]
    exact rep.readable_eq

theorem fill_length (rep : b.Represents content) {data : List UInt8}
    (room : data.length ≤ b.writableBytes) :
    (b.fill data).buffer.length = b.buffer.length := by
  have inside := rep.inside
  simp only [writableBytes] at room
  exact store_length _ _ _ (by omega)

/-- Advancing the writer index over bytes just filled in appends them. -/
theorem filled_represents (rep : b.Represents content) {data : List UInt8}
    (room : data.length ≤ b.writableBytes) :
    ({ b.fill data with writerIndex := b.writerIndex + data.length } : Buffer).Represents
      (content ++ data) := by
  have ordered := rep.ordered
  have inside := rep.inside
  simp only [writableBytes] at room
  have size := store_length b.buffer data b.writerIndex (by omega)
  refine ⟨?_, ?_, ?_, ?_⟩
  · change b.readerIndex ≤ b.writerIndex + data.length
    omega
  · change b.writerIndex + data.length ≤ (store b.buffer b.writerIndex data).length
    omega
  · change kCheapPrepend ≤ (store b.buffer b.writerIndex data).length
    rw [size]
    exact rep.reserve
  · simp only [readable, fill]
    rw [window_append _ _ _ _ ordered inside]
    exact congrArg (· ++ data) rep.readable_eq

theorem hasWritten_yields (rep : b.Represents content) {data : List UInt8}
    (room : data.length ≤ b.writableBytes) :
    Yields ((b.fill data).hasWritten data.length) fun longer =>
      longer.Represents (content ++ data) ∧
        longer.writableBytes = b.writableBytes - data.length := by
  have size := fill_length rep room
  apply yields_cassert
  · simp only [writableBytes, size]
    exact room
  · refine .ok ⟨filled_represents rep room, ?_⟩
    simp only [writableBytes, size]
    change b.buffer.length - (b.writerIndex + data.length) = _
    omega

/-! ## Growth and compaction -/

theorem resize_length (memory : List UInt8) (size : Nat) : (resize memory size).length = size := by
  simp only [resize, List.length_append, List.length_take, List.length_replicate]
  omega

theorem grown_represents (rep : b.Represents content) {len : Nat} (full : b.writableBytes < len) :
    ({ b with buffer := resize b.buffer (b.writerIndex + len) } : Buffer).Represents content ∧
      len ≤ ({ b with buffer := resize b.buffer (b.writerIndex + len) } : Buffer).writableBytes := by
  have inside := rep.inside
  have reserve := rep.reserve
  simp only [writableBytes] at full
  have memory : resize b.buffer (b.writerIndex + len) =
      b.buffer ++ List.replicate (b.writerIndex + len - b.buffer.length) 0 := by
    rw [resize, List.take_of_length_le (by omega)]
  have size := resize_length b.buffer (b.writerIndex + len)
  refine ⟨⟨rep.ordered, ?_, ?_, ?_⟩, ?_⟩
  · change b.writerIndex ≤ (resize b.buffer (b.writerIndex + len)).length
    omega
  · change kCheapPrepend ≤ (resize b.buffer (b.writerIndex + len)).length
    omega
  · simp only [readable, memory]
    rw [window_grow _ _ _ _ inside]
    exact rep.readable_eq
  · simp only [writableBytes, size]
    omega

/-- The move is always towards lower positions: the branch is only taken when the
reader index lies above the reserve, so the forward copy is safe. -/
theorem moved_represents (rep : b.Represents content) {len : Nat} (full : b.writableBytes < len)
    (fits : len + kCheapPrepend ≤ b.writableBytes + b.prependableBytes) :
    ({ buffer := copyForward b.buffer b.readerIndex kCheapPrepend b.readableBytes
       readerIndex := kCheapPrepend
       writerIndex := kCheapPrepend + b.readableBytes } : Buffer).Represents content ∧
      len ≤ ({ buffer := copyForward b.buffer b.readerIndex kCheapPrepend b.readableBytes
               readerIndex := kCheapPrepend
               writerIndex := kCheapPrepend + b.readableBytes } : Buffer).writableBytes := by
  have ordered := rep.ordered
  have inside := rep.inside
  have length := rep.length_eq
  simp only [writableBytes, prependableBytes] at full fits
  have stop : b.readerIndex + b.readableBytes = b.writerIndex := by
    simp only [readableBytes]
    omega
  have copied : copyForward b.buffer b.readerIndex kCheapPrepend b.readableBytes =
      store b.buffer kCheapPrepend content := by
    rw [copyForward_eq_store _ _ _ _ (by omega) (by omega), stop]
    exact congrArg (store b.buffer kCheapPrepend) rep.readable_eq
  have size := store_length b.buffer content kCheapPrepend (by omega)
  rw [copied, ← length]
  refine ⟨⟨?_, ?_, ?_, ?_⟩, ?_⟩
  · change kCheapPrepend ≤ kCheapPrepend + content.length
    omega
  · change kCheapPrepend + content.length ≤ (store b.buffer kCheapPrepend content).length
    omega
  · change kCheapPrepend ≤ (store b.buffer kCheapPrepend content).length
    omega
  · exact window_store_self _ _ _ rep.reserve
  · simp only [writableBytes, size]
    omega

/-- `ensureWritableBytes` makes room and keeps the bytes, unless the move trips. -/
theorem ensureWritableBytes_yields (rep : b.Represents content) {checkMove : Bool} {len : Nat}
    (safe : checkMove = true → ¬ b.MoveTrips len) :
    Yields (b.ensureWritableBytes checkMove len) fun roomy =>
      roomy.Represents content ∧ len ≤ roomy.writableBytes := by
  have space : Yields (if b.writableBytes < len then b.makeSpace checkMove len else .ok b)
      fun roomy => roomy.Represents content ∧ len ≤ roomy.writableBytes := by
    split
    next full =>
      unfold makeSpace
      split
      next => exact .ok (grown_represents rep full)
      next fits =>
        apply yields_cassert
        · intro strict
          by_contra small
          exact safe strict ⟨full, by omega, by omega⟩
        · apply yields_cassert (by simp [readableBytes])
          exact .ok (moved_represents rep full (by omega))
    next enough => exact .ok ⟨rep, by omega⟩
  apply Yields.bind space
  intro roomy after
  exact yields_cassert after.2 (.ok after)

/-- `append` puts bytes at the end, unless the move trips. -/
theorem append_yields (rep : b.Represents content) {checkMove : Bool} {data : List UInt8}
    (safe : checkMove = true → ¬ b.MoveTrips data.length) :
    Yields (b.append checkMove data) fun longer => longer.Represents (content ++ data) := by
  apply Yields.bind (ensureWritableBytes_yields rep safe)
  intro roomy after
  exact (hasWritten_yields after.1 after.2).imp fun _ holds => holds.1

/-- With the assertion compiled in, a move of no more than the reserve ends the process. -/
theorem ensureWritableBytes_trips {len : Nat} (trips : b.MoveTrips len) :
    b.ensureWritableBytes true len = .error (.assertion .bufferH 252) := by
  obtain ⟨full, fits, small⟩ := trips
  have failed : b.makeSpace true len = .error (.assertion .bufferH 252) := by
    unfold makeSpace
    rw [if_neg (by omega), cassert_of_not (by simp; omega)]
    rfl
  rw [ensureWritableBytes, if_pos full, failed]
  rfl

/-- Where the move trips, the assertion of line 252 fails. -/
theorem append_trips {data : List UInt8} (trips : b.MoveTrips data.length) :
    b.append true data = .error (.assertion .bufferH 252) := by
  rw [append, ensureWritableBytes_trips trips]
  rfl

/-- An append that returned met no such move. -/
theorem append_ok (rep : b.Represents content) {data : List UInt8} {longer : Buffer}
    (success : b.append true data = .ok longer) : longer.Represents (content ++ data) := by
  by_cases trips : b.MoveTrips data.length
  · rw [append_trips trips] at success
    cases success
  · exact (append_yields rep fun _ => trips).of_ok success

/-- A buffer whose reader index is not above the reserve grows instead of moving. -/
theorem not_moveTrips_of_low {len : Nat}
    (low : b.readerIndex ≤ kCheapPrepend) : ¬ b.MoveTrips len := by
  rintro ⟨full, fits, _⟩
  simp only [prependableBytes] at fits
  omega

/-- `shrink` keeps the bytes, in a new vector. -/
theorem shrink_yields (rep : b.Represents content) {checkMove : Bool} (reserve : Nat) :
    Yields (b.shrink checkMove reserve) fun smaller =>
      smaller.Represents content ∧ reserve ≤ smaller.writableBytes := by
  have fresh := new_represents kInitialSize
  have length := rep.length_eq
  have low : (new kInitialSize).readerIndex ≤ kCheapPrepend := Nat.le_refl _
  apply Yields.bind (ensureWritableBytes_yields fresh fun _ => not_moveTrips_of_low low)
  intro other roomy
  apply Yields.bind (retrieveAsString_yields rep (by omega))
  rintro ⟨text, old⟩ ⟨taken, _⟩
  have whole : text = content := by
    simpa [← length] using taken
  subst whole
  -- the space was reserved above, so this append neither grows nor moves
  have enough : ¬ other.writableBytes < text.length := by omega
  have settled : other.ensureWritableBytes checkMove text.length = .ok other := by
    simp only [ensureWritableBytes, if_neg enough, ok_bind, cassert_of (Nat.le_of_not_lt enough)]
    rfl
  have appended := hasWritten_yields roomy.1 (Nat.le_of_not_lt enough)
  have append_eq : other.append checkMove text = (other.fill text).hasWritten text.length := by
    rw [append, settled, ok_bind]
  rw [← append_eq] at appended
  apply Yields.bind appended
  intro longer after
  refine .ok ⟨by simpa [swap] using after.1, ?_⟩
  change reserve ≤ longer.writableBytes
  omega

/-! ## Ways to fail -/

/-- An assertion of `buffer.h`. -/
def OwnAssertion (reason : Abort) : Prop := ∃ line, reason = .assertion .bufferH line

theorem retrieve_faults (b : Buffer) (len : Nat) : Faults (b.retrieve len) OwnAssertion := by
  refine Faults.bind (faults_cassert ⟨70, rfl⟩) fun _ _ => ?_
  split
  · exact .ok
  · exact .ok

theorem makeSpace_faults (checkMove : Bool) (b : Buffer) (len : Nat) :
    Faults (b.makeSpace checkMove len) OwnAssertion := by
  unfold makeSpace
  split
  · exact .ok
  · refine Faults.bind (faults_cassert ⟨252, rfl⟩) fun _ _ => ?_
    refine Faults.bind (faults_cassert ⟨258, rfl⟩) fun _ _ => ?_
    exact .ok

/-- `append` fails in the assertions of `Buffer` only. -/
theorem append_faults (checkMove : Bool) (b : Buffer) (data : List UInt8) :
    Faults (b.append checkMove data) OwnAssertion := by
  have ensured : Faults (b.ensureWritableBytes checkMove data.length) OwnAssertion := by
    refine Faults.bind ?_ fun _ _ => ?_
    · split
      · exact makeSpace_faults checkMove b data.length
      · exact .ok
    · refine Faults.bind (faults_cassert ⟨120, rfl⟩) fun _ _ => ?_
      exact .ok
  refine Faults.bind ensured fun _ _ => ?_
  refine Faults.bind (faults_cassert ⟨125, rfl⟩) fun _ _ => ?_
  exact .ok

theorem readFd_faults (checkMove : Bool) (b : Buffer) (result : ReadResult) :
    Faults (b.readFd checkMove result) OwnAssertion := by
  unfold readFd
  split
  · exact .ok
  · split
    · exact .ok
    · refine Faults.bind (append_faults checkMove _ _) fun _ _ => ?_
      exact .ok

/-! ## Reader index at or below the reserve -/

/-- A buffer that was never read from is not moved. -/
theorem ensureWritableBytes_reader {checkMove : Bool} {len : Nat} {roomy : Buffer}
    (low : b.readerIndex ≤ kCheapPrepend)
    (returned : b.ensureWritableBytes checkMove len = .ok roomy) :
    roomy.readerIndex = b.readerIndex := by
  obtain ⟨space, made, returned⟩ := bind_eq_ok returned
  obtain ⟨_, _, returned⟩ := bind_eq_ok returned
  cases returned
  split at made
  next full =>
    unfold makeSpace at made
    rw [if_pos (by simp only [prependableBytes]; omega)] at made
    cases made
    rfl
  next => cases made; rfl

theorem hasWritten_reader {len : Nat} {longer : Buffer} (returned : b.hasWritten len = .ok longer) :
    longer.readerIndex = b.readerIndex := by
  obtain ⟨_, _, returned⟩ := bind_eq_ok returned
  cases returned
  rfl

theorem append_reader {checkMove : Bool} {data : List UInt8} {longer : Buffer}
    (low : b.readerIndex ≤ kCheapPrepend) (returned : b.append checkMove data = .ok longer) :
    longer.readerIndex = b.readerIndex := by
  obtain ⟨roomy, made, written⟩ := bind_eq_ok returned
  have filled := hasWritten_reader written
  change longer.readerIndex = roomy.readerIndex at filled
  rw [filled]
  exact ensureWritableBytes_reader low made

/-! ## Integers -/

@[simp] theorem networkBytes_length (width : Nat) (x : Int) :
    (networkBytes width x).length = width :=
  BigEndian.encode_length _ _

/-- Every value of the signed range of its width survives the wire. -/
theorem hostInt_networkBytes (width : Nat) (x : Int)
    (lower : -(2 ^ (8 * width) : Int) ≤ 2 * x) (upper : 2 * x < 2 ^ (8 * width)) :
    hostInt width (networkBytes width x) = x := by
  have word : (256 : Nat) ^ width = 2 ^ (8 * width) := by
    rw [Nat.pow_mul]
  rw [hostInt, networkBytes, BigEndian.decode_encode, word,
    Nat.mod_eq_of_lt (BigEndian.ofSigned_lt _ _)]
  exact BigEndian.toSigned_ofSigned _ _ lower upper

theorem peekInt_eq (rep : b.Represents content) {width : Nat} (line : Nat)
    (enough : width ≤ content.length) :
    b.peekInt width line = .ok (hostInt width (content.take width)) := by
  have front := @Represents.window_eq _ _ rep 0 width (by omega)
  rw [Nat.add_zero, List.drop_zero] at front
  rw [peekInt, cassert_of (by rw [← rep.length_eq]; exact enough), front]
  rfl

/-! ## `readFd` -/

theorem filledUp_represents (rep : b.Represents content) {data : List UInt8}
    (spills : b.writableBytes < data.length) :
    (b.filledUp data).Represents (content ++ data.take b.writableBytes) := by
  have inside := rep.inside
  have taken : (data.take b.writableBytes).length = b.writableBytes := by
    rw [List.length_take]
    omega
  have last : b.writerIndex + (data.take b.writableBytes).length =
      (b.fill (data.take b.writableBytes)).buffer.length := by
    rw [fill_length rep (Nat.le_of_eq taken), taken, writableBytes]
    omega
  have inPlace := filled_represents rep (Nat.le_of_eq taken)
  rwa [last] at inPlace

/-- A read of `n` bytes fills the writable area and appends the others, and that append
trips. -/
def SpillTrips (b : Buffer) (n : Nat) : Prop :=
  b.writableBytes < n ∧ n + kCheapPrepend ≤ b.writableBytes + b.prependableBytes ∧
    b.readableBytes + b.writableBytes ≤ kCheapPrepend

instance (b : Buffer) (n : Nat) : Decidable (b.SpillTrips n) := by
  unfold SpillTrips; infer_instance

/-- Whether the rest of a read trips the move can be told before the read. -/
theorem filledUp_moveTrips (rep : b.Represents content) {data : List UInt8}
    (spills : b.writableBytes < data.length) :
    (b.filledUp data).MoveTrips (data.length - b.writableBytes) ↔ b.SpillTrips data.length := by
  have inPlace := (filledUp_represents rep spills).length_eq
  have before := rep.length_eq
  have full : (b.filledUp data).writableBytes = 0 := by
    simp only [writableBytes, filledUp, Nat.sub_self]
  have reader : (b.filledUp data).prependableBytes = b.prependableBytes := rfl
  rw [List.length_append, List.length_take, Nat.min_eq_left (Nat.le_of_lt spills)] at inPlace
  unfold MoveTrips SpillTrips
  rw [full, reader, ← inPlace, before]
  omega

/-- A read that fits is taken in place; one that does not is continued from `extrabuf`,
through an `append` whose move may trip. -/
theorem readFd_yields (rep : b.Represents content) {checkMove : Bool} {data : List UInt8}
    (safe : checkMove = true → b.writableBytes < data.length →
      ¬ (b.filledUp data).MoveTrips (data.length - b.writableBytes)) :
    Yields (b.readFd checkMove (.bytes data)) fun out =>
      out.n = data.length ∧ out.savedErrno = none ∧ out.buffer.Represents (content ++ data) := by
  simp only [readFd]
  split
  next fits => exact .ok ⟨rfl, rfl, filled_represents rep fits⟩
  next spills =>
    have spills : b.writableBytes < data.length := Nat.lt_of_not_le spills
    have inPlace := filledUp_represents rep spills
    have spill := @append_yields _ _ inPlace checkMove (data.drop b.writableBytes) (by
        intro strict
        rw [List.length_drop]
        exact safe strict spills)
    apply Yields.bind spill
    intro longer after
    refine .ok ⟨rfl, rfl, ?_⟩
    rwa [List.append_assoc, List.take_append_drop] at after

/-- The rest that did not fit trips the move. -/
theorem readFd_trips (rep : b.Represents content) {data : List UInt8}
    (trips : b.SpillTrips data.length) :
    b.readFd true (.bytes data) = .error (.assertion .bufferH 252) := by
  have spills : b.writableBytes < data.length := trips.1
  have moves := (filledUp_moveTrips rep spills).mpr trips
  rw [← List.length_drop] at moves
  rw [readFd, if_neg (Nat.not_le.mpr spills), append_trips moves]
  rfl

theorem readFd_ok (rep : b.Represents content) {data : List UInt8} {out : ReadFd}
    (success : b.readFd true (.bytes data) = .ok out) : out.buffer.Represents (content ++ data) := by
  by_cases trips : b.SpillTrips data.length
  · rw [readFd_trips rep trips] at success
    cases success
  · have spared := @readFd_yields _ _ rep true data fun _ spills moves =>
      trips ((filledUp_moveTrips rep spills).mp moves)
    exact (spared.of_ok success).2.2

end Starry.Source.Buffer
