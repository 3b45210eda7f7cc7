import Starry.Source.BufferSpec
import Starry.Source.SizedBuffer

/-!
# Room in a `Buffer`

`Fits` says when there is room for `len` more bytes. Then the functions with sizes of type
`size_t` return what those of `Starry.Source.Buffer` return, which compute with natural numbers.
Without it they do not return; or `ensureWritableBytes` does, because the sum of the writer index
and the length has passed 2^64 and `resize` has cut the vector off before the writer index.
-/
namespace Starry.Source.SizedBuffer

open Starry.Foundation
open Buffer (kCheapPrepend kInitialSize)

/-! ## Room -/

/-- There is room for `len` more bytes: they fit as it is, or in a vector that is made longer,
or after a move, which takes more than eight readable bytes. -/
def Fits (b : Buffer) (len : Nat) : Prop :=
  b.writableBytes < len →
    if b.writableBytes + b.prependableBytes < len + kCheapPrepend then
      b.writerIndex + len ≤ maxSize
    else kCheapPrepend < b.readableBytes

/-- There is room for what `readFd` reads, when the writable area has been filled. -/
def SpillFits (b : Buffer) (n : Nat) : Prop :=
  b.writableBytes < n →
    if b.writableBytes + b.prependableBytes < n + kCheapPrepend then b.writerIndex + n ≤ maxSize
    else kCheapPrepend < b.readableBytes + b.writableBytes

/-- The new buffer can be made as large as `shrink` asks, and as large as the contents. -/
def ShrinkFits (b : Buffer) (reserve : Nat) : Prop :=
  kCheapPrepend + sizeT (b.readableBytes + reserve) ≤ maxSize ∧
    kCheapPrepend + b.readableBytes ≤ maxSize

instance (b : Buffer) (len : Nat) : Decidable (Fits b len) := by
  unfold Fits; infer_instance

instance (b : Buffer) (n : Nat) : Decidable (SpillFits b n) := by
  unfold SpillFits; infer_instance

instance (b : Buffer) (reserve : Nat) : Decidable (ShrinkFits b reserve) := by
  unfold ShrinkFits; infer_instance

/-- Where no length comes near the width of `size_t`, it is only the move that may be refused. -/
theorem fits_iff {b : Buffer} {len : Nat} (short : b.writerIndex + len ≤ maxSize) :
    Fits b len ↔ ¬b.MoveTrips len := by
  unfold Fits Buffer.MoveTrips
  split
  next grows => exact iff_of_true (fun _ => short) (by omega)
  next moves => omega

structure Sound (b : Buffer) (content : List UInt8) : Prop extends b.Represents content where
  bounded : b.buffer.length ≤ maxSize

/-- Both functions return, and the same value. -/
def Agree {α : Type} (plain : Except Abort α) (sized : Except SizedEnd α) (post : α → Prop) : Prop :=
  ∃ value, plain = .ok value ∧ sized = .ok value ∧ post value

theorem Agree.yields {α : Type} {plain : Except Abort α} {sized : Except SizedEnd α}
    {post : α → Prop} (agree : Agree plain sized post) : Yields sized post := by
  obtain ⟨value, _, returned, holds⟩ := agree
  exact ⟨value, returned, holds⟩

/-- Functions that agree, one after the other. -/
theorem Agree.bind {α β : Type} {plain : Except Abort α} {sized : Except SizedEnd α}
    {plainNext : α → Except Abort β} {sizedNext : α → Except SizedEnd β} {middle : α → Prop}
    {post : β → Prop} (before : Agree plain sized middle)
    (after : ∀ value, middle value → Agree (plainNext value) (sizedNext value) post) :
    Agree (plain >>= plainNext) (sized >>= sizedNext) post := by
  obtain ⟨value, plainly, sizedly, holds⟩ := before
  rw [plainly, sizedly]
  exact after value holds

theorem assert_of {condition : Prop} [Decidable condition] {line : Nat} (holds : condition) :
    assert condition line = .ok () := by
  rw [assert, cassert_of holds]
  rfl

theorem assert_ok {condition : Prop} [Decidable condition] {line : Nat} {value : Unit}
    (passed : assert condition line = .ok value) : condition := by
  by_contra fails
  rw [assert, cassert_of_not fails] at passed
  cases passed

theorem inside_of {b : Buffer} {position size line : Nat} {file : SourceFile}
    (fits : position + size ≤ b.buffer.length) : inside b position size file line = .ok () :=
  if_neg (Nat.not_lt.mpr fits)

theorem inside_ok {b : Buffer} {position size line : Nat} {file : SourceFile} {value : Unit}
    (passed : inside b position size file line = .ok value) :
    position + size ≤ b.buffer.length := by
  unfold inside at passed
  split at passed
  · cases passed
  · omega

theorem sizeT_of_lt {n : Nat} (small : n < 2 ^ 64) : sizeT n = n := Nat.mod_eq_of_lt small

theorem difference_eq {a b : Nat} (ordered : b ≤ a) (bounded : a ≤ maxSize) :
    difference a b = a - b := by
  simp only [difference, sizeT, maxSize] at *
  omega

variable {b : Buffer} {content : List UInt8}

theorem Sound.writableBytes_eq (sound : Sound b content) : writableBytes b = b.writableBytes :=
  difference_eq sound.inside sound.bounded

theorem Sound.readableBytes_eq (sound : Sound b content) : readableBytes b = b.readableBytes :=
  difference_eq sound.ordered (Nat.le_trans sound.inside sound.bounded)

/-- What can be written and what lies in front are parts of the vector. -/
theorem Sound.sizes (sound : Sound b content) :
    b.writableBytes + b.prependableBytes + b.readableBytes = b.buffer.length := by
  have ordered := sound.ordered
  have inside := sound.inside
  simp only [Buffer.writableBytes, Buffer.prependableBytes, Buffer.readableBytes]
  omega

/-! ## With room for it, the functions are those over natural numbers -/

/-- A vector that is made longer within `max_size()`. -/
theorem makeSpace_grows (sound : Sound b content) {len : Nat} (full : b.writableBytes < len)
    (grows : b.writableBytes + b.prependableBytes < len + kCheapPrepend)
    (room : b.writerIndex + len ≤ maxSize) :
    Agree (b.makeSpace true len) (makeSpace b len) fun roomy =>
      Sound roomy content ∧ len ≤ roomy.writableBytes := by
  obtain ⟨grown, roomy⟩ := Buffer.grown_represents sound.toRepresents full
  have sizes := sound.sizes
  have bounded := sound.bounded
  simp only [maxSize] at room bounded
  have summed : sizeT (b.writableBytes + b.prependableBytes) =
      b.writableBytes + b.prependableBytes := sizeT_of_lt (by omega)
  have asked : sizeT (len + kCheapPrepend) = len + kCheapPrepend :=
    sizeT_of_lt (by simp only [kCheapPrepend]; omega)
  have writer : sizeT (b.writerIndex + len) = b.writerIndex + len := sizeT_of_lt (by omega)
  have longer : resize b.buffer (b.writerIndex + len) =
      .ok (Buffer.resize b.buffer (b.writerIndex + len)) := if_neg (Nat.not_lt.mpr room)
  unfold Buffer.makeSpace makeSpace
  rw [sound.writableBytes_eq, summed, asked, if_pos grows, if_pos grows, writer, longer]
  refine ⟨_, rfl, rfl, ⟨grown, ?_⟩, roomy⟩
  exact Nat.le_trans (Nat.le_of_eq (Buffer.resize_length _ _)) room

/-- The buffer after a move. -/
def moved (b : Buffer) : Buffer where
  buffer := Memory.copyForward b.buffer b.readerIndex kCheapPrepend b.readableBytes
  readerIndex := kCheapPrepend
  writerIndex := kCheapPrepend + b.readableBytes

/-- Contents that are moved to the front. -/
theorem makeSpace_moves (sound : Sound b content) {len : Nat} (full : b.writableBytes < len)
    (moves : len + kCheapPrepend ≤ b.writableBytes + b.prependableBytes)
    (long : kCheapPrepend < b.readableBytes) :
    Agree (b.makeSpace true len) (makeSpace b len) fun roomy =>
      Sound roomy content ∧ len ≤ roomy.writableBytes := by
  obtain ⟨represents, roomy⟩ := Buffer.moved_represents sound.toRepresents full moves
  have size : (moved b).buffer.length = b.buffer.length := Memory.copyForward_length _ _ _ _
  have held : kCheapPrepend + b.readableBytes ≤ b.buffer.length :=
    Nat.le_trans represents.inside (Nat.le_of_eq size)
  have sound' : Sound (moved b) content :=
    ⟨represents, Nat.le_trans (Nat.le_of_eq size) sound.bounded⟩
  have sizes := sound.sizes
  have bounded := sound.bounded
  simp only [maxSize] at bounded
  have summed : sizeT (b.writableBytes + b.prependableBytes) =
      b.writableBytes + b.prependableBytes := sizeT_of_lt (by omega)
  have asked : sizeT (len + kCheapPrepend) = len + kCheapPrepend := sizeT_of_lt (by omega)
  have writer : sizeT (kCheapPrepend + b.readableBytes) = kCheapPrepend + b.readableBytes :=
    sizeT_of_lt (by omega)
  have kept : b.readableBytes = (moved b).readableBytes := by
    simp only [moved, Buffer.readableBytes]
    omega
  have plainly : b.makeSpace true len = .ok (moved b) := by
    unfold Buffer.makeSpace
    rw [if_neg (Nat.not_lt.mpr moves), cassert_of fun _ => long, ok_bind]
    change (cassert (b.readableBytes = (moved b).readableBytes) .bufferH 258 >>= fun _ =>
      .ok (moved b)) = _
    rw [cassert_of kept, ok_bind]
  have sizedly : makeSpace b len = .ok (moved b) := by
    unfold makeSpace
    rw [sound.writableBytes_eq, sound.readableBytes_eq, summed, asked,
      if_neg (Nat.not_lt.mpr moves), assert_of long, ok_bind]
    simp only [inside_of held, ok_bind, writer]
    change (assert (b.readableBytes = readableBytes (moved b)) 258 >>= fun _ => .ok (moved b)) = _
    rw [assert_of (kept.trans sound'.readableBytes_eq.symm), ok_bind]
  exact ⟨moved b, plainly, sizedly, sound', roomy⟩

theorem ensureWritableBytes_agrees (sound : Sound b content) {len : Nat} (fits : Fits b len) :
    Agree (b.ensureWritableBytes true len) (ensureWritableBytes b len) fun roomy =>
      Sound roomy content ∧ len ≤ roomy.writableBytes := by
  have space : Agree (if b.writableBytes < len then b.makeSpace true len else .ok b)
      (if b.writableBytes < len then makeSpace b len else .ok b) fun roomy =>
        Sound roomy content ∧ len ≤ roomy.writableBytes := by
    split
    next full =>
      have room := fits full
      split at room
      next grows => exact makeSpace_grows sound full grows room
      next moves => exact makeSpace_moves sound full (Nat.le_of_not_lt moves) room
    next enough => exact ⟨b, rfl, rfl, sound, by omega⟩
  unfold Buffer.ensureWritableBytes ensureWritableBytes
  rw [sound.writableBytes_eq]
  refine space.bind fun roomy after => ?_
  rw [cassert_of after.2, assert_of (by rw [after.1.writableBytes_eq]; exact after.2)]
  exact ⟨roomy, rfl, rfl, after⟩

/-- With room, `append` is that of the plain buffer. -/
theorem append_agrees (sound : Sound b content) {data : List UInt8} (fits : Fits b data.length) :
    Agree (b.append true data) (append b data) fun longer => Sound longer (content ++ data) := by
  refine (ensureWritableBytes_agrees sound fits).bind fun roomy after => ?_
  obtain ⟨longer, written, holds, _⟩ := Buffer.hasWritten_yields after.1.toRepresents after.2
  have held : roomy.writerIndex + data.length ≤ roomy.buffer.length := by
    have room := after.2
    have inside := after.1.inside
    simp only [Buffer.writableBytes] at room
    omega
  have size := Buffer.fill_length after.1.toRepresents after.2
  refine ⟨longer, written, ?_, holds, ?_⟩
  · rw [inside_of held, written]
    rfl
  · obtain ⟨_, _, returned⟩ := bind_eq_ok written
    cases returned
    exact Nat.le_trans (Nat.le_of_eq size) after.1.bounded

theorem filledUp_length (sound : Sound b content) (data : List UInt8) :
    (b.filledUp data).buffer.length = b.buffer.length :=
  Buffer.fill_length sound.toRepresents (by
    rw [List.length_take]
    omega)

theorem filledUp_sound (sound : Sound b content) {data : List UInt8}
    (spills : b.writableBytes < data.length) :
    Sound (b.filledUp data) (content ++ data.take b.writableBytes) :=
  ⟨Buffer.filledUp_represents sound.toRepresents spills, by
    rw [filledUp_length sound]
    exact sound.bounded⟩

/-- Whether the rest of a read has room can be told before the read. -/
theorem filledUp_fits (sound : Sound b content) {data : List UInt8}
    (spills : b.writableBytes < data.length) :
    Fits (b.filledUp data) (data.drop b.writableBytes).length ↔ SpillFits b data.length := by
  have inside := sound.inside
  have before := sound.sizes
  have after := (filledUp_sound sound spills).sizes
  have size := filledUp_length sound data
  have full : (b.filledUp data).writableBytes = 0 := by
    simp only [Buffer.writableBytes, Buffer.filledUp, Nat.sub_self]
  have front : (b.filledUp data).prependableBytes = b.prependableBytes := rfl
  have writer : (b.filledUp data).writerIndex = b.writerIndex + b.writableBytes := by
    rw [show (b.filledUp data).writerIndex = (b.filledUp data).buffer.length from rfl, size]
    simp only [Buffer.writableBytes]
    omega
  have readable : (b.filledUp data).readableBytes = b.readableBytes + b.writableBytes := by omega
  have grows : 0 + b.prependableBytes < (data.length - b.writableBytes) + kCheapPrepend ↔
      b.writableBytes + b.prependableBytes < data.length + kCheapPrepend := by omega
  have end_eq : b.writerIndex + b.writableBytes + (data.length - b.writableBytes) =
      b.writerIndex + data.length := by omega
  unfold Fits SpillFits
  rw [full, front, writer, readable, List.length_drop, if_congr grows rfl rfl, end_eq]
  exact imp_congr_left (by omega)

/-- With room for what is read, `readFd` is that of the plain buffer. -/
theorem readFd_agrees (sound : Sound b content) {data : List UInt8}
    (fits : SpillFits b data.length) :
    Agree (b.readFd true (.bytes data)) (readFd b (.bytes data)) fun out =>
      Sound out.buffer (content ++ data) := by
  unfold Buffer.readFd readFd
  simp only [sound.writableBytes_eq]
  split
  next fitting =>
    have size := Buffer.fill_length sound.toRepresents fitting
    have held : b.writerIndex + data.length ≤ b.buffer.length := by
      have inside := sound.inside
      simp only [Buffer.writableBytes] at fitting
      omega
    rw [inside_of held]
    refine ⟨_, rfl, rfl, Buffer.filled_represents sound.toRepresents fitting, ?_⟩
    exact Nat.le_trans (Nat.le_of_eq size) sound.bounded
  next spills =>
    have spills : b.writableBytes < data.length := Nat.lt_of_not_le spills
    have longer := append_agrees (filledUp_sound sound spills) ((filledUp_fits sound spills).mpr fits)
    rw [List.append_assoc, List.take_append_drop] at longer
    exact longer.bind fun buffer after => ⟨_, rfl, rfl, after⟩

theorem new_sound {initialSize : Nat} (constructed : kCheapPrepend + initialSize ≤ maxSize) :
    Sound (Buffer.new initialSize) [] :=
  ⟨Buffer.new_represents initialSize, by
    rw [Buffer.new, List.length_replicate]
    exact constructed⟩

/-- A buffer that lies at its front grows or has the room. -/
theorem fits_of_front (front : b.readerIndex = kCheapPrepend) {len : Nat}
    (bounded : b.writerIndex + len ≤ maxSize) : Fits b len := by
  intro full
  rw [if_pos (by rw [Buffer.prependableBytes, front]; omega)]
  exact bounded

/-- `shrink` appends the contents to a new buffer. -/
theorem shrink_eq (sound : Sound b content) {reserve : Nat} :
    shrink b reserve = (do
      let other ← ensureWritableBytes (Buffer.new kInitialSize) (sizeT (b.readableBytes + reserve))
      append other content) := by
  have length := sound.length_eq
  obtain ⟨⟨text, old⟩, taken, whole, _⟩ :=
    Buffer.retrieveAsString_yields sound.toRepresents (Nat.le_refl content.length)
  rw [List.take_length] at whole
  simp only at whole
  subst whole
  rw [length] at taken
  unfold shrink Buffer.retrieveAllAsString
  rw [sound.readableBytes_eq, taken]
  cases ensureWritableBytes (Buffer.new kInitialSize) (sizeT (b.readableBytes + reserve)) with
  | error reason => rfl
  | ok other =>
    simp only [ok_bind, Except.mapError]
    cases append other text <;> rfl

/-- The first request made of a new buffer. -/
theorem new_ensureWritableBytes {initialSize len : Nat}
    (constructed : kCheapPrepend + initialSize ≤ maxSize) (asked : kCheapPrepend + len ≤ maxSize) :
    Yields (ensureWritableBytes (Buffer.new initialSize) len) fun roomy =>
      Sound roomy [] ∧ roomy.writerIndex = kCheapPrepend ∧ roomy.readerIndex = kCheapPrepend := by
  have room : Fits (Buffer.new initialSize) len := fits_of_front rfl asked
  obtain ⟨roomy, plainly, made, sound, _⟩ := ensureWritableBytes_agrees (new_sound constructed) room
  have front : roomy.readerIndex = kCheapPrepend :=
    Buffer.ensureWritableBytes_reader (Nat.le_refl _) plainly
  have empty := sound.length_eq
  have ordered := sound.ordered
  simp only [Buffer.readableBytes, List.length_nil] at empty
  exact ⟨roomy, made, sound, by omega, front⟩

/-- What `reserve` asks for may be cut modulo 2^64; the contents are kept all the same. -/
theorem shrink_yields (sound : Sound b content) {reserve : Nat} (fits : ShrinkFits b reserve) :
    Yields (shrink b reserve) fun smaller => Sound smaller content := by
  obtain ⟨asked, whole⟩ := fits
  have constructed : kCheapPrepend + kInitialSize ≤ maxSize := by
    simp only [maxSize, kCheapPrepend, kInitialSize]
    omega
  rw [shrink_eq sound]
  refine (new_ensureWritableBytes constructed asked).bind ?_
  rintro other ⟨fresh, writer, front⟩
  refine (append_agrees fresh (fits_of_front front ?_)).yields
  rw [writer, sound.length_eq]
  exact whole

/-! ## Without it they do not return, or spoil the buffer -/

theorem resize_ok {memory longer : List UInt8} {size : Nat}
    (success : resize memory size = .ok longer) :
    size ≤ maxSize ∧ longer = Buffer.resize memory size := by
  unfold resize at success
  split at success
  · cases success
  · cases success
    exact ⟨by omega, rfl⟩

/-- The vector ends before the writer index: the sum of the index and the length has passed
2^64, or the move went over the end. -/
theorem makeSpace_unfit (sound : Sound b content) {len : Nat} (size : len < 2 ^ 64)
    (unfit : ¬Fits b len) {roomy : Buffer}
    (made : makeSpace b len = .ok roomy) (enough : len ≤ writableBytes roomy) :
    roomy.buffer.length < roomy.writerIndex := by
  have sizes := sound.sizes
  have bounded := sound.bounded
  have inside := sound.inside
  have unfit := fun room => unfit fun _ => room
  have summed : sizeT (b.writableBytes + b.prependableBytes) =
      b.writableBytes + b.prependableBytes :=
    sizeT_of_lt (by simp only [maxSize] at bounded; omega)
  unfold makeSpace at made
  rw [sound.writableBytes_eq, sound.readableBytes_eq] at made
  split at made
  next grows =>
    obtain ⟨longer, resized, returned⟩ := bind_eq_ok made
    cases returned
    obtain ⟨small, rfl⟩ := resize_ok resized
    rw [Buffer.resize_length]
    have long : maxSize < b.writerIndex + len := by
      by_contra short
      have asked : sizeT (len + kCheapPrepend) = len + kCheapPrepend :=
        sizeT_of_lt (by simp only [maxSize, kCheapPrepend] at *; omega)
      rw [summed, asked] at grows
      rw [if_pos grows] at unfit
      exact unfit (Nat.le_of_not_lt short)
    simp only [sizeT, maxSize] at *
    omega
  next moves =>
    obtain ⟨_, passed, made⟩ := bind_eq_ok made
    obtain ⟨_, held, made⟩ := bind_eq_ok made
    obtain ⟨_, _, returned⟩ := bind_eq_ok made
    cases returned
    have long := assert_ok passed
    have held := inside_ok held
    have grows : b.writableBytes + b.prependableBytes < len + kCheapPrepend := by
      by_contra moves
      rw [if_neg moves] at unfit
      exact unfit long
    -- the move has made no more room than there was
    have writer : sizeT (kCheapPrepend + b.readableBytes) = kCheapPrepend + b.readableBytes :=
      sizeT_of_lt (by simp only [maxSize] at bounded; omega)
    have room : writableBytes
        { buffer := Memory.copyForward b.buffer b.readerIndex kCheapPrepend b.readableBytes
          readerIndex := kCheapPrepend
          writerIndex := sizeT (kCheapPrepend + b.readableBytes) } =
        b.buffer.length - (kCheapPrepend + b.readableBytes) := by
      rw [writableBytes, Memory.copyForward_length, writer]
      exact difference_eq held bounded
    rw [room] at enough
    omega

/-- Without room, `ensureWritableBytes` returns only where `resize` has cut the vector off. -/
theorem ensureWritableBytes_unfit (sound : Sound b content) {len : Nat} (size : len < 2 ^ 64)
    (unfit : ¬Fits b len) {roomy : Buffer} (success : ensureWritableBytes b len = .ok roomy) :
    roomy.buffer.length < roomy.writerIndex := by
  obtain ⟨full, _⟩ := Classical.not_imp.mp unfit
  obtain ⟨made, makes, success⟩ := bind_eq_ok success
  obtain ⟨_, enough, returned⟩ := bind_eq_ok success
  cases returned
  rw [sound.writableBytes_eq, if_pos full] at makes
  exact makeSpace_unfit sound size unfit makes (assert_ok enough)

/-- Without room, `append` does not return. -/
theorem append_unfit (sound : Sound b content) {data : List UInt8} (size : data.length < 2 ^ 64)
    (unfit : ¬Fits b data.length) {longer : Buffer} : append b data ≠ .ok longer := by
  intro success
  obtain ⟨roomy, ensured, success⟩ := bind_eq_ok success
  obtain ⟨_, held, _⟩ := bind_eq_ok success
  have spoilt := ensureWritableBytes_unfit sound size unfit ensured
  have held := inside_ok held
  omega

theorem readFd_unfit (sound : Sound b content) {data : List UInt8} (size : data.length < 2 ^ 64)
    (unfit : ¬SpillFits b data.length) {out : Buffer.ReadFd} :
    readFd b (.bytes data) ≠ .ok out := by
  intro success
  have spills : b.writableBytes < data.length := (Classical.not_imp.mp unfit).1
  simp only [readFd, sound.writableBytes_eq, if_neg (Nat.not_le.mpr spills)] at success
  obtain ⟨longer, appended, _⟩ := bind_eq_ok success
  refine append_unfit (filledUp_sound sound spills) ?_ ?_ appended
  · rw [List.length_drop]
    omega
  · exact fun fits => unfit ((filledUp_fits sound spills).mp fits)

/-- A new buffer cannot be made larger than `max_size()`. -/
theorem new_unfit {initialSize len : Nat} (constructed : kCheapPrepend + initialSize ≤ maxSize)
    (size : len < 2 ^ 64) (long : maxSize < kCheapPrepend + len) {roomy : Buffer} :
    ensureWritableBytes (Buffer.new initialSize) len ≠ .ok roomy := by
  intro success
  have fresh := new_sound constructed
  have writable : (Buffer.new initialSize).writableBytes = initialSize := by
    simp [Buffer.writableBytes, Buffer.new]
  obtain ⟨made, makes, _⟩ := bind_eq_ok success
  rw [fresh.writableBytes_eq, writable, if_pos (by omega)] at makes
  unfold makeSpace at makes
  rw [fresh.writableBytes_eq, fresh.readableBytes_eq, writable] at makes
  split at makes
  next grows =>
    obtain ⟨longer, resized, _⟩ := bind_eq_ok makes
    have small := (resize_ok resized).1
    change sizeT (kCheapPrepend + len) ≤ maxSize at small
    change sizeT (initialSize + kCheapPrepend) < sizeT (len + kCheapPrepend) at grows
    simp only [sizeT, maxSize, kCheapPrepend] at *
    omega
  next =>
    obtain ⟨_, passed, _⟩ := bind_eq_ok makes
    have empty := fresh.length_eq
    have long := assert_ok passed
    rw [← empty] at long
    cases long

/-- Without room, `shrink` does not return. -/
theorem shrink_unfit (sound : Sound b content) {reserve : Nat} (unfit : ¬ShrinkFits b reserve)
    {smaller : Buffer} : shrink b reserve ≠ .ok smaller := by
  intro success
  have sizes := sound.sizes
  have bounded := sound.bounded
  have length := sound.length_eq
  have constructed : kCheapPrepend + kInitialSize ≤ maxSize := by
    simp only [maxSize, kCheapPrepend, kInitialSize]
    omega
  rw [shrink_eq sound] at success
  obtain ⟨other, made, appended⟩ := bind_eq_ok success
  by_cases asked : kCheapPrepend + sizeT (b.readableBytes + reserve) ≤ maxSize
  · obtain ⟨fresh, writer, front⟩ := (new_ensureWritableBytes constructed asked).of_ok made
    have whole : maxSize < kCheapPrepend + b.readableBytes := by
      by_contra short
      exact unfit ⟨asked, Nat.le_of_not_lt short⟩
    have others := fresh.sizes
    have held := fresh.bounded
    have empty := fresh.length_eq
    simp only [Buffer.prependableBytes, List.length_nil] at others empty
    refine append_unfit fresh ?_ (fun fits => ?_) appended
    · simp only [maxSize] at bounded
      omega
    · have room := fits (by omega)
      rw [if_pos (by rw [Buffer.prependableBytes]; omega), writer] at room
      omega
  · exact new_unfit constructed (Nat.mod_lt _ (by decide)) (Nat.lt_of_not_le asked) made

end Starry.Source.SizedBuffer
