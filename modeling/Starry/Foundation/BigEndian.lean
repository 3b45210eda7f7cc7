import Mathlib.Tactic
import Mathlib.Data.List.Induction

/-!
# Big-endian words and two's complement

`encode width n` lists the `width` low octets of `n`, most significant first, and
`decode` reads any octet list back as a number. `toSigned` and `ofSigned` are the
two's complement readings of a word of `bits` bits. `signedOctets` says octet by octet how
a signed value is laid out, and `encode_ofSigned` that `encode` lays it out so.
-/
namespace Starry.Foundation.BigEndian

def encode : Nat → Nat → List UInt8
  | 0, _ => []
  | width + 1, n => encode width (n / 256) ++ [UInt8.ofNat n]

def decode (octets : List UInt8) : Nat :=
  octets.foldl (fun acc octet => acc * 256 + octet.toNat) 0

def toSigned (bits n : Nat) : Int := Int.bmod n (2 ^ bits)

def ofSigned (bits : Nat) (x : Int) : Nat := (x % 2 ^ bits).toNat

/-- The octets of `x` in two's complement, the one of weight `256 ^ (width - 1)` first. -/
def signedOctets (width : Nat) (x : Int) : List UInt8 :=
  (List.range width).map fun i => UInt8.ofNat (x / 256 ^ (width - 1 - i) % 256).toNat

@[simp] theorem encode_length (width n : Nat) : (encode width n).length = width := by
  induction width generalizing n with
  | zero => rfl
  | succ width ih => simp [encode, ih]

theorem decode_snoc (octets : List UInt8) (octet : UInt8) :
    decode (octets ++ [octet]) = decode octets * 256 + octet.toNat := by
  simp [decode]

theorem decode_encode (width n : Nat) : decode (encode width n) = n % 256 ^ width := by
  induction width generalizing n with
  | zero => simp [encode, decode, Nat.mod_one]
  | succ width ih =>
    rw [encode, decode_snoc, ih, UInt8.toNat_ofNat']
    have split : n % 256 ^ (width + 1) = n % 256 + 256 * (n / 256 % 256 ^ width) := by
      rw [Nat.pow_succ, Nat.mul_comm, Nat.mod_mul]
    rw [split]
    omega

theorem decode_lt (octets : List UInt8) : decode octets < 256 ^ octets.length := by
  induction octets using List.reverseRecOn with
  | nil => simp [decode]
  | append_singleton octets octet ih =>
    have small := octet.toNat_lt
    rw [decode_snoc, List.length_append, List.length_singleton, Nat.pow_succ]
    omega

/-- Octets come back from the number that they stand for. -/
theorem encode_decode (octets : List UInt8) : encode octets.length (decode octets) = octets := by
  induction octets using List.reverseRecOn with
  | nil => rfl
  | append_singleton octets octet ih =>
    have small := octet.toNat_lt
    have high : (decode octets * 256 + octet.toNat) / 256 = decode octets := by omega
    have low : UInt8.ofNat (decode octets * 256 + octet.toNat) = octet := by
      apply UInt8.toNat_inj.mp
      rw [UInt8.toNat_ofNat']
      omega
    rw [List.length_append, List.length_singleton, encode, decode_snoc, high, low, ih]

theorem ofSigned_lt (bits : Nat) (x : Int) : ofSigned bits x < 2 ^ bits := by
  have positive : (0 : Int) < 2 ^ bits := by positivity
  have upper := Int.emod_lt_of_pos x positive
  have lower := Int.emod_nonneg x positive.ne'
  have cast : ((2 ^ bits : Nat) : Int) = 2 ^ bits := by push_cast; rfl
  unfold ofSigned
  omega

/-- Reading a word back recovers every value of the signed range. -/
theorem toSigned_ofSigned (bits : Nat) (x : Int)
    (lower : -(2 ^ bits : Int) ≤ 2 * x) (upper : 2 * x < 2 ^ bits) :
    toSigned bits (ofSigned bits x) = x := by
  have positive : (0 : Int) < 2 ^ bits := by positivity
  have cast : ((2 ^ bits : Nat) : Int) = 2 ^ bits := by push_cast; rfl
  have word : ((ofSigned bits x : Nat) : Int) = x % ((2 ^ bits : Nat) : Int) := by
    rw [ofSigned, Int.toNat_of_nonneg (Int.emod_nonneg _ positive.ne'), cast]
  rw [toSigned, word, Int.emod_bmod]
  apply Int.bmod_eq_of_le_mul_two
  · rw [cast]; omega
  · rw [cast]; omega

/-- A signed reading lies in the signed range of its width. -/
theorem toSigned_range (bits n : Nat) :
    -(2 ^ (bits + 1) : Int) ≤ 2 * toSigned (bits + 1) n ∧
      2 * toSigned (bits + 1) n < 2 ^ (bits + 1) := by
  have positive : 0 < 2 ^ (bits + 1) := by positivity
  have lower := Int.le_bmod (x := n) positive
  have upper := Int.bmod_lt (x := n) positive
  have even : ((2 ^ (bits + 1) : Nat) : Int) = 2 * 2 ^ bits := by push_cast; ring
  have half : (2 ^ (bits + 1) : Int) = 2 * 2 ^ bits := by ring
  rw [even] at lower upper
  simp only [toSigned]
  rw [half]
  omega

/-- A number below the sign bit stands for itself. -/
theorem toSigned_of_small (bits n : Nat) (small : 2 * n < 2 ^ bits) : toSigned bits n = n := by
  have cast : ((2 ^ bits : Nat) : Int) = 2 ^ bits := by push_cast; rfl
  apply Int.bmod_eq_of_le_mul_two
  · omega
  · omega

/-- The signed reading determines the word. -/
theorem toSigned_inj {bits n m : Nat} (first : n < 2 ^ bits) (second : m < 2 ^ bits)
    (same : toSigned bits n = toSigned bits m) : n = m := by
  have words : (n : Int) % (2 ^ bits : Nat) = (m : Int) % (2 ^ bits : Nat) := by
    rw [← Int.bmod_emod, ← Int.bmod_emod (x := (m : Int))]
    exact congrArg (· % ((2 ^ bits : Nat) : Int)) same
  have unsigned : n % 2 ^ bits = m % 2 ^ bits := by exact_mod_cast words
  rwa [Nat.mod_eq_of_lt first, Nat.mod_eq_of_lt second] at unsigned

/-! ## Layout of signed values -/

theorem encode_eq_map (width n : Nat) :
    encode width n = (List.range width).map fun i => UInt8.ofNat (n / 256 ^ (width - 1 - i)) := by
  induction width generalizing n with
  | zero => rfl
  | succ width ih =>
    rw [encode, ih, List.range_succ, List.map_append]
    congr 1
    · apply List.map_congr_left
      intro i member
      have small := List.mem_range.mp member
      have place : width + 1 - 1 - i = width - 1 - i + 1 := by omega
      rw [place, Nat.div_div_eq_div_mul, Nat.pow_succ']
    · simp

/-- An octet inside a word does not see what was cut off above the word. -/
theorem octet_of_word {width place : Nat} (inside : place < width) (x : Int) :
    x % 256 ^ width / 256 ^ place % 256 = x / 256 ^ place % 256 := by
  have positive : (0 : Int) < 256 ^ place := by positivity
  have split : (256 : Int) ^ width = 256 ^ place * (256 * 256 ^ (width - place - 1)) := by
    rw [← pow_succ', ← pow_add]
    congr 1
    omega
  rw [Int.emod_def x, split, Int.mul_assoc, Int.mul_assoc, Int.sub_mul_ediv_left _ _ positive.ne',
    Int.sub_mul_emod_self_left]

/-- An integer in two's complement, octet by octet. -/
theorem encode_ofSigned (width : Nat) (x : Int) :
    encode width (ofSigned (8 * width) x) = signedOctets width x := by
  rw [encode_eq_map, signedOctets]
  apply List.map_congr_left
  intro i member
  have small := List.mem_range.mp member
  have positive : (0 : Int) < 256 ^ width := by positivity
  have power : (2 : Int) ^ (8 * width) = 256 ^ width := by rw [pow_mul]; norm_num
  have word : ((ofSigned (8 * width) x : Nat) : Int) = x % 256 ^ width := by
    rw [ofSigned, power, Int.toNat_of_nonneg (Int.emod_nonneg _ positive.ne')]
  have octet : ofSigned (8 * width) x / 256 ^ (width - 1 - i) % 256 =
      (x / 256 ^ (width - 1 - i) % 256).toNat := by
    zify
    rw [word, octet_of_word (by omega), Int.toNat_of_nonneg (Int.emod_nonneg _ (by decide))]
  apply UInt8.toNat_inj.mp
  rw [← octet, UInt8.toNat_ofNat', UInt8.toNat_ofNat']
  omega

end Starry.Foundation.BigEndian
