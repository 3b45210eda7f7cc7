import Starry.Source.Logging

/-!
# Log records and their endings

Header, text and ending of a record go through one `LogStream` of `kSmallBuffer` bytes, and what
comes last is cut off first. `complete_iff` says when a record ends with the place of its log
statement and a newline: when all three fit, or by accident, when the record as it was meant has a
copy of its ending just where the buffer ends.
-/
namespace Starry.Guarantees.LogRecords

open Starry.Foundation
open Starry.Source

variable {size : Nat} {strerror : Int → List UInt8} {now : Int64} {thread : Nat} {s : LogStatement}

/-! ## What a stream keeps -/

theorem append_data (b : LogStream size) (str : List UInt8) :
    (b.append str).data = (b.data ++ str).take size := by
  have fits := b.fits
  rw [List.take_append, List.take_of_length_le fits]
  rfl

/-- What was cut off in front is beyond the end for what follows too. -/
theorem take_take_append {α : Type} (front rest : List α) (n : Nat) :
    (front.take n ++ rest).take n = (front ++ rest).take n := by
  rw [List.take_append, List.take_append, List.take_take, Nat.min_self, List.length_take]
  congr 2
  omega

/-- Of a chain of values a stream keeps the first bytes. -/
theorem appends_data (b : LogStream size) (values : List (List UInt8)) :
    (b.appends values).data = (b.data ++ values.flatten).take size := by
  induction values generalizing b with
  | nil =>
    have fits := b.fits
    simp only [LogStream.appends, List.foldl_nil, List.flatten_nil, List.append_nil]
    rw [List.take_of_length_le fits]
  | cons value rest ih =>
    have later := ih (b.append value)
    simp only [LogStream.appends, List.foldl_cons, List.flatten_cons] at later ⊢
    rw [later, append_data, take_take_append, List.append_assoc]

theorem appends_appends (b : LogStream size) (first second : List (List UInt8)) :
    (b.appends first).appends second = b.appends (first ++ second) :=
  (List.foldl_append).symm

/-! ## The record as it was meant -/

/-- The header and the values of a statement. -/
def text (strerror : Int → List UInt8) (now : Int64) (thread : Nat) (s : LogStatement) :
    List UInt8 :=
  (Logger.header now thread s.level).flatten ++
    (s.savedErrno.elim [] (Logger.errorText strerror)).flatten ++ s.values.flatten

/-- The place of a statement and a newline. -/
def ending (s : LogStatement) : List UInt8 := (Logger.ending s.location).flatten

/-- What is output ends with the place of the statement and a newline. -/
def Complete (strerror : Int → List UInt8) (now : Int64) (thread : Nat) (s : LogStatement) : Prop :=
  ending s <:+ s.output strerror now thread

/-- The output is the first `kSmallBuffer` bytes of the record. -/
theorem output_eq :
    s.output strerror now thread = (text strerror now thread s ++ ending s).take kSmallBuffer := by
  obtain ⟨level, savedErrno, location, values⟩ := s
  cases savedErrno with
  | none =>
    simp only [LogStatement.output, LogStatement.logger, Logger.output, Logger.finish, Logger.new,
      appends_appends]
    rw [appends_data]
    simp [text, ending, LogStream.new]
  | some saveErrno =>
    simp only [LogStatement.output, LogStatement.logger, Logger.output, Logger.finish, Logger.newErrno,
      Logger.new, appends_appends]
    rw [appends_data]
    simp [text, ending, LogStream.new]

/-- A list ends, after a cut, with what stands before the cut. -/
theorem suffix_take_iff {α : Type} {whole last : List α} {n : Nat} (long : n ≤ whole.length) :
    last <:+ whole.take n ↔
      ∃ before after, whole = before ++ last ++ after ∧ before.length + last.length = n := by
  constructor
  · rintro ⟨before, kept⟩
    refine ⟨before, whole.drop n, by rw [kept, List.take_append_drop], ?_⟩
    have length := congrArg List.length kept
    rw [List.length_append, List.length_take, Nat.min_eq_left long] at length
    exact length
  · rintro ⟨before, after, rfl, place⟩
    refine ⟨before, ?_⟩
    rw [← place, ← List.length_append, List.take_left]

/-- A record is complete exactly when header, text and ending fit in the buffer, or when the record
has a copy of its ending that ends where the buffer does. -/
theorem complete_iff (strerror : Int → List UInt8) (now : Int64) (thread : Nat) (s : LogStatement) :
    Complete strerror now thread s ↔
      (text strerror now thread s).length + (ending s).length ≤ kSmallBuffer ∨
      ∃ before after, text strerror now thread s ++ ending s = before ++ ending s ++ after ∧
        before.length + (ending s).length = kSmallBuffer := by
  rw [Complete, output_eq]
  by_cases fits : (text strerror now thread s).length + (ending s).length ≤ kSmallBuffer
  · refine ⟨fun _ => .inl fits, fun _ => ?_⟩
    rw [List.take_of_length_le (by rw [List.length_append]; exact fits)]
    exact List.suffix_append _ _
  · rw [suffix_take_iff (by rw [List.length_append]; omega)]
    exact ⟨.inr, fun either => either.resolve_left fits⟩

/-- A value that fills the buffer is the last thing in it. -/
theorem last_of_flood {front rest : List UInt8} {byte : UInt8} {n : Nat} (short : front.length < n) :
    ((front ++ List.replicate n byte ++ rest).take n).getLast? = some byte := by
  rw [List.append_assoc, List.take_append, List.take_of_length_le (by omega),
    List.take_append_of_le_length (by rw [List.length_replicate]; omega), List.take_replicate,
    List.getLast?_append, List.getLast?_replicate, if_neg (by omega)]
  rfl

/-- A statement of one value of 4096 letters, in line 1 of the file `b`. -/
def longStatement : LogStatement where
  level := .INFO
  savedErrno := none
  location := ⟨ascii ['/', 'a', '/', 'b'], 1⟩
  values := [List.replicate kSmallBuffer 97]

/-- Nothing of the ending is left: the output ends with a letter. -/
theorem ending_cut_off :
    (longStatement.output (fun _ => []) 0 7).getLast? = some 97 ∧
      ¬Complete (fun _ => []) 0 7 longStatement := by
  have last : (longStatement.output (fun _ => []) 0 7).getLast? = some 97 := by
    have short : (Logger.header 0 7 .INFO).flatten.length < kSmallBuffer := by decide
    have whole : text (fun _ => []) 0 7 longStatement =
        (Logger.header 0 7 .INFO).flatten ++ List.replicate kSmallBuffer 97 := by
      simp [text, longStatement]
    rw [output_eq, whole]
    exact last_of_flood short
  have newline : (ending longStatement).getLast? = some 10 := by decide
  refine ⟨last, ?_⟩
  rintro ⟨before, whole⟩
  rw [← whole, List.getLast?_append, newline] at last
  cases last

end Starry.Guarantees.LogRecords
