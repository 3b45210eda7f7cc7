import Mathlib.Tactic
import Starry.Foundation.Outcome

/-!
# Early ends of the process

The default build type is DEBUG, so a false `assert` ends the process, and so does the
destructor of a `Logger` at level FATAL. Functions that contain either return in
`Except Abort`; the file and the line say which check was reached. `undefinedBehaviour`
marks an access the language leaves undefined, such as a write past a buffer.
-/
namespace Starry.Source

open Starry.Foundation

inductive SourceFile where
  | bufferH | bufferCpp | protobufCodecLiteCpp | channelCpp | epollPollerCpp | eventloopCpp
  | tcpConnectionCpp | tcpServerCpp | timerQueueCpp | rpcChannelCpp | socketsOpsCpp
  | asyncLoggerCpp | connectorCpp | tcpClientCpp | generatedPbCc | timerH | eventloopThreadCpp
  | logFileCpp | cppServiceH
  deriving DecidableEq, Repr

inductive Abort where
  | assertion (file : SourceFile) (line : Nat)
  | logFatal (file : SourceFile) (line : Nat)
  | undefinedBehaviour (file : SourceFile) (line : Nat)
  deriving DecidableEq, Repr

instance {α : Type} [DecidableEq α] : DecidableEq (Except Abort α) := fun x y =>
  match x, y with
  | .ok a, .ok b => decidable_of_iff (a = b) (by simp)
  | .error a, .error b => decidable_of_iff (a = b) (by simp)
  | .ok _, .error _ => isFalse (by simp)
  | .error _, .ok _ => isFalse (by simp)

/-- The C macro `assert(condition)`. -/
def cassert (condition : Prop) [Decidable condition] (file : SourceFile) (line : Nat) :
    Except Abort Unit :=
  if condition then .ok () else .error (.assertion file line)

theorem cassert_of {condition : Prop} [Decidable condition] {file : SourceFile} {line : Nat}
    (holds : condition) : cassert condition file line = .ok () := if_pos holds

theorem cassert_of_not {condition : Prop} [Decidable condition] {file : SourceFile} {line : Nat}
    (fails : ¬ condition) : cassert condition file line = .error (.assertion file line) :=
  if_neg fails

/-- Behind an assertion its condition holds. -/
theorem cassert_ok {condition : Prop} [Decidable condition] {file : SourceFile} {line : Nat}
    {value : Unit} (passed : cassert condition file line = .ok value) : condition := by
  by_contra fails
  rw [cassert_of_not fails] at passed
  cases passed

/-- A true assertion is passed over. -/
theorem yields_cassert {α : Type} {condition : Prop} [Decidable condition] {file : SourceFile}
    {line : Nat} {next : Unit → Except Abort α} {post : α → Prop} (holds : condition)
    (after : Yields (next ()) post) : Yields (cassert condition file line >>= next) post := by
  rw [cassert_of holds]
  exact after

theorem faults_cassert {condition : Prop} [Decidable condition] {file : SourceFile} {line : Nat}
    {allowed : Abort → Prop} (permitted : allowed (.assertion file line)) :
    Faults (cassert condition file line) allowed := by
  unfold cassert
  split
  · exact .ok
  · exact .error permitted

/-- After an assertion its condition is known. -/
theorem ends_cassert {α : Type} {condition : Prop} [Decidable condition] {file : SourceFile}
    {line : Nat} {next : Unit → Except Abort α} {post : α → Prop} {allowed : Abort → Prop}
    (permitted : allowed (.assertion file line))
    (after : condition → Ends (next ()) post allowed) :
    Ends (cassert condition file line >>= next) post allowed := by
  by_cases holds : condition
  · rw [cassert_of holds]
    exact after holds
  · rw [cassert_of_not holds]
    exact permitted

end Starry.Source
