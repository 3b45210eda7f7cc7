import Starry.Source.CppPluginSpec

/-!
# The pointer aliases of generated code

The header begins with one `using` line for each message of the file that is not nested. The
methods use the aliases of their input and output types, nested or not. `aliases_declared_iff` says
for which files every alias that is used has been introduced: those in which the class name of
every input and output type is the name of a message that is not nested.

`::google::protobuf::MessagePtr`, which is part of the fixed texts, comes from `service.h`.
-/
namespace Starry.Guarantees.PointerAliases

open Starry.Foundation
open Starry.Source.CppPlugin
open Starry.Source.CppPlugin.CppStarryGenerator
open Starry.Source.CppPlugin.ServiceGenerator

variable {file : FileDescriptor} {out : Insertions}

/-- The name that the line for `type` introduces in the namespace of its package. -/
def aliasName (type : Descriptor) : List Char :=
  Descriptor.qualifier type.file ++ (type.className false ++ "Ptr".toList)

/-- One of the lines introduces the name that is printed. -/
def Introduced (lines : List Fragment) (type : Descriptor) (qualified : Bool) : Prop :=
  ∃ message, .alias message ∈ lines ∧
    aliasName message = (Fragment.pointerName type qualified).chars

/-- Every alias that is used has been introduced further up in the header. -/
structure AliasesDeclared (out : Insertions) : Prop where
  header : ∀ before type qualified after,
    out.declarations = before ++ .pointerName type qualified :: after →
      Introduced before type qualified
  implementation : ∀ type qualified, .pointerName type qualified ∈ out.implementation →
    Introduced out.declarations type qualified

/-- The class of the type has the name of a message that is not nested. -/
def NamedAtTop (file : FileDescriptor) (type : Descriptor) : Prop :=
  ∃ name ∈ file.messages, type.className false = name.text

theorem pointerName_declared {type : Descriptor} {qualified : Bool} :
    .pointerName type qualified ∈ file.services.flatMap declared ↔
      qualified = true ∧ Uses file type := by
  simp only [List.mem_flatMap, declared, List.mem_append, List.mem_cons, List.not_mem_nil,
    Fragment.pointerName.injEq, reduceCtorEq, or_false, false_or, Uses]
  grind

theorem pointerName_implemented {type : Descriptor} {qualified : Bool} :
    .pointerName type qualified ∈ file.services.flatMap implemented ↔
      qualified = true ∧ Uses file type := by
  simp only [List.mem_flatMap, implemented, List.mem_append, List.mem_cons, List.not_mem_nil,
    Fragment.pointerName.injEq, reduceCtorEq, or_false, false_or, Uses]
  grind

theorem alias_not_declared {type : Descriptor} : .alias type ∉ file.services.flatMap declared := by
  simp [declared]

/-- The lines for the aliases come first. -/
theorem aliases_before (generated : generate file = .ok (.ok out)) {before after : List Fragment}
    {type : Descriptor} {qualified : Bool}
    (split : out.declarations = before ++ .pointerName type qualified :: after)
    (message : Descriptor) : .alias message ∈ before ↔ message ∈ file.message_types := by
  have mentioned := (generate_ok generated).2.1
  have here : mentions out.declarations =
      mentions before ++ .pointerName type qualified :: mentions after := by
    rw [split, mentions_append]
    rfl
  rw [here] at mentioned
  rw [← mem_mentions rfl]
  rcases List.append_eq_append_iff.mp mentioned with ⟨rest, aliases, later⟩ | ⟨rest, whole, services⟩
  · -- the use stands after the last line, or a line would be a use
    cases rest with
    | nil =>
      rw [List.append_nil] at aliases
      rw [← aliases]
      simp
    | cons first rest =>
      rw [List.cons_append, List.cons.injEq] at later
      have member : first ∈ file.message_types.map Fragment.alias := by
        rw [aliases]
        simp
      obtain ⟨_, _, line⟩ := List.mem_map.mp member
      rw [← later.1] at line
      cases line
  · rw [whole, List.mem_append]
    constructor
    · rintro (line | service)
      · simpa using line
      · have inside : .alias message ∈ file.services.flatMap declared := by
          rw [services]
          exact List.mem_append_left _ service
        exact absurd inside alias_not_declared
    · intro member
      exact .inl (List.mem_map_of_mem member)

/-- Of a type of the file: its alias is introduced exactly when its class has the name of a message
that is not nested. -/
theorem introduced_iff {lines : List Fragment} {type : Descriptor}
    (aliases : ∀ message, .alias message ∈ lines ↔ message ∈ file.message_types)
    (own : type.file = file.info) : Introduced lines type true ↔ NamedAtTop file type := by
  have printed : (Fragment.pointerName type true).chars =
      Descriptor.qualifier file.info ++ (type.className false ++ "Ptr".toList) := by
    rw [Fragment.chars_pointerName, Descriptor.className_qualified, own, List.append_assoc]
  have line (name : Identifier) : aliasName (.message file.info name) =
      Descriptor.qualifier file.info ++ (name.text ++ "Ptr".toList) := by
    simp only [aliasName, Descriptor.file, Descriptor.className, Bool.false_eq_true, ↓reduceIte,
      List.nil_append]
  unfold Introduced NamedAtTop
  constructor
  · rintro ⟨message, member, same⟩
    obtain ⟨name, top, rfl⟩ := List.mem_map.mp ((aliases message).mp member)
    rw [printed, line] at same
    exact ⟨name, top, (List.append_cancel_right (List.append_cancel_left same)).symm⟩
  · rintro ⟨name, top, same⟩
    refine ⟨.message file.info name, (aliases _).mpr (List.mem_map_of_mem top), ?_⟩
    rw [printed, line, same]

theorem alias_mem_declarations (generated : generate file = .ok (.ok out)) (message : Descriptor) :
    .alias message ∈ out.declarations ↔ message ∈ file.message_types := by
  rw [← mem_mentions rfl, (generate_ok generated).2.1, List.mem_append,
    or_iff_left alias_not_declared]
  simp

theorem pointerName_mem_implementation (generated : generate file = .ok (.ok out))
    {type : Descriptor} {qualified : Bool} :
    .pointerName type qualified ∈ out.implementation ↔ qualified = true ∧ Uses file type := by
  rw [← mem_mentions rfl, (generate_ok generated).2.2, pointerName_implemented]

theorem pointerName_mem_declarations (generated : generate file = .ok (.ok out))
    {type : Descriptor} {qualified : Bool} :
    .pointerName type qualified ∈ out.declarations ↔ qualified = true ∧ Uses file type := by
  rw [← mem_mentions rfl, (generate_ok generated).2.1, List.mem_append, pointerName_declared]
  simp

/-- A type whose alias is introduced where it is used has the name of a message that is not nested. -/
theorem AliasesDeclared.named (declared : AliasesDeclared out)
    (generated : generate file = .ok (.ok out)) {type : Descriptor} (uses : Uses file type)
    (own : type.file = file.info) : NamedAtTop file type :=
  (introduced_iff (alias_mem_declarations generated) own).mp
    (declared.implementation type true ((pointerName_mem_implementation generated).mpr ⟨rfl, uses⟩))

/-- Of a file whose methods use its own messages only: every alias that the generated code uses is
introduced further up exactly when the class name of every input and output type is the name of
a message that is not nested. -/
theorem aliases_declared_iff (generated : generate file = .ok (.ok out))
    (own : ∀ type, Uses file type → type.file = file.info) :
    AliasesDeclared out ↔ ∀ type, Uses file type → NamedAtTop file type := by
  constructor
  · intro declared type uses
    exact declared.named generated uses (own type uses)
  · intro named
    refine ⟨?_, ?_⟩
    · intro before type qualified after split
      obtain ⟨rfl, uses⟩ : qualified = true ∧ Uses file type := by
        apply (pointerName_mem_declarations generated).mp
        rw [split]
        simp
      exact (introduced_iff (aliases_before generated split) (own type uses)).mpr (named type uses)
    · intro type qualified member
      obtain ⟨rfl, uses⟩ := (pointerName_mem_implementation generated).mp member
      exact (introduced_iff (alias_mem_declarations generated) (own type uses)).mpr
        (named type uses)

/-! ## Small files -/

def letter (c : Char) (valid : isIdentifier [c] = true) : Identifier := ⟨[c], valid⟩

/-- The file `f.proto` with the message `M` and, for its service `S`, the method `c` from `input` to
`M`. -/
def sampleFile (package : List Identifier) (input : FileInfo → Descriptor) : FileDescriptor :=
  let info : FileInfo := ⟨"f.proto", package⟩
  { info := info
    messages := [letter 'M' rfl]
    services := [⟨letter 'S' rfl, [⟨letter 'c' rfl, input info, .message info (letter 'M' rfl)⟩]⟩] }

theorem uses_sampleFile {package : List Identifier} {input : FileInfo → Descriptor}
    {type : Descriptor} :
    Uses (sampleFile package input) type ↔ type = input ⟨"f.proto", package⟩ ∨
      type = .message ⟨"f.proto", package⟩ (letter 'M' rfl) := by
  simp [Uses, sampleFile]

theorem sampleFile_generates {package : List Identifier} (named : package ≠ [])
    (input : FileInfo → Descriptor) : ∃ out, generate (sampleFile package input) = .ok (.ok out) :=
  generate_succeeds named (by simp [sampleFile])

/-- A method from `M` to `M`. -/
theorem aliases_declared_iff_top_level : ∃ out,
    generate (sampleFile [letter 'p' rfl] fun info => .message info (letter 'M' rfl)) =
      .ok (.ok out) ∧
    (∃ fragment ∈ out.declarations, fragment.chars = "p::MPtr".toList) ∧ AliasesDeclared out := by
  obtain ⟨out, generated⟩ := @sampleFile_generates [letter 'p' rfl] (by simp)
    fun info => .message info (letter 'M' rfl)
  refine ⟨out, generated, ⟨_, (pointerName_mem_declarations generated).mpr
    ⟨rfl, uses_sampleFile.mpr (.inl rfl)⟩, by decide⟩, (aliases_declared_iff generated ?_).mpr ?_⟩
  · intro type uses
    rcases uses_sampleFile.mp uses with rfl | rfl <;> rfl
  · intro type uses
    refine ⟨letter 'M' rfl, List.mem_cons_self, ?_⟩
    rcases uses_sampleFile.mp uses with rfl | rfl <;> rfl

/-- A method from the message `N` that is nested in `M`: its alias `p::M_NPtr` is used in the header,
whose only alias is `MPtr`. -/
theorem nested_alias_missing : ∃ out,
    generate (sampleFile [letter 'p' rfl] fun info =>
      .nested (.message info (letter 'M' rfl)) (letter 'N' rfl)) = .ok (.ok out) ∧
    (∃ fragment ∈ out.declarations, fragment.chars = "p::M_NPtr".toList) ∧
    (∀ message, .alias message ∈ out.declarations → message.className false = ['M']) ∧
    ¬AliasesDeclared out := by
  obtain ⟨out, generated⟩ := @sampleFile_generates [letter 'p' rfl] (by simp) fun info =>
    .nested (.message info (letter 'M' rfl)) (letter 'N' rfl)
  refine ⟨out, generated, ⟨_, (pointerName_mem_declarations generated).mpr
    ⟨rfl, uses_sampleFile.mpr (.inl rfl)⟩, by decide⟩, ?_, ?_⟩
  · intro message member
    have top := (alias_mem_declarations generated message).mp member
    rw [FileDescriptor.message_types, List.mem_map] at top
    obtain ⟨name, only, rfl⟩ := top
    rw [List.mem_singleton.mp only]
    rfl
  · intro declared
    obtain ⟨name, only, same⟩ := declared.named generated (uses_sampleFile.mpr (.inl rfl)) rfl
    rw [List.mem_singleton.mp only] at same
    revert same
    decide

end Starry.Guarantees.PointerAliases
