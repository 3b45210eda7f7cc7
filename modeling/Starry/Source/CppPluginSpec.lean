import Starry.Source.CppPlugin

/-!
# What the plugin prints of message classes

A service's declarations and its implementation mention exactly the input and output types of its
methods: by their qualified names, by the qualified names of their aliases, and, in `CallMethod`
only, by their plain names. The aliases come before everything else in the header.

A class name is an identifier, and so the text of a name can be taken apart again.
-/
namespace Starry.Source.CppPlugin

open Starry.Foundation

/-! ## Identifiers -/

/-- An identifier may be continued. -/
theorem isIdentifier_append {word rest : List Char} (valid : isIdentifier word = true)
    (continues : rest.all isIdentifierChar = true) : isIdentifier (word ++ rest) = true := by
  cases word with
  | nil => cases valid
  | cons first word =>
    simp only [isIdentifier, List.cons_append, Bool.and_eq_true, List.all_append] at valid ⊢
    exact ⟨valid.1, valid.2, continues⟩

theorem isIdentifier_chars {word : List Char} (valid : isIdentifier word = true) :
    word.all isIdentifierChar = true := by
  cases word with
  | nil => rfl
  | cons first word =>
    simp only [isIdentifier, Bool.and_eq_true, Bool.or_eq_true] at valid
    rw [List.all_cons, valid.2, Bool.and_true]
    unfold isIdentifierChar Char.isAlphanum
    rcases valid.1 with letter | underscore
    · simp [letter]
    · simp [underscore]

theorem Identifier.not_mem {c : Char} (name : Identifier) (outside : isIdentifierChar c = false) :
    c ∉ name.text := by
  intro inside
  have valid := List.all_eq_true.mp (isIdentifier_chars name.valid) c inside
  rw [outside] at valid
  cases valid

theorem Identifier.text_ne_nil (name : Identifier) : name.text ≠ [] := by
  intro empty
  have valid := name.valid
  rw [empty] at valid
  cases valid

theorem FileInfo.packageText_eq_nil (file : FileInfo) : file.packageText = [] ↔ file.package = [] := by
  unfold packageText
  cases file.package with
  | nil => simp
  | cons first rest =>
    constructor
    · intro empty
      have filled := first.text_ne_nil
      cases rest <;> simp_all [List.intercalate]
    · intro empty
      cases empty

namespace Descriptor

/-- The qualified name begins with the package. -/
theorem className_qualified (d : Descriptor) :
    d.className true = qualifier d.file ++ d.className false := by
  cases d <;> simp [className, file]

/-- A class name is an identifier. -/
theorem className_valid (d : Descriptor) : isIdentifier (d.className false) = true := by
  induction d with
  | message file name => simpa [className] using name.valid
  | nested containing_type name ih =>
    have continues : ('_' :: name.text).all isIdentifierChar = true := by
      rw [List.all_cons, isIdentifier_chars name.valid]
      decide
    simpa [className] using isIdentifier_append ih continues

/-- The name of the class that protoc's generator defines for a message: the names of the messages
around it and its own, with underscores between them. -/
def classIdentifier (d : Descriptor) : Identifier := ⟨d.className false, d.className_valid⟩

end Descriptor

theorem Fragment.chars_pointerName (type : Descriptor) (qualified : Bool) :
    (Fragment.pointerName type qualified).chars = type.className qualified ++ "Ptr".toList :=
  rfl

theorem Fragment.chars_typeName (type : Descriptor) (qualified : Bool) :
    (Fragment.typeName type qualified).chars = type.className qualified :=
  rfl

/-! ## What is mentioned -/

def Fragment.isMention : Fragment → Bool
  | .text _ | .name _ => false
  | .typeName _ _ | .pointerName _ _ | .alias _ => true

/-- The places at which a class, its alias or the line for the alias is printed. -/
def mentions (fragments : List Fragment) : List Fragment := fragments.filter Fragment.isMention

/-- The mentions are the fragments that mention a type. -/
theorem mem_mentions {fragment : Fragment} {fragments : List Fragment}
    (mention : fragment.isMention = true) : fragment ∈ mentions fragments ↔ fragment ∈ fragments := by
  rw [mentions, List.mem_filter]
  exact and_iff_left mention

theorem mentions_append (first second : List Fragment) :
    mentions (first ++ second) = mentions first ++ mentions second :=
  List.filter_append first second

theorem mentions_flatMap {α : Type} (xs : List α) (emit : α → List Fragment) :
    mentions (xs.flatMap emit) = xs.flatMap fun x => mentions (emit x) :=
  List.filter_flatMap

namespace ServiceGenerator

open Fragment

/-- A loop over the methods that mentions the same whatever the index is. -/
theorem mentions_indexed {descriptor : ServiceDescriptor}
    {emit : MethodDescriptor → Nat → List Fragment} {mentioned : MethodDescriptor → List Fragment}
    (same : ∀ method index, mentions (emit method index) = mentioned method) :
    mentions (indexed descriptor emit) = descriptor.methods.flatMap mentioned := by
  unfold indexed
  rw [mentions_flatMap]
  simp only [same]
  rw [← List.flatMap_map Prod.fst mentioned, List.zipIdx_map_fst]

/-- The mentions of a service in the header. -/
def declared (descriptor : ServiceDescriptor) : List Fragment :=
  descriptor.methods.flatMap (fun method =>
    [pointerName method.input_type true, typeName method.output_type true]) ++
  descriptor.methods.flatMap fun method =>
    [typeName method.input_type true, pointerName method.output_type true]

/-- What the declarations of a service mention. -/
theorem mentions_declarations (descriptor : ServiceDescriptor) :
    mentions (generateDeclarations descriptor) = declared descriptor := by
  have interface : mentions (generateMethodSignatures descriptor .NON_STUB) =
      descriptor.methods.flatMap fun method =>
        [.pointerName method.input_type true, .typeName method.output_type true] :=
    mentions_flatMap _ _
  have stub : mentions (generateMethodSignatures descriptor .STUB) =
      descriptor.methods.flatMap fun method =>
        [.typeName method.input_type true, .pointerName method.output_type true] :=
    mentions_flatMap _ _
  simp only [generateDeclarations, generateInterface, generateStubDefinition, mentions_append,
    interface, stub]
  simp [mentions, Fragment.isMention, declared]

/-- The mentions of a service in the implementation. -/
def implemented (descriptor : ServiceDescriptor) : List Fragment :=
  descriptor.methods.flatMap (fun method =>
    [pointerName method.input_type true, typeName method.output_type true]) ++
  descriptor.methods.flatMap (fun method =>
    [typeName method.input_type false, typeName method.output_type false]) ++
  descriptor.methods.flatMap (fun method => [typeName method.input_type true]) ++
  descriptor.methods.flatMap (fun method => [typeName method.output_type true]) ++
  descriptor.methods.flatMap fun method =>
    [typeName method.input_type true, pointerName method.output_type true,
      typeName method.output_type true]

/-- What the implementation of a service mentions. -/
theorem mentions_implementation (descriptor : ServiceDescriptor) (filename : String) (index : Nat) :
    mentions (generateImplementation descriptor filename index) = implemented descriptor := by
  have notImplemented : mentions (generateNotImplementedMethods descriptor) =
      descriptor.methods.flatMap fun method =>
        [.pointerName method.input_type true, .typeName method.output_type true] :=
    mentions_flatMap _ _
  have call : mentions (indexed descriptor callCase) = descriptor.methods.flatMap fun method =>
      [.typeName method.input_type false, .typeName method.output_type false] :=
    mentions_indexed fun _ _ => rfl
  have stub : mentions (generateStubMethods descriptor) = descriptor.methods.flatMap fun method =>
      [.typeName method.input_type true, .pointerName method.output_type true,
        .typeName method.output_type true] :=
    mentions_indexed fun _ _ => rfl
  have prototype (which : RequestOrResponse) :
      mentions (indexed descriptor (prototypeCase which)) =
        descriptor.methods.flatMap fun method => [.typeName (prototypeType which method) true] :=
    mentions_indexed fun _ _ => rfl
  simp only [generateImplementation, generateCallMethod, generateGetPrototype, mentions_append,
    notImplemented, call, stub, prototype]
  simp [mentions, Fragment.isMention, implemented, prototypeType]

end ServiceGenerator

/-! ## Files -/

namespace CppStarryGenerator

open ServiceGenerator

variable {file : FileDescriptor} {out : Insertions}

/-- The input or the output type of a method of the file. -/
def Uses (file : FileDescriptor) (type : Descriptor) : Prop :=
  ∃ service ∈ file.services, ∃ method ∈ service.methods,
    type = method.input_type ∨ type = method.output_type

/-- A package and a dot in the name of the file are all that is needed. -/
theorem generate_succeeds (named : file.info.package ≠ []) (dotted : '.' ∈ file.info.name.toList) :
    ∃ out, generate file = .ok (.ok out) := by
  unfold generate protoBaseName
  rw [if_neg (by rwa [file.info.packageText_eq_nil]), cassert_of dotted]
  exact ⟨_, rfl⟩

/-- A file that is generated has a package, and aliases for its own messages only. -/
theorem generate_ok (generated : generate file = .ok (.ok out)) :
    file.info.package ≠ [] ∧
    mentions out.declarations = file.message_types.map .alias ++ file.services.flatMap declared ∧
    mentions out.implementation = file.services.flatMap implemented := by
  unfold generate at generated
  split at generated
  next => cases generated
  next named =>
    obtain ⟨_, _, success⟩ := bind_eq_ok generated
    cases success
    rw [file.info.packageText_eq_nil] at named
    refine ⟨named, ?_, ?_⟩
    · have aliases : mentions (file.message_types.map .alias) = file.message_types.map .alias := by
        rw [mentions, List.filter_eq_self]
        intro fragment member
        obtain ⟨type, _, rfl⟩ := List.mem_map.mp member
        rfl
      have services (service : ServiceDescriptor) :
          mentions (declarationsOf service) = declared service := by
        rw [← mentions_declarations]
        rfl
      rw [mentions_append, mentions_append, mentions_flatMap, aliases]
      simp only [services]
      rfl
    · have services (service : ServiceDescriptor) (index : Nat) :
          mentions (implementationOf file.info.name service index) = implemented service := by
        rw [← mentions_implementation service file.info.name index]
        simp [implementationOf, mentions, Fragment.isMention]
      rw [mentions_flatMap]
      simp only [services]
      rw [← List.flatMap_map Prod.fst implemented, List.zipIdx_map_fst]

end CppStarryGenerator

end Starry.Source.CppPlugin
