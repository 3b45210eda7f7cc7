import Starry.Foundation.NameLookup
import Starry.Guarantees.PointerAliases

/-!
# The type names of generated code

The generated code stands in the namespace of the file's package, in a translation unit that
declares whatever it declares, among it the class of every message that the methods use, where
protoc's own generator puts it. The plugin prints the name of such a class in two forms: qualified,
with the text of the package in front, dots included, and plain in `CallMethod`.

`names_denote_iff` says when all of them denote the right classes. The package of each input and
output type must have at most one component (`a.b::M` is no name at all), it must be the beginning
of the file's package, since the plain name is searched from there outwards, and neither the
package name nor the class name may be declared again further in.
-/
namespace Starry.Guarantees.GeneratedNames

open Starry.Foundation
open Starry.Source.CppPlugin
open Starry.Source.CppPlugin.CppStarryGenerator
open Starry.Source.CppPlugin.ServiceGenerator
open Starry.Guarantees.PointerAliases (letter sampleFile uses_sampleFile sampleFile_generates)

/-! ## Names as C++ reads them -/

/-- The pieces between the `::` of a text. -/
def components : List Char → List (List Char)
  | [] => [[]]
  | ':' :: ':' :: rest => [] :: components rest
  | c :: rest =>
    match components rest with
    | [] => [[c]]
    | first :: more => (c :: first) :: more

def toIdentifier (word : List Char) : Option Identifier :=
  if valid : isIdentifier word = true then some ⟨word, valid⟩ else none

/-- The qualified name that a text is, if it is one. -/
def parseName (text : List Char) : Option (List Identifier) := (components text).mapM toIdentifier

theorem components_word {word : List Char} (plain : ':' ∉ word) : components word = [word] := by
  induction word with
  | nil => rfl
  | cons c word ih =>
    rw [List.mem_cons, not_or] at plain
    rw [components, ih plain.2]
    intro rest same
    exact absurd same.symm plain.1

theorem components_cons {word rest : List Char} (plain : ':' ∉ word) :
    components (word ++ ':' :: ':' :: rest) = word :: components rest := by
  induction word with
  | nil => rfl
  | cons c word ih =>
    rw [List.mem_cons, not_or] at plain
    rw [List.cons_append, components, ih plain.2]
    intro rest same
    exact absurd same.symm plain.1

theorem colon_not_mem (name : Identifier) : ':' ∉ name.text := name.not_mem (by decide)

theorem toIdentifier_text (name : Identifier) : toIdentifier name.text = some name := by
  rw [toIdentifier, dif_pos name.valid]

theorem parseName_word (name : Identifier) : parseName name.text = some [name] := by
  rw [parseName, components_word (colon_not_mem name)]
  simp [toIdentifier_text]

theorem parseName_pair (first second : Identifier) :
    parseName (first.text ++ ':' :: ':' :: second.text) = some [first, second] := by
  rw [parseName, components_cons (colon_not_mem first), components_word (colon_not_mem second)]
  simp [toIdentifier_text]

/-- A piece that is no identifier makes the text no name. -/
theorem parseName_none {word rest : List Char} (plain : ':' ∉ word)
    (invalid : isIdentifier word = false) : parseName (word ++ ':' :: ':' :: rest) = none := by
  rw [parseName, components_cons plain]
  simp [toIdentifier, invalid]

/-! ## The names of one message class -/

variable {scopes : Scopes Identifier} {inside : List Identifier} {d : Descriptor}

/-- Inside the namespace `inside`, the text is a name for the class of the message. -/
def Denotes (scopes : Scopes Identifier) (inside : List Identifier) (text : List Char)
    (d : Descriptor) : Prop :=
  ∃ first rest, parseName text = some (first :: rest) ∧
    scopes.resolve inside first rest = some (d.file.package ++ [d.classIdentifier])

/-- protoc's generator has put the class of the message into the namespaces of its package. -/
structure Defined (scopes : Scopes Identifier) (d : Descriptor) : Prop where
  spaces : ∀ outer name inner, d.file.package = outer ++ name :: inner →
    scopes.declared outer name = some .space
  definition : scopes.declared d.file.package d.classIdentifier = some .type

/-- The package has at most one component and begins the namespace `inside`, and no namespace
further in declares its name or that of the class. -/
structure Fits (scopes : Scopes Identifier) (inside : List Identifier) (d : Descriptor) : Prop where
  short : d.file.package.length ≤ 1
  around : d.file.package <+: inside
  package : ∀ name, d.file.package = [name] →
    scopes.Unhidden Scopes.spaceOrType inside [] name
  plain : scopes.Unhidden Scopes.anything inside d.file.package d.classIdentifier

theorem denotes_iff_resolve {text : List Char} {first : Identifier} {rest : List Identifier}
    (parsed : parseName text = some (first :: rest)) : Denotes scopes inside text d ↔
      scopes.resolve inside first rest = some (d.file.package ++ [d.classIdentifier]) := by
  constructor
  · rintro ⟨_, _, same, resolved⟩
    rw [parsed] at same
    cases same
    exact resolved
  · intro resolved
    exact ⟨first, rest, parsed, resolved⟩

theorem plain_denotes_iff (defined : Defined scopes d) :
    Denotes scopes inside (d.className false) d ↔
      d.file.package <+: inside ∧
        scopes.Unhidden Scopes.anything inside d.file.package d.classIdentifier := by
  have parsed : parseName (d.className false) = some [d.classIdentifier] :=
    parseName_word d.classIdentifier
  have found : scopes.member d.file.package d.classIdentifier [] =
      some (d.file.package ++ [d.classIdentifier]) := by
    rw [Scopes.member, if_pos defined.definition]
  have declares : scopes.Declares Scopes.anything d.file.package d.classIdentifier := by
    rw [Scopes.Declares, defined.definition]
    rfl
  rw [denotes_iff_resolve parsed, Scopes.resolve_eq_some]
  constructor
  · rintro ⟨space, path, _, around, _, unhidden⟩
    rw [← List.append_cancel_right path] at around unhidden
    exact ⟨around, unhidden⟩
  · rintro ⟨around, unhidden⟩
    exact ⟨_, rfl, found, around, declares, unhidden⟩

/-- The text of a package of one component, and of a longer one. -/
theorem packageText_single {file : FileInfo} {name : Identifier} (single : file.package = [name]) :
    file.packageText = name.text := by
  simp [FileInfo.packageText, single]

theorem packageText_long {file : FileInfo} (long : 1 < file.package.length) :
    ':' ∉ file.packageText ∧ isIdentifier file.packageText = false := by
  have chars (names : List Identifier) :
      ∀ c ∈ ['.'].intercalate (names.map Identifier.text), c = '.' ∨ isIdentifierChar c = true := by
    induction names with
    | nil => simp
    | cons first rest ih =>
      have own (c : Char) (member : c ∈ first.text) : isIdentifierChar c = true :=
        List.all_eq_true.mp (isIdentifier_chars first.valid) c member
      cases rest with
      | nil => simpa using fun c member => .inr (own c member)
      | cons second rest =>
        intro c member
        simp only [List.map_cons, List.intercalate_cons_cons, List.mem_append, List.mem_singleton]
          at member ih
        rcases member with (front | dot) | later
        · exact .inr (own c front)
        · exact .inl dot
        · exact ih c later
  refine ⟨?_, ?_⟩
  · intro colon
    rcases chars file.package ':' colon with dot | valid
    · cases dot
    · revert valid
      decide
  · cases names : file.package with
    | nil => simp [names] at long
    | cons first rest =>
      cases rest with
      | nil => simp [names] at long
      | cons second rest =>
        by_contra valid
        have dot : '.' ∈ file.packageText := by
          simp [FileInfo.packageText, names, List.intercalate_cons_cons]
        have all := List.all_eq_true.mp (isIdentifier_chars (Bool.not_eq_false _ |>.mp valid)) '.' dot
        revert all
        decide

/-- A qualified name whose package has one component. -/
theorem pair_denotes_iff (defined : Defined scopes d) {name : Identifier}
    (single : d.file.package = [name]) :
    Denotes scopes inside (d.className true) d ↔ scopes.Unhidden Scopes.spaceOrType inside [] name := by
  have text : d.className true = name.text ++ ':' :: ':' :: d.classIdentifier.text := by
    have filled : d.file.packageText ≠ [] := by
      rw [packageText_single single]
      exact name.text_ne_nil
    rw [Descriptor.className_qualified, Descriptor.qualifier, if_neg filled,
      packageText_single single, List.append_assoc]
    rfl
  have parsed : parseName (d.className true) = some [name, d.classIdentifier] := by
    rw [text, parseName_pair]
  have space : scopes.declared [] name = some .space := defined.spaces [] name [] single
  have found : scopes.member [] name [d.classIdentifier] =
      some (d.file.package ++ [d.classIdentifier]) := by
    have definition := defined.definition
    rw [single] at definition ⊢
    rw [Scopes.member, if_pos space, Scopes.member, List.nil_append, if_pos definition]
  have declares : scopes.Declares Scopes.spaceOrType [] name := by
    rw [Scopes.Declares, space]
    rfl
  rw [denotes_iff_resolve parsed, Scopes.resolve_eq_some]
  constructor
  · rintro ⟨space, path, _, _, _, unhidden⟩
    -- the search for the package must have ended in the global namespace
    have outermost : space = [] := by
      rw [single] at path
      have length := congrArg List.length path
      simp at length
      exact length
    rw [outermost] at unhidden
    exact unhidden
  · intro unhidden
    refine ⟨[], ?_, found, List.nil_prefix, declares, unhidden⟩
    rw [single]
    rfl

/-- A package of two components or more makes the qualified name no name. -/
theorem not_denotes_long (long : 1 < d.file.package.length) :
    ¬Denotes scopes inside (d.className true) d := by
  obtain ⟨plain, invalid⟩ := packageText_long long
  have filled : d.file.packageText ≠ [] := by
    rw [ne_eq, FileInfo.packageText_eq_nil]
    intro empty
    rw [empty] at long
    cases long
  rintro ⟨first, rest, parsed, _⟩
  rw [Descriptor.className_qualified, Descriptor.qualifier, if_neg filled, List.append_assoc] at parsed
  have none := @parseName_none _ (d.className false) plain invalid
  rw [show [':', ':'] ++ d.className false = ':' :: ':' :: d.className false from rfl, none] at parsed
  cases parsed

/-- Both forms of the name denote the class exactly when it fits. -/
theorem both_denote_iff (defined : Defined scopes d) :
    (∀ qualified, Denotes scopes inside (d.className qualified) d) ↔ Fits scopes inside d := by
  have forms : (∀ qualified, Denotes scopes inside (d.className qualified) d) ↔
      Denotes scopes inside (d.className true) d ∧ Denotes scopes inside (d.className false) d :=
    ⟨fun both => ⟨both true, both false⟩, fun both qualified => by cases qualified <;> simp [both]⟩
  rw [forms, plain_denotes_iff defined]
  match package : d.file.package with
  | [] =>
    have same : d.className true = d.className false := by
      rw [Descriptor.className_qualified, Descriptor.qualifier,
        if_pos ((FileInfo.packageText_eq_nil _).mpr package), List.nil_append]
    rw [same, plain_denotes_iff defined, package]
    constructor
    · rintro ⟨_, around, unhidden⟩
      exact ⟨by simp [package], by simp [package], by simp [package], by rw [package]; exact unhidden⟩
    · intro fits
      have unhidden := fits.plain
      rw [package] at unhidden
      exact ⟨⟨List.nil_prefix, unhidden⟩, List.nil_prefix, unhidden⟩
  | [name] =>
    rw [pair_denotes_iff defined package]
    constructor
    · rintro ⟨unhidden, around, plain⟩
      refine ⟨by simp [package], by rw [package]; exact around, ?_, by rw [package]; exact plain⟩
      intro other same
      rw [package] at same
      cases same
      exact unhidden
    · intro fits
      have around := fits.around
      have plain := fits.plain
      rw [package] at around plain
      exact ⟨fits.package name package, around, plain⟩
  | first :: second :: rest =>
    have long : 1 < d.file.package.length := by simp [package]
    constructor
    · rintro ⟨qualified, _⟩
      exact absurd qualified (not_denotes_long long)
    · intro fits
      exact absurd fits.short (by omega)

/-! ## Every name that is printed -/

variable {file : FileDescriptor} {out : Insertions}

/-- Every name of a message class in the generated code denotes it. -/
def NamesDenote (scopes : Scopes Identifier) (file : FileDescriptor) (out : Insertions) : Prop :=
  ∀ type qualified, .typeName type qualified ∈ out.declarations ++ out.implementation →
    Denotes scopes file.info.package (Fragment.typeName type qualified).chars type

/-- The types that the methods use are printed in both forms, and no others are. -/
theorem typeName_mem (generated : generate file = .ok (.ok out)) {type : Descriptor}
    {qualified : Bool} :
    .typeName type qualified ∈ out.declarations ++ out.implementation ↔ Uses file type := by
  obtain ⟨_, declarations, implementation⟩ := generate_ok generated
  rw [← mem_mentions rfl, mentions_append, declarations, implementation]
  simp only [List.mem_append, List.mem_map, List.mem_flatMap, declared, implemented, List.mem_cons,
    List.not_mem_nil, Fragment.typeName.injEq, reduceCtorEq, and_false, exists_false, or_false,
    false_or, Uses]
  cases qualified <;> grind

/-- Whatever the translation unit declares besides the classes of the messages: all their names in
the generated code denote them exactly when the packages of the types that the methods use have
one component at most and begin the package of the file, and no namespace further in declares
the name of the package or of the class. -/
theorem names_denote_iff (generated : generate file = .ok (.ok out))
    (defined : ∀ type, Uses file type → Defined scopes type) :
    NamesDenote scopes file out ↔
      ∀ type, Uses file type → Fits scopes file.info.package type := by
  constructor
  · intro denote type uses
    refine (both_denote_iff (defined type uses)).mp fun qualified => ?_
    rw [← Fragment.chars_typeName]
    exact denote type qualified ((typeName_mem generated).mpr uses)
  · intro fit type qualified printed
    have uses := (typeName_mem generated).mp printed
    rw [Fragment.chars_typeName]
    exact (both_denote_iff (defined type uses)).mpr (fit type uses) qualified

/-! ## Small files -/

/-- The namespaces of one package, and in it one class. -/
def packageScopes (package : List Identifier) (name : Identifier) : Scopes Identifier where
  declared space other :=
    if space ++ [other] <+: package then some .space
    else if space = package ∧ other = name then some .type
    else none

theorem packageScopes_defined (d : Descriptor) :
    Defined (packageScopes d.file.package d.classIdentifier) d := by
  refine ⟨?_, ?_⟩
  · intro outer name inner package
    refine if_pos ⟨inner, ?_⟩
    rw [package, List.append_assoc]
    rfl
  · have longer : ¬d.file.package ++ [d.classIdentifier] <+: d.file.package := by
      intro shorter
      have length := shorter.length_le
      rw [List.length_append, List.length_singleton] at length
      omega
    change (if _ then _ else _) = _
    rw [if_neg longer, if_pos ⟨rfl, rfl⟩]

/-- A method from `M` to `M` in the package `p`. -/
theorem names_denote_iff_one_component : ∃ out,
    generate (sampleFile [letter 'p' rfl] fun info => .message info (letter 'M' rfl)) =
      .ok (.ok out) ∧
    (∃ fragment ∈ out.declarations ++ out.implementation, fragment.chars = "p::M".toList) ∧
    NamesDenote (packageScopes [letter 'p' rfl] (letter 'M' rfl))
      (sampleFile [letter 'p' rfl] fun info => .message info (letter 'M' rfl)) out := by
  obtain ⟨out, generated⟩ := @sampleFile_generates [letter 'p' rfl] (by simp)
    fun info => .message info (letter 'M' rfl)
  have only {type : Descriptor}
      (uses : Uses (sampleFile [letter 'p' rfl] fun info => .message info (letter 'M' rfl)) type) :
      type = .message ⟨"f.proto", [letter 'p' rfl]⟩ (letter 'M' rfl) := by
    rcases uses_sampleFile.mp uses with rfl | rfl <;> rfl
  refine ⟨out, generated, ⟨.typeName (.message ⟨"f.proto", [letter 'p' rfl]⟩ (letter 'M' rfl)) true,
    (typeName_mem generated).mpr (uses_sampleFile.mpr (.inl rfl)), by decide⟩,
    (names_denote_iff generated ?_).mpr ?_⟩
  · intro type uses
    rw [only uses]
    exact packageScopes_defined (.message ⟨"f.proto", [letter 'p' rfl]⟩ (letter 'M' rfl))
  · intro type uses
    rw [only uses]
    refine ⟨by decide, List.prefix_rfl, ?_, ?_⟩
    · rintro name same inner around longer
      cases same
      have whole : inner = [letter 'p' rfl] := around.eq_of_length_le longer
      rw [whole]
      decide
    · intro inner around longer
      exact absurd around.length_le (Nat.not_le.mpr longer)

/-- A method from `M` to `M` in the package `a.b`: the header has the text `a.b::M`, which is not a
name. -/
theorem dotted_package_unnamed : ∃ out,
    generate (sampleFile [letter 'a' rfl, letter 'b' rfl] fun info => .message info (letter 'M' rfl)) =
      .ok (.ok out) ∧
    (∀ type, Uses (sampleFile [letter 'a' rfl, letter 'b' rfl] fun info =>
        .message info (letter 'M' rfl)) type →
      Defined (packageScopes [letter 'a' rfl, letter 'b' rfl] (letter 'M' rfl)) type) ∧
    (∃ fragment ∈ out.declarations ++ out.implementation, fragment.chars = "a.b::M".toList) ∧
    parseName "a.b::M".toList = none ∧
    ¬NamesDenote (packageScopes [letter 'a' rfl, letter 'b' rfl] (letter 'M' rfl))
      (sampleFile [letter 'a' rfl, letter 'b' rfl] fun info => .message info (letter 'M' rfl)) out := by
  obtain ⟨out, generated⟩ := @sampleFile_generates [letter 'a' rfl, letter 'b' rfl] (by simp)
    fun info => .message info (letter 'M' rfl)
  have printed {qualified : Bool} :
      .typeName (.message ⟨"f.proto", [letter 'a' rfl, letter 'b' rfl]⟩ (letter 'M' rfl)) qualified ∈
        out.declarations ++ out.implementation :=
    (typeName_mem generated).mpr (uses_sampleFile.mpr (.inl rfl))
  refine ⟨out, generated, ?_, ⟨_, @printed true, by decide⟩, by decide, ?_⟩
  · intro type uses
    have only : type =
        .message ⟨"f.proto", [letter 'a' rfl, letter 'b' rfl]⟩ (letter 'M' rfl) := by
      rcases uses_sampleFile.mp uses with rfl | rfl <;> rfl
    rw [only]
    exact packageScopes_defined
      (.message ⟨"f.proto", [letter 'a' rfl, letter 'b' rfl]⟩ (letter 'M' rfl))
  · intro denote
    exact not_denotes_long (by decide) (denote _ true printed)

end Starry.Guarantees.GeneratedNames
