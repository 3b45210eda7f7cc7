import Mathlib.Data.List.DropRight
import Starry.Source.Abort

/-!
# The protoc plugin `CppStarryGenerator`

`net/rpc/tool/cpp_plugin.cpp`, `cpp_service.h` and `cpp_service.cpp`. The plugin inserts code into
the two files that protoc's own C++ generator writes for a `.proto` file: at `includes` and
`namespace_scope` of the header, and at `namespace_scope` of the implementation. What it prints is
kept in fragments: fixed texts, the names of services and methods, and the places where it prints
the name of a message class, of its pointer alias, or the line that introduces the alias.

Of a descriptor only what the plugin reads is kept. A name in a `.proto` file is an identifier
of letters, digits and underscores. The indentation that the `Printer` adds is left out.
-/
namespace Starry.Source.CppPlugin

open Starry.Foundation

def isIdentifierChar (c : Char) : Bool := c.isAlphanum || c == '_'

def isIdentifier : List Char → Bool
  | [] => false
  | first :: rest => (first.isAlpha || first == '_') && rest.all isIdentifierChar

structure Identifier where
  text : List Char
  valid : isIdentifier text = true
  deriving DecidableEq, Repr

/-! ## Descriptors -/

/-- `descriptor->file()` of a message. -/
structure FileInfo where
  name : String
  package : List Identifier
  deriving DecidableEq, Repr

/-- A message of a file, at any depth of nesting. -/
inductive Descriptor where
  | message (file : FileInfo) (name : Identifier)
  | nested (containing_type : Descriptor) (name : Identifier)
  deriving DecidableEq, Repr

structure MethodDescriptor where
  name : Identifier
  input_type : Descriptor
  output_type : Descriptor
  deriving DecidableEq, Repr

structure ServiceDescriptor where
  name : Identifier
  methods : List MethodDescriptor
  deriving DecidableEq, Repr

/-- `messages` are the names of the messages that are not nested. -/
structure FileDescriptor where
  info : FileInfo
  messages : List Identifier
  services : List ServiceDescriptor
  deriving DecidableEq, Repr

def FileDescriptor.message_types (file : FileDescriptor) : List Descriptor :=
  file.messages.map (.message file.info)

/-- `file->package()`, with a dot between two components. -/
def FileInfo.packageText (file : FileInfo) : List Char :=
  ['.'].intercalate (file.package.map Identifier.text)

namespace Descriptor

def file : Descriptor → FileInfo
  | .message file _ => file
  | .nested containing_type _ => containing_type.file

/-- What a qualified name begins with. -/
def qualifier (file : FileInfo) : List Char :=
  if file.packageText = [] then [] else file.packageText ++ [':', ':']

def className : Descriptor → Bool → List Char
  | .message file name, qualified => (if qualified then qualifier file else []) ++ name.text
  | .nested containing_type name, qualified =>
    (if qualified then qualifier containing_type.file else []) ++
      (containing_type.className false ++ '_' :: name.text)

end Descriptor

/-! ## Printing -/

inductive Fragment where
  | text (s : String)
  | name (word : Identifier)
  | typeName (type : Descriptor) (qualified : Bool)
  /-- The name of a class and `Ptr`. -/
  | pointerName (type : Descriptor) (qualified : Bool)
  /-- The line that introduces the pointer alias of a class. -/
  | alias (type : Descriptor)
  deriving DecidableEq, Repr

def Fragment.chars : Fragment → List Char
  | .text s => s.toList
  | .name word => word.text
  | .typeName type qualified => type.className qualified
  | .pointerName type qualified => type.className qualified ++ "Ptr".toList
  | .alias type => "using ".toList ++ type.className false ++ "Ptr = ::std::shared_ptr<".toList ++
    type.className false ++ ">;\n".toList

def kThickSeparator : String :=
  "// ===================================================================\n"

def kThinSeparator : String :=
  "// -------------------------------------------------------------------\n"

namespace ServiceGenerator

open Fragment

inductive StubOrNon where
  | NON_STUB | STUB
  deriving DecidableEq, Repr

inductive RequestOrResponse where
  | REQUEST | RESPONSE
  deriving DecidableEq, Repr

variable (descriptor : ServiceDescriptor)

/-! ### Declarations -/

def methodSignature : StubOrNon → MethodDescriptor → List Fragment
  | .NON_STUB, method =>
    [text "virtual void ", name method.name, text "(const ", pointerName method.input_type true,
      text "& request,\n                     const ", typeName method.output_type true,
      text "* responsePrototype,\n                     const RpcDoneCallback& done);\n"]
  | .STUB, method =>
    [text "using ", name descriptor.name, text "::", name method.name,
      text ";\nvirtual void ", name method.name, text "(const ", typeName method.input_type true,
      text "& request,\n                     const ::std::function<void(const ",
      pointerName method.output_type true, text "&)>& done);\n"]

def generateMethodSignatures (stub_or_non : StubOrNon) : List Fragment :=
  descriptor.methods.flatMap (methodSignature descriptor stub_or_non)

def generateInterface : List Fragment :=
  [text "class ", name descriptor.name,
    text " : public ::starry::Service \x7b\n protected:\n  // 这个类应该被视为抽象接口\n  ",
    name descriptor.name, text "() = default;\n public:\n  virtual ~", name descriptor.name,
    text "();\n", text "\nusing Stub = ", name descriptor.name,
    text "_Stub;\n\nstatic const ::google::protobuf::ServiceDescriptor* descriptor();\n\n"] ++
  generateMethodSignatures descriptor .NON_STUB ++
  [text "\n// 实现Service接口 ----------------------------------------------\n\n",
    text "const ::google::protobuf::ServiceDescriptor* GetDescriptor() override;\n",
    text "void CallMethod(const ::google::protobuf::MethodDescriptor* method,\n",
    text "                const ::google::protobuf::MessagePtr& request,\n",
    text "                const ::google::protobuf::Message* responsePrototype,\n",
    text "                const RpcDoneCallback& done);\n",
    text "const ::google::protobuf::Message& GetRequestPrototype(\n",
    text "  const ::google::protobuf::MethodDescriptor* method) const override;\n",
    text "const ::google::protobuf::Message& GetResponsePrototype(\n",
    text "  const ::google::protobuf::MethodDescriptor* method) const override;\n",
    text "\n private:\n  ", name descriptor.name, text "(const ", name descriptor.name,
    text "&) = delete;\n  ", name descriptor.name, text "& operator=(const ",
    name descriptor.name, text "&) = delete;\n\x7d;\n\n"]

def generateStubDefinition : List Fragment :=
  [text "class ", name descriptor.name, text "_Stub : public ", name descriptor.name,
    text " \x7b\n public:\n", text "explicit ", name descriptor.name,
    text "_Stub(::starry::RpcChannel* channel);\n~", name descriptor.name,
    text "_Stub() override;\n\n",
    text "inline ::starry::RpcChannel* channel() \x7b return channel_; \x7d\n\n// 实现 ",
    name descriptor.name, text " 接口 ------------------------------------------\n\n"] ++
  generateMethodSignatures descriptor .STUB ++
  [text " private:\n  ::starry::RpcChannel* channel_;\n  bool owns_channel_;\n  ",
    name descriptor.name, text "_Stub(const ", name descriptor.name,
    text "_Stub&) = delete;\n  ", name descriptor.name, text "_Stub& operator=(const ",
    name descriptor.name, text "_Stub&) = delete;\n\x7d;\n\n"]

def generateDeclarations : List Fragment :=
  [text "class ", name descriptor.name, text "_Stub;\n\n"] ++ generateInterface descriptor ++
    generateStubDefinition descriptor

/-! ### Implementation -/

def notImplementedMethod (method : MethodDescriptor) : List Fragment :=
  [text "void ", name descriptor.name, text "::", name method.name, text "(const ",
    pointerName method.input_type true, text "&,\n                         const ",
    typeName method.output_type true,
    text "*,\n                       const RpcDoneCallback& done)\n\x7b\n",
    text "  assert(0);\n  done(nullptr);\n\x7d\n\n"]

def generateNotImplementedMethods : List Fragment :=
  descriptor.methods.flatMap (notImplementedMethod descriptor)

/-- A loop over the methods, each with its index. -/
def indexed (emit : MethodDescriptor → Nat → List Fragment) : List Fragment :=
  descriptor.methods.zipIdx.flatMap fun (method, index) => emit method index

def callCase (method : MethodDescriptor) (index : Nat) : List Fragment :=
  [text "    case ", text (toString index), text ":\n      ", name method.name,
    text "(::starry::down_pointer_case<", typeName method.input_type false,
    text ">(request),\n             ::starry::down_case<const ",
    typeName method.output_type false,
    text "*>(responsePrototype),\n             done);\n      break;\n"]

def generateCallMethod : List Fragment :=
  [text "void ", name descriptor.name,
    text "::CallMethod(const ::google::protobuf::MethodDescriptor* method,\n",
    text "                             const ::google::protobuf::MessagePtr& request,\n",
    text "                             const ::google::protobuf::Message* responsePrototype,\n",
    text "                             const ::starry::RpcDoneCallback& done) \x7b\n",
    text "  switch(method->index()) \x7b\n"] ++
  indexed descriptor callCase ++
  [text "    default:\n      assert(false && \"Bad method index\");\n      break;\n  \x7d\n\x7d\n\n"]

def prototypeType : RequestOrResponse → MethodDescriptor → Descriptor
  | .REQUEST, method => method.input_type
  | .RESPONSE, method => method.output_type

def prototypeCase (which : RequestOrResponse) (method : MethodDescriptor) (index : Nat) :
    List Fragment :=
  [text "    case ", text (toString index), text ":\n      return ",
    typeName (prototypeType which method) true, text "::default_instance();\n"]

def generateGetPrototype (which : RequestOrResponse) : List Fragment :=
  [text "const ::google::protobuf::Message& ", name descriptor.name,
    text (match which with
      | .REQUEST => "::GetRequestPrototype(\n"
      | .RESPONSE => "::GetResponsePrototype(\n"),
    text "    const ::google::protobuf::MethodDescriptor* method) const \x7b\n",
    text "  assert(method->service() == descriptor());\n  switch(method->index()) \x7b\n"] ++
  indexed descriptor (prototypeCase which) ++
  [text "    default:\n      assert(false && \"Bad method index\");\n      abort();\n  \x7d\n\x7d\n\n"]

def stubMethod (method : MethodDescriptor) (index : Nat) : List Fragment :=
  [text "void ", name descriptor.name, text "_Stub::", name method.name, text "(const ",
    typeName method.input_type true,
    text "& request,\n                              const ::std::function<void(const ",
    pointerName method.output_type true,
    text "&)>& done) \x7b\n  channel_->CallMethod(descriptor()->method(", text (toString index),
    text "),\n                       request, &", typeName method.output_type true,
    text "::default_instance(), done);\n\x7d\n"]

def generateStubMethods : List Fragment := indexed descriptor (stubMethod descriptor)

def generateImplementation (filename : String) (index : Nat) : List Fragment :=
  let classname := name descriptor.name
  [classname, text "::~", classname, text "() \x7b\x7d\n\n",
    text "static const ::google::protobuf::ServiceDescriptor* ", classname,
    text "_descriptor_ = NULL;\n\nconst ::google::protobuf::ServiceDescriptor* ", classname,
    text "::descriptor() \x7b\n  if (", classname, text "_descriptor_ == NULL)\n    ", classname,
    text "_descriptor_ = ::google::protobuf::DescriptorPool::generated_pool()->FindFileByName(\n",
    text "        \"", text filename, text "\")->service(", text (toString index),
    text ");\n  return ", classname,
    text "_descriptor_;\n\x7d\n\nconst ::google::protobuf::ServiceDescriptor* ", classname,
    text "::GetDescriptor() \x7b\n  return descriptor();\n\x7d\n\n"] ++
  generateNotImplementedMethods descriptor ++ generateCallMethod descriptor ++
  generateGetPrototype descriptor .REQUEST ++ generateGetPrototype descriptor .RESPONSE ++
  [classname, text "_Stub::", classname,
    text "_Stub(::starry::RpcChannel* channel)\n  : channel_(channel), owns_channel_(false) ",
    text "\x7b\x7d\n\n", classname, text "_Stub::~", classname,
    text "_Stub() \x7b\n  if (owns_channel_ && channel_) \x7b\n    delete channel_;\n",
    text "    channel_ = nullptr;\n  \x7d\n\x7d\n\n"] ++
  generateStubMethods descriptor

def genHeader : List Fragment := [text "#include \"service.h\"\n", text "#include <memory.h>\n"]

end ServiceGenerator

/-- What is inserted at the three places, and the name of the files without its ending. -/
structure Insertions where
  cpp_name : List Char
  includes : List Fragment
  declarations : List Fragment
  implementation : List Fragment

namespace CppStarryGenerator

open ServiceGenerator Fragment

def protoBaseName (filename : String) : Except Abort (List Char) := do
  cassert ('.' ∈ filename.toList) .cppServiceH 67
  return (filename.toList.rdropWhile (· ≠ '.')).dropLast

def declarationsOf (descriptor : ServiceDescriptor) : List Fragment :=
  text "\n" :: text kThinSeparator :: text "\n" :: generateDeclarations descriptor

def implementationOf (filename : String) (descriptor : ServiceDescriptor) (index : Nat) :
    List Fragment :=
  text kThickSeparator :: text "\n" ::
    (generateImplementation descriptor filename index ++ [text "\n"])

/-- `Generate`, with the message it leaves in `error` when it returns `false`. -/
def generate (file : FileDescriptor) : Except Abort (Except String Insertions) :=
  if file.info.packageText = [] then .ok (.error "package name is missed.")
  else do
    let cpp_name ← protoBaseName file.info.name
    return .ok
      { cpp_name := cpp_name ++ ".pb".toList
        includes := genHeader
        declarations :=
          [text "// declarations generated by cpp starry plugin.\n", text "\n",
            text kThickSeparator, text "\n"] ++ file.message_types.map Fragment.alias ++
          file.services.flatMap declarationsOf
        implementation := file.services.zipIdx.flatMap fun (service, index) =>
          implementationOf file.info.name service index }

end CppStarryGenerator

end Starry.Source.CppPlugin
