import Starry.Source.RpcServer

/-!
# Generated classes

What `net/rpc/tool/cpp_service.cpp` generates for a service of a `.proto` file: a class with a
virtual function for each method, whose `CallMethod` switches on the index of the method, and a
stub class with a function for each method, which names the method by its index in the
descriptor. A class derived from the first one overrides its virtual functions; what such a
function may answer is a relation here, since it may look at more than its request.

A line of a generated file is the line that prints it. The assertion of `GetRequestPrototype`
that a method belongs to the service holds for a method that `FindMethodByName` found, and the
two downcasts in `CallMethod` are to the types of the prototypes.
-/
namespace Starry.Source

open Starry.Foundation

deriving instance DecidableEq for Prototypes
deriving instance DecidableEq for MethodDescriptor

structure ServiceDescriptor (Message : Type) where
  fullName : String
  methods : List (MethodDescriptor Message)
  /-- `protoc` accepts no two methods of one name. -/
  distinct : (methods.map MethodDescriptor.name).Nodup
  deriving DecidableEq

/-- An object of a class derived from a generated one. -/
structure ServiceImpl (Message : Type) where
  descriptor : ServiceDescriptor Message
  /-- The virtual functions that the class overrides, by name, with the responses that each may
  give to `done` for a request. -/
  overrides : List (String × (Message → Message → Bool))

/-- A call of the stub class of this service: the function of this index. -/
structure StubCall (Message : Type) where
  stub : ServiceDescriptor Message
  index : Nat
  request : Message

namespace ServiceDescriptor

variable {Message : Type} (d : ServiceDescriptor Message)

/-- The index of the method found. -/
def FindMethodByName (name : String) : Option Nat := d.methods.findIdx? (·.name == name)

/-- `GetRequestPrototype` and `GetResponsePrototype` of the method found. -/
def service : Service Message := fun name =>
  (d.FindMethodByName name).bind fun index => (d.methods[index]?).map (·.prototypes)

variable {d}

/-- The name of a method leads back to its index. -/
theorem FindMethodByName_name {index : Nat} {method : MethodDescriptor Message}
    (listed : d.methods[index]? = some method) : d.FindMethodByName method.name = some index := by
  obtain ⟨inside, rfl⟩ := List.getElem?_eq_some_iff.mp listed
  refine List.findIdx?_eq_some_iff_getElem.mpr ⟨inside, by simp, fun j before => ?_⟩
  have last : index < (d.methods.map MethodDescriptor.name).length := by simpa using inside
  have earlier : j < (d.methods.map MethodDescriptor.name).length := Nat.lt_trans before last
  have apart : ¬ (d.methods.map MethodDescriptor.name)[j] =
      (d.methods.map MethodDescriptor.name)[index] := by
    rw [d.distinct.getElem_inj_iff]
    exact Nat.ne_of_lt before
  simpa using apart

theorem service_eq_some {name : String} {prototypes : Prototypes Message}
    (known : d.service name = some prototypes) : ∃ index method,
      d.FindMethodByName name = some index ∧ d.methods[index]? = some method ∧
      method.prototypes = prototypes := by
  obtain ⟨index, found, rest⟩ := Option.bind_eq_some_iff.mp known
  obtain ⟨method, listed, same⟩ := Option.map_eq_some_iff.mp rest
  exact ⟨index, method, found, listed, same⟩

end ServiceDescriptor

namespace ServiceImpl

variable {Message : Type}

/-- `$classname$::CallMethod`, up to the function that it calls. -/
def CallMethod (o : ServiceImpl Message) (index : Nat) :
    Except Abort (Message → Message → Bool) :=
  match o.descriptor.methods[index]? with
  | none => .error (.assertion .generatedPbCc 260)
  | some method =>
    match o.overrides.lookup method.name with
    | none => .error (.assertion .generatedPbCc 220)
    | some function => .ok function

/-- `CallMethod` enters the function that overrides the method's. -/
theorem CallMethod_ok {o : ServiceImpl Message} {index : Nat} {function : Message → Message → Bool}
    (entered : o.CallMethod index = .ok function) : ∃ method,
      o.descriptor.methods[index]? = some method ∧
      o.overrides.lookup method.name = some function := by
  unfold CallMethod at entered
  split at entered
  · cases entered
  next method listed =>
    split at entered
    · cases entered
    next overridden =>
      cases entered
      exact ⟨method, listed, overridden⟩

end ServiceImpl

/-- `RpcServer::services_`, filled by `registerService`. -/
abbrev Registered (Message : Type) := String → Option (ServiceImpl Message)

namespace Registered

variable {Message : Type} (services : Registered Message)

def serviceMap : ServiceMap Message := fun name =>
  (services name).map fun o => some o.descriptor.service

/-- The function that `callServiceMethod` enters through `CallMethod` for an invocation. -/
def entered (invocation : Invocation Message) : Except Abort (Message → Message → Bool) :=
  match services invocation.service with
  | none => .ok fun _ _ => false
  | some o =>
    match o.descriptor.FindMethodByName invocation.method with
    | none => .ok fun _ _ => false
    | some index => o.CallMethod index

/-- The function that serves the invocation may give this response to `done`. -/
def mayAnswer (invocation : Invocation Message) (response : Message) : Bool :=
  match services.entered invocation with
  | .ok function => function invocation.request response
  | .error _ => false

variable {services}

theorem mayAnswer_iff {invocation : Invocation Message} {response : Message} :
    services.mayAnswer invocation response = true ↔ ∃ o index method function,
      services invocation.service = some o ∧
      o.descriptor.FindMethodByName invocation.method = some index ∧
      o.descriptor.methods[index]? = some method ∧
      o.overrides.lookup method.name = some function ∧
      function invocation.request response = true := by
  constructor
  · intro answers
    unfold mayAnswer at answers
    split at answers
    next function entry =>
      unfold entered at entry
      split at entry
      · cases entry
        cases answers
      next o registered =>
        split at entry
        · cases entry
          cases answers
        next index found =>
          obtain ⟨method, listed, overridden⟩ := ServiceImpl.CallMethod_ok entry
          exact ⟨o, index, method, function, registered, found, listed, overridden, answers⟩
    next => cases answers
  · rintro ⟨o, index, method, function, registered, found, listed, overridden, answers⟩
    simp [mayAnswer, entered, registered, found, ServiceImpl.CallMethod, listed, overridden, answers]

end Registered

end Starry.Source
