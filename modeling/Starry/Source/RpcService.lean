import Mathlib.Data.List.Basic

/-!
# `starry::RpcServiceImpl::listRpc`

`net/rpc/rpc_service.cpp` over the messages of `net/rpc/protos/rpcservice.proto`. Of a service
there is left what `listRpc` reads of its descriptor: the full names of its methods and of their
input and output types. A `ServiceMap` is a `std::map`, so it is listed in the order of its keys,
each key once. The answer is what `done` is called with.
-/
namespace Starry.Source

/-- `ErrorCode` of `rpc.proto`. -/
inductive RpcErrorCode where
  | NO_ERROR | WRONG_PROTO | NO_SERVICE | NO_METHOD | INVALID_REQUEST | INVALID_RESPONSE | TIMEOUT
  deriving DecidableEq, Repr

structure MethodNames where
  fullName : String
  inputType : String
  outputType : String
  deriving DecidableEq, Repr

/-- The methods of a `ServiceDescriptor`, in the order of the `.proto` file. -/
abbrev ServiceMethods := List MethodNames

/-- The entries of a `ServiceMap`, in its order. -/
structure OrderedServices where
  entries : List (String × ServiceMethods)
  ordered : entries.Pairwise fun first second => first.1.toList < second.1.toList

def OrderedServices.find (services : OrderedServices) (name : String) : Option ServiceMethods :=
  services.entries.lookup name

structure ListRpcRequest where
  serviceName : String
  listMethod : Bool
  deriving DecidableEq, Repr

structure ListRpcResponse where
  error : RpcErrorCode
  serviceName : List String
  methodName : List String
  deriving DecidableEq, Repr

namespace ListRpcResponse

/-- `new ListRpcResponse()`: the fields have their proto3 defaults. -/
def new : ListRpcResponse := ⟨.NO_ERROR, [], []⟩

def setError (response : ListRpcResponse) (error : RpcErrorCode) : ListRpcResponse :=
  { response with error := error }

def addServiceName (response : ListRpcResponse) (name : String) : ListRpcResponse :=
  { response with serviceName := response.serviceName ++ [name] }

def addMethodName (response : ListRpcResponse) (name : String) : ListRpcResponse :=
  { response with methodName := response.methodName ++ [name] }

end ListRpcResponse

/-- The line that `addMethodNames` adds for a method. -/
def methodLine (method : MethodNames) : String :=
  method.fullName ++ " (" ++ method.inputType ++ ") : " ++ method.outputType

def addMethodNames (sd : ServiceMethods) (response : ListRpcResponse) : ListRpcResponse :=
  sd.foldl (fun response method => response.addMethodName (methodLine method)) response

namespace OrderedServices

/-- The body of the loop over `services_`. -/
def listEntry (listMethod : Bool) (response : ListRpcResponse) (entry : String × ServiceMethods) :
    ListRpcResponse :=
  let named := response.addServiceName entry.1
  if listMethod then addMethodNames entry.2 named else named

def listRpc (services : OrderedServices) (request : ListRpcRequest) : ListRpcResponse :=
  let response := ListRpcResponse.new
  if request.serviceName ≠ "" then
    match services.find request.serviceName with
    | some methods =>
      -- the key goes to `add_method_name`, not to `add_service_name`
      let named := (response.setError .NO_ERROR).addMethodName request.serviceName
      if request.listMethod then addMethodNames methods named else named
    | none => response.setError .NO_METHOD
  else services.entries.foldl (listEntry request.listMethod) (response.setError .NO_ERROR)

end OrderedServices

end Starry.Source
