import Starry.Source.RpcService

/-!
# Listing one service and listing all

`listRpc` fills the same two lists in two places. The branch for one service adds the name of
the service to the list of the methods, so its answer has no service name and one method line
too many. `listings_agree_iff` says that the two branches agree on the maps that send no request
through that branch, which are those without a named service.
-/
namespace Starry.Guarantees.RpcListing

open Starry.Source
open Starry.Source.OrderedServices

/-- The method lines of a service, as far as they were asked for. -/
def methodLines (listMethod : Bool) (methods : ServiceMethods) : List String :=
  if listMethod then methods.map methodLine else []

/-- The answer for each registered service is its own part of the answer for all of them. -/
structure ListingsAgree (services : OrderedServices) (listMethod : Bool) : Prop where
  own : ∀ entry ∈ services.entries,
    (services.listRpc ⟨entry.1, listMethod⟩).serviceName = [entry.1] ∧
    (services.listRpc ⟨entry.1, listMethod⟩).methodName = methodLines listMethod entry.2
  serviceNames : services.entries.flatMap
      (fun entry => (services.listRpc ⟨entry.1, listMethod⟩).serviceName) =
    (services.listRpc ⟨"", listMethod⟩).serviceName
  methodNames : services.entries.flatMap
      (fun entry => (services.listRpc ⟨entry.1, listMethod⟩).methodName) =
    (services.listRpc ⟨"", listMethod⟩).methodName

variable {services : OrderedServices} {listMethod : Bool}

/-! ## What the two branches answer -/

/-- The methods of a service are listed behind what is there. -/
theorem addMethodNames_eq (sd : ServiceMethods) (response : ListRpcResponse) :
    addMethodNames sd response =
      { response with methodName := response.methodName ++ sd.map methodLine } := by
  unfold addMethodNames
  induction sd generalizing response with
  | nil => simp
  | cons method rest ih =>
    rw [List.foldl_cons, ih]
    simp [ListRpcResponse.addMethodName]

theorem listEntry_eq (response : ListRpcResponse) (entry : String × ServiceMethods) :
    listEntry listMethod response entry =
      { response with
        serviceName := response.serviceName ++ [entry.1]
        methodName := response.methodName ++ methodLines listMethod entry.2 } := by
  unfold listEntry methodLines
  cases listMethod with
  | false => simp [ListRpcResponse.addServiceName]
  | true => simp [addMethodNames_eq, ListRpcResponse.addServiceName]

theorem listEntries_eq (entries : List (String × ServiceMethods)) (response : ListRpcResponse) :
    entries.foldl (listEntry listMethod) response =
      { response with
        serviceName := response.serviceName ++ entries.map Prod.fst
        methodName := response.methodName ++ entries.flatMap fun entry =>
          methodLines listMethod entry.2 } := by
  induction entries generalizing response with
  | nil => simp
  | cons entry rest ih => simp [ih, listEntry_eq]

theorem listRpc_all : services.listRpc ⟨"", listMethod⟩ =
    ⟨.NO_ERROR, services.entries.map Prod.fst,
      services.entries.flatMap fun entry => methodLines listMethod entry.2⟩ := by
  simp [listRpc, listEntries_eq, ListRpcResponse.new, ListRpcResponse.setError]

/-- A named service that is registered is answered without its name among the services. -/
theorem listRpc_named {name : String} {methods : ServiceMethods} (named : name ≠ "")
    (found : services.find name = some methods) :
    services.listRpc ⟨name, listMethod⟩ =
      ⟨.NO_ERROR, [], name :: methodLines listMethod methods⟩ := by
  unfold listRpc methodLines
  dsimp only
  rw [if_pos named, found]
  cases listMethod with
  | false => rfl
  | true =>
    dsimp only
    rw [if_pos rfl, addMethodNames_eq]
    rfl

/-- A registered service is found by its name. -/
theorem find_isSome {entry : String × ServiceMethods} (registered : entry ∈ services.entries) :
    ∃ methods, services.find entry.1 = some methods := by
  cases found : services.find entry.1 with
  | some methods => exact ⟨methods, rfl⟩
  | none =>
    have absent := List.lookup_eq_none_iff.mp found entry registered
    simp at absent

/-! ## When they agree -/

/-- Without a named service there is at most one, which has no name. -/
theorem entries_of_unnamed (unnamed : ∀ entry ∈ services.entries, entry.1 = "") :
    services.entries = [] ∨ ∃ methods, services.entries = [("", methods)] := by
  have ordered := services.ordered
  match entries : services.entries with
  | [] => exact .inl rfl
  | [(name, methods)] =>
    have blank : name = "" := unnamed (name, methods) (by simp [entries])
    exact .inr ⟨methods, by rw [blank]⟩
  | first :: second :: rest =>
    have same : first.1 = second.1 := by
      rw [unnamed first (by simp [entries]), unnamed second (by simp [entries])]
    rw [entries, List.pairwise_cons] at ordered
    have below := ordered.1 second (by simp)
    rw [same] at below
    exact absurd below (List.lt_irrefl _)

/-- The filtered answers agree with the full one exactly on the maps without a named service. -/
theorem listings_agree_iff (services : OrderedServices) (listMethod : Bool) :
    ListingsAgree services listMethod ↔ ∀ entry ∈ services.entries, entry.1 = "" := by
  constructor
  · intro agree entry registered
    by_contra named
    obtain ⟨methods, found⟩ := find_isSome registered
    have own := (agree.own entry registered).1
    rw [listRpc_named named found] at own
    cases own
  · intro unnamed
    rcases entries_of_unnamed unnamed with none | ⟨methods, single⟩
    · constructor <;> simp [listRpc_all, none]
    · constructor <;> simp [listRpc_all, single]

/-- The meta service alone. -/
def metaServiceOnly : OrderedServices where
  entries := [("starry.RpcService",
    [⟨"starry.RpcService.ListRpc", "starry.ListRpcRequest", "starry.ListRpcResponse"⟩])]
  ordered := by simp

theorem service_name_among_methods :
    (metaServiceOnly.listRpc ⟨"starry.RpcService", false⟩).methodName = ["starry.RpcService"] ∧
    (metaServiceOnly.listRpc ⟨"", false⟩).serviceName = ["starry.RpcService"] ∧
    ¬ListingsAgree metaServiceOnly false := by
  refine ⟨by decide, by decide, fun agree => ?_⟩
  have own := (agree.own _ (List.mem_singleton_self _)).1
  revert own
  decide

end Starry.Guarantees.RpcListing
