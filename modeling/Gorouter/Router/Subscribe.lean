import Gorouter.Router.RegistryMessage
import Gorouter.Registry.Registry

/-!
# Router — The registry's subscriptions

`subscribeRegistry` installs one callback per subject. It unmarshals the
frame into a zero `registryMessage`, logs the error if there is one, and then
calls the success callback with the message in every case. `SubscribeRegister`
and `SubscribeUnregister` pass a callback that calls `Register` (or
`Unregister`) once per decoded uri, with the endpoint the message describes.

So an error does not stop the calls. Whatever `Unmarshal` returns, every uri
it decoded ends registered with the message's endpoint
(`SubscribeRegister_registers_decoded_uris`), or with that endpoint removed
(`SubscribeUnregister_unregisters_decoded_uris`). A frame whose one fault is a
mistyped field decodes its uris all the same (`Unmarshal_Uris_other_member`),
and the endpoint it registers carries the mistyped field's zero value
(`mistyped_port_still_registers`). Only the frames that fail before any
member, because they are not JSON or not an object, make no call.
-/

namespace Gorouter.Router

open Gorouter.Route Gorouter.Registry

/-! ## The callbacks -/

/-- Go's `subscribeRegistry` callback on one frame. The error,
`(Unmarshal payload).2`, is only logged: the success callback gets the
message whatever it is. -/
def subscribeRegistry (successCallback : registryMessage → RouteRegistry → RouteRegistry)
    (payload : Option JsonValue) (r : RouteRegistry) : RouteRegistry :=
  successCallback (Unmarshal payload).1 r

/-- Go's `SubscribeRegister` callback, handling its frame at `now`. -/
def SubscribeRegister (now : Int) : Option JsonValue → RouteRegistry → RouteRegistry :=
  subscribeRegistry fun msg r =>
    msg.Uris.foldl (fun r uri => r.Register uri.toList msg.makeEndpoint now) r

/-- Go's `SubscribeUnregister` callback, handling its frame at `now`. -/
def SubscribeUnregister (now : Int) : Option JsonValue → RouteRegistry → RouteRegistry :=
  subscribeRegistry fun msg r =>
    msg.Uris.foldl (fun r uri => r.Unregister uri.toList msg.makeEndpoint now) r

/-! ## Where an endpoint is -/

/-- The pool at `u`'s route key holds an endpoint of `e`'s identity. -/
def HasEndpoint (r : RouteRegistry) (u : Uri) (e : Endpoint) : Prop :=
  ∃ pool, r.byURI.Find u.RouteKey = some pool ∧ e.identity ∈ pool.endpointList.map Endpoint.identity

theorem identity_mem_Put {p : EndpointPool} {x : Endpoint}
    (h : x.identity ∈ p.endpointList.map Endpoint.identity) (e : Endpoint) (now : Int) :
    x.identity ∈ (p.Put e now).1.endpointList.map Endpoint.identity := by
  simp only [EndpointPool.endpointList, List.map_map, EndpointPool.Put_endpoints] at h ⊢
  change x.identity ∈ identities _ at h ⊢
  rw [identities_putElems]
  split <;> simp [h]

theorem identities_Remove (p : EndpointPool) (e : Endpoint) :
    (p.Remove e).1.endpointList.map Endpoint.identity =
      (p.endpointList.map Endpoint.identity).filter (· ≠ e.identity) := by
  simp [EndpointPool.endpointList, List.filter_map, Function.comp_def]

/-- A `Register` keeps every endpoint where it was. -/
theorem HasEndpoint.Register {r : RouteRegistry} {u : Uri} {e : Endpoint} (h : HasEndpoint r u e)
    (uri : Uri) (e' : Endpoint) (now : Int) : HasEndpoint (r.Register uri e' now) u e := by
  obtain ⟨pool, hp, he⟩ := h
  unfold RouteRegistry.Register
  split_ifs
  · rw [HasEndpoint, RouteRegistry.Find_register]
    split_ifs with hk
    · rw [← hk, hp, Option.getD_some]
      exact ⟨_, rfl, identity_mem_Put he _ now⟩
    · exact ⟨pool, hp, he⟩
  · exact ⟨pool, hp, he⟩

/-- A `Register` of an endpoint of the shard puts it at its uri. -/
theorem HasEndpoint_Register (r : RouteRegistry) (uri : Uri) {e : Endpoint} (now : Int)
    (hs : r.endpointInRouterShard e = true) : HasEndpoint (r.Register uri e now) uri e := by
  rw [HasEndpoint, RouteRegistry.Register, if_pos hs, RouteRegistry.Find_register, if_pos rfl]
  refine ⟨_, rfl, ?_⟩
  rw [← r.identity_clampStaleThreshold e, EndpointPool.endpointList, List.map_map]
  exact List.mem_map_of_mem _ (mem_putElems _ now _)

/-- An `Unregister` puts no endpoint anywhere. -/
theorem not_HasEndpoint_Unregister {r : RouteRegistry} {u : Uri} {e : Endpoint}
    (h : ¬HasEndpoint r u e) (uri : Uri) (e' : Endpoint) (now : Int) :
    ¬HasEndpoint (r.Unregister uri e' now) u e := by
  rintro ⟨pool, hp, he⟩
  unfold RouteRegistry.Unregister at hp
  split_ifs at hp
  · rw [RouteRegistry.Find_unregister] at hp
    split_ifs at hp with hk
    · obtain ⟨old, hold, hpool⟩ := Option.bind_eq_some.mp hp
      split_ifs at hpool
      cases hpool
      rw [identities_Remove] at he
      exact h ⟨old, hk ▸ hold, (List.mem_filter.mp he).1⟩
    · exact h ⟨pool, hp, he⟩
  · exact h ⟨pool, hp, he⟩

/-- An `Unregister` of an endpoint of the shard takes it from its uri. -/
theorem not_HasEndpoint_Unregister_self (r : RouteRegistry) (uri : Uri) {e : Endpoint} (now : Int)
    (hs : r.endpointInRouterShard e = true) : ¬HasEndpoint (r.Unregister uri e now) uri e := by
  rintro ⟨pool, hp, he⟩
  rw [RouteRegistry.Unregister, if_pos hs, RouteRegistry.Find_unregister, if_pos rfl] at hp
  obtain ⟨old, -, hpool⟩ := Option.bind_eq_some.mp hp
  split_ifs at hpool
  cases hpool
  rw [identities_Remove] at he
  simp at he

/-! ## One frame -/

section Frame

variable (e : Endpoint) (now : Int)

theorem HasEndpoint.foldl_Register {u : Uri} {x : Endpoint} :
    ∀ (uris : List String) {r : RouteRegistry}, HasEndpoint r u x →
      HasEndpoint (uris.foldl (fun r uri => r.Register uri.toList e now) r) u x
  | [], _, h => h
  | _ :: rest, _, h => HasEndpoint.foldl_Register rest (h.Register _ _ _)

theorem not_HasEndpoint_foldl_Unregister {u : Uri} {x : Endpoint} :
    ∀ (uris : List String) {r : RouteRegistry}, ¬HasEndpoint r u x →
      ¬HasEndpoint (uris.foldl (fun r uri => r.Unregister uri.toList e now) r) u x
  | [], _, h => h
  | _ :: rest, _, h => not_HasEndpoint_foldl_Unregister rest (not_HasEndpoint_Unregister h _ _ _)

theorem HasEndpoint_foldl_Register :
    ∀ (uris : List String) {r : RouteRegistry}, r.endpointInRouterShard e = true →
      ∀ uri ∈ uris, HasEndpoint (uris.foldl (fun r uri => r.Register uri.toList e now) r) uri.toList e
  | [], _, _, _, h => absurd h (List.not_mem_nil _)
  | u :: rest, r, hs, uri, hmem => by
    rw [List.foldl_cons]
    rcases List.mem_cons.mp hmem with rfl | hmem
    · exact (HasEndpoint_Register r _ now hs).foldl_Register e now rest
    · refine HasEndpoint_foldl_Register rest ?_ uri hmem
      rwa [RouteRegistry.endpointInRouterShard_congr (RouteRegistry.config_Register r _ e now)]

theorem not_HasEndpoint_foldl_Unregister_self :
    ∀ (uris : List String) {r : RouteRegistry}, r.endpointInRouterShard e = true →
      ∀ uri ∈ uris, ¬HasEndpoint (uris.foldl (fun r uri => r.Unregister uri.toList e now) r) uri.toList e
  | [], _, _, _, h => absurd h (List.not_mem_nil _)
  | u :: rest, r, hs, uri, hmem => by
    rw [List.foldl_cons]
    rcases List.mem_cons.mp hmem with rfl | hmem
    · exact not_HasEndpoint_foldl_Unregister e now rest (not_HasEndpoint_Unregister_self r _ now hs)
    · refine not_HasEndpoint_foldl_Unregister_self rest ?_ uri hmem
      rwa [RouteRegistry.endpointInRouterShard_congr (RouteRegistry.config_Unregister r _ e now)]

end Frame

theorem SubscribeRegister_registers_decoded_uris (r : RouteRegistry) (payload : Option JsonValue)
    (now : Int) (hs : r.endpointInRouterShard (Unmarshal payload).1.makeEndpoint = true) :
    ∀ uri ∈ (Unmarshal payload).1.Uris,
      HasEndpoint (SubscribeRegister now payload r) uri.toList (Unmarshal payload).1.makeEndpoint :=
  HasEndpoint_foldl_Register _ now _ hs

theorem SubscribeUnregister_unregisters_decoded_uris (r : RouteRegistry) (payload : Option JsonValue)
    (now : Int) (hs : r.endpointInRouterShard (Unmarshal payload).1.makeEndpoint = true) :
    ∀ uri ∈ (Unmarshal payload).1.Uris,
      ¬HasEndpoint (SubscribeUnregister now payload r) uri.toList (Unmarshal payload).1.makeEndpoint :=
  not_HasEndpoint_foldl_Unregister_self _ now _ hs

/-! ## A frame with a mistyped port -/

/-- A registration frame for `a.com` whose port is a JSON string. -/
def portAsString : Option JsonValue :=
  some (.object [("host", .string "10.0.0.1"), ("port", .string "8080"),
    ("uris", .array [.string "a.com"])])

theorem SubscribeRegister_registers_decoded_uris_sample :
    (NewRouteRegistry (sampleConfig false 0)).endpointInRouterShard
        (Unmarshal portAsString).1.makeEndpoint = true ∧
    ∀ uri ∈ (Unmarshal portAsString).1.Uris,
      HasEndpoint (SubscribeRegister 0 portAsString (NewRouteRegistry (sampleConfig false 0)))
        uri.toList (Unmarshal portAsString).1.makeEndpoint := by
  have hs : (NewRouteRegistry (sampleConfig false 0)).endpointInRouterShard
      (Unmarshal portAsString).1.makeEndpoint = true := by decide
  exact ⟨hs, SubscribeRegister_registers_decoded_uris _ portAsString 0 hs⟩

theorem SubscribeUnregister_unregisters_decoded_uris_sample :
    (SubscribeRegister 0 portAsString (NewRouteRegistry (sampleConfig false 0))).endpointInRouterShard
        (Unmarshal portAsString).1.makeEndpoint = true ∧
    ∀ uri ∈ (Unmarshal portAsString).1.Uris,
      ¬HasEndpoint (SubscribeUnregister 1 portAsString
          (SubscribeRegister 0 portAsString (NewRouteRegistry (sampleConfig false 0))))
        uri.toList (Unmarshal portAsString).1.makeEndpoint := by
  have hs : (SubscribeRegister 0 portAsString (NewRouteRegistry (sampleConfig false 0))).endpointInRouterShard
      (Unmarshal portAsString).1.makeEndpoint = true := by decide
  exact ⟨hs, SubscribeUnregister_unregisters_decoded_uris _ portAsString 1 hs⟩

theorem mistyped_port_still_registers :
    (Unmarshal portAsString).2 = some (.UnmarshalTypeError "string" "port" "uint16") ∧
    (NewRouteRegistry (sampleConfig false 0)).byURI.Find "a.com/".toList = none ∧
    ((SubscribeRegister 0 portAsString (NewRouteRegistry (sampleConfig false 0))).byURI.Find
        "a.com/".toList).map (·.endpointList.map (·.canonicalAddr)) = some ["10.0.0.1:0"] := by
  decide

end Gorouter.Router
