import Gorouter.Registry.Serializable
import Gorouter.Registry.Prune

/-!
# Registry — Every interleaving is a sequential run that may drop puts

`register_lost_to_writer` shows a schedule whose outcome no sequential order
of its calls explains. Dropping registrations is the only way a schedule can
depart from a sequential run. Each step has one linearization point or none,
and `RegistrySys.pointOf` names it:
- a put through the pointer to the pool at the key is its call's `Register`;
- a put through a pointer to a pool no route reaches is nothing: this is the
  lost registration;
- an `Unregister` or a tick that gets the write lock is itself, and one that
  waits for it is nothing;
- every other lock step of a call is nothing.

`RegistrySys.history` collects the points as the schedule runs. At every trie
path the interleaved registry holds the slots that running the history one
call after another gives, and it is in the same pruning state
(`interleaving_linearizable`).

Only the slots are compared. The empty pools, a pool's options and pointer,
and the time of last update can differ, since inserts and lost puts write
them. Of a pool, an `Unregister` and a tick read the slots, and the update
time only to decide whether an empty pool stays, which changes no slot. So
the simulation relation `Linear` keeps the slots, the pruning state, the
configuration and the shard checks of the calls in flight.
-/

namespace Gorouter.Registry

open Gorouter.Route Gorouter.Container Gorouter.Container.Trie

/-! ## What the writers do to the slots -/

/-- `unregister` filters the endpoint out of the slots at the key; an empty
pool it removes had none left. -/
theorem endpointsAt_unregister (r : RouteRegistry) (uri : Uri) (e : Endpoint) (now : Int) (P : List Seg) :
    endpointsAt (r.unregister uri e now) P =
      if P = segments uri.RouteKey then (endpointsAt r P).filter (·.endpoint.identity ≠ e.identity)
      else endpointsAt r P := by
  unfold endpointsAt
  rw [RouteRegistry.findPool_unregister]
  split_ifs with hP
  · subst hP
    rw [← Find]
    cases r.byURI.Find uri.RouteKey with
    | none => rfl
    | some pool =>
      rw [Option.some_bind]
      split_ifs with hrm
      · exact ((EndpointPool.IsEmpty_iff _).mp hrm.1).symm
      · rfl
  · rfl

theorem endpointsAt_Unregister (r : RouteRegistry) (uri : Uri) (e : Endpoint) (now : Int) (P : List Seg) :
    endpointsAt (r.Unregister uri e now) P =
      if r.endpointInRouterShard e = true ∧ P = segments uri.RouteKey then
        (endpointsAt r P).filter (·.endpoint.identity ≠ e.identity)
      else endpointsAt r P := by
  unfold RouteRegistry.Unregister
  by_cases hs : r.endpointInRouterShard e = true
  · rw [if_pos hs, endpointsAt_unregister]
    simp only [hs, true_and]
  · rw [if_neg hs, if_neg (not_and_of_not_left _ hs)]

theorem endpointsAt_freshenRoutes (r : RouteRegistry) (now : Int) (P : List Seg) :
    endpointsAt (r.freshenRoutes now) P = (endpointsAt r P).map fun x => { x with updatedAt := now } := by
  unfold endpointsAt
  rw [RouteRegistry.findPool_freshenRoutes]
  cases r.byURI.findPool P <;> rfl

/-- A tick that is not suspended keeps the fresh slots, freshened first when
the last tick found the source disconnected. A pool the walk removes had no
fresh slot. -/
theorem endpointsAt_pruneStaleDroplets (r : RouteRegistry) (now : Int) (P : List Seg) :
    endpointsAt (r.pruneStaleDroplets false now) P =
      (if r.pruningStatus = .DISCONNECTED then (endpointsAt r P).map fun x => { x with updatedAt := now }
        else endpointsAt r P).filter fun x => !x.isStale now := by
  have htick : endpointsAt (r.tickStart now) P = if r.pruningStatus = .DISCONNECTED then
      (endpointsAt r P).map fun x => { x with updatedAt := now } else endpointsAt r P := by
    unfold RouteRegistry.tickStart
    split_ifs
    exacts [endpointsAt_freshenRoutes r now P, rfl]
  rw [← htick]
  unfold endpointsAt
  rw [RouteRegistry.byURI_pruneStaleDroplets]
  rcases findPool_walkRoot (fun pool => (pool.PruneEndpoints now).1) (r.emptyPoolRemovable · now)
    (r.tickStart now).byURI_wf P with hw | ⟨hw, hempty⟩ <;> rw [hw]
  · cases (r.tickStart now).byURI.findPool P <;> rfl
  · cases hq : (r.tickStart now).byURI.findPool P with
    | none => rfl
    | some q => exact ((EndpointPool.IsEmpty_iff _).mp (hempty q hq)).symm

/-- A put through a pointer to a pool no route reaches changes no slot. -/
theorem endpointsAt_putThrough_of_ne {r : RouteRegistry} {routekey : Uri} {n : Nat}
    (h : poolIdAt r routekey ≠ some n) (e : Endpoint) (now : Int) (P : List Seg) :
    endpointsAt (r.putThrough routekey n e now) P = endpointsAt r P := by
  unfold RouteRegistry.putThrough
  split
  · rename_i pool hf
    split_ifs with hid
    · exact (h (by rw [poolIdAt, hf, Option.map_some', hid])).elim
    · rfl
  · rfl

/-! ## The linearization points of a schedule -/

/-- The sequential call a step completes: a put that lands is its call's
`Register`, a writer that gets the lock is itself, and anything else is
nothing. -/
def RegistrySys.pointOf (s : RegistrySys) : Event → List Call
  | .register i =>
    match s.calls[i]? with
    | some c =>
      match c.pc with
      | .holding n =>
        if poolIdAt s.reg c.uri.RouteKey = some n then [.Register c.uri c.endpoint c.now] else []
      | _ => []
    | none => []
  | .Unregister uri e now => if s.readLocked then [] else [.Unregister uri e now]
  | .prune suspendPruning now => if s.readLocked then [] else [.prune suspendPruning now]

/-- The sequential history of a schedule: its linearization points, in order. -/
def RegistrySys.history (s : RegistrySys) : List Event → List Call
  | [] => []
  | ev :: evs => s.pointOf ev ++ (s.step ev).history evs

/-- A lock step that is not a put leaves the registry, or inserts a pool. -/
theorem RegistrySys.reg_step_of_not_holding {s : RegistrySys} {i : Nat} {c : RegisterCall}
    (hc : s.calls[i]? = some c) (hpc : ∀ n, c.pc ≠ .holding n) :
    (s.step (.register i)).reg = s.reg ∨
      (s.step (.register i)).reg = (s.reg.insertRouteKey c.uri.RouteKey c.uri c.now).1 := by
  rcases s.step_register_cases i with hs | ⟨c', r', pc, hc', hn, hs⟩ <;> rw [hs]
  · exact .inl rfl
  obtain rfl : c = c' := Option.some.inj (hc.symm.trans hc')
  rcases (RegisterCall.next_cases_checked hn).2 with rfl | rfl | ⟨n, hn', -⟩
  · exact .inl rfl
  · exact .inr rfl
  · exact absurd hn' (hpc n)

/-! ## The simulation -/

/-- An interleaved state and a sequential registry that agree on the slots and
on what the next tick and the next shard check read. -/
structure Linear (s : RegistrySys) (r : RouteRegistry) : Prop where
  config : s.reg.config = r.config
  pruningStatus : s.reg.pruningStatus = r.pruningStatus
  slots : ∀ P, endpointsAt s.reg P = endpointsAt r P
  checked : ∀ c ∈ s.calls, c.pc.checked = true → s.reg.endpointInRouterShard c.endpoint = true

theorem Linear.init (r : RouteRegistry) (calls : List RegisterCall) (hstart : ∀ c ∈ calls, c.pc = .start) :
    Linear { reg := r, calls := calls } r :=
  ⟨rfl, rfl, fun _ => rfl, fun c hc hck => by rw [hstart c hc] at hck; cases hck⟩

section Step

variable {s : RegistrySys} {r : RouteRegistry}

/-- The relation after a step, from the pruning state and the slots; the
configuration and the shard checks follow from the step alone. -/
theorem Linear.next (h : Linear s r) (ev : Event) {r' : RouteRegistry} (hc : r'.config = r.config)
    (hp : (s.step ev).reg.pruningStatus = r'.pruningStatus)
    (hs : ∀ P, endpointsAt (s.step ev).reg P = endpointsAt r' P) : Linear (s.step ev) r' :=
  ⟨by rw [RegistrySys.config_step, hc, h.config], hp, hs, RegistrySys.checked_step h.checked ev⟩

/-- A put: one that lands changes the slots as the sequential `Register` does,
and one that is lost changes none. -/
theorem Linear.put (h : Linear s r) {i : Nat} {c : RegisterCall} (hc : s.calls[i]? = some c) {n : Nat}
    (hpc : c.pc = .holding n) : Linear (s.step (.register i)) (r.run (s.pointOf (.register i))) := by
  have hstep : (s.step (.register i)).reg = s.reg.putThrough c.uri.RouteKey n c.endpoint c.now := by
    rw [RegistrySys.step_register_of_next hc (s.reg.putThrough c.uri.RouteKey n c.endpoint c.now) .done
      (by simp [RegisterCall.next, hpc])]
  by_cases hl : poolIdAt s.reg c.uri.RouteKey = some n
  · have hs₀ : r.endpointInRouterShard c.endpoint = true := by
      rw [← RouteRegistry.endpointInRouterShard_congr h.config]
      exact h.checked c (List.getElem?_mem hc) (by rw [hpc]; rfl)
    have hpt : s.pointOf (.register i) = [.Register c.uri c.endpoint c.now] := by
      simp only [RegistrySys.pointOf, hc, hpc, hl, if_true]
    rw [hpt]
    refine h.next _ (by simp) ?_ fun P => ?_ <;>
      simp only [hstep, RouteRegistry.run_cons, RouteRegistry.run_nil, RouteRegistry.step]
    · simp [h.pruningStatus]
    · rw [endpointsAt_putThrough hl, endpointsAt_Register hs₀, h.slots P,
        RouteRegistry.clampStaleThreshold_congr h.config]
  · have hpt : s.pointOf (.register i) = [] := by simp only [RegistrySys.pointOf, hc, hpc, hl, if_false]
    rw [hpt, RouteRegistry.run_nil]
    exact h.next _ rfl (by simp [hstep, h.pruningStatus]) fun P => by
      rw [hstep, endpointsAt_putThrough_of_ne hl, h.slots P]

/-- Any other lock step of a call changes no slot and is no point. -/
theorem Linear.no_put (h : Linear s r) {i : Nat} {c : RegisterCall} (hc : s.calls[i]? = some c)
    (hpc : ∀ n, c.pc ≠ .holding n) : Linear (s.step (.register i)) (r.run (s.pointOf (.register i))) := by
  have hpt : s.pointOf (.register i) = [] := by simp only [RegistrySys.pointOf, hc]
  obtain ⟨hp, hsl⟩ : (s.step (.register i)).reg.pruningStatus = s.reg.pruningStatus ∧
      ∀ P, endpointsAt (s.step (.register i)).reg P = endpointsAt s.reg P := by
    rcases RegistrySys.reg_step_of_not_holding hc hpc with hs | hs <;> rw [hs]
    · exact ⟨rfl, fun _ => rfl⟩
    · exact ⟨by simp, endpointsAt_insertRouteKey _ _ _ _⟩
  rw [hpt]
  exact h.next _ rfl (hp.trans h.pruningStatus) fun P => (hsl P).trans (h.slots P)

theorem Linear.register (h : Linear s r) (i : Nat) :
    Linear (s.step (.register i)) (r.run (s.pointOf (.register i))) := by
  cases hc : s.calls[i]? with
  | none =>
    have hs : s.step (.register i) = s := by simp only [RegistrySys.step, hc]
    have hpt : s.pointOf (.register i) = [] := by simp only [RegistrySys.pointOf, hc]
    rw [hs, hpt]
    exact h
  | some c =>
    by_cases hh : ∃ n, c.pc = .holding n
    · obtain ⟨n, hpc⟩ := hh
      exact h.put hc hpc
    · exact h.no_put hc fun n hn => hh ⟨n, hn⟩

/-- An `Unregister`: both sides run it, or, while a call holds the read lock,
neither does. -/
theorem Linear.Unregister (h : Linear s r) (uri : Uri) (e : Endpoint) (now : Int) :
    Linear (s.step (.Unregister uri e now)) (r.run (s.pointOf (.Unregister uri e now))) := by
  refine h.next _ (by simp) ?_ fun P => ?_ <;> simp only [RegistrySys.step, RegistrySys.pointOf] <;>
    split_ifs
  · exact h.pruningStatus
  · simp [RouteRegistry.step, h.pruningStatus]
  · exact h.slots P
  · rw [RouteRegistry.run_cons, RouteRegistry.run_nil, RouteRegistry.step, endpointsAt_Unregister,
      endpointsAt_Unregister, h.slots P, RouteRegistry.endpointInRouterShard_congr h.config]

/-- A tick: both sides run it, or neither. -/
theorem Linear.prune (h : Linear s r) (suspendPruning : Bool) (now : Int) :
    Linear (s.step (.prune suspendPruning now)) (r.run (s.pointOf (.prune suspendPruning now))) := by
  refine h.next _ (by simp) ?_ fun P => ?_ <;> simp only [RegistrySys.step, RegistrySys.pointOf] <;>
    split_ifs
  · exact h.pruningStatus
  · simp [RouteRegistry.step]
  · exact h.slots P
  · rw [RouteRegistry.run_cons, RouteRegistry.run_nil, RouteRegistry.step]
    cases suspendPruning
    · rw [endpointsAt_pruneStaleDroplets, endpointsAt_pruneStaleDroplets, h.slots P, h.pruningStatus]
    · exact h.slots P

/-- The step lemma. -/
theorem Linear.step (h : Linear s r) : ∀ ev, Linear (s.step ev) (r.run (s.pointOf ev))
  | .register i => h.register i
  | .Unregister uri e now => h.Unregister uri e now
  | .prune suspendPruning now => h.prune suspendPruning now

end Step

/-- The run lemma. -/
theorem Linear.run {s : RegistrySys} {r : RouteRegistry} (h : Linear s r) (events : List Event) :
    Linear (s.run events) (r.run (s.history events)) := by
  induction events generalizing s r with
  | nil => exact h
  | cons ev events ih =>
    rw [RegistrySys.run_cons, RegistrySys.history, RouteRegistry.run_append]
    exact ih (h.step ev)

theorem interleaving_linearizable (r : RouteRegistry) (calls : List RegisterCall)
    (hstart : ∀ c ∈ calls, c.pc = .start) (events : List Event) :
    (∀ P, endpointsAt (({ reg := r, calls := calls } : RegistrySys).run events).reg P =
      endpointsAt (r.run (({ reg := r, calls := calls } : RegistrySys).history events)) P) ∧
    (({ reg := r, calls := calls } : RegistrySys).run events).reg.pruningStatus =
      (r.run (({ reg := r, calls := calls } : RegistrySys).history events)).pruningStatus :=
  let h := (Linear.init r calls hstart).run events
  ⟨h.slots, h.pruningStatus⟩

theorem interleaving_linearizable_sample :
    (∀ c ∈ oneRegistration.calls, c.pc = .start) ∧
    (∀ P, endpointsAt (({ reg := oneRegistration.reg, calls := oneRegistration.calls } : RegistrySys).run
        (lostSchedule unregisterOther)).reg P =
      endpointsAt (oneRegistration.reg.run (({ reg := oneRegistration.reg, calls := oneRegistration.calls } :
        RegistrySys).history (lostSchedule unregisterOther))) P) ∧
    (({ reg := oneRegistration.reg, calls := oneRegistration.calls } : RegistrySys).run
        (lostSchedule unregisterOther)).reg.pruningStatus =
      (oneRegistration.reg.run (({ reg := oneRegistration.reg, calls := oneRegistration.calls } :
        RegistrySys).history (lostSchedule unregisterOther))).pruningStatus :=
  ⟨by decide, interleaving_linearizable _ _ (by decide) _⟩

/-- The lost put is no point: the history is the `Unregister` alone. -/
example : (oneRegistration.history (lostSchedule unregisterOther)).length = 1 := by decide

end Gorouter.Registry
