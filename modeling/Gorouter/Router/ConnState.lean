import Mathlib.Algebra.BigOperators.Ring
import Mathlib.Data.BitVec
import Mathlib.Tactic.Abel

/-!
# Router — Connection tracking

`Router.Run` gives its `http.Server` a `ConnState` callback (router.go
130-168) that counts the active connections in `activeConns`, a `uint32`,
and keeps the idle ones in the set `idleConns`. `Drain` (lines 192-216)
closes the idle connections and waits until the count reaches zero.

The model is the callback and `Drain` on the router's fields, a connection
being a number (Go compares `net.Conn`s by identity). `ConnHistory` is what
net/http has reported: each connection's latest state, under the lifecycle
the server follows (`ConnState.follows`), for a fixed finite set of
connections.

The callback decrements on `StateClosed` whenever the connection is not
idle, also when it was never active. So the invariant it keeps counts a
connection closed straight from `StateNew` against the active ones:
`activeConns` is the number of active connections minus the number of those,
modulo 2^32, and `idleConns` is exactly the set of idle ones
(`activeConns_invariant`). Without such a close the count is exact, and
`Drain` returns only at a point where no connection is active
(`drained_only_when_none_active`). After one, a single active connection
reads as zero, and `Drain` returns while it is active
(`drain_returns_with_active_conn`).
-/

namespace Gorouter.Router

set_option linter.dupNamespace false

/-- Go's `http.ConnState`. -/
inductive ConnState where
  | StateNew
  | StateActive
  | StateIdle
  | StateHijacked
  | StateClosed
  deriving DecidableEq, Repr

/-- The lifecycle net/http reports for one connection: `StateNew` first,
then `StateActive` and `StateIdle` alternating from `StateActive`, ending
with `StateHijacked` from `StateActive`, or `StateClosed` from any state but
`StateHijacked`. -/
def ConnState.follows : Option ConnState → ConnState → Bool
  | none, .StateNew => true
  | some .StateNew, .StateActive => true
  | some .StateNew, .StateClosed => true
  | some .StateActive, .StateIdle => true
  | some .StateActive, .StateHijacked => true
  | some .StateActive, .StateClosed => true
  | some .StateIdle, .StateActive => true
  | some .StateIdle, .StateClosed => true
  | _, _ => false

/-! ## The callback and `Drain` -/

/-- The fields of Go's `Router` that the callback and `Drain` use.
`drainDone` is whether the field holds a channel; `drained` is whether the
channel `Drain` waits on has been closed. -/
structure Router where
  activeConns : BitVec 32
  idleConns : Finset Nat
  closeConnections : Bool
  drainDone : Bool
  drained : Bool

/-- The connection fields as `NewRouter` leaves them. -/
def NewRouter : Router :=
  { activeConns := 0, idleConns := ∅, closeConnections := false, drainDone := false, drained := false }

namespace Router

/-- The `switch` of the callback. On a draining router the idle branch also
calls `conn.Close()`, which changes no field: net/http reports the close as
a later callback. -/
def trackState (r : Router) (conn : Nat) (state : ConnState) : Router :=
  match state with
  | .StateActive => { r with activeConns := r.activeConns + 1, idleConns := r.idleConns.erase conn }
  | .StateIdle => { r with activeConns := r.activeConns - 1, idleConns := insert conn r.idleConns }
  | .StateHijacked | .StateClosed =>
    let i := r.idleConns.card
    let idleConns := r.idleConns.erase conn
    { r with
      idleConns := idleConns
      activeConns := if i = idleConns.card then r.activeConns - 1 else r.activeConns }
  | .StateNew => r

/-- The `ConnState` callback under `connLock`: the `switch`, then the close of
`drainDone` once no connection counts as active. The deadline it sets
changes no field. -/
def ConnStateCallback (r : Router) (conn : Nat) (state : ConnState) : Router :=
  let r' := r.trackState conn state
  if r'.drainDone ∧ r'.activeConns = 0 then { r' with drainDone := false, drained := true } else r'

/-- `Drain` up to its wait: `close()` marks the router closing (the idle
connections it closes are reported later); the channel is closed at once
when no connection counts as active, else left in `drainDone` for the
callback. `Drain` returns nil once `drained` holds. -/
def Drain (r : Router) : Router :=
  let r' := { r with closeConnections := true }
  if r'.activeConns = 0 then { r' with drained := true } else { r' with drainDone := true }

@[simp] theorem activeConns_Drain (r : Router) : r.Drain.activeConns = r.activeConns := by
  unfold Drain; dsimp only; split_ifs <;> rfl

@[simp] theorem idleConns_Drain (r : Router) : r.Drain.idleConns = r.idleConns := by
  unfold Drain; dsimp only; split_ifs <;> rfl

@[simp] theorem activeConns_ConnStateCallback (r : Router) (conn : Nat) (state : ConnState) :
    (r.ConnStateCallback conn state).activeConns = (r.trackState conn state).activeConns := by
  unfold ConnStateCallback; dsimp only; split_ifs <;> rfl

@[simp] theorem idleConns_ConnStateCallback (r : Router) (conn : Nat) (state : ConnState) :
    (r.ConnStateCallback conn state).idleConns = (r.trackState conn state).idleConns := by
  unfold ConnStateCallback; dsimp only; split_ifs <;> rfl

end Router

/-- One event: a callback from net/http, or a call of `Drain`. -/
inductive ConnEvent where
  | callback (conn : Nat) (state : ConnState)
  | drain

def Router.step (r : Router) : ConnEvent → Router
  | .callback conn state => r.ConnStateCallback conn state
  | .drain => r.Drain

def Router.run (r : Router) (events : List ConnEvent) : Router := events.foldl Router.step r

/-- `drained` turns on only at a step after which no connection counts as
active. -/
theorem Router.activeConns_of_drained_step (r : Router) (ev : ConnEvent) (hbefore : r.drained = false)
    (hafter : (r.step ev).drained = true) : (r.step ev).activeConns = 0 := by
  cases ev with
  | callback conn state =>
    simp only [Router.step, Router.ConnStateCallback] at hafter ⊢
    split_ifs at hafter ⊢ with h
    · exact h.2
    · cases state <;> simp_all [Router.trackState]
  | drain =>
    simp only [Router.step, Router.Drain] at hafter ⊢
    split_ifs at hafter ⊢ with h
    · exact h
    · simp_all

/-! ## What net/http has reported -/

/-- Each connection's latest state, and whether its last callback was a
`StateClosed` straight after `StateNew`. -/
structure ConnHistory where
  latest : Nat → Option ConnState
  closedFromNew : Nat → Bool
  closed_of : ∀ c, closedFromNew c = true → latest c = some .StateClosed

namespace ConnHistory

def empty : ConnHistory := ⟨fun _ => none, fun _ => false, fun _ h => by cases h⟩

def observe (h : ConnHistory) (conn : Nat) (state : ConnState) : ConnHistory where
  latest := Function.update h.latest conn (some state)
  closedFromNew := Function.update h.closedFromNew conn
    (decide (h.latest conn = some .StateNew ∧ state = .StateClosed))
  closed_of c hc := by
    by_cases hcc : c = conn
    · subst hcc
      simp only [Function.update_same, decide_eq_true_eq] at hc ⊢
      rw [hc.2]
    · rw [Function.update_noteq hcc] at hc ⊢
      exact h.closed_of c hc

def step (h : ConnHistory) : ConnEvent → ConnHistory
  | .callback conn state => h.observe conn state
  | .drain => h

def run (h : ConnHistory) (events : List ConnEvent) : ConnHistory := events.foldl step h

/-- Every callback is for one of `conns` and follows its connection's
lifecycle. -/
def Valid (conns : Finset Nat) : ConnHistory → List ConnEvent → Bool
  | _, [] => true
  | h, .callback conn state :: events =>
    decide (conn ∈ conns) && ConnState.follows (h.latest conn) state && Valid conns (h.observe conn state) events
  | h, .drain :: events => Valid conns h events

/-- The connections of `conns` whose latest state is `state`. -/
def inState (h : ConnHistory) (conns : Finset Nat) (state : ConnState) : Finset Nat :=
  conns.filter (h.latest · = some state)

/-- The connections of `conns` closed straight from `StateNew`. -/
def lostNew (h : ConnHistory) (conns : Finset Nat) : Finset Nat :=
  conns.filter (h.closedFromNew · = true)

/-- What one connection adds to the count the callback keeps. -/
def contribution (h : ConnHistory) (c : Nat) : BitVec 32 :=
  (if h.latest c = some .StateActive then 1 else 0) - (if h.closedFromNew c then 1 else 0)

end ConnHistory

/-! ## The invariant -/

/-- The router's fields agree with the history: the count is the sum of the
connections' contributions, and `idleConns` is the set of idle ones. -/
def Tracks (conns : Finset Nat) (r : Router) (h : ConnHistory) : Prop :=
  r.activeConns = ∑ c ∈ conns, h.contribution c ∧ r.idleConns = h.inState conns .StateIdle

theorem sum_update_one {s : Finset Nat} {c : Nat} (hc : c ∈ s) {f g : Nat → BitVec 32}
    (hfg : ∀ x, x ≠ c → g x = f x) : ∑ x ∈ s, g x = ∑ x ∈ s, f x - f c + g c := by
  rw [← Finset.add_sum_erase s g hc, ← Finset.add_sum_erase s f hc,
    Finset.sum_congr rfl fun x hx => hfg x (Finset.ne_of_mem_erase hx)]
  abel

theorem ConnHistory.contribution_observe_of_ne (h : ConnHistory) {conn c : Nat} (state : ConnState)
    (hc : c ≠ conn) : (h.observe conn state).contribution c = h.contribution c := by
  simp [ConnHistory.contribution, ConnHistory.observe, Function.update_noteq hc]

theorem ConnHistory.inState_observe (h : ConnHistory) (conns : Finset Nat) (conn : Nat)
    (state s : ConnState) : (h.observe conn state).inState conns s =
      if state = s ∧ conn ∈ conns then insert conn (h.inState conns s) else (h.inState conns s).erase conn := by
  ext x
  by_cases hx : x = conn
  · subst hx
    by_cases hs : state = s <;> by_cases hm : x ∈ conns <;>
      simp [ConnHistory.inState, ConnHistory.observe, hs, hm]
  · split_ifs <;> simp [ConnHistory.inState, ConnHistory.observe, Function.update_noteq hx, hx]

/-- The callback's test `i == len(r.idleConns)` after the delete is the test
that the connection was not idle. -/
theorem Router.closing_activeConns (r : Router) (conn : Nat) :
    (if r.idleConns.card = (r.idleConns.erase conn).card then r.activeConns - 1 else r.activeConns) =
      if conn ∈ r.idleConns then r.activeConns else r.activeConns - 1 := by
  by_cases hm : conn ∈ r.idleConns
  · have := Finset.card_pos.mpr ⟨conn, hm⟩
    rw [if_neg (by rw [Finset.card_erase_of_mem hm]; omega), if_pos hm]
  · rw [Finset.erase_eq_of_not_mem hm, if_pos rfl, if_neg hm]

/-- The step lemma: a callback that follows its connection's lifecycle keeps
the router's fields in step with the history. -/
theorem Tracks.callback {conns : Finset Nat} {r : Router} {h : ConnHistory} (ht : Tracks conns r h)
    {conn : Nat} (hc : conn ∈ conns) {state : ConnState} (hf : ConnState.follows (h.latest conn) state = true) :
    Tracks conns (r.ConnStateCallback conn state) (h.observe conn state) := by
  obtain ⟨hact, hidle⟩ := ht
  have hlost : h.latest conn ≠ some .StateClosed → h.closedFromNew conn = false := fun hne =>
    Bool.eq_false_iff.mpr fun hl => hne (h.closed_of conn hl)
  have hmem : conn ∈ r.idleConns ↔ h.latest conn = some .StateIdle := by
    simp [hidle, ConnHistory.inState, hc]
  constructor
  · rw [Router.activeConns_ConnStateCallback,
      sum_update_one hc fun x hx => h.contribution_observe_of_ne state hx, ← hact]
    rcases hl : h.latest conn with _ | _ | _ | _ | _ | _ <;> cases state <;>
      simp only [hl, ConnState.follows] at hf <;> (try cases hf) <;>
      simp only [Router.trackState, Router.closing_activeConns] <;>
      simp [hmem, hl, hlost, ConnHistory.contribution, ConnHistory.observe]
    -- left: the close straight from `StateNew`, whose `0 - 1` simp reads as `2^32 - 1`
    bv_omega
  · rw [Router.idleConns_ConnStateCallback, h.inState_observe]
    cases state
    case StateNew =>
      have hnot : conn ∉ h.inState conns .StateIdle := fun hi => by
        simp only [ConnHistory.inState, Finset.mem_filter] at hi
        rw [hi.2] at hf
        cases hf
      simp [Router.trackState, hidle, Finset.erase_eq_of_not_mem hnot]
    all_goals simp [Router.trackState, hidle, hc]

theorem Tracks.step {conns : Finset Nat} {r : Router} {h : ConnHistory} (ht : Tracks conns r h)
    (ev : ConnEvent) (hv : ConnHistory.Valid conns h [ev] = true) :
    Tracks conns (r.step ev) (h.step ev) := by
  cases ev with
  | callback conn state =>
    simp only [ConnHistory.Valid, Bool.and_eq_true, decide_eq_true_eq] at hv
    exact ht.callback hv.1.1 hv.1.2
  | drain => simpa [Tracks, Router.step, ConnHistory.step] using ht

/-- The run lemma. -/
theorem Tracks.run {conns : Finset Nat} {r : Router} {h : ConnHistory} (ht : Tracks conns r h)
    (events : List ConnEvent) (hv : ConnHistory.Valid conns h events = true) :
    Tracks conns (r.run events) (h.run events) := by
  induction events generalizing r h with
  | nil => exact ht
  | cons ev events ih =>
    cases ev with
    | callback conn state =>
      simp only [ConnHistory.Valid, Bool.and_eq_true, decide_eq_true_eq] at hv
      exact ih (ht.callback hv.1.1 hv.1.2) hv.2
    | drain => exact ih (ht.step .drain rfl) hv

theorem sum_contribution (h : ConnHistory) (conns : Finset Nat) :
    ∑ c ∈ conns, h.contribution c =
      BitVec.ofNat 32 (h.inState conns .StateActive).card - BitVec.ofNat 32 (h.lostNew conns).card := by
  simp only [ConnHistory.contribution, Finset.sum_sub_distrib, Finset.sum_boole, ConnHistory.inState,
    ConnHistory.lostNew]
  rfl

/-- From `NewRouter`, the router's fields follow every valid schedule. -/
theorem Tracks.run_NewRouter (conns : Finset Nat) (events : List ConnEvent)
    (hv : ConnHistory.empty.Valid conns events = true) :
    Tracks conns (NewRouter.run events) (ConnHistory.empty.run events) := by
  refine Tracks.run ⟨?_, ?_⟩ events hv
  · simp [NewRouter, ConnHistory.contribution, ConnHistory.empty]
  · ext x; simp [NewRouter, ConnHistory.inState, ConnHistory.empty]

theorem activeConns_invariant (conns : Finset Nat) (events : List ConnEvent)
    (hv : ConnHistory.empty.Valid conns events = true) :
    (NewRouter.run events).activeConns =
      BitVec.ofNat 32 ((ConnHistory.empty.run events).inState conns .StateActive).card -
        BitVec.ofNat 32 ((ConnHistory.empty.run events).lostNew conns).card ∧
    (NewRouter.run events).idleConns = (ConnHistory.empty.run events).inState conns .StateIdle := by
  obtain ⟨hact, hidle⟩ := Tracks.run_NewRouter conns events hv
  exact ⟨hact.trans (sum_contribution _ conns), hidle⟩

/-- Connections 0 and 1: 0 comes and goes without a request, 1 starts a
request, then the router drains. -/
def drainSchedule : List ConnEvent :=
  [.callback 0 .StateNew, .callback 0 .StateClosed, .callback 1 .StateNew, .callback 1 .StateActive, .drain]

theorem activeConns_invariant_sample :
    ConnHistory.empty.Valid {0, 1} drainSchedule = true ∧
    (NewRouter.run drainSchedule).activeConns =
      BitVec.ofNat 32 ((ConnHistory.empty.run drainSchedule).inState {0, 1} .StateActive).card -
        BitVec.ofNat 32 ((ConnHistory.empty.run drainSchedule).lostNew {0, 1}).card ∧
    (NewRouter.run drainSchedule).idleConns = (ConnHistory.empty.run drainSchedule).inState {0, 1} .StateIdle :=
  ⟨by decide, activeConns_invariant {0, 1} drainSchedule (by decide)⟩

/-! ## Drain -/

theorem drained_only_when_none_active (conns : Finset Nat) (hsize : conns.card < 2 ^ 32)
    (pre : List ConnEvent) (ev : ConnEvent) (hv : ConnHistory.empty.Valid conns (pre ++ [ev]) = true)
    (hlost : (ConnHistory.empty.run (pre ++ [ev])).lostNew conns = ∅)
    (hbefore : (NewRouter.run pre).drained = false) (hafter : (NewRouter.run (pre ++ [ev])).drained = true) :
    (ConnHistory.empty.run (pre ++ [ev])).inState conns .StateActive = ∅ := by
  have hzero : (NewRouter.run (pre ++ [ev])).activeConns = 0 := by
    simp only [Router.run, List.foldl_append, List.foldl_cons, List.foldl_nil] at hafter ⊢
    exact Router.activeConns_of_drained_step _ ev hbefore hafter
  have hcount := (Tracks.run_NewRouter conns (pre ++ [ev]) hv).1.trans (sum_contribution _ conns)
  rw [hzero, hlost, Finset.card_empty] at hcount
  have hle : ((ConnHistory.empty.run (pre ++ [ev])).inState conns .StateActive).card < 2 ^ 32 :=
    lt_of_le_of_lt (Finset.card_filter_le _ _) hsize
  exact Finset.card_eq_zero.mp (by bv_omega)

/-- Connection 0 starts a request, the router drains, and the request ends. -/
def idleDrainSchedule : List ConnEvent :=
  [.callback 0 .StateNew, .callback 0 .StateActive, .drain]

theorem drained_only_when_none_active_sample :
    ({0} : Finset Nat).card < 2 ^ 32 ∧
    ConnHistory.empty.Valid {0} (idleDrainSchedule ++ [.callback 0 .StateIdle]) = true ∧
    (ConnHistory.empty.run (idleDrainSchedule ++ [.callback 0 .StateIdle])).lostNew {0} = ∅ ∧
    (NewRouter.run idleDrainSchedule).drained = false ∧
    (NewRouter.run (idleDrainSchedule ++ [.callback 0 .StateIdle])).drained = true ∧
    (ConnHistory.empty.run (idleDrainSchedule ++ [.callback 0 .StateIdle])).inState {0} .StateActive = ∅ :=
  ⟨by decide, by decide, by decide, by decide, by decide,
    drained_only_when_none_active {0} (by decide) idleDrainSchedule (.callback 0 .StateIdle)
      (by decide) (by decide) (by decide) (by decide)⟩

/-- After connection 0 is closed straight from `StateNew`, the count has
wrapped to 2^32 - 1; connection 1's request brings it back to zero, and
`Drain` returns while connection 1 is active. -/
theorem drain_returns_with_active_conn :
    ConnHistory.empty.Valid {0, 1} drainSchedule = true ∧
    (NewRouter.run (drainSchedule.take 2)).activeConns = BitVec.ofNat 32 (2 ^ 32 - 1) ∧
    (NewRouter.run drainSchedule).drained = true ∧
    (ConnHistory.empty.run drainSchedule).latest 1 = some .StateActive := by
  decide

end Gorouter.Router
