import Gorouter.Route.Pool
import Mathlib.Data.Nat.Digits

/-!
# Router — Registration frames

`subscribeRegistry` decodes every frame of `router.register` and
`router.unregister` with `json.Unmarshal` into a zero `registryMessage`. Both
the struct and `makeEndpoint` are absent from the sources; they are modelled
from the spec's registration frame. `Unmarshal` follows `encoding/json`'s
documented decoding into a struct:

* a frame that is not JSON is a `SyntaxError`, and the message stays zero.
  So is a frame whose arrays and objects nest deeper than the scanner's
  `maxNestingDepth`, 10000 levels: the scanner rejects the whole frame
  before anything is decoded;
* `null` decodes to nothing; any other value that is not an object is an
  `UnmarshalTypeError`, and the message stays zero;
* an object is decoded member by member, in order. A key selects the field
  whose name it equals up to case (`fieldOf`); other keys are skipped. A
  value of the wrong kind for its field is an `UnmarshalTypeError` that
  leaves the field as it was, and decoding goes on with the next member.
  The first error is the one returned.

So a frame with one mistyped field still fills every other field, `uris`
included: the decoded uris depend on the `uris` members alone
(`decodeMembers_Uris`).

The other way round, `registryMessage.Marshal` is `json.Marshal` of a
message as a registrar publishes it: every field under its JSON name, a number
as its decimal literal. Decoding such a frame gives the message back, with
no error, also when members the router does not know are mixed in
(`Unmarshal_Marshal`). It takes two conditions. The stale threshold is an
`int`, so it fits in 64 bits, and the members mixed in nest within the
scanner's limit. The message's strings are Lean strings, that is valid UTF-8:
a Go string with invalid UTF-8 is not modelled, and `json.Marshal` would
rewrite its bad bytes to U+FFFD.
-/

namespace Gorouter.Router

open Gorouter.Route

/-! ## JSON values and errors -/

/-- A frame that is valid JSON text, nested to any depth; `Unmarshal` applies
the scanner's depth limit. A number keeps its literal, which is converted only
for the field it lands in; an object keeps its members in order, repeated keys
included. -/
inductive JsonValue where
  | null
  | bool (b : Bool)
  | number (literal : String)
  | string (s : String)
  | array (elems : List JsonValue)
  | object (members : List (String × JsonValue))

mutual
/-- How deep arrays and objects nest in a value: 0 for a scalar, one more than
the deepest element or member for an array or an object (1 when empty), the
number of open brackets the scanner holds at the deepest point. -/
def JsonValue.depth : JsonValue → Nat
  | .array elems => JsonValue.depthList elems + 1
  | .object members => JsonValue.depthMembers members + 1
  | _ => 0

/-- The deepest element of an array. -/
def JsonValue.depthList : List JsonValue → Nat
  | [] => 0
  | v :: vs => max v.depth (JsonValue.depthList vs)

/-- The deepest member value of an object. -/
def JsonValue.depthMembers : List (String × JsonValue) → Nat
  | [] => 0
  | (_, v) :: ms => max v.depth (JsonValue.depthMembers ms)
end

@[simp] theorem JsonValue.depth_object (ms : List (String × JsonValue)) :
    (JsonValue.object ms).depth = JsonValue.depthMembers ms + 1 := by
  rw [JsonValue.depth]

@[simp] theorem JsonValue.depthMembers_nil : JsonValue.depthMembers [] = 0 := by
  rw [JsonValue.depthMembers]

@[simp] theorem JsonValue.depthMembers_cons (key : String) (v : JsonValue) (ms : List (String × JsonValue)) :
    JsonValue.depthMembers ((key, v) :: ms) = max v.depth (JsonValue.depthMembers ms) := by
  rw [JsonValue.depthMembers]

theorem JsonValue.depthMembers_append (ms ms' : List (String × JsonValue)) :
    JsonValue.depthMembers (ms ++ ms') = max (JsonValue.depthMembers ms) (JsonValue.depthMembers ms') := by
  induction ms with
  | nil => simp
  | cons kv ms ih => obtain ⟨key, v⟩ := kv; simp [ih, Nat.max_assoc]

/-- `encoding/json`'s `maxNestingDepth`: the scanner rejects a frame whose
arrays and objects nest deeper. -/
def maxNestingDepth : Nat := 10000

/-- The kind an `UnmarshalTypeError` names for a value. -/
def JsonValue.kind : JsonValue → String
  | .null => "null"
  | .bool _ => "bool"
  | .number _ => "number"
  | .string _ => "string"
  | .array _ => "array"
  | .object _ => "object"

/-- The errors `json.Unmarshal` returns: the frame is not JSON, or a value
(its kind, or `number` and the literal) does not fit the Go type of the field
with that JSON name (empty for the message itself). -/
inductive UnmarshalError where
  | SyntaxError
  | UnmarshalTypeError (value field goType : String)
  deriving DecidableEq, Repr

/-! ## Number literals -/

/-- The value of a nonempty string of decimal digits. -/
def parseDigits (ds : List Char) : Option Nat :=
  if ds ≠ [] ∧ ds.all Char.isDigit then
    some (ds.foldl (fun n d => 10 * n + (d.toNat - '0'.toNat)) 0)
  else none

/-- `strconv.ParseUint(s, 10, 64)` and `OverflowUint` of a `uint16`: below
`2^16`. -/
def parseUint16 (lit : String) : Option UInt16 :=
  match parseDigits lit.toList with
  | some n => if n < 65536 then some (UInt16.ofNat n) else none
  | none => none

/-- `strconv.ParseInt(s, 10, 64)`, the range of Go's 64-bit `int`: from
`-2^63` to below `2^63`. -/
def parseInt (lit : String) : Option Int :=
  let (neg, ds) : Bool × List Char := match lit.toList with
    | '-' :: ds => (true, ds)
    | '+' :: ds => (false, ds)
    | ds => (false, ds)
  match parseDigits ds with
  | some n =>
    let v : Int := if neg then -n else n
    if -9223372036854775808 ≤ v ∧ v < 9223372036854775808 then some v else none
  | none => none

/-! ## One value into one field -/

/-- A value into a Go `string` field (or a `route.Uri` element): a string is
stored, `null` leaves the field, any other kind is an error. -/
def decodeString (field goType : String) (old : String) : JsonValue → String × Option UnmarshalError
  | .string s => (s, none)
  | .null => (old, none)
  | v => (old, some (.UnmarshalTypeError v.kind field goType))

/-- A value into a Go `uint16` field. -/
def decodeUint16 (field : String) (old : UInt16) : JsonValue → UInt16 × Option UnmarshalError
  | .number lit =>
    match parseUint16 lit with
    | some n => (n, none)
    | none => (old, some (.UnmarshalTypeError ("number " ++ lit) field "uint16"))
  | .null => (old, none)
  | v => (old, some (.UnmarshalTypeError v.kind field "uint16"))

/-- A value into a Go `int` field. -/
def decodeInt (field : String) (old : Int) : JsonValue → Int × Option UnmarshalError
  | .number lit =>
    match parseInt lit with
    | some n => (n, none)
    | none => (old, some (.UnmarshalTypeError ("number " ++ lit) field "int"))
  | .null => (old, none)
  | v => (old, some (.UnmarshalTypeError v.kind field "int"))

/-- An array's elements into a `[]route.Uri`, element `i` over the slice's
element `i` (the zero value past its end); the first error wins. -/
def decodeUriElems : List String → List JsonValue → List String × Option UnmarshalError
  | _, [] => ([], none)
  | old, v :: vs =>
    let (s, e) := decodeString "uris" "route.Uri" (old.headD "") v
    let (ss, es) := decodeUriElems old.tail vs
    (s :: ss, e.or es)

/-- A value into the `[]route.Uri` field `uris`: an array becomes a slice of
its length, `null` the nil slice, any other kind is an error. -/
def decodeUris (old : List String) : JsonValue → List String × Option UnmarshalError
  | .array elems => decodeUriElems old elems
  | .null => ([], none)
  | v => (old, some (.UnmarshalTypeError v.kind "uris" "[]route.Uri"))

/-! ## registryMessage -/

/-- Modelled from the spec's registration frame: `registryMessage`, absent
from the sources. The defaults are Go's zero values. -/
structure registryMessage where
  Host : String := ""
  Port : UInt16 := 0
  TlsPort : UInt16 := 0
  Uris : List String := []
  App : String := ""
  PrivateInstanceId : String := ""
  PrivateInstanceIndex : String := ""
  ProcessId : String := ""
  RouteServiceUrl : String := ""
  ServerCertDomainSAN : String := ""
  IsolationSegment : String := ""
  StaleThresholdInSeconds : Int := 0
  Protocol : String := ""
  deriving DecidableEq, Repr

/-- The fields of `registryMessage`. -/
inductive Field where
  | Host | Port | TlsPort | Uris | App | PrivateInstanceId | PrivateInstanceIndex | ProcessId
  | RouteServiceUrl | ServerCertDomainSAN | IsolationSegment | StaleThresholdInSeconds | Protocol
  deriving DecidableEq, Repr

/-- Each field's JSON name, from the spec's registration frame. -/
def Field.name : Field → String
  | .Host => "host"
  | .Port => "port"
  | .TlsPort => "tls_port"
  | .Uris => "uris"
  | .App => "app_id"
  | .PrivateInstanceId => "private_instance_id"
  | .PrivateInstanceIndex => "private_instance_index"
  | .ProcessId => "process_id"
  | .RouteServiceUrl => "route_service_url"
  | .ServerCertDomainSAN => "server_cert_domain_san"
  | .IsolationSegment => "isolation_segment"
  | .StaleThresholdInSeconds => "stale_threshold_in_seconds"
  | .Protocol => "protocol"

def Field.all : List Field :=
  [.Host, .Port, .TlsPort, .Uris, .App, .PrivateInstanceId, .PrivateInstanceIndex, .ProcessId,
   .RouteServiceUrl, .ServerCertDomainSAN, .IsolationSegment, .StaleThresholdInSeconds, .Protocol]

/-- `encoding/json`'s `foldName` on one character, as far as it decides a
match with an ASCII field name: ASCII letters fold to upper case, and the
two other characters whose fold set holds an ASCII letter, the Kelvin sign
and the long s, fold to `K` and `S`. Any other character never folds to an
ASCII one. -/
def foldRune (c : Char) : Char :=
  if c.toNat = 0x212A then 'K' else if c.toNat = 0x17F then 'S' else c.toUpper

/-- A key or a name, folded character by character. -/
def foldName (s : String) : List Char := s.toList.map foldRune

/-- The field a member's key selects: the one whose name folds as the key
does (an exact match is one of these, and no two names fold alike). -/
def fieldOf (key : String) : Option Field :=
  Field.all.find? fun f => foldName f.name = foldName key

/-- A key that is a field's name selects that field. -/
theorem fieldOf_name (f : Field) : fieldOf f.name = some f := by
  cases f <;> decide

namespace registryMessage

/-- A member's value decoded into field `f`. -/
def decodeField (m : registryMessage) : Field → JsonValue → registryMessage × Option UnmarshalError
  | .Host, v => (decodeString "host" "string" m.Host v).map (fun s => { m with Host := s }) id
  | .Port, v => (decodeUint16 "port" m.Port v).map (fun n => { m with Port := n }) id
  | .TlsPort, v => (decodeUint16 "tls_port" m.TlsPort v).map (fun n => { m with TlsPort := n }) id
  | .Uris, v => (decodeUris m.Uris v).map (fun us => { m with Uris := us }) id
  | .App, v => (decodeString "app_id" "string" m.App v).map (fun s => { m with App := s }) id
  | .PrivateInstanceId, v =>
    (decodeString "private_instance_id" "string" m.PrivateInstanceId v).map
      (fun s => { m with PrivateInstanceId := s }) id
  | .PrivateInstanceIndex, v =>
    (decodeString "private_instance_index" "string" m.PrivateInstanceIndex v).map
      (fun s => { m with PrivateInstanceIndex := s }) id
  | .ProcessId, v =>
    (decodeString "process_id" "string" m.ProcessId v).map (fun s => { m with ProcessId := s }) id
  | .RouteServiceUrl, v =>
    (decodeString "route_service_url" "string" m.RouteServiceUrl v).map
      (fun s => { m with RouteServiceUrl := s }) id
  | .ServerCertDomainSAN, v =>
    (decodeString "server_cert_domain_san" "string" m.ServerCertDomainSAN v).map
      (fun s => { m with ServerCertDomainSAN := s }) id
  | .IsolationSegment, v =>
    (decodeString "isolation_segment" "string" m.IsolationSegment v).map
      (fun s => { m with IsolationSegment := s }) id
  | .StaleThresholdInSeconds, v =>
    (decodeInt "stale_threshold_in_seconds" m.StaleThresholdInSeconds v).map
      (fun n => { m with StaleThresholdInSeconds := n }) id
  | .Protocol, v => (decodeString "protocol" "string" m.Protocol v).map (fun s => { m with Protocol := s }) id

/-- One member: decoded into the field its key selects, or skipped. -/
def decodeMember (m : registryMessage) (key : String) (v : JsonValue) :
    registryMessage × Option UnmarshalError :=
  match fieldOf key with
  | some f => m.decodeField f v
  | none => (m, none)

/-- The members of an object, in order; the first error wins. -/
def decodeMembers (m : registryMessage) : List (String × JsonValue) → registryMessage × Option UnmarshalError
  | [] => (m, none)
  | (key, v) :: rest =>
    let (m', e) := m.decodeMember key v
    let (m'', es) := decodeMembers m' rest
    (m'', e.or es)

/-- Modelled from the spec: `makeEndpoint`, absent from the sources. The
address is `host:port`, or `host:tls_port` when a TLS port is set. The spec's
frame carries no load-balancing option, so the endpoint names no algorithm. -/
def makeEndpoint (m : registryMessage) : Endpoint where
  canonicalAddr := m.Host ++ ":" ++ toString (if m.TlsPort = 0 then m.Port else m.TlsPort)
  privateInstanceId := m.PrivateInstanceId
  applicationId := m.App
  privateInstanceIndex := m.PrivateInstanceIndex
  processId := m.ProcessId
  isolationSegment := m.IsolationSegment
  staleThreshold := m.StaleThresholdInSeconds
  loadBalancingAlgorithm := ""

end registryMessage

/-- A value the scanner accepted, decoded into a zero `registryMessage`: `null`
decodes to nothing, an object member by member, and any other kind is an
error. -/
def decodeValue : JsonValue → registryMessage × Option UnmarshalError
  | .null => ({}, none)
  | .object members => registryMessage.decodeMembers {} members
  | v => ({}, some (.UnmarshalTypeError v.kind "" "router.registryMessage"))

/-- `json.Unmarshal(payload, &msg)` into a zero `registryMessage`: the message
and the error. The payload is `some v` when the frame is the JSON text of
`v`, and `none` when it is not JSON. The scanner's check comes first: a frame
nested deeper than `maxNestingDepth` is a `SyntaxError` ("exceeded max
depth"), and nothing is decoded. -/
def Unmarshal : Option JsonValue → registryMessage × Option UnmarshalError
  | none => ({}, some .SyntaxError)
  | some v => if maxNestingDepth < v.depth then ({}, some .SyntaxError) else decodeValue v

theorem Unmarshal_of_deep {v : JsonValue} (h : maxNestingDepth < v.depth) :
    Unmarshal (some v) = ({}, some .SyntaxError) := by
  rw [Unmarshal, if_pos h]

/-- An object within the limit is decoded member by member. -/
theorem Unmarshal_object {ms : List (String × JsonValue)}
    (h : ¬maxNestingDepth < (JsonValue.object ms).depth) :
    Unmarshal (some (.object ms)) = registryMessage.decodeMembers {} ms := by
  rw [Unmarshal, if_neg h, decodeValue]

/-! ## Errors name their field -/

section Errors

variable {field goType : String} {v : JsonValue} {err : UnmarshalError}

theorem decodeString_error {old : String} (h : (decodeString field goType old v).2 = some err) :
    ∃ value ty, err = .UnmarshalTypeError value field ty := by
  cases v <;> simp only [decodeString, Option.some.injEq, reduceCtorEq] at h <;> exact ⟨_, _, h.symm⟩

theorem decodeUint16_error {old : UInt16} (h : (decodeUint16 field old v).2 = some err) :
    ∃ value ty, err = .UnmarshalTypeError value field ty := by
  cases v <;> simp only [decodeUint16, Option.some.injEq, reduceCtorEq] at h
  case number lit =>
    split at h <;> simp only [Option.some.injEq, reduceCtorEq] at h
    exact ⟨_, _, h.symm⟩
  all_goals exact ⟨_, _, h.symm⟩

theorem decodeInt_error {old : Int} (h : (decodeInt field old v).2 = some err) :
    ∃ value ty, err = .UnmarshalTypeError value field ty := by
  cases v <;> simp only [decodeInt, Option.some.injEq, reduceCtorEq] at h
  case number lit =>
    split at h <;> simp only [Option.some.injEq, reduceCtorEq] at h
    exact ⟨_, _, h.symm⟩
  all_goals exact ⟨_, _, h.symm⟩

theorem decodeUriElems_error (old : List String) :
    ∀ (vs : List JsonValue), (decodeUriElems old vs).2 = some err →
      ∃ value ty, err = .UnmarshalTypeError value "uris" ty
  | [], h => by simp [decodeUriElems] at h
  | v :: vs, h => by
    simp only [decodeUriElems, Option.or_eq_some] at h
    rcases h with h | ⟨-, h⟩
    · exact decodeString_error h
    · exact decodeUriElems_error old.tail vs h

theorem decodeUris_error {old : List String} (h : (decodeUris old v).2 = some err) :
    ∃ value ty, err = .UnmarshalTypeError value "uris" ty := by
  cases v <;> simp only [decodeUris, Option.some.injEq, reduceCtorEq] at h
  case array elems => exact decodeUriElems_error old elems h
  all_goals exact ⟨_, _, h.symm⟩

end Errors

/-- Every error of a member names the field the member was decoded into. -/
theorem decodeField_error (m : registryMessage) (f : Field) (v : JsonValue) {err : UnmarshalError}
    (h : (m.decodeField f v).2 = some err) : ∃ value goType, err = .UnmarshalTypeError value f.name goType := by
  cases f <;> first
    | exact decodeString_error h | exact decodeUint16_error h | exact decodeInt_error h
    | exact decodeUris_error h

/-! ## The uris, whatever the other members hold -/

/-- Only the `uris` field changes `Uris`. -/
theorem decodeField_Uris (m : registryMessage) (f : Field) (v : JsonValue) :
    (m.decodeField f v).1.Uris = if f = .Uris then (decodeUris m.Uris v).1 else m.Uris := by
  cases f <;> rfl

/-- The decoded uris are what the members whose key selects `uris` decode
to, in order, from the message's uris: every other member, and every error
it has, leaves them alone. -/
theorem decodeMembers_Uris (m : registryMessage) (ms : List (String × JsonValue)) :
    (m.decodeMembers ms).1.Uris =
      (ms.filter fun kv => fieldOf kv.1 = some .Uris).foldl (fun us kv => (decodeUris us kv.2).1) m.Uris := by
  induction ms generalizing m with
  | nil => rfl
  | cons kv rest ih =>
    obtain ⟨key, v⟩ := kv
    simp only [registryMessage.decodeMembers, ih, registryMessage.decodeMember]
    cases hk : fieldOf key with
    | none => simp [hk]
    | some f =>
      by_cases hf : f = .Uris
      · subst hf; simp [hk, decodeField_Uris]
      · simp [hk, hf, decodeField_Uris]

theorem Unmarshal_Uris_other_member (pre post : List (String × JsonValue)) (key : String)
    (v : JsonValue) (hk : fieldOf key ≠ some .Uris) (hv : v.depth < maxNestingDepth) :
    (Unmarshal (some (.object (pre ++ (key, v) :: post)))).1.Uris =
      (Unmarshal (some (.object (pre ++ post)))).1.Uris := by
  have hdeep : maxNestingDepth < (JsonValue.object (pre ++ (key, v) :: post)).depth ↔
      maxNestingDepth < (JsonValue.object (pre ++ post)).depth := by
    simp only [JsonValue.depth_object, JsonValue.depthMembers_append, JsonValue.depthMembers_cons]
    omega
  by_cases h : maxNestingDepth < (JsonValue.object (pre ++ post)).depth
  · rw [Unmarshal_of_deep h, Unmarshal_of_deep (hdeep.mpr h)]
  · rw [Unmarshal_object h, Unmarshal_object (mt hdeep.mp h)]
    simp only [decodeMembers_Uris, List.filter_append, List.filter_cons, hk,
      decide_False, Bool.false_eq_true, if_false]

theorem Unmarshal_Uris_other_member_sample :
    fieldOf "port" ≠ some .Uris ∧
    (Unmarshal (some (.object ([("host", .string "10.0.0.1")] ++ ("port", .string "8080") ::
        [("uris", .array [.string "a.com"])])))).1.Uris =
      (Unmarshal (some (.object ([("host", .string "10.0.0.1")] ++
        [("uris", .array [.string "a.com"])])))).1.Uris := by
  have hk : fieldOf "port" ≠ some .Uris := by decide
  exact ⟨hk, Unmarshal_Uris_other_member _ _ "port" (.string "8080") hk (by decide)⟩

/-! ## Decimal literals read back -/

theorem digitChar_digit : ∀ k < 10, (Nat.digitChar k).isDigit = true ∧
    (Nat.digitChar k).toNat - '0'.toNat = k := by decide

/-- Reading back the digits `toDigitsCore` writes in front of `ds` carries on
`parseDigits`' loop from the number they spell. -/
theorem foldl_toDigitsCore (fuel n : Nat) (ds : List Char) (h : n < fuel) :
    (Nat.toDigitsCore 10 fuel n ds).foldl (fun n d => 10 * n + (d.toNat - '0'.toNat)) 0 =
      ds.foldl (fun n d => 10 * n + (d.toNat - '0'.toNat)) n := by
  induction fuel generalizing n ds with
  | zero => omega
  | succ fuel ih =>
    have hd := (digitChar_digit (n % 10) (Nat.mod_lt _ (by omega))).2
    simp only [Nat.toDigitsCore]
    split_ifs with h0
    · simp only [List.foldl_cons, hd]
      congr 1
      omega
    · rw [ih (n / 10) _ (by omega), List.foldl_cons, hd, Nat.div_add_mod]

theorem toDigitsCore_isDigit (fuel n : Nat) (ds : List Char) (hds : ds.all Char.isDigit = true) :
    (Nat.toDigitsCore 10 fuel n ds).all Char.isDigit = true := by
  induction fuel generalizing n ds with
  | zero => exact hds
  | succ fuel ih =>
    have hd := (digitChar_digit (n % 10) (Nat.mod_lt _ (by omega))).1
    simp only [Nat.toDigitsCore]
    split_ifs
    · simp [hd, hds]
    · exact ih _ _ (by simp [hd, hds])

theorem toDigitsCore_ne_nil (fuel n : Nat) {ds : List Char} (h : ds ≠ []) :
    Nat.toDigitsCore 10 fuel n ds ≠ [] := by
  induction fuel generalizing n ds with
  | zero => exact h
  | succ fuel ih =>
    simp only [Nat.toDigitsCore]
    split_ifs
    · exact List.cons_ne_nil _ _
    · exact ih _ (List.cons_ne_nil _ _)

theorem toDigits_ne_nil (n : Nat) : Nat.toDigits 10 n ≠ [] := by
  simp only [Nat.toDigits, Nat.toDigitsCore]
  split_ifs
  · exact List.cons_ne_nil _ _
  · exact toDigitsCore_ne_nil _ _ (List.cons_ne_nil _ _)

/-- A number's decimal literal parses back to it. -/
theorem parseDigits_toDigits (n : Nat) : parseDigits (Nat.toDigits 10 n) = some n := by
  rw [parseDigits, if_pos ⟨toDigits_ne_nil n, toDigitsCore_isDigit _ _ _ rfl⟩, Nat.toDigits,
    foldl_toDigitsCore _ _ _ (Nat.lt_succ_self n)]
  rfl

theorem parseUint16_toString (n : UInt16) : parseUint16 (toString n) = some n := by
  have hlt : n.toNat < UInt16.size := n.toNat_lt_size
  simp only [parseUint16, show (toString n).toList = Nat.toDigits 10 n.toNat from rfl, parseDigits_toDigits]
  rw [if_pos (hlt : n.toNat < 65536)]
  exact congrArg some (UInt16.toNat.inj (UInt16.toNat_ofNat_of_lt hlt))

/-- An `int`'s literal parses back to it; a nonnegative one has no sign. -/
theorem parseInt_toString (i : Int) (h : -9223372036854775808 ≤ i ∧ i < 9223372036854775808) :
    parseInt (toString i) = some i := by
  cases i with
  | ofNat m =>
    obtain ⟨c, cs, hc⟩ := List.exists_cons_of_ne_nil (toDigits_ne_nil m)
    have hdig : c.isDigit = true := by
      have := toDigitsCore_isDigit (m + 1) m [] rfl
      rw [← Nat.toDigits, hc, List.all_cons, Bool.and_eq_true] at this
      exact this.1
    have hm : c ≠ '-' ∧ c ≠ '+' := ⟨fun h => by simp [h] at hdig, fun h => by simp [h] at hdig⟩
    have hp := parseDigits_toDigits m
    rw [hc] at hp
    simp only [parseInt, show (toString (Int.ofNat m)).toList = Nat.toDigits 10 m from rfl, hc]
    simpa [hm.1, hm.2, hp] using h
  | negSucc m =>
    simp only [parseInt, show (toString (Int.negSucc m)).toList = '-' :: Nat.toDigits 10 (m + 1) from rfl,
      parseDigits_toDigits, if_true]
    simpa [Int.negSucc_eq] using h

/-! ## Decoding what a registrar encodes -/

namespace registryMessage

/-- The members `json.Marshal` writes for a message: every field, in order,
under its JSON name; a number as its decimal literal; the uris as an array
of strings. -/
def members (m : registryMessage) : List (String × JsonValue) :=
  [(Field.Host.name, .string m.Host),
   (Field.Port.name, .number (toString m.Port)),
   (Field.TlsPort.name, .number (toString m.TlsPort)),
   (Field.Uris.name, .array (m.Uris.map .string)),
   (Field.App.name, .string m.App),
   (Field.PrivateInstanceId.name, .string m.PrivateInstanceId),
   (Field.PrivateInstanceIndex.name, .string m.PrivateInstanceIndex),
   (Field.ProcessId.name, .string m.ProcessId),
   (Field.RouteServiceUrl.name, .string m.RouteServiceUrl),
   (Field.ServerCertDomainSAN.name, .string m.ServerCertDomainSAN),
   (Field.IsolationSegment.name, .string m.IsolationSegment),
   (Field.StaleThresholdInSeconds.name, .number (toString m.StaleThresholdInSeconds)),
   (Field.Protocol.name, .string m.Protocol)]

/-- `json.Marshal` of a message, as a registrar publishes it. -/
def Marshal (m : registryMessage) : JsonValue := .object m.members

/-- A member whose key selects no field is skipped, error and all. -/
theorem decodeMembers_filter (m : registryMessage) (ms : List (String × JsonValue)) :
    m.decodeMembers ms = m.decodeMembers (ms.filter fun kv => (fieldOf kv.1).isSome) := by
  induction ms generalizing m with
  | nil => rfl
  | cons kv rest ih =>
    obtain ⟨key, v⟩ := kv
    cases hk : fieldOf key with
    | none => simp [decodeMembers, decodeMember, hk, ih]
    | some f => simp [decodeMembers, decodeMember, hk, ih]

end registryMessage

theorem decodeUriElems_strings (old us : List String) :
    decodeUriElems old (us.map .string) = (us, none) := by
  induction us generalizing old with
  | nil => rfl
  | cons u us ih => simp [decodeUriElems, decodeString, ih]

theorem Unmarshal_Marshal (m : registryMessage)
    (h : -9223372036854775808 ≤ m.StaleThresholdInSeconds ∧ m.StaleThresholdInSeconds < 9223372036854775808)
    (ms : List (String × JsonValue)) (hms : ms.filter (fun kv => (fieldOf kv.1).isSome) = m.members)
    (hd : (JsonValue.object ms).depth ≤ maxNestingDepth) :
    Unmarshal (some (.object ms)) = (m, none) := by
  rw [Unmarshal_object (Nat.not_lt.mpr hd), registryMessage.decodeMembers_filter, hms]
  simp [registryMessage.members, registryMessage.decodeMembers, registryMessage.decodeMember, fieldOf_name,
    registryMessage.decodeField, decodeString, decodeUint16, decodeInt, decodeUris, decodeUriElems_strings,
    parseUint16_toString, parseInt_toString _ h]

/-- A registration of `10.0.0.1:8080` for `a.com`. -/
def sampleMessage : registryMessage :=
  { Host := "10.0.0.1", Port := 8080, Uris := ["a.com"], App := "app-guid", StaleThresholdInSeconds := 120 }

/-- The frame of `sampleMessage` with a leading `tags` member, which selects
no field, decodes to the message. -/
theorem Unmarshal_Marshal_sample :
    (-9223372036854775808 ≤ sampleMessage.StaleThresholdInSeconds ∧
      sampleMessage.StaleThresholdInSeconds < 9223372036854775808) ∧
    (("tags", .object []) :: sampleMessage.members).filter (fun kv => (fieldOf kv.1).isSome) =
      sampleMessage.members ∧
    (JsonValue.object (("tags", .object []) :: sampleMessage.members)).depth ≤ maxNestingDepth ∧
    Unmarshal (some (.object (("tags", .object []) :: sampleMessage.members))) = (sampleMessage, none) := by
  have hf : (("tags", .object []) :: sampleMessage.members).filter (fun kv => (fieldOf kv.1).isSome) =
      sampleMessage.members := by
    simp [registryMessage.members, fieldOf_name, show fieldOf "tags" = none by decide]
  have hd : (JsonValue.object (("tags", .object []) :: sampleMessage.members)).depth ≤ maxNestingDepth := by
    decide
  exact ⟨by decide, hf, hd, Unmarshal_Marshal _ (by decide) _ hf hd⟩

end Gorouter.Router
