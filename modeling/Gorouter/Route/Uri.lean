import Mathlib.Data.List.Infix
import Mathlib.Data.List.DropRight

/-!
# Route — Uri

Go's `route.Uri` (a string) and the two methods the registry calls on it,
`RouteKey` and `NextWildcard`. The `route` package is not among the sources,
so both methods are modelled from the specification's data model: a route key
is "a case-insensitive host plus an optional context path", normalised by
lowercasing the host, collapsing a missing path to `/` and stripping the
query; `NextWildcard` "yields the next coarser key by dropping the leftmost
label and prepending `*.` until no dot remains, returning a sentinel end on
exhaustion".

Two readings are fixed here. `RouteKey` also drops trailing slashes, which the
spec does not list but the proxy's tests rely on: proxy_test.go:199-226
registers `test/my%20path/your_path` and requests it with a trailing slash, and
registers `test/another-path/your_path/` and requests it without one, and both
requests get 200. `NextWildcard` looks for the dot in the whole key, as "until
no dot remains" says: once the host has no dot left, the next key is cut in the
path (`Uri.wildcard_of_isDotSuffix` is the cut while the path has no dot).

A `Uri` is modelled by its characters: everything the registry does with one
is split it at `/`, `?` and `.`. Lowercasing is `Char.toLower` (ASCII); the
development needs only that it fixes every separator (`toLower_eq_iff`) and
is idempotent (`toLower_toLower`).
-/

namespace Gorouter.Route

/-- Modelled from the spec: `route.Uri`, a string. -/
abbrev Uri := List Char

/-! ## Lowercasing fixes the separators -/

theorem toNat_ofNat_of_lt {n : Nat} (h : n < 0xd800) : (Char.ofNat n).toNat = n := by
  have hv : n.isValidChar := Or.inl h
  simp [Char.ofNat, hv, Char.ofNatAux, Char.toNat, UInt32.toNat]

theorem toNat_toLower (c : Char) :
    c.toLower.toNat = if 65 ≤ c.toNat ∧ c.toNat ≤ 90 then c.toNat + 32 else c.toNat := by
  unfold Char.toLower
  simp only [ge_iff_le]
  split
  · exact toNat_ofNat_of_lt (by omega)
  · rfl

theorem char_eq_of_toNat_eq {c d : Char} (h : c.toNat = d.toNat) : c = d := by
  rw [← Char.ofNat_toNat c, h, Char.ofNat_toNat]

/-- Lowercasing maps onto a character below `'A'` (every separator the
registry splits at) only from that character itself. -/
theorem toLower_eq_iff {c x : Char} (hx : x.toNat < 65) : c.toLower = x ↔ c = x := by
  have hc := toNat_toLower c
  constructor
  · rintro rfl
    split at hc <;> first | omega | exact char_eq_of_toNat_eq hc.symm
  · rintro rfl
    exact char_eq_of_toNat_eq (by rw [hc]; split <;> omega)

@[simp] theorem toLower_toLower (c : Char) : c.toLower.toLower = c.toLower := by
  apply char_eq_of_toNat_eq
  rw [toNat_toLower c.toLower, toNat_toLower c]
  split_ifs <;> omega

/-! ## Host and path of a key -/

/-- The host of a key: everything before the first `/`. -/
def Uri.host (u : Uri) : List Char := u.takeWhile (· ≠ '/')

/-- The path of a key: from the first `/` on, empty when there is none. -/
def Uri.path (u : Uri) : List Char := u.dropWhile (· ≠ '/')

theorem Uri.host_append_path (u : Uri) : u.host ++ u.path = u :=
  List.takeWhile_append_dropWhile _ _

theorem Uri.ne_slash_of_mem_host {u : Uri} {c : Char} (h : c ∈ u.host) : c ≠ '/' := by
  simpa using List.mem_takeWhile_imp h

/-- A key split at a slash-free prefix has that prefix as host. -/
theorem Uri.host_append_slash {h r : List Char} (hh : ∀ c ∈ h, c ≠ '/') :
    Uri.host (h ++ '/' :: r) = h := by
  rw [Uri.host, List.takeWhile_append_of_pos (by simpa using hh)]
  simp

theorem Uri.path_append_slash {h r : List Char} (hh : ∀ c ∈ h, c ≠ '/') :
    Uri.path (h ++ '/' :: r) = '/' :: r := by
  rw [Uri.path, List.dropWhile_append_of_pos (by simpa using hh)]
  simp

/-- The path is empty or starts at a slash. -/
theorem Uri.path_eq (u : Uri) : u.path = [] ∨ ∃ r, u.path = '/' :: r := by
  unfold Uri.path
  induction u with
  | nil => simp
  | cons c cs ih =>
    by_cases hc : c = '/'
    · simp [hc]
    · simpa [List.dropWhile_cons, hc] using ih

theorem Uri.host_path (u : Uri) : Uri.host u.path = [] := by
  rcases u.path_eq with h | ⟨r, h⟩ <;> simp [h, Uri.host]

theorem Uri.host_append_path_host {h : List Char} (hh : ∀ c ∈ h, c ≠ '/') (u : Uri) :
    Uri.host (h ++ u.path) = h := by
  have hp := u.host_path
  rw [Uri.host] at hp ⊢
  rw [List.takeWhile_append_of_pos (by simpa using hh), hp, List.append_nil]

theorem Uri.path_append_path {h : List Char} (hh : ∀ c ∈ h, c ≠ '/') (u : Uri) :
    Uri.path (h ++ u.path) = u.path := by
  rw [Uri.path, List.dropWhile_append_of_pos (by simpa using hh)]
  rcases u.path_eq with hp | ⟨r, hp⟩ <;> simp [hp]

/-! ## Trailing slashes -/

/-- The trailing run of `a ++ b` that `p` drops is `b`'s, and reaches into `a`
only when all of `b` goes. -/
theorem rdropWhile_append {α : Type} (p : α → Bool) (a b : List α) :
    (a ++ b).rdropWhile p = if (b.rdropWhile p).isEmpty then a.rdropWhile p else a ++ b.rdropWhile p := by
  by_cases h : b.reverse.dropWhile p = [] <;> simp [List.rdropWhile, List.dropWhile_append, h]

theorem rdropWhile_cons_rdropWhile {α : Type} (p : α → Bool) (x : α) (b : List α) :
    (x :: b.rdropWhile p).rdropWhile p = (x :: b).rdropWhile p := by
  show ([x] ++ b.rdropWhile p).rdropWhile p = ([x] ++ b).rdropWhile p
  rw [rdropWhile_append, rdropWhile_append, List.rdropWhile_idempotent]

/-- A key's trailing slashes are its path's. -/
theorem Uri.rdropWhile_slash (u : Uri) :
    u.rdropWhile (· = '/') = u.host ++ u.path.rdropWhile (· = '/') := by
  have hh : u.host.rdropWhile (· = '/') = u.host :=
    List.rdropWhile_eq_self_iff.mpr fun hl => by simpa using Uri.ne_slash_of_mem_host (List.getLast_mem hl)
  conv_lhs => rw [← u.host_append_path]
  rw [rdropWhile_append, hh]
  split_ifs with h
  · rw [List.isEmpty_iff.mp h, List.append_nil]
  · rfl

/-- A path without its trailing slashes is again a path: empty, or from a
slash on. -/
theorem Uri.path_rdropWhile_path (u : Uri) :
    Uri.path (u.path.rdropWhile (· = '/')) = u.path.rdropWhile (· = '/') := by
  obtain ⟨t, ht⟩ := List.rdropWhile_prefix (· = '/') u.path
  rcases hw : u.path.rdropWhile (· = '/') with _ | ⟨c, w⟩
  · rfl
  · rcases u.path_eq with hp | ⟨r, hp⟩ <;> rw [hw, hp] at ht
    · simp at ht
    · obtain ⟨rfl, -⟩ := List.cons.inj ht
      simp [Uri.path]

@[simp] theorem Uri.host_rdropWhile_slash (u : Uri) : Uri.host (u.rdropWhile (· = '/')) = u.host := by
  rw [Uri.rdropWhile_slash, ← Uri.path_rdropWhile_path]
  exact Uri.host_append_path_host (fun _ => Uri.ne_slash_of_mem_host) _

@[simp] theorem Uri.path_rdropWhile_slash (u : Uri) :
    Uri.path (u.rdropWhile (· = '/')) = u.path.rdropWhile (· = '/') := by
  have hw := Uri.path_rdropWhile_path u
  rw [Uri.rdropWhile_slash, ← hw, Uri.path_append_path (fun _ => Uri.ne_slash_of_mem_host)]

/-- A missing path read as `/` has the trailing slashes of the path. -/
@[simp] theorem Uri.rdropWhile_slash_path (u : Uri) :
    ('/' :: u.path.tail).rdropWhile (· = '/') = u.path.rdropWhile (· = '/') := by
  rcases u.path_eq with hp | ⟨r, hp⟩ <;> simp [hp]

/-! ## RouteKey -/

/-- Modelled from the spec: `Uri.RouteKey`, absent from the sources. The query
is stripped (everything from the first `?`), the host is lowercased, a missing
path becomes `/`, and trailing slashes are dropped (proxy_test.go:199-226); the
path keeps its case. -/
def Uri.RouteKey (u : Uri) : Uri :=
  let s := u.takeWhile (· ≠ '?')
  (Uri.host s).map Char.toLower ++ '/' :: ((Uri.path s).drop 1).rdropWhile (· = '/')

theorem Uri.mem_RouteKey_ne_query {u : Uri} {c : Char} (h : c ∈ u.RouteKey) : c ≠ '?' := by
  have hs : ∀ d ∈ u.takeWhile (· ≠ '?'), d ≠ '?' := fun d hd => by
    simpa using List.mem_takeWhile_imp hd
  simp only [Uri.RouteKey, List.mem_append, List.mem_map, List.mem_cons] at h
  rcases h with ⟨d, hd, rfl⟩ | rfl | h
  · rw [Ne, toLower_eq_iff (by decide)]
    exact hs d ((List.takeWhile_prefix _).subset hd)
  · decide
  · exact hs c ((List.rdropWhile_prefix _ _).subset h |> (List.drop_sublist _ _).subset |>
      (List.dropWhile_suffix _).subset)

theorem Uri.RouteKey_host_ne_slash (u : Uri) :
    ∀ c ∈ (Uri.host (u.takeWhile (· ≠ '?'))).map Char.toLower, c ≠ '/' := by
  simp only [List.mem_map]
  rintro _ ⟨d, hd, rfl⟩
  rw [Ne, toLower_eq_iff (by decide)]
  exact Uri.ne_slash_of_mem_host hd

@[simp] theorem Uri.host_RouteKey (u : Uri) :
    u.RouteKey.host = (Uri.host (u.takeWhile (· ≠ '?'))).map Char.toLower :=
  Uri.host_append_slash u.RouteKey_host_ne_slash

@[simp] theorem Uri.path_RouteKey (u : Uri) :
    u.RouteKey.path = '/' :: ((Uri.path (u.takeWhile (· ≠ '?'))).drop 1).rdropWhile (· = '/') :=
  Uri.path_append_slash u.RouteKey_host_ne_slash

theorem Uri.RouteKey_eq_host_path (u : Uri) : u.RouteKey = u.RouteKey.host ++ u.RouteKey.path := by
  rw [Uri.host_append_path]

/-- `RouteKey` is a normal form: a route key is its own route key. -/
@[simp] theorem Uri.RouteKey_RouteKey (u : Uri) : u.RouteKey.RouteKey = u.RouteKey := by
  have hq : u.RouteKey.takeWhile (· ≠ '?') = u.RouteKey :=
    List.takeWhile_eq_self_iff.mpr (fun c hc => by simpa using Uri.mem_RouteKey_ne_query hc)
  conv_rhs => rw [u.RouteKey_eq_host_path]
  simp only [Uri.RouteKey.eq_def (u := u.RouteKey), hq, Uri.host_RouteKey, Uri.path_RouteKey,
    List.map_map, List.drop_one, List.tail_cons, List.rdropWhile_idempotent]
  congr 1
  exact List.map_congr_left (fun c _ => toLower_toLower c)

/-! ## NextWildcard -/

/-- A leading `*.` of a wildcard host, dropped. -/
def stripWildcard : List Char → List Char
  | '*' :: '.' :: h => h
  | h => h

theorem stripWildcard_suffix (h : List Char) : stripWildcard h <:+ h := by
  unfold stripWildcard
  split
  · exact (List.suffix_cons _ _).trans (List.suffix_cons _ _)
  · exact List.suffix_refl _

@[simp] theorem stripWildcard_wildcard (s : List Char) : stripWildcard ('*' :: '.' :: s) = s := rfl

/-- `s` is what follows some dot of `h`: a proper dot-suffix. -/
def IsDotSuffix (s h : List Char) : Prop := ∃ pre, h = pre ++ '.' :: s

theorem IsDotSuffix.length_lt {s h : List Char} (hs : IsDotSuffix s h) : s.length < h.length := by
  obtain ⟨pre, rfl⟩ := hs
  simp only [List.length_append, List.length_cons]
  omega

theorem IsDotSuffix.suffix {s h : List Char} (hs : IsDotSuffix s h) : s <:+ h := by
  obtain ⟨pre, rfl⟩ := hs
  exact ⟨pre ++ ['.'], by simp⟩

theorem IsDotSuffix.trans_suffix {s h h' : List Char} (hs : IsDotSuffix s h) (hh : h <:+ h') :
    IsDotSuffix s h' := by
  obtain ⟨pre, rfl⟩ := hs
  obtain ⟨pre', rfl⟩ := hh
  exact ⟨pre' ++ pre, by simp⟩

/-- What follows the first dot, when there is one, is a dot-suffix. -/
theorem isDotSuffix_of_dropWhile :
    ∀ {h s : List Char} {d : Char}, h.dropWhile (· ≠ '.') = d :: s → IsDotSuffix s h
  | [], _, _, hd => by simp at hd
  | c :: cs, s, d, hd => by
    by_cases hc : c = '.'
    · subst hc
      obtain ⟨-, rfl⟩ := List.cons.inj (by simpa using hd)
      exact ⟨[], rfl⟩
    · obtain ⟨pre, rfl⟩ := isDotSuffix_of_dropWhile (by simpa [List.dropWhile_cons, hc] using hd)
      exact ⟨c :: pre, rfl⟩

/-- Modelled from the spec: `Uri.NextWildcard`, absent from the sources. A
leading `*.` is dropped, then everything up to and including the key's first
dot, and `*.` is prepended. The dot is the first of the whole key, so once the
host has none the key is cut in the path. With no dot left the key comes back
unchanged with the error flag (Go's `err != nil`): the sentinel end. -/
def Uri.NextWildcard (u : Uri) : Uri × Bool :=
  match (stripWildcard u).dropWhile (· ≠ '.') with
  | [] => (u, true)
  | _ :: rest => ('*' :: '.' :: rest, false)

/-- The number of characters `NextWildcard` can still drop: the loop's
termination measure. -/
def Uri.wildcardDepth (u : Uri) : Nat := (stripWildcard u).length

theorem Uri.NextWildcard_err {u u' : Uri} (h : u.NextWildcard = (u', true)) : u' = u := by
  unfold Uri.NextWildcard at h
  split at h <;> simp_all

/-- One wildcard step gives `*.` followed by a proper dot-suffix of the key
with its wildcard dropped. -/
theorem Uri.NextWildcard_ok {u u' : Uri} (h : u.NextWildcard = (u', false)) :
    ∃ s, u' = '*' :: '.' :: s ∧ IsDotSuffix s (stripWildcard u) := by
  unfold Uri.NextWildcard at h
  split at h
  · simp at h
  · rename_i hd
    exact ⟨_, (Prod.mk.inj h).1.symm, isDotSuffix_of_dropWhile hd⟩

theorem Uri.wildcardDepth_lt {u u' : Uri} (h : u.NextWildcard = (u', false)) :
    u'.wildcardDepth < u.wildcardDepth := by
  obtain ⟨s, rfl, hdot⟩ := Uri.NextWildcard_ok h
  exact hdot.length_lt

/-- A dot-suffix of `a ++ b` with no dot in `b` is cut in `a`. -/
theorem IsDotSuffix.of_append {s a b : List Char} (hs : IsDotSuffix s (a ++ b)) (hb : '.' ∉ b) :
    ∃ s', s = s' ++ b ∧ IsDotSuffix s' a := by
  obtain ⟨pre, hpre⟩ := hs
  rcases List.append_eq_append_iff.mp hpre with ⟨c, rfl, hc⟩ | ⟨c, rfl, hc⟩
  · exact absurd (hc ▸ List.mem_append_right _ (List.mem_cons_self _ _)) hb
  · cases c with
    | nil => exact absurd ((List.nil_append b ▸ hc) ▸ List.mem_cons_self _ _) hb
    | cons d c =>
      obtain ⟨rfl, rfl⟩ := List.cons.inj (hc.trans (List.cons_append _ _ _))
      exact ⟨c, rfl, pre, rfl⟩

/-- A wildcard cut of a key whose path has no dot falls in the host: the key
it gives keeps the path, and its host is `*.` followed by a proper dot-suffix of
the host. -/
theorem Uri.wildcard_of_isDotSuffix {u : Uri} {s : List Char} (hs : IsDotSuffix s u)
    (hpath : '.' ∉ u.path) :
    Uri.path ('*' :: '.' :: s) = u.path ∧
      ∃ s', Uri.host ('*' :: '.' :: s) = '*' :: '.' :: s' ∧ IsDotSuffix s' u.host := by
  rw [← u.host_append_path] at hs
  obtain ⟨s', rfl, hdot⟩ := hs.of_append hpath
  have hs' : ∀ c ∈ '*' :: '.' :: s', c ≠ '/' := by
    intro c hc
    simp only [List.mem_cons] at hc
    rcases hc with rfl | rfl | hc
    · decide
    · decide
    · exact Uri.ne_slash_of_mem_host (hdot.suffix.subset hc)
  exact ⟨by simpa using Uri.path_append_path hs' u, s', by simpa using Uri.host_append_path_host hs' u,
    hdot⟩

end Gorouter.Route
