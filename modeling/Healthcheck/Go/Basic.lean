import Mathlib.Data.List.Basic
import Mathlib.Data.List.Nodup
import Mathlib.Data.List.Infix
import Mathlib.Data.List.Perm.Basic

/-!
# Go — the runtime vocabulary of the health checker

A Go `string` is a byte sequence; a `map[string]string` has distinct keys and its `range` visits
the entries in an order the runtime picks afresh each time; reslicing an empty slice or writing
through a nil pointer panics.  The `strings` functions the checker and the actioner call are
modelled on bytes.
-/

namespace Healthcheck

/-- A Go `string`: a sequence of bytes, not necessarily valid UTF-8. -/
abbrev GoString := List UInt8

/-- The bytes of a Go string literal (Go source text is UTF-8). -/
def lit (s : String) : GoString := s.toList.flatMap String.utf8EncodeChar

/-- The run-time panics the modelled code can raise. -/
inductive RuntimePanic
  /-- `invalid memory address or nil pointer dereference` -/
  | nilDeref
  /-- `slice bounds out of range [lo:hi]` -/
  | sliceBounds (lo hi : Nat)
  deriving DecidableEq, Repr

/-- Results of fallible code compare by constructor and payload. -/
instance instDecidableEqExcept {ε α : Type} [DecidableEq ε] [DecidableEq α] :
    DecidableEq (Except ε α)
  | .error a, .error b => decidable_of_iff (a = b) ⟨congrArg _, fun h => by cases h; rfl⟩
  | .ok a, .ok b => decidable_of_iff (a = b) ⟨congrArg _, fun h => by cases h; rfl⟩
  | .error _, .ok _ => isFalse fun h => Except.noConfusion h
  | .ok _, .error _ => isFalse fun h => Except.noConfusion h

/-- `s = s[1:]`; the bounds check fails on an empty slice. -/
def reslice {α : Type} : List α → Except RuntimePanic (List α)
  | [] => .error (.sliceBounds 1 0)
  | _ :: rest => .ok rest

/-- `time.Duration`: nanoseconds.  The modelled code only compares durations with zero and
subtracts an elapsed time from a positive timeout, so `Int` loses no behaviour. -/
abbrev Duration := Int

/-! ## 1. `map[string]string` -/

/-- A Go `map[string]string`: its entries, with distinct keys. -/
structure GoMap where
  entries : List (GoString × GoString)
  keys_nodup : (entries.map Prod.fst).Nodup

namespace GoMap

/-- `v, ok := m[k]`. -/
def get? (m : GoMap) (k : GoString) : Option GoString :=
  (m.entries.find? (·.1 = k)).map Prod.snd

/-- The literal `map[string]string{}`. -/
def empty : GoMap := ⟨[], List.nodup_nil⟩

/-- The literal `map[string]string{k: v}`. -/
def single (k v : GoString) : GoMap := ⟨[(k, v)], List.nodup_singleton k⟩

/-- The orders in which `for k, v := range m` may visit `m`: each entry exactly once. -/
def RangeOrder (m : GoMap) (order : List (GoString × GoString)) : Prop :=
  order.Perm m.entries

/-- Two entries of a map with the same key are the same entry. -/
theorem eq_of_mem_of_mem {m : GoMap} {k v v' : GoString} (h : (k, v) ∈ m.entries)
    (h' : (k, v') ∈ m.entries) : v = v' :=
  congrArg Prod.snd (List.inj_on_of_nodup_map m.keys_nodup h h' rfl)

theorem get?_eq_some_iff (m : GoMap) (k v : GoString) :
    m.get? k = some v ↔ (k, v) ∈ m.entries := by
  have key : ∀ {e}, m.entries.find? (·.1 = k) = some e → e.1 = k ∧ e ∈ m.entries := fun h =>
    ⟨by simpa using List.find?_some h, List.mem_of_find?_eq_some h⟩
  rw [get?, Option.map_eq_some']
  constructor
  · rintro ⟨⟨k', v'⟩, hfind, rfl⟩
    obtain ⟨rfl, hmem⟩ := key hfind
    exact hmem
  · intro hmem
    have hsome : (m.entries.find? (·.1 = k)).isSome := List.find?_isSome.mpr ⟨(k, v), hmem, by simp⟩
    obtain ⟨⟨k', v'⟩, hfind⟩ := Option.isSome_iff_exists.mp hsome
    obtain ⟨rfl, hmem'⟩ := key hfind
    exact ⟨_, hfind, eq_of_mem_of_mem hmem' hmem⟩

theorem get?_eq_none_iff (m : GoMap) (k : GoString) :
    m.get? k = none ↔ ∀ v, (k, v) ∉ m.entries := by
  constructor
  · intro h v hv
    rw [← get?_eq_some_iff] at hv
    simp [hv] at h
  · intro h
    cases hk : m.get? k with
    | none => rfl
    | some v => exact absurd ((get?_eq_some_iff m k v).mp hk) (h v)

end GoMap

/-! ## 2. The `strings` functions -/

namespace Strings

/-- `strings.Split(s, sep)` for a one-byte separator: the pieces between separators, always at
least one. -/
def split (s : GoString) (sep : UInt8) : List GoString := s.splitOn sep

/-- `strings.ToLower`.  On an all-ASCII string Go maps `A`–`Z` to `a`–`z` byte by byte, which is
what this does on every string.  Go lowercases other strings rune by rune; the modelled callers
only test whether the result is `v2` (the strings that lowercase to it are `v2` and `V2`, in Go
and here) or search errno texts, which are ASCII. -/
def toLower (s : GoString) : GoString :=
  s.map fun c => if 65 ≤ c.toNat ∧ c.toNat ≤ 90 then c + 32 else c

/-- `strings.Join(elems, sep)`.  `strings.Split` undoes it when no piece contains a one-byte
separator: that is `List.splitOn_intercalate`. -/
def join (elems : List GoString) (sep : GoString) : GoString := sep.intercalate elems

@[simp] theorem join_singleton (a sep : GoString) : join [a] sep = a := List.append_nil a

theorem join_cons_cons (a b : GoString) (as : List GoString) (sep : GoString) :
    join (a :: b :: as) sep = a ++ sep ++ join (b :: as) sep := by
  simp [join, List.intercalate]

/-- A byte of a joined string is the one-byte separator or a byte of one of the pieces. -/
theorem mem_join : ∀ {xs : List GoString} {sep c : UInt8}, c ∈ join xs [sep] →
    c = sep ∨ ∃ x ∈ xs, c ∈ x
  | [], _, _, h => by simp [join, List.intercalate] at h
  | [a], _, _, h => .inr ⟨a, List.mem_singleton_self a, by rwa [join_singleton] at h⟩
  | a :: b :: as, sep, c, h => by
    simp only [join_cons_cons, List.mem_append, List.mem_singleton] at h
    rcases h with (h | rfl) | h
    · exact .inr ⟨a, List.mem_cons_self a _, h⟩
    · exact .inl rfl
    · rcases mem_join h with h | ⟨x, hx, hc⟩
      · exact .inl h
      · exact .inr ⟨x, List.mem_cons_of_mem a hx, hc⟩

theorem sep_mem_join (a b : GoString) (as : List GoString) (sep : UInt8) :
    sep ∈ join (a :: b :: as) [sep] := by
  simp [join_cons_cons]

/-- `strings.Contains(s, substr)`. -/
def contains (s substr : GoString) : Bool := decide (substr <:+: s)

end Strings

end Healthcheck
