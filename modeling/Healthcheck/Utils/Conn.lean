import Healthcheck.Go.Basic

/-!
# Utils — `WriteFull` over a connection

A connection's `Write` is known only through what each call does: how many bytes it accepts and
whether it reports an error, within the `io.Writer` contract (it never accepts more than it is
given, and reports an error whenever it accepts fewer).  `WriteFull` loops until its slice is
empty; the contract is what ends that loop, since a call without error accepts everything.
-/

namespace Healthcheck.Utils

/-- A socket call's error: a `net.Error` whose `Timeout()` holds, or any other. -/
inductive SockError
  | timeout
  | other
  deriving DecidableEq, Repr

/-- A connection's `Write`: its `i`-th call, given `b`, accepts `(write i b).1` bytes and returns
the error `(write i b).2`, as the `io.Writer` contract allows. -/
structure Conn where
  write : Nat → GoString → Nat × Option SockError
  write_le : ∀ i b, (write i b).1 ≤ b.length
  write_short : ∀ i b, (write i b).1 < b.length → (write i b).2.isSome

/-- A connection whose every `Write` accepts all it is given. -/
def Conn.reliable : Conn where
  write _ b := (b.length, none)
  write_le _ _ := le_rfl
  write_short _ _ h := absurd h (lt_irrefl _)

/-- One `Write` call: the bytes it was given, how many it accepted, and its error. -/
structure WriteCall where
  bytes : GoString
  n : Nat
  err : Option SockError
  deriving DecidableEq, Repr

/-- The `i`-th `Write` of `conn` on `b`. -/
def Conn.call (conn : Conn) (i : Nat) (b : GoString) : WriteCall :=
  ⟨b, (conn.write i b).1, (conn.write i b).2⟩

/-- The bytes a `Write` call accepted: `b[:n]`. -/
def WriteCall.accepted (w : WriteCall) : GoString := w.bytes.take w.n

@[simp] theorem Conn.call_bytes (conn : Conn) (i : Nat) (b : GoString) :
    (conn.call i b).bytes = b := rfl

@[simp] theorem Conn.call_err (conn : Conn) (i : Nat) (b : GoString) :
    (conn.call i b).err = (conn.write i b).2 := rfl

/-- A `Write` that returns no error has accepted all it was given. -/
theorem Conn.write_eq_length_of_err_none {conn : Conn} {i : Nat} {b : GoString}
    (h : (conn.write i b).2 = none) : (conn.write i b).1 = b.length := by
  have hs := mt (conn.write_short i b)
  simp only [h, Option.isSome_none, Bool.false_eq_true, not_false_eq_true, not_lt] at hs
  exact le_antisymm (conn.write_le i b) (hs trivial)

theorem Conn.call_accepted {conn : Conn} {i : Nat} {b : GoString} (h : (conn.write i b).2 = none) :
    (conn.call i b).accepted = b := by
  simp [WriteCall.accepted, Conn.call, conn.write_eq_length_of_err_none h]

/-- `WriteFull(conn, b)`, from the `i`-th `Write` of `conn` on: its error and its `Write` calls. -/
def writeFull (conn : Conn) (i : Nat) (b : GoString) : Option SockError × List WriteCall :=
  if 0 < b.length then
    match hw : conn.write i b with
    | (n, some err) => (some err, [⟨b, n, some err⟩])
    | (n, none) =>
      let r := writeFull conn (i + 1) (b.drop n)
      (r.1, ⟨b, n, none⟩ :: r.2)
  else (none, [])
termination_by b.length
decreasing_by
  have hn : n = b.length := by
    simpa only [hw] using
      conn.write_eq_length_of_err_none (show (conn.write i b).2 = none by rw [hw])
  simp only [List.length_drop, hn]
  omega

theorem writeFull_nil (conn : Conn) (i : Nat) : writeFull conn i [] = (none, []) := by
  rw [writeFull]
  rfl

/-- `WriteFull` on a non-empty slice makes exactly one `Write`: one without error accepts it all. -/
theorem writeFull_of_ne_nil (conn : Conn) (i : Nat) {b : GoString} (hb : b ≠ []) :
    writeFull conn i b = ((conn.write i b).2, [conn.call i b]) := by
  have hpos : 0 < b.length := List.length_pos.mpr hb
  rw [writeFull, if_pos hpos]
  split
  · next n err hw => simp [Conn.call, hw]
  · next n hw =>
    have hn : n = b.length := by
      simpa only [hw] using
        conn.write_eq_length_of_err_none (show (conn.write i b).2 = none by rw [hw])
    simp [Conn.call, hw, hn, writeFull_nil]

/-- `WriteFull` makes at most `len(b) + 1` `Write` calls, each one a call of `conn`; the bytes
they accepted are, in order, a prefix of `b`; it returns `nil` exactly when none of its calls
reported an error, and then they accepted all of `b`. -/
theorem writeFull_accepted_prefix (conn : Conn) (i : Nat) (b : GoString) :
    (writeFull conn i b).2.length ≤ b.length + 1 ∧
      (∀ w ∈ (writeFull conn i b).2, ∃ j, w = conn.call j w.bytes) ∧
      ((writeFull conn i b).2.map WriteCall.accepted).flatten <+: b ∧
      ((writeFull conn i b).1 = none ↔ ∀ w ∈ (writeFull conn i b).2, w.err = none) ∧
      ((writeFull conn i b).1 = none →
        ((writeFull conn i b).2.map WriteCall.accepted).flatten = b) := by
  rcases eq_or_ne b [] with rfl | hb
  · simp [writeFull_nil]
  · rw [writeFull_of_ne_nil conn i hb]
    refine ⟨by simp, fun w hw => ⟨i, by rw [List.mem_singleton.mp hw, Conn.call_bytes]⟩,
      by simpa [WriteCall.accepted] using List.take_prefix _ b, by simp, fun h => ?_⟩
    simpa using Conn.call_accepted h

/-- On a connection that takes all it is given, `WriteFull` returns `nil` having written all of
`b`. -/
theorem writeFull_reliable_ping :
    (writeFull Conn.reliable 0 (lit "ping")).1 = none ∧
      ((writeFull Conn.reliable 0 (lit "ping")).2.map WriteCall.accepted).flatten = lit "ping" := by
  have h := writeFull_accepted_prefix Conn.reliable 0 (lit "ping")
  have hnone := h.2.2.2.1.mpr fun w hw => by
    rw [writeFull_of_ne_nil _ _ (by decide), List.mem_singleton] at hw
    rw [hw, Conn.call_err]
    rfl
  exact ⟨hnone, h.2.2.2.2 hnone⟩

/-- A connection whose `Write` takes all it is given and still reports an error, as the
`io.Writer` contract allows. -/
def Conn.acceptAndFail : Conn where
  write _ b := (b.length, some .other)
  write_le _ _ := le_rfl
  write_short _ _ _ := rfl

/-- A `Write` that takes all of `b` and reports an error: every byte was accepted, and `WriteFull`
returns that error. -/
theorem writeFull_accepts_all_and_fails :
    ((writeFull Conn.acceptAndFail 0 [0]).2.map WriteCall.accepted).flatten = [0] ∧
      (writeFull Conn.acceptAndFail 0 [0]).1 = some .other := by
  rw [writeFull_of_ne_nil _ _ (List.cons_ne_nil _ _)]
  exact ⟨rfl, rfl⟩

/-- One `Write` per buffer, from the `i`-th on, stopping at the first error. -/
def writeEach (conn : Conn) (i : Nat) : List GoString → Option SockError × List WriteCall
  | [] => (none, [])
  | b :: bs =>
    match (conn.write i b).2 with
    | some err => (some err, [conn.call i b])
    | none => ((writeEach conn (i + 1) bs).1, conn.call i b :: (writeEach conn (i + 1) bs).2)

theorem writeEach_singleton (conn : Conn) (i : Nat) (b : GoString) :
    writeEach conn i [b] = ((conn.write i b).2, [conn.call i b]) := by
  unfold writeEach
  cases (conn.write i b).2 <;> rfl

/-- The writes end without error exactly when no `Write` made reported one. -/
theorem writeEach_err_eq_none_iff (conn : Conn) (i : Nat) (bs : List GoString) :
    (writeEach conn i bs).1 = none ↔ ∀ w ∈ (writeEach conn i bs).2, w.err = none := by
  induction bs generalizing i with
  | nil => simp [writeEach]
  | cons b bs ih =>
    cases hw : (conn.write i b).2 with
    | some err => simp [writeEach, hw]
    | none => simp [writeEach, hw, ih]

/-- Writes that end without error have sent every buffer, whole and in order. -/
theorem writeEach_accepted (conn : Conn) (i : Nat) (bs : List GoString)
    (h : (writeEach conn i bs).1 = none) :
    ((writeEach conn i bs).2.map WriteCall.accepted).flatten = bs.flatten := by
  induction bs generalizing i with
  | nil => rfl
  | cons b bs ih =>
    cases hw : (conn.write i b).2 with
    | some err => simp [writeEach, hw] at h
    | none =>
      simp only [writeEach, hw] at h ⊢
      simp [Conn.call_accepted hw, ih _ h]

end Healthcheck.Utils
