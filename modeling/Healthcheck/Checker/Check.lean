import Healthcheck.Checker.Registry
import Healthcheck.Utils.Conn

/-!
# Checker — `Check` of the UDP and UDP-ping checkers

`(*UDPChecker).Check` dials, sets a deadline, writes the PROXY v2 preamble when `proxyProto` is
`"v2"`, writes `send` (or one empty datagram), and reads one datagram into a buffer of
`len(receive)` bytes.  The network is given by what each socket step does (`Sock`); a run returns
the verdict, the error and the socket calls made, in order.  `(*UDPPingChecker).Check` runs the
ping check first, whose outcome and duration are inputs (`ping_checker.go` is not under src/),
and gives the UDP check what is left of the timeout.
-/

namespace Healthcheck.Checker

open Utils

/-! ## 1. Sockets -/

/-- `proxyProtoV2LocalCmd`: the PROXY protocol v2 `LOCAL` header. -/
def proxyProtoV2LocalCmd : GoString :=
  [0x0D, 0x0A, 0x0D, 0x0A, 0x00, 0x0D, 0x0A, 0x51, 0x55, 0x49, 0x54, 0x0A, 0x20, 0x00, 0x00, 0x00]

/-- What the network does with the socket steps of one UDP check. -/
structure Sock where
  /-- `dial.Dial(network, addr)` connects -/
  dialOk : Bool
  /-- the connection is a `*net.UDPConn` -/
  isUDPConn : Bool
  /-- `udpConn.SetDeadline(deadline)` succeeds -/
  setDeadlineOk : Bool
  /-- the connection's `Write`s -/
  conn : Conn
  /-- `udpConn.ReadFrom(buf)`: the datagram that arrives, or the error -/
  readFrom : Except SockError GoString

/-- The socket calls of a check. -/
inductive SockEvent
  | dial (network address : GoString) (timeout : Duration)
  | setDeadline
  | write (call : WriteCall)
  | readFrom (bufLen : Nat)
  | close
  deriving DecidableEq, Repr

/-- The bytes the connection accepted in a socket call: those of a `Write`, none otherwise. -/
def SockEvent.accepted : SockEvent → GoString
  | .write call => call.accepted
  | _ => []

/-- What a `Check` returns, with the socket calls it made in order. -/
structure CheckResult where
  state : State
  err : Option CheckerError
  trace : List SockEvent
  deriving DecidableEq, Repr

/-! ## 2. `(*UDPChecker).Check` -/

/-- `if "v2" == c.proxyProto { err = utils.WriteFull(udpConn, proxyProtoV2LocalCmd) }`. -/
def UDPChecker.writePreamble (c : UDPChecker) (conn : Conn) : Option SockError × List WriteCall :=
  if lit "v2" = c.proxyProto then writeFull conn 0 proxyProtoV2LocalCmd else (none, [])

/-- The write of `send` with `WriteFull`, or of one empty datagram when `send` is empty, as the
`i`-th `Write` on. -/
def UDPChecker.writeSend (c : UDPChecker) (conn : Conn) (i : Nat) :
    Option SockError × List WriteCall :=
  if 0 < c.send.length then writeFull conn i c.send
  else ((conn.write i []).2, [conn.call i []])

/-- The writes of `Check`: the preamble, then `send`; a failed write ends them. -/
def UDPChecker.writeProbe (c : UDPChecker) (conn : Conn) : Option SockError × List WriteCall :=
  let pre := c.writePreamble conn
  if pre.1.isSome then pre
  else
    let ws := c.writeSend conn pre.2.length
    (ws.1, pre.2 ++ ws.2)

/-- The verdict on what `ReadFrom` gives: the datagram, cut to the `len(receive)` bytes of the
buffer, must be `receive`; a timeout passes when `send` and `receive` are both empty. -/
def UDPChecker.verdict (c : UDPChecker) : Except SockError GoString → State
  | .error err =>
    if c.send.length = 0 ∧ c.receive.length = 0 ∧ err = .timeout then .Healthy else .Unhealthy
  | .ok d => if d.take c.receive.length ≠ c.receive then .Unhealthy else .Healthy

/-- `Check` after a successful `SetDeadline`: the writes, then the read. -/
def UDPChecker.exchange (c : UDPChecker) (sock : Sock) : State × List SockEvent :=
  let ws := c.writeProbe sock.conn
  if ws.1.isSome then (.Unhealthy, ws.2.map .write)
  else (c.verdict sock.readFrom, ws.2.map .write ++ [.readFrom c.receive.length])

/-- `Check` on the dialled connection, up to its `return`: a `nil` receiver panics at the first
field it reads, `c.proxyProto`. -/
def UDPChecker.checkConn (c : Option UDPChecker) (sock : Sock) :
    Except RuntimePanic (State × List SockEvent) :=
  if !sock.isUDPConn then .ok (.Unhealthy, [])
  else if !sock.setDeadlineOk then .ok (.Unhealthy, [.setDeadline])
  else match c with
    | none => .error .nilDeref
    | some c => .ok ((c.exchange sock).1, .setDeadline :: (c.exchange sock).2)

/-- `(*UDPChecker).Check(target, timeout)` on the receiver `c`; `defer conn.Close()` closes the
dialled connection on return. -/
def UDPChecker.check (c : Option UDPChecker) (target : L3L4Addr) (timeout : Duration)
    (sock : Sock) : Except RuntimePanic CheckResult :=
  if timeout ≤ 0 then .ok ⟨.Unknown, some (.zeroTimeout (lit "UDP")), []⟩
  else
    let dial := SockEvent.dial target.network target.addr timeout
    if !sock.dialOk then .ok ⟨.Unhealthy, none, [dial]⟩
    else (UDPChecker.checkConn c sock).map fun (state, tr) => ⟨state, none, dial :: tr ++ [.close]⟩

/-! ## 3. `(*UDPPingChecker).Check` -/

/-- `(*UDPPingChecker).Check(target, timeout)`: `ping` is what `c.PingChecker.Check(target,
timeout)` returned, and `elapsed` the time from `start` to the `time.Until` call. -/
def UDPPingChecker.check (c : UDPPingChecker) (target : L3L4Addr) (timeout : Duration)
    (ping : State × Option CheckerError) (elapsed : Duration) (sock : Sock) :
    Except RuntimePanic CheckResult :=
  if timeout ≤ 0 then .ok ⟨.Unknown, some (.zeroTimeout (lit "UDPPing")), []⟩
  else match ping with
    | (_, some err) => .ok ⟨.Unknown, some err, []⟩
    | (state, none) =>
      if state = .Unhealthy then .ok ⟨.Unhealthy, none, []⟩
      else UDPChecker.check c.udpChecker target (timeout - elapsed) sock

/-! ## 4. The writes and the verdict -/

/-- The buffers `Check` writes, one `Write` each: the preamble when `proxyProto` is exactly
`"v2"`, then `send`. -/
def UDPChecker.probe (c : UDPChecker) : List GoString :=
  (if lit "v2" = c.proxyProto then [proxyProtoV2LocalCmd] else []) ++ [c.send]

theorem proxyProtoV2LocalCmd_ne_nil : proxyProtoV2LocalCmd ≠ [] := List.cons_ne_nil _ _

theorem UDPChecker.writeSend_eq (c : UDPChecker) (conn : Conn) (i : Nat) :
    c.writeSend conn i = writeEach conn i [c.send] := by
  rw [writeEach_singleton, UDPChecker.writeSend]
  split_ifs with h
  · exact writeFull_of_ne_nil _ _ (List.length_pos.mp h)
  · rw [List.length_eq_zero.mp (Nat.eq_zero_of_not_pos h)]

/-- `Check` makes one `Write` per buffer of `probe`, since `WriteFull` makes one on a non-empty
slice. -/
theorem UDPChecker.writeProbe_eq (c : UDPChecker) (conn : Conn) :
    c.writeProbe conn = writeEach conn 0 c.probe := by
  unfold UDPChecker.writeProbe UDPChecker.writePreamble UDPChecker.probe
  split_ifs with hv
  · rw [writeFull_of_ne_nil _ _ proxyProtoV2LocalCmd_ne_nil]
    cases hw : (conn.write 0 proxyProtoV2LocalCmd).2 <;> simp [hw, writeSend_eq, writeEach]
  · simp [writeSend_eq]

/-- What a check whose writes all succeed puts on the wire: the preamble exactly when
`proxyProto` is `"v2"`, compared case-sensitively, then `send`. -/
theorem UDPChecker.writeProbe_accepted (c : UDPChecker) (conn : Conn)
    (h : (c.writeProbe conn).1 = none) :
    ((c.writeProbe conn).2.map WriteCall.accepted).flatten =
      (if lit "v2" = c.proxyProto then proxyProtoV2LocalCmd else []) ++ c.send := by
  rw [writeProbe_eq] at h ⊢
  rw [writeEach_accepted _ _ _ h, UDPChecker.probe]
  split_ifs <;> simp

example : UDPChecker.validate (GoMap.single ParamProxyProto (lit "V2")) [(ParamProxyProto, lit "V2")] =
    none ∧ ({ proxyProto := lit "V2" } : UDPChecker).probe = [[]] := by decide

theorem UDPChecker.verdict_eq_healthy_iff (c : UDPChecker) (r : Except SockError GoString) :
    c.verdict r = .Healthy ↔
      (∃ d, r = .ok d ∧ c.receive <+: d) ∨ (r = .error .timeout ∧ c.send = [] ∧ c.receive = []) := by
  cases r with
  | error err =>
    simp only [UDPChecker.verdict, List.length_eq_zero]
    split_ifs with h
    · simp [h.1, h.2.1, h.2.2]
    · simp only [reduceCtorEq, false_and, exists_false, Except.error.injEq, false_or, false_iff]
      exact fun ⟨he, hs, hr⟩ => h ⟨hs, hr, he⟩
  | ok d =>
    simp only [UDPChecker.verdict, List.prefix_iff_eq_take]
    by_cases h : d.take c.receive.length = c.receive
    · simp [h]
    · simp [h, Ne.symm h]

theorem UDPChecker.verdict_cases (c : UDPChecker) (r : Except SockError GoString) :
    c.verdict r = .Healthy ∨ c.verdict r = .Unhealthy := by
  unfold UDPChecker.verdict
  split <;> split_ifs <;> simp

/-! ## 5. `Check`, step by step -/

theorem UDPChecker.exchange_eq (c : UDPChecker) (sock : Sock) :
    c.exchange sock =
      if (c.writeProbe sock.conn).1 = none then
        (c.verdict sock.readFrom,
          (c.writeProbe sock.conn).2.map .write ++ [.readFrom c.receive.length])
      else (.Unhealthy, (c.writeProbe sock.conn).2.map .write) := by
  unfold UDPChecker.exchange
  cases h : (c.writeProbe sock.conn).1 <;> simp [h]

theorem UDPChecker.exchange_state_eq_healthy_iff (c : UDPChecker) (sock : Sock) :
    (c.exchange sock).1 = .Healthy ↔
      (∀ w ∈ (c.writeProbe sock.conn).2, w.err = none) ∧ c.verdict sock.readFrom = .Healthy := by
  rw [exchange_eq, writeProbe_eq, ← writeEach_err_eq_none_iff]
  split_ifs with h <;> simp [h]

theorem UDPChecker.exchange_state_cases (c : UDPChecker) (sock : Sock) :
    (c.exchange sock).1 = .Healthy ∨ (c.exchange sock).1 = .Unhealthy := by
  rw [exchange_eq]
  split_ifs
  · exact c.verdict_cases _
  · exact .inr rfl

theorem UDPChecker.mem_exchange_write (c : UDPChecker) (sock : Sock) (w : WriteCall) :
    SockEvent.write w ∈ (c.exchange sock).2 ↔ w ∈ (c.writeProbe sock.conn).2 := by
  rw [exchange_eq]
  split_ifs <;> simp

theorem UDPChecker.check_of_nonpos (c : Option UDPChecker) (target : L3L4Addr) {timeout : Duration}
    (sock : Sock) (ht : timeout ≤ 0) :
    UDPChecker.check c target timeout sock = .ok ⟨.Unknown, some (.zeroTimeout (lit "UDP")), []⟩ :=
  if_pos ht

/-- Once connected, `Check` returns the verdict of the exchange, with no error, having made every
socket call in order and closed the connection. -/
theorem UDPChecker.check_of_connected (c : UDPChecker) (target : L3L4Addr) {timeout : Duration}
    {sock : Sock} (ht : 0 < timeout) (hd : sock.dialOk) (hu : sock.isUDPConn)
    (hs : sock.setDeadlineOk) :
    UDPChecker.check (some c) target timeout sock =
      .ok ⟨(c.exchange sock).1, none,
        .dial target.network target.addr timeout :: .setDeadline :: (c.exchange sock).2 ++ [.close]⟩ := by
  simp [UDPChecker.check, UDPChecker.checkConn, not_le.mpr ht, hd, hu, hs, Except.map]

/-- When a step before the writes fails, `Check` returns `Unhealthy` with no error and has written
nothing, whatever the receiver. -/
theorem UDPChecker.check_of_not_connected (c : Option UDPChecker) (target : L3L4Addr)
    {timeout : Duration} {sock : Sock} (ht : 0 < timeout)
    (h : ¬(sock.dialOk ∧ sock.isUDPConn ∧ sock.setDeadlineOk)) :
    ∃ tr, UDPChecker.check c target timeout sock = .ok ⟨.Unhealthy, none, tr⟩ ∧
      ∀ w, SockEvent.write w ∉ tr := by
  simp only [UDPChecker.check, UDPChecker.checkConn, not_le.mpr ht, if_false]
  cases hd : sock.dialOk <;> cases hu : sock.isUDPConn <;> cases hs : sock.setDeadlineOk <;>
    simp_all [Except.map]

/-- With a positive budget, `Check` on a checker returns no error. -/
theorem UDPChecker.check_err_none_of_pos (c : UDPChecker) (target : L3L4Addr) {timeout : Duration}
    (sock : Sock) (ht : 0 < timeout) :
    ∃ r, UDPChecker.check (some c) target timeout sock = .ok r ∧ r.err = none := by
  by_cases hc : sock.dialOk ∧ sock.isUDPConn ∧ sock.setDeadlineOk
  · exact ⟨_, c.check_of_connected target ht hc.1 hc.2.1 hc.2.2, rfl⟩
  · obtain ⟨tr, htr, -⟩ := UDPChecker.check_of_not_connected (some c) target ht hc
    exact ⟨_, htr, rfl⟩

/-- Every `Write` of `Check` is one of the writes of `probe`. -/
theorem UDPChecker.mem_check_write {c : UDPChecker} {target : L3L4Addr} {timeout : Duration}
    {sock : Sock} {r : CheckResult} {w : WriteCall}
    (h : UDPChecker.check (some c) target timeout sock = .ok r) (hw : SockEvent.write w ∈ r.trace) :
    w ∈ (writeEach sock.conn 0 c.probe).2 := by
  by_cases ht : timeout ≤ 0
  · rw [UDPChecker.check_of_nonpos _ _ _ ht, Except.ok.injEq] at h
    simp [← h] at hw
  by_cases hc : sock.dialOk ∧ sock.isUDPConn ∧ sock.setDeadlineOk
  · rw [c.check_of_connected target (not_le.mp ht) hc.1 hc.2.1 hc.2.2, Except.ok.injEq] at h
    simpa [← h, c.mem_exchange_write, c.writeProbe_eq] using hw
  · obtain ⟨tr, htr, hnw⟩ := UDPChecker.check_of_not_connected (some c) target (not_le.mp ht) hc
    rw [htr, Except.ok.injEq] at h
    subst h
    exact absurd hw (hnw w)

/-! ## 6. Verdicts -/

/-- `Check` on a checker: with no budget, an error before any socket call; otherwise no error,
the `Write`s of `probe` on the connection exactly when it got connected, and `Healthy` exactly when
every step up to the read succeeded, none of those `Write`s reported an error, and the read
matched. -/
theorem check_verdict (c : UDPChecker) (target : L3L4Addr) (timeout : Duration) (sock : Sock) :
    (timeout ≤ 0 →
      ∃ err, UDPChecker.check (some c) target timeout sock = .ok ⟨.Unknown, some err, []⟩) ∧
    (0 < timeout → ∃ r, UDPChecker.check (some c) target timeout sock = .ok r ∧ r.err = none ∧
      (∀ w, SockEvent.write w ∈ r.trace ↔ sock.dialOk ∧ sock.isUDPConn ∧ sock.setDeadlineOk ∧
        w ∈ (writeEach sock.conn 0 c.probe).2) ∧
      (r.state = .Healthy ↔ sock.dialOk ∧ sock.isUDPConn ∧ sock.setDeadlineOk ∧
          (∀ w ∈ (writeEach sock.conn 0 c.probe).2, w.err = none) ∧
          ((∃ d, sock.readFrom = .ok d ∧ c.receive <+: d) ∨
            (sock.readFrom = .error .timeout ∧ c.send = [] ∧ c.receive = []))) ∧
      (r.state = .Healthy ∨ r.state = .Unhealthy)) := by
  refine ⟨fun ht => ⟨_, UDPChecker.check_of_nonpos _ _ _ ht⟩, fun ht => ?_⟩
  by_cases hc : sock.dialOk ∧ sock.isUDPConn ∧ sock.setDeadlineOk
  · obtain ⟨hd, hu, hs⟩ := hc
    refine ⟨_, c.check_of_connected target ht hd hu hs, rfl, fun w => ?_, ?_,
      c.exchange_state_cases sock⟩
    · simp [hd, hu, hs, c.mem_exchange_write, c.writeProbe_eq]
    · simp only [hd, hu, hs, true_and, c.exchange_state_eq_healthy_iff, c.verdict_eq_healthy_iff,
        c.writeProbe_eq]
  · obtain ⟨tr, htr, hnw⟩ := UDPChecker.check_of_not_connected (some c) target ht hc
    exact ⟨_, htr, rfl, fun w => iff_of_false (hnw w) fun h => hc ⟨h.1, h.2.1, h.2.2.1⟩,
      iff_of_false (by simp) fun h => hc ⟨h.1, h.2.1, h.2.2.1⟩, .inr rfl⟩

/-- A `Healthy` verdict means the whole probe went out: over the check's socket calls the
connection accepted the PROXY v2 preamble, exactly when `proxyProto` is `"v2"`, then all of
`send`. -/
theorem check_healthy_sent_probe {c : UDPChecker} {target : L3L4Addr} {timeout : Duration}
    {sock : Sock} {r : CheckResult} (h : UDPChecker.check (some c) target timeout sock = .ok r)
    (hh : r.state = .Healthy) :
    (r.trace.map SockEvent.accepted).flatten =
      (if lit "v2" = c.proxyProto then proxyProtoV2LocalCmd else []) ++ c.send := by
  have ht : 0 < timeout := by
    by_contra ht
    rw [UDPChecker.check_of_nonpos _ _ _ (not_lt.mp ht), Except.ok.injEq] at h
    simp [← h] at hh
  by_cases hc : sock.dialOk ∧ sock.isUDPConn ∧ sock.setDeadlineOk
  · rw [c.check_of_connected target ht hc.1 hc.2.1 hc.2.2, Except.ok.injEq] at h
    subst h
    have hw : (c.writeProbe sock.conn).1 = none := by
      by_contra hw
      simp [c.exchange_eq, hw] at hh
    rw [c.exchange_eq, if_pos hw, ← c.writeProbe_accepted sock.conn hw]
    simp [SockEvent.accepted, Function.comp_def]
  · obtain ⟨tr, htr, -⟩ := UDPChecker.check_of_not_connected (some c) target ht hc
    rw [htr, Except.ok.injEq] at h
    simp [← h] at hh

theorem check_healthy_sent_probe_v2 :
    ∃ r, UDPChecker.check (some { proxyProto := lit "v2", send := lit "ping", receive := lit "pong" })
        ⟨[192, 0, 2, 1], 53, IPProtoUDP⟩ 1 ⟨true, true, true, Conn.reliable, .ok (lit "pong!")⟩ =
        .ok r ∧ r.state = .Healthy ∧
      (r.trace.map SockEvent.accepted).flatten = proxyProtoV2LocalCmd ++ lit "ping" :=
  have hr := @UDPChecker.check_of_connected
    { proxyProto := lit "v2", send := lit "ping", receive := lit "pong" } ⟨[192, 0, 2, 1], 53, IPProtoUDP⟩
    1 ⟨true, true, true, Conn.reliable, .ok (lit "pong!")⟩ (by decide) rfl rfl rfl
  have hs : (UDPChecker.exchange { proxyProto := lit "v2", send := lit "ping", receive := lit "pong" }
      ⟨true, true, true, Conn.reliable, .ok (lit "pong!")⟩).1 = .Healthy := by
    rw [UDPChecker.exchange_eq, UDPChecker.writeProbe_eq]
    decide
  ⟨_, hr, hs, check_healthy_sent_probe hr hs⟩

/-- `UDPPingChecker.Check` after a ping that returned no error: `Unhealthy` passes through;
otherwise the UDP check runs on what is left of the timeout, and fails with the zero-timeout
error once the ping has spent it. -/
theorem udpPing_check_of_ping_ok (c : UDPPingChecker) (u : UDPChecker) (target : L3L4Addr)
    (timeout elapsed : Duration) (s : State) (sock : Sock) (hu : c.udpChecker = some u)
    (ht : 0 < timeout) :
    UDPPingChecker.check c target timeout (s, none) elapsed sock =
      (if s = .Unhealthy then .ok ⟨.Unhealthy, none, []⟩
      else if elapsed < timeout then UDPChecker.check (some u) target (timeout - elapsed) sock
      else .ok ⟨.Unknown, some (.zeroTimeout (lit "UDP")), []⟩) ∧
    (s ≠ .Unhealthy → ((∃ r, UDPPingChecker.check c target timeout (s, none) elapsed sock = .ok r ∧
      r.err = none) ↔ elapsed < timeout)) := by
  have hcheck : UDPPingChecker.check c target timeout (s, none) elapsed sock =
      if s = .Unhealthy then .ok ⟨.Unhealthy, none, []⟩
      else UDPChecker.check (some u) target (timeout - elapsed) sock := by
    simp [UDPPingChecker.check, not_le.mpr ht, hu]
  rw [hcheck]
  by_cases hs : s = .Unhealthy
  · simp [hs]
  by_cases he : elapsed < timeout
  · simp only [hs, he, if_false, if_true, ne_eq, not_false_eq_true, iff_true, forall_const,
      true_and]
    exact u.check_err_none_of_pos target sock (Int.sub_pos.mpr he)
  · have hz := UDPChecker.check_of_nonpos (some u) target sock
      (Int.sub_nonpos_of_le (not_lt.mp he))
    simp [hs, he, hz]

theorem udpPing_check_of_ping_ok_healthy :
    (⟨some {}, some {}⟩ : UDPPingChecker).udpChecker = some {} ∧ (0 : Duration) < 2 ∧
      (UDPPingChecker.check ⟨some {}, some {}⟩ ⟨[192, 0, 2, 1], 53, IPProtoUDP⟩ 2 (.Healthy, none) 1
          ⟨true, true, true, Conn.reliable, .error .timeout⟩ =
        (if State.Healthy = .Unhealthy then .ok ⟨.Unhealthy, none, []⟩
        else if (1 : Duration) < 2 then
          UDPChecker.check (some {}) ⟨[192, 0, 2, 1], 53, IPProtoUDP⟩ (2 - 1)
            ⟨true, true, true, Conn.reliable, .error .timeout⟩
        else .ok ⟨.Unknown, some (.zeroTimeout (lit "UDP")), []⟩) ∧
      (State.Healthy ≠ .Unhealthy →
        ((∃ r, UDPPingChecker.check ⟨some {}, some {}⟩ ⟨[192, 0, 2, 1], 53, IPProtoUDP⟩ 2
            (.Healthy, none) 1 ⟨true, true, true, Conn.reliable, .error .timeout⟩ = .ok r ∧
          r.err = none) ↔ (1 : Duration) < 2))) :=
  ⟨rfl, by decide, udpPing_check_of_ping_ok _ _ _ _ _ _ _ rfl (by decide)⟩

/-- A ping that takes the whole timeout leaves the UDP check no budget: an error, not `nil`. -/
theorem udpPing_check_budget_spent :
    UDPPingChecker.check ⟨some {}, some {}⟩ ⟨[192, 0, 2, 1], 53, IPProtoUDP⟩ 1 (.Healthy, none) 1
      ⟨true, true, true, Conn.reliable, .ok []⟩ =
      .ok ⟨.Unknown, some (.zeroTimeout (lit "UDP")), []⟩ := by decide

/-- `NewChecker(CheckMethodUDP, target, {"proxy-protocol": "v2"})` returns `&UDPChecker{}`, whose
`Check` writes only the empty datagram, never the preamble; `"v2"` stays in the prototype. -/
theorem newChecker_udp_proxyProto_unbound
    (pingCreate : Option PingChecker → Except RuntimePanic (Except CheckerError PingChecker))
    (target : L3L4Addr) (timeout : Duration) (sock : Sock) :
    newChecker pingCreate initMethods CheckMethodUDP target (GoMap.single ParamProxyProto (lit "v2"))
        [(ParamProxyProto, lit "v2")] =
      .ok (.ok (.udp {}), setMethod initMethods CheckMethodUDP (some (.udp { proxyProto := lit "v2" }))) ∧
    ∀ r, UDPChecker.check (some {}) target timeout sock = .ok r →
      ∀ w, SockEvent.write w ∈ r.trace → w.bytes = [] := by
  refine ⟨by rw [newChecker_udp _ _ _ rfl]; rfl, fun r hr w hw => ?_⟩
  have hprobe : ({} : UDPChecker).probe = [[]] := by decide
  have hmem := UDPChecker.mem_check_write hr hw
  rw [hprobe, writeEach_singleton, List.mem_singleton] at hmem
  rw [hmem, Conn.call_bytes]

end Healthcheck.Checker
