import Healthcheck.Utils.Addr

/-!
# Checker — methods, the UDP checkers and their params

The probe verdict type, the `Method` kinds with their names, the UDP and UDP-ping checkers, and
`(*UDPChecker).validate`: its `range` over the params visits the entries in an order
the runtime picks, returns at the first bad value and collects unknown keys.  Whether it accepts a
map does not depend on that order.
-/

namespace Healthcheck

/-- Modelled from the spec: `pkg/types` is not under src/; a probe verdict is one of `Healthy`,
`Unhealthy`, `Unknown`. -/
inductive State
  | Unknown
  | Healthy
  | Unhealthy
  deriving DecidableEq, Repr

namespace Checker

open Utils

/-! ## 1. Methods -/

/-- `checker.Method`. -/
abbrev Method := UInt16

def CheckMethodNone : Method := 1
def CheckMethodTCP : Method := 2
def CheckMethodUDP : Method := 3
def CheckMethodPing : Method := 4
def CheckMethodUDPPing : Method := 5
def CheckMethodHTTP : Method := 6
def CheckMethodAuto : Method := 10000
def CheckMethodPassive : Method := 65535

/-- `m.String()`. -/
def Method.string (m : Method) : GoString :=
  if m = CheckMethodTCP then lit "tcp"
  else if m = CheckMethodUDP then lit "udp"
  else if m = CheckMethodPing then lit "ping"
  else if m = CheckMethodUDPPing then lit "udpping"
  else if m = CheckMethodNone then lit "none"
  else if m = CheckMethodHTTP then lit "http"
  else if m = CheckMethodPassive then lit "passive"
  else if m = CheckMethodAuto then lit "auto"
  else lit "unknown(" ++ Fmt.decimal m.toNat ++ lit ")"

/-- `ParseMethod(name)`: case-insensitive; `0` for an unknown name. -/
def parseMethod (name : GoString) : Method :=
  let name := Strings.toLower name
  if name = lit "tcp" then CheckMethodTCP
  else if name = lit "udp" then CheckMethodUDP
  else if name = lit "ping" then CheckMethodPing
  else if name = lit "udpping" then CheckMethodUDPPing
  else if name = lit "http" then CheckMethodHTTP
  else if name = lit "none" then CheckMethodNone
  else if name = lit "auto" then CheckMethodAuto
  else 0

/-- `m.TranslateAuto(proto)`: the method `auto` stands for on a target of protocol `proto`. -/
def translateAuto (proto : IPProto) : Method :=
  if proto = IPProtoTCP then CheckMethodTCP
  else if proto = IPProtoUDP then CheckMethodUDPPing
  else CheckMethodPing

/-! ## 2. The UDP checkers and `validate` -/

/-- `UDPChecker`; `&UDPChecker{}` is the structure with its defaults. -/
structure UDPChecker where
  send : GoString := []
  receive : GoString := []
  proxyProto : GoString := []
  deriving DecidableEq, Repr

/-- Modelled from the spec: `ping_checker.go` is not under src/.  The UDP-ping checker only passes
its `*PingChecker` along, so no field of it is modelled. -/
structure PingChecker where
  deriving DecidableEq, Repr

/-- `UDPPingChecker`: its embedded `*PingChecker` and `*UDPChecker`, `none` standing for `nil`. -/
structure UDPPingChecker where
  pingChecker : Option PingChecker := none
  udpChecker : Option UDPChecker := none
  deriving DecidableEq, Repr

/-- `ParamProxyProto`. -/
def ParamProxyProto : GoString := lit "proxy-protocol"

/-- The errors of `(*UDPChecker).validate`, one per `fmt.Errorf`. -/
inductive UDPParamError
  /-- `empty udp checker param: %s` -/
  | empty (param : GoString)
  /-- `invalid udp checker param value: %s:%s` -/
  | invalidValue (param value : GoString)
  /-- `unsupported udp checker params: %q`, the names joined by `,` -/
  | unsupported (params : List GoString)
  deriving DecidableEq, Repr

/-- The `range` loop of `(*UDPChecker).validate` over the entries still to visit; `unsupported`
holds the unknown keys seen so far. -/
def validateLoop (params : GoMap) :
    List (GoString × GoString) → List GoString → Option UDPParamError
  | [], unsupported => if 0 < unsupported.length then some (.unsupported unsupported) else none
  | (param, val) :: rest, unsupported =>
    if param = lit "send" then
      if val.length = 0 then some (.empty param) else validateLoop params rest unsupported
    else if param = lit "receive" then
      if val.length = 0 then some (.empty param) else validateLoop params rest unsupported
    else if param = ParamProxyProto then
      if Strings.toLower val ≠ lit "v2" then
        some (.invalidValue param ((params.get? param).getD []))
      else validateLoop params rest unsupported
    else validateLoop params rest (unsupported ++ [param])

/-- `(*UDPChecker).validate(params)`, its `range` visiting the entries in the order `order`.  The
receiver is not read, so a `nil` receiver does not panic. -/
def UDPChecker.validate (params : GoMap) (order : List (GoString × GoString)) :
    Option UDPParamError :=
  validateLoop params order []

/-- `(*UDPPingChecker).validate(params)`: `c.UDPChecker.validate(params)`. -/
def UDPPingChecker.validate (params : GoMap) (order : List (GoString × GoString)) :
    Option UDPParamError :=
  UDPChecker.validate params order

/-- An entry the `switch` of `validate` lets through: a non-empty `send` or `receive`, or a
`proxy-protocol` that lowercases to `v2`. -/
def ParamOk : GoString × GoString → Prop
  | (k, v) =>
    if k = lit "send" then v ≠ []
    else if k = lit "receive" then v ≠ []
    else if k = ParamProxyProto then Strings.toLower v = lit "v2"
    else False

/-- The params table of `udp_checker.go`, as a property of the whole map: only its three keys,
`send` and `receive` non-empty, `proxy-protocol` lowercasing to `v2`. -/
def UDPParamsOk (params : GoMap) : Prop :=
  (∀ k v, (k, v) ∈ params.entries → k = lit "send" ∨ k = lit "receive" ∨ k = ParamProxyProto) ∧
    (∀ v, params.get? (lit "send") = some v → v ≠ []) ∧
    (∀ v, params.get? (lit "receive") = some v → v ≠ []) ∧
    (∀ v, params.get? ParamProxyProto = some v → Strings.toLower v = lit "v2")

@[simp] theorem receive_ne_send : lit "receive" ≠ lit "send" := by decide
@[simp] theorem proxyProto_ne_send : ParamProxyProto ≠ lit "send" := by decide
@[simp] theorem proxyProto_ne_receive : ParamProxyProto ≠ lit "receive" := by decide

theorem validateLoop_eq_none_iff (params : GoMap) (order : List (GoString × GoString))
    (unsupported : List GoString) :
    validateLoop params order unsupported = none ↔ unsupported = [] ∧ ∀ e ∈ order, ParamOk e := by
  induction order generalizing unsupported with
  | nil => simp [validateLoop, List.length_pos]
  | cons e rest ih =>
    obtain ⟨k, v⟩ := e
    simp only [validateLoop, List.forall_mem_cons, ParamOk.eq_1]
    split_ifs <;> simp_all [List.length_eq_zero]

theorem paramOk_entries_iff (params : GoMap) :
    (∀ e ∈ params.entries, ParamOk e) ↔ UDPParamsOk params := by
  simp only [UDPParamsOk, GoMap.get?_eq_some_iff]
  constructor
  · intro h
    refine ⟨fun k v hkv => ?_, fun v hv => ?_, fun v hv => ?_, fun v hv => ?_⟩ <;>
      have := h _ ‹_› <;> simp only [ParamOk] at this
    · split_ifs at this <;> simp_all
    · simpa using this
    · simpa using this
    · simpa using this
  · rintro ⟨hkeys, hs, hr, hp⟩ ⟨k, v⟩ hkv
    rcases hkeys k v hkv with rfl | rfl | rfl <;> simp [ParamOk, hs, hr, hp, hkv]

/-- `validate` accepts a map exactly when it meets the params table, whatever order its `range`
visits it in. -/
theorem UDPChecker.validate_eq_none_iff_udpParamsOk {params : GoMap}
    {order : List (GoString × GoString)} (horder : params.RangeOrder order) :
    UDPChecker.validate params order = none ↔ UDPParamsOk params := by
  rw [UDPChecker.validate, validateLoop_eq_none_iff, ← paramOk_entries_iff]
  simp only [true_and]
  exact forall_congr' fun e => imp_congr_left horder.mem_iff

/-- `UDPChecker.validate` and `UDPPingChecker.validate` accept a map exactly when it meets the
params table, whatever order their `range` visits it in. -/
theorem validate_eq_none_iff (params : GoMap) (order : List (GoString × GoString))
    (horder : params.RangeOrder order) :
    (UDPChecker.validate params order = none ↔ UDPParamsOk params) ∧
      (UDPPingChecker.validate params order = none ↔ UDPParamsOk params) :=
  ⟨UDPChecker.validate_eq_none_iff_udpParamsOk horder,
    UDPChecker.validate_eq_none_iff_udpParamsOk horder⟩

theorem validate_eq_none_iff_send :
    (GoMap.single (lit "send") (lit "ping")).RangeOrder [(lit "send", lit "ping")] ∧
      ((UDPChecker.validate (GoMap.single (lit "send") (lit "ping")) [(lit "send", lit "ping")] =
          none ↔ UDPParamsOk (GoMap.single (lit "send") (lit "ping"))) ∧
        (UDPPingChecker.validate (GoMap.single (lit "send") (lit "ping"))
            [(lit "send", lit "ping")] = none ↔
          UDPParamsOk (GoMap.single (lit "send") (lit "ping")))) :=
  ⟨List.Perm.refl _, validate_eq_none_iff _ _ (List.Perm.refl _)⟩

example : UDPChecker.validate (GoMap.single (lit "proxy-protocol") (lit "V2"))
    [(lit "proxy-protocol", lit "V2")] = none := by decide

end Checker

end Healthcheck
