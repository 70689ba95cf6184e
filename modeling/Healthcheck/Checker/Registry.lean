import Mathlib.Data.List.Sort
import Healthcheck.Checker.Basic

/-!
# Checker — the method registry, `create` and `NewChecker`

`methods` maps each `Method` to the prototype its file's `init` registered, and `NewChecker` asks
that prototype to `create` a checker.  A prototype is a shared pointer, so what `create` writes
through its receiver stays in the registry for every later call.  `(*UDPChecker).create`
validates, stores the params through its receiver `c` and returns the fresh `checker`, which it
leaves empty; `(*UDPPingChecker).create` calls it on its embedded `*UDPChecker`, which is `nil` in
the registered `&UDPPingChecker{}`.
-/

namespace Healthcheck.Checker

open Utils

/-! ## 1. Errors and the registry -/

/-- The errors of `Validate`, `NewChecker` and the checkers, one constructor per `fmt.Errorf`
(a wrapped error is an argument). -/
inductive CheckerError
  /-- `Validate`: `unsupported checker type: %s` -/
  | unsupportedType (kind : Method)
  /-- `NewChecker`: `unsupported checker type %q` -/
  | unsupportedTypeQuoted (kind : Method)
  /-- `checker create failed: %v` -/
  | createFailed (err : CheckerError)
  /-- an error of a checker's `validate` -/
  | udpParam (err : UDPParamError)
  /-- `udp checker param validation failed: %v` -/
  | udpValidationFailed (err : UDPParamError)
  /-- `udpping param checker validation failed: %v` -/
  | udpPingValidationFailed (err : UDPParamError)
  /-- `fail to create udpping checker: %v`, after `PingChecker.create` failed -/
  | pingCreateFailed (err : CheckerError)
  /-- `fail to create udping checker: %v`, after `UDPChecker.create` failed -/
  | udpCreateFailed (err : CheckerError)
  /-- an error of `ping_checker.go` (not under src/), with its text -/
  | ping (msg : GoString)
  /-- `zero timeout on %s check` -/
  | zeroTimeout (checker : GoString)
  deriving DecidableEq, Repr

/-- The `CheckMethod` values of the files under src/. -/
inductive CheckMethod
  | udp (c : UDPChecker)
  | udpPing (c : UDPPingChecker)
  deriving DecidableEq, Repr

/-- `methods`: each prototype held by value, so that a write through a prototype is a new
registry. -/
abbrev Methods := Method → Option CheckMethod

/-- `methods[kind] = method`, or `delete(methods, kind)` for `none`. -/
def setMethod (methods : Methods) (kind : Method) (method : Option CheckMethod) : Methods :=
  fun m => if m = kind then method else methods m

/-- `registerMethod(kind, method)`. -/
def registerMethod (methods : Methods) (kind : Method) (method : CheckMethod) : Methods :=
  setMethod methods kind (some method)

/-- `methods` after the `init`s of `udp_checker.go` and `udpping_checker.go`.  The `init`s of
`none`, `tcp`, `ping` and `http` are in files not under src/; the registries they make are the
`ext` steps of `Reachable`. -/
def initMethods : Methods :=
  registerMethod (registerMethod (fun _ => none) CheckMethodUDP (.udp {})) CheckMethodUDPPing
    (.udpPing {})

@[simp] theorem setMethod_self (methods : Methods) (kind : Method) (method : Option CheckMethod) :
    setMethod methods kind method kind = method := if_pos rfl

@[simp] theorem setMethod_of_ne {methods : Methods} {kind m : Method} (method : Option CheckMethod)
    (h : m ≠ kind) : setMethod methods kind method m = methods m := if_neg h

/-! ## 2. `create` -/

/-- `if val, ok := params[key]; ok { c.<field> = val }`, a store through the receiver `c`. -/
def storeParam (params : GoMap) (key : GoString) (set : UDPChecker → GoString → UDPChecker) :
    Option UDPChecker → Except RuntimePanic (Option UDPChecker)
  | c => match params.get? key, c with
    | none, c => .ok c
    | some _, none => .error .nilDeref
    | some val, some c => .ok (some (set c val))

/-- `(*UDPChecker).create(params)` on the receiver `c` (`none` for `nil`), its `validate` visiting
`params` in the order `order`: the result, and `*c` after the call. -/
def UDPChecker.create (c : Option UDPChecker) (params : GoMap)
    (order : List (GoString × GoString)) :
    Except RuntimePanic (Except CheckerError UDPChecker × Option UDPChecker) :=
  match UDPChecker.validate params order with
  | some err => .ok (.error (.udpValidationFailed err), c)
  | none => do
    let checker : UDPChecker := {}
    let c ← storeParam params (lit "send") (fun c val => { c with send := val }) c
    let c ← storeParam params (lit "receive") (fun c val => { c with receive := val }) c
    let c ← storeParam params ParamProxyProto (fun c val => { c with proxyProto := val }) c
    return (.ok checker, c)

/-- The prototype `u` once the three stores of `create` have run: each field takes its param's
value, or keeps its own when the key is absent. -/
def UDPChecker.withParams (u : UDPChecker) (params : GoMap) : UDPChecker where
  send := (params.get? (lit "send")).getD u.send
  receive := (params.get? (lit "receive")).getD u.receive
  proxyProto := (params.get? ParamProxyProto).getD u.proxyProto

/-- Whether `params` has one of the keys `create` stores. -/
def HasUDPParam (params : GoMap) : Bool :=
  (params.get? (lit "send")).isSome || (params.get? (lit "receive")).isSome ||
    (params.get? ParamProxyProto).isSome

theorem storeParam_some {params : GoMap} {key : GoString} (set : UDPChecker → GoString → UDPChecker)
    (u : UDPChecker) :
    storeParam params key set (some u) = .ok (some ((params.get? key).elim u (set u))) := by
  unfold storeParam
  cases params.get? key <;> rfl

theorem storeParam_none {params : GoMap} {key : GoString}
    (set : UDPChecker → GoString → UDPChecker) :
    storeParam params key set none =
      if (params.get? key).isSome then .error .nilDeref else .ok none := by
  unfold storeParam
  cases params.get? key <;> rfl

theorem UDPChecker.create_of_validate_eq_some {params : GoMap}
    {order : List (GoString × GoString)} {err : UDPParamError} (c : Option UDPChecker)
    (h : UDPChecker.validate params order = some err) :
    UDPChecker.create c params order = .ok (.error (.udpValidationFailed err), c) := by
  simp only [UDPChecker.create, h]

/-- On a prototype, an accepted `create` returns the empty checker and writes the params into the
prototype. -/
theorem UDPChecker.create_some {params : GoMap} {order : List (GoString × GoString)}
    (u : UDPChecker) (h : UDPChecker.validate params order = none) :
    UDPChecker.create (some u) params order = .ok (.ok {}, some (u.withParams params)) := by
  simp only [UDPChecker.create, h, storeParam_some, bind, Except.bind, pure, Except.pure,
    UDPChecker.withParams]
  cases params.get? (lit "send") <;> cases params.get? (lit "receive") <;>
    cases params.get? ParamProxyProto <;> rfl

/-- On a `nil` receiver, an accepted `create` panics exactly when there is a param to store. -/
theorem UDPChecker.create_none {params : GoMap} {order : List (GoString × GoString)}
    (h : UDPChecker.validate params order = none) :
    UDPChecker.create none params order =
      if HasUDPParam params then .error .nilDeref else .ok (.ok {}, none) := by
  simp only [UDPChecker.create, h, HasUDPParam, bind, Except.bind, pure, Except.pure]
  by_cases hs : (params.get? (lit "send")).isSome <;>
    by_cases hr : (params.get? (lit "receive")).isSome <;>
    by_cases hp : (params.get? ParamProxyProto).isSome <;> simp [storeParam_none, hs, hr, hp]

/-- A map `validate` accepts has a param to store exactly when it is not empty. -/
theorem hasUDPParam_iff {params : GoMap} (h : UDPParamsOk params) :
    HasUDPParam params = true ↔ params.entries ≠ [] := by
  simp only [HasUDPParam, Bool.or_eq_true, Option.isSome_iff_exists, GoMap.get?_eq_some_iff]
  constructor
  · rintro ((⟨v, hv⟩ | ⟨v, hv⟩) | ⟨v, hv⟩) <;> exact List.ne_nil_of_mem hv
  · intro hne
    obtain ⟨⟨k, v⟩, hkv⟩ := List.exists_mem_of_ne_nil _ hne
    rcases h.1 k v hkv with rfl | rfl | rfl
    · exact .inl (.inl ⟨v, hkv⟩)
    · exact .inl (.inr ⟨v, hkv⟩)
    · exact .inr ⟨v, hkv⟩

section UDPPing

-- `c.PingChecker.create(nil)`, from `ping_checker.go`, which is not under src/.
variable (pingCreate : Option PingChecker → Except RuntimePanic (Except CheckerError PingChecker))

/-- `(*UDPPingChecker).create(params)`: the result, and `*c` after the call, its `*UDPChecker`
written through.  Both `validate`s are given the same order: whether `validate` accepts does not
depend on it (`UDPChecker.validate_eq_none_iff_udpParamsOk`), and only that is read here. -/
def UDPPingChecker.create (c : UDPPingChecker) (params : GoMap)
    (order : List (GoString × GoString)) :
    Except RuntimePanic (Except CheckerError UDPPingChecker × UDPPingChecker) :=
  match UDPPingChecker.validate params order with
  | some err => .ok (.error (.udpPingValidationFailed err), c)
  | none => do
    match ← pingCreate c.pingChecker with
    | .error err => return (.error (.pingCreateFailed err), c)
    | .ok pingChecker =>
      let (udpChecker, u) ← UDPChecker.create c.udpChecker params order
      let c := { c with udpChecker := u }
      match udpChecker with
      | .error err => return (.error (.udpCreateFailed err), c)
      | .ok udpChecker => return (.ok ⟨some pingChecker, some udpChecker⟩, c)

/-! ## 3. `Validate` and `NewChecker` -/

/-- `Validate(kind, configs)`. -/
def validate (methods : Methods) (kind : Method) (configs : GoMap)
    (order : List (GoString × GoString)) : Option CheckerError :=
  if kind = CheckMethodAuto then none
  else match methods kind with
    | none => some (.unsupportedType kind)
    | some (.udp _) => (UDPChecker.validate configs order).map .udpParam
    | some (.udpPing _) => (UDPPingChecker.validate configs order).map .udpParam

/-- `NewChecker(kind, target, configs)`: the checker, and the registry after the call. -/
def newChecker (methods : Methods) (kind : Method) (_target : L3L4Addr) (configs : GoMap)
    (order : List (GoString × GoString)) :
    Except RuntimePanic (Except CheckerError CheckMethod × Methods) :=
  match methods kind with
  | none => .ok (.error (.unsupportedTypeQuoted kind), methods)
  | some (.udp proto) => do
    let (checker, proto) ← UDPChecker.create (some proto) configs order
    let methods := setMethod methods kind (proto.map .udp)
    match checker with
    | .error err => return (.error (.createFailed err), methods)
    | .ok checker => return (.ok (.udp checker), methods)
  | some (.udpPing proto) => do
    let (checker, proto) ← UDPPingChecker.create pingCreate proto configs order
    let methods := registerMethod methods kind (.udpPing proto)
    match checker with
    | .error err => return (.error (.createFailed err), methods)
    | .ok checker => return (.ok (.udpPing checker), methods)

/-- The methods whose files are not under src/: `none`, `tcp`, `ping` and `http`. -/
def ExtMethods : List Method := [CheckMethodNone, CheckMethodTCP, CheckMethodPing, CheckMethodHTTP]

/-- The registries a program reaches from its `init`s by `NewChecker` calls that return.  The
`init`s of `ExtMethods` and their `create`s write only their own slot; the model has no value for
those prototypes, so `ext` lets the slot hold anything, and nothing proved of a run depends on
what it holds. -/
inductive Reachable : Methods → Prop
  | init : Reachable initMethods
  | step {methods methods' : Methods} {kind : Method} {target : L3L4Addr} {configs : GoMap}
      {order : List (GoString × GoString)} {r : Except CheckerError CheckMethod} :
      Reachable methods → newChecker pingCreate methods kind target configs order = .ok (r, methods') →
      Reachable methods'
  | ext {methods : Methods} {kind : Method} (method : Option CheckMethod) :
      Reachable methods → kind ∈ ExtMethods → Reachable (setMethod methods kind method)

/-! ## 4. `NewChecker` on each prototype -/

variable {pingCreate}

/-- `NewChecker` on a UDP prototype `u`: on accepted params the empty checker, the params going
into the prototype. -/
theorem newChecker_udp {methods : Methods} {kind : Method} {u : UDPChecker} (target : L3L4Addr)
    (configs : GoMap) (order : List (GoString × GoString)) (h : methods kind = some (.udp u)) :
    newChecker pingCreate methods kind target configs order =
      match UDPChecker.validate configs order with
      | some err =>
        .ok (.error (.createFailed (.udpValidationFailed err)),
          setMethod methods kind (some (.udp u)))
      | none =>
        .ok (.ok (.udp {}), setMethod methods kind (some (.udp (u.withParams configs)))) := by
  cases hv : UDPChecker.validate configs order with
  | some err =>
    simp [newChecker, h, UDPChecker.create_of_validate_eq_some _ hv, bind, Except.bind, pure,
      Except.pure]
  | none => simp [newChecker, h, UDPChecker.create_some _ hv, bind, Except.bind, pure, Except.pure]

theorem UDPPingChecker.create_of_validate_eq_none {c : UDPPingChecker} {params : GoMap}
    {order : List (GoString × GoString)} (h : UDPChecker.validate params order = none) :
    UDPPingChecker.create pingCreate c params order = do
      match ← pingCreate c.pingChecker with
      | .error err => return (.error (.pingCreateFailed err), c)
      | .ok pingChecker =>
        let (udpChecker, u) ← UDPChecker.create c.udpChecker params order
        let c := { c with udpChecker := u }
        match udpChecker with
        | .error err => return (.error (.udpCreateFailed err), c)
        | .ok udpChecker => return (.ok ⟨some pingChecker, some udpChecker⟩, c) := by
  simp only [UDPPingChecker.create, UDPPingChecker.validate, h]

/-- `&UDPPingChecker{}` stays as it is through any `create` that returns. -/
theorem UDPPingChecker.create_empty {params : GoMap} {order : List (GoString × GoString)}
    {r : Except CheckerError UDPPingChecker} {c : UDPPingChecker}
    (h : UDPPingChecker.create pingCreate {} params order = .ok (r, c)) : c = {} := by
  cases hv : UDPChecker.validate params order with
  | some err =>
    simp only [UDPPingChecker.create, UDPPingChecker.validate, hv, Except.ok.injEq,
      Prod.mk.injEq] at h
    exact h.2.symm
  | none =>
    rw [UDPPingChecker.create_of_validate_eq_none hv] at h
    rcases hp : pingCreate none with p | (err | ping)
    · simp [hp, bind, Except.bind] at h
    · simp [hp, bind, Except.bind, pure, Except.pure] at h
      exact h.2.symm
    · simp only [hp, UDPChecker.create_none hv, bind, Except.bind, pure, Except.pure] at h
      split_ifs at h
      simp at h
      exact h.2.symm

/-- `NewChecker` on a UDP-ping prototype whose `*UDPChecker` is `nil`, once `PingChecker.create`
succeeds: accepted params panic as soon as there is one to store. -/
theorem newChecker_udpPing_nil {methods : Methods} {kind : Method} {pc : Option PingChecker}
    {ping : PingChecker} (target : L3L4Addr) {configs : GoMap} {order : List (GoString × GoString)}
    (h : methods kind = some (.udpPing ⟨pc, none⟩)) (hping : pingCreate pc = .ok (.ok ping))
    (hv : UDPChecker.validate configs order = none) :
    newChecker pingCreate methods kind target configs order =
      if HasUDPParam configs then .error .nilDeref
      else .ok (.ok (.udpPing ⟨some ping, some {}⟩),
        registerMethod methods kind (.udpPing ⟨pc, none⟩)) := by
  simp only [newChecker, h, UDPPingChecker.create_of_validate_eq_none hv, hping,
    UDPChecker.create_none hv, bind, Except.bind, pure, Except.pure]
  split_ifs <;> rfl

/-! ## 5. Runs of `NewChecker` calls -/

/-- `NewChecker(kind, …)` writes only the slot of `kind`. -/
theorem newChecker_frame {methods methods' : Methods} {kind m : Method} {target : L3L4Addr}
    {configs : GoMap} {order : List (GoString × GoString)} {r : Except CheckerError CheckMethod}
    (h : newChecker pingCreate methods kind target configs order = .ok (r, methods'))
    (hm : m ≠ kind) : methods' m = methods m := by
  unfold newChecker at h
  split at h
  · cases h; rfl
  · next u _ =>
    rcases hc : UDPChecker.create (some u) configs order with e | ⟨c, p⟩ <;>
      simp only [hc, bind, Except.bind, reduceCtorEq] at h
    split at h <;> (cases h; exact setMethod_of_ne _ hm)
  · next c _ =>
    rcases hc : UDPPingChecker.create pingCreate c configs order with e | ⟨c, p⟩ <;>
      simp only [hc, bind, Except.bind, reduceCtorEq] at h
    split at h <;> (cases h; exact setMethod_of_ne _ hm)

/-- What every reachable registry holds: a UDP prototype, which may have taken params, the
untouched `&UDPPingChecker{}`, and nothing under a kind outside `ExtMethods`. -/
structure RegistryInv (methods : Methods) : Prop where
  udp : ∃ u, methods CheckMethodUDP = some (.udp u)
  udpPing : methods CheckMethodUDPPing = some (.udpPing {})
  other : ∀ m, m ≠ CheckMethodUDP → m ≠ CheckMethodUDPPing → m ∉ ExtMethods → methods m = none

theorem registryInv_initMethods : RegistryInv initMethods where
  udp := ⟨{}, rfl⟩
  udpPing := rfl
  other m h h' _ := by simp [initMethods, registerMethod, h, h']

/-- A write to the slot of a kind other than `udp` and `udpping` keeps the invariant when that
kind is one of `ExtMethods`. -/
theorem RegistryInv.setMethod_ext {methods : Methods} {kind : Method} (hinv : RegistryInv methods)
    (hu : kind ≠ CheckMethodUDP) (hp : kind ≠ CheckMethodUDPPing) (hk : kind ∈ ExtMethods)
    (method : Option CheckMethod) : RegistryInv (setMethod methods kind method) where
  udp := by rw [setMethod_of_ne _ (Ne.symm hu)]; exact hinv.udp
  udpPing := by rw [setMethod_of_ne _ (Ne.symm hp)]; exact hinv.udpPing
  other m h h' hm := by
    rw [setMethod_of_ne _ (show m ≠ kind from fun e => hm (e ▸ hk))]
    exact hinv.other m h h' hm

theorem RegistryInv.setMethod_udp {methods : Methods} (hinv : RegistryInv methods)
    (u : UDPChecker) :
    RegistryInv (setMethod methods CheckMethodUDP (some (.udp u))) where
  udp := ⟨u, setMethod_self _ _ _⟩
  udpPing := by rw [setMethod_of_ne _ (by decide)]; exact hinv.udpPing
  other m h h' hm := by rw [setMethod_of_ne _ h]; exact hinv.other m h h' hm

theorem RegistryInv.registerMethod_udpPing {methods : Methods} (hinv : RegistryInv methods) :
    registerMethod methods CheckMethodUDPPing (.udpPing {}) = methods := by
  funext m
  by_cases h : m = CheckMethodUDPPing
  · subst h; exact hinv.udpPing.symm
  · exact setMethod_of_ne _ h

/-- One `NewChecker` call keeps the registry invariant. -/
theorem RegistryInv.of_newChecker {methods methods' : Methods} {kind : Method} {target : L3L4Addr}
    {configs : GoMap} {order : List (GoString × GoString)} {r : Except CheckerError CheckMethod}
    (hinv : RegistryInv methods)
    (h : newChecker pingCreate methods kind target configs order = .ok (r, methods')) :
    RegistryInv methods' := by
  by_cases hu : kind = CheckMethodUDP
  · subst hu
    obtain ⟨u, hm⟩ := hinv.udp
    rw [newChecker_udp _ _ _ hm] at h
    cases hv : UDPChecker.validate configs order <;>
      simp only [hv, Except.ok.injEq, Prod.mk.injEq] at h <;> rw [← h.2]
    · exact hinv.setMethod_udp _
    · exact hinv.setMethod_udp u
  by_cases hp : kind = CheckMethodUDPPing
  · subst hp
    rcases hc : UDPPingChecker.create pingCreate {} configs order with p | ⟨r', c⟩
    · simp [newChecker, hinv.udpPing, hc, bind, Except.bind] at h
    · rw [UDPPingChecker.create_empty hc] at hc
      simp only [newChecker, hinv.udpPing, hc, bind, Except.bind, pure, Except.pure,
        hinv.registerMethod_udpPing] at h
      split at h <;> simp_all
  by_cases hk : kind ∈ ExtMethods
  · have hframe : methods' = setMethod methods kind (methods' kind) := by
      funext m
      by_cases hm : m = kind
      · subst hm; exact (setMethod_self _ _ _).symm
      · rw [setMethod_of_ne _ hm, newChecker_frame h hm]
    exact hframe ▸ hinv.setMethod_ext hu hp hk _
  · simp only [newChecker, hinv.other kind hu hp hk, Except.ok.injEq, Prod.mk.injEq] at h
    exact h.2 ▸ hinv

theorem Reachable.registryInv {methods : Methods} (h : Reachable pingCreate methods) :
    RegistryInv methods := by
  induction h with
  | init => exact registryInv_initMethods
  | step _ hstep ih => exact ih.of_newChecker hstep
  | ext method _ hk ih =>
    refine ih.setMethod_ext ?_ ?_ hk method <;> rintro rfl <;> revert hk <;> decide

/-- In every run, once `PingChecker.create(nil)` succeeds, `NewChecker(CheckMethodUDPPing, …)` on
accepted params panics exactly when the map is not empty. -/
theorem Reachable.udpPing_newChecker {methods : Methods} (hm : Reachable pingCreate methods)
    {ping : PingChecker} (hping : pingCreate none = .ok (.ok ping)) (target : L3L4Addr)
    {configs : GoMap} {order : List (GoString × GoString)} (horder : configs.RangeOrder order)
    (hv : UDPChecker.validate configs order = none) :
    newChecker pingCreate methods CheckMethodUDPPing target configs order =
      if configs.entries ≠ [] then .error .nilDeref
      else .ok (.ok (.udpPing ⟨some ping, some {}⟩), methods) := by
  have hinv := hm.registryInv
  rw [newChecker_udpPing_nil _ hinv.udpPing hping hv, hinv.registerMethod_udpPing]
  have hok := (UDPChecker.validate_eq_none_iff_udpParamsOk horder).mp hv
  simp only [← hasUDPParam_iff hok]

theorem Reachable.udpPing_newChecker_init :
    Reachable (fun _ => .ok (.ok {})) initMethods ∧
      (fun _ => .ok (.ok {}) : Option PingChecker → Except RuntimePanic
        (Except CheckerError PingChecker)) none = .ok (.ok {}) ∧
      (GoMap.single (lit "send") (lit "ping")).RangeOrder [(lit "send", lit "ping")] ∧
      UDPChecker.validate (GoMap.single (lit "send") (lit "ping")) [(lit "send", lit "ping")] =
        none ∧
      newChecker (fun _ => .ok (.ok {})) initMethods CheckMethodUDPPing
          ⟨[192, 0, 2, 1], 53, IPProtoUDP⟩ (GoMap.single (lit "send") (lit "ping"))
          [(lit "send", lit "ping")] =
        if (GoMap.single (lit "send") (lit "ping")).entries ≠ [] then .error .nilDeref
        else .ok (.ok (.udpPing ⟨some {}, some {}⟩), initMethods) :=
  ⟨.init, rfl, List.Perm.refl _, by decide,
    Reachable.udpPing_newChecker .init rfl _ (List.Perm.refl _) (by decide)⟩

/-- What `NewChecker` returns reads the registry only through the prototype of its kind. -/
theorem newChecker_fst_congr {methods methods' : Methods} {kind : Method}
    (h : methods kind = methods' kind) (target : L3L4Addr) (configs : GoMap)
    (order : List (GoString × GoString)) :
    (newChecker pingCreate methods kind target configs order).map Prod.fst =
      (newChecker pingCreate methods' kind target configs order).map Prod.fst := by
  simp only [newChecker, h]
  split
  · rfl
  · cases UDPChecker.create _ configs order with
    | error e => rfl
    | ok r => obtain ⟨c, p⟩ := r; cases c <;> rfl
  · cases UDPPingChecker.create pingCreate _ configs order with
    | error e => rfl
    | ok r => obtain ⟨c, p⟩ := r; cases c <;> rfl

/-- In every run, `Validate` and what `NewChecker` returns for `udp` and `udpping`, the methods
whose code is under src/, are what they are on the registry the `init`s built: an earlier
`NewChecker` call never changes a later call's result, although it writes its params into the UDP
prototype. -/
theorem newChecker_history_independent {methods : Methods} (hm : Reachable pingCreate methods)
    {kind : Method} (hk : kind = CheckMethodUDP ∨ kind = CheckMethodUDPPing) (target : L3L4Addr)
    (configs : GoMap) (order : List (GoString × GoString)) :
    validate methods kind configs order = validate initMethods kind configs order ∧
      (newChecker pingCreate methods kind target configs order).map Prod.fst =
        (newChecker pingCreate initMethods kind target configs order).map Prod.fst := by
  have hinv := hm.registryInv
  rcases hk with rfl | rfl
  · obtain ⟨u, hu⟩ := hinv.udp
    have hinit : initMethods CheckMethodUDP = some (.udp {}) := rfl
    refine ⟨by simp only [validate, hu, hinit], ?_⟩
    rw [newChecker_udp _ _ _ hu, newChecker_udp _ _ _ hinit]
    cases UDPChecker.validate configs order <;> rfl
  · have h := hinv.udpPing.trans registryInv_initMethods.udpPing.symm
    exact ⟨by simp only [validate, h], newChecker_fst_congr h target configs order⟩

/-- After `NewChecker(CheckMethodUDP, …, {"send": "ping"})` wrote `"ping"` into the prototype, a
later call still gets what it gets on the `init` registry. -/
theorem newChecker_history_independent_after_send :
    Reachable (fun _ => .ok (.ok {}))
        (setMethod initMethods CheckMethodUDP (some (.udp { send := lit "ping" }))) ∧
      (CheckMethodUDP = CheckMethodUDP ∨ CheckMethodUDP = CheckMethodUDPPing) ∧
      validate (setMethod initMethods CheckMethodUDP (some (.udp { send := lit "ping" })))
          CheckMethodUDP (GoMap.single (lit "receive") (lit "pong"))
          [(lit "receive", lit "pong")] =
        validate initMethods CheckMethodUDP (GoMap.single (lit "receive") (lit "pong"))
          [(lit "receive", lit "pong")] ∧
      (newChecker (fun _ => .ok (.ok {}))
          (setMethod initMethods CheckMethodUDP (some (.udp { send := lit "ping" })))
          CheckMethodUDP ⟨[192, 0, 2, 1], 53, IPProtoUDP⟩ (GoMap.single (lit "receive") (lit "pong"))
          [(lit "receive", lit "pong")]).map Prod.fst =
        (newChecker (fun _ => .ok (.ok {})) initMethods CheckMethodUDP ⟨[192, 0, 2, 1], 53, IPProtoUDP⟩
          (GoMap.single (lit "receive") (lit "pong")) [(lit "receive", lit "pong")]).map Prod.fst :=
  have hm : Reachable (fun _ => .ok (.ok {}))
      (setMethod initMethods CheckMethodUDP (some (.udp { send := lit "ping" }))) :=
    @Reachable.step _ _ _ CheckMethodUDP ⟨[192, 0, 2, 1], 53, IPProtoUDP⟩
      (GoMap.single (lit "send") (lit "ping")) [(lit "send", lit "ping")] (.ok (.udp {})) .init
      (by rw [newChecker_udp _ _ _ rfl]; rfl)
  ⟨hm, .inl rfl, newChecker_history_independent hm (.inl rfl) _ _ _⟩

/-- In every run, `Validate` predicts `NewChecker` for every kind but `udpping`, `auto` and the
methods whose files are not under src/: such a kind gets a checker exactly when `Validate` accepts
its configs.  `auto` passes `Validate` and is refused by `NewChecker`, since no `init` registers a
prototype for it. -/
theorem validate_predicts_newChecker {methods : Methods} (hm : Reachable pingCreate methods)
    (target : L3L4Addr) (configs : GoMap) (order : List (GoString × GoString)) :
    (∀ kind, kind ∉ CheckMethodUDPPing :: CheckMethodAuto :: ExtMethods →
      (validate methods kind configs order = none ↔
        ∃ c methods', newChecker pingCreate methods kind target configs order = .ok (.ok c, methods'))) ∧
      validate methods CheckMethodAuto configs order = none ∧
      newChecker pingCreate methods CheckMethodAuto target configs order =
        .ok (.error (.unsupportedTypeQuoted CheckMethodAuto), methods) := by
  have hinv := hm.registryInv
  have hauto := hinv.other CheckMethodAuto (by decide) (by decide) (by decide)
  refine ⟨fun kind hk => ?_, if_pos rfl, by simp [newChecker, hauto]⟩
  simp only [List.mem_cons, not_or] at hk
  obtain ⟨hp, ha, hk⟩ := hk
  by_cases hu : kind = CheckMethodUDP
  · subst hu
    obtain ⟨u, hu⟩ := hinv.udp
    rw [newChecker_udp _ _ _ hu]
    cases hv : UDPChecker.validate configs order <;> simp [validate, hu, hv, ha]
  · simp [validate, newChecker, hinv.other kind hu hp hk, ha]

theorem validate_predicts_newChecker_init :
    Reachable (fun _ => .ok (.ok {})) initMethods ∧
      (∀ kind, kind ∉ CheckMethodUDPPing :: CheckMethodAuto :: ExtMethods →
        (validate initMethods kind (GoMap.single (lit "send") (lit "ping"))
            [(lit "send", lit "ping")] = none ↔
          ∃ c methods', newChecker (fun _ => .ok (.ok {})) initMethods kind
            ⟨[192, 0, 2, 1], 53, IPProtoUDP⟩ (GoMap.single (lit "send") (lit "ping"))
            [(lit "send", lit "ping")] = .ok (.ok c, methods'))) ∧
      validate initMethods CheckMethodAuto (GoMap.single (lit "send") (lit "ping"))
        [(lit "send", lit "ping")] = none ∧
      newChecker (fun _ => .ok (.ok {})) initMethods CheckMethodAuto ⟨[192, 0, 2, 1], 53, IPProtoUDP⟩
          (GoMap.single (lit "send") (lit "ping")) [(lit "send", lit "ping")] =
        .ok (.error (.unsupportedTypeQuoted CheckMethodAuto), initMethods) :=
  ⟨.init, validate_predicts_newChecker .init _ _ _⟩

/-- `NewChecker(CheckMethodUDP, target, {"send": "ping"})` returns a checker whose `send` is
empty, and leaves `"ping"` in the registered prototype. -/
theorem newChecker_udp_send_ping (target : L3L4Addr) :
    newChecker pingCreate initMethods CheckMethodUDP target (GoMap.single (lit "send") (lit "ping"))
        [(lit "send", lit "ping")] =
      .ok (.ok (.udp {}), setMethod initMethods CheckMethodUDP (some (.udp { send := lit "ping" }))) := by
  rw [newChecker_udp _ _ _ rfl]
  rfl

/-- `Validate` accepts `{"send": "ping"}` for `CheckMethodUDPPing`, and `NewChecker` on it
dereferences the `nil` `*UDPChecker` of the registered `&UDPPingChecker{}`. -/
theorem newChecker_udpPing_send_panics (target : L3L4Addr) (ping : PingChecker) :
    validate initMethods CheckMethodUDPPing (GoMap.single (lit "send") (lit "ping"))
        [(lit "send", lit "ping")] = none ∧
      newChecker (fun _ => .ok (.ok ping)) initMethods CheckMethodUDPPing target
        (GoMap.single (lit "send") (lit "ping")) [(lit "send", lit "ping")] = .error .nilDeref :=
  ⟨by decide, by rw [newChecker_udpPing_nil target rfl rfl (by decide)]; rfl⟩

/-! ## 6. `DumpMethods` -/

end UDPPing

end Healthcheck.Checker
