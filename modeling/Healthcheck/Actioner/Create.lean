import Healthcheck.Actioner.KernelRoute

/-!
# Actioner — `KernelRouteAction.validate` and `create`

`create(target, params)` refuses a target with no address, then has `validate` check the params:
`ifname` is required and must be non-empty, `with-route` must be read by `utils.String2bool`, and
any other key is refused once the `range` is over.  `utils.String2bool` is not under src/: it is
the parameter `string2bool`, which gives the value it reads and its error.
-/

namespace Healthcheck.Actioner

open Utils

/-- The errors of `(*KernelRouteAction).validate`, one per `fmt.Errorf`. -/
inductive KernelRouteParamError
  /-- `missing required action params: %v`, the names joined by `,` -/
  | missing (params : List GoString)
  /-- `empty action param %s` -/
  | empty (param : GoString)
  /-- `invalid action param %s=%s` -/
  | invalidValue (param value : GoString)
  /-- `unsupported action params: %s`, the names joined by `,` -/
  | unsupported (params : List GoString)
  deriving DecidableEq, Repr

/-- The errors of `(*KernelRouteAction).create`. -/
inductive KernelRouteCreateError
  /-- `no target address for %s actioner` -/
  | noTarget (name : GoString)
  /-- `%s actioner param validation failed: %v` -/
  | validationFailed (name : GoString) (err : KernelRouteParamError)
  deriving DecidableEq, Repr

section Create

-- `utils.String2bool(s)`: the value it reads and its error, `none` for `nil`.
variable (string2bool : GoString → Bool × Option GoString)

/-- The `range` loop of `validate` over the entries still to visit; `unsupported` holds the
unknown keys seen so far. -/
def KernelRouteAction.validateLoop :
    List (GoString × GoString) → List GoString → Option KernelRouteParamError
  | [], unsupported => if 0 < unsupported.length then some (.unsupported unsupported) else none
  | (param, val) :: rest, unsupported =>
    if param = lit "ifname" then
      if val.length = 0 then some (.empty param) else validateLoop rest unsupported
    else if param = lit "with-route" then
      if (string2bool val).2.isSome then some (.invalidValue param val)
      else validateLoop rest unsupported
    else validateLoop rest (unsupported ++ [param])

/-- `(*KernelRouteAction).validate(params)`, its `range` visiting the entries in the order
`order`: the required params first, then the loop.  The receiver is not read. -/
def KernelRouteAction.validate (params : GoMap) (order : List (GoString × GoString)) :
    Option KernelRouteParamError :=
  let missed := [lit "ifname"].filter fun param => (params.get? param).isNone
  if 0 < missed.length then some (.missing missed)
  else validateLoop string2bool order []

/-- `(*KernelRouteAction).create(target, params)`: the actioner and the error it returns, a `nil`
target being `none`.  `target.DeepCopy()` is a copy of the same value; the receiver is not read. -/
def KernelRouteAction.create (target : Option L3L4Addr) (params : GoMap)
    (order : List (GoString × GoString)) :
    Option KernelRouteAction × Option KernelRouteCreateError :=
  match target with
  | none => (none, some (.noTarget kernelRouteActionerName))
  | some target =>
    if target.IP.length = 0 then (none, some (.noTarget kernelRouteActionerName))
    else
      match validate string2bool params order with
      | some err => (none, some (.validationFailed kernelRouteActionerName err))
      | none =>
        (some ⟨target, (params.get? (lit "ifname")).getD [],
          (string2bool ((params.get? (lit "with-route")).getD [])).1⟩, none)

/-- An entry the `switch` of `validate` lets through: a non-empty `ifname`, or a `with-route`
that `String2bool` reads. -/
def KernelRouteParamOk : GoString × GoString → Prop
  | (k, v) =>
    if k = lit "ifname" then v ≠ []
    else if k = lit "with-route" then (string2bool v).2 = none
    else False

/-- The actioner's params table, as a property of the whole map: `ifname` present and non-empty,
no key but `ifname` and `with-route`, and `with-route` read by `String2bool`. -/
def KernelRouteParamsOk (params : GoMap) : Prop :=
  (∃ v, params.get? (lit "ifname") = some v ∧ v ≠ []) ∧
    (∀ k v, (k, v) ∈ params.entries → k = lit "ifname" ∨ k = lit "with-route") ∧
    (∀ v, params.get? (lit "with-route") = some v → (string2bool v).2 = none)

@[simp] theorem withRoute_ne_ifname : lit "with-route" ≠ lit "ifname" := by decide

theorem KernelRouteAction.validateLoop_eq_none_iff (order : List (GoString × GoString))
    (unsupported : List GoString) :
    validateLoop string2bool order unsupported = none ↔
      unsupported = [] ∧ ∀ e ∈ order, KernelRouteParamOk string2bool e := by
  induction order generalizing unsupported with
  | nil => simp [validateLoop, List.length_pos]
  | cons e rest ih =>
    obtain ⟨k, v⟩ := e
    simp only [validateLoop, List.forall_mem_cons, KernelRouteParamOk.eq_1]
    split_ifs <;> simp_all [List.length_eq_zero, Option.isSome_iff_ne_none]

theorem kernelRouteParamOk_entries_iff (params : GoMap) :
    ((params.get? (lit "ifname")).isSome ∧
        ∀ e ∈ params.entries, KernelRouteParamOk string2bool e) ↔
      KernelRouteParamsOk string2bool params := by
  simp only [KernelRouteParamsOk, Option.isSome_iff_exists, GoMap.get?_eq_some_iff]
  constructor
  · rintro ⟨⟨v, hv⟩, h⟩
    have hok : ∀ k v, (k, v) ∈ params.entries → KernelRouteParamOk string2bool (k, v) :=
      fun k v hkv => h (k, v) hkv
    refine ⟨⟨v, hv, by simpa [KernelRouteParamOk] using hok _ _ hv⟩, fun k v' hkv => ?_,
      fun v' hv' => by simpa [KernelRouteParamOk] using hok _ _ hv'⟩
    have := hok k v' hkv
    simp only [KernelRouteParamOk] at this
    split_ifs at this <;> simp_all
  · rintro ⟨⟨v, hv, hne⟩, hkeys, hw⟩
    refine ⟨⟨v, hv⟩, fun ⟨k, v'⟩ hkv => ?_⟩
    rcases hkeys k v' hkv with rfl | rfl
    · simpa [KernelRouteParamOk, GoMap.eq_of_mem_of_mem hkv hv] using hne
    · simp [KernelRouteParamOk, hw v' hkv]

/-- `validate` accepts a map exactly when it meets the actioner's params table, whatever order its
`range` visits it in. -/
theorem KernelRouteAction.validate_eq_none_iff_paramsOk {params : GoMap}
    {order : List (GoString × GoString)} (horder : params.RangeOrder order) :
    validate string2bool params order = none ↔ KernelRouteParamsOk string2bool params := by
  rw [← kernelRouteParamOk_entries_iff]
  by_cases hif : (params.get? (lit "ifname")).isSome
  · simp only [validate, List.filter_cons, List.filter_nil, Option.isNone_iff_eq_none,
      Option.isSome_iff_ne_none.mp hif]
    simp only [decide_False, List.length_nil, lt_self_iff_false, if_false, hif, true_and,
      validateLoop_eq_none_iff]
    exact forall_congr' fun e => imp_congr_left horder.mem_iff
  · simp [validate, hif, Option.not_isSome_iff_eq_none.mp hif]

/-- Which error `validate` returns depends on the `range` order; whether it returns one does not. -/
example :
    KernelRouteAction.validate (fun _ => (false, some []))
        ⟨[(lit "ifname", []), (lit "with-route", lit "x")], by decide⟩
        [(lit "ifname", []), (lit "with-route", lit "x")] = some (.empty (lit "ifname")) ∧
      KernelRouteAction.validate (fun _ => (false, some []))
        ⟨[(lit "ifname", []), (lit "with-route", lit "x")], by decide⟩
        [(lit "with-route", lit "x"), (lit "ifname", [])] =
        some (.invalidValue (lit "with-route") (lit "x")) := by
  decide

/-- Every `return` of `create` is an actioner with a `nil` error, or `nil` with an error. -/
theorem KernelRouteAction.create_ok_or_error (target : Option L3L4Addr) (params : GoMap)
    (order : List (GoString × GoString)) :
    (∃ a, create string2bool target params order = (some a, none)) ∨
      ∃ err, create string2bool target params order = (none, some err) := by
  unfold create
  split
  · exact .inr ⟨_, rfl⟩
  · split_ifs
    · exact .inr ⟨_, rfl⟩
    · split
      · exact .inr ⟨_, rfl⟩
      · exact .inl ⟨_, rfl⟩

/-- What `create` builds once the target and the params pass: the target, `params["ifname"]`, and
what `String2bool` reads from `params["with-route"]`. -/
theorem KernelRouteAction.create_of_validate_eq_none {target : L3L4Addr} {params : GoMap}
    {order : List (GoString × GoString)} (hip : target.IP ≠ [])
    (h : validate string2bool params order = none) :
    create string2bool (some target) params order =
      (some ⟨target, (params.get? (lit "ifname")).getD [],
        (string2bool ((params.get? (lit "with-route")).getD [])).1⟩, none) := by
  simp [create, hip, h]

theorem KernelRouteAction.create_isSome_iff {target : Option L3L4Addr} {params : GoMap}
    {order : List (GoString × GoString)} (horder : params.RangeOrder order) :
    (create string2bool target params order).1.isSome ↔
      (∃ t, target = some t ∧ t.IP ≠ []) ∧ KernelRouteParamsOk string2bool params := by
  rw [← validate_eq_none_iff_paramsOk string2bool horder]
  cases target with
  | none => simp [create]
  | some t =>
    by_cases hip : t.IP = []
    · simp [create, hip]
    · cases hv : validate string2bool params order <;> simp [create, hip, hv]

/-- `create` returns an actioner and a `nil` error exactly when the target has an address and the
params meet the actioner's table, whatever order `validate`'s `range` visits them in; otherwise
it returns no actioner and an error. -/
theorem create_ok_iff (target : Option L3L4Addr) (params : GoMap)
    (order : List (GoString × GoString)) (horder : params.RangeOrder order) :
    ((∃ a, KernelRouteAction.create string2bool target params order = (some a, none)) ↔
        (∃ t, target = some t ∧ t.IP ≠ []) ∧ KernelRouteParamsOk string2bool params) ∧
      (¬ ((∃ t, target = some t ∧ t.IP ≠ []) ∧ KernelRouteParamsOk string2bool params) →
        ∃ err, KernelRouteAction.create string2bool target params order = (none, some err)) := by
  rw [← KernelRouteAction.create_isSome_iff string2bool horder]
  rcases KernelRouteAction.create_ok_or_error string2bool target params order with
    ⟨a, h⟩ | ⟨err, h⟩ <;> simp [h]

end Create

theorem create_ok_iff_eth0 :
    (GoMap.single (lit "ifname") (lit "eth0")).RangeOrder [(lit "ifname", lit "eth0")] ∧
      ((∃ a, KernelRouteAction.create (fun _ => (true, none))
            (some ⟨[192, 0, 2, 1], 80, IPProtoTCP⟩) (GoMap.single (lit "ifname") (lit "eth0"))
            [(lit "ifname", lit "eth0")] = (some a, none)) ↔
          (∃ t, (some ⟨[192, 0, 2, 1], 80, IPProtoTCP⟩ : Option L3L4Addr) = some t ∧ t.IP ≠ []) ∧
            KernelRouteParamsOk (fun _ => (true, none))
              (GoMap.single (lit "ifname") (lit "eth0"))) ∧
        (¬ ((∃ t, (some ⟨[192, 0, 2, 1], 80, IPProtoTCP⟩ : Option L3L4Addr) = some t ∧
              t.IP ≠ []) ∧
            KernelRouteParamsOk (fun _ => (true, none))
              (GoMap.single (lit "ifname") (lit "eth0"))) →
          ∃ err, KernelRouteAction.create (fun _ => (true, none))
            (some ⟨[192, 0, 2, 1], 80, IPProtoTCP⟩) (GoMap.single (lit "ifname") (lit "eth0"))
            [(lit "ifname", lit "eth0")] = (none, some err)) :=
  ⟨List.Perm.refl _, create_ok_iff _ _ _ _ (List.Perm.refl _)⟩

end Healthcheck.Actioner
