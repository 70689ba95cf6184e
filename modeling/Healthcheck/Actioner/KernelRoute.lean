import Healthcheck.Actioner.Netlink
import Healthcheck.Checker.Basic

/-!
# Actioner — `KernelRouteAction.Act`

`Act(signal, timeout)` starts a goroutine that looks the interface up by name, adds the target's
host address to it (or deletes it, for `Unhealthy`), then, with `with-route`, adds (deletes) the
host route, and sends its result on `done`; `Act` returns that result unless the deadline comes
first.  The goroutine treats "already there" on an add and "not there" on a delete as success.
Here `Act` runs the goroutine to its send; `Actioner.Concurrent` lets the deadline win.
-/

namespace Healthcheck.Actioner

open Net Utils

/-! ## 1. The actioner and its errors -/

/-- `kernelRouteActionerName`. -/
def kernelRouteActionerName : GoString := lit "KernelRouteAddDel"

/-- `KernelRouteAction`; `create` refuses a `nil` target, so `target` is a value. -/
structure KernelRouteAction where
  target : L3L4Addr
  ifname : GoString
  withRoute : Bool

/-- The errors of `Act`, one per `fmt.Errorf`, and the context's. -/
inductive ActError
  /-- `zero timeout on %s actioner %v` -/
  | zeroTimeout (name : GoString) (addr : IP)
  /-- `failed to get link by name: %w` -/
  | linkByName (err : NetlinkError)
  /-- `failed to add address %v to %s: %w` -/
  | addAddr (addr : IP) (ifname : GoString) (err : NetlinkError)
  /-- `failed to add host route %v to %s: %w` -/
  | addRoute (addr : IP) (ifname : GoString) (err : NetlinkError)
  /-- `failed to delete address %v from %s: %w` -/
  | delAddr (addr : IP) (ifname : GoString) (err : NetlinkError)
  /-- `failed to delete route %v from %s: %w` -/
  | delRoute (addr : IP) (ifname : GoString) (err : NetlinkError)
  /-- `ctx.Err()` once the deadline passed: `context deadline exceeded` -/
  | deadlineExceeded
  deriving DecidableEq, Repr

/-- `isExistError(err)`: `errors.Is(err, unix.EEXIST)`. -/
def isExistError (err : NetlinkError) : Bool := err = .errno .EEXIST

/-- `isNotExistError(err)`. -/
def isNotExistError (err : NetlinkError) : Bool :=
  err = .errno .ENOENT || err = .errno .ESRCH ||
    Strings.contains (Strings.toLower err.error) (lit "cannot assign requested address")

/-- The kernel's "already there" error passes `isExistError`, and its two "not there" errors pass
`isNotExistError`, the `EADDRNOTAVAIL` one through its text. -/
theorem isExistError_EEXIST : isExistError (.errno .EEXIST) = true := rfl

theorem isNotExistError_EADDRNOTAVAIL : isNotExistError (.errno .EADDRNOTAVAIL) = true := by
  decide

theorem isNotExistError_ESRCH : isNotExistError (.errno .ESRCH) = true := rfl

/-! ## 2. The goroutine -/

/-- `ipNet`: the target address with a full-length mask, `/32` or `/128`. -/
def KernelRouteAction.ipNet (a : KernelRouteAction) : IPNet :=
  if a.target.IP.to4 ≠ none then ⟨a.target.IP, cidrMask 32 32⟩
  else ⟨a.target.IP, cidrMask 128 128⟩

/-- The address block of the goroutine on link `link`: `AddrAdd` for a signal other than
`Unhealthy`, `AddrDel` for `Unhealthy`, with their error checks.  The kernel after it, and the
error sent on `done` if the goroutine stops there. -/
def KernelRouteAction.addrStep (a : KernelRouteAction) (signal : State) (link : Nat)
    (k : Kernel) : Kernel × Option ActError :=
  if signal ≠ .Unhealthy then
    match addrAdd k link a.ipNet with
    | .ok k => (k, none)
    | .error err => (k, if isExistError err then none else some (.addAddr a.target.IP a.ifname err))
  else
    match addrDel k link a.ipNet with
    | .ok k => (k, none)
    | .error err =>
      (k, if isNotExistError err then none else some (.delAddr a.target.IP a.ifname err))

/-- The host-route block of the goroutine, run when `withRoute`: `RouteAdd` or `RouteDel`. -/
def KernelRouteAction.routeStep (a : KernelRouteAction) (signal : State) (link : Nat)
    (k : Kernel) : Kernel × Option ActError :=
  if signal ≠ .Unhealthy then
    match routeAdd k link a.ipNet with
    | .ok k => (k, none)
    | .error err => (k, if !isExistError err then some (.addRoute a.target.IP a.ifname err) else none)
  else
    match routeDel k link a.ipNet with
    | .ok k => (k, none)
    | .error err =>
      (k, if !isNotExistError err then some (.delRoute a.target.IP a.ifname err) else none)

/-- The goroutine of `Act(signal)` run from `k` to its send on `done`: the kernel after it and
what it sends. -/
def KernelRouteAction.work (a : KernelRouteAction) (signal : State) (k : Kernel) :
    Kernel × Option ActError :=
  match linkByName k a.ifname with
  | .error err => (k, some (.linkByName err))
  | .ok link =>
    match a.addrStep signal link k with
    | (k, some err) => (k, some err)
    | (k, none) => if a.withRoute then a.routeStep signal link k else (k, none)

/-- `Act(signal, timeout)` when the goroutine sends before the deadline: the kernel after it and
the error `Act` returns. -/
def KernelRouteAction.act (a : KernelRouteAction) (signal : State) (timeout : Duration)
    (k : Kernel) : Kernel × Option ActError :=
  if timeout ≤ 0 then (k, some (.zeroTimeout kernelRouteActionerName a.target.IP))
  else a.work signal k

/-! ## 3. What one `Act` does to the kernel -/

/-- `s` with `e` put in when `up`, taken out otherwise. -/
def toggle (up : Bool) (e : IPNet × Nat) (s : Finset (IPNet × Nat)) : Finset (IPNet × Nat) :=
  if up then insert e s else s.erase e

@[simp] theorem mem_toggle_self (up : Bool) (e : IPNet × Nat) (s : Finset (IPNet × Nat)) :
    e ∈ toggle up e s ↔ up = true := by
  cases up <;> simp [toggle]

@[simp] theorem toggle_toggle (up : Bool) (e : IPNet × Nat) (s : Finset (IPNet × Nat)) :
    toggle up e (toggle up e s) = toggle up e s := by
  cases up <;> simp [toggle, Finset.insert_idem]

/-- The kernel after `Act(signal)` succeeded on link `link`: the address, and the host route when
`withRoute`, put in or taken out. -/
def KernelRouteAction.settle (a : KernelRouteAction) (signal : State) (link : Nat) (k : Kernel) :
    Kernel where
  links := k.links
  addrs := toggle (signal != .Unhealthy) (a.ipNet, link) k.addrs
  routes := if a.withRoute then toggle (signal != .Unhealthy) (a.ipNet, link) k.routes else k.routes

@[simp] theorem KernelRouteAction.settle_links (a : KernelRouteAction) (signal : State)
    (link : Nat) (k : Kernel) : (a.settle signal link k).links = k.links := rfl

theorem KernelRouteAction.settle_settle (a : KernelRouteAction) (signal : State) (link : Nat)
    (k : Kernel) : a.settle signal link (a.settle signal link k) = a.settle signal link k := by
  simp only [settle, toggle_toggle]
  split_ifs <;> simp

/-- On any kernel the address block succeeds: "already there" and "not there" both pass. -/
theorem KernelRouteAction.addrStep_eq (a : KernelRouteAction) (signal : State) (link : Nat)
    (k : Kernel) :
    a.addrStep signal link k =
      ({ k with addrs := toggle (signal != .Unhealthy) (a.ipNet, link) k.addrs }, none) := by
  unfold addrStep addrAdd addrDel toggle
  by_cases hs : signal = .Unhealthy <;> by_cases hm : (a.ipNet, link) ∈ k.addrs <;>
    simp [hs, hm, isExistError, isNotExistError_EADDRNOTAVAIL, Finset.insert_eq_of_mem,
      Finset.erase_eq_of_not_mem]

theorem KernelRouteAction.routeStep_eq (a : KernelRouteAction) (signal : State) (link : Nat)
    (k : Kernel) :
    a.routeStep signal link k =
      ({ k with routes := toggle (signal != .Unhealthy) (a.ipNet, link) k.routes }, none) := by
  unfold routeStep routeAdd routeDel toggle
  by_cases hs : signal = .Unhealthy <;> by_cases hm : (a.ipNet, link) ∈ k.routes <;>
    simp [hs, hm, isExistError, isNotExistError_ESRCH, Finset.insert_eq_of_mem,
      Finset.erase_eq_of_not_mem]

/-- When the interface exists, the goroutine sends `nil` and leaves the kernel settled. -/
theorem KernelRouteAction.work_of_link (a : KernelRouteAction) (signal : State) {k : Kernel}
    {link : Nat} (hl : k.links a.ifname = some link) :
    a.work signal k = (a.settle signal link k, none) := by
  simp only [work, linkByName, hl, addrStep_eq, settle]
  split_ifs <;> simp [routeStep_eq]

theorem KernelRouteAction.work_of_no_link (a : KernelRouteAction) (signal : State) {k : Kernel}
    (hl : k.links a.ifname = none) : a.work signal k = (k, some (.linkByName .linkNotFound)) := by
  simp [work, linkByName, hl]

/-- The kernel state `Act(signal)` is to reach on link `link`: the address, and the host route
when `withRoute`, present exactly when `signal` is not `Unhealthy`. -/
def KernelRouteAction.Post (a : KernelRouteAction) (link : Nat) (signal : State) (k : Kernel) :
    Prop :=
  ((a.ipNet, link) ∈ k.addrs ↔ signal ≠ .Unhealthy) ∧
    (a.withRoute → ((a.ipNet, link) ∈ k.routes ↔ signal ≠ .Unhealthy))

theorem KernelRouteAction.post_settle (a : KernelRouteAction) (signal : State) (link : Nat)
    (k : Kernel) : a.Post link signal (a.settle signal link k) := by
  refine ⟨by simp [settle], fun hr => by simp [settle, hr]⟩

/-- On an existing interface, `Act(signal)` returns `nil` and leaves the address (and host route)
present exactly when `signal` is not `Unhealthy`; a second `Act(signal)` returns `nil` and changes
nothing.  This is over the kernel of `Actioner.Netlink`, whose calls fail only with `EEXIST`,
`EADDRNOTAVAIL` or `ESRCH`: a real `RouteAdd` on a link that is down fails with `ENETDOWN`. -/
theorem act_idempotent (a : KernelRouteAction) (k : Kernel) (link : Nat) (signal : State)
    (timeout : Duration) (hl : k.links a.ifname = some link) (ht : 0 < timeout) :
    (a.act signal timeout k).2 = none ∧ a.Post link signal (a.act signal timeout k).1 ∧
      a.act signal timeout (a.act signal timeout k).1 = ((a.act signal timeout k).1, none) := by
  have hact : ∀ k' : Kernel, k'.links a.ifname = some link →
      a.act signal timeout k' = (a.settle signal link k', none) := fun k' hl' => by
    rw [KernelRouteAction.act, if_neg (not_le.mpr ht), a.work_of_link signal hl']
  rw [hact k hl, hact _ (by rw [KernelRouteAction.settle_links, hl]), a.settle_settle]
  exact ⟨rfl, a.post_settle signal link k, rfl⟩

theorem act_idempotent_eth0 :
    (fun n => if n = lit "eth0" then some 2 else none : GoString → Option Nat) (lit "eth0") =
        some 2 ∧ (0 : Duration) < 1 ∧
      ((⟨⟨[192, 0, 2, 1], 80, IPProtoTCP⟩, lit "eth0", true⟩ : KernelRouteAction).act .Healthy 1
          ⟨fun n => if n = lit "eth0" then some 2 else none, ∅, ∅⟩).2 = none ∧
      (⟨⟨[192, 0, 2, 1], 80, IPProtoTCP⟩, lit "eth0", true⟩ : KernelRouteAction).Post 2 .Healthy
        ((⟨⟨[192, 0, 2, 1], 80, IPProtoTCP⟩, lit "eth0", true⟩ : KernelRouteAction).act .Healthy 1
          ⟨fun n => if n = lit "eth0" then some 2 else none, ∅, ∅⟩).1 ∧
      (⟨⟨[192, 0, 2, 1], 80, IPProtoTCP⟩, lit "eth0", true⟩ : KernelRouteAction).act .Healthy 1
          ((⟨⟨[192, 0, 2, 1], 80, IPProtoTCP⟩, lit "eth0", true⟩ : KernelRouteAction).act .Healthy 1
            ⟨fun n => if n = lit "eth0" then some 2 else none, ∅, ∅⟩).1 =
        (((⟨⟨[192, 0, 2, 1], 80, IPProtoTCP⟩, lit "eth0", true⟩ : KernelRouteAction).act .Healthy 1
          ⟨fun n => if n = lit "eth0" then some 2 else none, ∅, ∅⟩).1, none) :=
  ⟨by decide, by decide, act_idempotent _ _ 2 .Healthy 1 (by decide) (by decide)⟩

end Healthcheck.Actioner
