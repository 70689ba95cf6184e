import Mathlib.Data.Finset.Basic
import Healthcheck.Go.Net

/-!
# Actioner — the kernel as the netlink calls see it

The actioner's goroutine calls `netlink.LinkByName`, `AddrAdd`, `AddrDel`, `RouteAdd` and
`RouteDel`.  The kernel is its links by name and two sets of entries, addresses and host routes,
each tied to a link index.  Adding an entry already there fails with `EEXIST`, deleting a missing
address with `EADDRNOTAVAIL` and a missing route with `ESRCH`; an error keeps its `Error()` text,
which `isNotExistError` searches.  These are the only failures the model has: the kernel's other
refusals (`ENETDOWN` from `RouteAdd` on a link that is down, `EPERM`, `ENOMEM`) are left out, and
every result below about what the calls leave in the kernel assumes the kernel makes none of them.
-/

namespace Healthcheck.Actioner

open Net

/-! ## 1. Errors -/

/-- The `syscall.Errno` values of the kernel model, and any other by number and text. -/
inductive Errno
  | EEXIST
  | ENOENT
  | ESRCH
  | EADDRNOTAVAIL
  | other (code : Nat) (text : GoString)
  deriving DecidableEq, Repr

/-- `errno.Error()`, from the errno table. -/
def Errno.error : Errno → GoString
  | .EEXIST => lit "file exists"
  | .ENOENT => lit "no such file or directory"
  | .ESRCH => lit "no such process"
  | .EADDRNOTAVAIL => lit "cannot assign requested address"
  | .other _ text => text

/-- The errors the netlink calls return. -/
inductive NetlinkError
  | errno (e : Errno)
  /-- `netlink.LinkNotFoundError` -/
  | linkNotFound
  deriving DecidableEq, Repr

/-- `err.Error()`. -/
def NetlinkError.error : NetlinkError → GoString
  | .errno e => e.error
  | .linkNotFound => lit "Link not found"

/-! ## 2. Addresses and the kernel -/

/-- `net.IPNet`. -/
structure IPNet where
  IP : IP
  Mask : List UInt8
  deriving DecidableEq, Repr

/-- The loop of `net.CIDRMask`: `l` bytes still to fill, `n` one-bits still to place. -/
def cidrMaskLoop : Nat → Nat → List UInt8
  | 0, _ => []
  | l + 1, n => if 8 ≤ n then 0xFF :: cidrMaskLoop l (n - 8) else ~~~(0xFF >>> UInt8.ofNat n) :: cidrMaskLoop l 0

/-- `net.CIDRMask(ones, bits)`: `nil` unless `bits` is 32 or 128 and `ones ≤ bits`. -/
def cidrMask (ones bits : Nat) : List UInt8 :=
  if (bits = 32 ∨ bits = 128) ∧ ones ≤ bits then cidrMaskLoop (bits / 8) ones else []

example : cidrMask 32 32 = [255, 255, 255, 255] ∧ cidrMask 20 32 = [255, 255, 240, 0] := by decide

/-- Modelled from the spec: the kernel state the netlink calls read and change, each link's index
by name, and the address and host-route entries, each tied to a link index. -/
structure Kernel where
  links : GoString → Option Nat
  addrs : Finset (IPNet × Nat)
  routes : Finset (IPNet × Nat)

/-- Modelled from the spec: `netlink.LinkByName(name)`, the link's index. -/
def linkByName (k : Kernel) (name : GoString) : Except NetlinkError Nat :=
  match k.links name with
  | some index => .ok index
  | none => .error .linkNotFound

/-- Modelled from the spec: `netlink.AddrAdd(link, addr)`, failing only with `EEXIST`. -/
def addrAdd (k : Kernel) (link : Nat) (addr : IPNet) : Except NetlinkError Kernel :=
  if (addr, link) ∈ k.addrs then .error (.errno .EEXIST)
  else .ok { k with addrs := insert (addr, link) k.addrs }

/-- Modelled from the spec: `netlink.AddrDel(link, addr)`, failing only with `EADDRNOTAVAIL`. -/
def addrDel (k : Kernel) (link : Nat) (addr : IPNet) : Except NetlinkError Kernel :=
  if (addr, link) ∈ k.addrs then .ok { k with addrs := k.addrs.erase (addr, link) }
  else .error (.errno .EADDRNOTAVAIL)

/-- Modelled from the spec: `netlink.RouteAdd(&netlink.Route{LinkIndex: link, Dst: dst})`, failing
only with `EEXIST` (a real kernel also refuses a route on a link that is down, `ENETDOWN`). -/
def routeAdd (k : Kernel) (link : Nat) (dst : IPNet) : Except NetlinkError Kernel :=
  if (dst, link) ∈ k.routes then .error (.errno .EEXIST)
  else .ok { k with routes := insert (dst, link) k.routes }

/-- Modelled from the spec: `netlink.RouteDel(&netlink.Route{LinkIndex: link, Dst: dst})`, failing
only with `ESRCH`. -/
def routeDel (k : Kernel) (link : Nat) (dst : IPNet) : Except NetlinkError Kernel :=
  if (dst, link) ∈ k.routes then .ok { k with routes := k.routes.erase (dst, link) }
  else .error (.errno .ESRCH)

end Healthcheck.Actioner
