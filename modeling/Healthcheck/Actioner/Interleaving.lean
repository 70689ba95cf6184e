import Healthcheck.Actioner.Concurrent

/-!
# Actioner — every interleaving, deadlines included

What holds of every run of `Act` calls, however the goroutines' netlink calls, the deliveries and
the deadlines interleave: the goroutines touch no kernel entry but the target's host address and
host route on the link `ifname` names; and the target's address ends up as the last goroutine to
make its address call asked.
-/

namespace Healthcheck.Actioner

open Utils

/-! ## 1. One goroutine step on the kernel -/

/-- The entry the goroutines of `a` add and delete in kernel `k`: the target's host address (or
route) on the link `ifname` names. -/
def KernelRouteAction.IsTarget (a : KernelRouteAction) (k : Kernel) (e : IPNet × Nat) : Prop :=
  ∃ link, k.links a.ifname = some link ∧ e = (a.ipNet, link)

/-- What a goroutine's position says: past `LinkByName` it holds the index `ifname` names in
`links`, and it is in the host-route block only with `withRoute`. -/
def KernelRouteAction.PcOk (a : KernelRouteAction) (links : GoString → Option Nat) :
    WorkerPc → Prop
  | .addr link => links a.ifname = some link
  | .route link => links a.ifname = some link ∧ a.withRoute
  | _ => True

/-- What one step of a goroutine does to the kernel: the address block toggles the target
address on its link, the host-route block the target route, any other step nothing. -/
theorem KernelRouteAction.workerStep_fst (a : KernelRouteAction) (signal : State) (k : Kernel)
    (pc : WorkerPc) :
    (a.workerStep signal k pc).1 =
      match pc with
      | .addr link => { k with addrs := toggle (signal != .Unhealthy) (a.ipNet, link) k.addrs }
      | .route link =>
        { k with routes := toggle (signal != .Unhealthy) (a.ipNet, link) k.routes }
      | _ => k := by
  cases pc with
  | linkByName => simp only [workerStep]; split <;> rfl
  | addr link => simp only [workerStep, addrStep_eq]
  | route link => simp only [workerStep, routeStep_eq]
  | send res => rfl
  | exited res => rfl

theorem KernelRouteAction.pcOk_workerStep {a : KernelRouteAction} {signal : State} {k : Kernel}
    {pc : WorkerPc} (h : a.PcOk k.links pc) :
    a.PcOk k.links (a.workerStep signal k pc).2 := by
  cases pc with
  | linkByName =>
    simp only [workerStep, linkByName]
    cases hl : k.links a.ifname <;> simp [hl, PcOk]
  | addr link =>
    simp only [workerStep, addrStep_eq]
    split <;> trivial
  | route link => trivial
  | send res => trivial
  | exited res => trivial

/-! ## 2. The frame of a run -/

/-- What every run from kernel `k` keeps: the links, every goroutine's `PcOk`, and every entry
but the target's; without `withRoute`, all the routes. -/
structure KernelRouteAction.FrameInv (a : KernelRouteAction) (k : Kernel) (s : Sys) : Prop where
  links : s.kernel.links = k.links
  pcOk : ∀ w ∈ s.workers, a.PcOk k.links w.pc
  frame : ∀ e, ¬ a.IsTarget k e →
    (e ∈ s.kernel.addrs ↔ e ∈ k.addrs) ∧ (e ∈ s.kernel.routes ↔ e ∈ k.routes)
  routes : a.withRoute = false → s.kernel.routes = k.routes

theorem KernelRouteAction.frameInv_init (a : KernelRouteAction) (k : Kernel) :
    a.FrameInv k (.init k) :=
  ⟨rfl, by simp [Sys.init], fun _ _ => ⟨Iff.rfl, Iff.rfl⟩, fun _ => rfl⟩

/-- A goroutine step keeps the frame: it toggles only the target entry. -/
theorem KernelRouteAction.FrameInv.workerStep {a : KernelRouteAction} {k : Kernel} {s : Sys}
    {w : Worker} (i : Nat) (hs : a.FrameInv k s) (hw : a.PcOk k.links w.pc) :
    a.FrameInv k ⟨(a.workerStep w.signal s.kernel w.pc).1,
      s.workers.set i ⟨w.signal, (a.workerStep w.signal s.kernel w.pc).2⟩, s.caller,
      s.returned⟩ where
  links := by simp only [workerStep_links, hs.links]
  pcOk v hv := by
    rcases List.mem_or_eq_of_mem_set hv with hv | rfl
    · exact hs.pcOk v hv
    · rw [← hs.links] at hw ⊢
      exact pcOk_workerStep hw
  frame e he := by
    have := hs.frame e he
    rw [workerStep_fst]
    cases hpc : w.pc
    case addr link =>
      rw [hpc] at hw
      have hne : e ≠ (a.ipNet, link) := fun h => he ⟨link, hw, h⟩
      cases signal : (w.signal != .Unhealthy) <;> simp_all [toggle]
    case route link =>
      rw [hpc] at hw
      have hne : e ≠ (a.ipNet, link) := fun h => he ⟨link, hw.1, h⟩
      cases signal : (w.signal != .Unhealthy) <;> simp_all [toggle]
    all_goals exact this
  routes hr := by
    rw [workerStep_fst]
    cases hpc : w.pc
    case route link => rw [hpc] at hw; exact absurd hw.2 (by simp [hr])
    all_goals exact hs.routes hr

theorem KernelRouteAction.step_expire {a : KernelRouteAction} {s s' : Sys}
    (h : a.step s .expire = some s') :
    ∃ i w, s.caller = .waiting i ∧ s.workers[i]? = some w ∧
      s' = { s with caller := .idle, returned := s.returned ++ [(w.signal, some .deadlineExceeded)] } := by
  simp only [step] at h
  split at h
  · next i hi =>
    split at h
    · next w hw => exact ⟨i, w, hi, hw, (Option.some.inj h).symm⟩
    · cases h
  · cases h

/-- Every event keeps the frame. -/
theorem KernelRouteAction.FrameInv.step {a : KernelRouteAction} {k : Kernel} {s s' : Sys}
    {e : Event} (hs : a.FrameInv k s) (h : a.step s e = some s') : a.FrameInv k s' := by
  cases e with
  | call signal =>
    obtain ⟨-, rfl⟩ := step_call h
    refine ⟨hs.links, fun w hw => ?_, hs.frame, hs.routes⟩
    rcases List.mem_append.mp hw with hw | hw
    · exact hs.pcOk w hw
    · rw [List.mem_singleton.mp hw]; trivial
  | run i =>
    obtain ⟨v, hv, -, rfl⟩ := step_run h
    exact hs.workerStep i (hs.pcOk v (List.getElem?_mem hv))
  | deliver =>
    obtain ⟨i, signal, res, -, -, rfl⟩ := step_deliver h
    exact ⟨hs.links, hs.pcOk, hs.frame, hs.routes⟩
  | expire =>
    obtain ⟨i, w, -, -, rfl⟩ := step_expire h
    exact ⟨hs.links, hs.pcOk, hs.frame, hs.routes⟩

theorem KernelRouteAction.FrameInv.runEvents {a : KernelRouteAction} {k : Kernel} {s s' : Sys}
    {evs : List Event} (hs : a.FrameInv k s) (h : a.runEvents s evs = some s') :
    a.FrameInv k s' := by
  induction evs generalizing s with
  | nil => cases h; exact hs
  | cons e evs ih =>
    obtain ⟨s₁, h₁, h⟩ := Option.bind_eq_some.mp h
    exact ih (hs.step h₁) h

/-- However the goroutines, the deliveries and the deadlines interleave, `Act` calls change no
link, no address and no route but the target's host address and host route on the link `ifname`
names, and no route at all without `withRoute`. -/
theorem act_only_target_changes (a : KernelRouteAction) (k : Kernel) (evs : List Event)
    (s : Sys) (hrun : a.runEvents (.init k) evs = some s) :
    s.kernel.links = k.links ∧
      (∀ e, ¬ a.IsTarget k e →
        (e ∈ s.kernel.addrs ↔ e ∈ k.addrs) ∧ (e ∈ s.kernel.routes ↔ e ∈ k.routes)) ∧
      (a.withRoute = false → s.kernel.routes = k.routes) :=
  have hs := (a.frameInv_init k).runEvents hrun
  ⟨hs.links, hs.frame, hs.routes⟩

theorem act_only_target_changes_stale :
    ∃ s, (⟨⟨[10, 0, 0, 1], 80, IPProtoTCP⟩, lit "eth0", true⟩ : KernelRouteAction).runEvents
        (.init ⟨fun n => if n = lit "eth0" then some 2 else none, ∅, ∅⟩)
        [.call .Healthy, .expire, .call .Unhealthy, .run 1, .run 1, .run 1, .run 1, .deliver, .run 0,
          .run 0, .run 0, .run 0] = some s ∧
      s.kernel.links = (⟨fun n => if n = lit "eth0" then some 2 else none, ∅, ∅⟩ : Kernel).links ∧
      (∀ e, ¬ (⟨⟨[10, 0, 0, 1], 80, IPProtoTCP⟩, lit "eth0", true⟩ : KernelRouteAction).IsTarget ⟨fun n => if n = lit "eth0" then some 2 else none, ∅, ∅⟩ e →
        (e ∈ s.kernel.addrs ↔ e ∈ (⟨fun n => if n = lit "eth0" then some 2 else none, ∅, ∅⟩ : Kernel).addrs) ∧
          (e ∈ s.kernel.routes ↔ e ∈ (⟨fun n => if n = lit "eth0" then some 2 else none, ∅, ∅⟩ : Kernel).routes)) ∧
      ((⟨⟨[10, 0, 0, 1], 80, IPProtoTCP⟩, lit "eth0", true⟩ : KernelRouteAction).withRoute = false → s.kernel.routes = (⟨fun n => if n = lit "eth0" then some 2 else none, ∅, ∅⟩ : Kernel).routes) :=
  ⟨_, rfl, act_only_target_changes _ ⟨fun n => if n = lit "eth0" then some 2 else none, ∅, ∅⟩
    [.call .Healthy, .expire, .call .Unhealthy, .run 1, .run 1, .run 1, .run 1, .deliver, .run 0,
          .run 0, .run 0, .run 0] _ rfl⟩

/-! ## 3. The last call decides -/

/-- The goroutine is before its address block. -/
def WorkerPc.isAddr : WorkerPc → Bool
  | .addr _ => true
  | _ => false

/-- The goroutine is before its host-route block. -/
def WorkerPc.isRoute : WorkerPc → Bool
  | .route _ => true
  | _ => false

/-- The signal of the goroutine event `e` runs, when that goroutine is at a position `block`
picks out. -/
def Sys.blockCall (s : Sys) (block : WorkerPc → Bool) : Event → List State
  | .run i =>
    match s.workers[i]? with
    | some w => if block w.pc then [w.signal] else []
    | none => []
  | _ => []

/-- The history of a run: the signals of the goroutines that make a call of the block `block`
picks out, in the order the run makes them. -/
def KernelRouteAction.blockCalls (a : KernelRouteAction) (block : WorkerPc → Bool) :
    Sys → List Event → List State
  | _, [] => []
  | s, e :: es =>
    match a.step s e with
    | none => []
    | some s' => s.blockCall block e ++ a.blockCalls block s' es

/-- Whether an entry is in the kernel, given whether it was before and the signal of the last
call that added or deleted it, if any. -/
def lastSays (before : Prop) : Option State → Prop
  | none => before
  | some signal => signal ≠ .Unhealthy

theorem lastSays_or (before : Prop) (o o' : Option State) :
    lastSays (lastSays before o') o ↔ lastSays before (o.or o') := by
  cases o <;> rfl

theorem lastSays_congr {before before' : Prop} (h : before ↔ before') (o : Option State) :
    lastSays before o ↔ lastSays before' o := by
  cases o
  · exact h
  · rfl

/-- One event puts the target address and route where the last call it makes says. -/
theorem KernelRouteAction.FrameInv.step_target {a : KernelRouteAction} {k : Kernel} {s s' : Sys}
    {e : Event} {link : Nat} (hs : a.FrameInv k s) (hl : k.links a.ifname = some link)
    (h : a.step s e = some s') :
    ((a.ipNet, link) ∈ s'.kernel.addrs ↔
        lastSays ((a.ipNet, link) ∈ s.kernel.addrs) (s.blockCall WorkerPc.isAddr e).getLast?) ∧
      ((a.ipNet, link) ∈ s'.kernel.routes ↔
        lastSays ((a.ipNet, link) ∈ s.kernel.routes) (s.blockCall WorkerPc.isRoute e).getLast?) := by
  cases e with
  | call signal =>
    obtain ⟨-, rfl⟩ := step_call h
    exact ⟨Iff.rfl, Iff.rfl⟩
  | run i =>
    obtain ⟨w, hw, -, rfl⟩ := step_run h
    have hpc := hs.pcOk w (List.getElem?_mem hw)
    simp only [Sys.blockCall, hw, workerStep_fst]
    cases hwpc : w.pc
    case addr l =>
      rw [hwpc] at hpc
      obtain rfl : l = link := Option.some.inj (hpc.symm.trans hl)
      cases hsig : (w.signal != .Unhealthy) <;> simp_all [toggle, lastSays, WorkerPc.isAddr,
        WorkerPc.isRoute]
    case route l =>
      rw [hwpc] at hpc
      obtain rfl : l = link := Option.some.inj (hpc.1.symm.trans hl)
      cases hsig : (w.signal != .Unhealthy) <;> simp_all [toggle, lastSays, WorkerPc.isAddr,
        WorkerPc.isRoute]
    all_goals simp [lastSays, WorkerPc.isAddr, WorkerPc.isRoute]
  | deliver =>
    obtain ⟨i, signal, res, -, -, rfl⟩ := step_deliver h
    exact ⟨Iff.rfl, Iff.rfl⟩
  | expire =>
    obtain ⟨i, w, -, -, rfl⟩ := step_expire h
    exact ⟨Iff.rfl, Iff.rfl⟩

theorem KernelRouteAction.FrameInv.runEvents_target {a : KernelRouteAction} {k : Kernel}
    {s s' : Sys} {evs : List Event} {link : Nat} (hs : a.FrameInv k s)
    (hl : k.links a.ifname = some link) (h : a.runEvents s evs = some s') :
    ((a.ipNet, link) ∈ s'.kernel.addrs ↔
        lastSays ((a.ipNet, link) ∈ s.kernel.addrs) (a.blockCalls WorkerPc.isAddr s evs).getLast?) ∧
      ((a.ipNet, link) ∈ s'.kernel.routes ↔
        lastSays ((a.ipNet, link) ∈ s.kernel.routes)
          (a.blockCalls WorkerPc.isRoute s evs).getLast?) := by
  induction evs generalizing s with
  | nil => cases h; exact ⟨Iff.rfl, Iff.rfl⟩
  | cons e evs ih =>
    obtain ⟨s₁, h₁, h⟩ := Option.bind_eq_some.mp h
    have ⟨hA, hR⟩ := ih (hs.step h₁) h
    have ⟨hA₁, hR₁⟩ := hs.step_target hl h₁
    simp only [blockCalls, h₁, List.getLast?_append]
    exact ⟨hA.trans ((lastSays_congr hA₁ _).trans (lastSays_or _ _ _)),
      hR.trans ((lastSays_congr hR₁ _).trans (lastSays_or _ _ _))⟩

/-- However the goroutines, the deliveries and the deadlines interleave, the target's host address
on the link `ifname` names is there at the end exactly when the last goroutine to make its address
call carried a signal other than `Unhealthy` (as it was before, if none made one); likewise the
host route and the last route call.  The kernel is that of `Actioner.Netlink`, whose calls fail
only with `EEXIST`, `EADDRNOTAVAIL` or `ESRCH` (not, for one, with `ENETDOWN` on a link that is
down). -/
theorem act_last_call_decides (a : KernelRouteAction) (k : Kernel) (evs : List Event) (s : Sys)
    (link : Nat) (hrun : a.runEvents (.init k) evs = some s) (hl : k.links a.ifname = some link) :
    ((a.ipNet, link) ∈ s.kernel.addrs ↔
        lastSays ((a.ipNet, link) ∈ k.addrs)
          (a.blockCalls WorkerPc.isAddr (.init k) evs).getLast?) ∧
      ((a.ipNet, link) ∈ s.kernel.routes ↔
        lastSays ((a.ipNet, link) ∈ k.routes)
          (a.blockCalls WorkerPc.isRoute (.init k) evs).getLast?) :=
  (a.frameInv_init k).runEvents_target hl hrun

/-- The run of the stale `Act(Healthy)`: its goroutine makes the last address call. -/
theorem act_last_call_decides_stale :
    ∃ s, (⟨⟨[10, 0, 0, 1], 80, IPProtoTCP⟩, lit "eth0", true⟩ : KernelRouteAction).runEvents
        (.init ⟨fun n => if n = lit "eth0" then some 2 else none, ∅, ∅⟩)
        [.call .Healthy, .expire, .call .Unhealthy, .run 1, .run 1, .run 1, .run 1, .deliver, .run 0,
          .run 0, .run 0, .run 0] = some s ∧
      (⟨fun n => if n = lit "eth0" then some 2 else none, ∅, ∅⟩ : Kernel).links (⟨⟨[10, 0, 0, 1], 80, IPProtoTCP⟩, lit "eth0", true⟩ : KernelRouteAction).ifname = some 2 ∧
      (((⟨⟨[10, 0, 0, 1], 80, IPProtoTCP⟩, lit "eth0", true⟩ : KernelRouteAction).ipNet, 2) ∈ s.kernel.addrs ↔
        lastSays (((⟨⟨[10, 0, 0, 1], 80, IPProtoTCP⟩, lit "eth0", true⟩ : KernelRouteAction).ipNet, 2) ∈ (⟨fun n => if n = lit "eth0" then some 2 else none, ∅, ∅⟩ : Kernel).addrs)
          ((⟨⟨[10, 0, 0, 1], 80, IPProtoTCP⟩, lit "eth0", true⟩ : KernelRouteAction).blockCalls WorkerPc.isAddr (.init ⟨fun n => if n = lit "eth0" then some 2 else none, ∅, ∅⟩)
            [.call .Healthy, .expire, .call .Unhealthy, .run 1, .run 1, .run 1, .run 1, .deliver, .run 0,
          .run 0, .run 0, .run 0]).getLast?) ∧
      (((⟨⟨[10, 0, 0, 1], 80, IPProtoTCP⟩, lit "eth0", true⟩ : KernelRouteAction).ipNet, 2) ∈ s.kernel.routes ↔
        lastSays (((⟨⟨[10, 0, 0, 1], 80, IPProtoTCP⟩, lit "eth0", true⟩ : KernelRouteAction).ipNet, 2) ∈ (⟨fun n => if n = lit "eth0" then some 2 else none, ∅, ∅⟩ : Kernel).routes)
          ((⟨⟨[10, 0, 0, 1], 80, IPProtoTCP⟩, lit "eth0", true⟩ : KernelRouteAction).blockCalls WorkerPc.isRoute (.init ⟨fun n => if n = lit "eth0" then some 2 else none, ∅, ∅⟩)
            [.call .Healthy, .expire, .call .Unhealthy, .run 1, .run 1, .run 1, .run 1, .deliver, .run 0,
          .run 0, .run 0, .run 0]).getLast?) :=
  ⟨_, rfl, rfl, act_last_call_decides _ ⟨fun n => if n = lit "eth0" then some 2 else none, ∅, ∅⟩
    [.call .Healthy, .expire, .call .Unhealthy, .run 1, .run 1, .run 1, .run 1, .deliver, .run 0,
          .run 0, .run 0, .run 0] _ 2 rfl rfl⟩

end Healthcheck.Actioner
