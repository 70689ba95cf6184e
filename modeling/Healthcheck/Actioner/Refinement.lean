import Healthcheck.Actioner.Concurrent

/-!
# Actioner — interleaved `Act` calls refine sequential ones

`actSeq` is the design the spec states: `Act` calls made one after another, each goroutine
running to its send before the next call.  With no deadline taken, every run of the interleaved
model of `Actioner.Concurrent` is, between calls, in the state `actSeq` gives: the same kernel,
and the same result for every call.  The invariant `Refines` says how far the newest goroutine
has got, counted in its own steps from the kernel the older calls left; that only this goroutine
can move, and what the kernel shows after a call returned `nil`, follow from it.
-/

namespace Healthcheck.Actioner

open Utils

/-! ## 1. Sequential calls -/

/-- `Act(signal)` calls one after another, `timeout > 0`, each goroutine sending before the next
call: the kernel after them and what each returned, with its signal. -/
def KernelRouteAction.actSeq (a : KernelRouteAction) :
    Kernel → List State → Kernel × List (State × Option ActError)
  | k, [] => (k, [])
  | k, signal :: signals =>
    ((a.actSeq (a.work signal k).1 signals).1,
      (signal, (a.work signal k).2) :: (a.actSeq (a.work signal k).1 signals).2)

/-- One more call at the end runs its goroutine on the kernel the others left. -/
theorem KernelRouteAction.actSeq_append_singleton (a : KernelRouteAction) (k : Kernel)
    (signals : List State) (signal : State) :
    a.actSeq k (signals ++ [signal]) =
      ((a.work signal (a.actSeq k signals).1).1,
        (a.actSeq k signals).2 ++ [(signal, (a.work signal (a.actSeq k signals).1).2)]) := by
  induction signals generalizing k with
  | nil => rfl
  | cons s signals ih => rw [List.cons_append, actSeq, ih, actSeq, List.cons_append]

/-- Of two toggles of one entry, the later decides. -/
theorem toggle_toggle_last (up up' : Bool) (e : IPNet × Nat) (s : Finset (IPNet × Nat)) :
    toggle up e (toggle up' e s) = toggle up e s := by
  ext x
  by_cases hx : x = e <;> cases up <;> cases up' <;> simp [toggle, hx]

theorem KernelRouteAction.settle_settle_last (a : KernelRouteAction) (signal signal' : State)
    (link : Nat) (k : Kernel) :
    a.settle signal link (a.settle signal' link k) = a.settle signal link k := by
  by_cases hr : a.withRoute <;> simp [settle, hr, toggle_toggle_last]

/-- On an interface that exists, sequential `Act` calls all return `nil`, and the last one
decides: the kernel is what that call alone makes of the first kernel.  The kernel is that of
`Actioner.Netlink`, whose calls fail only with `EEXIST`, `EADDRNOTAVAIL` or `ESRCH` (not, for
one, with `ENETDOWN` on a link that is down). -/
theorem actSeq_last_wins (a : KernelRouteAction) (k : Kernel) (link : Nat)
    (hl : k.links a.ifname = some link) (signals : List State) (hne : signals ≠ []) :
    a.actSeq k signals =
      (a.settle (signals.getLast hne) link k, signals.map fun signal => (signal, none)) := by
  induction signals generalizing k with
  | nil => exact absurd rfl hne
  | cons signal signals ih =>
    have hl' : (a.settle signal link k).links a.ifname = some link := by
      rw [KernelRouteAction.settle_links, hl]
    cases signals with
    | nil => simp [KernelRouteAction.actSeq, a.work_of_link signal hl]
    | cons signal' signals =>
      rw [KernelRouteAction.actSeq, a.work_of_link signal hl,
        ih (a.settle signal link k) hl' (List.cons_ne_nil _ _),
        KernelRouteAction.settle_settle_last]
      simp

theorem actSeq_last_wins_up_down :
    (fun n => if n = lit "eth0" then some 2 else none : GoString → Option Nat) (lit "eth0") =
        some 2 ∧
      [State.Healthy, .Unhealthy] ≠ [] ∧
      (⟨⟨[10, 0, 0, 1], 80, IPProtoTCP⟩, lit "eth0", true⟩ : KernelRouteAction).actSeq
          ⟨fun n => if n = lit "eth0" then some 2 else none, ∅, ∅⟩ [.Healthy, .Unhealthy] =
        ((⟨⟨[10, 0, 0, 1], 80, IPProtoTCP⟩, lit "eth0", true⟩ : KernelRouteAction).settle
            ([State.Healthy, .Unhealthy].getLast (by decide)) 2
            ⟨fun n => if n = lit "eth0" then some 2 else none, ∅, ∅⟩,
          [State.Healthy, .Unhealthy].map fun signal => (signal, none)) :=
  ⟨by decide, by decide, actSeq_last_wins _ _ 2 (by decide) _ (by decide)⟩

/-- If the last sequential call returned `nil`, the kernel shows its signal on the interface. -/
theorem KernelRouteAction.actSeq_post (a : KernelRouteAction) (k : Kernel) (signals : List State)
    {signal : State} (h : (a.actSeq k signals).2.getLast? = some (signal, none)) :
    ∃ link, (a.actSeq k signals).1.links a.ifname = some link ∧
      a.Post link signal (a.actSeq k signals).1 := by
  rcases List.eq_nil_or_concat signals with rfl | ⟨init, last, rfl⟩
  · cases h
  rw [List.concat_eq_append, actSeq_append_singleton] at h ⊢
  simp only [List.getLast?_concat, Option.some.injEq, Prod.mk.injEq] at h
  obtain ⟨rfl, hres⟩ := h
  cases hl : (a.actSeq k init).1.links a.ifname with
  | none => simp [a.work_of_no_link _ hl] at hres
  | some link =>
    rw [a.work_of_link _ hl]
    exact ⟨link, hl, a.post_settle _ link _⟩

/-! ## 2. A goroutine's own steps -/

theorem KernelRouteAction.workerRun_add (a : KernelRouteAction) (signal : State) (n m : Nat)
    (x : Kernel × WorkerPc) :
    a.workerRun signal (n + m) x = a.workerRun signal n (a.workerRun signal m x) := by
  induction m generalizing x with
  | zero => rfl
  | succ m ih => exact ih _

theorem KernelRouteAction.workerRun_succ (a : KernelRouteAction) (signal : State) (n : Nat)
    (x : Kernel × WorkerPc) :
    a.workerRun signal (n + 1) x =
      a.workerStep signal (a.workerRun signal n x).1 (a.workerRun signal n x).2 := by
  rw [Nat.add_comm, workerRun_add]
  rfl

theorem KernelRouteAction.workerRun_exited (a : KernelRouteAction) (signal : State) (n : Nat)
    (k : Kernel) (res : Option ActError) :
    a.workerRun signal n (k, .exited res) = (k, .exited res) := by
  induction n with
  | zero => rfl
  | succ n ih => exact ih

/-- A goroutine that returned after any number of its own steps has done what `work` does. -/
theorem KernelRouteAction.workerRun_eq_work {a : KernelRouteAction} {signal : State} {n : Nat}
    {k k' : Kernel} {res : Option ActError}
    (h : a.workerRun signal n (k, .linkByName) = (k', .exited res)) :
    k' = (a.work signal k).1 ∧ res = (a.work signal k).2 := by
  have h₁ : a.workerRun signal (4 + n) (k, .linkByName) = (k', .exited res) := by
    rw [workerRun_add, h, workerRun_exited]
  rw [Nat.add_comm, workerRun_add, workerRun_linkByName, workerRun_exited] at h₁
  simp only [Prod.mk.injEq, WorkerPc.exited.injEq] at h₁
  exact ⟨h₁.1.symm, h₁.2.symm⟩

/-! ## 3. The simulation -/

/-- The states of a run with no deadline taken, against the sequential calls from `k`: between
calls, the kernel and the results of `actSeq`; inside a call, the older goroutines returned with
the results of `actSeq`, and the newest has taken `n` steps from the kernel they left. -/
inductive KernelRouteAction.Refines (a : KernelRouteAction) (k : Kernel) : Sys → Prop
  | idle {workers : List Worker} :
      (∀ w ∈ workers, w.pc.isExited) →
      a.Refines k ⟨(a.actSeq k (workers.map Worker.signal)).1, workers, .idle,
        (a.actSeq k (workers.map Worker.signal)).2⟩
  | waiting {older : List Worker} {w : Worker} {kernel : Kernel} (n : Nat) :
      (∀ v ∈ older, v.pc.isExited) →
      a.workerRun w.signal n ((a.actSeq k (older.map Worker.signal)).1, .linkByName) =
        (kernel, w.pc) →
      a.Refines k ⟨kernel, older ++ [w], .waiting older.length,
        (a.actSeq k (older.map Worker.signal)).2⟩

theorem KernelRouteAction.refines_init (a : KernelRouteAction) (k : Kernel) :
    a.Refines k (.init k) :=
  @Refines.idle a k [] (by simp)

/-- One event other than a deadline keeps a run in step with the sequential calls. -/
theorem KernelRouteAction.Refines.step {a : KernelRouteAction} {k : Kernel} {s s' : Sys}
    {e : Event} (hs : a.Refines k s) (he : e ≠ .expire) (h : a.step s e = some s') :
    a.Refines k s' := by
  cases e with
  | call signal =>
    obtain ⟨hidle, rfl⟩ := step_call h
    cases hs with
    | idle hold =>
      exact @Refines.waiting a k _ ⟨signal, .linkByName⟩ _ 0 hold rfl
    | waiting _ _ _ => cases hidle
  | run i =>
    obtain ⟨v, hv, hex, rfl⟩ := step_run h
    cases hs with
    | idle hold => simpa [hex] using hold v (List.getElem?_mem hv)
    | waiting n hold hw =>
      obtain ⟨rfl, rfl⟩ := eq_newest_of_getElem? hold hv hex
      simp only [List.set_append_right _ _ (le_refl _), Nat.sub_self, List.set_cons_zero]
      refine Refines.waiting (n + 1) hold ?_
      rw [workerRun_succ, hw]
  | deliver =>
    obtain ⟨i, signal, res, hi, hw, rfl⟩ := step_deliver h
    cases hs with
    | idle _ => cases hi
    | @waiting older w kernel n hold hrun =>
      cases hi
      simp only [List.getElem?_append_right (le_refl _), Nat.sub_self, List.getElem?_cons_zero,
        Option.some.injEq] at hw
      subst hw
      obtain ⟨rfl, hres⟩ := workerRun_eq_work hrun
      have hidle := @Refines.idle a k (older ++ [⟨signal, .exited res⟩])
        (fun _ hv => isExited_of_mem_append hold rfl hv)
      rw [List.map_append, List.map_singleton, actSeq_append_singleton] at hidle
      dsimp only at hres hidle
      rwa [← hres] at hidle
  | expire => exact absurd rfl he

theorem KernelRouteAction.Refines.runEvents {a : KernelRouteAction} {k : Kernel} {s s' : Sys}
    {evs : List Event} (hs : a.Refines k s) (hno : Event.expire ∉ evs)
    (h : a.runEvents s evs = some s') : a.Refines k s' := by
  induction evs generalizing s with
  | nil => cases h; exact hs
  | cons e evs ih =>
    simp only [KernelRouteAction.runEvents, List.mem_cons, not_or] at h hno
    obtain ⟨s₁, h₁, h⟩ := Option.bind_eq_some.mp h
    exact ih (hs.step (Ne.symm hno.1) h₁) hno.2 h

/-- With no deadline taken, whenever the caller is between calls, the kernel and what every call
returned are those of the same calls made one after another. -/
theorem act_refines_actSeq (a : KernelRouteAction) (k : Kernel) (evs : List Event) (s : Sys)
    (hrun : a.runEvents (.init k) evs = some s) (hno : Event.expire ∉ evs)
    (hidle : s.caller = .idle) :
    (s.kernel, s.returned) = a.actSeq k (s.workers.map Worker.signal) := by
  cases (a.refines_init k).runEvents hno hrun with
  | idle _ => rfl
  | waiting _ _ _ => cases hidle

theorem act_refines_actSeq_up_down :
    ∃ s, (⟨⟨[10, 0, 0, 1], 80, IPProtoTCP⟩, lit "eth0", true⟩ : KernelRouteAction).runEvents
        (.init ⟨fun n => if n = lit "eth0" then some 2 else none, ∅, ∅⟩)
        [.call .Healthy, .run 0, .run 0, .run 0, .run 0, .deliver, .call .Unhealthy, .run 1,
          .run 1, .run 1, .run 1, .deliver] = some s ∧
      Event.expire ∉ [Event.call .Healthy, .run 0, .run 0, .run 0, .run 0, .deliver,
        .call .Unhealthy, .run 1, .run 1, .run 1, .run 1, .deliver] ∧
      s.caller = .idle ∧
      (s.kernel, s.returned) =
        (⟨⟨[10, 0, 0, 1], 80, IPProtoTCP⟩, lit "eth0", true⟩ : KernelRouteAction).actSeq
          ⟨fun n => if n = lit "eth0" then some 2 else none, ∅, ∅⟩ (s.workers.map Worker.signal) :=
  ⟨_, rfl, by decide, rfl, act_refines_actSeq _ ⟨fun n => if n = lit "eth0" then some 2 else none,
    ∅, ∅⟩ [.call .Healthy, .run 0, .run 0, .run 0, .run 0, .deliver, .call .Unhealthy, .run 1,
      .run 1, .run 1, .run 1, .deliver] _ rfl (by decide) rfl⟩

/-- With no deadline taken, only the newest call's goroutine can take a step, so the goroutines'
netlink calls run one call after another, in call order; between calls every goroutine has
returned, and if the last call returned `nil` the kernel shows its signal. -/
theorem act_serial (a : KernelRouteAction) (k : Kernel) (evs : List Event) (s : Sys)
    (hrun : a.runEvents (.init k) evs = some s) (hno : Event.expire ∉ evs) :
    (∀ i, (a.step s (.run i)).isSome → i + 1 = s.workers.length) ∧
    (s.caller = .idle → (∀ w ∈ s.workers, w.pc.isExited) ∧
      ∀ signal, s.returned.getLast? = some (signal, none) →
        ∃ link, s.kernel.links a.ifname = some link ∧ a.Post link signal s.kernel) := by
  have hs := (a.refines_init k).runEvents hno hrun
  refine ⟨fun i hi => ?_, fun hidle => ?_⟩
  · obtain ⟨s', hs'⟩ := Option.isSome_iff_exists.mp hi
    obtain ⟨v, hv, hex, -⟩ := KernelRouteAction.step_run hs'
    cases hs with
    | idle hold => simpa [hex] using hold v (List.getElem?_mem hv)
    | waiting _ hold _ => simp [(eq_newest_of_getElem? hold hv hex).1]
  · cases hs with
    | idle hold => exact ⟨hold, fun _ => a.actSeq_post k _⟩
    | waiting _ _ _ => cases hidle

theorem act_serial_up :
    ∃ s, (⟨⟨[10, 0, 0, 1], 80, IPProtoTCP⟩, lit "eth0", false⟩ : KernelRouteAction).runEvents
        (.init ⟨fun n => if n = lit "eth0" then some 2 else none, ∅, ∅⟩)
        [.call .Healthy, .run 0, .run 0, .run 0, .deliver] = some s ∧
      Event.expire ∉ [Event.call .Healthy, .run 0, .run 0, .run 0, .deliver] ∧
      ((∀ i, ((⟨⟨[10, 0, 0, 1], 80, IPProtoTCP⟩, lit "eth0", false⟩ : KernelRouteAction).step s
          (.run i)).isSome → i + 1 = s.workers.length) ∧
        (s.caller = .idle → (∀ w ∈ s.workers, w.pc.isExited) ∧
          ∀ signal, s.returned.getLast? = some (signal, none) →
            ∃ link, s.kernel.links
                (⟨⟨[10, 0, 0, 1], 80, IPProtoTCP⟩, lit "eth0", false⟩ : KernelRouteAction).ifname =
                some link ∧
              (⟨⟨[10, 0, 0, 1], 80, IPProtoTCP⟩, lit "eth0", false⟩ : KernelRouteAction).Post link
                signal s.kernel)) :=
  ⟨_, rfl, by decide, act_serial _ ⟨fun n => if n = lit "eth0" then some 2 else none, ∅, ∅⟩
    [.call .Healthy, .run 0, .run 0, .run 0, .deliver] _ rfl (by decide)⟩

/-- `Act(Healthy)` abandoned at its deadline, then `Act(Unhealthy)`, which returns `nil`, then
the first goroutine runs: every goroutine has returned and the last call was a `nil`
`Act(Unhealthy)`, yet the address is on the interface. -/
theorem act_stale_up_after_down :
    ∃ s, (⟨⟨[10, 0, 0, 1], 80, IPProtoTCP⟩, lit "eth0", false⟩ : KernelRouteAction).runEvents
        (.init ⟨fun n => if n = lit "eth0" then some 2 else none, ∅, ∅⟩)
        [.call .Healthy, .expire, .call .Unhealthy, .run 1, .run 1, .run 1, .deliver, .run 0, .run 0,
          .run 0] = some s ∧
      s.caller = .idle ∧ (∀ w ∈ s.workers, w.pc.isExited) ∧
      s.returned.getLast? = some (.Unhealthy, none) ∧
      ((⟨⟨[10, 0, 0, 1], 80, IPProtoTCP⟩, lit "eth0", false⟩ : KernelRouteAction).ipNet, 2) ∈
        s.kernel.addrs :=
  ⟨_, rfl, rfl, by decide, rfl, by decide⟩

end Healthcheck.Actioner
