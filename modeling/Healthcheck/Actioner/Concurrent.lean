import Healthcheck.Actioner.KernelRoute

/-!
# Actioner — `Act` calls and their goroutines, interleaved

Each `Act` call starts a goroutine and waits in a `select` for the goroutine's result on the call's
own `done` channel or for its deadline.  On the deadline `Act` returns `context deadline exceeded`
and the goroutine keeps running: nothing stops it.  A run is any interleaving of calls (a call
starts once the previous one returned), goroutine steps (one netlink call each), deliveries and
deadlines.  With no deadline taken, only the newest call's goroutine can ever move, so the
goroutines' netlink calls run one call after another, in call order; a goroutine abandoned at a
deadline can still change the kernel after later calls returned.  A call with `timeout ≤ 0`
returns at once without a goroutine and is left out.
-/

namespace Healthcheck.Actioner

open Utils

/-! ## 1. The goroutine, one netlink call at a time -/

/-- Where an `Act` call's goroutine is. -/
inductive WorkerPc
  /-- before `netlink.LinkByName` -/
  | linkByName
  /-- before the address block, on the link found -/
  | addr (link : Nat)
  /-- before the host-route block -/
  | route (link : Nat)
  /-- before `done <- res` -/
  | send (res : Option ActError)
  /-- returned, `res` sent -/
  | exited (res : Option ActError)
  deriving DecidableEq, Repr

/-- The goroutine has returned. -/
def WorkerPc.isExited : WorkerPc → Bool
  | .exited _ => true
  | _ => false

/-- One step of the goroutine of `Act(signal)`: one netlink call, or the send on `done`, which
never blocks (`done` has room for one). -/
def KernelRouteAction.workerStep (a : KernelRouteAction) (signal : State) (k : Kernel) :
    WorkerPc → Kernel × WorkerPc
  | .linkByName =>
    match linkByName k a.ifname with
    | .error err => (k, .send (some (.linkByName err)))
    | .ok link => (k, .addr link)
  | .addr link =>
    match a.addrStep signal link k with
    | (k, some err) => (k, .send (some err))
    | (k, none) => (k, if a.withRoute then .route link else .send none)
  | .route link => ((a.routeStep signal link k).1, .send (a.routeStep signal link k).2)
  | .send res => (k, .exited res)
  | .exited res => (k, .exited res)

/-- `n` steps of a goroutine that no other runs alongside. -/
def KernelRouteAction.workerRun (a : KernelRouteAction) (signal : State) :
    Nat → Kernel × WorkerPc → Kernel × WorkerPc
  | 0, s => s
  | n + 1, (k, pc) => a.workerRun signal n (a.workerStep signal k pc)

/-- Run alone, the goroutine does what `work` says in at most four steps: the small steps refine
the `Act` of `Actioner.KernelRoute`. -/
theorem KernelRouteAction.workerRun_linkByName (a : KernelRouteAction) (signal : State)
    (k : Kernel) :
    a.workerRun signal 4 (k, .linkByName) = ((a.work signal k).1, .exited (a.work signal k).2) := by
  simp only [workerRun, workerStep, work]
  cases linkByName k a.ifname with
  | error err => rfl
  | ok link =>
    simp only
    cases a.addrStep signal link k with
    | mk k' res =>
      cases res with
      | some err => rfl
      | none => cases a.withRoute <;> rfl

@[simp] theorem KernelRouteAction.workerStep_links (a : KernelRouteAction) (signal : State)
    (k : Kernel) (pc : WorkerPc) : (a.workerStep signal k pc).1.links = k.links := by
  cases pc with
  | linkByName => simp only [workerStep]; split <;> rfl
  | addr link => simp only [workerStep, addrStep_eq]
  | route link => simp [workerStep, routeStep_eq]
  | send res => rfl
  | exited res => rfl

/-! ## 2. Runs -/

/-- An `Act` call's goroutine: the call's signal and where the goroutine is. -/
structure Worker where
  signal : State
  pc : WorkerPc
  deriving DecidableEq, Repr

/-- The caller: between calls, or in the `select` of call `i`. -/
inductive Caller
  | idle
  | waiting (i : Nat)
  deriving DecidableEq, Repr

/-- A run's state: the kernel, the goroutines in call order (the `i`-th started by call `i`), the
caller, and what each finished call returned, with its signal. -/
structure Sys where
  kernel : Kernel
  workers : List Worker
  caller : Caller
  returned : List (State × Option ActError)

/-- Before any call. -/
def Sys.init (k : Kernel) : Sys := ⟨k, [], .idle, []⟩

/-- The events of a run. -/
inductive Event
  /-- the caller calls `Act(signal, timeout)`, `timeout > 0` -/
  | call (signal : State)
  /-- goroutine `i` takes a step -/
  | run (i : Nat)
  /-- the current call's `select` receives on `done` -/
  | deliver
  /-- the current call's `select` takes `ctx.Done()` -/
  | expire
  deriving DecidableEq, Repr

/-- One event, when it can happen. -/
def KernelRouteAction.step (a : KernelRouteAction) (s : Sys) : Event → Option Sys
  | .call signal =>
    match s.caller with
    | .idle =>
      some { s with workers := s.workers ++ [⟨signal, .linkByName⟩],
                    caller := .waiting s.workers.length }
    | .waiting _ => none
  | .run i =>
    match s.workers[i]? with
    | some ⟨_, .exited _⟩ => none
    | some w =>
      some { s with kernel := (a.workerStep w.signal s.kernel w.pc).1,
                    workers := s.workers.set i ⟨w.signal, (a.workerStep w.signal s.kernel w.pc).2⟩ }
    | none => none
  | .deliver =>
    match s.caller with
    | .waiting i =>
      match s.workers[i]? with
      | some ⟨signal, .exited res⟩ =>
        some { s with caller := .idle, returned := s.returned ++ [(signal, res)] }
      | _ => none
    | .idle => none
  | .expire =>
    match s.caller with
    | .waiting i =>
      match s.workers[i]? with
      | some w =>
        some { s with caller := .idle, returned := s.returned ++ [(w.signal, some .deadlineExceeded)] }
      | none => none
    | .idle => none

/-- A run: the events one after another, if each can happen. -/
def KernelRouteAction.runEvents (a : KernelRouteAction) : Sys → List Event → Option Sys
  | s, [] => some s
  | s, e :: es => (a.step s e).bind fun s => a.runEvents s es

theorem KernelRouteAction.step_call {a : KernelRouteAction} {s s' : Sys} {signal : State}
    (h : a.step s (.call signal) = some s') :
    s.caller = .idle ∧
      s' = { s with workers := s.workers ++ [⟨signal, .linkByName⟩],
                    caller := .waiting s.workers.length } := by
  simp only [step] at h
  split at h
  · exact ⟨‹_›, (Option.some.inj h).symm⟩
  · cases h

theorem KernelRouteAction.step_run {a : KernelRouteAction} {s s' : Sys} {i : Nat}
    (h : a.step s (.run i) = some s') :
    ∃ w, s.workers[i]? = some w ∧ w.pc.isExited = false ∧
      s' = { s with
        kernel := (a.workerStep w.signal s.kernel w.pc).1,
        workers := s.workers.set i ⟨w.signal, (a.workerStep w.signal s.kernel w.pc).2⟩ } := by
  simp only [step] at h
  split at h
  · cases h
  · next w hne hw =>
    refine ⟨w, hw, ?_, (Option.some.inj h).symm⟩
    obtain ⟨signal, pc⟩ := w
    cases pc <;> first | rfl | exact (hne _ _ rfl).elim
  · cases h

theorem KernelRouteAction.step_deliver {a : KernelRouteAction} {s s' : Sys}
    (h : a.step s .deliver = some s') :
    ∃ i signal res, s.caller = .waiting i ∧ s.workers[i]? = some ⟨signal, .exited res⟩ ∧
      s' = { s with caller := .idle, returned := s.returned ++ [(signal, res)] } := by
  simp only [step] at h
  split at h
  · next i hi =>
    split at h
    · next signal res hw => exact ⟨i, signal, res, hi, hw, (Option.some.inj h).symm⟩
    · cases h
  · cases h

/-! ## 3. Goroutines of which all but the newest returned -/

/-- Among goroutines of which all but the newest returned, only the newest can be running. -/
theorem eq_newest_of_getElem? {older : List Worker} {w v : Worker} {i : Nat}
    (hold : ∀ u ∈ older, u.pc.isExited) (hv : (older ++ [w])[i]? = some v)
    (hex : v.pc.isExited = false) : i = older.length ∧ v = w := by
  rcases lt_trichotomy i older.length with hi | rfl | hi
  · rw [List.getElem?_append_left hi] at hv
    exact absurd (hold v (List.getElem?_mem hv)) (by simp [hex])
  · simp [List.getElem?_append_right] at hv
    exact ⟨rfl, hv.symm⟩
  · rw [List.getElem?_eq_none (by simpa using hi)] at hv
    cases hv

theorem isExited_of_mem_append {older : List Worker} {w v : Worker} {res : Option ActError}
    (hold : ∀ u ∈ older, u.pc.isExited) (hw : w.pc = .exited res) (hv : v ∈ older ++ [w]) :
    v.pc.isExited := by
  rcases List.mem_append.mp hv with hv | hv
  · exact hold v hv
  · rw [List.mem_singleton.mp hv, hw]; rfl

end Healthcheck.Actioner
