/-
Whether the daemon starts.

It does not. `main` installs the global logger before it looks at the
command, and the first thing `run_daemon` does is to install it again,
which panics (`daemon_never_starts`). No other outcome of any call
matters, since none of them is made.

The rest of `run_daemon` is sound, and `runDaemon_starts` says so: in a
process that has no logger yet, it returns the error of the first call
that fails or ends up listening, and no unwrap panics. `monitor_run`
leaves the logger to `main`, and there the same statement holds of the
whole command (`monitor_starts`).

# Reading a start-up off

A start-up is compared with the list of its `?` calls (`Runs`), each
with what is shown if it fails. One rule per kind of step takes a call
off both; the steps in between move the process state along.
-/
import RustGuard.Startup

namespace RustGuard

open Lib

-- ============================================================ the monad

/-- A step, then the rest, unless it ended the start-up. -/
theorem start_bind {α β : Type} (m : Start α) (f : α → Start β)
    (p : Process) :
    (m >>= f).run p = match m.run p with
      | (.ok a, p') => (f a).run p'
      | (.error e, p') => (.error e, p') := by
  show (match m.run p with | (r, p') => ExceptT.bindCont f r p') = _
  rcases m.run p with ⟨_ | a, p'⟩ <;> rfl

/-- Without a logger, `init` installs one. -/
theorem envLoggerInit_fresh {p : Process} (h : p.logger = false) :
    envLoggerInit.run p = (.ok (), { p with logger := true }) := by
  rw [envLoggerInit, start_bind]
  show (if p.logger = true then _ else _ : Start Unit).run p = _
  rw [h]
  rfl

/-- With one, it panics. -/
theorem envLoggerInit_again {p : Process} (h : p.logger = true) :
    envLoggerInit.run p = (.error (.panic
      "env_logger::init should not be called after logger initialized"),
      p) := by
  rw [envLoggerInit, start_bind]
  show (if p.logger = true then _ else _ : Start Unit).run p = _
  rw [h]
  rfl

theorem ignored_run (w : World) (call : Call) (p : Process) :
    (ignored w call).run p = (.ok (), p) := by
  unfold ignored
  split <;> rfl

theorem programMutUnwrap_run {name : String} {p : Process}
    (h : name ∈ p.programs) : (programMutUnwrap name).run p = (.ok (), p) := by
  rw [programMutUnwrap, start_bind]
  show (if name ∉ p.programs then _ else _ : Start Unit).run p = _
  rw [if_neg (not_not_intro h)]
  rfl

theorem takeMap_run (name : String) (p : Process) :
    (takeMap name).run p
      = (.ok (decide (name ∈ p.maps)),
        { p with maps := p.maps.erase name }) := rfl

theorem takeMapUnwrap_run {name : String} {p : Process}
    (h : name ∈ p.maps) :
    (takeMapUnwrap name).run p
      = (.ok (), { p with maps := p.maps.erase name }) := by
  rw [takeMapUnwrap, start_bind, takeMap_run, decide_eq_true h]
  rfl

-- ===================================================== the first failure

section World

variable (w : World)

/-- The error of the first of these calls that fails. -/
def firstFailing (calls : List (Call × Option String)) : Option String :=
  calls.findSome? fun (call, context) =>
    match w.answer call with
    | .ok () => none
    | .error e => some (context.getD e)

/-- A start-up goes the way of its calls: it returns the error of the
first that fails, or ends in a state with `Q`. -/
def Runs (calls : List (Call × Option String)) (m : Start Unit)
    (p : Process) (Q : Process → Prop) : Prop :=
  match firstFailing w calls with
  | some e => (m.run p).1 = .error (.err e)
  | none => (m.run p).1 = .ok () ∧ Q (m.run p).2

/-- The `?` calls of `EbpfLogger::init`: only a logger that is there needs
a descriptor. -/
def loggerCalls : List (Call × Option String) :=
  match w.answer .ebpfLoggerInit with
  | .ok () => [(.asyncFd, none)]
  | .error _ => []

variable {w} {calls : List (Call × Option String)} {p : Process}
  {Q : Process → Prop}

namespace Runs

/-- A step that only moves the state. -/
theorem step {α : Type} {m : Start α} {f : α → Start Unit} {a : α}
    {p' : Process} (hm : m.run p = (.ok a, p'))
    (h : Runs w calls (f a) p' Q) : Runs w calls (m >>= f) p Q := by
  have hrun : (m >>= f).run p = (f a).run p' := by
    rw [start_bind, hm]
  unfold Runs at h ⊢
  rw [hrun]
  exact h

/-- A call that is the next of the list, whatever is shown of its
error. -/
theorem call {m : Start Unit} {f : Unit → Start Unit} {c : Call}
    {context : Option String}
    (hm : ∀ p, m.run p = match w.answer c with
      | .ok () => (.ok (), p)
      | .error e => (.error (.err (context.getD e)), p))
    (h : Runs w calls (f ()) p Q) :
    Runs w ((c, context) :: calls) (m >>= f) p Q := by
  cases hc : w.answer c with
  | ok u =>
      have hfirst : firstFailing w ((c, context) :: calls)
          = firstFailing w calls := by
        simp [firstFailing, hc]
      have hrun : (m >>= f).run p = (f ()).run p := by
        rw [start_bind, hm, hc]
      unfold Runs at h ⊢
      rw [hfirst, hrun]
      exact h
  | error e =>
      have hfirst : firstFailing w ((c, context) :: calls)
          = some (context.getD e) := by
        simp [firstFailing, hc]
      unfold Runs
      rw [hfirst, start_bind, hm, hc]

/-- `call?`. -/
theorem question {f : Unit → Start Unit} {c : Call}
    (h : Runs w calls (f ()) p Q) :
    Runs w ((c, none) :: calls) (question w c >>= f) p Q := by
  refine call ?_ h
  intro p
  unfold RustGuard.question
  cases w.answer c <;> rfl

/-- `call.context(context)?`. -/
theorem questionContext {f : Unit → Start Unit} {c : Call}
    {context : String} (h : Runs w calls (f ()) p Q) :
    Runs w ((c, some context) :: calls) (questionContext w c context >>= f)
      p Q := by
  refine call ?_ h
  intro p
  unfold RustGuard.questionContext
  cases w.answer c <;> rfl

/-- The object is loaded: its programs and maps are there. -/
theorem ebpfLoad {f : Unit → Start Unit}
    (h : Runs w calls (f ())
      { p with programs := w.object.programs, maps := w.object.maps } Q) :
    Runs w ((.ebpfLoad, none) :: calls) (ebpfLoad w >>= f) p Q := by
  rw [RustGuard.ebpfLoad, bind_assoc]
  exact question (step rfl h)

theorem ebpfLoggerInit {f : Unit → Start Unit}
    (h : Runs w calls (f ()) p Q) :
    Runs w (loggerCalls w ++ calls) (ebpfLoggerInit w >>= f) p Q := by
  unfold RustGuard.ebpfLoggerInit loggerCalls
  cases w.answer .ebpfLoggerInit with
  | ok u => exact question h
  | error e => exact step rfl h

/-- One hook of the monitor. -/
theorem attachHook {f : Unit → Start Unit} {name function : String}
    (hname : name ∈ p.programs) (h : Runs w calls (f ()) p Q) :
    Runs w ((.programTryInto name, none) :: (.fexitLoad name function, none)
      :: (.fexitAttach name, none) :: calls)
      (attachHook w name function >>= f) p Q := by
  unfold RustGuard.attachHook
  rw [bind_assoc, bind_assoc, bind_assoc]
  refine step (programMutUnwrap_run hname) ?_
  exact question (question (question h))

end Runs

-- ========================================================== the daemon

variable (w)

/-- The `?` calls of `run_daemon`, in order. -/
def daemonCalls (iface : String) : List (Call × Option String) :=
  (.ebpfLoad, none) :: (loggerCalls w
    ++ [(.programTryInto "rustguard", none), (.xdpLoad "rustguard", none),
    (.xdpAttach "rustguard" iface,
      some "failed to attach the XDP program"),
    (.mapTryInto "BANNED_IPS", none), (.mapTryInto "STATS", none),
    (.bind socketPath, none), (.setPermissions socketPath, none)])

/-- What is asked of a start of the daemon: the error of the first `?`
call that fails, or a process that listens. -/
def DaemonStarts (iface : String) (m : Start Unit) : Prop :=
  Runs w (daemonCalls w iface) m {} fun p => p.listening = some socketPath

/-- `run_daemon` by itself does what is asked. -/
theorem runDaemon_starts (hobject : w.object = rustguardObject)
    (iface : String) : DaemonStarts w iface (runDaemon w iface) := by
  unfold DaemonStarts daemonCalls runDaemon
  refine .step (envLoggerInit_fresh rfl) ?_
  refine .step (ignored_run w _ _) ?_
  refine .ebpfLoad ?_
  refine .ebpfLoggerInit ?_
  rw [hobject]
  refine .step (programMutUnwrap_run (by decide)) ?_
  refine .question ?_
  refine .question ?_
  refine .questionContext ?_
  refine .step (takeMapUnwrap_run (by decide)) ?_
  refine .question ?_
  refine .step (takeMapUnwrap_run (by decide)) ?_
  refine .question ?_
  refine .step (ignored_run w _ _) ?_
  refine .question ?_
  refine .question ?_
  exact ⟨rfl, rfl⟩

/-- The logger is there when `run_daemon` asks for one. -/
theorem main_daemon_panics (sj : SerdeJson) (soket : Socket)
    (iface : String) :
    ((main w sj soket (.daemon iface)).run {}).1 = .error (.panic
      "env_logger::init should not be called after logger initialized") := by
  unfold main
  rw [start_bind, envLoggerInit_fresh rfl]
  show ((runDaemon w iface).run _).1 = _
  unfold runDaemon
  rw [start_bind, envLoggerInit_again rfl]

/-- Behind `main` it never gets that far: whatever the interface and
whatever the calls would answer, the `Daemon` command panics, and so
does what is asked in no case. -/
theorem daemon_never_starts (sj : SerdeJson) (soket : Socket)
    (iface : String) :
    ((main w sj soket (.daemon iface)).run {}).1 = .error (.panic
        "env_logger::init should not be called after logger initialized")
      ∧ ¬ DaemonStarts w iface (main w sj soket (.daemon iface)) := by
  have hpanic := main_daemon_panics w sj soket iface
  refine ⟨hpanic, ?_⟩
  unfold DaemonStarts Runs
  rw [hpanic]
  split <;> simp

/-- Nothing fails, and it panics. -/
theorem daemon_panics_on_eth0 :
    let w : World := ⟨fun _ => .ok (), rustguardObject⟩
    let soket := Socket.ofDaemon serdeJson .init none
      "unexpected end of file"
    firstFailing w (daemonCalls w "eth0") = none
      ∧ ((main w serdeJson soket (.daemon "eth0")).run {}).1
        = .error (.panic
          "env_logger::init should not be called after logger initialized") :=
  ⟨by rfl, by rfl⟩

-- ========================================================= the monitor

/-- The `?` calls of `monitor_run`, in order. -/
def monitorCalls : List (Call × Option String) :=
  (.ebpfLoad, none) :: (loggerCalls w ++ [(.btfFromSysFs, none),
    (.programTryInto "tcp_v4_connect_exit", none),
    (.fexitLoad "tcp_v4_connect_exit" "tcp_v4_connect", none),
    (.fexitAttach "tcp_v4_connect_exit", none),
    (.programTryInto "incoming_connection", none),
    (.fexitLoad "incoming_connection" "inet_csk_accept", none),
    (.fexitAttach "incoming_connection", none),
    (.mapTryInto "EVENTS", none)])

/-- The `Monitor` command starts, or returns the error of the first call
that fails: the logger is `main`'s business alone. -/
theorem monitor_starts (hobject : w.object = rustguardObject)
    (sj : SerdeJson) (soket : Socket) :
    Runs w (monitorCalls w) (main w sj soket .monitor) {}
      fun p => p.monitoring = true := by
  unfold monitorCalls main monitorRun
  refine .step (envLoggerInit_fresh rfl) ?_
  refine .ebpfLoad ?_
  refine .ebpfLoggerInit ?_
  refine .question ?_
  rw [hobject]
  refine .attachHook (by decide) ?_
  refine .attachHook (by decide) ?_
  refine .step (takeMap_run _ _) ?_
  refine .question ?_
  exact ⟨rfl, rfl⟩

end World

end RustGuard
