import Keepalived.LvsHandlers

namespace Keepalived

/-!
# Process priorities and notify FIFOs

The helpers `get_realtime_priority`, `get_rt_rlimit` and `get_priority` and
the `vrrp_`, `checker_` and `bfd_` handlers built on them, and the
`notify_fifo` and `notify_fifo_script` helpers with their three users each.
A helper returns its value together with what it logged.
-/

/-- `get_realtime_priority`: `-1` without a value, otherwise clamped to the `SCHED_RR` range. -/
def getRealtimePriority
    (env : Env)
    (strvec : Strvec)
    (process : String) :
    Int × List Diagnostic :=
  if vectorSize strvec < 2 then
    (-1, [⟨.info, .rejectLine, s!"No {process} process real-time priority specified"⟩])
  else
    let minPriority := env.rtPriorityMin
    let maxPriority := env.rtPriorityMax
    let priority := atoi (strvecSlot env strvec 1)
    let (priority, low) :=
      if priority < minPriority then
        (minPriority, [⟨.info, .clamp,
          s!"{process} process real-time priority {priority} less than minimum {minPriority} - setting to minimum"⟩])
      else (priority, [])
    let (priority, high) :=
      if maxPriority < priority then
        (maxPriority, [⟨.info, .clamp,
          s!"{process} process real-time priority {priority} greater than maximum {maxPriority} - setting to maximum"⟩])
      else (priority, [])
    (priority, low ++ high)

/-- `get_rt_rlimit`: a complete `strtoul` parse, `0` on error. -/
def getRtRlimit
    (env : Env)
    (strvec : Strvec)
    (process : String) :
    Nat × List Diagnostic :=
  let value := strvecSlot env strvec 1
  let (limit, endptr) := strtoul value
  let rlim := toUnsigned 64 limit
  if endptr ≠ [] ∨ rlim ≠ limit then
    (0, [⟨.info, .rejectLine, s!"Invalid {process} real-time limit - {value}"⟩])
  else
    (rlim, [])

/-- `get_priority`: a nice value in `[-20, 19]`, `0` when missing or invalid. -/
def getPriority
    (env : Env)
    (strvec : Strvec)
    (process : String) :
    Int × List Diagnostic :=
  if vectorSize strvec < 2 then
    (0, [⟨.info, .rejectLine, s!"No {process} process priority specified"⟩])
  else
    let priority := atoi (strvecSlot env strvec 1)
    if priority < -20 ∨ 19 < priority then
      (0, [⟨.info, .rejectLine, s!"Invalid {process} process priority specified"⟩])
    else
      (toSigned 8 priority, [])

/-- `*_prio_handler`: store what `get_priority` returns. -/
def priorityHandler (process : String) (set : GlobalState → Int → GlobalState) :
    HandlerFn :=
  fun env s strvec =>
    let (priority, log) := getPriority env strvec process
    ⟨set s priority, log, []⟩

/-- `*_rt_priority_handler`: store a non-negative result of `get_realtime_priority`. -/
def rtPriorityHandler (process : String) (set : GlobalState → Int → GlobalState) :
    HandlerFn :=
  fun env s strvec =>
    let (priority, log) := getRealtimePriority env strvec process
    ⟨if 0 ≤ priority then set s priority else s, log, []⟩

/-- `*_rt_rlimit_handler`: store what `get_rt_rlimit` returns. -/
def rtRlimitHandler (process : String) (set : GlobalState → Nat → GlobalState) :
    HandlerFn :=
  fun env s strvec =>
    let (limit, log) := getRtRlimit env strvec process
    ⟨set s limit, log, []⟩

/-- `vrrp_prio_handler`. -/
def vrrpPrioHandler : HandlerFn :=
  priorityHandler "vrrp" fun s p => { s with vrrpProcessPriority := p }

/-- `vrrp_rt_priority_handler`. -/
def vrrpRtPriorityHandler : HandlerFn :=
  rtPriorityHandler "vrrp" fun s p => { s with vrrpRealtimePriority := p }

/-- `vrrp_rt_rlimit_handler`. -/
def vrrpRtRlimitHandler : HandlerFn :=
  rtRlimitHandler "vrrp" fun s l => { s with vrrpRlimitRt := l }

/-- `checker_prio_handler`. -/
def checkerPrioHandler : HandlerFn :=
  priorityHandler "checker" fun s p => { s with checkerProcessPriority := p }

/-- `checker_rt_priority_handler`. -/
def checkerRtPriorityHandler : HandlerFn :=
  rtPriorityHandler "checker" fun s p => { s with checkerRealtimePriority := p }

/-- `checker_rt_rlimit_handler`. -/
def checkerRtRlimitHandler : HandlerFn :=
  rtRlimitHandler "checker" fun s l => { s with checkerRlimitRt := l }

/-- `bfd_prio_handler`. -/
def bfdPrioHandler : HandlerFn :=
  priorityHandler "bfd" fun s p => { s with bfdProcessPriority := p }

/-- `bfd_rt_priority_handler`. -/
def bfdRtPriorityHandler : HandlerFn :=
  rtPriorityHandler "BFD" fun s p => { s with bfdRealtimePriority := p }

/-- `bfd_rt_rlimit_handler`. -/
def bfdRtRlimitHandler : HandlerFn :=
  rtRlimitHandler "bfd" fun s l => { s with bfdRlimitRt := l }

/-- `checker_no_swap_handler`. -/
def checkerNoSwapHandler : HandlerFn :=
  flagHandler fun s => { s with checkerNoSwap := true }

/-- `bfd_no_swap_handler`. -/
def bfdNoSwapHandler : HandlerFn :=
  flagHandler fun s => { s with bfdNoSwap := true }

/-- Which of the three `notify_fifo_t` records of `global_data` a handler names. -/
inductive FifoKind where
  | global
  | vrrp
  | lvs
  deriving DecidableEq, Repr

namespace FifoKind

/-- The `type` string the handlers pass. -/
def typeName : FifoKind → String
  | .global => ""
  | .vrrp => "vrrp_"
  | .lvs => "lvs_"

/-- `&global_data->notify_fifo` and its siblings. -/
def get (kind : FifoKind) (s : GlobalState) : NotifyFifo :=
  match kind with
  | .global => s.notifyFifo
  | .vrrp => s.vrrpNotifyFifo
  | .lvs => s.lvsNotifyFifo

/-- Write through that pointer. -/
def set (kind : FifoKind) (s : GlobalState) (fifo : NotifyFifo) : GlobalState :=
  match kind with
  | .global => { s with notifyFifo := fifo }
  | .vrrp => { s with vrrpNotifyFifo := fifo }
  | .lvs => { s with lvsNotifyFifo := fifo }

@[simp] theorem get_set (kind : FifoKind) (s : GlobalState) (fifo : NotifyFifo) :
    kind.get (kind.set s fifo) = fifo := by
  cases kind <;> rfl

end FifoKind

/-- `notify_fifo(strvec, type, fifo)`: the FIFO name, once. -/
def notifyFifo (kind : FifoKind) : HandlerFn :=
  fun env s strvec =>
    let type := kind.typeName
    let fifo := kind.get s
    if vectorSize strvec < 2 then
      .info s .rejectLine s!"No {type}notify_fifo name specified"
    else
      let name := strvecSlot env strvec 1
      match fifo.name with
      | some _ =>
          .info s .rejectLine s!"{type}notify_fifo already specified - ignoring {name}"
      | none => .done (kind.set s { fifo with name := some name })

/-- `notify_fifo_script(strvec, type, fifo)`: the FIFO's script, once. -/
def notifyFifoScript (kind : FifoKind) : HandlerFn :=
  fun env s strvec =>
    let type := kind.typeName
    let fifo := kind.get s
    if vectorSize strvec < 2 then
      .info s .rejectLine s!"No {type}notify_fifo_script specified"
    else
      match fifo.script with
      | some _ =>
          let name := strvecSlot env strvec 1
          .info s .rejectLine s!"{type}notify_fifo_script already specified - ignoring {name}"
      | none =>
          let idStr := type ++ "notify_fifo"
          .done (kind.set s
            { fifo with script := env.notifyScriptInit strvec true idStr s.defaultScriptUser })

/-- `global_notify_fifo`. -/
def globalNotifyFifo : HandlerFn :=
  notifyFifo .global

/-- `global_notify_fifo_script`. -/
def globalNotifyFifoScript : HandlerFn :=
  notifyFifoScript .global

/-- `vrrp_notify_fifo`. -/
def vrrpNotifyFifo : HandlerFn :=
  notifyFifo .vrrp

/-- `vrrp_notify_fifo_script`. -/
def vrrpNotifyFifoScript : HandlerFn :=
  notifyFifoScript .vrrp

/-- `lvs_notify_fifo`. -/
def lvsNotifyFifo : HandlerFn :=
  notifyFifo .lvs

/-- `lvs_notify_fifo_script`. -/
def lvsNotifyFifoScript : HandlerFn :=
  notifyFifoScript .lvs

end Keepalived
