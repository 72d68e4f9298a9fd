import Keepalived.GlobalData

namespace Keepalived

/-!
# General global definitions

The first group of handlers of `global_parser.c`: link polling, the router id,
the SMTP alerting settings and the default interface.  Handlers that differ
only in the field they write and the text they log are one definition with
parameters (`flagHandler`, `setValueHandler`, `trueFalseHandler`); each member
keeps its own definition under the source's name.
-/

/-- A modelled handler: `void handler(vector_t *strvec)` on the global state. -/
abbrev HandlerFn := Env → GlobalState → Strvec → Outcome

namespace Outcome

/-- Run `k` on the state `o` ends in, keeping `o`'s diagnostics and faults first. -/
def andThen (o : Outcome) (k : GlobalState → Outcome) : Outcome :=
  let next := k o.state
  ⟨next.state, o.log ++ next.log, o.faults ++ next.faults⟩

@[simp] theorem andThen_state (o : Outcome) (k : GlobalState → Outcome) :
    (o.andThen k).state = (k o.state).state := rfl

@[simp] theorem andThen_log (o : Outcome) (k : GlobalState → Outcome) :
    (o.andThen k).log = o.log ++ (k o.state).log := rfl

@[simp] theorem andThen_faults (o : Outcome) (k : GlobalState → Outcome) :
    (o.andThen k).faults = o.faults ++ (k o.state).faults := rfl

end Outcome

/-- A handler that only sets flags: `global_data->field = true`. -/
def flagHandler (set : GlobalState → GlobalState) : HandlerFn :=
  fun _ s _ => .done (set s)

/-- A string handler: `FREE_PTR(field); field = set_value(strvec)`. -/
def setValueHandler (set : GlobalState → Option String → GlobalState) : HandlerFn :=
  fun _ s strvec => .done (set s (setValue strvec))

/--
An optional boolean token, `true` when absent; a token `check_true_false`
rejects is logged with `invalid` and the line ignored.  Shared by the
`smtp_alert*` handlers, the two `vrrp_*_advert` handlers and the
`*_rcv_bufs_force` handlers.
-/
def trueFalseHandler
    (invalid : String → String)
    (set : GlobalState → Bool → GlobalState) :
    HandlerFn :=
  fun env s strvec =>
    if 2 ≤ vectorSize strvec then
      let value := strvecSlot env strvec 1
      match env.checkTrueFalse value with
      | none => .info s .rejectLine (invalid value)
      | some res => .done (set s res)
    else
      .done (set s true)

/-- The message of the `smtp_alert*` and `*_rcv_bufs_force` handlers. -/
def invalidGlobalValue (name value : String) : String :=
  s!"Invalid value '{value}' for global {name} specified"

/-- `use_polling_handler`. -/
def usePollingHandler : HandlerFn :=
  flagHandler fun s => { s with linkbeatUsePolling := true }

/-- `routerid_handler`. -/
def routeridHandler : HandlerFn :=
  setValueHandler fun s v => { s with routerId := v }

/-- `emailfrom_handler`. -/
def emailfromHandler : HandlerFn :=
  setValueHandler fun s v => { s with emailFrom := v }

/-- `smtpto_handler`: seconds times `TIMER_HZ`, in `unsigned long` arithmetic. -/
def smtptoHandler : HandlerFn :=
  fun env s strvec =>
    .done { s with
      smtpConnectionTo :=
        toUnsigned 64 ((strtoul (strvecSlot env strvec 1)).1 * env.timerHz) }

/-- `dynamic_interfaces_handler`. -/
def dynamicInterfacesHandler : HandlerFn :=
  flagHandler fun s => { s with dynamicInterfaces := true }

/-- `no_email_faults_handler`. -/
def noEmailFaultsHandler : HandlerFn :=
  flagHandler fun s => { s with noEmailFaults := true }

/-- Whether `strpbrk` finds a `-` or a `/` in the name. -/
def hasRangeOrMask (s : String) : Bool :=
  s.any fun c => c = '-' || c = '/'

/--
`smtpserver_handler`: a numeric address first unless the name holds `-` or `/`,
then name resolution, both written straight into `smtp_server`.
-/
def smtpserverHandler : HandlerFn :=
  fun env s strvec =>
    let portStr :=
      if 3 ≤ vectorSize strvec then strvecSlot env strvec 2 else env.smtpPortStr
    let name := strvecSlot env strvec 1
    let (ok, addr) :=
      if hasRangeOrMask name then (false, s.smtpServer)
      else env.inetStosockaddr name (some portStr) s.smtpServer
    let addr := if ok then addr else env.domainStosockaddr name portStr addr
    .done { s with smtpServer := addr }

/-- `smtphelo_handler`: a copy of token 1 in a buffer of `strlen + 1` bytes. -/
def smtpheloHandler : HandlerFn :=
  fun env s strvec =>
    if vectorSize strvec < 2 then .done s
    else .done { s with smtpHeloName := some (strvecSlot env strvec 1) }

/--
Modelled from the spec: `alloc_email` (not part of this model), the
"email-list accumulator" that registers one entry at a time in input order.
-/
def allocEmail (s : GlobalState) (str : String) : GlobalState :=
  { s with email := s.email ++ [str] }

/-- `email_handler`: every entry of the block, in order. -/
def emailHandler : HandlerFn :=
  fun env s strvec =>
    match env.readValueBlock strvec with
    | none => .info s .note "Warning - empty notification_email block"
    | some emailVec => .done (emailVec.foldl allocEmail s)

/-- `smtp_alert_handler`. -/
def smtpAlertHandler : HandlerFn :=
  trueFalseHandler (invalidGlobalValue "smtp_alert") fun s res =>
    { s with smtpAlert := res.toNat }

/-- `smtp_alert_vrrp_handler`. -/
def smtpAlertVrrpHandler : HandlerFn :=
  trueFalseHandler (invalidGlobalValue "smtp_alert_vrrp") fun s res =>
    { s with smtpAlertVrrp := res.toNat }

/-- `smtp_alert_checker_handler`. -/
def smtpAlertCheckerHandler : HandlerFn :=
  trueFalseHandler (invalidGlobalValue "smtp_alert_checker") fun s res =>
    { s with smtpAlertChecker := res.toNat }

/--
`default_interface_handler`.  When the lookup fails, the warning reads
`ifp->ifname` through the NULL `ifp`: the model records that fault, and logs
the warning as glibc prints it, with the name at offset 0 of the NULL
interface printed as `(null)`.  The NULL result is stored all the same.
-/
def defaultInterfaceHandler : HandlerFn :=
  fun env s strvec =>
    if vectorSize strvec < 2 then
      .info s .rejectLine "default_interface requires interface name"
    else
      let (ifp, ifQueue) :=
        env.ifGetByIfname (strvecSlot env strvec 1) .createIfDynamic
          s.dynamicInterfaces s.ifQueue
      let next := { s with ifQueue := ifQueue, defaultIfp := ifp }
      match ifp with
      | none =>
          ⟨next, [⟨.info, .rejectLine,
            s!"WARNING - default interface {fmtStr none} doesn't exist"⟩], [.nullDeref "ifp"]⟩
      | some _ => .done next

/-- What `default_interface` leaves, whether or not the lookup found the interface. -/
theorem defaultInterfaceHandler_state (env : Env) (s : GlobalState) (strvec : Strvec) :
    (defaultInterfaceHandler env s strvec).state =
      if vectorSize strvec < 2 then s
      else
        let (ifp, ifQueue) :=
          env.ifGetByIfname (strvecSlot env strvec 1) .createIfDynamic
            s.dynamicInterfaces s.ifQueue
        { s with ifQueue := ifQueue, defaultIfp := ifp } := by
  simp only [defaultInterfaceHandler]
  split
  · rfl
  · split <;> rfl

/-- `alloc_email` on each entry appends the entries in order. -/
theorem foldl_allocEmail
    (entries : List String)
    (s : GlobalState) :
    entries.foldl allocEmail s = { s with email := s.email ++ entries } := by
  induction entries generalizing s with
  | nil =>
      simp
  | cons entry rest inductionHypothesis =>
      simp only [List.foldl_cons, inductionHypothesis, allocEmail]
      simp

/-- The email list after `alloc_email` on each entry. -/
@[simp] theorem foldl_allocEmail_email
    (entries : List String)
    (s : GlobalState) :
    (entries.foldl allocEmail s).email = s.email ++ entries := by
  induction entries generalizing s with
  | nil =>
      simp
  | cons entry rest inductionHypothesis =>
      simp only [List.foldl_cons, inductionHypothesis, allocEmail]
      simp

end Keepalived
