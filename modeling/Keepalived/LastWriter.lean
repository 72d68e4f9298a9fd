import Keepalived.KeywordTable
import Keepalived.OptionScan

namespace Keepalived

/-!
# Fields the last line decides

Most settings of `global_data` are written by one handler alone, and that
handler sets them from its own line, whatever they held before: `router_id`
copies token 1, `vrrp_garp_master_delay` stores `(unsigned)strtoul * TIMER_HZ`,
`vrrp_priority` stores what `get_priority` returns, a flag handler stores
`true`.  Some of these handlers also reject a line and leave the field as it
was: `vrrp_version` outside 2 and 3, `child_wait_time` with trailing text, a
`smtp_alert` word that is neither true nor false, a receive buffer size that
`get_netlink_rcv_bufs_size` refuses.  A handler may set several fields from
one line: `vrrp_iptables` clears both chains before it checks them,
`vrrp_ipsets` stores each set name up to the first that does not fit,
`lvs_timeouts` keeps the last valid value of each keyword.  For each such
field a whole parse pass is decided by one line, the last one whose directive
names the handler and that the handler accepts for the field; with no such
line the field keeps its start value.

`LastWriterField` packs a field with its handler and the value the handler
computes from a line (`none` when it leaves the field), together with the two
facts that make it such a field.  The step lemma `get_dispatch` reads one line
through the keyword table, and `get_parsePass` is the run result.  The
catalogue at the end lists the fields of this file that are last-writer fields;
each entry is checked against its handler.
-/

/-- Whether a line's directive is one of the handler's names. -/
def Handler.namedBy (handler : Handler) (strvec : Strvec) : Bool :=
  strvec.head?.any handler.names.contains

/-! ## One line and the fields of one handler -/

section OwnedField

variable
  {α : Type}
  {field : Field}
  {get : GlobalState → α}
  {owner : Handler}
  (owned : field.owner = some owner)
  (get_restore : ∀ fields a b, get (restore fields a b) = pick fields field (get a) (get b))

include owned get_restore

/-- A handler other than a field's owner leaves the field. -/
theorem get_of_ne_owner
    {handler : Handler}
    (other : handler ≠ owner)
    (env : Env)
    (s : GlobalState)
    (strvec : Strvec) :
    get (handler.fn env s strvec).state = get s := by
  rw [handler.footprint.frame env s strvec, get_restore]
  refine pick_of_not_mem (fun written => other ?_) _ _
  rcases Handler.owner_of_touches handler field (List.mem_append_right _ written) with
    owns | ⟨unowned, _⟩
  · exact Option.some.inj (owns.symm.trans owned)
  · exact nomatch unowned.symm.trans owned

/-- A line that does not name a field's owner leaves the field, in the table of any build. -/
theorem get_dispatch_of_not_namedBy
    {build : BuildOptions}
    {strvec : Strvec}
    (unnamed : owner.namedBy strvec = false)
    (env : Env)
    (s : GlobalState) :
    get (dispatch env (initGlobalKeywords build true) s strvec).state = get s := by
  cases strvec with
  | nil => rfl
  | cons name args =>
      cases found : lookupHandler (initGlobalKeywords build true) name with
      | none => rw [dispatch_of_lookup_none found]; rfl
      | some handler =>
          have notOwner : handler ≠ owner := fun same => Bool.false_ne_true
            (unnamed.symm.trans (List.elem_iff.mpr
              (same ▸ Handler.mem_names_of_lookup (initGlobalKeywords_named build true) found)))
          rw [dispatch_of_lookup found]
          exact get_of_ne_owner owned get_restore notOwner env s _

end OwnedField

/-- A line that names a handler the build includes runs that handler. -/
theorem dispatch_of_namedBy
    {build : BuildOptions}
    {handler : Handler}
    (included : handler.gate build = true)
    {strvec : Strvec}
    (named : handler.namedBy strvec = true)
    (env : Env)
    (s : GlobalState) :
    dispatch env (initGlobalKeywords build true) s strvec = handler.fn env s strvec := by
  cases strvec with
  | nil => exact absurd named Bool.false_ne_true
  | cons name args =>
      exact dispatch_of_lookup (lookupHandler_of_named build (List.elem_iff.mp named) included)

/--
A field of `global_data` that only `owner` writes, and that `owner` sets from
its line or, on the lines it rejects (`value` is `none`), leaves.
-/
structure LastWriterField (α : Type) where
  field : Field
  get : GlobalState → α
  owner : Handler
  value : Env → Strvec → Option α
  owned : field.owner = some owner
  get_restore : ∀ fields a b, get (restore fields a b) = pick fields field (get a) (get b)
  get_owner : ∀ env s strvec, owner.namedBy strvec = true →
    get (owner.fn env s strvec).state = (value env strvec).getD (get s)

namespace LastWriterField

variable {α : Type} (w : LastWriterField α)

/-- What a line stores in the field: the owner's value, when the line names the owner. -/
def accepted (env : Env) (strvec : Strvec) : Option α :=
  if w.owner.namedBy strvec then w.value env strvec else none

/-- The value of the last line the owner accepts, or `start` when there is none. -/
def lastValue (env : Env) (start : α) (lines : List Strvec) : α :=
  (lines.reverse.findSome? (w.accepted env)).getD start

/-- One more line in front only changes the start value. -/
theorem lastValue_cons (env : Env) (start : α) (strvec : Strvec) (rest : List Strvec) :
    w.lastValue env start (strvec :: rest) =
      w.lastValue env ((w.accepted env strvec).getD start) rest := by
  unfold lastValue
  rw [List.reverse_cons, List.findSome?_append]
  cases rest.reverse.findSome? (w.accepted env) with
  | some later => rfl
  | none =>
      simp only [Option.none_or, List.findSome?_cons, List.findSome?_nil, Option.getD_none]
      cases w.accepted env strvec <;> rfl

/-- Step lemma: a line the owner accepts sets the field to its value; any other leaves it. -/
theorem get_dispatch
    {build : BuildOptions}
    (included : w.owner.gate build = true)
    (env : Env)
    (s : GlobalState)
    (strvec : Strvec) :
    w.get (dispatch env (initGlobalKeywords build true) s strvec).state =
      (w.accepted env strvec).getD (w.get s) := by
  unfold accepted
  cases named : w.owner.namedBy strvec
  · exact get_dispatch_of_not_namedBy w.owned w.get_restore named env s
  · rw [dispatch_of_namedBy included named, w.get_owner env s strvec named]
    rfl

/--
In every build that includes its handler, a parse pass leaves a last-writer
field at the value of the last line the handler accepts, and at its start
value when there is none.
-/
theorem get_parsePass
    {build : BuildOptions}
    (included : w.owner.gate build = true)
    (env : Env) :
    ∀ (lines : List Strvec) (s : GlobalState),
      w.get (parsePass env (initGlobalKeywords build true) s lines) =
        w.lastValue env (w.get s) lines
  | [], _ => rfl
  | strvec :: rest, s => by
      rw [lastValue_cons, ← w.get_dispatch included env s strvec]
      exact get_parsePass included env rest _

end LastWriterField

/-! ## The catalogue -/

/-- `router_id`: a copy of token 1. -/
def routerIdField : LastWriterField (Option String) :=
  ⟨.routerId, GlobalState.routerId, .routeridHandler, fun _ strvec => some (setValue strvec),
    rfl, fun _ _ _ => rfl, fun _ _ _ _ => rfl⟩

/-- Two `router_id` lines: the second decides the router id. -/
theorem routerId_last_line :
    routerIdField.owner.gate fullBuild = true ∧
      routerIdField.get (parsePass referenceEnv (initGlobalKeywords fullBuild true) zeroedState
          [["router_id", "a"], ["vrrp_strict"], ["router_id", "b"]]) =
        routerIdField.lastValue referenceEnv zeroedState.routerId
          [["router_id", "a"], ["vrrp_strict"], ["router_id", "b"]] :=
  ⟨rfl, LastWriterField.get_parsePass routerIdField rfl referenceEnv _ _⟩

/-- `notification_email_from`: a copy of token 1. -/
def emailFromField : LastWriterField (Option String) :=
  ⟨.emailFrom, GlobalState.emailFrom, .emailfromHandler, fun _ strvec => some (setValue strvec),
    rfl, fun _ _ _ => rfl, fun _ _ _ _ => rfl⟩

/-- `dbus_service_name`: a copy of token 1. -/
def dbusServiceNameField : LastWriterField (Option String) :=
  ⟨.dbusServiceName, GlobalState.dbusServiceName, .dbusServiceNameHandler,
    fun _ strvec => some (setValue strvec), rfl, fun _ _ _ => rfl, fun _ _ _ _ => rfl⟩

/-- `smtp_connect_timeout`: seconds times `TIMER_HZ` as an `unsigned long`. -/
def smtpConnectionToField : LastWriterField Nat :=
  ⟨.smtpConnectionTo, GlobalState.smtpConnectionTo, .smtptoHandler,
    fun env strvec => some (toUnsigned 64 ((strtoul (strvecSlot env strvec 1)).1 * env.timerHz)),
    rfl, fun _ _ _ => rfl, fun _ _ _ _ => rfl⟩

/-- `vrrp_garp_master_delay`: seconds times `TIMER_HZ` as an `unsigned`. -/
def vrrpGarpDelayField : LastWriterField Nat :=
  ⟨.vrrpGarpDelay, GlobalState.vrrpGarpDelay, .vrrpGarpDelayHandler,
    fun env strvec => some (toUnsigned 32 (unsignedArg env strvec * env.timerHz)), rfl,
    fun _ _ _ => rfl, fun _ _ _ _ => rfl⟩

/-- `vrrp_garp_master_repeat`: the count, raised to one. -/
def vrrpGarpRepField : LastWriterField Nat :=
  ⟨.vrrpGarpRep, GlobalState.vrrpGarpRep, .vrrpGarpRepHandler,
    fun env strvec => some (if unsignedArg env strvec < 1 then 1 else unsignedArg env strvec), rfl,
    fun _ _ _ => rfl, fun _ _ _ _ => rfl⟩

/-- `vrrp_garp_master_refresh`: the seconds as an `unsigned`. -/
def vrrpGarpRefreshField : LastWriterField Nat :=
  ⟨.vrrpGarpRefresh, GlobalState.vrrpGarpRefresh, .vrrpGarpRefreshHandler,
    fun env strvec => some (unsignedArg env strvec), rfl,
    fun _ _ _ => rfl, fun _ _ _ _ => rfl⟩

/-- `vrrp_garp_master_refresh_repeat`: the count, raised to one. -/
def vrrpGarpRefreshRepField : LastWriterField Nat :=
  ⟨.vrrpGarpRefreshRep, GlobalState.vrrpGarpRefreshRep, .vrrpGarpRefreshRepHandler,
    fun env strvec => some (if unsignedArg env strvec < 1 then 1 else unsignedArg env strvec), rfl,
    fun _ _ _ => rfl, fun _ _ _ _ => rfl⟩

/-- `vrrp_garp_lower_prio_delay`: seconds times `TIMER_HZ` as an `unsigned`. -/
def vrrpGarpLowerPrioDelayField : LastWriterField Nat :=
  ⟨.vrrpGarpLowerPrioDelay, GlobalState.vrrpGarpLowerPrioDelay, .vrrpGarpLowerPrioDelayHandler,
    fun env strvec => some (toUnsigned 32 (unsignedArg env strvec * env.timerHz)), rfl,
    fun _ _ _ => rfl, fun _ _ _ _ => rfl⟩

/-- `vrrp_garp_lower_prio_repeat`: the count as an `unsigned`. -/
def vrrpGarpLowerPrioRepField : LastWriterField Nat :=
  ⟨.vrrpGarpLowerPrioRep, GlobalState.vrrpGarpLowerPrioRep, .vrrpGarpLowerPrioRepHandler,
    fun env strvec => some (unsignedArg env strvec), rfl, fun _ _ _ => rfl, fun _ _ _ _ => rfl⟩

/-- `vrrp_garp_interval`: the seconds scaled by `TIMER_HZ` in floating point. -/
def vrrpGarpIntervalField : LastWriterField Nat :=
  ⟨.vrrpGarpInterval, GlobalState.vrrpGarpInterval, .vrrpGarpIntervalHandler,
    fun env strvec => some (env.atofTimesHz (strvecSlot env strvec 1)), rfl, fun _ _ _ => rfl,
    fun _ _ _ _ => rfl⟩

/-- `vrrp_gna_interval`: the seconds scaled by `TIMER_HZ` in floating point. -/
def vrrpGnaIntervalField : LastWriterField Nat :=
  ⟨.vrrpGnaInterval, GlobalState.vrrpGnaInterval, .vrrpGnaIntervalHandler,
    fun env strvec => some (env.atofTimesHz (strvecSlot env strvec 1)), rfl, fun _ _ _ => rfl,
    fun _ _ _ _ => rfl⟩

/-- `vrrp_priority`: what `get_priority` returns. -/
def vrrpProcessPriorityField : LastWriterField Int :=
  ⟨.vrrpProcessPriority, GlobalState.vrrpProcessPriority, .vrrpPrioHandler,
    fun env strvec => some ((getPriority env strvec "vrrp").1), rfl, fun _ _ _ => rfl,
    fun _ _ _ _ => rfl⟩

/-- `checker_priority`: what `get_priority` returns. -/
def checkerProcessPriorityField : LastWriterField Int :=
  ⟨.checkerProcessPriority, GlobalState.checkerProcessPriority, .checkerPrioHandler,
    fun env strvec => some ((getPriority env strvec "checker").1), rfl, fun _ _ _ => rfl,
    fun _ _ _ _ => rfl⟩

/-- `bfd_priority`: what `get_priority` returns. -/
def bfdProcessPriorityField : LastWriterField Int :=
  ⟨.bfdProcessPriority, GlobalState.bfdProcessPriority, .bfdPrioHandler,
    fun env strvec => some ((getPriority env strvec "bfd").1), rfl, fun _ _ _ => rfl,
    fun _ _ _ _ => rfl⟩

/-- `vrrp_rlimit_rtime`: what `get_rt_rlimit` returns. -/
def vrrpRlimitRtField : LastWriterField Nat :=
  ⟨.vrrpRlimitRt, GlobalState.vrrpRlimitRt, .vrrpRtRlimitHandler,
    fun env strvec => some ((getRtRlimit env strvec "vrrp").1), rfl, fun _ _ _ => rfl,
    fun _ _ _ _ => rfl⟩

/-- `checker_rlimit_rtime`: what `get_rt_rlimit` returns. -/
def checkerRlimitRtField : LastWriterField Nat :=
  ⟨.checkerRlimitRt, GlobalState.checkerRlimitRt, .checkerRtRlimitHandler,
    fun env strvec => some ((getRtRlimit env strvec "checker").1), rfl, fun _ _ _ => rfl,
    fun _ _ _ _ => rfl⟩

/-- `bfd_rlimit_rtime`: what `get_rt_rlimit` returns. -/
def bfdRlimitRtField : LastWriterField Nat :=
  ⟨.bfdRlimitRt, GlobalState.bfdRlimitRt, .bfdRtRlimitHandler,
    fun env strvec => some ((getRtRlimit env strvec "bfd").1), rfl, fun _ _ _ => rfl,
    fun _ _ _ _ => rfl⟩

/-- A flag its own handler sets to `true`, whatever the line. -/
def LastWriterField.flag
    (field : Field)
    (get : GlobalState → Bool)
    (owner : Handler)
    (owned : field.owner = some owner)
    (get_restore : ∀ fields a b, get (restore fields a b) = pick fields field (get a) (get b))
    (get_owner : ∀ env s strvec, get (owner.fn env s strvec).state = true) :
    LastWriterField Bool :=
  ⟨field, get, owner, fun _ _ => some true, owned, get_restore, fun env s strvec _ =>
    get_owner env s strvec⟩

/-- The flags whose only writer is their own flag handler. -/
def flagFields : List (LastWriterField Bool) :=
  [.flag .linkbeatUsePolling GlobalState.linkbeatUsePolling .usePollingHandler rfl
      (fun _ _ _ => rfl) (fun _ _ _ => rfl),
    .flag .noEmailFaults GlobalState.noEmailFaults .noEmailFaultsHandler rfl
      (fun _ _ _ => rfl) (fun _ _ _ => rfl),
    .flag .lvsFlush GlobalState.lvsFlush .lvsFlushHandler rfl
      (fun _ _ _ => rfl) (fun _ _ _ => rfl),
    .flag .vrrpCheckUnicastSrc GlobalState.vrrpCheckUnicastSrc .vrrpCheckUnicastSrcHandler rfl
      (fun _ _ _ => rfl) (fun _ _ _ => rfl),
    .flag .vrrpSkipCheckAdvAddr GlobalState.vrrpSkipCheckAdvAddr .vrrpCheckAdvAddrHandler rfl
      (fun _ _ _ => rfl) (fun _ _ _ => rfl),
    .flag .vrrpStrict GlobalState.vrrpStrict .vrrpStrictHandler rfl
      (fun _ _ _ => rfl) (fun _ _ _ => rfl),
    .flag .vrrpNoSwap GlobalState.vrrpNoSwap .vrrpNoSwapHandler rfl
      (fun _ _ _ => rfl) (fun _ _ _ => rfl),
    .flag .checkerNoSwap GlobalState.checkerNoSwap .checkerNoSwapHandler rfl
      (fun _ _ _ => rfl) (fun _ _ _ => rfl),
    .flag .bfdNoSwap GlobalState.bfdNoSwap .bfdNoSwapHandler rfl
      (fun _ _ _ => rfl) (fun _ _ _ => rfl),
    .flag .enableTraps GlobalState.enableTraps .trapHandler rfl
      (fun _ _ _ => rfl) (fun _ _ _ => rfl),
    .flag .enableSnmpVrrp GlobalState.enableSnmpVrrp .snmpVrrpHandler rfl
      (fun _ _ _ => rfl) (fun _ _ _ => rfl),
    .flag .enableSnmpChecker GlobalState.enableSnmpChecker .snmpCheckerHandler rfl
      (fun _ _ _ => rfl) (fun _ _ _ => rfl),
    .flag .namespaceWithIpsets GlobalState.namespaceWithIpsets .namespaceIpsetsHandler rfl
      (fun _ _ _ => rfl) (fun _ _ _ => rfl),
    .flag .enableDbus GlobalState.enableDbus .enableDbusHandler rfl
      (fun _ _ _ => rfl) (fun _ _ _ => rfl),
    .flag .scriptSecurity GlobalState.scriptSecurity .scriptSecurityHandler rfl
      (fun _ _ _ => rfl) (fun _ _ _ => rfl)]

/-! ## Fields whose handler may reject the line -/

/-- `smtp_helo_name`: a copy of token 1; a bare directive leaves the name. -/
def smtpHeloNameField : LastWriterField (Option String) :=
  ⟨.smtpHeloName, GlobalState.smtpHeloName, .smtpheloHandler,
    fun env strvec =>
      if vectorSize strvec < 2 then none else some (some (strvecSlot env strvec 1)),
    rfl, fun _ _ _ => rfl, fun env s strvec _ => by
      show GlobalState.smtpHeloName (smtpheloHandler env s strvec).state = _
      dsimp only [smtpheloHandler]
      split_ifs <;> rfl⟩

/-- `vrrp_version`: token 1 cast to `uint8_t`, rejected outside 2 and 3. -/
def vrrpVersionField : LastWriterField Nat :=
  ⟨.vrrpVersion, GlobalState.vrrpVersion, .vrrpVersionHandler,
    fun env strvec =>
      let version := toUnsigned 8 (strtoul (strvecSlot env strvec 1)).1
      if vrrpIsBadVersion version then none else some version,
    rfl, fun _ _ _ => rfl, fun env s strvec _ => by
      show GlobalState.vrrpVersion (vrrpVersionHandler env s strvec).state = _
      dsimp only [vrrpVersionHandler]
      split_ifs <;> rfl⟩

/-- A `vrrp_version 7` after a `vrrp_version 2` is rejected, so version 2 stands. -/
example :
    vrrpVersionField.lastValue referenceEnv 0
      [["vrrp_version", "2"], ["vrrp_version", "7"]] = 2 := by
  decide

/-- `child_wait_time`: the seconds in `child_wait_time`'s width, rejected with trailing text. -/
def childWaitTimeField : LastWriterField Nat :=
  ⟨.childWaitTime, GlobalState.childWaitTime, .childWaitHandler,
    fun env strvec =>
      let (secs, endptr) := strtoul (strvecSlot env strvec 1)
      if endptr ≠ [] then none else some (toUnsigned env.childWaitTimeBits secs),
    rfl, fun _ _ _ => rfl, fun env s strvec _ => by
      show GlobalState.childWaitTime (childWaitHandler env s strvec).state = _
      dsimp only [childWaitHandler]
      cases strtoul (strvecSlot env strvec 1)
      dsimp only
      split_ifs <;> rfl⟩

/--
What a `true`/`false` handler stores: `true` for a bare directive, else the
word `check_true_false` reads, and nothing for a word it does not know.
-/
def trueFalseValue (env : Env) (strvec : Strvec) : Option Bool :=
  if 2 ≤ vectorSize strvec then env.checkTrueFalse (strvecSlot env strvec 1) else some true

theorem trueFalseHandler_state
    (invalid : String → String)
    (set : GlobalState → Bool → GlobalState)
    (env : Env)
    (s : GlobalState)
    (strvec : Strvec) :
    (trueFalseHandler invalid set env s strvec).state =
      ((trueFalseValue env strvec).map (set s)).getD s := by
  unfold trueFalseHandler trueFalseValue
  split_ifs
  · dsimp only
    cases env.checkTrueFalse (strvecSlot env strvec 1) <;> rfl
  · rfl

/-- A field a `true`/`false` handler sets from the word it reads, through `convert`. -/
def LastWriterField.trueFalse
    {α : Type}
    (field : Field)
    (get : GlobalState → α)
    (owner : Handler)
    (convert : Bool → α)
    {invalid : String → String}
    {set : GlobalState → Bool → GlobalState}
    (handles : owner.fn = trueFalseHandler invalid set)
    (get_set : ∀ s res, get (set s res) = convert res)
    (owned : field.owner = some owner)
    (get_restore : ∀ fields a b, get (restore fields a b) = pick fields field (get a) (get b)) :
    LastWriterField α :=
  ⟨field, get, owner, fun env strvec => (trueFalseValue env strvec).map convert, owned,
    get_restore, fun env s strvec _ => by
      rw [handles, trueFalseHandler_state]
      dsimp only
      cases trueFalseValue env strvec with
      | none => rfl
      | some res => exact get_set s res⟩

/-- `smtp_alert`, `smtp_alert_vrrp`, `smtp_alert_checker`: the word read, as `0` or `1`. -/
def smtpAlertFields : List (LastWriterField Int) :=
  [.trueFalse .smtpAlert GlobalState.smtpAlert .smtpAlertHandler (fun res => res.toNat)
      (show smtpAlertHandler = _ from rfl) (fun _ _ => rfl) rfl (fun _ _ _ => rfl),
    .trueFalse .smtpAlertVrrp GlobalState.smtpAlertVrrp .smtpAlertVrrpHandler (fun res => res.toNat)
      (show smtpAlertVrrpHandler = _ from rfl) (fun _ _ => rfl) rfl (fun _ _ _ => rfl),
    .trueFalse .smtpAlertChecker GlobalState.smtpAlertChecker .smtpAlertCheckerHandler
      (fun res => res.toNat) (show smtpAlertCheckerHandler = _ from rfl) (fun _ _ => rfl) rfl
      (fun _ _ _ => rfl)]

/-- The booleans a `true`/`false` handler sets to the word it reads. -/
def trueFalseFields : List (LastWriterField Bool) :=
  [.trueFalse .vrrpLowerPrioNoAdvert GlobalState.vrrpLowerPrioNoAdvert
      .vrrpLowerPrioNoAdvertHandler id (show vrrpLowerPrioNoAdvertHandler = _ from rfl)
      (fun _ _ => rfl) rfl (fun _ _ _ => rfl),
    .trueFalse .vrrpHigherPrioSendAdvert GlobalState.vrrpHigherPrioSendAdvert
      .vrrpHigherPrioSendAdvertHandler id (show vrrpHigherPrioSendAdvertHandler = _ from rfl)
      (fun _ _ => rfl) rfl (fun _ _ _ => rfl),
    .trueFalse .vrrpNetlinkMonitorRcvBufsForce GlobalState.vrrpNetlinkMonitorRcvBufsForce
      .vrrpNetlinkMonitorRcvBufsForceHandler id
      (show vrrpNetlinkMonitorRcvBufsForceHandler = _ from rfl) (fun _ _ => rfl) rfl
      (fun _ _ _ => rfl),
    .trueFalse .vrrpNetlinkCmdRcvBufsForce GlobalState.vrrpNetlinkCmdRcvBufsForce
      .vrrpNetlinkCmdRcvBufsForceHandler id (show vrrpNetlinkCmdRcvBufsForceHandler = _ from rfl)
      (fun _ _ => rfl) rfl (fun _ _ _ => rfl),
    .trueFalse .lvsNetlinkMonitorRcvBufsForce GlobalState.lvsNetlinkMonitorRcvBufsForce
      .lvsNetlinkMonitorRcvBufsForceHandler id
      (show lvsNetlinkMonitorRcvBufsForceHandler = _ from rfl) (fun _ _ => rfl) rfl
      (fun _ _ _ => rfl),
    .trueFalse .lvsNetlinkCmdRcvBufsForce GlobalState.lvsNetlinkCmdRcvBufsForce
      .lvsNetlinkCmdRcvBufsForceHandler id (show lvsNetlinkCmdRcvBufsForceHandler = _ from rfl)
      (fun _ _ => rfl) rfl (fun _ _ _ => rfl)]

/-- What a real-time priority handler stores: what `get_realtime_priority` returns, if not
negative. -/
def realtimePriorityValue (env : Env) (strvec : Strvec) (process : String) : Option Int :=
  let priority := (getRealtimePriority env strvec process).1
  if 0 ≤ priority then some priority else none

/-- A field a `*_rt_priority_handler` sets. -/
def LastWriterField.realtimePriority
    (field : Field)
    (get : GlobalState → Int)
    (owner : Handler)
    (process : String)
    {set : GlobalState → Int → GlobalState}
    (handles : owner.fn = rtPriorityHandler process set)
    (get_set : ∀ s priority, get (set s priority) = priority)
    (owned : field.owner = some owner)
    (get_restore : ∀ fields a b, get (restore fields a b) = pick fields field (get a) (get b)) :
    LastWriterField Int :=
  ⟨field, get, owner, fun env strvec => realtimePriorityValue env strvec process, owned,
    get_restore, fun env s strvec _ => by
      rw [handles]
      dsimp only [rtPriorityHandler, realtimePriorityValue]
      cases getRealtimePriority env strvec process
      dsimp only
      split_ifs
      · exact get_set s _
      · rfl⟩

/-- The three real-time priorities. -/
def realtimePriorityFields : List (LastWriterField Int) :=
  [.realtimePriority .vrrpRealtimePriority GlobalState.vrrpRealtimePriority
      .vrrpRtPriorityHandler "vrrp" (show vrrpRtPriorityHandler = _ from rfl) (fun _ _ => rfl) rfl
      (fun _ _ _ => rfl),
    .realtimePriority .checkerRealtimePriority GlobalState.checkerRealtimePriority
      .checkerRtPriorityHandler "checker" (show checkerRtPriorityHandler = _ from rfl)
      (fun _ _ => rfl) rfl (fun _ _ _ => rfl),
    .realtimePriority .bfdRealtimePriority GlobalState.bfdRealtimePriority
      .bfdRtPriorityHandler "BFD" (show bfdRtPriorityHandler = _ from rfl) (fun _ _ => rfl) rfl
      (fun _ _ _ => rfl)]

/-- What a receive buffer handler stores: what `get_netlink_rcv_bufs_size` returns, unless `0`. -/
def rcvBufsValue (env : Env) (strvec : Strvec) (type : String) : Option Nat :=
  let val := (getNetlinkRcvBufsSize env strvec type).1
  if val ≠ 0 then some val else none

/-- A field a `*_rcv_bufs_handler` sets. -/
def LastWriterField.rcvBufs
    (field : Field)
    (get : GlobalState → Nat)
    (owner : Handler)
    (type : String)
    {set : GlobalState → Nat → GlobalState}
    (handles : owner.fn = rcvBufsHandler type set)
    (get_set : ∀ s val, get (set s val) = val)
    (owned : field.owner = some owner)
    (get_restore : ∀ fields a b, get (restore fields a b) = pick fields field (get a) (get b)) :
    LastWriterField Nat :=
  ⟨field, get, owner, fun env strvec => rcvBufsValue env strvec type, owned,
    get_restore, fun env s strvec _ => by
      rw [handles]
      dsimp only [rcvBufsHandler, rcvBufsValue]
      cases getNetlinkRcvBufsSize env strvec type
      dsimp only
      split_ifs
      · exact get_set s _
      · rfl⟩

/-- The four netlink receive buffer sizes. -/
def rcvBufsFields : List (LastWriterField Nat) :=
  [.rcvBufs .vrrpNetlinkMonitorRcvBufs GlobalState.vrrpNetlinkMonitorRcvBufs
      .vrrpNetlinkMonitorRcvBufsHandler "vrrp_netlink_monitor"
      (show vrrpNetlinkMonitorRcvBufsHandler = _ from rfl) (fun _ _ => rfl) rfl
      (fun _ _ _ => rfl),
    .rcvBufs .vrrpNetlinkCmdRcvBufs GlobalState.vrrpNetlinkCmdRcvBufs
      .vrrpNetlinkCmdRcvBufsHandler "vrrp_netlink_cmd"
      (show vrrpNetlinkCmdRcvBufsHandler = _ from rfl) (fun _ _ => rfl) rfl (fun _ _ _ => rfl),
    .rcvBufs .lvsNetlinkMonitorRcvBufs GlobalState.lvsNetlinkMonitorRcvBufs
      .lvsNetlinkMonitorRcvBufsHandler "lvs_netlink_monitor"
      (show lvsNetlinkMonitorRcvBufsHandler = _ from rfl) (fun _ _ => rfl) rfl
      (fun _ _ _ => rfl),
    .rcvBufs .lvsNetlinkCmdRcvBufs GlobalState.lvsNetlinkCmdRcvBufs
      .lvsNetlinkCmdRcvBufsHandler "lvs_netlink_cmd"
      (show lvsNetlinkCmdRcvBufsHandler = _ from rfl) (fun _ _ => rfl) rfl (fun _ _ _ => rfl)]


/-! ## Fields a line sets together with others -/

/-- The in chain `vrrp_iptables` stores: token 1 if it fits, else empty. -/
def vrrpIptablesInchainValue (env : Env) (strvec : Strvec) : String :=
  if 2 ≤ vectorSize strvec then
    if env.iptablesChainSize - 1 ≤ strlen (strvecSlot env strvec 1) then ""
    else strvecSlot env strvec 1
  else ""

/-- The out chain `vrrp_iptables` stores: token 2 if both chains fit, else empty. -/
def vrrpIptablesOutchainValue (env : Env) (strvec : Strvec) : String :=
  if 2 ≤ vectorSize strvec then
    if env.iptablesChainSize - 1 ≤ strlen (strvecSlot env strvec 1) then ""
    else if 3 ≤ vectorSize strvec then
      if env.iptablesChainSize - 1 ≤ strlen (strvecSlot env strvec 2) then ""
      else strvecSlot env strvec 2
    else ""
  else ""

/-- `vrrp_iptables` clears both chains first, so every line sets both, a rejected one to empty. -/
theorem vrrpIptablesHandler_state (env : Env) (s : GlobalState) (strvec : Strvec) :
    (vrrpIptablesHandler env s strvec).state =
      { s with
        vrrpIptablesInchain := vrrpIptablesInchainValue env strvec
        vrrpIptablesOutchain := vrrpIptablesOutchainValue env strvec } := by
  unfold vrrpIptablesHandler vrrpIptablesInchainValue vrrpIptablesOutchainValue
  dsimp only
  by_cases two : 2 ≤ vectorSize strvec
  · by_cases long : env.iptablesChainSize - 1 ≤ strlen (strvecSlot env strvec 1)
    · simp only [two, long, ↓reduceIte]
      rfl
    · by_cases three : 3 ≤ vectorSize strvec
      · by_cases long2 : env.iptablesChainSize - 1 ≤ strlen (strvecSlot env strvec 2) <;>
          simp only [two, long, three, long2, ↓reduceIte] <;> rfl
      · simp only [two, long, three, ↓reduceIte]
        rfl
  · simp only [two, ↓reduceIte]
    rfl

/-- `vrrp_iptables`: the in chain. -/
def vrrpIptablesInchainField : LastWriterField String :=
  ⟨.vrrpIptablesInchain, GlobalState.vrrpIptablesInchain, .vrrpIptablesHandler,
    fun env strvec => some (vrrpIptablesInchainValue env strvec), rfl, fun _ _ _ => rfl,
    fun env s strvec _ =>
      congrArg GlobalState.vrrpIptablesInchain (vrrpIptablesHandler_state env s strvec)⟩

/-- `vrrp_iptables`: the out chain. -/
def vrrpIptablesOutchainField : LastWriterField String :=
  ⟨.vrrpIptablesOutchain, GlobalState.vrrpIptablesOutchain, .vrrpIptablesHandler,
    fun env strvec => some (vrrpIptablesOutchainValue env strvec), rfl, fun _ _ _ => rfl,
    fun env s strvec _ =>
      congrArg GlobalState.vrrpIptablesOutchain (vrrpIptablesHandler_state env s strvec)⟩

/-- What `vrrp_ipsets` stores in `using_ipsets`: `false` for a bare directive. -/
def usingIpsetsValue (strvec : Strvec) : Option Bool :=
  if 2 ≤ vectorSize strvec then none else some false

/-- What `vrrp_ipsets` stores as the first set name: token 1, if it fits. -/
def ipsetAddressValue (env : Env) (strvec : Strvec) : Option String :=
  if 2 ≤ vectorSize strvec then
    if env.ipsetNameSize - 1 ≤ strlen (strvecSlot env strvec 1) then none
    else some (strvecSlot env strvec 1)
  else none

/-- What `vrrp_ipsets` stores as the second set name: token 2 if it fits, else derived. -/
def ipsetAddress6Value (env : Env) (strvec : Strvec) : Option String :=
  if 2 ≤ vectorSize strvec then
    if env.ipsetNameSize - 1 ≤ strlen (strvecSlot env strvec 1) then none
    else if 3 ≤ vectorSize strvec then
      if env.ipsetNameSize - 1 ≤ strlen (strvecSlot env strvec 2) then none
      else some (strvecSlot env strvec 2)
    else some (ipsetAddress6Of env.ipsetNameSize (strvecSlot env strvec 1))
  else none

/-- The third set name of a line: token 3 if it fits, else derived from `address6`. -/
def ipsetIface6Value (env : Env) (strvec : Strvec) (address6 : String) : Option String :=
  if 4 ≤ vectorSize strvec then
    if env.ipsetNameSize - 1 ≤ strlen (strvecSlot env strvec 3) then none
    else some (strvecSlot env strvec 3)
  else some (ipsetAddressIface6Of env.ipsetNameSize address6).1

/-- What `vrrp_ipsets` stores as the third set name, once the first two are stored. -/
def ipsetAddressIface6Value (env : Env) (strvec : Strvec) : Option String :=
  if 2 ≤ vectorSize strvec then
    if env.ipsetNameSize - 1 ≤ strlen (strvecSlot env strvec 1) then none
    else if 3 ≤ vectorSize strvec then
      if env.ipsetNameSize - 1 ≤ strlen (strvecSlot env strvec 2) then none
      else ipsetIface6Value env strvec (strvecSlot env strvec 2)
    else
      ipsetIface6Value env strvec (ipsetAddress6Of env.ipsetNameSize (strvecSlot env strvec 1))
  else none

/-- `vrrp_ipsets` stores each name that passes its check and stops at the first that fails. -/
theorem vrrpIpsetsHandler_state (env : Env) (s : GlobalState) (strvec : Strvec) :
    (vrrpIpsetsHandler env s strvec).state =
      { s with
        usingIpsets := (usingIpsetsValue strvec).getD s.usingIpsets
        vrrpIpsetAddress := (ipsetAddressValue env strvec).getD s.vrrpIpsetAddress
        vrrpIpsetAddress6 := (ipsetAddress6Value env strvec).getD s.vrrpIpsetAddress6
        vrrpIpsetAddressIface6 :=
          (ipsetAddressIface6Value env strvec).getD s.vrrpIpsetAddressIface6 } := by
  unfold vrrpIpsetsHandler usingIpsetsValue ipsetAddressValue ipsetAddress6Value
    ipsetAddressIface6Value ipsetIface6Value
  dsimp only
  by_cases two : 2 ≤ vectorSize strvec
  · by_cases long : env.ipsetNameSize - 1 ≤ strlen (strvecSlot env strvec 1)
    · simp only [two, long, ↓reduceIte]
      rfl
    · by_cases three : 3 ≤ vectorSize strvec
      · by_cases long6 : env.ipsetNameSize - 1 ≤ strlen (strvecSlot env strvec 2)
        · simp only [two, long, three, long6, ↓reduceIte]
          rfl
        · simp only [two, long, three, long6, ↓reduceIte, ipsetIface6Step_state]
          split_ifs <;> rfl
      · simp only [two, long, three, ↓reduceIte, ipsetIface6Step_state]
        split_ifs <;> rfl
  · simp only [two, ↓reduceIte]
    rfl

/-- `vrrp_ipsets`: `using_ipsets`. -/
def usingIpsetsField : LastWriterField Bool :=
  ⟨.usingIpsets, GlobalState.usingIpsets, .vrrpIpsetsHandler, fun _ => usingIpsetsValue, rfl,
    fun _ _ _ => rfl, fun env s strvec _ =>
      congrArg GlobalState.usingIpsets (vrrpIpsetsHandler_state env s strvec)⟩

/-- `vrrp_ipsets`: the first set name. -/
def vrrpIpsetAddressField : LastWriterField String :=
  ⟨.vrrpIpsetAddress, GlobalState.vrrpIpsetAddress, .vrrpIpsetsHandler, ipsetAddressValue, rfl,
    fun _ _ _ => rfl, fun env s strvec _ =>
      congrArg GlobalState.vrrpIpsetAddress (vrrpIpsetsHandler_state env s strvec)⟩

/-- `vrrp_ipsets`: the second set name. -/
def vrrpIpsetAddress6Field : LastWriterField String :=
  ⟨.vrrpIpsetAddress6, GlobalState.vrrpIpsetAddress6, .vrrpIpsetsHandler, ipsetAddress6Value,
    rfl, fun _ _ _ => rfl, fun env s strvec _ =>
      congrArg GlobalState.vrrpIpsetAddress6 (vrrpIpsetsHandler_state env s strvec)⟩

/-- `vrrp_ipsets`: the third set name. -/
def vrrpIpsetAddressIface6Field : LastWriterField String :=
  ⟨.vrrpIpsetAddressIface6, GlobalState.vrrpIpsetAddressIface6, .vrrpIpsetsHandler,
    ipsetAddressIface6Value, rfl, fun _ _ _ => rfl, fun env s strvec _ =>
      congrArg GlobalState.vrrpIpsetAddressIface6 (vrrpIpsetsHandler_state env s strvec)⟩

/-- An `lvs_timeouts` field: the last value of its keyword on the line that passes its check. -/
def LastWriterField.lvsTimeout
    (field : Field)
    (get : GlobalState → Int)
    (keyword : String)
    (lo : Int)
    (effect : ∀ opt ∈ lvsTimeoutOptions, ∀ s value, get (opt.apply s value).state =
      if opt.keyword = keyword then (lvsTimeoutValue lo value).getD (get s) else get s)
    (owned : field.owner = some .lvsTimeouts)
    (get_restore : ∀ fields a b, get (restore fields a b) = pick fields field (get a) (get b)) :
    LastWriterField Int :=
  ⟨field, get, .lvsTimeouts,
    fun _ strvec => lastAccepted (lvsTimeoutValue lo)
      (valuesFor keyword (optionPairs timeoutKeywords.contains strvec.tail)),
    owned, get_restore, fun env s strvec named => by
      cases strvec with
      | nil => exact absurd named Bool.false_ne_true
      | cons name tokens =>
          obtain rfl : name = "lvs_timeouts" := List.mem_singleton.mp (List.elem_iff.mp named)
          exact lvsTimeouts_field get effect env s tokens⟩

/-- The three `lvs_timeouts` fields. -/
def lvsTimeoutFields : List (LastWriterField Int) :=
  [.lvsTimeout .lvsTcpTimeout GlobalState.lvsTcpTimeout "tcp" 0
      (fun opt member s value => (lvsTimeoutOptions_effect opt member s value).1) rfl
      (fun _ _ _ => rfl),
    .lvsTimeout .lvsTcpfinTimeout GlobalState.lvsTcpfinTimeout "tcpfin" 1
      (fun opt member s value => (lvsTimeoutOptions_effect opt member s value).2.1) rfl
      (fun _ _ _ => rfl),
    .lvsTimeout .lvsUdpTimeout GlobalState.lvsUdpTimeout "udp" 1
      (fun opt member s value => (lvsTimeoutOptions_effect opt member s value).2.2) rfl
      (fun _ _ _ => rfl)]

end Keepalived
