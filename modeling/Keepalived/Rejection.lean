import Keepalived.SyncDaemon

namespace Keepalived

/-!
# What a rejected line leaves behind

A handler rejects its line when it logs a diagnostic of kind `rejectLine`.
Most handlers then return before they write: the state is as it was.  Some
write first or store a fallback: the `*_priority` and `*_rlimit_rtime`
handlers store the `0` their helper returns on error, `vrrp_iptables` clears
both chains before it checks them, and `vrrp_mcast_group4`,
`vrrp_mcast_group6` and `script_user` keep what their collaborator left in the
field, `vrrp_mcast_group4` with what an IPv6 address spilled into
`vrrp_mcast_group6`.  `vrrp_ipsets` stores each name as soon as it passes its
check, so a rejected name leaves the names before it, and `default_interface`
stores the NULL of a failed lookup after its warning.
`Handler.afterRejection` states the result for every handler, and
`rejected_line_state` proves it.  A rejected option of `lvs_timeouts` or
`lvs_sync_daemon` leaves the state as it was before that option, but for
`group`, which keeps the parsed address or resets it to `AF_UNSPEC`.
-/

/-- Whether a log holds a whole-line rejection. -/
def rejectsLog (log : List Diagnostic) : Bool :=
  log.any fun d => d.report == .rejectLine

@[simp] theorem rejectsLog_nil : rejectsLog [] = false := rfl

@[simp] theorem rejectsLog_cons (d : Diagnostic) (log : List Diagnostic) :
    rejectsLog (d :: log) = (d.report == .rejectLine || rejectsLog log) := rfl

@[simp] theorem rejectsLog_append (first second : List Diagnostic) :
    rejectsLog (first ++ second) = (rejectsLog first || rejectsLog second) := by
  simp [rejectsLog, List.any_append]

/-- A call that rejected its whole line. -/
def Outcome.rejectsLine (o : Outcome) : Bool :=
  rejectsLog o.log

/-- On a line it rejects, `handler` ends in the state `after` gives. -/
def RejectionLeaves (handler : HandlerFn) (after : Env → GlobalState → Strvec → GlobalState) :
    Prop :=
  ∀ env s strvec, (handler env s strvec).rejectsLine = true →
    (handler env s strvec).state = after env s strvec

/-- A handler that never rejects a line satisfies every such law. -/
theorem RejectionLeaves.of_never
    {handler : HandlerFn}
    {after : Env → GlobalState → Strvec → GlobalState}
    (never : ∀ env s strvec, (handler env s strvec).rejectsLine = false) :
    RejectionLeaves handler after :=
  fun env s strvec rejected => absurd rejected (by rw [never]; decide)

/-- `get_realtime_priority` rejects only a missing value, for which it returns `-1`. -/
theorem getRealtimePriority_of_rejects
    {env : Env}
    {strvec : Strvec}
    {process : String}
    (rejected : rejectsLog (getRealtimePriority env strvec process).2 = true) :
    (getRealtimePriority env strvec process).1 = -1 := by
  unfold getRealtimePriority at rejected ⊢
  split
  · rfl
  · next present =>
      simp only [present, ↓reduceIte] at rejected
      split_ifs at rejected <;> simp at rejected

/-- `get_priority` logs nothing, or returns `0`. -/
theorem getPriority_quiet_or_zero (env : Env) (strvec : Strvec) (process : String) :
    (getPriority env strvec process).2 = [] ∨ (getPriority env strvec process).1 = 0 := by
  unfold getPriority
  by_cases missing : vectorSize strvec < 2
  · simp [missing]
  · by_cases outOfRange :
        atoi (strvecSlot env strvec 1) < -20 ∨ 19 < atoi (strvecSlot env strvec 1)
    · simp [missing, outOfRange]
    · simp [missing, outOfRange]

/-- `get_rt_rlimit` logs nothing, or returns `0`. -/
theorem getRtRlimit_quiet_or_zero (env : Env) (strvec : Strvec) (process : String) :
    (getRtRlimit env strvec process).2 = [] ∨ (getRtRlimit env strvec process).1 = 0 := by
  unfold getRtRlimit
  by_cases invalid : (strtoul (strvecSlot env strvec 1)).2 ≠ [] ∨
      toUnsigned 64 (strtoul (strvecSlot env strvec 1)).1 ≠ (strtoul (strvecSlot env strvec 1)).1
  · simp only [invalid, ↓reduceIte, or_true]
  · simp only [invalid, ↓reduceIte, true_or]

/-- `get_netlink_rcv_bufs_size` logs nothing, or returns `0`. -/
theorem getNetlinkRcvBufsSize_quiet_or_zero (env : Env) (strvec : Strvec) (type : String) :
    (getNetlinkRcvBufsSize env strvec type).2 = [] ∨
      (getNetlinkRcvBufsSize env strvec type).1 = 0 := by
  unfold getNetlinkRcvBufsSize
  by_cases missing : vectorSize strvec < 2
  · simp [missing]
  · by_cases invalid : (strtoul (strvecSlot env strvec 1)).2 ≠ []
    · simp [missing, invalid]
    · by_cases large : uintMax < (strtoul (strvecSlot env strvec 1)).1
      · simp [missing, invalid, large]
      · simp [missing, invalid, large]

/-- A helper that logs nothing or returns its fallback returns the fallback when it rejects. -/
theorem fallback_of_rejects
    {α : Type}
    {result : α × List Diagnostic}
    {fallback : α}
    (quietOrFallback : result.2 = [] ∨ result.1 = fallback)
    (rejected : rejectsLog result.2 = true) :
    result.1 = fallback :=
  quietOrFallback.resolve_left fun quiet => by simp [quiet] at rejected

@[simp] theorem rejectsLine_done (s : GlobalState) : (Outcome.done s).rejectsLine = false := rfl

@[simp] theorem rejectsLine_info (s : GlobalState) (report : Report) (text : String) :
    (Outcome.info s report text).rejectsLine = (report == .rejectLine) := by
  simp [Outcome.rejectsLine]

section Families

variable {after : Env → GlobalState → Strvec → GlobalState}

/-- A handler whose state is `s` whenever it rejects. -/
abbrev RejectionKeeps (handler : HandlerFn) : Prop :=
  RejectionLeaves handler fun _ s _ => s

/-- A flag handler never rejects. -/
theorem flagHandler_rejection (set : GlobalState → GlobalState) :
    RejectionLeaves (flagHandler set) after :=
  .of_never fun _ _ _ => rfl

/-- A `set_value` handler never rejects. -/
theorem setValueHandler_rejection (set : GlobalState → Option String → GlobalState) :
    RejectionLeaves (setValueHandler set) after :=
  .of_never fun _ _ _ => rfl

/-- A boolean handler rejects a word `check_true_false` refuses, before it writes. -/
theorem trueFalseHandler_rejection
    (invalid : String → String)
    (set : GlobalState → Bool → GlobalState) :
    RejectionKeeps (trueFalseHandler invalid set) := by
  intro env s strvec rejected
  unfold trueFalseHandler at rejected ⊢
  by_cases present : 2 ≤ vectorSize strvec
  · simp only [present, ↓reduceIte] at rejected ⊢
    cases checked : env.checkTrueFalse (strvecSlot env strvec 1) with
    | none => rfl
    | some res => simp [checked] at rejected
  · simp [present] at rejected

/-- A name set once rejects a duplicate before it writes. -/
theorem onceNameHandler_rejection
    (what : String)
    (get : GlobalState → Option String)
    (set : GlobalState → Option String → GlobalState) :
    RejectionKeeps (onceNameHandler what get set) := by
  intro env s strvec rejected
  unfold onceNameHandler at rejected ⊢
  by_cases reloading : s.reload = true
  · simp only [reloading, ↓reduceIte]
    rfl
  · simp only [reloading, Bool.false_eq_true, ↓reduceIte] at rejected ⊢
    cases named : get s with
    | none => simp [named] at rejected
    | some _ => rfl

/-- `notify_fifo` rejects before it writes. -/
theorem notifyFifo_rejection (kind : FifoKind) : RejectionKeeps (notifyFifo kind) := by
  intro env s strvec rejected
  unfold notifyFifo at rejected ⊢
  by_cases missing : vectorSize strvec < 2
  · simp only [missing, ↓reduceIte]
    rfl
  · simp only [missing, ↓reduceIte] at rejected ⊢
    cases set : (kind.get s).name with
    | some _ => rfl
    | none => simp [set] at rejected

/-- `notify_fifo_script` rejects before it writes. -/
theorem notifyFifoScript_rejection (kind : FifoKind) : RejectionKeeps (notifyFifoScript kind) := by
  intro env s strvec rejected
  unfold notifyFifoScript at rejected ⊢
  by_cases missing : vectorSize strvec < 2
  · simp only [missing, ↓reduceIte]
    rfl
  · simp only [missing, ↓reduceIte] at rejected ⊢
    cases set : (kind.get s).script with
    | some _ => rfl
    | none => simp [set] at rejected

/-- A `*_rcv_bufs` handler does not store the `0` of a rejected size. -/
theorem rcvBufsHandler_rejection (type : String) (set : GlobalState → Nat → GlobalState) :
    RejectionKeeps (rcvBufsHandler type set) := by
  intro env s strvec rejected
  have zero := fallback_of_rejects (getNetlinkRcvBufsSize_quiet_or_zero env strvec type) rejected
  simp only [rcvBufsHandler, zero, ne_eq, not_true_eq_false, ↓reduceIte]

/-- A `*_rt_priority` handler rejects only a missing value, and does not store the `-1`. -/
theorem rtPriorityHandler_rejection (process : String) (set : GlobalState → Int → GlobalState) :
    RejectionKeeps (rtPriorityHandler process set) := by
  intro env s strvec rejected
  have minusOne := getRealtimePriority_of_rejects rejected
  simp only [rtPriorityHandler, minusOne]
  rfl

/-- A `*_priority` handler stores the `0` of a rejected value. -/
theorem priorityHandler_rejection (process : String) (set : GlobalState → Int → GlobalState) :
    RejectionLeaves (priorityHandler process set) fun _ s _ => set s 0 := by
  intro env s strvec rejected
  have zero := fallback_of_rejects (getPriority_quiet_or_zero env strvec process) rejected
  simp only [priorityHandler, zero]

/-- A `*_rlimit_rtime` handler stores the `0` of a rejected limit. -/
theorem rtRlimitHandler_rejection (process : String) (set : GlobalState → Nat → GlobalState) :
    RejectionLeaves (rtRlimitHandler process set) fun _ s _ => set s 0 := by
  intro env s strvec rejected
  have zero := fallback_of_rejects (getRtRlimit_quiet_or_zero env strvec process) rejected
  simp only [rtRlimitHandler, zero]


@[simp] theorem rejectsLine_logFirst (d : Diagnostic) (o : Outcome) :
    (o.logFirst d).rejectsLine = (d.report == .rejectLine || o.rejectsLine) := rfl

@[simp] theorem rejectsLine_andThen (o : Outcome) (k : GlobalState → Outcome) :
    (o.andThen k).rejectsLine = (o.rejectsLine || (k o.state).rejectsLine) := by
  simp [Outcome.rejectsLine]

/-- The option loop rejects no line when no option does. -/
theorem scanOptions_rejectsLine
    {options : List SubOption}
    (optionsQuiet : ∀ opt ∈ options, ∀ s value, (opt.apply s value).rejectsLine = false)
    (env : Env)
    (directive : String)
    (strvec : Strvec)
    (s : GlobalState)
    (i : Nat) :
    (scanOptions env options directive strvec s i).rejectsLine = false := by
  refine scanOptions.induct env options directive strvec
    (fun s i => (scanOptions env options directive strvec s i).rejectsLine = false)
    ?_ ?_ ?_ ?_ s i
  · intro s opt inRange key found next
    rw [scanOptions_last (by omega) found, rejectsLine_logFirst, next]
    rfl
  · intro s i inRange key opt found notLast next
    rw [scanOptions_pair (by omega) found, rejectsLine_andThen,
      optionsQuiet opt (List.mem_of_find?_eq_some found), next]
    rfl
  · intro s i inRange key notFound next
    rw [scanOptions_unknown inRange notFound, rejectsLine_logFirst, next]
    rfl
  · intro s i outOfRange
    rw [scanOptions_of_le (by omega)]
    rfl

/-- A timeout option rejects its value, never the line. -/
theorem lvsTimeoutOptions_quiet :
    ∀ opt ∈ lvsTimeoutOptions, ∀ s value, (opt.apply s value).rejectsLine = false := by
  intro opt member s value
  obtain ⟨_, _, _, _, -, rfl⟩ := mem_lvsTimeoutOptions member
  simp only [timeoutOption]
  split <;> rfl

/-- A sync daemon option rejects its value, never the line. -/
theorem syncdOptions_quiet (env : Env) :
    ∀ opt ∈ syncdOptions env, ∀ s value, (opt.apply s value).rejectsLine = false := by
  intro opt member s value
  rcases mem_syncdOptions member with rfl | ⟨_, _, _, _, _, _, _, -, rfl⟩
  · simp only [syncdGroupOption, rejectsLine_andThen]
    split <;> split <;> rfl
  · simp only [syncdNumericOption]
    split <;> rfl

/-- `lvs_timeouts` rejects only a line without options, before it writes. -/
theorem lvsTimeouts_rejection : RejectionKeeps lvsTimeouts := by
  intro env s strvec rejected
  unfold lvsTimeouts at rejected ⊢
  by_cases short : vectorSize strvec < 3
  · simp only [short, ↓reduceIte]
    rfl
  · simp only [short, ↓reduceIte,
      scanOptions_rejectsLine lvsTimeoutOptions_quiet] at rejected
    exact absurd rejected Bool.false_ne_true

/-- `lvs_sync_daemon` rejects a line only before it writes. -/
theorem lvsSyncdHandler_rejection : RejectionKeeps lvsSyncdHandler := by
  intro env s strvec rejected
  unfold lvsSyncdHandler at rejected ⊢
  split
  · rfl
  · next unset =>
      simp only [unset] at rejected
      dsimp only at rejected ⊢
      split_ifs at rejected ⊢ <;> first
        | rfl
        | simp [scanOptions_rejectsLine (syncdOptions_quiet env),
            syncdOptions_quiet env _ (List.mem_cons_self _ _)] at rejected

/-- The GARP interval handlers only ever log a notice. -/
theorem garpIntervalHandler_rejection (name : String) (set : GlobalState → Nat → GlobalState) :
    RejectionLeaves (garpIntervalHandler name set) after :=
  .of_never fun env s strvec => by
    simp only [garpIntervalHandler, Outcome.rejectsLine]
    split <;> rfl

/-- `smtp_helo_name` never logs. -/
theorem smtpheloHandler_rejection : RejectionLeaves smtpheloHandler after :=
  .of_never fun env s strvec => by
    unfold smtpheloHandler
    split <;> rfl

/-- `notification_email` only ever logs a notice. -/
theorem emailHandler_rejection : RejectionLeaves emailHandler after :=
  .of_never fun env s strvec => by
    simp only [emailHandler]
    split <;> rfl

/--
`default_interface` rejects a line without a name before it writes; an
interface that does not exist is rejected after the lookup, whose NULL it stores.
-/
theorem defaultInterfaceHandler_rejection :
    RejectionLeaves defaultInterfaceHandler fun env s strvec =>
      if vectorSize strvec < 2 then s
      else
        { s with
          ifQueue := (env.ifGetByIfname (strvecSlot env strvec 1) .createIfDynamic
            s.dynamicInterfaces s.ifQueue).2
          defaultIfp := none } := by
  intro env s strvec rejected
  rw [defaultInterfaceHandler_state]
  by_cases missing : vectorSize strvec < 2
  · simp only [missing, ↓reduceIte]
  · have notFound : (env.ifGetByIfname (strvecSlot env strvec 1) .createIfDynamic
        s.dynamicInterfaces s.ifQueue).1 = none := by
      simp only [defaultInterfaceHandler, missing, ↓reduceIte] at rejected
      split at rejected
      · assumption
      · exact absurd rejected Bool.false_ne_true
    simp only [missing, notFound, ↓reduceIte]

/-- `vrrp_version` rejects before it writes. -/
theorem vrrpVersionHandler_rejection : RejectionKeeps vrrpVersionHandler := by
  intro env s strvec rejected
  unfold vrrpVersionHandler at rejected ⊢
  dsimp only at rejected ⊢
  split_ifs at rejected ⊢
  · rfl
  · exact absurd rejected Bool.false_ne_true

/-- `snmp_socket` rejects before it writes. -/
theorem snmpSocketHandler_rejection : RejectionKeeps snmpSocketHandler := by
  intro env s strvec rejected
  unfold snmpSocketHandler at rejected ⊢
  by_cases many : 2 < vectorSize strvec
  · simp only [many, ↓reduceIte]
    rfl
  by_cases missing : vectorSize strvec < 2
  · simp only [many, missing, ↓reduceIte]
    rfl
  by_cases long : env.pathMax - 1 < strlen (strvecSlot env strvec 1)
  · simp only [many, missing, long, ↓reduceIte]
    rfl
  simp only [many, missing, long, ↓reduceIte] at rejected ⊢
  cases previous : s.snmpSocket with
  | some _ => rfl
  | none =>
      simp only [previous] at rejected
      exact absurd rejected Bool.false_ne_true

/-- `child_wait_time` rejects before it writes. -/
theorem childWaitHandler_rejection : RejectionKeeps childWaitHandler := by
  intro env s strvec rejected
  unfold childWaitHandler at rejected ⊢
  by_cases parsed : (strtoul (strvecSlot env strvec 1)).2 = []
  · simp [parsed] at rejected
  · simp only [parsed, ne_eq, not_false_eq_true, ↓reduceIte]
    rfl

/-- `vrrp_iptables` has cleared both chains when it rejects a name. -/
theorem vrrpIptablesHandler_rejection :
    RejectionLeaves vrrpIptablesHandler fun env s strvec =>
      let inchain := strvecSlot env strvec 1
      { s with
        vrrpIptablesInchain :=
          if env.iptablesChainSize - 1 ≤ strlen inchain then "" else inchain
        vrrpIptablesOutchain := "" } := by
  intro env s strvec rejected
  unfold vrrpIptablesHandler at rejected ⊢
  dsimp only at rejected ⊢
  split_ifs at rejected ⊢ <;> first | rfl | exact absurd rejected Bool.false_ne_true

/-- The third ipset name is rejected only when given, and before it is stored. -/
theorem ipsetIface6Step_of_rejects
    {env : Env}
    {strvec : Strvec}
    {s : GlobalState}
    (rejected : (ipsetIface6Step env strvec s).rejectsLine = true) :
    (ipsetIface6Step env strvec s).state = s := by
  unfold ipsetIface6Step at rejected ⊢
  dsimp only at rejected ⊢
  split_ifs at rejected ⊢
  · rfl
  all_goals exact absurd rejected Bool.false_ne_true

/-- `vrrp_ipsets` keeps the names it stored before the one it rejects. -/
theorem vrrpIpsetsHandler_rejection :
    RejectionLeaves vrrpIpsetsHandler fun env s strvec =>
      let name := strvecSlot env strvec 1
      let name6 := strvecSlot env strvec 2
      if env.ipsetNameSize - 1 ≤ strlen name then s
      else if 3 ≤ vectorSize strvec ∧ env.ipsetNameSize - 1 ≤ strlen name6 then
        { s with vrrpIpsetAddress := name }
      else
        { s with
          vrrpIpsetAddress := name
          vrrpIpsetAddress6 :=
            if 3 ≤ vectorSize strvec then name6 else ipsetAddress6Of env.ipsetNameSize name } := by
  intro env s strvec rejected
  unfold vrrpIpsetsHandler at rejected ⊢
  dsimp only at rejected ⊢
  by_cases present : 2 ≤ vectorSize strvec
  · by_cases long : env.ipsetNameSize - 1 ≤ strlen (strvecSlot env strvec 1)
    · simp only [present, long, ↓reduceIte]
      rfl
    · by_cases second : 3 ≤ vectorSize strvec
      · by_cases long6 : env.ipsetNameSize - 1 ≤ strlen (strvecSlot env strvec 2)
        · simp only [present, long, second, long6, and_self, ↓reduceIte]
          rfl
        · simp only [present, long, second, long6, and_false, ↓reduceIte] at rejected ⊢
          exact ipsetIface6Step_of_rejects rejected
      · simp only [present, long, second, false_and, ↓reduceIte] at rejected ⊢
        exact ipsetIface6Step_of_rejects rejected
  · simp only [present, ↓reduceIte] at rejected
    exact absurd rejected Bool.false_ne_true

/-- `script_user` keeps what `set_default_script_user` left when it fails. -/
theorem scriptUserHandler_rejection :
    RejectionLeaves scriptUserHandler fun env s strvec =>
      if vectorSize strvec < 2 then s
      else
        let group := if 2 < vectorSize strvec then some (strvecSlot env strvec 2) else none
        { s with
          defaultScriptUser :=
            (env.setDefaultScriptUser (strvecSlot env strvec 1) group s.defaultScriptUser).2 } := by
  intro env s strvec _
  by_cases missing : vectorSize strvec < 2
  · simp only [scriptUserHandler, missing, ↓reduceIte]
    rfl
  · simp only [scriptUserHandler, missing, ↓reduceIte]

end Families

namespace Handler

/--
The state a line leaves when the handler rejects it: unchanged, but for the
handlers that store a fallback, store a value before they check the next one,
or keep what a collaborator wrote.
-/
def afterRejection : Handler → Env → GlobalState → Strvec → GlobalState
  | .vrrpPrioHandler => fun _ s _ => { s with vrrpProcessPriority := 0 }
  | .checkerPrioHandler => fun _ s _ => { s with checkerProcessPriority := 0 }
  | .bfdPrioHandler => fun _ s _ => { s with bfdProcessPriority := 0 }
  | .vrrpRtRlimitHandler => fun _ s _ => { s with vrrpRlimitRt := 0 }
  | .checkerRtRlimitHandler => fun _ s _ => { s with checkerRlimitRt := 0 }
  | .bfdRtRlimitHandler => fun _ s _ => { s with bfdRlimitRt := 0 }
  | .vrrpIptablesHandler => fun env s strvec =>
      let inchain := strvecSlot env strvec 1
      { s with
        vrrpIptablesInchain := if env.iptablesChainSize - 1 ≤ strlen inchain then "" else inchain
        vrrpIptablesOutchain := "" }
  | .defaultInterfaceHandler => fun env s strvec =>
      if vectorSize strvec < 2 then s
      else
        { s with
          ifQueue := (env.ifGetByIfname (strvecSlot env strvec 1) .createIfDynamic
            s.dynamicInterfaces s.ifQueue).2
          defaultIfp := none }
  | .vrrpIpsetsHandler => fun env s strvec =>
      let name := strvecSlot env strvec 1
      let name6 := strvecSlot env strvec 2
      if env.ipsetNameSize - 1 ≤ strlen name then s
      else if 3 ≤ vectorSize strvec ∧ env.ipsetNameSize - 1 ≤ strlen name6 then
        { s with vrrpIpsetAddress := name }
      else
        { s with
          vrrpIpsetAddress := name
          vrrpIpsetAddress6 :=
            if 3 ≤ vectorSize strvec then name6 else ipsetAddress6Of env.ipsetNameSize name }
  | .vrrpMcastGroup4Handler => fun env s strvec =>
      let mcast := (env.inetStosockaddr (strvecSlot env strvec 1) none s.vrrpMcastGroup4).2
      { s with
        vrrpMcastGroup4 := mcast
        vrrpMcastGroup6 :=
          if mcast.family = .inet6 then env.mcastGroup4Overrun mcast s.vrrpMcastGroup6
          else s.vrrpMcastGroup6 }
  | .vrrpMcastGroup6Handler => fun env s strvec =>
      { s with
        vrrpMcastGroup6 :=
          (env.inetStosockaddr (strvecSlot env strvec 1) none s.vrrpMcastGroup6).2 }
  | .scriptUserHandler => fun env s strvec =>
      if vectorSize strvec < 2 then s
      else
        let group := if 2 < vectorSize strvec then some (strvecSlot env strvec 2) else none
        { s with
          defaultScriptUser :=
            (env.setDefaultScriptUser (strvecSlot env strvec 1) group s.defaultScriptUser).2 }
  | _ => fun _ s _ => s

/-- Every handler ends a rejected line in `afterRejection`. -/
theorem rejectionLeaves : ∀ handler : Handler, RejectionLeaves handler.fn handler.afterRejection
  | .usePollingHandler => flagHandler_rejection _
  | .netNamespaceHandler => onceNameHandler_rejection _ _ _
  | .namespaceIpsetsHandler => flagHandler_rejection _
  | .usePidDirHandler => flagHandler_rejection _
  | .instanceHandler => onceNameHandler_rejection _ _ _
  | .childWaitHandler => childWaitHandler_rejection
  | .routeridHandler => setValueHandler_rejection _
  | .emailfromHandler => setValueHandler_rejection _
  | .smtpserverHandler => .of_never fun _ _ _ => rfl
  | .smtpheloHandler => smtpheloHandler_rejection
  | .smtptoHandler => .of_never fun _ _ _ => rfl
  | .emailHandler => emailHandler_rejection
  | .smtpAlertHandler => trueFalseHandler_rejection _ _
  | .smtpAlertVrrpHandler => trueFalseHandler_rejection _ _
  | .smtpAlertCheckerHandler => trueFalseHandler_rejection _ _
  | .dynamicInterfacesHandler => flagHandler_rejection _
  | .noEmailFaultsHandler => flagHandler_rejection _
  | .defaultInterfaceHandler => defaultInterfaceHandler_rejection
  | .lvsTimeouts => lvsTimeouts_rejection
  | .lvsFlushHandler => flagHandler_rejection _
  | .lvsSyncdHandler => lvsSyncdHandler_rejection
  | .vrrpMcastGroup4Handler => fun _ _ _ _ => rfl
  | .vrrpMcastGroup6Handler => fun _ _ _ _ => rfl
  | .vrrpGarpDelayHandler => .of_never fun _ _ _ => rfl
  | .vrrpGarpRepHandler => .of_never fun _ _ _ => rfl
  | .vrrpGarpRefreshHandler => .of_never fun _ _ _ => rfl
  | .vrrpGarpRefreshRepHandler => .of_never fun _ _ _ => rfl
  | .vrrpGarpLowerPrioDelayHandler => .of_never fun _ _ _ => rfl
  | .vrrpGarpLowerPrioRepHandler => .of_never fun _ _ _ => rfl
  | .vrrpGarpIntervalHandler => garpIntervalHandler_rejection _ _
  | .vrrpGnaIntervalHandler => garpIntervalHandler_rejection _ _
  | .vrrpLowerPrioNoAdvertHandler => trueFalseHandler_rejection _ _
  | .vrrpHigherPrioSendAdvertHandler => trueFalseHandler_rejection _ _
  | .vrrpVersionHandler => vrrpVersionHandler_rejection
  | .vrrpIptablesHandler => vrrpIptablesHandler_rejection
  | .vrrpIpsetsHandler => vrrpIpsetsHandler_rejection
  | .vrrpCheckUnicastSrcHandler => flagHandler_rejection _
  | .vrrpCheckAdvAddrHandler => flagHandler_rejection _
  | .vrrpStrictHandler => flagHandler_rejection _
  | .vrrpPrioHandler => priorityHandler_rejection _ _
  | .vrrpNoSwapHandler => flagHandler_rejection _
  | .vrrpRtPriorityHandler => rtPriorityHandler_rejection _ _
  | .vrrpRtRlimitHandler => rtRlimitHandler_rejection _ _
  | .globalNotifyFifo => notifyFifo_rejection .global
  | .globalNotifyFifoScript => notifyFifoScript_rejection .global
  | .vrrpNotifyFifo => notifyFifo_rejection .vrrp
  | .vrrpNotifyFifoScript => notifyFifoScript_rejection .vrrp
  | .lvsNotifyFifo => notifyFifo_rejection .lvs
  | .lvsNotifyFifoScript => notifyFifoScript_rejection .lvs
  | .checkerPrioHandler => priorityHandler_rejection _ _
  | .checkerNoSwapHandler => flagHandler_rejection _
  | .checkerRtPriorityHandler => rtPriorityHandler_rejection _ _
  | .checkerRtRlimitHandler => rtRlimitHandler_rejection _ _
  | .bfdPrioHandler => priorityHandler_rejection _ _
  | .bfdNoSwapHandler => flagHandler_rejection _
  | .bfdRtPriorityHandler => rtPriorityHandler_rejection _ _
  | .bfdRtRlimitHandler => rtRlimitHandler_rejection _ _
  | .snmpSocketHandler => snmpSocketHandler_rejection
  | .trapHandler => flagHandler_rejection _
  | .snmpVrrpHandler => flagHandler_rejection _
  | .snmpRfcHandler => .of_never fun _ _ _ => rfl
  | .snmpRfcv2Handler => flagHandler_rejection _
  | .snmpRfcv3Handler => flagHandler_rejection _
  | .snmpCheckerHandler => flagHandler_rejection _
  | .enableDbusHandler => flagHandler_rejection _
  | .dbusServiceNameHandler => setValueHandler_rejection _
  | .scriptUserHandler => scriptUserHandler_rejection
  | .scriptSecurityHandler => flagHandler_rejection _
  | .vrrpNetlinkCmdRcvBufsHandler => rcvBufsHandler_rejection _ _
  | .vrrpNetlinkCmdRcvBufsForceHandler => trueFalseHandler_rejection _ _
  | .vrrpNetlinkMonitorRcvBufsHandler => rcvBufsHandler_rejection _ _
  | .vrrpNetlinkMonitorRcvBufsForceHandler => trueFalseHandler_rejection _ _
  | .lvsNetlinkCmdRcvBufsHandler => rcvBufsHandler_rejection _ _
  | .lvsNetlinkCmdRcvBufsForceHandler => trueFalseHandler_rejection _ _
  | .lvsNetlinkMonitorRcvBufsHandler => rcvBufsHandler_rejection _ _
  | .lvsNetlinkMonitorRcvBufsForceHandler => trueFalseHandler_rejection _ _

end Handler

/-- A call that rejected one option value. -/
def Outcome.rejectsOption (o : Outcome) : Bool :=
  o.log.any fun d => d.report == .rejectOption

/--
A rejected option leaves the state as it was before that option, but `group`,
whose result is the parsed address or `AF_UNSPEC` whether or not it is rejected.
-/
theorem rejectedOption_state (env : Env) :
    ∀ opt ∈ lvsTimeoutOptions ++ syncdOptions env, ∀ s value,
      (opt.apply s value).rejectsOption = true →
        (opt.apply s value).state =
          if opt.keyword = "group" then
            setLvsSyncd s fun r => { r with mcastGroup := groupAfter env value r.mcastGroup }
          else s := by
  intro opt member s value rejected
  rcases List.mem_append.mp member with timeout | syncd
  · obtain ⟨_, _, _, _, notGroup, rfl⟩ := mem_lvsTimeoutOptions timeout
    simp only [timeoutOption, if_neg notGroup] at rejected ⊢
    split at rejected
    · rfl
    · exact absurd rejected Bool.false_ne_true
  · rcases mem_syncdOptions syncd with rfl | ⟨_, _, _, _, _, _, _, notGroup, rfl⟩
    · rw [syncdGroupOption_apply_state,
        if_pos (show (syncdGroupOption env).keyword = "group" from rfl)]
    · simp only [syncdNumericOption, if_neg notGroup] at rejected ⊢
      split at rejected
      · rfl
      · exact absurd rejected Bool.false_ne_true

/--
A rejected line leaves the state `afterRejection` states, for every handler
of the table; a rejected option value of `lvs_timeouts` or
`lvs_sync_daemon` leaves the state as it was before that option, the group
option keeping the parsed address or resetting it to `AF_UNSPEC`.
-/
theorem rejected_line_state :
    (∀ handler : Handler, RejectionLeaves handler.fn handler.afterRejection) ∧
    (∀ env : Env, ∀ opt ∈ lvsTimeoutOptions ++ syncdOptions env, ∀ s value,
      (opt.apply s value).rejectsOption = true →
        (opt.apply s value).state =
          if opt.keyword = "group" then
            setLvsSyncd s fun r => { r with mcastGroup := groupAfter env value r.mcastGroup }
          else s) :=
  ⟨Handler.rejectionLeaves, rejectedOption_state⟩

/-- `vrrp_version 7` is rejected and the state is as it was. -/
theorem vrrpVersion_rejected_keeps_state :
    (vrrpVersionHandler referenceEnv zeroedState ["vrrp_version", "7"]).rejectsLine = true ∧
      (vrrpVersionHandler referenceEnv zeroedState ["vrrp_version", "7"]).state = zeroedState :=
  ⟨by decide, rejected_line_state.1 .vrrpVersionHandler referenceEnv zeroedState
    ["vrrp_version", "7"] (by decide)⟩

/-- `vrrp_priority 50` is rejected as invalid, yet the priority is reset to `0`. -/
theorem vrrpPrioHandler_rejected_resets_priority :
    (vrrpPrioHandler referenceEnv { zeroedState with vrrpProcessPriority := 5 }
        ["vrrp_priority", "50"]).rejectsLine = true ∧
      (vrrpPrioHandler referenceEnv { zeroedState with vrrpProcessPriority := 5 }
        ["vrrp_priority", "50"]).state ≠ { zeroedState with vrrpProcessPriority := 5 } :=
  ⟨by decide, fun same => absurd (congrArg GlobalState.vrrpProcessPriority same) (by decide)⟩

end Keepalived
