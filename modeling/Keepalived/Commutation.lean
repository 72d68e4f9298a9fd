import Keepalived.HandlerFootprints
import Keepalived.Platform

namespace Keepalived

/-!
# Order independence of the global definitions

Two lines of different directives give the same state in either order unless
one of them reads a field the other writes.  `Handler.independent` tests the
footprints of two handlers; independent handlers commute by
`commute_of_footprint`.  `Field.owner` names the one handler that touches each
field no other handler touches, and shows that only the handlers in
`Handler.sharing` can meet another's footprint.  Among them, the pairs that
set the same flags to `true` still commute, and the pairs in
`Handler.readsAfter` do not: `default_interface` reads `dynamic_interfaces`,
the notify FIFO scripts read the default script user, and an IPv6 address
given to `vrrp_mcast_group4` overruns into `vrrp_mcast_group6`.

A directive name leads to its handler through the table; two names lead to
one handler only for the alias `enable_snmp_keepalived` of `enable_snmp_vrrp`.
-/

/-- Two handlers on two lines leave the same state in either order. -/
def Commute (first second : HandlerFn) : Prop :=
  ∀ env s strvecFirst strvecSecond,
    (second env (first env s strvecFirst).state strvecSecond).state =
      (first env (second env s strvecSecond).state strvecFirst).state

/-- Commuting is symmetric. -/
theorem Commute.symm {first second : HandlerFn} (commute : Commute first second) :
    Commute second first :=
  fun env s strvecFirst strvecSecond => (commute env s strvecSecond strvecFirst).symm

/-- A flag handler run twice sets its flag once, in either order. -/
theorem flagHandler_commute_self (set : GlobalState → GlobalState) :
    Commute (flagHandler set) (flagHandler set) :=
  fun _ _ _ _ => rfl

/-- The field's only handler, for a field that exactly one handler reads or writes. -/
def Field.owner : Field → Option Handler
  | .linkbeatUsePolling => some .usePollingHandler
  | .routerId => some .routeridHandler
  | .emailFrom => some .emailfromHandler
  | .smtpConnectionTo => some .smtptoHandler
  | .dynamicInterfaces => none
  | .noEmailFaults => some .noEmailFaultsHandler
  | .smtpServer => some .smtpserverHandler
  | .smtpHeloName => some .smtpheloHandler
  | .email => some .emailHandler
  | .smtpAlert => some .smtpAlertHandler
  | .smtpAlertVrrp => some .smtpAlertVrrpHandler
  | .smtpAlertChecker => some .smtpAlertCheckerHandler
  | .defaultIfp => some .defaultInterfaceHandler
  | .lvsTcpTimeout => some .lvsTimeouts
  | .lvsTcpfinTimeout => some .lvsTimeouts
  | .lvsUdpTimeout => some .lvsTimeouts
  | .lvsSyncd => some .lvsSyncdHandler
  | .lvsFlush => some .lvsFlushHandler
  | .vrrpMcastGroup4 => some .vrrpMcastGroup4Handler
  | .vrrpMcastGroup6 => none
  | .vrrpGarpDelay => some .vrrpGarpDelayHandler
  | .vrrpGarpRep => some .vrrpGarpRepHandler
  | .vrrpGarpRefresh => some .vrrpGarpRefreshHandler
  | .vrrpGarpRefreshRep => some .vrrpGarpRefreshRepHandler
  | .vrrpGarpLowerPrioDelay => some .vrrpGarpLowerPrioDelayHandler
  | .vrrpGarpLowerPrioRep => some .vrrpGarpLowerPrioRepHandler
  | .vrrpGarpInterval => some .vrrpGarpIntervalHandler
  | .vrrpGnaInterval => some .vrrpGnaIntervalHandler
  | .vrrpLowerPrioNoAdvert => some .vrrpLowerPrioNoAdvertHandler
  | .vrrpHigherPrioSendAdvert => some .vrrpHigherPrioSendAdvertHandler
  | .vrrpIptablesInchain => some .vrrpIptablesHandler
  | .vrrpIptablesOutchain => some .vrrpIptablesHandler
  | .usingIpsets => some .vrrpIpsetsHandler
  | .vrrpIpsetAddress => some .vrrpIpsetsHandler
  | .vrrpIpsetAddress6 => some .vrrpIpsetsHandler
  | .vrrpIpsetAddressIface6 => some .vrrpIpsetsHandler
  | .vrrpVersion => some .vrrpVersionHandler
  | .vrrpCheckUnicastSrc => some .vrrpCheckUnicastSrcHandler
  | .vrrpSkipCheckAdvAddr => some .vrrpCheckAdvAddrHandler
  | .vrrpStrict => some .vrrpStrictHandler
  | .vrrpProcessPriority => some .vrrpPrioHandler
  | .vrrpNoSwap => some .vrrpNoSwapHandler
  | .vrrpRealtimePriority => some .vrrpRtPriorityHandler
  | .vrrpRlimitRt => some .vrrpRtRlimitHandler
  | .notifyFifoName => some .globalNotifyFifo
  | .notifyFifoScript => some .globalNotifyFifoScript
  | .vrrpNotifyFifoName => some .vrrpNotifyFifo
  | .vrrpNotifyFifoScript => some .vrrpNotifyFifoScript
  | .lvsNotifyFifoName => some .lvsNotifyFifo
  | .lvsNotifyFifoScript => some .lvsNotifyFifoScript
  | .checkerProcessPriority => some .checkerPrioHandler
  | .checkerNoSwap => some .checkerNoSwapHandler
  | .checkerRealtimePriority => some .checkerRtPriorityHandler
  | .checkerRlimitRt => some .checkerRtRlimitHandler
  | .bfdProcessPriority => some .bfdPrioHandler
  | .bfdNoSwap => some .bfdNoSwapHandler
  | .bfdRealtimePriority => some .bfdRtPriorityHandler
  | .bfdRlimitRt => some .bfdRtRlimitHandler
  | .snmpSocket => some .snmpSocketHandler
  | .enableTraps => some .trapHandler
  | .enableSnmpVrrp => some .snmpVrrpHandler
  | .enableSnmpRfcv2 => none
  | .enableSnmpRfcv3 => none
  | .enableSnmpChecker => some .snmpCheckerHandler
  | .networkNamespace => some .netNamespaceHandler
  | .namespaceWithIpsets => some .namespaceIpsetsHandler
  | .enableDbus => some .enableDbusHandler
  | .dbusServiceName => some .dbusServiceNameHandler
  | .instanceName => some .instanceHandler
  | .vrrpNetlinkMonitorRcvBufs => some .vrrpNetlinkMonitorRcvBufsHandler
  | .vrrpNetlinkMonitorRcvBufsForce => some .vrrpNetlinkMonitorRcvBufsForceHandler
  | .vrrpNetlinkCmdRcvBufs => some .vrrpNetlinkCmdRcvBufsHandler
  | .vrrpNetlinkCmdRcvBufsForce => some .vrrpNetlinkCmdRcvBufsForceHandler
  | .lvsNetlinkMonitorRcvBufs => some .lvsNetlinkMonitorRcvBufsHandler
  | .lvsNetlinkMonitorRcvBufsForce => some .lvsNetlinkMonitorRcvBufsForceHandler
  | .lvsNetlinkCmdRcvBufs => some .lvsNetlinkCmdRcvBufsHandler
  | .lvsNetlinkCmdRcvBufsForce => some .lvsNetlinkCmdRcvBufsForceHandler
  | .usePidDir => none
  | .scriptSecurity => some .scriptSecurityHandler
  | .childWaitTime => some .childWaitHandler
  | .reload => none
  | .defaultScriptUser => none
  | .ifQueue => some .defaultInterfaceHandler

namespace Handler

/-- The directive names `init_global_keywords` installs a handler under. -/
def names : Handler → List String
  | .usePollingHandler => ["linkbeat_use_polling"]
  | .netNamespaceHandler => ["net_namespace"]
  | .namespaceIpsetsHandler => ["namespace_with_ipsets"]
  | .usePidDirHandler => ["use_pid_dir"]
  | .instanceHandler => ["instance"]
  | .childWaitHandler => ["child_wait_time"]
  | .routeridHandler => ["router_id"]
  | .emailfromHandler => ["notification_email_from"]
  | .smtpserverHandler => ["smtp_server"]
  | .smtpheloHandler => ["smtp_helo_name"]
  | .smtptoHandler => ["smtp_connect_timeout"]
  | .emailHandler => ["notification_email"]
  | .smtpAlertHandler => ["smtp_alert"]
  | .smtpAlertVrrpHandler => ["smtp_alert_vrrp"]
  | .smtpAlertCheckerHandler => ["smtp_alert_checker"]
  | .dynamicInterfacesHandler => ["dynamic_interfaces"]
  | .noEmailFaultsHandler => ["no_email_faults"]
  | .defaultInterfaceHandler => ["default_interface"]
  | .lvsTimeouts => ["lvs_timeouts"]
  | .lvsFlushHandler => ["lvs_flush"]
  | .lvsSyncdHandler => ["lvs_sync_daemon"]
  | .vrrpMcastGroup4Handler => ["vrrp_mcast_group4"]
  | .vrrpMcastGroup6Handler => ["vrrp_mcast_group6"]
  | .vrrpGarpDelayHandler => ["vrrp_garp_master_delay"]
  | .vrrpGarpRepHandler => ["vrrp_garp_master_repeat"]
  | .vrrpGarpRefreshHandler => ["vrrp_garp_master_refresh"]
  | .vrrpGarpRefreshRepHandler => ["vrrp_garp_master_refresh_repeat"]
  | .vrrpGarpLowerPrioDelayHandler => ["vrrp_garp_lower_prio_delay"]
  | .vrrpGarpLowerPrioRepHandler => ["vrrp_garp_lower_prio_repeat"]
  | .vrrpGarpIntervalHandler => ["vrrp_garp_interval"]
  | .vrrpGnaIntervalHandler => ["vrrp_gna_interval"]
  | .vrrpLowerPrioNoAdvertHandler => ["vrrp_lower_prio_no_advert"]
  | .vrrpHigherPrioSendAdvertHandler => ["vrrp_higher_prio_send_advert"]
  | .vrrpVersionHandler => ["vrrp_version"]
  | .vrrpIptablesHandler => ["vrrp_iptables"]
  | .vrrpIpsetsHandler => ["vrrp_ipsets"]
  | .vrrpCheckUnicastSrcHandler => ["vrrp_check_unicast_src"]
  | .vrrpCheckAdvAddrHandler => ["vrrp_skip_check_adv_addr"]
  | .vrrpStrictHandler => ["vrrp_strict"]
  | .vrrpPrioHandler => ["vrrp_priority"]
  | .vrrpNoSwapHandler => ["vrrp_no_swap"]
  | .vrrpRtPriorityHandler => ["vrrp_rt_priority"]
  | .vrrpRtRlimitHandler => ["vrrp_rlimit_rtime"]
  | .globalNotifyFifo => ["notify_fifo"]
  | .globalNotifyFifoScript => ["notify_fifo_script"]
  | .vrrpNotifyFifo => ["vrrp_notify_fifo"]
  | .vrrpNotifyFifoScript => ["vrrp_notify_fifo_script"]
  | .lvsNotifyFifo => ["lvs_notify_fifo"]
  | .lvsNotifyFifoScript => ["lvs_notify_fifo_script"]
  | .checkerPrioHandler => ["checker_priority"]
  | .checkerNoSwapHandler => ["checker_no_swap"]
  | .checkerRtPriorityHandler => ["checker_rt_priority"]
  | .checkerRtRlimitHandler => ["checker_rlimit_rtime"]
  | .bfdPrioHandler => ["bfd_priority"]
  | .bfdNoSwapHandler => ["bfd_no_swap"]
  | .bfdRtPriorityHandler => ["bfd_rt_priority"]
  | .bfdRtRlimitHandler => ["bfd_rlimit_rtime"]
  | .snmpSocketHandler => ["snmp_socket"]
  | .trapHandler => ["enable_traps"]
  | .snmpVrrpHandler => ["enable_snmp_vrrp", "enable_snmp_keepalived"]
  | .snmpRfcHandler => ["enable_snmp_rfc"]
  | .snmpRfcv2Handler => ["enable_snmp_rfcv2"]
  | .snmpRfcv3Handler => ["enable_snmp_rfcv3"]
  | .snmpCheckerHandler => ["enable_snmp_checker"]
  | .enableDbusHandler => ["enable_dbus"]
  | .dbusServiceNameHandler => ["dbus_service_name"]
  | .scriptUserHandler => ["script_user"]
  | .scriptSecurityHandler => ["enable_script_security"]
  | .vrrpNetlinkCmdRcvBufsHandler => ["vrrp_netlink_cmd_rcv_bufs"]
  | .vrrpNetlinkCmdRcvBufsForceHandler => ["vrrp_netlink_cmd_rcv_bufs_force"]
  | .vrrpNetlinkMonitorRcvBufsHandler => ["vrrp_netlink_monitor_rcv_bufs"]
  | .vrrpNetlinkMonitorRcvBufsForceHandler => ["vrrp_netlink_monitor_rcv_bufs_force"]
  | .lvsNetlinkCmdRcvBufsHandler => ["lvs_netlink_cmd_rcv_bufs"]
  | .lvsNetlinkCmdRcvBufsForceHandler => ["lvs_netlink_cmd_rcv_bufs_force"]
  | .lvsNetlinkMonitorRcvBufsHandler => ["lvs_netlink_monitor_rcv_bufs"]
  | .lvsNetlinkMonitorRcvBufsForceHandler => ["lvs_netlink_monitor_rcv_bufs_force"]

/-- Whether each handler's writes miss the other's footprint. -/
def independent (a b : Handler) : Bool :=
  decide ((∀ f ∈ a.writes, f ∉ b.reads ∧ f ∉ b.writes) ∧
    ∀ f ∈ b.writes, f ∉ a.reads)

/-- Independent handlers commute. -/
theorem commute_of_independent {a b : Handler} (independent : a.independent b = true) :
    Commute a.fn b.fn := by
  simp only [Handler.independent, decide_eq_true_eq] at independent
  exact commute_of_footprint a.footprint b.footprint independent.1 independent.2

/-- The handlers that touch a field another handler touches. -/
def sharing : List Handler :=
  [.netNamespaceHandler, .usePidDirHandler, .instanceHandler, .dynamicInterfacesHandler,
    .defaultInterfaceHandler, .vrrpMcastGroup4Handler, .vrrpMcastGroup6Handler,
    .globalNotifyFifoScript, .vrrpNotifyFifoScript, .lvsNotifyFifoScript, .scriptUserHandler,
    .snmpRfcHandler, .snmpRfcv2Handler, .snmpRfcv3Handler]

/-- Every field a handler touches is its own, or shared, and then the handler is in `sharing`. -/
theorem owner_of_touches (a : Handler) :
    ∀ f ∈ a.reads ++ a.writes, f.owner = some a ∨ (f.owner = none ∧ a ∈ sharing) := by
  cases a <;> decide

/-- Two different handlers whose footprints meet are both in `sharing`. -/
theorem sharing_of_dependent
    {a b : Handler}
    (distinct : a ≠ b)
    (dependent : a.independent b = false) :
    a ∈ sharing ∧ b ∈ sharing := by
  obtain ⟨f, inA, inB⟩ : ∃ f, f ∈ a.reads ++ a.writes ∧ f ∈ b.reads ++ b.writes := by
    simp only [Handler.independent, decide_eq_false_iff_not] at dependent
    by_contra apart
    have meets (f : Field)
        (inA : f ∈ a.reads ∨ f ∈ a.writes) (inB : f ∈ b.reads ∨ f ∈ b.writes) : False :=
      apart ⟨f, List.mem_append.mpr inA, List.mem_append.mpr inB⟩
    exact dependent ⟨fun f inA => ⟨fun inB => meets f (.inr inA) (.inl inB),
      fun inB => meets f (.inr inA) (.inr inB)⟩, fun f inB inA => meets f (.inl inA) (.inr inB)⟩
  rcases owner_of_touches a f inA with ownA | ⟨noneA, shareA⟩ <;>
    rcases owner_of_touches b f inB with ownB | ⟨noneB, shareB⟩
  · exact absurd (Option.some.inj (ownA.symm.trans ownB)) distinct
  · exact absurd (ownA.symm.trans noneB) (Option.some_ne_none a)
  · exact absurd (noneA.symm.trans ownB) (Option.some_ne_none b).symm
  · exact ⟨shareA, shareB⟩

/-- Ordered pairs of handlers where the second reads a field the first writes. -/
def readsAfter : List (Handler × Handler) :=
  [(.dynamicInterfacesHandler, .defaultInterfaceHandler),
    (.vrrpMcastGroup4Handler, .vrrpMcastGroup6Handler),
    (.scriptUserHandler, .globalNotifyFifoScript),
    (.scriptUserHandler, .vrrpNotifyFifoScript),
    (.scriptUserHandler, .lvsNotifyFifoScript)]

/-- Whether the order of two handlers' lines can matter. -/
def orderMatters (a b : Handler) : Bool :=
  decide ((a, b) ∈ readsAfter ∨ (b, a) ∈ readsAfter)

/-- Pairs of handlers whose footprints meet only in flags both set to `true`. -/
def sameFlags : List (Handler × Handler) :=
  [(.instanceHandler, .netNamespaceHandler),
    (.instanceHandler, .usePidDirHandler),
    (.netNamespaceHandler, .usePidDirHandler),
    (.snmpRfcHandler, .snmpRfcv2Handler),
    (.snmpRfcHandler, .snmpRfcv3Handler)]

/-- Two different sharing handlers are independent, ordered, or set the same flags. -/
theorem sharing_pairs :
    ∀ a ∈ sharing, ∀ b ∈ sharing,
      a = b ∨ a.independent b = true ∨ orderMatters a b = true ∨
        (a, b) ∈ sameFlags ∨ (b, a) ∈ sameFlags := by
  decide

end Handler

/-- A set-once name handler sets `use_pid_dir` or nothing, so it commutes with setting it. -/
theorem onceNameHandler_usePidDir
    {what : String}
    {get : GlobalState → Option String}
    {set : GlobalState → Option String → GlobalState}
    (getEq : ∀ s, get { s with usePidDir := true } = get s)
    (setEq : ∀ s v, set { s with usePidDir := true } v = { set s v with usePidDir := true })
    (env : Env)
    (s : GlobalState)
    (strvec : Strvec) :
    (onceNameHandler what get set env { s with usePidDir := true } strvec).state =
      { (onceNameHandler what get set env s strvec).state with usePidDir := true } := by
  unfold onceNameHandler
  dsimp only
  rw [getEq]
  split_ifs
  · rfl
  · cases get s
    · simp only [Outcome.done_state, setEq]
    · rfl

/-- `instance` commutes with `use_pid_dir`. -/
theorem instance_usePidDir_commute : Commute instanceHandler usePidDirHandler :=
  fun env s strvecFirst _ =>
    (@onceNameHandler_usePidDir "instance" GlobalState.instanceName
      (fun s v => { s with instanceName := v }) (fun _ => rfl) (fun _ _ => rfl) env s
      strvecFirst).symm

/-- `net_namespace` commutes with `use_pid_dir`. -/
theorem netNamespace_usePidDir_commute : Commute netNamespaceHandler usePidDirHandler :=
  fun env s strvecFirst _ =>
    (@onceNameHandler_usePidDir "net_namespace" GlobalState.networkNamespace
      (fun s v => { s with networkNamespace := v }) (fun _ => rfl) (fun _ _ => rfl) env s
      strvecFirst).symm

/-- `instance` and `net_namespace` set different names and the same flag. -/
theorem instance_netNamespace_commute : Commute instanceHandler netNamespaceHandler := by
  intro env s strvecFirst strvecSecond
  simp only [instanceHandler, netNamespaceHandler, onceNameHandler]
  cases reload : s.reload
  · cases instanceName : s.instanceName <;> cases networkNamespace : s.networkNamespace <;>
      simp only [reload, instanceName, networkNamespace, Bool.false_eq_true, ↓reduceIte,
        Outcome.done_state, Outcome.info_state]
  · simp only [reload, ↓reduceIte, Outcome.done_state]

/-- `enable_snmp_rfc` sets what `enable_snmp_rfcv2` sets, and possibly more. -/
theorem snmpRfc_rfcv2_commute : Commute snmpRfcHandler snmpRfcv2Handler := by
  intro env s _ _
  simp only [snmpRfcHandler, snmpRfcv2Handler, flagHandler, Outcome.done_state]
  split_ifs <;> rfl

/-- `enable_snmp_rfc` sets what `enable_snmp_rfcv3` sets, and possibly more. -/
theorem snmpRfc_rfcv3_commute : Commute snmpRfcHandler snmpRfcv3Handler := by
  intro env s _ _
  simp only [snmpRfcHandler, snmpRfcv3Handler, flagHandler, Outcome.done_state]
  split_ifs <;> rfl

namespace Handler

/-- The pairs that set the same flags commute. -/
theorem sameFlags_commute : ∀ pair ∈ sameFlags, Commute pair.1.fn pair.2.fn := by
  simp only [sameFlags, List.mem_cons, List.mem_singleton, List.not_mem_nil, or_false]
  rintro _ (rfl | rfl | rfl | rfl | rfl)
  · exact instance_netNamespace_commute
  · exact instance_usePidDir_commute
  · exact netNamespace_usePidDir_commute
  · exact snmpRfc_rfcv2_commute
  · exact snmpRfc_rfcv3_commute

/-- Two different handlers commute unless one reads a field the other writes. -/
theorem commute
    (a b : Handler)
    (distinct : a ≠ b)
    (unordered : orderMatters a b = false) :
    Commute a.fn b.fn := by
  cases independent : a.independent b
  · obtain ⟨shareA, shareB⟩ := sharing_of_dependent distinct independent
    rcases sharing_pairs a shareA b shareB with same | indep | ordered | flags | flags
    · exact absurd same distinct
    · exact absurd (independent.symm.trans indep) Bool.false_ne_true
    · exact absurd (unordered.symm.trans ordered) Bool.false_ne_true
    · exact sameFlags_commute _ flags
    · exact (sameFlags_commute _ flags).symm
  · exact commute_of_independent independent

end Handler

/-- Whether an entry of the table is installed under one of its handler's names. -/
def Keyword.named (keyword : Keyword) : Bool :=
  match keyword.handler with
  | some handler => handler.names.contains keyword.name
  | none => true

/-- Gating an entry list by a build option keeps every entry named. -/
theorem all_named_gated
    {entries : List Keyword}
    (option : Bool)
    (named : entries.all Keyword.named = true) :
    (gated option entries).all Keyword.named = true := by
  cases option <;> simp [gated, named]

/-- Every entry of the table, in every build, is installed under its handler's names. -/
theorem initGlobalKeywords_named (build : BuildOptions) (active : Bool) :
    (initGlobalKeywords build active).all Keyword.named = true := by
  simp only [initGlobalKeywords, List.all_append, Bool.and_eq_true]
  -- each segment is a concrete list, possibly gated, possibly nesting gated lists
  repeat' constructor
  all_goals first
    | rfl
    | (apply all_named_gated; rfl)
    | (apply all_named_gated
       simp only [List.all_append, Bool.and_eq_true]
       repeat' constructor
       all_goals first | rfl | (apply all_named_gated; rfl))

namespace Handler

/-- The handler a table of named entries holds for a name is installed under that name. -/
theorem mem_names_of_lookup
    {table : List Keyword}
    {name : String}
    {handler : Handler}
    (allNamed : table.all Keyword.named = true)
    (found : lookupHandler table name = some handler) :
    name ∈ handler.names := by
  unfold lookupHandler at found
  split at found
  · next keyword lookedUp =>
      have sameName : keyword.name = name := by simpa using List.find?_some lookedUp
      have installed : keyword.handler = some handler := by
        split at found
        · exact found
        · exact absurd found (Option.some_ne_none handler).symm
      have named := List.all_eq_true.mp allNamed keyword (List.mem_of_find?_eq_some lookedUp)
      simp only [Keyword.named, installed, List.elem_eq_mem, decide_eq_true_eq,
        List.contains] at named
      rwa [← sameName]
  · exact absurd found (Option.some_ne_none handler).symm

/-- Only the alias `enable_snmp_keepalived` gives a handler a second name. -/
theorem eq_of_mem_names
    {handler : Handler}
    {first second : String}
    (firstNamed : first ∈ handler.names)
    (secondNamed : second ∈ handler.names)
    (notAlias : handler ≠ .snmpVrrpHandler) :
    first = second := by
  obtain ⟨only, namesEq⟩ : ∃ only, handler.names = [only] := by
    cases handler <;> first | exact absurd rfl notAlias | exact ⟨_, rfl⟩
  rw [namesEq, List.mem_singleton] at firstNamed secondNamed
  exact firstNamed.trans secondNamed.symm

end Handler

/-- Directive names whose lines keep their order: the second reads a field the first writes. -/
def orderedDirectives : List (String × String) :=
  [("dynamic_interfaces", "default_interface"),
    ("vrrp_mcast_group4", "vrrp_mcast_group6"),
    ("script_user", "notify_fifo_script"),
    ("script_user", "vrrp_notify_fifo_script"),
    ("script_user", "lvs_notify_fifo_script")]

/-- Whether the order of two directives' lines can matter. -/
def directiveOrderMatters (first second : String) : Bool :=
  decide ((first, second) ∈ orderedDirectives ∨ (second, first) ∈ orderedDirectives)

/-- Handlers whose order matters are installed under directive names whose order matters. -/
theorem directiveOrderMatters_of_orderMatters
    {a b : Handler}
    {first second : String}
    (ordered : a.orderMatters b = true)
    (firstNamed : first ∈ a.names)
    (secondNamed : second ∈ b.names) :
    directiveOrderMatters first second = true := by
  have named : ∀ pair ∈ Handler.readsAfter, ∀ first ∈ pair.1.names,
      ∀ second ∈ pair.2.names, (first, second) ∈ orderedDirectives := by
    decide
  simp only [Handler.orderMatters, directiveOrderMatters, decide_eq_true_eq] at ordered ⊢
  rcases ordered with forward | backward
  · exact .inl (named _ forward _ firstNamed _ secondNamed)
  · exact .inr (named _ backward _ secondNamed _ firstNamed)

/-- One line, given the handler its directive looks up. -/
theorem dispatch_of_lookup
    {env : Env}
    {table : List Keyword}
    {s : GlobalState}
    {name : String}
    {args : List String}
    {handler : Handler}
    (found : lookupHandler table name = some handler) :
    dispatch env table s (name :: args) = handler.fn env s (name :: args) := by
  simp [dispatch, found]

/-- One line whose directive the table does not hold leaves the state alone. -/
theorem dispatch_of_lookup_none
    {env : Env}
    {table : List Keyword}
    {s : GlobalState}
    {name : String}
    {args : List String}
    (notFound : lookupHandler table name = none) :
    dispatch env table s (name :: args) = .done s := by
  simp [dispatch, notFound]

/--
Two lines of different directives, in any build, give the same state in either
order, unless one is `dynamic_interfaces` and the other `default_interface`,
one is `vrrp_mcast_group4` and the other `vrrp_mcast_group6`, or one is
`script_user` and the other sets a notify FIFO script.
-/
theorem dispatch_order_independent
    (env : Env)
    (build : BuildOptions)
    (active : Bool)
    (s : GlobalState)
    (first second : String)
    (firstArgs secondArgs : List String)
    (differ : first ≠ second)
    (unordered : directiveOrderMatters first second = false) :
    (dispatch env (initGlobalKeywords build active)
        (dispatch env (initGlobalKeywords build active) s (first :: firstArgs)).state
        (second :: secondArgs)).state =
      (dispatch env (initGlobalKeywords build active)
        (dispatch env (initGlobalKeywords build active) s (second :: secondArgs)).state
        (first :: firstArgs)).state := by
  cases foundFirst : lookupHandler (initGlobalKeywords build active) first with
  | none => simp only [dispatch_of_lookup_none foundFirst, Outcome.done_state]
  | some a =>
      cases foundSecond : lookupHandler (initGlobalKeywords build active) second with
      | none => simp only [dispatch_of_lookup_none foundSecond, Outcome.done_state]
      | some b =>
          simp only [dispatch_of_lookup foundFirst, dispatch_of_lookup foundSecond]
          have namedA :=
            Handler.mem_names_of_lookup (initGlobalKeywords_named build active) foundFirst
          have namedB :=
            Handler.mem_names_of_lookup (initGlobalKeywords_named build active) foundSecond
          by_cases same : a = b
          · subst same
            by_cases isAlias : a = .snmpVrrpHandler
            · subst isAlias
              exact flagHandler_commute_self _ env s (first :: firstArgs) (second :: secondArgs)
            · exact absurd (Handler.eq_of_mem_names namedA namedB isAlias) differ
          · cases ordered : a.orderMatters b
            · exact Handler.commute a b same ordered env s _ _
            · have := directiveOrderMatters_of_orderMatters ordered namedA namedB
              exact absurd (unordered.symm.trans this) Bool.false_ne_true

/-- `vrrp_version 3` and `lvs_timeouts tcp 10` on the zeroed state, in either order. -/
theorem vrrpVersion_lvsTimeouts_order_independent :
    "vrrp_version" ≠ "lvs_timeouts" ∧
      directiveOrderMatters "vrrp_version" "lvs_timeouts" = false ∧
      (dispatch referenceEnv (initGlobalKeywords fullBuild true)
          (dispatch referenceEnv (initGlobalKeywords fullBuild true) zeroedState
            ["vrrp_version", "3"]).state ["lvs_timeouts", "tcp", "10"]).state =
        (dispatch referenceEnv (initGlobalKeywords fullBuild true)
          (dispatch referenceEnv (initGlobalKeywords fullBuild true) zeroedState
            ["lvs_timeouts", "tcp", "10"]).state ["vrrp_version", "3"]).state :=
  ⟨by decide, by decide,
    dispatch_order_independent referenceEnv fullBuild true zeroedState _ _ _ _ (by decide)
      (by decide)⟩

/--
With dynamic interfaces off, `default_interface eth0` finds no interface unless
`dynamic_interfaces` came first: the two orders leave different default
interfaces.
-/
theorem defaultInterface_after_dynamicInterfaces_differs :
    (parsePass referenceEnv (initGlobalKeywords fullBuild true) zeroedState
        [["dynamic_interfaces"], ["default_interface", "eth0"]]).defaultIfp ≠
      (parsePass referenceEnv (initGlobalKeywords fullBuild true) zeroedState
        [["default_interface", "eth0"], ["dynamic_interfaces"]]).defaultIfp := by
  decide

end Keepalived
