import Keepalived.SystemHandlers

namespace Keepalived

/-!
# The keyword table and the parse pass

`init_global_keywords` installs each directive name with a function pointer.
`Handler` names those functions, one constructor each, and `Handler.fn` is the
modelled function.  The table is a list of `Keyword`s, gated by the build
options as the source's `#ifdef`s gate it.

A parse pass looks each line's first token up in the table and calls the
handler of an active entry; a line the table does not know is reported by the
parser, outside this file, and leaves the state as it is.
-/

/-- The handler functions `init_global_keywords` installs. -/
inductive Handler where
  | usePollingHandler
  | netNamespaceHandler
  | namespaceIpsetsHandler
  | usePidDirHandler
  | instanceHandler
  | childWaitHandler
  | routeridHandler
  | emailfromHandler
  | smtpserverHandler
  | smtpheloHandler
  | smtptoHandler
  | emailHandler
  | smtpAlertHandler
  | smtpAlertVrrpHandler
  | smtpAlertCheckerHandler
  | dynamicInterfacesHandler
  | noEmailFaultsHandler
  | defaultInterfaceHandler
  | lvsTimeouts
  | lvsFlushHandler
  | lvsSyncdHandler
  | vrrpMcastGroup4Handler
  | vrrpMcastGroup6Handler
  | vrrpGarpDelayHandler
  | vrrpGarpRepHandler
  | vrrpGarpRefreshHandler
  | vrrpGarpRefreshRepHandler
  | vrrpGarpLowerPrioDelayHandler
  | vrrpGarpLowerPrioRepHandler
  | vrrpGarpIntervalHandler
  | vrrpGnaIntervalHandler
  | vrrpLowerPrioNoAdvertHandler
  | vrrpHigherPrioSendAdvertHandler
  | vrrpVersionHandler
  | vrrpIptablesHandler
  | vrrpIpsetsHandler
  | vrrpCheckUnicastSrcHandler
  | vrrpCheckAdvAddrHandler
  | vrrpStrictHandler
  | vrrpPrioHandler
  | vrrpNoSwapHandler
  | vrrpRtPriorityHandler
  | vrrpRtRlimitHandler
  | globalNotifyFifo
  | globalNotifyFifoScript
  | vrrpNotifyFifo
  | vrrpNotifyFifoScript
  | lvsNotifyFifo
  | lvsNotifyFifoScript
  | checkerPrioHandler
  | checkerNoSwapHandler
  | checkerRtPriorityHandler
  | checkerRtRlimitHandler
  | bfdPrioHandler
  | bfdNoSwapHandler
  | bfdRtPriorityHandler
  | bfdRtRlimitHandler
  | snmpSocketHandler
  | trapHandler
  | snmpVrrpHandler
  | snmpRfcHandler
  | snmpRfcv2Handler
  | snmpRfcv3Handler
  | snmpCheckerHandler
  | enableDbusHandler
  | dbusServiceNameHandler
  | scriptUserHandler
  | scriptSecurityHandler
  | vrrpNetlinkCmdRcvBufsHandler
  | vrrpNetlinkCmdRcvBufsForceHandler
  | vrrpNetlinkMonitorRcvBufsHandler
  | vrrpNetlinkMonitorRcvBufsForceHandler
  | lvsNetlinkCmdRcvBufsHandler
  | lvsNetlinkCmdRcvBufsForceHandler
  | lvsNetlinkMonitorRcvBufsHandler
  | lvsNetlinkMonitorRcvBufsForceHandler
  deriving DecidableEq, Repr

namespace Handler

/-- The modelled function behind each pointer. -/
def fn : Handler → HandlerFn
  | .usePollingHandler => Keepalived.usePollingHandler
  | .netNamespaceHandler => Keepalived.netNamespaceHandler
  | .namespaceIpsetsHandler => Keepalived.namespaceIpsetsHandler
  | .usePidDirHandler => Keepalived.usePidDirHandler
  | .instanceHandler => Keepalived.instanceHandler
  | .childWaitHandler => Keepalived.childWaitHandler
  | .routeridHandler => Keepalived.routeridHandler
  | .emailfromHandler => Keepalived.emailfromHandler
  | .smtpserverHandler => Keepalived.smtpserverHandler
  | .smtpheloHandler => Keepalived.smtpheloHandler
  | .smtptoHandler => Keepalived.smtptoHandler
  | .emailHandler => Keepalived.emailHandler
  | .smtpAlertHandler => Keepalived.smtpAlertHandler
  | .smtpAlertVrrpHandler => Keepalived.smtpAlertVrrpHandler
  | .smtpAlertCheckerHandler => Keepalived.smtpAlertCheckerHandler
  | .dynamicInterfacesHandler => Keepalived.dynamicInterfacesHandler
  | .noEmailFaultsHandler => Keepalived.noEmailFaultsHandler
  | .defaultInterfaceHandler => Keepalived.defaultInterfaceHandler
  | .lvsTimeouts => Keepalived.lvsTimeouts
  | .lvsFlushHandler => Keepalived.lvsFlushHandler
  | .lvsSyncdHandler => Keepalived.lvsSyncdHandler
  | .vrrpMcastGroup4Handler => Keepalived.vrrpMcastGroup4Handler
  | .vrrpMcastGroup6Handler => Keepalived.vrrpMcastGroup6Handler
  | .vrrpGarpDelayHandler => Keepalived.vrrpGarpDelayHandler
  | .vrrpGarpRepHandler => Keepalived.vrrpGarpRepHandler
  | .vrrpGarpRefreshHandler => Keepalived.vrrpGarpRefreshHandler
  | .vrrpGarpRefreshRepHandler => Keepalived.vrrpGarpRefreshRepHandler
  | .vrrpGarpLowerPrioDelayHandler => Keepalived.vrrpGarpLowerPrioDelayHandler
  | .vrrpGarpLowerPrioRepHandler => Keepalived.vrrpGarpLowerPrioRepHandler
  | .vrrpGarpIntervalHandler => Keepalived.vrrpGarpIntervalHandler
  | .vrrpGnaIntervalHandler => Keepalived.vrrpGnaIntervalHandler
  | .vrrpLowerPrioNoAdvertHandler => Keepalived.vrrpLowerPrioNoAdvertHandler
  | .vrrpHigherPrioSendAdvertHandler => Keepalived.vrrpHigherPrioSendAdvertHandler
  | .vrrpVersionHandler => Keepalived.vrrpVersionHandler
  | .vrrpIptablesHandler => Keepalived.vrrpIptablesHandler
  | .vrrpIpsetsHandler => Keepalived.vrrpIpsetsHandler
  | .vrrpCheckUnicastSrcHandler => Keepalived.vrrpCheckUnicastSrcHandler
  | .vrrpCheckAdvAddrHandler => Keepalived.vrrpCheckAdvAddrHandler
  | .vrrpStrictHandler => Keepalived.vrrpStrictHandler
  | .vrrpPrioHandler => Keepalived.vrrpPrioHandler
  | .vrrpNoSwapHandler => Keepalived.vrrpNoSwapHandler
  | .vrrpRtPriorityHandler => Keepalived.vrrpRtPriorityHandler
  | .vrrpRtRlimitHandler => Keepalived.vrrpRtRlimitHandler
  | .globalNotifyFifo => Keepalived.globalNotifyFifo
  | .globalNotifyFifoScript => Keepalived.globalNotifyFifoScript
  | .vrrpNotifyFifo => Keepalived.vrrpNotifyFifo
  | .vrrpNotifyFifoScript => Keepalived.vrrpNotifyFifoScript
  | .lvsNotifyFifo => Keepalived.lvsNotifyFifo
  | .lvsNotifyFifoScript => Keepalived.lvsNotifyFifoScript
  | .checkerPrioHandler => Keepalived.checkerPrioHandler
  | .checkerNoSwapHandler => Keepalived.checkerNoSwapHandler
  | .checkerRtPriorityHandler => Keepalived.checkerRtPriorityHandler
  | .checkerRtRlimitHandler => Keepalived.checkerRtRlimitHandler
  | .bfdPrioHandler => Keepalived.bfdPrioHandler
  | .bfdNoSwapHandler => Keepalived.bfdNoSwapHandler
  | .bfdRtPriorityHandler => Keepalived.bfdRtPriorityHandler
  | .bfdRtRlimitHandler => Keepalived.bfdRtRlimitHandler
  | .snmpSocketHandler => Keepalived.snmpSocketHandler
  | .trapHandler => Keepalived.trapHandler
  | .snmpVrrpHandler => Keepalived.snmpVrrpHandler
  | .snmpRfcHandler => Keepalived.snmpRfcHandler
  | .snmpRfcv2Handler => Keepalived.snmpRfcv2Handler
  | .snmpRfcv3Handler => Keepalived.snmpRfcv3Handler
  | .snmpCheckerHandler => Keepalived.snmpCheckerHandler
  | .enableDbusHandler => Keepalived.enableDbusHandler
  | .dbusServiceNameHandler => Keepalived.dbusServiceNameHandler
  | .scriptUserHandler => Keepalived.scriptUserHandler
  | .scriptSecurityHandler => Keepalived.scriptSecurityHandler
  | .vrrpNetlinkCmdRcvBufsHandler => Keepalived.vrrpNetlinkCmdRcvBufsHandler
  | .vrrpNetlinkCmdRcvBufsForceHandler => Keepalived.vrrpNetlinkCmdRcvBufsForceHandler
  | .vrrpNetlinkMonitorRcvBufsHandler => Keepalived.vrrpNetlinkMonitorRcvBufsHandler
  | .vrrpNetlinkMonitorRcvBufsForceHandler => Keepalived.vrrpNetlinkMonitorRcvBufsForceHandler
  | .lvsNetlinkCmdRcvBufsHandler => Keepalived.lvsNetlinkCmdRcvBufsHandler
  | .lvsNetlinkCmdRcvBufsForceHandler => Keepalived.lvsNetlinkCmdRcvBufsForceHandler
  | .lvsNetlinkMonitorRcvBufsHandler => Keepalived.lvsNetlinkMonitorRcvBufsHandler
  | .lvsNetlinkMonitorRcvBufsForceHandler => Keepalived.lvsNetlinkMonitorRcvBufsForceHandler

end Handler

/--
One installed keyword.  `root` tells `install_keyword_root` from
`install_keyword`; an `install_keyword` entry belongs to `global_defs` and is
reached only when `global_defs` is active, so it carries the same `active`.
-/
structure Keyword where
  name : String
  handler : Option Handler
  root : Bool
  active : Bool
  deriving DecidableEq, Repr

/-- The entries a build option contributes, or none. -/
def gated (option : Bool) (entries : List Keyword) : List Keyword :=
  if option then entries else []

/-- `init_global_keywords(global_active)`. -/
def initGlobalKeywords (build : BuildOptions) (globalActive : Bool) : List Keyword :=
  let root := fun name handler => Keyword.mk name (some handler) true globalActive
  let sub := fun name handler => Keyword.mk name (some handler) false globalActive
  let vrrp := build.withVrrp
  let lvs := build.withLvs
  let rt := build.haveSchedRt
  let rlimit := build.haveSchedRt && build.haveDeclRlimitRttime
  let snmp := build.withSnmp
  [root "linkbeat_use_polling" .usePollingHandler] ++
  gated build.haveDeclCloneNewnet
    [root "net_namespace" .netNamespaceHandler,
      root "namespace_with_ipsets" .namespaceIpsetsHandler] ++
  [root "use_pid_dir" .usePidDirHandler,
    root "instance" .instanceHandler,
    root "child_wait_time" .childWaitHandler,
    Keyword.mk "global_defs" none true globalActive,
    sub "router_id" .routeridHandler,
    sub "notification_email_from" .emailfromHandler,
    sub "smtp_server" .smtpserverHandler,
    sub "smtp_helo_name" .smtpheloHandler,
    sub "smtp_connect_timeout" .smtptoHandler,
    sub "notification_email" .emailHandler,
    sub "smtp_alert" .smtpAlertHandler] ++
  gated vrrp [sub "smtp_alert_vrrp" .smtpAlertVrrpHandler] ++
  gated lvs [sub "smtp_alert_checker" .smtpAlertCheckerHandler] ++
  gated vrrp
    [sub "dynamic_interfaces" .dynamicInterfacesHandler,
      sub "no_email_faults" .noEmailFaultsHandler,
      sub "default_interface" .defaultInterfaceHandler] ++
  gated lvs
    ([sub "lvs_timeouts" .lvsTimeouts,
      sub "lvs_flush" .lvsFlushHandler] ++
    gated vrrp [sub "lvs_sync_daemon" .lvsSyncdHandler]) ++
  gated vrrp
    ([sub "vrrp_mcast_group4" .vrrpMcastGroup4Handler,
      sub "vrrp_mcast_group6" .vrrpMcastGroup6Handler,
      sub "vrrp_garp_master_delay" .vrrpGarpDelayHandler,
      sub "vrrp_garp_master_repeat" .vrrpGarpRepHandler,
      sub "vrrp_garp_master_refresh" .vrrpGarpRefreshHandler,
      sub "vrrp_garp_master_refresh_repeat" .vrrpGarpRefreshRepHandler,
      sub "vrrp_garp_lower_prio_delay" .vrrpGarpLowerPrioDelayHandler,
      sub "vrrp_garp_lower_prio_repeat" .vrrpGarpLowerPrioRepHandler,
      sub "vrrp_garp_interval" .vrrpGarpIntervalHandler,
      sub "vrrp_gna_interval" .vrrpGnaIntervalHandler,
      sub "vrrp_lower_prio_no_advert" .vrrpLowerPrioNoAdvertHandler,
      sub "vrrp_higher_prio_send_advert" .vrrpHigherPrioSendAdvertHandler,
      sub "vrrp_version" .vrrpVersionHandler,
      sub "vrrp_iptables" .vrrpIptablesHandler] ++
    gated build.haveLibipset [sub "vrrp_ipsets" .vrrpIpsetsHandler] ++
    [sub "vrrp_check_unicast_src" .vrrpCheckUnicastSrcHandler,
      sub "vrrp_skip_check_adv_addr" .vrrpCheckAdvAddrHandler,
      sub "vrrp_strict" .vrrpStrictHandler,
      sub "vrrp_priority" .vrrpPrioHandler,
      sub "vrrp_no_swap" .vrrpNoSwapHandler] ++
    gated rt [sub "vrrp_rt_priority" .vrrpRtPriorityHandler] ++
    gated rlimit [sub "vrrp_rlimit_rtime" .vrrpRtRlimitHandler]) ++
  [sub "notify_fifo" .globalNotifyFifo,
    sub "notify_fifo_script" .globalNotifyFifoScript] ++
  gated vrrp
    [sub "vrrp_notify_fifo" .vrrpNotifyFifo,
      sub "vrrp_notify_fifo_script" .vrrpNotifyFifoScript] ++
  gated lvs
    ([sub "lvs_notify_fifo" .lvsNotifyFifo,
      sub "lvs_notify_fifo_script" .lvsNotifyFifoScript,
      sub "checker_priority" .checkerPrioHandler,
      sub "checker_no_swap" .checkerNoSwapHandler] ++
    gated rt [sub "checker_rt_priority" .checkerRtPriorityHandler] ++
    gated rlimit [sub "checker_rlimit_rtime" .checkerRtRlimitHandler]) ++
  gated build.withBfd
    ([sub "bfd_priority" .bfdPrioHandler,
      sub "bfd_no_swap" .bfdNoSwapHandler] ++
    gated rt [sub "bfd_rt_priority" .bfdRtPriorityHandler] ++
    gated rlimit [sub "bfd_rlimit_rtime" .bfdRtRlimitHandler]) ++
  gated snmp
    ([sub "snmp_socket" .snmpSocketHandler,
      sub "enable_traps" .trapHandler] ++
    gated build.withSnmpVrrp
      [sub "enable_snmp_vrrp" .snmpVrrpHandler,
        sub "enable_snmp_keepalived" .snmpVrrpHandler] ++
    gated build.withSnmpRfc [sub "enable_snmp_rfc" .snmpRfcHandler] ++
    gated build.withSnmpRfcv2 [sub "enable_snmp_rfcv2" .snmpRfcv2Handler] ++
    gated build.withSnmpRfcv3 [sub "enable_snmp_rfcv3" .snmpRfcv3Handler] ++
    gated build.withSnmpChecker [sub "enable_snmp_checker" .snmpCheckerHandler]) ++
  gated build.withDbus
    [sub "enable_dbus" .enableDbusHandler,
      sub "dbus_service_name" .dbusServiceNameHandler] ++
  [sub "script_user" .scriptUserHandler,
    sub "enable_script_security" .scriptSecurityHandler] ++
  gated vrrp
    [sub "vrrp_netlink_cmd_rcv_bufs" .vrrpNetlinkCmdRcvBufsHandler,
      sub "vrrp_netlink_cmd_rcv_bufs_force" .vrrpNetlinkCmdRcvBufsForceHandler,
      sub "vrrp_netlink_monitor_rcv_bufs" .vrrpNetlinkMonitorRcvBufsHandler,
      sub "vrrp_netlink_monitor_rcv_bufs_force" .vrrpNetlinkMonitorRcvBufsForceHandler] ++
  gated lvs
    [sub "lvs_netlink_cmd_rcv_bufs" .lvsNetlinkCmdRcvBufsHandler,
      sub "lvs_netlink_cmd_rcv_bufs_force" .lvsNetlinkCmdRcvBufsForceHandler,
      sub "lvs_netlink_monitor_rcv_bufs" .lvsNetlinkMonitorRcvBufsHandler,
      sub "lvs_netlink_monitor_rcv_bufs_force" .lvsNetlinkMonitorRcvBufsForceHandler]

/-- The handler the table holds for a directive name, if the entry is active. -/
def lookupHandler (table : List Keyword) (name : String) : Option Handler :=
  match table.find? fun keyword => keyword.name == name with
  | some keyword => if keyword.active then keyword.handler else none
  | none => none

/-- One line of a parse pass: the handler of its first token, if any. -/
def dispatch (env : Env) (table : List Keyword) (s : GlobalState) (strvec : Strvec) :
    Outcome :=
  match strvec.head? >>= lookupHandler table with
  | some handler => handler.fn env s strvec
  | none => .done s

/-- A parse pass over lines, one after another. -/
def parsePass (env : Env) (table : List Keyword) (s : GlobalState) (lines : List Strvec) :
    GlobalState :=
  lines.foldl (fun state strvec => (dispatch env table state strvec).state) s

/-- A property every handler keeps is kept by one line, whatever its directive. -/
theorem dispatch_invariant
    (P : GlobalState → Prop)
    {env : Env}
    (handlersKeep : ∀ (handler : Handler) s strvec, P s → P (handler.fn env s strvec).state)
    (table : List Keyword)
    (s : GlobalState)
    (strvec : Strvec)
    (holds : P s) :
    P (dispatch env table s strvec).state := by
  unfold dispatch
  split
  · exact handlersKeep _ s strvec holds
  · exact holds

/-- Run lemma: a property every line keeps holds after a whole parse pass. -/
theorem parsePass_invariant
    (P : GlobalState → Prop)
    {env : Env}
    {table : List Keyword}
    (linesKeep : ∀ s strvec, P s → P (dispatch env table s strvec).state)
    (lines : List Strvec) :
    ∀ s, P s → P (parsePass env table s lines) := by
  induction lines with
  | nil => exact fun _ holds => holds
  | cons strvec rest inductionHypothesis =>
      exact fun s holds => inductionHypothesis _ (linesKeep s strvec holds)

end Keepalived
