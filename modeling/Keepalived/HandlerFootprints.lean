import Keepalived.Footprint

namespace Keepalived

/-!
# The footprint of every handler

`Handler.reads` and `Handler.writes` list, for each handler of the table, the
fields it may read and write; `Handler.footprint` proves them.  A field that a
handler writes on some paths only is also among its reads, since on the other
paths it keeps the value it had.  Handlers that branch on the state or loop are
proved through family lemmas stated with `Keeps`; the rest hold by `rfl`.
-/

namespace Handler

/-- The fields a handler may read, its conditional writes included. -/
def reads : Handler → List Field
  | .usePollingHandler => []
  | .netNamespaceHandler => [.reload, .networkNamespace, .usePidDir]
  | .namespaceIpsetsHandler => []
  | .usePidDirHandler => []
  | .instanceHandler => [.reload, .instanceName, .usePidDir]
  | .childWaitHandler => [.childWaitTime]
  | .routeridHandler => []
  | .emailfromHandler => []
  | .smtpserverHandler => [.smtpServer]
  | .smtpheloHandler => [.smtpHeloName]
  | .smtptoHandler => []
  | .emailHandler => [.email]
  | .smtpAlertHandler => [.smtpAlert]
  | .smtpAlertVrrpHandler => [.smtpAlertVrrp]
  | .smtpAlertCheckerHandler => [.smtpAlertChecker]
  | .dynamicInterfacesHandler => []
  | .noEmailFaultsHandler => []
  | .defaultInterfaceHandler => [.dynamicInterfaces, .ifQueue, .defaultIfp]
  | .lvsTimeouts => [.lvsTcpTimeout, .lvsTcpfinTimeout, .lvsUdpTimeout]
  | .lvsFlushHandler => []
  | .lvsSyncdHandler => [.lvsSyncd]
  | .vrrpMcastGroup4Handler => [.vrrpMcastGroup4, .vrrpMcastGroup6]
  | .vrrpMcastGroup6Handler => [.vrrpMcastGroup6]
  | .vrrpGarpDelayHandler => []
  | .vrrpGarpRepHandler => []
  | .vrrpGarpRefreshHandler => []
  | .vrrpGarpRefreshRepHandler => []
  | .vrrpGarpLowerPrioDelayHandler => []
  | .vrrpGarpLowerPrioRepHandler => []
  | .vrrpGarpIntervalHandler => []
  | .vrrpGnaIntervalHandler => []
  | .vrrpLowerPrioNoAdvertHandler => [.vrrpLowerPrioNoAdvert]
  | .vrrpHigherPrioSendAdvertHandler => [.vrrpHigherPrioSendAdvert]
  | .vrrpVersionHandler => [.vrrpVersion]
  | .vrrpIptablesHandler => []
  | .vrrpIpsetsHandler =>
      [.usingIpsets, .vrrpIpsetAddress, .vrrpIpsetAddress6, .vrrpIpsetAddressIface6]
  | .vrrpCheckUnicastSrcHandler => []
  | .vrrpCheckAdvAddrHandler => []
  | .vrrpStrictHandler => []
  | .vrrpPrioHandler => []
  | .vrrpNoSwapHandler => []
  | .vrrpRtPriorityHandler => [.vrrpRealtimePriority]
  | .vrrpRtRlimitHandler => []
  | .globalNotifyFifo => [.notifyFifoName]
  | .globalNotifyFifoScript => [.notifyFifoScript, .defaultScriptUser]
  | .vrrpNotifyFifo => [.vrrpNotifyFifoName]
  | .vrrpNotifyFifoScript => [.vrrpNotifyFifoScript, .defaultScriptUser]
  | .lvsNotifyFifo => [.lvsNotifyFifoName]
  | .lvsNotifyFifoScript => [.lvsNotifyFifoScript, .defaultScriptUser]
  | .checkerPrioHandler => []
  | .checkerNoSwapHandler => []
  | .checkerRtPriorityHandler => [.checkerRealtimePriority]
  | .checkerRtRlimitHandler => []
  | .bfdPrioHandler => []
  | .bfdNoSwapHandler => []
  | .bfdRtPriorityHandler => [.bfdRealtimePriority]
  | .bfdRtRlimitHandler => []
  | .snmpSocketHandler => [.snmpSocket]
  | .trapHandler => []
  | .snmpVrrpHandler => []
  | .snmpRfcHandler => [.enableSnmpRfcv2, .enableSnmpRfcv3]
  | .snmpRfcv2Handler => []
  | .snmpRfcv3Handler => []
  | .snmpCheckerHandler => []
  | .enableDbusHandler => []
  | .dbusServiceNameHandler => []
  | .scriptUserHandler => [.defaultScriptUser]
  | .scriptSecurityHandler => []
  | .vrrpNetlinkCmdRcvBufsHandler => [.vrrpNetlinkCmdRcvBufs]
  | .vrrpNetlinkCmdRcvBufsForceHandler => [.vrrpNetlinkCmdRcvBufsForce]
  | .vrrpNetlinkMonitorRcvBufsHandler => [.vrrpNetlinkMonitorRcvBufs]
  | .vrrpNetlinkMonitorRcvBufsForceHandler => [.vrrpNetlinkMonitorRcvBufsForce]
  | .lvsNetlinkCmdRcvBufsHandler => [.lvsNetlinkCmdRcvBufs]
  | .lvsNetlinkCmdRcvBufsForceHandler => [.lvsNetlinkCmdRcvBufsForce]
  | .lvsNetlinkMonitorRcvBufsHandler => [.lvsNetlinkMonitorRcvBufs]
  | .lvsNetlinkMonitorRcvBufsForceHandler => [.lvsNetlinkMonitorRcvBufsForce]

/-- The fields a handler may write. -/
def writes : Handler → List Field
  | .usePollingHandler => [.linkbeatUsePolling]
  | .netNamespaceHandler => [.networkNamespace, .usePidDir]
  | .namespaceIpsetsHandler => [.namespaceWithIpsets]
  | .usePidDirHandler => [.usePidDir]
  | .instanceHandler => [.instanceName, .usePidDir]
  | .childWaitHandler => [.childWaitTime]
  | .routeridHandler => [.routerId]
  | .emailfromHandler => [.emailFrom]
  | .smtpserverHandler => [.smtpServer]
  | .smtpheloHandler => [.smtpHeloName]
  | .smtptoHandler => [.smtpConnectionTo]
  | .emailHandler => [.email]
  | .smtpAlertHandler => [.smtpAlert]
  | .smtpAlertVrrpHandler => [.smtpAlertVrrp]
  | .smtpAlertCheckerHandler => [.smtpAlertChecker]
  | .dynamicInterfacesHandler => [.dynamicInterfaces]
  | .noEmailFaultsHandler => [.noEmailFaults]
  | .defaultInterfaceHandler => [.ifQueue, .defaultIfp]
  | .lvsTimeouts => [.lvsTcpTimeout, .lvsTcpfinTimeout, .lvsUdpTimeout]
  | .lvsFlushHandler => [.lvsFlush]
  | .lvsSyncdHandler => [.lvsSyncd]
  | .vrrpMcastGroup4Handler => [.vrrpMcastGroup4, .vrrpMcastGroup6]
  | .vrrpMcastGroup6Handler => [.vrrpMcastGroup6]
  | .vrrpGarpDelayHandler => [.vrrpGarpDelay]
  | .vrrpGarpRepHandler => [.vrrpGarpRep]
  | .vrrpGarpRefreshHandler => [.vrrpGarpRefresh]
  | .vrrpGarpRefreshRepHandler => [.vrrpGarpRefreshRep]
  | .vrrpGarpLowerPrioDelayHandler => [.vrrpGarpLowerPrioDelay]
  | .vrrpGarpLowerPrioRepHandler => [.vrrpGarpLowerPrioRep]
  | .vrrpGarpIntervalHandler => [.vrrpGarpInterval]
  | .vrrpGnaIntervalHandler => [.vrrpGnaInterval]
  | .vrrpLowerPrioNoAdvertHandler => [.vrrpLowerPrioNoAdvert]
  | .vrrpHigherPrioSendAdvertHandler => [.vrrpHigherPrioSendAdvert]
  | .vrrpVersionHandler => [.vrrpVersion]
  | .vrrpIptablesHandler => [.vrrpIptablesInchain, .vrrpIptablesOutchain]
  | .vrrpIpsetsHandler =>
      [.usingIpsets, .vrrpIpsetAddress, .vrrpIpsetAddress6, .vrrpIpsetAddressIface6]
  | .vrrpCheckUnicastSrcHandler => [.vrrpCheckUnicastSrc]
  | .vrrpCheckAdvAddrHandler => [.vrrpSkipCheckAdvAddr]
  | .vrrpStrictHandler => [.vrrpStrict]
  | .vrrpPrioHandler => [.vrrpProcessPriority]
  | .vrrpNoSwapHandler => [.vrrpNoSwap]
  | .vrrpRtPriorityHandler => [.vrrpRealtimePriority]
  | .vrrpRtRlimitHandler => [.vrrpRlimitRt]
  | .globalNotifyFifo => [.notifyFifoName]
  | .globalNotifyFifoScript => [.notifyFifoScript]
  | .vrrpNotifyFifo => [.vrrpNotifyFifoName]
  | .vrrpNotifyFifoScript => [.vrrpNotifyFifoScript]
  | .lvsNotifyFifo => [.lvsNotifyFifoName]
  | .lvsNotifyFifoScript => [.lvsNotifyFifoScript]
  | .checkerPrioHandler => [.checkerProcessPriority]
  | .checkerNoSwapHandler => [.checkerNoSwap]
  | .checkerRtPriorityHandler => [.checkerRealtimePriority]
  | .checkerRtRlimitHandler => [.checkerRlimitRt]
  | .bfdPrioHandler => [.bfdProcessPriority]
  | .bfdNoSwapHandler => [.bfdNoSwap]
  | .bfdRtPriorityHandler => [.bfdRealtimePriority]
  | .bfdRtRlimitHandler => [.bfdRlimitRt]
  | .snmpSocketHandler => [.snmpSocket]
  | .trapHandler => [.enableTraps]
  | .snmpVrrpHandler => [.enableSnmpVrrp]
  | .snmpRfcHandler => [.enableSnmpRfcv2, .enableSnmpRfcv3]
  | .snmpRfcv2Handler => [.enableSnmpRfcv2]
  | .snmpRfcv3Handler => [.enableSnmpRfcv3]
  | .snmpCheckerHandler => [.enableSnmpChecker]
  | .enableDbusHandler => [.enableDbus]
  | .dbusServiceNameHandler => [.dbusServiceName]
  | .scriptUserHandler => [.defaultScriptUser]
  | .scriptSecurityHandler => [.scriptSecurity]
  | .vrrpNetlinkCmdRcvBufsHandler => [.vrrpNetlinkCmdRcvBufs]
  | .vrrpNetlinkCmdRcvBufsForceHandler => [.vrrpNetlinkCmdRcvBufsForce]
  | .vrrpNetlinkMonitorRcvBufsHandler => [.vrrpNetlinkMonitorRcvBufs]
  | .vrrpNetlinkMonitorRcvBufsForceHandler => [.vrrpNetlinkMonitorRcvBufsForce]
  | .lvsNetlinkCmdRcvBufsHandler => [.lvsNetlinkCmdRcvBufs]
  | .lvsNetlinkCmdRcvBufsForceHandler => [.lvsNetlinkCmdRcvBufsForce]
  | .lvsNetlinkMonitorRcvBufsHandler => [.lvsNetlinkMonitorRcvBufs]
  | .lvsNetlinkMonitorRcvBufsForceHandler => [.lvsNetlinkMonitorRcvBufsForce]

end Handler

/-- A run from a state that reads only `reads` and writes only `writes`. -/
def Keeps (reads writes : List Field) (run : GlobalState → Outcome) : Prop :=
  ∀ s t, (run (restore reads s t)).state = restore writes (run s).state (restore reads s t)

/-- A test on the line, not on the state, keeps to what both branches keep to. -/
theorem Keeps.ite
    {reads writes : List Field}
    {yes no : GlobalState → Outcome}
    (c : Prop) [Decidable c]
    (keepsYes : Keeps reads writes yes)
    (keepsNo : Keeps reads writes no) :
    Keeps reads writes fun s => if c then yes s else no s := by
  intro s t
  by_cases holds : c
  · simp only [if_pos holds]
    exact keepsYes s t
  · simp only [if_neg holds]
    exact keepsNo s t

/-- A run that keeps to its fields on every line is a footprint. -/
theorem Footprint.of_keeps
    {reads writes : List Field}
    {handler : HandlerFn}
    (keeps : ∀ env strvec, Keeps reads writes (handler env · strvec)) :
    Footprint reads writes handler :=
  fun env s t strvec => keeps env strvec s t

/-- Returning the state unchanged keeps to any fields that cover the writes. -/
theorem keeps_done
    {reads writes : List Field}
    (subset : ∀ f, f ∈ writes → f ∈ reads)
    (s t : GlobalState) :
    restore reads s t = restore writes s (restore reads s t) :=
  (restore_of_subset subset s t).symm

/-- A conditional store, of a value computed from the line, keeps to its field. -/
theorem keeps_ite
    {fields : List Field}
    {α : Type}
    {set : GlobalState → α → GlobalState}
    (keeps : ∀ s t v, set (restore fields s t) v = restore fields (set s v) (restore fields s t))
    (c : Prop) [Decidable c]
    (v : α)
    (s t : GlobalState) :
    (if c then set (restore fields s t) v else restore fields s t) =
      restore fields (if c then set s v else s) (restore fields s t) := by
  split
  · exact keeps s t v
  · simp

/-- `trueFalseHandler` keeps to the one field it sets. -/
theorem trueFalseHandler_footprint
    {f : Field}
    {invalid : String → String}
    {set : GlobalState → Bool → GlobalState}
    (keeps : ∀ s t v, set (restore [f] s t) v = restore [f] (set s v) (restore [f] s t)) :
    Footprint [f] [f] (trueFalseHandler invalid set) := by
  intro env s t strvec
  simp only [trueFalseHandler]
  split
  · cases env.checkTrueFalse (strvecSlot env strvec 1) with
    | none => simp
    | some res => exact keeps s t res
  · exact keeps s t true

/-- `rcvBufsHandler` keeps to the one field it sets. -/
theorem rcvBufsHandler_footprint
    {f : Field}
    {type : String}
    {set : GlobalState → Nat → GlobalState}
    (keeps : ∀ s t v, set (restore [f] s t) v = restore [f] (set s v) (restore [f] s t)) :
    Footprint [f] [f] (rcvBufsHandler type set) := by
  intro env s t strvec
  simp only [rcvBufsHandler]
  cases getNetlinkRcvBufsSize env strvec type
  exact keeps_ite keeps _ _ s t

/-- `rtPriorityHandler` keeps to the one field it sets. -/
theorem rtPriorityHandler_footprint
    {f : Field}
    {process : String}
    {set : GlobalState → Int → GlobalState}
    (keeps : ∀ s t v, set (restore [f] s t) v = restore [f] (set s v) (restore [f] s t)) :
    Footprint [f] [f] (rtPriorityHandler process set) := by
  intro env s t strvec
  simp only [rtPriorityHandler]
  cases getRealtimePriority env strvec process
  exact keeps_ite keeps _ _ s t

/-- `onceNameHandler` reads the reload flag and its name, and writes the name and `use_pid_dir`. -/
theorem onceNameHandler_footprint
    {nameField : Field}
    {what : String}
    {get : GlobalState → Option String}
    {set : GlobalState → Option String → GlobalState}
    (getEq : ∀ s t, get (restore [.reload, nameField, .usePidDir] s t) = get s)
    (keeps : ∀ s t v,
      { set (restore [.reload, nameField, .usePidDir] s t) v with usePidDir := true } =
        restore [nameField, .usePidDir] { set s v with usePidDir := true }
          (restore [.reload, nameField, .usePidDir] s t)) :
    Footprint [.reload, nameField, .usePidDir] [nameField, .usePidDir]
      (onceNameHandler what get set) := by
  intro env s t strvec
  have reloadEq : (restore [.reload, nameField, .usePidDir] s t).reload = s.reload :=
    @pick_of_mem Bool [.reload, nameField, .usePidDir] .reload (List.mem_cons_self _ _) _ t.reload
  simp only [onceNameHandler, reloadEq, getEq]
  split
  · exact keeps_done (by simp) s t
  · split
    · exact keeps s t _
    · exact keeps_done (by simp) s t

/-- The field holding a FIFO's name. -/
def FifoKind.nameField : FifoKind → Field
  | .global => .notifyFifoName
  | .vrrp => .vrrpNotifyFifoName
  | .lvs => .lvsNotifyFifoName

/-- The field holding a FIFO's script. -/
def FifoKind.scriptField : FifoKind → Field
  | .global => .notifyFifoScript
  | .vrrp => .vrrpNotifyFifoScript
  | .lvs => .lvsNotifyFifoScript

/-- `notify_fifo` keeps to its FIFO's name. -/
theorem notifyFifo_footprint (kind : FifoKind) :
    Footprint [kind.nameField] [kind.nameField] (notifyFifo kind) := by
  intro env s t strvec
  have nameEq : (kind.get (restore [kind.nameField] s t)).name = (kind.get s).name := by
    cases kind <;> rfl
  simp only [notifyFifo]
  split
  · exact keeps_done (by simp) s t
  · rw [nameEq]
    split
    · exact keeps_done (by simp) s t
    · cases kind <;> rfl

/-- `notify_fifo_script` keeps to its FIFO's script, reading the default script user. -/
theorem notifyFifoScript_footprint (kind : FifoKind) :
    Footprint [kind.scriptField, .defaultScriptUser] [kind.scriptField]
      (notifyFifoScript kind) := by
  intro env s t strvec
  have scriptEq :
      (kind.get (restore [kind.scriptField, .defaultScriptUser] s t)).script =
        (kind.get s).script := by
    cases kind <;> rfl
  simp only [notifyFifoScript]
  split
  · exact keeps_done (by simp) s t
  · rw [scriptEq]
    split
    · exact keeps_done (by simp) s t
    · cases kind <;> rfl

/-- The option loop keeps to `fields` when every option does. -/
theorem scanOptions_keeps
    {fields : List Field}
    {options : List SubOption}
    (optionsKeep : ∀ opt ∈ options, ∀ v, Keeps fields fields (opt.apply · v))
    (env : Env)
    (directive : String)
    (strvec : Strvec)
    (i : Nat) :
    Keeps fields fields (scanOptions env options directive strvec · i) := by
  intro s
  refine scanOptions.induct env options directive strvec
    (fun s i => ∀ t, (scanOptions env options directive strvec (restore fields s t) i).state =
      restore fields (scanOptions env options directive strvec s i).state (restore fields s t))
    ?_ ?_ ?_ ?_ s i
  · intro s opt inRange key found next t
    rw [scanOptions_last (by omega) found, scanOptions_last (by omega) found]
    exact next t
  · intro s i inRange key opt found notLast next t
    rw [scanOptions_pair (by omega) found, scanOptions_pair (by omega) found]
    simp only [Outcome.andThen_state]
    rw [optionsKeep opt (List.mem_of_find?_eq_some found) _ s t, next]
    simp
  · intro s i inRange key notFound next t
    rw [scanOptions_unknown inRange notFound, scanOptions_unknown inRange notFound]
    exact next t
  · intro s i outOfRange t
    rw [scanOptions_of_le (by omega), scanOptions_of_le (by omega)]
    simp

/-- The timeout fields. -/
def timeoutFields : List Field :=
  [.lvsTcpTimeout, .lvsTcpfinTimeout, .lvsUdpTimeout]

/-- Each `lvs_timeouts` option keeps to the timeout fields. -/
theorem timeoutOptions_keep :
    ∀ opt ∈ lvsTimeoutOptions, ∀ v, Keeps timeoutFields timeoutFields (opt.apply · v) := by
  simp only [lvsTimeoutOptions, List.mem_cons, List.mem_singleton, forall_eq_or_imp,
    forall_eq, List.not_mem_nil, false_imp_iff, implies_true, and_true]
  refine ⟨?_, ?_, ?_⟩ <;> intro v s t <;> simp only [timeoutOption] <;>
    cases lvsTimeoutValue _ v <;> rfl

/-- `lvs_timeouts` keeps to the timeout fields. -/
theorem lvsTimeouts_footprint : Footprint timeoutFields timeoutFields lvsTimeouts := by
  intro env s t strvec
  simp only [lvsTimeouts]
  split
  · simp
  · exact scanOptions_keeps timeoutOptions_keep env _ strvec 1 s t

/-- Updating the `lvs_syncd` record keeps to it. -/
theorem setLvsSyncd_keeps (f : LvsSyncd → LvsSyncd) (s t : GlobalState) :
    setLvsSyncd (restore [.lvsSyncd] s t) f =
      restore [.lvsSyncd] (setLvsSyncd s f) (restore [.lvsSyncd] s t) :=
  rfl

/-- Each `lvs_sync_daemon` option keeps to the `lvs_syncd` record. -/
theorem syncdOptions_keep (env : Env) :
    ∀ opt ∈ syncdOptions env, ∀ v, Keeps [.lvsSyncd] [.lvsSyncd] (opt.apply · v) := by
  intro opt member v s t
  rcases mem_syncdOptions member with rfl | ⟨_, lo, hi, _, _, _, _, -, rfl⟩
  · have groupEq : (restore [.lvsSyncd] s t).lvsSyncd = s.lvsSyncd := rfl
    simp only [syncdGroupOption, groupEq]
    split <;>
      simp only [Outcome.andThen_state, Outcome.info_state, Outcome.done_state,
        setLvsSyncd_lvsSyncd] <;>
      split <;> rfl
  · simp only [syncdNumericOption]
    cases syncdValue lo hi v <;> rfl

/-- `lvs_sync_daemon` keeps to the `lvs_syncd` record. -/
theorem lvsSyncdHandler_footprint : Footprint [.lvsSyncd] [.lvsSyncd] lvsSyncdHandler := by
  intro env s t strvec
  have syncdEq : (restore [.lvsSyncd] s t).lvsSyncd = s.lvsSyncd := rfl
  simp only [lvsSyncdHandler, syncdEq]
  split
  · simp
  · split
    · simp
    · split
      · simp
      · split
        · simp
        · rw [setLvsSyncd_keeps]
          split
          · simp only [Outcome.andThen_state, Outcome.logFirst_state]
            rw [syncdOptions_keep env _ (List.mem_cons_self _ _) _ _ _,
              scanOptions_keeps (syncdOptions_keep env) env _ strvec 4]
            simp
          · exact scanOptions_keeps (syncdOptions_keep env) env _ strvec 3 _ _

/-- `childWaitHandler` keeps to its field. -/
theorem childWaitHandler_footprint :
    Footprint [.childWaitTime] [.childWaitTime] childWaitHandler := by
  intro env s t strvec
  simp only [childWaitHandler]
  split <;> rfl

/-- `smtpheloHandler` keeps to its field. -/
theorem smtpheloHandler_footprint : Footprint [.smtpHeloName] [.smtpHeloName] smtpheloHandler := by
  intro env s t strvec
  simp only [smtpheloHandler]
  split <;> rfl

/-- `vrrpVersionHandler` keeps to its field. -/
theorem vrrpVersionHandler_footprint :
    Footprint [.vrrpVersion] [.vrrpVersion] vrrpVersionHandler := by
  intro env s t strvec
  simp only [vrrpVersionHandler]
  split <;> rfl

/-- `vrrpIptablesHandler` keeps to its field. -/
theorem vrrpIptablesHandler_footprint :
    Footprint [] [.vrrpIptablesInchain, .vrrpIptablesOutchain] vrrpIptablesHandler := by
  intro env s t strvec
  simp only [vrrpIptablesHandler]
  split_ifs <;> rfl

/-- `snmpRfcHandler` keeps to its field. -/
theorem snmpRfcHandler_footprint :
    Footprint [.enableSnmpRfcv2, .enableSnmpRfcv3] [.enableSnmpRfcv2, .enableSnmpRfcv3]
      snmpRfcHandler := by
  intro env s t strvec
  simp only [snmpRfcHandler]
  split_ifs <;> rfl

/-- `scriptUserHandler` keeps to its field. -/
theorem scriptUserHandler_footprint :
    Footprint [.defaultScriptUser] [.defaultScriptUser] scriptUserHandler := by
  intro env s t strvec
  simp only [scriptUserHandler]
  split <;> rfl

/-- `email_handler` appends to the email list. -/
theorem emailHandler_footprint : Footprint [.email] [.email] emailHandler := by
  intro env s t strvec
  simp only [emailHandler]
  split
  · simp
  · simp only [Outcome.done_state, foldl_allocEmail]
    rfl

/-- `default_interface_handler` reads `dynamic_interfaces` and the interface queue. -/
theorem defaultInterfaceHandler_footprint :
    Footprint [.dynamicInterfaces, .ifQueue, .defaultIfp] [.ifQueue, .defaultIfp]
      defaultInterfaceHandler := by
  intro env s t strvec
  rw [defaultInterfaceHandler_state, defaultInterfaceHandler_state]
  split <;> rfl

/-- `vrrp_ipsets_handler` keeps to the ipset fields. -/
theorem vrrpIpsetsHandler_footprint :
    Footprint [.usingIpsets, .vrrpIpsetAddress, .vrrpIpsetAddress6, .vrrpIpsetAddressIface6]
      [.usingIpsets, .vrrpIpsetAddress, .vrrpIpsetAddress6, .vrrpIpsetAddressIface6]
      vrrpIpsetsHandler := by
  refine Footprint.of_keeps fun env strvec => ?_
  simp only [vrrpIpsetsHandler, ipsetIface6Step]
  repeat' refine Keeps.ite _ ?_ ?_
  all_goals exact fun _ _ => rfl

/-- `snmp_socket_handler` keeps to the socket name. -/
theorem snmpSocketHandler_footprint : Footprint [.snmpSocket] [.snmpSocket] snmpSocketHandler := by
  intro env s t strvec
  have socketEq : (restore [.snmpSocket] s t).snmpSocket = s.snmpSocket := rfl
  simp only [snmpSocketHandler, socketEq]
  split_ifs <;> first | rfl | (split <;> rfl)

namespace Handler

/-- Every handler of the table keeps to its footprint. -/
theorem footprint (handler : Handler) : Footprint handler.reads handler.writes handler.fn := by
  cases handler
  all_goals dsimp only [reads, writes, fn]
  case netNamespaceHandler => exact onceNameHandler_footprint (fun _ _ => rfl) (fun _ _ _ => rfl)
  case instanceHandler => exact onceNameHandler_footprint (fun _ _ => rfl) (fun _ _ _ => rfl)
  case childWaitHandler => exact childWaitHandler_footprint
  case smtpheloHandler => exact smtpheloHandler_footprint
  case emailHandler => exact emailHandler_footprint
  case smtpAlertHandler => exact trueFalseHandler_footprint fun _ _ _ => rfl
  case smtpAlertVrrpHandler => exact trueFalseHandler_footprint fun _ _ _ => rfl
  case smtpAlertCheckerHandler => exact trueFalseHandler_footprint fun _ _ _ => rfl
  case defaultInterfaceHandler => exact defaultInterfaceHandler_footprint
  case lvsTimeouts => exact lvsTimeouts_footprint
  case lvsSyncdHandler => exact lvsSyncdHandler_footprint
  case vrrpLowerPrioNoAdvertHandler => exact trueFalseHandler_footprint fun _ _ _ => rfl
  case vrrpHigherPrioSendAdvertHandler => exact trueFalseHandler_footprint fun _ _ _ => rfl
  case vrrpVersionHandler => exact vrrpVersionHandler_footprint
  case vrrpIptablesHandler => exact vrrpIptablesHandler_footprint
  case vrrpIpsetsHandler => exact vrrpIpsetsHandler_footprint
  case vrrpRtPriorityHandler => exact rtPriorityHandler_footprint fun _ _ _ => rfl
  case globalNotifyFifo => exact notifyFifo_footprint .global
  case globalNotifyFifoScript => exact notifyFifoScript_footprint .global
  case vrrpNotifyFifo => exact notifyFifo_footprint .vrrp
  case vrrpNotifyFifoScript => exact notifyFifoScript_footprint .vrrp
  case lvsNotifyFifo => exact notifyFifo_footprint .lvs
  case lvsNotifyFifoScript => exact notifyFifoScript_footprint .lvs
  case checkerRtPriorityHandler => exact rtPriorityHandler_footprint fun _ _ _ => rfl
  case bfdRtPriorityHandler => exact rtPriorityHandler_footprint fun _ _ _ => rfl
  case snmpSocketHandler => exact snmpSocketHandler_footprint
  case snmpRfcHandler => exact snmpRfcHandler_footprint
  case scriptUserHandler => exact scriptUserHandler_footprint
  case vrrpNetlinkCmdRcvBufsHandler => exact rcvBufsHandler_footprint fun _ _ _ => rfl
  case vrrpNetlinkCmdRcvBufsForceHandler => exact trueFalseHandler_footprint fun _ _ _ => rfl
  case vrrpNetlinkMonitorRcvBufsHandler => exact rcvBufsHandler_footprint fun _ _ _ => rfl
  case vrrpNetlinkMonitorRcvBufsForceHandler => exact trueFalseHandler_footprint fun _ _ _ => rfl
  case lvsNetlinkCmdRcvBufsHandler => exact rcvBufsHandler_footprint fun _ _ _ => rfl
  case lvsNetlinkCmdRcvBufsForceHandler => exact trueFalseHandler_footprint fun _ _ _ => rfl
  case lvsNetlinkMonitorRcvBufsHandler => exact rcvBufsHandler_footprint fun _ _ _ => rfl
  case lvsNetlinkMonitorRcvBufsForceHandler => exact trueFalseHandler_footprint fun _ _ _ => rfl
  -- the rest write only fields they never test: both sides compute the same state
  all_goals exact fun _ _ _ _ => rfl

end Handler

end Keepalived
