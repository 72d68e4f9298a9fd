import Keepalived.GlobalKeywords

namespace Keepalived

/-!
# Read and write footprints of handlers

`Field` names every field of `GlobalState`, with the three notify FIFOs split
into their name and script.  `restore fields a b` takes the fields listed from
`a` and the rest from `b`.

A handler has footprint `(reads, writes)` when, run on any state that agrees
with `s` on `reads`, it ends in that state with exactly the `writes` fields of
its run on `s`: it reads nothing outside `reads` and writes nothing outside
`writes`.  Two handlers whose writes miss each other's footprints commute
(`commute_of_footprint`); that is the one argument behind the order
independence of the global definitions.
-/

/-- The fields of `GlobalState`, the notify FIFOs split into name and script. -/
inductive Field where
  | linkbeatUsePolling
  | routerId
  | emailFrom
  | smtpConnectionTo
  | dynamicInterfaces
  | noEmailFaults
  | smtpServer
  | smtpHeloName
  | email
  | smtpAlert
  | smtpAlertVrrp
  | smtpAlertChecker
  | defaultIfp
  | lvsTcpTimeout
  | lvsTcpfinTimeout
  | lvsUdpTimeout
  | lvsSyncd
  | lvsFlush
  | vrrpMcastGroup4
  | vrrpMcastGroup6
  | vrrpGarpDelay
  | vrrpGarpRep
  | vrrpGarpRefresh
  | vrrpGarpRefreshRep
  | vrrpGarpLowerPrioDelay
  | vrrpGarpLowerPrioRep
  | vrrpGarpInterval
  | vrrpGnaInterval
  | vrrpLowerPrioNoAdvert
  | vrrpHigherPrioSendAdvert
  | vrrpIptablesInchain
  | vrrpIptablesOutchain
  | usingIpsets
  | vrrpIpsetAddress
  | vrrpIpsetAddress6
  | vrrpIpsetAddressIface6
  | vrrpVersion
  | vrrpCheckUnicastSrc
  | vrrpSkipCheckAdvAddr
  | vrrpStrict
  | vrrpProcessPriority
  | vrrpNoSwap
  | vrrpRealtimePriority
  | vrrpRlimitRt
  | notifyFifoName
  | notifyFifoScript
  | vrrpNotifyFifoName
  | vrrpNotifyFifoScript
  | lvsNotifyFifoName
  | lvsNotifyFifoScript
  | checkerProcessPriority
  | checkerNoSwap
  | checkerRealtimePriority
  | checkerRlimitRt
  | bfdProcessPriority
  | bfdNoSwap
  | bfdRealtimePriority
  | bfdRlimitRt
  | snmpSocket
  | enableTraps
  | enableSnmpVrrp
  | enableSnmpRfcv2
  | enableSnmpRfcv3
  | enableSnmpChecker
  | networkNamespace
  | namespaceWithIpsets
  | enableDbus
  | dbusServiceName
  | instanceName
  | vrrpNetlinkMonitorRcvBufs
  | vrrpNetlinkMonitorRcvBufsForce
  | vrrpNetlinkCmdRcvBufs
  | vrrpNetlinkCmdRcvBufsForce
  | lvsNetlinkMonitorRcvBufs
  | lvsNetlinkMonitorRcvBufsForce
  | lvsNetlinkCmdRcvBufs
  | lvsNetlinkCmdRcvBufsForce
  | usePidDir
  | scriptSecurity
  | childWaitTime
  | reload
  | defaultScriptUser
  | ifQueue
  deriving DecidableEq, Repr

/-- Field `f` of `a` when `f` is listed, of `b` otherwise. -/
def pick {α : Type} (fields : List Field) (f : Field) (a b : α) : α :=
  bif fields.elem f then a else b

/-- The listed fields of `a`, the others of `b`. -/
def restore (fields : List Field) (a b : GlobalState) : GlobalState where
  linkbeatUsePolling := pick fields .linkbeatUsePolling a.linkbeatUsePolling b.linkbeatUsePolling
  routerId := pick fields .routerId a.routerId b.routerId
  emailFrom := pick fields .emailFrom a.emailFrom b.emailFrom
  smtpConnectionTo := pick fields .smtpConnectionTo a.smtpConnectionTo b.smtpConnectionTo
  dynamicInterfaces := pick fields .dynamicInterfaces a.dynamicInterfaces b.dynamicInterfaces
  noEmailFaults := pick fields .noEmailFaults a.noEmailFaults b.noEmailFaults
  smtpServer := pick fields .smtpServer a.smtpServer b.smtpServer
  smtpHeloName := pick fields .smtpHeloName a.smtpHeloName b.smtpHeloName
  email := pick fields .email a.email b.email
  smtpAlert := pick fields .smtpAlert a.smtpAlert b.smtpAlert
  smtpAlertVrrp := pick fields .smtpAlertVrrp a.smtpAlertVrrp b.smtpAlertVrrp
  smtpAlertChecker := pick fields .smtpAlertChecker a.smtpAlertChecker b.smtpAlertChecker
  defaultIfp := pick fields .defaultIfp a.defaultIfp b.defaultIfp
  lvsTcpTimeout := pick fields .lvsTcpTimeout a.lvsTcpTimeout b.lvsTcpTimeout
  lvsTcpfinTimeout := pick fields .lvsTcpfinTimeout a.lvsTcpfinTimeout b.lvsTcpfinTimeout
  lvsUdpTimeout := pick fields .lvsUdpTimeout a.lvsUdpTimeout b.lvsUdpTimeout
  lvsSyncd := pick fields .lvsSyncd a.lvsSyncd b.lvsSyncd
  lvsFlush := pick fields .lvsFlush a.lvsFlush b.lvsFlush
  vrrpMcastGroup4 := pick fields .vrrpMcastGroup4 a.vrrpMcastGroup4 b.vrrpMcastGroup4
  vrrpMcastGroup6 := pick fields .vrrpMcastGroup6 a.vrrpMcastGroup6 b.vrrpMcastGroup6
  vrrpGarpDelay := pick fields .vrrpGarpDelay a.vrrpGarpDelay b.vrrpGarpDelay
  vrrpGarpRep := pick fields .vrrpGarpRep a.vrrpGarpRep b.vrrpGarpRep
  vrrpGarpRefresh := pick fields .vrrpGarpRefresh a.vrrpGarpRefresh b.vrrpGarpRefresh
  vrrpGarpRefreshRep := pick fields .vrrpGarpRefreshRep a.vrrpGarpRefreshRep b.vrrpGarpRefreshRep
  vrrpGarpLowerPrioDelay :=
    pick fields .vrrpGarpLowerPrioDelay a.vrrpGarpLowerPrioDelay b.vrrpGarpLowerPrioDelay
  vrrpGarpLowerPrioRep :=
    pick fields .vrrpGarpLowerPrioRep a.vrrpGarpLowerPrioRep b.vrrpGarpLowerPrioRep
  vrrpGarpInterval := pick fields .vrrpGarpInterval a.vrrpGarpInterval b.vrrpGarpInterval
  vrrpGnaInterval := pick fields .vrrpGnaInterval a.vrrpGnaInterval b.vrrpGnaInterval
  vrrpLowerPrioNoAdvert :=
    pick fields .vrrpLowerPrioNoAdvert a.vrrpLowerPrioNoAdvert b.vrrpLowerPrioNoAdvert
  vrrpHigherPrioSendAdvert :=
    pick fields .vrrpHigherPrioSendAdvert a.vrrpHigherPrioSendAdvert b.vrrpHigherPrioSendAdvert
  vrrpIptablesInchain :=
    pick fields .vrrpIptablesInchain a.vrrpIptablesInchain b.vrrpIptablesInchain
  vrrpIptablesOutchain :=
    pick fields .vrrpIptablesOutchain a.vrrpIptablesOutchain b.vrrpIptablesOutchain
  usingIpsets := pick fields .usingIpsets a.usingIpsets b.usingIpsets
  vrrpIpsetAddress := pick fields .vrrpIpsetAddress a.vrrpIpsetAddress b.vrrpIpsetAddress
  vrrpIpsetAddress6 := pick fields .vrrpIpsetAddress6 a.vrrpIpsetAddress6 b.vrrpIpsetAddress6
  vrrpIpsetAddressIface6 :=
    pick fields .vrrpIpsetAddressIface6 a.vrrpIpsetAddressIface6 b.vrrpIpsetAddressIface6
  vrrpVersion := pick fields .vrrpVersion a.vrrpVersion b.vrrpVersion
  vrrpCheckUnicastSrc :=
    pick fields .vrrpCheckUnicastSrc a.vrrpCheckUnicastSrc b.vrrpCheckUnicastSrc
  vrrpSkipCheckAdvAddr :=
    pick fields .vrrpSkipCheckAdvAddr a.vrrpSkipCheckAdvAddr b.vrrpSkipCheckAdvAddr
  vrrpStrict := pick fields .vrrpStrict a.vrrpStrict b.vrrpStrict
  vrrpProcessPriority :=
    pick fields .vrrpProcessPriority a.vrrpProcessPriority b.vrrpProcessPriority
  vrrpNoSwap := pick fields .vrrpNoSwap a.vrrpNoSwap b.vrrpNoSwap
  vrrpRealtimePriority :=
    pick fields .vrrpRealtimePriority a.vrrpRealtimePriority b.vrrpRealtimePriority
  vrrpRlimitRt := pick fields .vrrpRlimitRt a.vrrpRlimitRt b.vrrpRlimitRt
  notifyFifo :=
    ⟨pick fields .notifyFifoName a.notifyFifo.name b.notifyFifo.name,
      pick fields .notifyFifoScript a.notifyFifo.script b.notifyFifo.script⟩
  vrrpNotifyFifo :=
    ⟨pick fields .vrrpNotifyFifoName a.vrrpNotifyFifo.name b.vrrpNotifyFifo.name,
      pick fields .vrrpNotifyFifoScript a.vrrpNotifyFifo.script b.vrrpNotifyFifo.script⟩
  lvsNotifyFifo :=
    ⟨pick fields .lvsNotifyFifoName a.lvsNotifyFifo.name b.lvsNotifyFifo.name,
      pick fields .lvsNotifyFifoScript a.lvsNotifyFifo.script b.lvsNotifyFifo.script⟩
  checkerProcessPriority :=
    pick fields .checkerProcessPriority a.checkerProcessPriority b.checkerProcessPriority
  checkerNoSwap := pick fields .checkerNoSwap a.checkerNoSwap b.checkerNoSwap
  checkerRealtimePriority :=
    pick fields .checkerRealtimePriority a.checkerRealtimePriority b.checkerRealtimePriority
  checkerRlimitRt := pick fields .checkerRlimitRt a.checkerRlimitRt b.checkerRlimitRt
  bfdProcessPriority := pick fields .bfdProcessPriority a.bfdProcessPriority b.bfdProcessPriority
  bfdNoSwap := pick fields .bfdNoSwap a.bfdNoSwap b.bfdNoSwap
  bfdRealtimePriority :=
    pick fields .bfdRealtimePriority a.bfdRealtimePriority b.bfdRealtimePriority
  bfdRlimitRt := pick fields .bfdRlimitRt a.bfdRlimitRt b.bfdRlimitRt
  snmpSocket := pick fields .snmpSocket a.snmpSocket b.snmpSocket
  enableTraps := pick fields .enableTraps a.enableTraps b.enableTraps
  enableSnmpVrrp := pick fields .enableSnmpVrrp a.enableSnmpVrrp b.enableSnmpVrrp
  enableSnmpRfcv2 := pick fields .enableSnmpRfcv2 a.enableSnmpRfcv2 b.enableSnmpRfcv2
  enableSnmpRfcv3 := pick fields .enableSnmpRfcv3 a.enableSnmpRfcv3 b.enableSnmpRfcv3
  enableSnmpChecker := pick fields .enableSnmpChecker a.enableSnmpChecker b.enableSnmpChecker
  networkNamespace := pick fields .networkNamespace a.networkNamespace b.networkNamespace
  namespaceWithIpsets :=
    pick fields .namespaceWithIpsets a.namespaceWithIpsets b.namespaceWithIpsets
  enableDbus := pick fields .enableDbus a.enableDbus b.enableDbus
  dbusServiceName := pick fields .dbusServiceName a.dbusServiceName b.dbusServiceName
  instanceName := pick fields .instanceName a.instanceName b.instanceName
  vrrpNetlinkMonitorRcvBufs :=
    pick fields .vrrpNetlinkMonitorRcvBufs a.vrrpNetlinkMonitorRcvBufs b.vrrpNetlinkMonitorRcvBufs
  vrrpNetlinkMonitorRcvBufsForce :=
    pick fields .vrrpNetlinkMonitorRcvBufsForce a.vrrpNetlinkMonitorRcvBufsForce
      b.vrrpNetlinkMonitorRcvBufsForce
  vrrpNetlinkCmdRcvBufs :=
    pick fields .vrrpNetlinkCmdRcvBufs a.vrrpNetlinkCmdRcvBufs b.vrrpNetlinkCmdRcvBufs
  vrrpNetlinkCmdRcvBufsForce :=
    pick fields .vrrpNetlinkCmdRcvBufsForce a.vrrpNetlinkCmdRcvBufsForce
      b.vrrpNetlinkCmdRcvBufsForce
  lvsNetlinkMonitorRcvBufs :=
    pick fields .lvsNetlinkMonitorRcvBufs a.lvsNetlinkMonitorRcvBufs b.lvsNetlinkMonitorRcvBufs
  lvsNetlinkMonitorRcvBufsForce :=
    pick fields .lvsNetlinkMonitorRcvBufsForce a.lvsNetlinkMonitorRcvBufsForce
      b.lvsNetlinkMonitorRcvBufsForce
  lvsNetlinkCmdRcvBufs :=
    pick fields .lvsNetlinkCmdRcvBufs a.lvsNetlinkCmdRcvBufs b.lvsNetlinkCmdRcvBufs
  lvsNetlinkCmdRcvBufsForce :=
    pick fields .lvsNetlinkCmdRcvBufsForce a.lvsNetlinkCmdRcvBufsForce b.lvsNetlinkCmdRcvBufsForce
  usePidDir := pick fields .usePidDir a.usePidDir b.usePidDir
  scriptSecurity := pick fields .scriptSecurity a.scriptSecurity b.scriptSecurity
  childWaitTime := pick fields .childWaitTime a.childWaitTime b.childWaitTime
  reload := pick fields .reload a.reload b.reload
  defaultScriptUser := pick fields .defaultScriptUser a.defaultScriptUser b.defaultScriptUser
  ifQueue := pick fields .ifQueue a.ifQueue b.ifQueue

/-- `pick` as a test of membership. -/
theorem pick_eq_ite {α : Type} (fields : List Field) (f : Field) (a b : α) :
    pick fields f a b = if f ∈ fields then a else b := by
  by_cases member : f ∈ fields <;> simp [pick, member]

/-- A listed field comes from the first state. -/
theorem pick_of_mem
    {α : Type}
    {fields : List Field}
    {f : Field}
    (present : f ∈ fields)
    (a b : α) :
    pick fields f a b = a := by
  simp [pick_eq_ite, present]

/-- A field outside the list comes from the second state. -/
theorem pick_of_not_mem
    {α : Type}
    {fields : List Field}
    {f : Field}
    (absent : f ∉ fields)
    (a b : α) :
    pick fields f a b = b := by
  simp [pick_eq_ite, absent]

@[simp] theorem pick_self {α : Type} (fields : List Field) (f : Field) (a : α) :
    pick fields f a a = a := by
  simp [pick_eq_ite]

/-- Restoring a state from itself changes nothing. -/
@[simp] theorem restore_self (fields : List Field) (s : GlobalState) :
    restore fields s s = s := by
  simp only [restore, pick_self]

/-- Picks from disjoint field lists commute. -/
theorem pick_comm
    {α : Type}
    {first second : List Field}
    {f : Field}
    (disjoint : f ∈ first → f ∉ second)
    (a b c : α) :
    pick first f a (pick second f b c) = pick second f b (pick first f a c) := by
  simp only [pick_eq_ite]
  by_cases inFirst : f ∈ first <;> by_cases inSecond : f ∈ second <;> simp_all

/-- Restores from disjoint field lists commute. -/
theorem restore_comm
    {first second : List Field}
    (disjoint : ∀ f, f ∈ first → f ∉ second)
    (a b c : GlobalState) :
    restore first a (restore second b c) = restore second b (restore first a c) := by
  simp only [restore, pick_comm (disjoint _)]

/-- Reading back fields that a disjoint restore did not touch. -/
theorem pick_absorb
    {α : Type}
    {reads writes : List Field}
    {f : Field}
    (disjoint : f ∈ reads → f ∉ writes)
    (s b : α) :
    pick reads f s (pick writes f b s) = pick writes f b s := by
  simp only [pick_eq_ite]
  by_cases inReads : f ∈ reads <;> by_cases inWrites : f ∈ writes <;> simp_all

/-- A state restored on `writes` from `s` still agrees with `s` on disjoint `reads`. -/
theorem restore_absorb
    {reads writes : List Field}
    (disjoint : ∀ f, f ∈ reads → f ∉ writes)
    (s b : GlobalState) :
    restore reads s (restore writes b s) = restore writes b s := by
  simp only [restore, pick_absorb (disjoint _)]

/-- The outer of two restores from the same fields wins. -/
@[simp] theorem restore_restore (fields : List Field) (a b c : GlobalState) :
    restore fields a (restore fields b c) = restore fields a c := by
  have pickPick : ∀ {α : Type} (f : Field) (a b c : α),
      pick fields f a (pick fields f b c) = pick fields f a c := by
    intro α f a b c
    simp only [pick_eq_ite]
    split_ifs <;> rfl
  simp only [restore, pickPick]

/-- Restoring `s`'s fields `writes ⊆ reads` into a state taken from `s` on `reads`. -/
theorem restore_of_subset
    {reads writes : List Field}
    (subset : ∀ f, f ∈ writes → f ∈ reads)
    (s t : GlobalState) :
    restore writes s (restore reads s t) = restore reads s t := by
  have pickSubset : ∀ {α : Type} (f : Field) (a b : α),
      pick writes f a (pick reads f a b) = pick reads f a b := by
    intro α f a b
    simp only [pick_eq_ite]
    by_cases inWrites : f ∈ writes
    · simp [inWrites, subset f inWrites]
    · simp [inWrites]
  simp only [restore, pickSubset]

/--
`handler` reads only `reads` and writes only `writes`: on a state agreeing with
`s` on `reads` it ends with the `writes` fields of its run on `s` and every
other field untouched.
-/
def Footprint (reads writes : List Field) (handler : HandlerFn) : Prop :=
  ∀ env s t strvec,
    (handler env (restore reads s t) strvec).state =
      restore writes (handler env s strvec).state (restore reads s t)

namespace Footprint

variable {reads writes : List Field} {handler : HandlerFn}

/-- A handler leaves every field outside its writes as it found it. -/
theorem frame
    (footprint : Footprint reads writes handler)
    (env : Env)
    (s : GlobalState)
    (strvec : Strvec) :
    (handler env s strvec).state = restore writes (handler env s strvec).state s := by
  simpa using footprint env s s strvec

/-- A handler whose writes miss `reads'` ends in a state that agrees with `s` on `reads'`. -/
theorem agrees
    (footprint : Footprint reads writes handler)
    {reads' : List Field}
    (disjoint : ∀ f, f ∈ reads' → f ∉ writes)
    (env : Env)
    (s : GlobalState)
    (strvec : Strvec) :
    restore reads' s (handler env s strvec).state = (handler env s strvec).state := by
  calc restore reads' s (handler env s strvec).state
      = restore reads' s (restore writes (handler env s strvec).state s) := by
        rw [← footprint.frame env s strvec]
    _ = restore writes (handler env s strvec).state s := restore_absorb disjoint _ _
    _ = (handler env s strvec).state := (footprint.frame env s strvec).symm

/-- `A` after `B` is `A`'s writes over `B`'s result when `B` leaves `A`'s reads alone. -/
theorem after
    {readsA writesA readsB writesB : List Field}
    {first second : HandlerFn}
    (footprintFirst : Footprint readsA writesA first)
    (footprintSecond : Footprint readsB writesB second)
    (disjoint : ∀ f, f ∈ readsA → f ∉ writesB)
    (env : Env)
    (s : GlobalState)
    (strvecFirst strvecSecond : Strvec) :
    (first env (second env s strvecSecond).state strvecFirst).state =
      restore writesA (first env s strvecFirst).state (second env s strvecSecond).state := by
  have agree := footprintSecond.agrees disjoint env s strvecSecond
  calc (first env (second env s strvecSecond).state strvecFirst).state
      = (first env (restore readsA s (second env s strvecSecond).state) strvecFirst).state := by
        rw [agree]
    _ = restore writesA (first env s strvecFirst).state
          (restore readsA s (second env s strvecSecond).state) :=
        footprintFirst env s _ strvecFirst
    _ = restore writesA (first env s strvecFirst).state (second env s strvecSecond).state := by
        rw [agree]

end Footprint

/--
Two handlers commute when each one's writes miss the other's reads and
writes.
-/
theorem commute_of_footprint
    {readsA writesA readsB writesB : List Field}
    {first second : HandlerFn}
    (footprintFirst : Footprint readsA writesA first)
    (footprintSecond : Footprint readsB writesB second)
    (firstMissesSecond : ∀ f, f ∈ writesA → f ∉ readsB ∧ f ∉ writesB)
    (secondMissesFirst : ∀ f, f ∈ writesB → f ∉ readsA)
    (env : Env)
    (s : GlobalState)
    (strvecFirst strvecSecond : Strvec) :
    (second env (first env s strvecFirst).state strvecSecond).state =
      (first env (second env s strvecSecond).state strvecFirst).state := by
  have writesDisjoint : ∀ f, f ∈ writesA → f ∉ writesB :=
    fun f inA => (firstMissesSecond f inA).2
  calc (second env (first env s strvecFirst).state strvecSecond).state
      = restore writesB (second env s strvecSecond).state (first env s strvecFirst).state :=
        footprintSecond.after footprintFirst
          (fun f inReads inWrites => (firstMissesSecond f inWrites).1 inReads) env s _ _
    _ = restore writesB (second env s strvecSecond).state
          (restore writesA (first env s strvecFirst).state s) := by
        rw [← footprintFirst.frame env s strvecFirst]
    _ = restore writesA (first env s strvecFirst).state
          (restore writesB (second env s strvecSecond).state s) :=
        (restore_comm writesDisjoint _ _ _).symm
    _ = restore writesA (first env s strvecFirst).state (second env s strvecSecond).state := by
        rw [← footprintSecond.frame env s strvecSecond]
    _ = (first env (second env s strvecSecond).state strvecFirst).state :=
        (footprintFirst.after footprintSecond
          (fun f inReads inWrites => secondMissesFirst f inWrites inReads) env s _ _).symm

end Keepalived
