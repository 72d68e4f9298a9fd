import Keepalived.GlobalData

namespace Keepalived

/-!
# A reference platform

Every result of the model holds for every `Env`.  To run the model on a
concrete line, this module fixes one: a Linux build with every option on,
the header values of that platform, and small total functions for the
collaborators, each doing what its library function does on the inputs the
witnesses use (`inet_pton` for IPv4 literals, a queue lookup for
`if_get_by_ifname`, a numeric `atof`).  `zeroedState` is `global_data` as
`MALLOC` hands it out: every field zero, empty, false or NULL.
-/

/-- A build with every compile-time option on. -/
def fullBuild : BuildOptions where
  withVrrp := true
  withLvs := true
  withBfd := true
  haveSchedRt := true
  haveDeclRlimitRttime := true
  haveLibipset := true
  haveIpvsSyncdAttributes := true
  haveDeclCloneNewnet := true
  withSnmp := true
  withSnmpVrrp := true
  withSnmpRfc := true
  withSnmpRfcv2 := true
  withSnmpRfcv3 := true
  withSnmpChecker := true
  withDbus := true

/-- The tokens of a string between dots, by structural recursion over its characters. -/
def splitDots : List Char → List (List Char)
  | [] => [[]]
  | c :: rest =>
      match splitDots rest with
      | [] => [[c]]
      | part :: parts => if c = '.' then [] :: part :: parts else (c :: part) :: parts

/-- One dotted-quad component: one to three decimal digits with value at most 255. -/
def parseOctet (part : List Char) : Option Nat :=
  if part ≠ [] ∧ part.length ≤ 3 ∧ part.all isdigit ∧ decimalValue part ≤ 255 then
    some (decimalValue part)
  else
    none

/-- `inet_pton(AF_INET, text, …)`: an IPv4 address in dotted-quad form. -/
def parseIpv4 (text : String) : Option (BitVec 32) :=
  match (splitDots text.toList).map parseOctet with
  | [some a, some b, some c, some d] =>
      some (BitVec.ofNat 32 (((a * 256 + b) * 256 + c) * 256 + d))
  | _ => none

example : parseIpv4 "10.0.0.1" = some 0x0a000001#32 := by decide
example : parseIpv4 "224.0.0.18" = some 0xe0000012#32 := by decide
example : parseIpv4 "10.0.0" = none := by decide

/--
`inet_stosockaddr(ip, port, addr)` for IPv4 literals: the parsed address with
port 0 on success; on failure the destination is left as it was.
-/
def referenceInetStosockaddr (text : String) (_port : Option String) (previous : SockAddr) :
    Bool × SockAddr :=
  match parseIpv4 text with
  | some addr => (true, .inet addr 0)
  | none => (false, previous)

/--
The overrun of `vrrp_mcast_group4` on x86-64: bytes 16 to 23 of the
`sockaddr_in6` are the low half of its address and land on the family, port
and flow label of `vrrp_mcast_group6`.  The reference platform takes the case
of a group whose fifth 16-bit word is zero, `ff02::12` among them: the family
bytes become zero and the field reads as `AF_UNSPEC`.
-/
def referenceMcastGroup4Overrun (_parsed _following : SockAddr) : SockAddr :=
  .unspec

/--
`if_get_by_ifname(name, lookup)`: the queued interface of that name, else a new
one appended to the queue when the lookup mode allows creating it.
-/
def referenceIfGetByIfname
    (name : String)
    (lookup : IfLookup)
    (dynamicInterfaces : Bool)
    (queue : List Interface) :
    Option Interface × List Interface :=
  match queue.find? (·.ifname == name) with
  | some ifp => (some ifp, queue)
  | none =>
      if lookup = .createAlways ∨ (lookup = .createIfDynamic ∧ dynamicInterfaces = true) then
        (some ⟨name⟩, queue ++ [⟨name⟩])
      else
        (none, queue)

/-- `check_true_false`: the words keepalived accepts for a boolean. -/
def referenceCheckTrueFalse (word : String) : Option Bool :=
  if word ∈ ["true", "on", "yes"] then some true
  else if word ∈ ["false", "off", "no"] then some false
  else none

/-- Linux x86-64 header values and the reference collaborators. -/
def referenceEnv : Env where
  build := fullBuild
  timerHz := 1000000
  ipVsIfnameMaxlen := 16
  pathMax := 4096
  smtpPortStr := "25"
  iptablesChainSize := 29
  ipsetNameSize := 32
  five_le_ipsetNameSize := by decide
  childWaitTimeBits := 32
  rtPriorityMin := 1
  rtPriorityMax := 99
  slotFallback := ""
  checkTrueFalse := referenceCheckTrueFalse
  inetStosockaddr := referenceInetStosockaddr
  mcastGroup4Overrun := referenceMcastGroup4Overrun
  domainStosockaddr := fun _ _ previous => previous
  ifGetByIfname := referenceIfGetByIfname
  readValueBlock := fun _ => some []
  notifyScriptInit := fun strvec _ _ user => some ⟨strvec.drop 1, user⟩
  setDefaultScriptUser := fun user _ _ => (false, ⟨if user = "root" then 0 else 1000, 0⟩)
  atofTimesHz := fun text => (strtoul text).1 * 1000000

/-- `global_data` as `MALLOC` returns it: zeroed. -/
def zeroedState : GlobalState where
  linkbeatUsePolling := false
  routerId := none
  emailFrom := none
  smtpConnectionTo := 0
  dynamicInterfaces := false
  noEmailFaults := false
  smtpServer := .unspec
  smtpHeloName := none
  email := []
  smtpAlert := 0
  smtpAlertVrrp := 0
  smtpAlertChecker := 0
  defaultIfp := none
  lvsTcpTimeout := 0
  lvsTcpfinTimeout := 0
  lvsUdpTimeout := 0
  lvsSyncd := ⟨none, none, 0, 0, 0, 0, .unspec⟩
  lvsFlush := false
  vrrpMcastGroup4 := .unspec
  vrrpMcastGroup6 := .unspec
  vrrpGarpDelay := 0
  vrrpGarpRep := 0
  vrrpGarpRefresh := 0
  vrrpGarpRefreshRep := 0
  vrrpGarpLowerPrioDelay := 0
  vrrpGarpLowerPrioRep := 0
  vrrpGarpInterval := 0
  vrrpGnaInterval := 0
  vrrpLowerPrioNoAdvert := false
  vrrpHigherPrioSendAdvert := false
  vrrpIptablesInchain := ""
  vrrpIptablesOutchain := ""
  usingIpsets := false
  vrrpIpsetAddress := ""
  vrrpIpsetAddress6 := ""
  vrrpIpsetAddressIface6 := ""
  vrrpVersion := 0
  vrrpCheckUnicastSrc := false
  vrrpSkipCheckAdvAddr := false
  vrrpStrict := false
  vrrpProcessPriority := 0
  vrrpNoSwap := false
  vrrpRealtimePriority := 0
  vrrpRlimitRt := 0
  notifyFifo := ⟨none, none⟩
  vrrpNotifyFifo := ⟨none, none⟩
  lvsNotifyFifo := ⟨none, none⟩
  checkerProcessPriority := 0
  checkerNoSwap := false
  checkerRealtimePriority := 0
  checkerRlimitRt := 0
  bfdProcessPriority := 0
  bfdNoSwap := false
  bfdRealtimePriority := 0
  bfdRlimitRt := 0
  snmpSocket := none
  enableTraps := false
  enableSnmpVrrp := false
  enableSnmpRfcv2 := false
  enableSnmpRfcv3 := false
  enableSnmpChecker := false
  networkNamespace := none
  namespaceWithIpsets := false
  enableDbus := false
  dbusServiceName := none
  instanceName := none
  vrrpNetlinkMonitorRcvBufs := 0
  vrrpNetlinkMonitorRcvBufsForce := false
  vrrpNetlinkCmdRcvBufs := 0
  vrrpNetlinkCmdRcvBufsForce := false
  lvsNetlinkMonitorRcvBufs := 0
  lvsNetlinkMonitorRcvBufsForce := false
  lvsNetlinkCmdRcvBufs := 0
  lvsNetlinkCmdRcvBufsForce := false
  usePidDir := false
  scriptSecurity := false
  childWaitTime := 0
  reload := false
  defaultScriptUser := ⟨0, 0⟩
  ifQueue := []

end Keepalived
