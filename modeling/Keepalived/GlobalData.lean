import Keepalived.CLibrary

namespace Keepalived

/-!
# The global configuration and the handlers' world

`global_parser.c` mutates one process-wide record, `global_data`, and three
process globals (`use_pid_dir`, `script_security`, `child_wait_time`), and it
reads `reload`.  `GlobalState` holds all of them in one flat record, field for
field, together with the two pieces of collaborator state that handlers of this
file reach through calls: the default script user of `set_default_script_user`
and the interface queue of `if_get_by_ifname`.

The code this file calls but does not define (the tokenizer's `strvec_slot`,
address resolution, `check_true_false`, the notify-script reader, …) and the
constants it takes from headers outside it are fields of `Env`, so every
result below holds for every such collaborator.

A handler call ends in an `Outcome`: the new state, the diagnostics it logged
in order, and the memory faults (out-of-bounds accesses, NULL dereferences) it
performed on the way.
-/

/-- A token line (`vector_t *strvec`): token 0 is the directive name. -/
abbrev Strvec := List String

/-- `vector_size(strvec)`. -/
def vectorSize (strvec : Strvec) : Nat :=
  strvec.length

/-- Address families of the socket-address fields. -/
inductive Family where
  | unspec
  | inet
  | inet6
  deriving DecidableEq, Repr

/-- A socket address as the handlers store it: family, address, port. -/
inductive SockAddr where
  | unspec
  | inet (addr : BitVec 32) (port : Nat)
  | inet6 (addr : BitVec 128) (port : Nat)
  deriving DecidableEq, Repr

namespace SockAddr

/-- `ss_family`. -/
def family : SockAddr → Family
  | .unspec => .unspec
  | .inet .. => .inet
  | .inet6 .. => .inet6

end SockAddr

/-- `IN_MULTICAST` on a host-order IPv4 address: `224.0.0.0/4`. -/
def inMulticast (addr : BitVec 32) : Bool :=
  addr &&& 0xf0000000#32 == 0xe0000000#32

/-- `IN6_IS_ADDR_MULTICAST`: `ff00::/8`. -/
def in6IsAddrMulticast (addr : BitVec 128) : Bool :=
  addr >>> 120 == 0xff#128

/-- An interface record as `if_get_by_ifname` returns it. -/
structure Interface where
  ifname : String
  deriving DecidableEq, Repr

/-- The user and group a notify script runs as. -/
structure ScriptUser where
  uid : Nat
  gid : Nat
  deriving DecidableEq, Repr

/-- A notify script as `notify_script_init` builds it. -/
structure NotifyScript where
  args : List String
  user : ScriptUser
  deriving DecidableEq, Repr

/-- `notify_fifo_t`: a FIFO name and the script that reads it. -/
structure NotifyFifo where
  name : Option String
  script : Option NotifyScript
  deriving DecidableEq, Repr

/-- The `lvs_syncd` record of `global_data`. -/
@[ext] structure LvsSyncd where
  ifname : Option String
  vrrpName : Option String
  syncid : Nat
  syncMaxlen : Nat
  mcastPort : Nat
  mcastTtl : Nat
  mcastGroup : SockAddr
  deriving DecidableEq, Repr

/--
`global_data` together with the process globals the handlers read or write.
`reload` is only read.  `defaultScriptUser` and `ifQueue` are the state of
`set_default_script_user` and of `if_get_by_ifname`.
-/
structure GlobalState where
  linkbeatUsePolling : Bool
  routerId : Option String
  emailFrom : Option String
  smtpConnectionTo : Nat
  dynamicInterfaces : Bool
  noEmailFaults : Bool
  smtpServer : SockAddr
  smtpHeloName : Option String
  email : List String
  smtpAlert : Int
  smtpAlertVrrp : Int
  smtpAlertChecker : Int
  defaultIfp : Option Interface
  lvsTcpTimeout : Int
  lvsTcpfinTimeout : Int
  lvsUdpTimeout : Int
  lvsSyncd : LvsSyncd
  lvsFlush : Bool
  vrrpMcastGroup4 : SockAddr
  vrrpMcastGroup6 : SockAddr
  vrrpGarpDelay : Nat
  vrrpGarpRep : Nat
  vrrpGarpRefresh : Nat
  vrrpGarpRefreshRep : Nat
  vrrpGarpLowerPrioDelay : Nat
  vrrpGarpLowerPrioRep : Nat
  vrrpGarpInterval : Nat
  vrrpGnaInterval : Nat
  vrrpLowerPrioNoAdvert : Bool
  vrrpHigherPrioSendAdvert : Bool
  vrrpIptablesInchain : String
  vrrpIptablesOutchain : String
  usingIpsets : Bool
  vrrpIpsetAddress : String
  vrrpIpsetAddress6 : String
  vrrpIpsetAddressIface6 : String
  vrrpVersion : Nat
  vrrpCheckUnicastSrc : Bool
  vrrpSkipCheckAdvAddr : Bool
  vrrpStrict : Bool
  vrrpProcessPriority : Int
  vrrpNoSwap : Bool
  vrrpRealtimePriority : Int
  vrrpRlimitRt : Nat
  notifyFifo : NotifyFifo
  vrrpNotifyFifo : NotifyFifo
  lvsNotifyFifo : NotifyFifo
  checkerProcessPriority : Int
  checkerNoSwap : Bool
  checkerRealtimePriority : Int
  checkerRlimitRt : Nat
  bfdProcessPriority : Int
  bfdNoSwap : Bool
  bfdRealtimePriority : Int
  bfdRlimitRt : Nat
  snmpSocket : Option String
  enableTraps : Bool
  enableSnmpVrrp : Bool
  enableSnmpRfcv2 : Bool
  enableSnmpRfcv3 : Bool
  enableSnmpChecker : Bool
  networkNamespace : Option String
  namespaceWithIpsets : Bool
  enableDbus : Bool
  dbusServiceName : Option String
  instanceName : Option String
  vrrpNetlinkMonitorRcvBufs : Nat
  vrrpNetlinkMonitorRcvBufsForce : Bool
  vrrpNetlinkCmdRcvBufs : Nat
  vrrpNetlinkCmdRcvBufsForce : Bool
  lvsNetlinkMonitorRcvBufs : Nat
  lvsNetlinkMonitorRcvBufsForce : Bool
  lvsNetlinkCmdRcvBufs : Nat
  lvsNetlinkCmdRcvBufsForce : Bool
  usePidDir : Bool
  scriptSecurity : Bool
  childWaitTime : Nat
  reload : Bool
  defaultScriptUser : ScriptUser
  ifQueue : List Interface

/-- The compile-time options that gate handlers and parts of them. -/
structure BuildOptions where
  withVrrp : Bool
  withLvs : Bool
  withBfd : Bool
  haveSchedRt : Bool
  haveDeclRlimitRttime : Bool
  haveLibipset : Bool
  haveIpvsSyncdAttributes : Bool
  haveDeclCloneNewnet : Bool
  withSnmp : Bool
  withSnmpVrrp : Bool
  withSnmpRfc : Bool
  withSnmpRfcv2 : Bool
  withSnmpRfcv3 : Bool
  withSnmpChecker : Bool
  withDbus : Bool
  deriving DecidableEq, Repr

/-- The lookup mode passed to `if_get_by_ifname`. -/
inductive IfLookup where
  | noCreate
  | createIfDynamic
  | createAlways
  deriving DecidableEq, Repr

/--
What `global_parser.c` takes from outside itself: the build options, the
constants of headers it includes, and the collaborators it calls.  A
collaborator receives exactly the state it can reach.
-/
structure Env where
  build : BuildOptions
  /-- `TIMER_HZ`. -/
  timerHz : Nat
  /-- `IP_VS_IFNAME_MAXLEN`. -/
  ipVsIfnameMaxlen : Nat
  /-- `PATH_MAX`. -/
  pathMax : Nat
  /-- `SMTP_PORT_STR`. -/
  smtpPortStr : String
  /-- `sizeof` of `vrrp_iptables_inchain` and of `vrrp_iptables_outchain`. -/
  iptablesChainSize : Nat
  /-- `sizeof` of the three `vrrp_ipset_address*` buffers. -/
  ipsetNameSize : Nat
  five_le_ipsetNameSize : 5 ≤ ipsetNameSize
  /-- Width in bits of the type of `child_wait_time`. -/
  childWaitTimeBits : Nat
  /-- `sched_get_priority_min(SCHED_RR)` and `sched_get_priority_max(SCHED_RR)`. -/
  rtPriorityMin : Int
  rtPriorityMax : Int
  /-- What `strvec_slot` returns for an index past the end of the line. -/
  slotFallback : String
  /-- `check_true_false`: `none` for its error result `-1`. -/
  checkTrueFalse : String → Option Bool
  /-- `inet_stosockaddr(ip, port, addr)`: success, and the destination after the call. -/
  inetStosockaddr : String → Option String → SockAddr → Bool × SockAddr
  /--
  What an IPv6 address written through `&vrrp_mcast_group4`, a 16-byte
  `sockaddr_in`, leaves in `vrrp_mcast_group6`, the field after it in
  `global_data`: the bytes of the `sockaddr_in6` past the sixteenth land on the
  start of that field.  Given the parsed address and the field's old value; the
  layout is that of `global_data.h`, which is not part of this model.
  -/
  mcastGroup4Overrun : SockAddr → SockAddr → SockAddr
  /-- `domain_stosockaddr(name, port, addr)`: the destination after the call. -/
  domainStosockaddr : String → String → SockAddr → SockAddr
  /-- `if_get_by_ifname(name, lookup)`, given `dynamic_interfaces` and the queue. -/
  ifGetByIfname :
    String → IfLookup → Bool → List Interface → Option Interface × List Interface
  /-- `read_value_block(strvec)`: the entries of the block opened on this line. -/
  readValueBlock : Strvec → Option (List String)
  /-- `notify_script_init(strvec, with_params, type)`, given the default script user. -/
  notifyScriptInit : Strvec → Bool → String → ScriptUser → Option NotifyScript
  /-- `set_default_script_user(user, group)`: failure, and the default user after it. -/
  setDefaultScriptUser : String → Option String → ScriptUser → Bool × ScriptUser
  /-- `(unsigned)(atof(s) * TIMER_HZ)`: the floating-point conversion is taken as given. -/
  atofTimesHz : String → Nat

/-- `strvec_slot(strvec, i)`. -/
def strvecSlot (env : Env) (strvec : Strvec) (i : Nat) : String :=
  strvec.getD i env.slotFallback

/-- Below the length of the line a slot is its token: the fallback is not reached. -/
theorem strvecSlot_of_lt {env : Env} {strvec : Strvec} {i : Nat} (present : i < strvec.length) :
    strvecSlot env strvec i = strvec[i] := by
  rw [strvecSlot, List.getD_eq_getElem?_getD, List.getElem?_eq_getElem present, Option.getD_some]

/--
Modelled from the spec: `set_value` (parser.c, not part of this model).
"String-valued directives copy the token verbatim into an owned buffer": a copy
of token 1, or NULL when the line has none.
-/
def setValue (strvec : Strvec) : Option String :=
  strvec[1]?

/-- `%s` of a possibly NULL string, as glibc prints it. -/
def fmtStr : Option String → String
  | some s => s
  | none => "(null)"

/-- The `log_message` priorities this file uses. -/
inductive LogLevel where
  | info
  | err
  deriving DecidableEq, Repr

/-- What a diagnostic says happened to the line that caused it. -/
inductive Report where
  /-- The whole line is ignored. -/
  | rejectLine
  /-- One option value of a multi-option line is ignored. -/
  | rejectOption
  /-- An unknown option word is skipped. -/
  | unknownOption
  /-- A value is forced to the nearest bound. -/
  | clamp
  /-- A notice: the line still takes effect. -/
  | note
  deriving DecidableEq, Repr

/-- One `log_message` call. -/
structure Diagnostic where
  level : LogLevel
  report : Report
  text : String
  deriving DecidableEq, Repr

/-- A memory access outside its object. -/
inductive Fault where
  /-- `needed` bytes written into a buffer of `size` bytes. -/
  | overflow (buffer : String) (size needed : Nat)
  /-- A byte read outside `buffer`. -/
  | outOfBoundsRead (buffer : String)
  /-- A member read through a NULL pointer. -/
  | nullDeref (pointer : String)
  /-- A socket address of a larger family written into `field`. -/
  | sockaddrTooLarge (field : String)
  deriving DecidableEq, Repr

/-- The result of one handler call. -/
structure Outcome where
  state : GlobalState
  log : List Diagnostic
  faults : List Fault

namespace Outcome

/-- The handler returns with nothing logged. -/
def done (s : GlobalState) : Outcome :=
  ⟨s, [], []⟩

/-- The handler logs one `LOG_INFO` diagnostic and returns. -/
def info (s : GlobalState) (report : Report) (text : String) : Outcome :=
  ⟨s, [⟨.info, report, text⟩], []⟩

/-- Log `d` before everything `o` logs. -/
def logFirst (d : Diagnostic) (o : Outcome) : Outcome :=
  { o with log := d :: o.log }

/-- Record `f` before every fault of `o`. -/
def faultFirst (f : Fault) (o : Outcome) : Outcome :=
  { o with faults := f :: o.faults }

@[simp] theorem done_state (s : GlobalState) : (done s).state = s := rfl
@[simp] theorem done_log (s : GlobalState) : (done s).log = [] := rfl
@[simp] theorem done_faults (s : GlobalState) : (done s).faults = [] := rfl
@[simp] theorem info_state (s : GlobalState) (r : Report) (t : String) :
    (info s r t).state = s := rfl
@[simp] theorem info_log (s : GlobalState) (r : Report) (t : String) :
    (info s r t).log = [⟨.info, r, t⟩] := rfl
@[simp] theorem info_faults (s : GlobalState) (r : Report) (t : String) :
    (info s r t).faults = [] := rfl
@[simp] theorem logFirst_state (d : Diagnostic) (o : Outcome) :
    (logFirst d o).state = o.state := rfl
@[simp] theorem logFirst_log (d : Diagnostic) (o : Outcome) :
    (logFirst d o).log = d :: o.log := rfl
@[simp] theorem logFirst_faults (d : Diagnostic) (o : Outcome) :
    (logFirst d o).faults = o.faults := rfl
@[simp] theorem faultFirst_state (f : Fault) (o : Outcome) :
    (faultFirst f o).state = o.state := rfl
@[simp] theorem faultFirst_log (f : Fault) (o : Outcome) :
    (faultFirst f o).log = o.log := rfl
@[simp] theorem faultFirst_faults (f : Fault) (o : Outcome) :
    (faultFirst f o).faults = f :: o.faults := rfl

end Outcome

end Keepalived
