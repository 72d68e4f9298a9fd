import Keepalived.VrrpHandlers

namespace Keepalived

/-!
# SNMP, namespaces, D-Bus, scripts and netlink buffers

The remaining handlers: the SNMP socket and its enable switches, the network
namespace and instance name (both frozen during a reload), the D-Bus and
script settings, `child_wait_time`, and the netlink receive buffers.
-/

/--
`snmp_socket_handler`.  The buffer is `MALLOC(strlen(name + 1))` bytes, one
byte short of the name when the name is not empty, and `strcpy` then writes
`strlen(name) + 1` bytes into it.
-/
def snmpSocketHandler : HandlerFn :=
  fun env s strvec =>
    let name := strvecSlot env strvec 1
    if 2 < vectorSize strvec then
      .info s .rejectLine "Too many parameters specified for snmp_socket - ignoring"
    else if vectorSize strvec < 2 then
      .info s .rejectLine "SNMP error : snmp socket name missing"
    else if env.pathMax - 1 < strlen name then
      .info s .rejectLine "SNMP error : snmp socket name too long - ignored"
    else
      match s.snmpSocket with
      | some previous =>
          .info s .rejectLine s!"SNMP socket already set to {previous} - ignoring"
      | none =>
          let readPast : List Fault :=
            if name = "" then [.outOfBoundsRead "snmp_socket name"] else []
          let allocated := (name.toList.drop 1).length
          let needed := strlen name + 1
          ⟨{ s with snmpSocket := some name }, [],
            readPast ++ if allocated < needed then [.overflow "snmp_socket" allocated needed]
              else []⟩

/-- `trap_handler`. -/
def trapHandler : HandlerFn :=
  flagHandler fun s => { s with enableTraps := true }

/-- `snmp_vrrp_handler`. -/
def snmpVrrpHandler : HandlerFn :=
  flagHandler fun s => { s with enableSnmpVrrp := true }

/-- `snmp_rfc_handler`: each RFC MIB the build includes. -/
def snmpRfcHandler : HandlerFn :=
  fun env s _ =>
    let s := if env.build.withSnmpRfcv2 then { s with enableSnmpRfcv2 := true } else s
    .done (if env.build.withSnmpRfcv3 then { s with enableSnmpRfcv3 := true } else s)

/-- `snmp_rfcv2_handler`. -/
def snmpRfcv2Handler : HandlerFn :=
  flagHandler fun s => { s with enableSnmpRfcv2 := true }

/-- `snmp_rfcv3_handler`. -/
def snmpRfcv3Handler : HandlerFn :=
  flagHandler fun s => { s with enableSnmpRfcv3 := true }

/-- `snmp_checker_handler`. -/
def snmpCheckerHandler : HandlerFn :=
  flagHandler fun s => { s with enableSnmpChecker := true }

/--
A name set once per process: skipped entirely while reloading, set from
`set_value` with `use_pid_dir` when still NULL, otherwise a duplicate.
-/
def onceNameHandler
    (what : String)
    (get : GlobalState → Option String)
    (set : GlobalState → Option String → GlobalState) :
    HandlerFn :=
  fun env s strvec =>
    if s.reload then
      .done s
    else
      match get s with
      | none => .done { set s (setValue strvec) with usePidDir := true }
      | some _ =>
          let name := strvecSlot env strvec 1
          .info s .rejectLine s!"Duplicate {what} definition {name} - ignoring"

/-- `net_namespace_handler`. -/
def netNamespaceHandler : HandlerFn :=
  onceNameHandler "net_namespace" GlobalState.networkNamespace
    fun s v => { s with networkNamespace := v }

/-- `namespace_ipsets_handler`. -/
def namespaceIpsetsHandler : HandlerFn :=
  flagHandler fun s => { s with namespaceWithIpsets := true }

/-- `enable_dbus_handler`. -/
def enableDbusHandler : HandlerFn :=
  flagHandler fun s => { s with enableDbus := true }

/-- `dbus_service_name_handler`. -/
def dbusServiceNameHandler : HandlerFn :=
  setValueHandler fun s v => { s with dbusServiceName := v }

/-- `instance_handler`. -/
def instanceHandler : HandlerFn :=
  onceNameHandler "instance" GlobalState.instanceName
    fun s v => { s with instanceName := v }

/-- `use_pid_dir_handler`. -/
def usePidDirHandler : HandlerFn :=
  flagHandler fun s => { s with usePidDir := true }

/-- `script_user_handler`: user and optional group for `set_default_script_user`. -/
def scriptUserHandler : HandlerFn :=
  fun env s strvec =>
    if vectorSize strvec < 2 then
      .info s .rejectLine "No script username specified"
    else
      let group := if 2 < vectorSize strvec then some (strvecSlot env strvec 2) else none
      let (failed, user) :=
        env.setDefaultScriptUser (strvecSlot env strvec 1) group s.defaultScriptUser
      ⟨{ s with defaultScriptUser := user },
        if failed then [⟨.info, .rejectLine, "Error setting global script uid/gid"⟩] else [],
        []⟩

/-- `script_security_handler`. -/
def scriptSecurityHandler : HandlerFn :=
  flagHandler fun s => { s with scriptSecurity := true }

/-- `child_wait_handler`: a complete `strtoul` parse, with no range check. -/
def childWaitHandler : HandlerFn :=
  fun env s strvec =>
    let value := strvecSlot env strvec 1
    let (secs, endptr) := strtoul value
    if endptr ≠ [] then
      .info s .rejectLine s!"Invalid child_wait_time {value}"
    else
      .done { s with childWaitTime := toUnsigned env.childWaitTimeBits secs }

/-- `get_netlink_rcv_bufs_size`: a complete `strtoul` parse up to `UINT_MAX`, `0` on error. -/
def getNetlinkRcvBufsSize
    (env : Env)
    (strvec : Strvec)
    (type : String) :
    Nat × List Diagnostic :=
  if vectorSize strvec < 2 then
    (0, [⟨.info, .rejectLine, s!"{type}_rcv_bufs size missing"⟩])
  else
    let value := strvecSlot env strvec 1
    let (val, endptr) := strtoul value
    if endptr ≠ [] then
      (0, [⟨.info, .rejectLine, s!"{type}_rcv_bufs size ({value}) invalid"⟩])
    else if uintMax < val then
      (0, [⟨.info, .rejectLine, s!"{type}_rcv_bufs size ({val}) too large"⟩])
    else
      (toUnsigned 32 val, [])

/-- A `*_rcv_bufs` handler: a non-zero size is stored. -/
def rcvBufsHandler (type : String) (set : GlobalState → Nat → GlobalState) : HandlerFn :=
  fun env s strvec =>
    let (val, log) := getNetlinkRcvBufsSize env strvec type
    ⟨if val ≠ 0 then set s val else s, log, []⟩

/-- `vrrp_netlink_monitor_rcv_bufs_handler`. -/
def vrrpNetlinkMonitorRcvBufsHandler : HandlerFn :=
  rcvBufsHandler "vrrp_netlink_monitor" fun s v => { s with vrrpNetlinkMonitorRcvBufs := v }

/-- `vrrp_netlink_monitor_rcv_bufs_force_handler`. -/
def vrrpNetlinkMonitorRcvBufsForceHandler : HandlerFn :=
  trueFalseHandler (invalidGlobalValue "vrrp_netlink_monitor_rcv_bufs_force")
    fun s res => { s with vrrpNetlinkMonitorRcvBufsForce := res }

/-- `vrrp_netlink_cmd_rcv_bufs_handler`. -/
def vrrpNetlinkCmdRcvBufsHandler : HandlerFn :=
  rcvBufsHandler "vrrp_netlink_cmd" fun s v => { s with vrrpNetlinkCmdRcvBufs := v }

/-- `vrrp_netlink_cmd_rcv_bufs_force_handler`. -/
def vrrpNetlinkCmdRcvBufsForceHandler : HandlerFn :=
  trueFalseHandler (invalidGlobalValue "vrrp_netlink_cmd_rcv_bufs_force")
    fun s res => { s with vrrpNetlinkCmdRcvBufsForce := res }

/-- `lvs_netlink_monitor_rcv_bufs_handler`. -/
def lvsNetlinkMonitorRcvBufsHandler : HandlerFn :=
  rcvBufsHandler "lvs_netlink_monitor" fun s v => { s with lvsNetlinkMonitorRcvBufs := v }

/-- `lvs_netlink_monitor_rcv_bufs_force_handler`. -/
def lvsNetlinkMonitorRcvBufsForceHandler : HandlerFn :=
  trueFalseHandler (invalidGlobalValue "lvs_netlink_monitor_rcv_bufs_force")
    fun s res => { s with lvsNetlinkMonitorRcvBufsForce := res }

/-- `lvs_netlink_cmd_rcv_bufs_handler`. -/
def lvsNetlinkCmdRcvBufsHandler : HandlerFn :=
  rcvBufsHandler "lvs_netlink_cmd" fun s v => { s with lvsNetlinkCmdRcvBufs := v }

/-- `lvs_netlink_cmd_rcv_bufs_force_handler`. -/
def lvsNetlinkCmdRcvBufsForceHandler : HandlerFn :=
  trueFalseHandler (invalidGlobalValue "lvs_netlink_cmd_rcv_bufs_force")
    fun s res => { s with lvsNetlinkCmdRcvBufsForce := res }

end Keepalived
