import Keepalived.SystemHandlers
import Keepalived.Platform

namespace Keepalived

/-!
# Memory faults

A handler's `faults` list the out-of-bounds accesses and NULL dereferences the
C code makes on its line.  `snmp_socket_handler` sizes its copy as
`MALLOC(strlen(s + 1))`, two bytes short of what `strcpy` writes, for every
name it accepts.  `vrrp_ipsets_handler` tests the last byte of an empty second
name, one byte before the buffer, and `default_interface_handler` reads the
name of the interface its lookup did not find.
-/

/-- The bytes past the first of a C string: what `MALLOC(strlen(s + 1))` allocates. -/
theorem length_drop_one (name : String) :
    (name.toList.drop 1).length = strlen name - 1 :=
  List.length_drop 1 name.data

/--
Every name `snmp_socket` accepts is copied, with its terminator, into a buffer
two bytes shorter.
-/
theorem snmpSocketHandler_overflows
    (env : Env)
    (s : GlobalState)
    (name : String)
    (unset : s.snmpSocket = none)
    (fits : strlen name ≤ env.pathMax - 1) :
    Fault.overflow "snmp_socket" (strlen name - 1) (strlen name + 1) ∈
      (snmpSocketHandler env s ["snmp_socket", name]).faults := by
  have short : strlen name - 1 < strlen name + 1 := by omega
  simp only [snmpSocketHandler, vectorSize, strvecSlot, unset, List.length_cons,
    List.length_nil, List.getD_cons_succ, List.getD_cons_zero, length_drop_one, short,
    ↓reduceIte, Nat.lt_irrefl, not_lt.mpr fits]
  simp

/-- `snmp_socket sock` on the zeroed state: `strcpy` writes five bytes into the three it gets. -/
theorem snmpSocket_sock_overflows :
    (snmpSocketHandler referenceEnv zeroedState ["snmp_socket", "sock"]).faults =
      [.overflow "snmp_socket" 3 5] := by
  decide

/--
With a first name that fits and an empty second one, the derivation of the
interface set tests the byte before its buffer.
-/
theorem vrrpIpsetsHandler_reads_before_iface6
    (env : Env)
    (s : GlobalState)
    (name : String)
    (fits : strlen name < env.ipsetNameSize - 1) :
    Fault.outOfBoundsRead "vrrp_ipset_address_iface6" ∈
      (vrrpIpsetsHandler env s ["vrrp_ipsets", name, ""]).faults := by
  have emptyFits : ¬env.ipsetNameSize - 1 ≤ strlen "" := by
    have := env.five_le_ipsetNameSize
    simp [strlen]
    omega
  simp only [vrrpIpsetsHandler, vectorSize, strvecSlot, List.length_cons, List.length_nil,
    List.getD_cons_succ, List.getD_cons_zero, not_le.mpr fits, emptyFits, ↓reduceIte]
  simp [ipsetIface6Step, vectorSize, ipsetAddressIface6Of]

/--
On the reference platform, `default_interface` naming an interface that is not
queued, with dynamic interfaces off, reads through the NULL result of the lookup.
-/
theorem defaultInterfaceHandler_derefs_null
    (s : GlobalState)
    (name : String)
    (absent : s.ifQueue.find? (·.ifname == name) = none)
    (static : s.dynamicInterfaces = false) :
    Fault.nullDeref "ifp" ∈
      (defaultInterfaceHandler referenceEnv s ["default_interface", name]).faults := by
  simp [defaultInterfaceHandler, vectorSize, strvecSlot, referenceEnv, referenceIfGetByIfname,
    absent, static]

end Keepalived
