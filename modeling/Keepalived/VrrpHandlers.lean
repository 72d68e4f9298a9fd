import Keepalived.ProcessHandlers

namespace Keepalived

/-!
# VRRP global definitions

Multicast groups, gratuitous ARP tuning, the advert flags, the iptables
chains and ipset names, the protocol version and the VRRP process flags.
-/

/--
`vrrp_mcast_group4_handler`: the address goes straight into a `sockaddr_in`.
An IPv6 address does not fit it, and its tail overwrites the start of
`vrrp_mcast_group6`.
-/
def vrrpMcastGroup4Handler : HandlerFn :=
  fun env s strvec =>
    let value := strvecSlot env strvec 1
    let (ok, mcast) := env.inetStosockaddr value none s.vrrpMcastGroup4
    let overruns := mcast.family = .inet6
    ⟨{ s with
        vrrpMcastGroup4 := mcast
        vrrpMcastGroup6 :=
          if overruns then env.mcastGroup4Overrun mcast s.vrrpMcastGroup6
          else s.vrrpMcastGroup6 },
      if ok then []
      else [⟨.err, .rejectLine,
        s!"Configuration error: Cant parse vrrp_mcast_group4 [{value}]. Skipping"⟩],
      if overruns then [.sockaddrTooLarge "vrrp_mcast_group4"] else []⟩

/-- `vrrp_mcast_group6_handler`: the address goes straight into a `sockaddr_in6`. -/
def vrrpMcastGroup6Handler : HandlerFn :=
  fun env s strvec =>
    let value := strvecSlot env strvec 1
    let (ok, mcast) := env.inetStosockaddr value none s.vrrpMcastGroup6
    ⟨{ s with vrrpMcastGroup6 := mcast },
      if ok then []
      else [⟨.err, .rejectLine,
        s!"Configuration error: Cant parse vrrp_mcast_group6 [{value}]. Skipping"⟩],
      []⟩

/-- `(unsigned)strtoul(strvec_slot(strvec, 1), NULL, 10)`. -/
def unsignedArg (env : Env) (strvec : Strvec) : Nat :=
  toUnsigned 32 (strtoul (strvecSlot env strvec 1)).1

/-- A GARP delay: seconds times `TIMER_HZ` in `unsigned` arithmetic. -/
def garpDelayHandler (set : GlobalState → Nat → GlobalState) : HandlerFn :=
  fun env s strvec => .done (set s (toUnsigned 32 (unsignedArg env strvec * env.timerHz)))

/-- A GARP repeat count of at least one. -/
def garpRepHandler (set : GlobalState → Nat → GlobalState) : HandlerFn :=
  fun env s strvec =>
    let rep := unsignedArg env strvec
    .done (set s (if rep < 1 then 1 else rep))

/-- A plain `unsigned` GARP setting. -/
def garpUnsignedHandler (set : GlobalState → Nat → GlobalState) : HandlerFn :=
  fun env s strvec => .done (set s (unsignedArg env strvec))

/-- A GARP or GNA interval in seconds, scaled by `TIMER_HZ` in floating point. -/
def garpIntervalHandler (name : String) (set : GlobalState → Nat → GlobalState) :
    HandlerFn :=
  fun env s strvec =>
    let value := strvecSlot env strvec 1
    let interval := env.atofTimesHz value
    ⟨set s interval,
      if env.timerHz ≤ interval then
        [⟨.info, .note, s!"The {name} is very large - {value} seconds"⟩]
      else [],
      []⟩

/-- `vrrp_garp_delay_handler`. -/
def vrrpGarpDelayHandler : HandlerFn :=
  garpDelayHandler fun s v => { s with vrrpGarpDelay := v }

/-- `vrrp_garp_rep_handler`. -/
def vrrpGarpRepHandler : HandlerFn :=
  garpRepHandler fun s v => { s with vrrpGarpRep := v }

/-- `vrrp_garp_refresh_handler`: `vrrp_garp_refresh.tv_sec`. -/
def vrrpGarpRefreshHandler : HandlerFn :=
  garpUnsignedHandler fun s v => { s with vrrpGarpRefresh := v }

/-- `vrrp_garp_refresh_rep_handler`. -/
def vrrpGarpRefreshRepHandler : HandlerFn :=
  garpRepHandler fun s v => { s with vrrpGarpRefreshRep := v }

/-- `vrrp_garp_lower_prio_delay_handler`. -/
def vrrpGarpLowerPrioDelayHandler : HandlerFn :=
  garpDelayHandler fun s v => { s with vrrpGarpLowerPrioDelay := v }

/-- `vrrp_garp_lower_prio_rep_handler`. -/
def vrrpGarpLowerPrioRepHandler : HandlerFn :=
  garpUnsignedHandler fun s v => { s with vrrpGarpLowerPrioRep := v }

/-- `vrrp_garp_interval_handler`. -/
def vrrpGarpIntervalHandler : HandlerFn :=
  garpIntervalHandler "vrrp_garp_interval" fun s v => { s with vrrpGarpInterval := v }

/-- `vrrp_gna_interval_handler`. -/
def vrrpGnaIntervalHandler : HandlerFn :=
  garpIntervalHandler "vrrp_gna_interval" fun s v => { s with vrrpGnaInterval := v }

/-- `vrrp_lower_prio_no_advert_handler`. -/
def vrrpLowerPrioNoAdvertHandler : HandlerFn :=
  trueFalseHandler (fun _ => "Invalid value for vrrp_lower_prio_no_advert specified")
    fun s res => { s with vrrpLowerPrioNoAdvert := res }

/-- `vrrp_higher_prio_send_advert_handler`. -/
def vrrpHigherPrioSendAdvertHandler : HandlerFn :=
  trueFalseHandler (fun _ => "Invalid value for vrrp_higher_prio_send_advert specified")
    fun s res => { s with vrrpHigherPrioSendAdvert := res }

/--
`vrrp_iptables_handler`: both chains are cleared first; a name of
`sizeof - 1` bytes or more is logged and stops the handler.
-/
def vrrpIptablesHandler : HandlerFn :=
  fun env s strvec =>
    let cleared := { s with vrrpIptablesInchain := "", vrrpIptablesOutchain := "" }
    let inchain := strvecSlot env strvec 1
    let outchain := strvecSlot env strvec 2
    if 2 ≤ vectorSize strvec then
      if env.iptablesChainSize - 1 ≤ strlen inchain then
        .info cleared .rejectLine "VRRP Error : iptables in chain name too long - ignored"
      else
        let withIn := { cleared with vrrpIptablesInchain := inchain }
        if 3 ≤ vectorSize strvec then
          if env.iptablesChainSize - 1 ≤ strlen outchain then
            .info withIn .rejectLine "VRRP Error : iptables out chain name too long - ignored"
          else
            .done { withIn with vrrpIptablesOutchain := outchain }
        else
          .done withIn
    else
      .done cleared

/-- A C string cut at index `n`: `buf[n] = '\0'`. -/
def truncate (s : String) (n : Nat) : String :=
  ⟨s.toList.take n⟩

/-- The IPv6 set name derived from the first: copy, cut at `S - 2`, append `6`. -/
def ipsetAddress6Of (size : Nat) (address : String) : String :=
  truncate address (size - 2) ++ "6"

/--
The IPv6 interface set name derived from the second: copy, drop a trailing
`6`, cut at `S - 5`, append `_if6`.  On an empty name the test of
`iface6[len-1]` reads the byte before the buffer.
-/
def ipsetAddressIface6Of (size : Nat) (address6 : String) : String × List Fault :=
  let (stem, faults) :=
    match address6.toList.getLast? with
    | none => (address6, [Fault.outOfBoundsRead "vrrp_ipset_address_iface6"])
    | some last => (if last = '6' then ⟨address6.toList.dropLast⟩ else address6, [])
  (truncate stem (size - 5) ++ "_if6", faults)

/-- The third ipset name: given on the line, or derived from the second. -/
def ipsetIface6Step (env : Env) (strvec : Strvec) (s : GlobalState) : Outcome :=
  if 4 ≤ vectorSize strvec then
    let name := strvecSlot env strvec 3
    if env.ipsetNameSize - 1 ≤ strlen name then
      .info s .rejectLine "VRRP Error : ipset IPv6 address_iface name too long - ignored"
    else
      .done { s with vrrpIpsetAddressIface6 := name }
  else
    let (iface6, faults) := ipsetAddressIface6Of env.ipsetNameSize s.vrrpIpsetAddress6
    ⟨{ s with vrrpIpsetAddressIface6 := iface6 }, [], faults⟩

/-- What the third step leaves: the given name if it fits, else the derived one. -/
theorem ipsetIface6Step_state (env : Env) (strvec : Strvec) (s : GlobalState) :
    (ipsetIface6Step env strvec s).state =
      if 4 ≤ vectorSize strvec then
        if env.ipsetNameSize - 1 ≤ strlen (strvecSlot env strvec 3) then s
        else { s with vrrpIpsetAddressIface6 := strvecSlot env strvec 3 }
      else
        { s with vrrpIpsetAddressIface6 :=
          (ipsetAddressIface6Of env.ipsetNameSize s.vrrpIpsetAddress6).1 } := by
  simp only [ipsetIface6Step]
  split_ifs <;> rfl

/--
`vrrp_ipsets_handler`: each name is stored as soon as it passes its length
check, before the next one is checked.
-/
def vrrpIpsetsHandler : HandlerFn :=
  fun env s strvec =>
    if 2 ≤ vectorSize strvec then
      let name := strvecSlot env strvec 1
      if env.ipsetNameSize - 1 ≤ strlen name then
        .info s .rejectLine "VRRP Error : ipset address name too long - ignored"
      else
        let withFirst := { s with vrrpIpsetAddress := name }
        if 3 ≤ vectorSize strvec then
          let name6 := strvecSlot env strvec 2
          if env.ipsetNameSize - 1 ≤ strlen name6 then
            .info withFirst .rejectLine "VRRP Error : ipset IPv6 address name too long - ignored"
          else
            ipsetIface6Step env strvec { withFirst with vrrpIpsetAddress6 := name6 }
        else
          ipsetIface6Step env strvec
            { withFirst with vrrpIpsetAddress6 := ipsetAddress6Of env.ipsetNameSize name }
    else
      .done { s with usingIpsets := false }

/--
`VRRP_IS_BAD_VERSION` (vrrp.h, not part of this model), as the handler's own
message states it: a version other than 2 or 3.
-/
def vrrpIsBadVersion (version : Nat) : Bool :=
  version < 2 || 3 < version

/-- `vrrp_version_handler`: the value is cast to `uint8_t` before it is checked. -/
def vrrpVersionHandler : HandlerFn :=
  fun env s strvec =>
    let version := toUnsigned 8 (strtoul (strvecSlot env strvec 1)).1
    if vrrpIsBadVersion version then
      ⟨s, [⟨.info, .rejectLine, "VRRP Error : Version not valid !"⟩,
          ⟨.info, .rejectLine, "             must be between either 2 or 3. reconfigure !"⟩],
        []⟩
    else
      .done { s with vrrpVersion := version }

/-- `vrrp_check_unicast_src_handler`. -/
def vrrpCheckUnicastSrcHandler : HandlerFn :=
  flagHandler fun s => { s with vrrpCheckUnicastSrc := true }

/-- `vrrp_check_adv_addr_handler`. -/
def vrrpCheckAdvAddrHandler : HandlerFn :=
  flagHandler fun s => { s with vrrpSkipCheckAdvAddr := true }

/-- `vrrp_strict_handler`. -/
def vrrpStrictHandler : HandlerFn :=
  flagHandler fun s => { s with vrrpStrict := true }

/-- `vrrp_no_swap_handler`. -/
def vrrpNoSwapHandler : HandlerFn :=
  flagHandler fun s => { s with vrrpNoSwap := true }

end Keepalived
