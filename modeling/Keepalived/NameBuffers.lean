import Keepalived.IpsetNames
import Keepalived.SettingRanges

namespace Keepalived

/-!
# Names that fit their buffers

`global_data` keeps the two iptables chains and the three ipset names in
fixed arrays, and `snmp_socket` is bounded by `PATH_MAX`.  `vrrp_iptables`
clears both chains and copies a chain only when it is shorter than
`sizeof - 1`; `vrrp_ipsets` copies a given name under the same test and
derives the other two by cutting before it appends `6` or `_if6`, so a
derived name has at most `IPSET_MAXNAMELEN - 1` characters; `snmp_socket`
rejects a name longer than `PATH_MAX - 1`.  The step lemmas show that each of
the three handlers keeps every name within its buffer and the footprints
show that no other handler writes these fields, so the bounds hold after any
parse pass.
-/

/-- An iptables chain as the handler leaves it: empty, or shorter than `sizeof - 1`. -/
def ChainFits (env : Env) (chain : String) : Prop :=
  chain = "" ∨ strlen chain < env.iptablesChainSize - 1

/--
Every fixed-size name of `global_data` fits its buffer: each chain is empty
or shorter than `sizeof - 1`, each ipset name shorter than
`IPSET_MAXNAMELEN`, and the SNMP socket at most `PATH_MAX - 1` long.
-/
structure NameBuffersFit (env : Env) (s : GlobalState) : Prop where
  inchain : ChainFits env s.vrrpIptablesInchain
  outchain : ChainFits env s.vrrpIptablesOutchain
  ipsetAddress : strlen s.vrrpIpsetAddress < env.ipsetNameSize
  ipsetAddress6 : strlen s.vrrpIpsetAddress6 < env.ipsetNameSize
  ipsetAddressIface6 : strlen s.vrrpIpsetAddressIface6 < env.ipsetNameSize
  snmpSocket : ∀ name, s.snmpSocket = some name → strlen name ≤ env.pathMax - 1

theorem nameBuffersFit_readsOnly (env : Env) :
    ReadsOnly [.vrrpIptablesInchain, .vrrpIptablesOutchain, .vrrpIpsetAddress,
      .vrrpIpsetAddress6, .vrrpIpsetAddressIface6, .snmpSocket] (NameBuffersFit env) :=
  fun _ _ fits => ⟨fits.inchain, fits.outchain, fits.ipsetAddress, fits.ipsetAddress6,
    fits.ipsetAddressIface6, fits.snmpSocket⟩

/-- A chain that passed the handler's length test fits. -/
theorem chainFits_of_short {env : Env} {chain : String}
    (short : ¬env.iptablesChainSize - 1 ≤ strlen chain) : ChainFits env chain :=
  .inr (by omega)

/-- An ipset name that passed the handler's length test fits. -/
theorem ipsetNameFits_of_short {env : Env} {name : String}
    (short : ¬env.ipsetNameSize - 1 ≤ strlen name) : strlen name < env.ipsetNameSize := by
  omega

/-- `vrrp_iptables` leaves both chains empty or short enough, whatever the line. -/
theorem vrrpIptablesHandler_keeps_fit
    (env : Env)
    (s : GlobalState)
    (strvec : Strvec)
    (fits : NameBuffersFit env s) :
    NameBuffersFit env (vrrpIptablesHandler env s strvec).state := by
  have empty : ChainFits env "" := .inl rfl
  unfold vrrpIptablesHandler
  dsimp only
  split_ifs with present inLong enough outLong
  · exact { fits with inchain := empty, outchain := empty }
  · exact { fits with inchain := chainFits_of_short inLong, outchain := empty }
  · exact { fits with
      inchain := chainFits_of_short inLong
      outchain := chainFits_of_short outLong }
  · exact { fits with inchain := chainFits_of_short inLong, outchain := empty }
  · exact { fits with inchain := empty, outchain := empty }

/-- The derived IPv6 set name is shorter than the buffer. -/
theorem strlen_ipsetAddress6Of_lt {size : Nat} (large : 5 ≤ size) (name : String) :
    strlen (ipsetAddress6Of size name) < size := by
  have six : "6".length = 1 := rfl
  rw [strlen, ipsetAddress6Of, String.length_append, length_truncate, six]
  omega

/-- The derived interface set name is shorter than the buffer. -/
theorem strlen_ipsetAddressIface6Of_lt {size : Nat} (large : 5 ≤ size) (address6 : String) :
    strlen (ipsetAddressIface6Of size address6).1 < size := by
  have ifSix : "_if6".length = 4 := rfl
  unfold ipsetAddressIface6Of
  split
  · next stem _ _ =>
      show strlen (truncate stem (size - 5) ++ "_if6") < size
      rw [strlen, String.length_append, length_truncate, ifSix]
      omega

/-- The step that fills the interface set keeps every name within its buffer. -/
theorem ipsetIface6Step_keeps_fit
    (env : Env)
    (strvec : Strvec)
    (s : GlobalState)
    (fits : NameBuffersFit env s) :
    NameBuffersFit env (ipsetIface6Step env strvec s).state := by
  rw [ipsetIface6Step_state]
  split_ifs with given long
  · exact fits
  · exact { fits with ipsetAddressIface6 := ipsetNameFits_of_short long }
  · exact { fits with
      ipsetAddressIface6 := strlen_ipsetAddressIface6Of_lt env.five_le_ipsetNameSize _ }

/-- `vrrp_ipsets` keeps the three set names within their buffers, whatever the line. -/
theorem vrrpIpsetsHandler_keeps_fit
    (env : Env)
    (s : GlobalState)
    (strvec : Strvec)
    (fits : NameBuffersFit env s) :
    NameBuffersFit env (vrrpIpsetsHandler env s strvec).state := by
  unfold vrrpIpsetsHandler
  dsimp only
  split_ifs with present long more long6
  · exact fits
  · exact { fits with ipsetAddress := ipsetNameFits_of_short long }
  · exact ipsetIface6Step_keeps_fit env strvec _
      { fits with
        ipsetAddress := ipsetNameFits_of_short long
        ipsetAddress6 := ipsetNameFits_of_short long6 }
  · exact ipsetIface6Step_keeps_fit env strvec _
      { fits with
        ipsetAddress := ipsetNameFits_of_short long
        ipsetAddress6 := strlen_ipsetAddress6Of_lt env.five_le_ipsetNameSize _ }
  · exact { fits with }

/-- `snmp_socket` stores only a name of at most `PATH_MAX - 1` characters. -/
theorem snmpSocketHandler_keeps_fit
    (env : Env)
    (s : GlobalState)
    (strvec : Strvec)
    (fits : NameBuffersFit env s) :
    NameBuffersFit env (snmpSocketHandler env s strvec).state := by
  unfold snmpSocketHandler
  dsimp only
  split
  · exact fits
  split
  · exact fits
  split
  · exact fits
  split
  · exact fits
  · next long _ _ =>
      refine { fits with snmpSocket := fun name stored => ?_ }
      rw [← Option.some.inj stored]
      omega

/-- Step lemma: every handler keeps every fixed-size name within its buffer. -/
theorem Handler.keeps_nameBuffersFit (env : Env) :
    ∀ (handler : Handler) s strvec,
      NameBuffersFit env s → NameBuffersFit env (handler.fn env s strvec).state := by
  refine Handler.keeps_of_owners (nameBuffersFit_readsOnly env)
    [.vrrpIptablesHandler, .vrrpIpsetsHandler, .snmpSocketHandler]
    (fun handler => by cases handler <;> rfl) ?_
  simp only [List.mem_cons, List.mem_singleton, List.not_mem_nil, or_false]
  rintro handler (rfl | rfl | rfl)
  exacts [vrrpIptablesHandler_keeps_fit env, vrrpIpsetsHandler_keeps_fit env,
    snmpSocketHandler_keeps_fit env]

/--
Every parse pass keeps the iptables chains, the ipset names and the SNMP
socket name within their buffers.
-/
theorem parsePass_keeps_nameBuffersFit
    (env : Env)
    (table : List Keyword)
    (lines : List Strvec)
    (s : GlobalState)
    (fits : NameBuffersFit env s) :
    NameBuffersFit env (parsePass env table s lines) :=
  parsePass_of_handlers _ (Handler.keeps_nameBuffersFit env) table lines s fits

/-- From the zeroed state, a pass with a chain and a set name too long keeps every name fitting. -/
theorem nameBuffersFit_zeroed_pass :
    NameBuffersFit referenceEnv zeroedState ∧
      NameBuffersFit referenceEnv
        (parsePass referenceEnv (initGlobalKeywords fullBuild true) zeroedState
          [["vrrp_iptables", "INPUT_CHAIN", "a_chain_name_far_too_long_to_fit"],
            ["vrrp_ipsets", "aaaaaaaaaaaaaaaaaaaaaaaaaaaaaa"], ["snmp_socket", "udp:705"]]) :=
  have start : NameBuffersFit referenceEnv zeroedState :=
    ⟨.inl rfl, .inl rfl, by decide, by decide, by decide, fun _ unset => nomatch unset⟩
  ⟨start, parsePass_keeps_nameBuffersFit _ _ _ _ start⟩

end Keepalived
