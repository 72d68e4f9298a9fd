import Keepalived.SingleAssignment
import Keepalived.SyncDaemon

namespace Keepalived

/-!
# Multicast groups

Three fields hold a multicast group: `vrrp_mcast_group4`, `vrrp_mcast_group6`
and the group of the sync daemon.  Only the `group` option of
`lvs_sync_daemon` tests what `inet_stosockaddr` left and resets an address
that is not multicast for its family to `AF_UNSPEC`; the step lemmas show that
every handler keeps that field in range, and the run lemma carries it through
any parse pass.  The two VRRP handlers store the parsed address as it is, so a
single line takes `vrrp_mcast_group4` out of range; an IPv6 address given to
`vrrp_mcast_group4` also overwrites the start of `vrrp_mcast_group6`.
-/

/-- `vrrp_mcast_group4` in range: unset, or an IPv4 address in `224.0.0.0/4`. -/
def group4InRange : SockAddr → Bool
  | .unspec => true
  | .inet addr _ => inMulticast addr
  | .inet6 _ _ => false

/-- `vrrp_mcast_group6` in range: unset, or an IPv6 address in `ff00::/8`. -/
def group6InRange : SockAddr → Bool
  | .unspec => true
  | .inet _ _ => false
  | .inet6 addr _ => in6IsAddrMulticast addr

/-- The sync daemon's group in range: unset, or multicast for its own family. -/
def syncdGroupInRange (group : SockAddr) : Bool :=
  !notMulticast group

/-- All three multicast-group fields in range. -/
def mcastGroupsInRange (s : GlobalState) : Bool :=
  group4InRange s.vrrpMcastGroup4 && group6InRange s.vrrpMcastGroup6 &&
    syncdGroupInRange s.lvsSyncd.mcastGroup

/-- Whatever the parse, the group option leaves the group in range. -/
theorem groupAfter_inRange (env : Env) (value : String) (group : SockAddr) :
    syncdGroupInRange (groupAfter env value group) = true := by
  unfold groupAfter syncdGroupInRange
  dsimp only
  split
  · rfl
  · next multicast => simpa using multicast

/-- Step lemma for the options: each option of `lvs_sync_daemon` keeps the group in range. -/
theorem syncdOptions_keep_group (env : Env) :
    ∀ opt ∈ syncdOptions env, ∀ s value,
      syncdGroupInRange s.lvsSyncd.mcastGroup = true →
        syncdGroupInRange (opt.apply s value).state.lvsSyncd.mcastGroup = true := by
  intro opt member s value inRange
  rw [syncdOptions_apply_state env opt member, setLvsSyncd_lvsSyncd,
    (syncdOptionEffect_fields env opt.keyword value s.lvsSyncd).2.2.2.2.2.2]
  split
  · exact groupAfter_inRange env value _
  · exact inRange

/-- `lvs_syncd_handler` keeps the group in range, whatever the line. -/
theorem lvsSyncdHandler_keeps_group
    (env : Env)
    (s : GlobalState)
    (strvec : Strvec)
    (inRange : syncdGroupInRange s.lvsSyncd.mcastGroup = true) :
    syncdGroupInRange (lvsSyncdHandler env s strvec).state.lvsSyncd.mcastGroup = true := by
  have scan := fun (t : GlobalState) (i : Nat) =>
    scanOptions_invariant (fun t => syncdGroupInRange t.lvsSyncd.mcastGroup = true)
      (syncdOptions_keep_group env) env "lvs_sync_daemon" strvec i (s := t)
  unfold lvsSyncdHandler
  split
  · exact inRange
  · dsimp only
    split_ifs
    · exact inRange
    · exact inRange
    · exact inRange
    · rw [Outcome.andThen_state]
      exact scan _ 4 (syncdOptions_keep_group env _ (List.mem_cons_self _ _) _ _ inRange)
    · exact scan _ 3 inRange

/-- Step lemma: every handler keeps the sync daemon's group in range. -/
theorem Handler.keeps_syncdGroup
    (handler : Handler)
    (env : Env)
    (s : GlobalState)
    (strvec : Strvec)
    (inRange : syncdGroupInRange s.lvsSyncd.mcastGroup = true) :
    syncdGroupInRange (handler.fn env s strvec).state.lvsSyncd.mcastGroup = true := by
  by_cases own : handler = .lvsSyncdHandler
  · subst own
    exact lvsSyncdHandler_keeps_group env s strvec inRange
  · have kept := OnceField.read_of_ne_owner (f := .lvsSyncd) own env s strvec
    simp only [OnceField.read, OnceValue.record.injEq] at kept
    rw [kept]
    exact inRange

/-- Run lemma: from a state whose sync group is in range, every parse pass keeps it there. -/
theorem parsePass_keeps_syncdGroup
    (env : Env)
    (table : List Keyword)
    (lines : List Strvec)
    (s : GlobalState)
    (inRange : syncdGroupInRange s.lvsSyncd.mcastGroup = true) :
    syncdGroupInRange (parsePass env table s lines).lvsSyncd.mcastGroup = true :=
  parsePass_invariant (fun t => syncdGroupInRange t.lvsSyncd.mcastGroup = true)
    (dispatch_invariant _ (fun handler => handler.keeps_syncdGroup env) table) lines s inRange

/--
From the zeroed state, where every group is unset, the one line
`vrrp_mcast_group4 10.0.0.1` reaches a state whose IPv4 group is a unicast
address.
-/
theorem vrrpMcastGroup4_unicast_reachable :
    mcastGroupsInRange zeroedState = true ∧
      (parsePass referenceEnv (initGlobalKeywords fullBuild true) zeroedState
        [["vrrp_mcast_group4", "10.0.0.1"]]).vrrpMcastGroup4 = .inet 0x0a000001#32 0 ∧
      mcastGroupsInRange (parsePass referenceEnv (initGlobalKeywords fullBuild true) zeroedState
        [["vrrp_mcast_group4", "10.0.0.1"]]) = false := by
  decide

end Keepalived
