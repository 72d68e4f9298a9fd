import Keepalived.McastGroups

namespace Keepalived

/-!
# Settings that stay in range over a parse pass

Each numeric setting below is stored by one handler, after a check:
`lvs_timeouts` tests `[lo, LVS_MAX_TIMEOUT]`, the options of
`lvs_sync_daemon` test their ranges, `vrrp_version` tests
`VRRP_IS_BAD_VERSION`, the GARP repeat handlers raise zero to one,
`get_priority` tests the nice range and `get_realtime_priority` clamps to the
`SCHED_RR` range.  The
footprints show that no other handler writes these fields, so a range that
holds before a parse pass holds after it, whatever the lines and the table.

`ReadsOnly` and `Handler.keeps_of_owners` state that argument once: a
property that reads only some fields is kept by every handler that writes
none of them, and the few handlers that do write one are checked each on
its own.
-/

/-- `P` looks at `fields` alone: a state taking them from one that satisfies `P` satisfies it. -/
def ReadsOnly (fields : List Field) (P : GlobalState → Prop) : Prop :=
  ∀ s t, P s → P (restore fields s t)

namespace Handler

/-- A handler whose writes miss the fields `P` reads keeps `P`. -/
theorem keeps_of_disjoint
    {fields : List Field}
    {P : GlobalState → Prop}
    (readsOnly : ReadsOnly fields P)
    (handler : Handler)
    (disjoint : ∀ f, f ∈ fields → f ∉ handler.writes)
    (env : Env)
    (s : GlobalState)
    (strvec : Strvec)
    (holds : P s) :
    P (handler.fn env s strvec).state := by
  rw [← handler.footprint.agrees disjoint env s strvec]
  exact readsOnly s _ holds

/-- Whether a handler is one of `owners` or writes none of `fields`, as one computation. -/
def ownsOrMisses (owners : List Handler) (fields : List Field) (handler : Handler) : Bool :=
  owners.contains handler || fields.all fun f => !handler.writes.contains f

/-- A handler that passed the check and is no owner writes none of `fields`. -/
theorem misses_of_ownsOrMisses
    {owners : List Handler}
    {fields : List Field}
    {handler : Handler}
    (checked : ownsOrMisses owners fields handler = true)
    (notOwner : handler ∉ owners) :
    ∀ f, f ∈ fields → f ∉ handler.writes := by
  intro f mem written
  simp only [ownsOrMisses, Bool.or_eq_true, List.all_eq_true, Bool.not_eq_true'] at checked
  rcases checked with owner | misses
  · exact notOwner (List.elem_iff.mp owner)
  · exact Bool.false_ne_true ((misses f mem).symm.trans (List.elem_iff.mpr written))

/--
When only `owners` write the fields `P` reads and each of them keeps `P`,
every handler keeps `P`.
-/
theorem keeps_of_owners
    {fields : List Field}
    {P : GlobalState → Prop}
    {env : Env}
    (readsOnly : ReadsOnly fields P)
    (owners : List Handler)
    (onlyOwners : ∀ handler : Handler, handler.ownsOrMisses owners fields = true)
    (ownersKeep : ∀ handler ∈ owners, ∀ s strvec, P s → P (handler.fn env s strvec).state)
    (handler : Handler)
    (s : GlobalState)
    (strvec : Strvec)
    (holds : P s) :
    P (handler.fn env s strvec).state := by
  by_cases owner : handler ∈ owners
  · exact ownersKeep handler owner s strvec holds
  · exact handler.keeps_of_disjoint readsOnly
      (misses_of_ownsOrMisses (onlyOwners handler) owner) env s strvec holds

end Handler

/-- Run lemma: a property every handler keeps holds after any parse pass with any table. -/
theorem parsePass_of_handlers
    (P : GlobalState → Prop)
    {env : Env}
    (handlersKeep : ∀ (handler : Handler) s strvec, P s → P (handler.fn env s strvec).state)
    (table : List Keyword)
    (lines : List Strvec)
    (s : GlobalState)
    (holds : P s) :
    P (parsePass env table s lines) :=
  parsePass_invariant P (dispatch_invariant P handlersKeep table) lines s holds

/-! ## LVS timeouts -/

/-- A timeout `lvs_timeouts` can leave: in `[0, LVS_MAX_TIMEOUT]`, `0` standing for unset. -/
def TimeoutInRange (t : Int) : Prop :=
  0 ≤ t ∧ t ≤ lvsMaxTimeout

instance : DecidablePred TimeoutInRange :=
  fun t => inferInstanceAs (Decidable (0 ≤ t ∧ t ≤ lvsMaxTimeout))

/-- The three LVS timeouts in range. -/
structure LvsTimeoutsInRange (s : GlobalState) : Prop where
  tcp : TimeoutInRange s.lvsTcpTimeout
  tcpfin : TimeoutInRange s.lvsTcpfinTimeout
  udp : TimeoutInRange s.lvsUdpTimeout

theorem lvsTimeoutsInRange_readsOnly :
    ReadsOnly [.lvsTcpTimeout, .lvsTcpfinTimeout, .lvsUdpTimeout] LvsTimeoutsInRange :=
  fun _ _ inRange => ⟨inRange.tcp, inRange.tcpfin, inRange.udp⟩

/-- A value that passes a timeout check with a non-negative lower bound is in range. -/
theorem timeoutInRange_of_accepted
    {lo val : Int}
    {value : String}
    (nonneg : 0 ≤ lo)
    (accepted : lvsTimeoutValue lo value = some val) :
    TimeoutInRange val :=
  have bounds := lvsTimeoutValue_bounds accepted
  ⟨Int.le_trans nonneg bounds.1, bounds.2⟩

/-- Step lemma for the options: each option of `lvs_timeouts` keeps the timeouts in range. -/
theorem lvsTimeoutOptions_keep_inRange :
    ∀ opt ∈ lvsTimeoutOptions, ∀ s value,
      LvsTimeoutsInRange s → LvsTimeoutsInRange (opt.apply s value).state := by
  simp only [lvsTimeoutOptions, List.mem_cons, List.mem_singleton, List.not_mem_nil, or_false]
  rintro opt (rfl | rfl | rfl) s value inRange <;>
    rw [timeoutOption_apply_state (by decide)] <;> split
  · exact inRange
  · next accepted =>
      exact { inRange with tcp := timeoutInRange_of_accepted (Int.le_refl 0) accepted }
  · exact inRange
  · next accepted =>
      exact { inRange with tcpfin := timeoutInRange_of_accepted (by decide) accepted }
  · exact inRange
  · next accepted =>
      exact { inRange with udp := timeoutInRange_of_accepted (by decide) accepted }

/-- `lvs_timeouts` keeps the timeouts in range, whatever the line. -/
theorem lvsTimeouts_keeps_inRange
    (env : Env)
    (s : GlobalState)
    (strvec : Strvec)
    (inRange : LvsTimeoutsInRange s) :
    LvsTimeoutsInRange (lvsTimeouts env s strvec).state := by
  unfold lvsTimeouts
  split
  · exact inRange
  · exact scanOptions_invariant _ lvsTimeoutOptions_keep_inRange env _ strvec 1 inRange

/-- Step lemma: every handler keeps the LVS timeouts in range. -/
theorem Handler.keeps_lvsTimeoutsInRange (env : Env) :
    ∀ (handler : Handler) s strvec,
      LvsTimeoutsInRange s → LvsTimeoutsInRange (handler.fn env s strvec).state :=
  Handler.keeps_of_owners lvsTimeoutsInRange_readsOnly [.lvsTimeouts]
    (fun handler => by cases handler <;> rfl)
    (fun _ owner => List.mem_singleton.mp owner ▸ lvsTimeouts_keeps_inRange env)

/-- Every parse pass keeps the three LVS timeouts in `[0, LVS_MAX_TIMEOUT]`. -/
theorem parsePass_keeps_lvsTimeoutsInRange
    (env : Env)
    (table : List Keyword)
    (lines : List Strvec)
    (s : GlobalState)
    (inRange : LvsTimeoutsInRange s) :
    LvsTimeoutsInRange (parsePass env table s lines) :=
  parsePass_of_handlers _ (Handler.keeps_lvsTimeoutsInRange env) table lines s inRange

/-- From the zeroed state, a pass that sets the TCP timeout keeps the timeouts in range. -/
theorem lvsTimeoutsInRange_zeroed_pass :
    LvsTimeoutsInRange zeroedState ∧
      LvsTimeoutsInRange (parsePass referenceEnv (initGlobalKeywords fullBuild true) zeroedState
        [["lvs_timeouts", "tcp", "900", "udp", "0"]]) :=
  have start : LvsTimeoutsInRange zeroedState :=
    ⟨by decide, by decide, by decide⟩
  ⟨start, parsePass_keeps_lvsTimeoutsInRange _ _ _ _ start⟩

/-! ## The sync daemon record -/

/-- `set_value` on a line with a second token is that token. -/
theorem setValue_of_lt {env : Env} {strvec : Strvec} (present : 1 < vectorSize strvec) :
    setValue strvec = some (strvecSlot env strvec 1) := by
  rw [setValue, strvecSlot_of_lt present, List.getElem?_eq_getElem present]

/--
The `lvs_sync_daemon` record as its handler leaves it: both names or
neither, each shorter than `IP_VS_IFNAME_MAXLEN`, each number within the
range of its option, and the group unset or multicast for its family.
-/
structure SyncdWellFormed (env : Env) (record : LvsSyncd) : Prop where
  named : record.ifname.isSome = record.vrrpName.isSome
  ifnameFits : ∀ name, record.ifname = some name → strlen name < env.ipVsIfnameMaxlen
  vrrpNameFits : ∀ name, record.vrrpName = some name → strlen name < env.ipVsIfnameMaxlen
  syncid : record.syncid ≤ 255
  maxlen : record.syncMaxlen ≤ 65535 - 20 - 8
  port : record.mcastPort ≤ 65535
  ttl : record.mcastTtl ≤ 255
  group : syncdGroupInRange record.mcastGroup = true

theorem syncdWellFormed_readsOnly (env : Env) :
    ReadsOnly [.lvsSyncd] fun t => SyncdWellFormed env t.lvsSyncd :=
  fun _ _ wellFormed => wellFormed

/-- A value that passes a `strtoul` check, or the old value, stays within the check's bound. -/
theorem syncdValue_getD_le {lo hi old : Nat} (value : String) (below : old ≤ hi) :
    (syncdValue lo hi value).getD old ≤ hi := by
  cases accepted : syncdValue lo hi value with
  | none => exact below
  | some val => exact (syncdValue_bounds accepted).2

/-- Each option of `lvs_sync_daemon` keeps the record well formed. -/
theorem syncdOptionEffect_wellFormed
    {env : Env}
    {record : LvsSyncd}
    (keyword value : String)
    (wellFormed : SyncdWellFormed env record) :
    SyncdWellFormed env (syncdOptionEffect env keyword value record) := by
  obtain ⟨ifnameEq, vrrpNameEq, syncidEq, maxlenEq, portEq, ttlEq, groupEq⟩ :=
    syncdOptionEffect_fields env keyword value record
  refine ⟨?_, ?_, ?_, ?_, ?_, ?_, ?_, ?_⟩
  · rw [ifnameEq, vrrpNameEq]
    exact wellFormed.named
  · rw [ifnameEq]
    exact wellFormed.ifnameFits
  · rw [vrrpNameEq]
    exact wellFormed.vrrpNameFits
  · rw [syncidEq]
    split
    exacts [syncdValue_getD_le value wellFormed.syncid, wellFormed.syncid]
  · rw [maxlenEq]
    split
    exacts [syncdValue_getD_le value wellFormed.maxlen, wellFormed.maxlen]
  · rw [portEq]
    split
    exacts [syncdValue_getD_le value wellFormed.port, wellFormed.port]
  · rw [ttlEq]
    split
    exacts [syncdValue_getD_le value wellFormed.ttl, wellFormed.ttl]
  · rw [groupEq]
    split
    exacts [groupAfter_inRange env value _, wellFormed.group]

/-- Step lemma for the options: every option of `lvs_sync_daemon` keeps the record well formed. -/
theorem syncdOptions_keep_wellFormed (env : Env) :
    ∀ opt ∈ syncdOptions env, ∀ s value,
      SyncdWellFormed env s.lvsSyncd →
        SyncdWellFormed env (opt.apply s value).state.lvsSyncd := by
  intro opt member s value wellFormed
  rw [syncdOptions_apply_state env opt member, setLvsSyncd_lvsSyncd]
  exact syncdOptionEffect_wellFormed _ _ wellFormed

/-- Naming the record from a line whose two names passed their length tests keeps it well formed. -/
theorem named_wellFormed
    {env : Env}
    {strvec : Strvec}
    {record : LvsSyncd}
    (enough : ¬vectorSize strvec < 3)
    (ifnameFits : ¬env.ipVsIfnameMaxlen ≤ strlen (strvecSlot env strvec 1))
    (vrrpNameFits : ¬env.ipVsIfnameMaxlen ≤ strlen (strvecSlot env strvec 2))
    (wellFormed : SyncdWellFormed env record) :
    SyncdWellFormed env
      { record with ifname := setValue strvec, vrrpName := some (strvecSlot env strvec 2) } := by
  have named : setValue strvec = some (strvecSlot env strvec 1) := setValue_of_lt (by omega)
  refine { wellFormed with named := ?_, ifnameFits := ?_, vrrpNameFits := ?_ }
  · simp only [named, Option.isSome_some]
  · intro name stored
    rw [named, Option.some.injEq] at stored
    rw [← stored]
    omega
  · intro name stored
    rw [← Option.some.inj stored]
    omega

/-- `lvs_syncd_handler` keeps the record well formed, whatever the line. -/
theorem lvsSyncdHandler_keeps_wellFormed
    (env : Env)
    (s : GlobalState)
    (strvec : Strvec)
    (wellFormed : SyncdWellFormed env s.lvsSyncd) :
    SyncdWellFormed env (lvsSyncdHandler env s strvec).state.lvsSyncd := by
  have scan := fun (t : GlobalState) (i : Nat) =>
    scanOptions_invariant (fun t => SyncdWellFormed env t.lvsSyncd)
      (syncdOptions_keep_wellFormed env) env "lvs_sync_daemon" strvec i (s := t)
  unfold lvsSyncdHandler
  split
  · exact wellFormed
  · dsimp only
    split_ifs with short ifnameLong vrrpNameLong
    · exact wellFormed
    · exact wellFormed
    · exact wellFormed
    · rw [Outcome.andThen_state]
      exact scan _ 4 (syncdOptions_keep_wellFormed env _ (List.mem_cons_self _ _) _ _
        (named_wellFormed short ifnameLong vrrpNameLong wellFormed))
    · exact scan _ 3 (named_wellFormed short ifnameLong vrrpNameLong wellFormed)

/-- Step lemma: every handler keeps the sync daemon record well formed. -/
theorem Handler.keeps_syncdWellFormed (env : Env) :
    ∀ (handler : Handler) s strvec,
      SyncdWellFormed env s.lvsSyncd →
        SyncdWellFormed env (handler.fn env s strvec).state.lvsSyncd :=
  Handler.keeps_of_owners (syncdWellFormed_readsOnly env)
    [.lvsSyncdHandler] (fun handler => by cases handler <;> rfl)
    (fun _ owner => List.mem_singleton.mp owner ▸ lvsSyncdHandler_keeps_wellFormed env)

/--
Every parse pass keeps the sync daemon record well formed: names set
together and short enough, numbers in range, group unset or multicast.
-/
theorem parsePass_keeps_syncdWellFormed
    (env : Env)
    (table : List Keyword)
    (lines : List Strvec)
    (s : GlobalState)
    (wellFormed : SyncdWellFormed env s.lvsSyncd) :
    SyncdWellFormed env (parsePass env table s lines).lvsSyncd :=
  parsePass_of_handlers (fun t => SyncdWellFormed env t.lvsSyncd)
    (Handler.keeps_syncdWellFormed env) table lines s wellFormed

/-- From the zeroed record, a pass naming the sync daemon with options keeps it well formed. -/
theorem syncdWellFormed_zeroed_pass :
    SyncdWellFormed referenceEnv zeroedState.lvsSyncd ∧
      SyncdWellFormed referenceEnv
        (parsePass referenceEnv (initGlobalKeywords fullBuild true) zeroedState
          [["lvs_sync_daemon", "eth0", "VI_1", "id", "7", "group", "239.0.0.1"]]).lvsSyncd :=
  have start : SyncdWellFormed referenceEnv zeroedState.lvsSyncd :=
    ⟨rfl, (fun _ unset => nomatch unset), (fun _ unset => nomatch unset),
      by decide, by decide, by decide, by decide, rfl⟩
  ⟨start, parsePass_keeps_syncdWellFormed _ _ _ _ start⟩

/-! ## VRRP version and GARP repeats -/

/-- The VRRP settings stored after a check: an accepted version, repeat counts of at least one. -/
structure VrrpSettingsInRange (s : GlobalState) : Prop where
  version : vrrpIsBadVersion s.vrrpVersion = false
  garpRep : 1 ≤ s.vrrpGarpRep
  garpRefreshRep : 1 ≤ s.vrrpGarpRefreshRep

theorem vrrpSettingsInRange_readsOnly :
    ReadsOnly [.vrrpVersion, .vrrpGarpRep, .vrrpGarpRefreshRep] VrrpSettingsInRange :=
  fun _ _ inRange => ⟨inRange.version, inRange.garpRep, inRange.garpRefreshRep⟩

/-- A version `VRRP_IS_BAD_VERSION` accepts is 2 or 3. -/
theorem vrrpVersion_two_or_three {version : Nat} (good : vrrpIsBadVersion version = false) :
    version = 2 ∨ version = 3 := by
  simp only [vrrpIsBadVersion, Bool.or_eq_false_iff, decide_eq_false_iff_not] at good
  omega

/-- The repeat count a GARP repeat handler stores is at least one. -/
theorem one_le_garpRep (rep : Nat) : 1 ≤ if rep < 1 then 1 else rep := by
  split <;> omega

/-- Step lemma: every handler keeps the VRRP version and GARP repeats in range. -/
theorem Handler.keeps_vrrpSettingsInRange (env : Env) :
    ∀ (handler : Handler) s strvec,
      VrrpSettingsInRange s → VrrpSettingsInRange (handler.fn env s strvec).state := by
  refine Handler.keeps_of_owners vrrpSettingsInRange_readsOnly
    [.vrrpVersionHandler, .vrrpGarpRepHandler, .vrrpGarpRefreshRepHandler]
    (fun handler => by cases handler <;> rfl) ?_
  simp only [List.mem_cons, List.mem_singleton, List.not_mem_nil, or_false]
  rintro handler (rfl | rfl | rfl) s strvec inRange
  · show VrrpSettingsInRange (if vrrpIsBadVersion _ then _ else .done _ : Outcome).state
    split
    · exact inRange
    · next accepted => exact { inRange with version := Bool.eq_false_iff.mpr accepted }
  · exact { inRange with garpRep := one_le_garpRep _ }
  · exact { inRange with garpRefreshRep := one_le_garpRep _ }

/-- Every parse pass keeps the VRRP version at 2 or 3 and both GARP repeat counts positive. -/
theorem parsePass_keeps_vrrpSettingsInRange
    (env : Env)
    (table : List Keyword)
    (lines : List Strvec)
    (s : GlobalState)
    (inRange : VrrpSettingsInRange s) :
    VrrpSettingsInRange (parsePass env table s lines) :=
  parsePass_of_handlers _ (Handler.keeps_vrrpSettingsInRange env) table lines s inRange

/-- From version 2 and single repeats, versions 258 and 4 and a zero repeat leave it in range. -/
theorem vrrpSettingsInRange_pass :
    VrrpSettingsInRange
        { zeroedState with vrrpVersion := 2, vrrpGarpRep := 1, vrrpGarpRefreshRep := 1 } ∧
      VrrpSettingsInRange (parsePass referenceEnv (initGlobalKeywords fullBuild true)
        { zeroedState with vrrpVersion := 2, vrrpGarpRep := 1, vrrpGarpRefreshRep := 1 }
        [["vrrp_version", "258"], ["vrrp_version", "4"], ["vrrp_garp_master_repeat", "0"]]) :=
  have start : VrrpSettingsInRange
      { zeroedState with vrrpVersion := 2, vrrpGarpRep := 1, vrrpGarpRefreshRep := 1 } :=
    ⟨rfl, Nat.le_refl 1, Nat.le_refl 1⟩
  ⟨start, parsePass_keeps_vrrpSettingsInRange _ _ _ _ start⟩

/-! ## Process priorities -/

/-- A nice value `get_priority` accepts. -/
def NiceInRange (p : Int) : Prop :=
  -20 ≤ p ∧ p ≤ 19

instance : DecidablePred NiceInRange :=
  fun p => inferInstanceAs (Decidable (-20 ≤ p ∧ p ≤ 19))

/-- A real-time priority the handlers can leave: `0` for none, or within the `SCHED_RR` range. -/
def RealtimeInRange (env : Env) (p : Int) : Prop :=
  p = 0 ∨ env.rtPriorityMin ≤ p ∧ p ≤ env.rtPriorityMax

/-- The nice value and real-time priority of the VRRP, checker and BFD processes. -/
structure SchedulingInRange (env : Env) (s : GlobalState) : Prop where
  vrrpNice : NiceInRange s.vrrpProcessPriority
  checkerNice : NiceInRange s.checkerProcessPriority
  bfdNice : NiceInRange s.bfdProcessPriority
  vrrpRealtime : RealtimeInRange env s.vrrpRealtimePriority
  checkerRealtime : RealtimeInRange env s.checkerRealtimePriority
  bfdRealtime : RealtimeInRange env s.bfdRealtimePriority

/-- A nice value converts to `int8_t` unchanged. -/
theorem toSigned_eight_of_nice {p : Int} (nice : NiceInRange p) : toSigned 8 p = p := by
  have reduced : toSigned 8 p = p.bmod 256 := rfl
  obtain ⟨low, high⟩ := nice
  rw [reduced]
  by_cases nonneg : 0 ≤ p
  · rw [Int.bmod_pos _ _ (by omega)]
    omega
  · rw [Int.bmod_neg _ _ (by omega)]
    omega

/-- `get_priority` returns a nice value: `0` when it rejects the line. -/
theorem getPriority_nice (env : Env) (strvec : Strvec) (process : String) :
    NiceInRange (getPriority env strvec process).1 := by
  unfold getPriority
  split
  · exact (by decide : NiceInRange 0)
  · dsimp only
    split
    · exact (by decide : NiceInRange 0)
    · next valid =>
        have nice : NiceInRange (atoi (strvecSlot env strvec 1)) := by
          unfold NiceInRange
          omega
        rw [toSigned_eight_of_nice nice]
        exact nice

/-- `get_realtime_priority` on a line with a value: the value clamped to `[min, max]`. -/
theorem getRealtimePriority_fst
    {env : Env}
    {strvec : Strvec}
    (process : String)
    (present : ¬vectorSize strvec < 2) :
    (getRealtimePriority env strvec process).1 =
      let low := if atoi (strvecSlot env strvec 1) < env.rtPriorityMin then env.rtPriorityMin
        else atoi (strvecSlot env strvec 1)
      if env.rtPriorityMax < low then env.rtPriorityMax else low := by
  unfold getRealtimePriority
  rw [if_neg present]
  dsimp only
  split_ifs <;> rfl

/-- A non-negative result of `get_realtime_priority` lies in `[min, max]` when `min ≤ max`. -/
theorem getRealtimePriority_inRange
    {env : Env}
    (ordered : env.rtPriorityMin ≤ env.rtPriorityMax)
    (strvec : Strvec)
    (process : String)
    (nonneg : 0 ≤ (getRealtimePriority env strvec process).1) :
    RealtimeInRange env (getRealtimePriority env strvec process).1 := by
  by_cases present : vectorSize strvec < 2
  · simp only [getRealtimePriority, if_pos present] at nonneg
    omega
  · rw [getRealtimePriority_fst process present]
    dsimp only
    right
    split_ifs <;> omega

theorem schedulingInRange_readsOnly (env : Env) :
    ReadsOnly [.vrrpProcessPriority, .checkerProcessPriority, .bfdProcessPriority,
      .vrrpRealtimePriority, .checkerRealtimePriority, .bfdRealtimePriority]
      (SchedulingInRange env) :=
  fun _ _ inRange => ⟨inRange.vrrpNice, inRange.checkerNice, inRange.bfdNice,
    inRange.vrrpRealtime, inRange.checkerRealtime, inRange.bfdRealtime⟩

/-- Step lemma: with `min ≤ max`, every handler keeps the process priorities in range. -/
theorem Handler.keeps_schedulingInRange
    {env : Env}
    (ordered : env.rtPriorityMin ≤ env.rtPriorityMax) :
    ∀ (handler : Handler) s strvec,
      SchedulingInRange env s → SchedulingInRange env (handler.fn env s strvec).state := by
  refine Handler.keeps_of_owners (schedulingInRange_readsOnly env)
    [.vrrpPrioHandler, .checkerPrioHandler, .bfdPrioHandler,
      .vrrpRtPriorityHandler, .checkerRtPriorityHandler, .bfdRtPriorityHandler]
    (fun handler => by cases handler <;> rfl) ?_
  simp only [List.mem_cons, List.mem_singleton, List.not_mem_nil, or_false]
  rintro handler (rfl | rfl | rfl | rfl | rfl | rfl) s strvec inRange
  · exact { inRange with vrrpNice := getPriority_nice env strvec _ }
  · exact { inRange with checkerNice := getPriority_nice env strvec _ }
  · exact { inRange with bfdNice := getPriority_nice env strvec _ }
  all_goals
    show SchedulingInRange env (if 0 ≤ (getRealtimePriority env strvec _).1 then _ else s)
    split
  · exact { inRange with vrrpRealtime := getRealtimePriority_inRange ordered strvec _ ‹_› }
  · exact inRange
  · exact { inRange with checkerRealtime := getRealtimePriority_inRange ordered strvec _ ‹_› }
  · exact inRange
  · exact { inRange with bfdRealtime := getRealtimePriority_inRange ordered strvec _ ‹_› }
  · exact inRange

/-- With `min ≤ max`, every parse pass keeps the nice values and real-time priorities in range. -/
theorem parsePass_keeps_schedulingInRange
    (env : Env)
    (ordered : env.rtPriorityMin ≤ env.rtPriorityMax)
    (table : List Keyword)
    (lines : List Strvec)
    (s : GlobalState)
    (inRange : SchedulingInRange env s) :
    SchedulingInRange env (parsePass env table s lines) :=
  parsePass_of_handlers _ (Handler.keeps_schedulingInRange ordered) table lines s inRange

/-- From the zeroed state, a pass that asks for out-of-range priorities keeps them in range. -/
theorem schedulingInRange_zeroed_pass :
    referenceEnv.rtPriorityMin ≤ referenceEnv.rtPriorityMax ∧
      SchedulingInRange referenceEnv zeroedState ∧
      SchedulingInRange referenceEnv
        (parsePass referenceEnv (initGlobalKeywords fullBuild true) zeroedState
          [["vrrp_rt_priority", "150"], ["checker_priority", "-30"], ["bfd_priority", "-5"]]) :=
  have ordered : referenceEnv.rtPriorityMin ≤ referenceEnv.rtPriorityMax := by decide
  have start : SchedulingInRange referenceEnv zeroedState :=
    ⟨by decide, by decide, by decide, .inl rfl, .inl rfl, .inl rfl⟩
  ⟨ordered, start, parsePass_keeps_schedulingInRange _ ordered _ _ _ start⟩

end Keepalived
