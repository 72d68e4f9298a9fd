import Keepalived.Commutation

namespace Keepalived

/-!
# The keyword table as a vocabulary

`init_global_keywords` installs every directive name once, each behind the
`#ifdef`s of the features its handler belongs to.  `Handler.gate` reads those
guards back per handler.  The table of any build is then the table of the full
build with the entries of the missing features taken out, in the same order
(`initGlobalKeywords_filter`).  The full table holds each name once and holds
each handler under each of its names, so in every build that includes a
handler each of its names finds it (`lookupHandler_of_named`).
-/

namespace Handler

/-- The build options `init_global_keywords` tests before it installs a handler. -/
def gate (build : BuildOptions) : Handler → Bool
  | .netNamespaceHandler | .namespaceIpsetsHandler => build.haveDeclCloneNewnet
  | .smtpAlertCheckerHandler | .lvsTimeouts | .lvsFlushHandler | .lvsNotifyFifo
  | .lvsNotifyFifoScript | .checkerPrioHandler | .checkerNoSwapHandler
  | .lvsNetlinkCmdRcvBufsHandler | .lvsNetlinkCmdRcvBufsForceHandler
  | .lvsNetlinkMonitorRcvBufsHandler | .lvsNetlinkMonitorRcvBufsForceHandler =>
      build.withLvs
  | .lvsSyncdHandler => build.withLvs && build.withVrrp
  | .checkerRtPriorityHandler => build.withLvs && build.haveSchedRt
  | .checkerRtRlimitHandler =>
      build.withLvs && (build.haveSchedRt && build.haveDeclRlimitRttime)
  | .smtpAlertVrrpHandler | .dynamicInterfacesHandler | .noEmailFaultsHandler
  | .defaultInterfaceHandler | .vrrpMcastGroup4Handler | .vrrpMcastGroup6Handler
  | .vrrpGarpDelayHandler | .vrrpGarpRepHandler | .vrrpGarpRefreshHandler
  | .vrrpGarpRefreshRepHandler | .vrrpGarpLowerPrioDelayHandler
  | .vrrpGarpLowerPrioRepHandler | .vrrpGarpIntervalHandler | .vrrpGnaIntervalHandler
  | .vrrpLowerPrioNoAdvertHandler | .vrrpHigherPrioSendAdvertHandler
  | .vrrpVersionHandler | .vrrpIptablesHandler | .vrrpCheckUnicastSrcHandler
  | .vrrpCheckAdvAddrHandler | .vrrpStrictHandler | .vrrpPrioHandler
  | .vrrpNoSwapHandler | .vrrpNotifyFifo | .vrrpNotifyFifoScript
  | .vrrpNetlinkCmdRcvBufsHandler | .vrrpNetlinkCmdRcvBufsForceHandler
  | .vrrpNetlinkMonitorRcvBufsHandler | .vrrpNetlinkMonitorRcvBufsForceHandler =>
      build.withVrrp
  | .vrrpIpsetsHandler => build.withVrrp && build.haveLibipset
  | .vrrpRtPriorityHandler => build.withVrrp && build.haveSchedRt
  | .vrrpRtRlimitHandler =>
      build.withVrrp && (build.haveSchedRt && build.haveDeclRlimitRttime)
  | .bfdPrioHandler | .bfdNoSwapHandler => build.withBfd
  | .bfdRtPriorityHandler => build.withBfd && build.haveSchedRt
  | .bfdRtRlimitHandler =>
      build.withBfd && (build.haveSchedRt && build.haveDeclRlimitRttime)
  | .snmpSocketHandler | .trapHandler => build.withSnmp
  | .snmpVrrpHandler => build.withSnmp && build.withSnmpVrrp
  | .snmpRfcHandler => build.withSnmp && build.withSnmpRfc
  | .snmpRfcv2Handler => build.withSnmp && build.withSnmpRfcv2
  | .snmpRfcv3Handler => build.withSnmp && build.withSnmpRfcv3
  | .snmpCheckerHandler => build.withSnmp && build.withSnmpChecker
  | .enableDbusHandler | .dbusServiceNameHandler => build.withDbus
  | _ => true

end Handler

/-- Whether a build installs an entry: `global_defs` always, a handler when its gate holds. -/
def Keyword.installed (build : BuildOptions) (keyword : Keyword) : Bool :=
  keyword.handler.all (Handler.gate build)

/-! ## Every table is the full table, filtered -/

theorem gated_true (entries : List Keyword) : gated true entries = entries := rfl

theorem gated_append (option : Bool) (first second : List Keyword) :
    gated option (first ++ second) = gated option first ++ gated option second := by
  cases option <;> rfl

theorem gated_gated (outer inner : Bool) (entries : List Keyword) :
    gated outer (gated inner entries) = gated (outer && inner) entries := by
  cases outer <;> rfl

/-- Filtering a segment whose entries all have the segment's option is gating it. -/
theorem filter_eq_gated
    {installed : Keyword → Bool}
    {option : Bool}
    {entries : List Keyword}
    (same : ∀ keyword ∈ entries, installed keyword = option) :
    entries.filter installed = gated option entries := by
  cases option
  · exact List.filter_eq_nil_iff.mpr fun keyword mem => by simp [same keyword mem]
  · exact List.filter_eq_self.mpr fun keyword mem => same keyword mem

theorem append_congr
    {first second first' second' : List Keyword}
    (sameFirst : first = first')
    (sameSecond : second = second') :
    first ++ second = first' ++ second' :=
  sameFirst ▸ sameSecond ▸ rfl

/-- The table of a build is the full table without the entries the build leaves out. -/
theorem initGlobalKeywords_filter (build : BuildOptions) (active : Bool) :
    (initGlobalKeywords fullBuild active).filter (Keyword.installed build) =
      initGlobalKeywords build active := by
  simp only [initGlobalKeywords, fullBuild, gated_true, Bool.and_self, List.filter_append,
    gated_append, gated_gated]
  -- both sides are now the same chain of segments, filtered on the left, gated on the right
  repeat' refine append_congr ?_ ?_
  all_goals first
    | rfl
    | (apply filter_eq_gated
       simp only [List.forall_mem_cons, List.not_mem_nil, false_implies, implies_true,
         and_true]
       repeat' constructor)

/-! ## Each name once -/

/-- Whether no key of a list occurs twice, checked left to right. -/
def allDistinct {α : Type} [BEq α] : List α → Bool
  | [] => true
  | key :: rest => !rest.contains key && allDistinct rest

theorem nodup_of_allDistinct {α : Type} [BEq α] [LawfulBEq α] :
    ∀ {keys : List α}, allDistinct keys = true → keys.Nodup
  | [], _ => List.nodup_nil
  | key :: rest, distinct => by
      simp only [allDistinct, Bool.and_eq_true, Bool.not_eq_true'] at distinct
      exact List.nodup_cons.mpr
        ⟨fun mem => Bool.false_ne_true (distinct.1.symm.trans (List.elem_iff.mpr mem)),
          nodup_of_allDistinct distinct.2⟩

/-- The full table's names, each keyed by its length first, are distinct. -/
theorem fullBuild_keyed_names_distinct :
    allDistinct (((initGlobalKeywords fullBuild true).map Keyword.name).map
      fun name => (name.length, name)) = true := rfl

/-- The full table installs each name once. -/
theorem fullBuild_names_nodup : ((initGlobalKeywords fullBuild true).map Keyword.name).Nodup :=
  List.Pairwise.of_map _ (fun _ _ differ same => differ (same ▸ rfl))
    (nodup_of_allDistinct fullBuild_keyed_names_distinct)

/-! ## Lookups -/

/-- In a table of distinct names, a name's lookup reads its own entry. -/
theorem lookupHandler_of_mem
    {keyword : Keyword} :
    ∀ {table : List Keyword}, (table.map Keyword.name).Nodup → keyword ∈ table →
      lookupHandler table keyword.name = if keyword.active then keyword.handler else none
  | first :: rest, distinct, mem => by
      obtain ⟨fresh, distinctRest⟩ := List.nodup_cons.mp distinct
      rcases List.mem_cons.mp mem with rfl | later
      · simp [lookupHandler]
      · have other : (first.name == keyword.name) = false :=
          beq_false_of_ne fun same => fresh (same ▸ List.mem_map_of_mem _ later)
        rw [← lookupHandler_of_mem distinctRest later]
        simp only [lookupHandler, List.find?_cons, other]

/-- The full table holds every handler under each of its names, active. -/
theorem fullBuild_installs (handler : Handler) :
    handler.names.all (fun name => (initGlobalKeywords fullBuild true).any fun keyword =>
      keyword.handler == some handler && keyword.name == name && keyword.active) = true := by
  cases handler <;> rfl

/-- Under one of its names, the active table of a build that includes a handler finds it. -/
theorem lookupHandler_of_named
    (build : BuildOptions)
    {name : String}
    {handler : Handler}
    (named : name ∈ handler.names)
    (included : handler.gate build = true) :
    lookupHandler (initGlobalKeywords build true) name = some handler := by
  obtain ⟨keyword, mem, installs⟩ := List.any_eq_true.mp
    (List.all_eq_true.mp (fullBuild_installs handler) name named)
  simp only [Bool.and_eq_true, beq_iff_eq] at installs
  obtain ⟨⟨installsHandler, rfl⟩, isActive⟩ := installs
  have kept : keyword ∈ (initGlobalKeywords fullBuild true).filter (Keyword.installed build) :=
    List.mem_filter.mpr
      ⟨mem, by simp only [Keyword.installed, installsHandler, Option.all_some, included]⟩
  have distinct :
      (((initGlobalKeywords fullBuild true).filter (Keyword.installed build)).map
        Keyword.name).Nodup :=
    fullBuild_names_nodup.sublist ((List.filter_sublist _).map Keyword.name)
  rw [← initGlobalKeywords_filter build true, lookupHandler_of_mem distinct kept, if_pos isActive,
    installsHandler]

end Keepalived
