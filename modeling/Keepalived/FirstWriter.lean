import Keepalived.LastWriter
import Keepalived.SingleAssignment
import Keepalived.SyncDaemon

namespace Keepalived

/-!
# Fields the first accepted line decides

`instance`, `net_namespace`, the three `notify_fifo` names and `snmp_socket`
write their field only while it is NULL, and a line they reject (a missing
name, a name too long for `snmp_socket`) leaves it NULL.  `SingleAssignment`
shows that a set field stays set.  The other half is which value it gets: in a
pass that is not a reload, a field that starts NULL ends at the value of the
first line that names its handler and that the handler accepts.  Both halves
are one equation, `start.or first`, proved here over every pass.

`FirstWriterField` packs such a field with its handler and the value the
handler stores in a NULL field, `none` when it rejects the line.  It reuses the
one-line lemmas of `LastWriter`: a line that does not name the handler leaves
the field, a line that names it runs the handler.

The three notify FIFO scripts are set once as well, but the script a line
builds depends on more than the line: `notify_script_init` takes the default
script user in effect when the line is read.  `fifoScript_parsePass` states
that dependence over a pass: the script is built by the first script line,
with the user the lines before it left.

`lvs_sync_daemon` is set once too, but it stores a whole record: the interface,
the VRRP instance and whatever options follow.  `lvsSyncd_parsePass` says the
record at the end of a pass is the one the first line it accepts builds.
-/

/--
A field of `global_data` that only `owner` writes, and that `owner` sets, in a
pass that is not a reload, only while it is NULL.
-/
structure FirstWriterField (α : Type) where
  field : Field
  get : GlobalState → Option α
  owner : Handler
  value : Env → Strvec → Option α
  owned : field.owner = some owner
  get_restore : ∀ fields a b, get (restore fields a b) = pick fields field (get a) (get b)
  get_owner : ∀ env s strvec, s.reload = false →
    get (owner.fn env s strvec).state = (get s).or (value env strvec)

theorem findSome?_cons_eq_or {α β : Type} (f : α → Option β) (a : α) (rest : List α) :
    (a :: rest).findSome? f = (f a).or (rest.findSome? f) := by
  rw [List.findSome?_cons]
  cases f a <;> rfl

namespace FirstWriterField

variable {α : Type} (w : FirstWriterField α)

/-- What a line stores in a NULL field: the owner's value, when the line names the owner. -/
def accepted (env : Env) (strvec : Strvec) : Option α :=
  if w.owner.namedBy strvec then w.value env strvec else none

/--
Step lemma: outside a reload, a line the owner accepts fills a NULL field; any
other line leaves it.
-/
theorem get_dispatch
    {build : BuildOptions}
    (included : w.owner.gate build = true)
    (env : Env)
    {s : GlobalState}
    (notReload : s.reload = false)
    (strvec : Strvec) :
    w.get (dispatch env (initGlobalKeywords build true) s strvec).state =
      (w.get s).or (w.accepted env strvec) := by
  unfold accepted
  cases named : w.owner.namedBy strvec
  · rw [if_neg Bool.false_ne_true, Option.or_none]
    exact get_dispatch_of_not_namedBy w.owned w.get_restore named env s
  · rw [if_pos rfl, dispatch_of_namedBy included named]
    exact w.get_owner env s strvec notReload

/--
In every build that includes its handler, a parse pass that is not a reload
leaves a first-writer field at its start value when that is set, and otherwise
at the value of the first line the handler accepts, NULL when there is none.
-/
theorem parsePass_sets_first
    {build : BuildOptions}
    (included : w.owner.gate build = true)
    (env : Env) :
    ∀ (lines : List Strvec) (s : GlobalState), s.reload = false →
      w.get (parsePass env (initGlobalKeywords build true) s lines) =
        (w.get s).or (lines.findSome? (w.accepted env))
  | [], s, _ => Option.or_none.symm
  | strvec :: rest, s, notReload => by
      have stillNotReload :
          (dispatch env (initGlobalKeywords build true) s strvec).state.reload = false :=
        (reload_dispatch env _ s strvec).trans notReload
      show w.get (parsePass env _ (dispatch env _ s strvec).state rest) = _
      rw [parsePass_sets_first included env rest _ stillNotReload,
        w.get_dispatch included env notReload, Option.or_assoc, findSome?_cons_eq_or]

end FirstWriterField

/-! ## The catalogue -/

/-- A name `onceNameHandler` sets to token 1, or leaves NULL for a bare directive. -/
def FirstWriterField.onceName
    (field : Field)
    (get : GlobalState → Option String)
    (owner : Handler)
    {what : String}
    {set : GlobalState → Option String → GlobalState}
    (handles : owner.fn = onceNameHandler what get set)
    (get_set : ∀ s value, get { set s value with usePidDir := true } = value)
    (owned : field.owner = some owner)
    (get_restore : ∀ fields a b, get (restore fields a b) = pick fields field (get a) (get b)) :
    FirstWriterField String :=
  ⟨field, get, owner, fun _ => setValue, owned, get_restore, fun env s strvec notReload => by
    rw [handles]
    unfold onceNameHandler
    rw [if_neg (Bool.eq_false_iff.mp notReload)]
    cases named : get s with
    | none => exact get_set s _
    | some name => exact named⟩

/-- `instance`. -/
def instanceNameField : FirstWriterField String :=
  .onceName .instanceName GlobalState.instanceName .instanceHandler
    (show instanceHandler = _ from rfl) (fun _ _ => rfl) rfl (fun _ _ _ => rfl)

/-- A bare `instance`, then `instance a`, then `instance b`: the name is the first one given. -/
theorem instanceName_first_named_line :
    instanceNameField.owner.gate fullBuild = true ∧ zeroedState.reload = false ∧
      instanceNameField.get (parsePass referenceEnv (initGlobalKeywords fullBuild true) zeroedState
          [["instance"], ["instance", "a"], ["instance", "b"]]) =
        (instanceNameField.get zeroedState).or
          ([["instance"], ["instance", "a"], ["instance", "b"]].findSome?
            (instanceNameField.accepted referenceEnv)) :=
  ⟨rfl, rfl, FirstWriterField.parsePass_sets_first instanceNameField rfl referenceEnv _ _ rfl⟩

example :
    (parsePass referenceEnv (initGlobalKeywords fullBuild true) zeroedState
      [["instance"], ["instance", "a"], ["instance", "b"]]).instanceName = some "a" := by
  decide

/-- `net_namespace`. -/
def networkNamespaceField : FirstWriterField String :=
  .onceName .networkNamespace GlobalState.networkNamespace .netNamespaceHandler
    (show netNamespaceHandler = _ from rfl) (fun _ _ => rfl) rfl (fun _ _ _ => rfl)

/-- A `notify_fifo` name: token 1, unless the line has none. -/
def FirstWriterField.fifoName
    (kind : FifoKind)
    (owner : Handler)
    (handles : owner.fn = notifyFifo kind)
    (owned : kind.nameField.owner = some owner) :
    FirstWriterField String :=
  ⟨kind.nameField, fun s => (kind.get s).name, owner,
    fun env strvec => if vectorSize strvec < 2 then none else some (strvecSlot env strvec 1),
    owned, fun _ _ _ => by cases kind <;> rfl, fun env s strvec _ => by
      rw [handles]
      unfold notifyFifo
      dsimp only
      split_ifs
      · exact Option.or_none.symm
      · cases named : (kind.get s).name with
        | none => simp only [Outcome.done_state, FifoKind.get_set, Option.none_or]
        | some name => exact named⟩

/-- `notify_fifo`, `vrrp_notify_fifo` and `lvs_notify_fifo`. -/
def fifoNameFields : List (FirstWriterField String) :=
  [.fifoName .global .globalNotifyFifo rfl rfl,
    .fifoName .vrrp .vrrpNotifyFifo rfl rfl,
    .fifoName .lvs .lvsNotifyFifo rfl rfl]

/-- `snmp_socket`: token 1, unless the line has no name, more than one, or one too long. -/
def snmpSocketField : FirstWriterField String :=
  ⟨.snmpSocket, GlobalState.snmpSocket, .snmpSocketHandler,
    fun env strvec =>
      let name := strvecSlot env strvec 1
      if 2 < vectorSize strvec then none
      else if vectorSize strvec < 2 then none
      else if env.pathMax - 1 < strlen name then none
      else some name,
    rfl, fun _ _ _ => rfl, fun env s strvec _ => by
      show GlobalState.snmpSocket (snmpSocketHandler env s strvec).state = _
      cases named : s.snmpSocket with
      | some previous =>
          rw [(snmpSocketHandler_of_set (by rw [named]; rfl) env strvec).1, named]
          rfl
      | none =>
          dsimp only [snmpSocketHandler]
          simp only [named]
          split_ifs <;> first | exact named | rfl⟩


/-! ## Notify FIFO scripts -/

/-- A pass over two blocks of lines is the pass over the second from where the first ends. -/
theorem parsePass_append
    (env : Env)
    (table : List Keyword)
    (s : GlobalState)
    (first second : List Strvec) :
    parsePass env table s (first ++ second) =
      parsePass env table (parsePass env table s first) second :=
  List.foldl_append _ _ _ _

section FifoScript

variable (kind : FifoKind)

theorem fifoScript_owned : kind.scriptField.owner = some (OnceField.fifoScript kind).owner := by
  cases kind <;> rfl

theorem fifoScript_get_restore (fields : List Field) (a b : GlobalState) :
    (kind.get (restore fields a b)).script =
      pick fields kind.scriptField (kind.get a).script (kind.get b).script := by
  cases kind <;> rfl

theorem fifoScript_handles : (OnceField.fifoScript kind).owner.fn = notifyFifoScript kind := by
  cases kind <;> rfl

variable
  {build : BuildOptions}
  (included : (OnceField.fifoScript kind).owner.gate build = true)
  (env : Env)

include included

/-- A line that gives no script leaves a FIFO's script as it was. -/
theorem fifoScript_dispatch_of_no_script
    (s : GlobalState)
    {strvec : Strvec}
    (noScript : (OnceField.fifoScript kind).owner.namedBy strvec = true → vectorSize strvec < 2) :
    (kind.get (dispatch env (initGlobalKeywords build true) s strvec).state).script =
      (kind.get s).script := by
  cases named : (OnceField.fifoScript kind).owner.namedBy strvec
  · exact @get_dispatch_of_not_namedBy _ _ (fun t => (kind.get t).script) _
      (fifoScript_owned kind) (fifoScript_get_restore kind) _ _ named env s
  · rw [dispatch_of_namedBy included named, fifoScript_handles]
    unfold notifyFifoScript
    dsimp only
    rw [if_pos (noScript named)]
    rfl

/-- The first script line builds the script with the default script user of its moment. -/
theorem fifoScript_dispatch_of_unset
    {s : GlobalState}
    (unset : (kind.get s).script = none)
    {strvec : Strvec}
    (named : (OnceField.fifoScript kind).owner.namedBy strvec = true)
    (given : 2 ≤ vectorSize strvec) :
    (kind.get (dispatch env (initGlobalKeywords build true) s strvec).state).script =
      env.notifyScriptInit strvec true (kind.typeName ++ "notify_fifo") s.defaultScriptUser := by
  rw [dispatch_of_namedBy included named, fifoScript_handles]
  unfold notifyFifoScript
  dsimp only
  rw [if_neg (Nat.not_lt.mpr given), unset]
  simp only [Outcome.done_state, FifoKind.get_set]

/-- Lines that give no script leave a FIFO's script as it was, through a whole pass. -/
theorem fifoScript_parsePass_of_no_script :
    ∀ (lines : List Strvec) (s : GlobalState),
      (∀ line ∈ lines, (OnceField.fifoScript kind).owner.namedBy line = true →
        vectorSize line < 2) →
      (kind.get (parsePass env (initGlobalKeywords build true) s lines)).script =
        (kind.get s).script
  | [], _, _ => rfl
  | strvec :: rest, s, noScript => by
      show (kind.get (parsePass env _ (dispatch env _ s strvec).state rest)).script = _
      rw [fifoScript_parsePass_of_no_script rest _
          (fun line mem => noScript line (List.mem_cons_of_mem _ mem)),
        fifoScript_dispatch_of_no_script kind included env s
          (noScript strvec (List.mem_cons_self _ _))]

end FifoScript

/--
A notify FIFO's script, NULL at the start of a pass, ends the pass as the
script its first script line builds, with the default script user that the
lines before that line left; the lines after it do not change it.
-/
theorem fifoScript_parsePass
    (kind : FifoKind)
    {build : BuildOptions}
    (included : (OnceField.fifoScript kind).owner.gate build = true)
    (env : Env)
    {s : GlobalState}
    (unset : (kind.get s).script = none)
    {pre post : List Strvec}
    {strvec : Strvec}
    (noScriptBefore : ∀ line ∈ pre, (OnceField.fifoScript kind).owner.namedBy line = true →
      vectorSize line < 2)
    (named : (OnceField.fifoScript kind).owner.namedBy strvec = true)
    (given : 2 ≤ vectorSize strvec)
    {script : NotifyScript}
    (built : env.notifyScriptInit strvec true (kind.typeName ++ "notify_fifo")
      (parsePass env (initGlobalKeywords build true) s pre).defaultScriptUser = some script) :
    (kind.get (parsePass env (initGlobalKeywords build true) s (pre ++ strvec :: post))).script =
      some script := by
  have afterPre := fifoScript_parsePass_of_no_script kind included env pre s noScriptBefore
  have atLine := (fifoScript_dispatch_of_unset kind included env (afterPre.trans unset) named
    given).trans built
  have isFrozen : (OnceField.fifoScript kind).frozen
      (dispatch env (initGlobalKeywords build true)
        (parsePass env (initGlobalKeywords build true) s pre) strvec).state = true := by
    simp only [OnceField.frozen, OnceField.isSet, OnceField.read, OnceValue.isSet, atLine,
      Option.isSome_some, Bool.true_or]
  have kept := OnceField.read_parsePass_of_frozen (.fifoScript kind) env
    (initGlobalKeywords build true) post _ isFrozen
  simp only [OnceField.read, OnceValue.script.injEq] at kept
  rw [parsePass_append]
  exact kept.trans atLine

/-- A `script_user` before the first `notify_fifo_script` line, and one after it. -/
theorem fifoScript_user_of_its_moment :
    (OnceField.fifoScript .global).owner.gate fullBuild = true ∧
      (FifoKind.global.get zeroedState).script = none ∧
      (∀ line ∈ [["script_user", "root"]],
        (OnceField.fifoScript .global).owner.namedBy line = true → vectorSize line < 2) ∧
      (OnceField.fifoScript .global).owner.namedBy ["notify_fifo_script", "/bin/x"] = true ∧
      2 ≤ vectorSize ["notify_fifo_script", "/bin/x"] ∧
      referenceEnv.notifyScriptInit ["notify_fifo_script", "/bin/x"] true
          (FifoKind.global.typeName ++ "notify_fifo")
          (parsePass referenceEnv (initGlobalKeywords fullBuild true) zeroedState
            [["script_user", "root"]]).defaultScriptUser = some ⟨["/bin/x"], ⟨0, 0⟩⟩ ∧
      (FifoKind.global.get (parsePass referenceEnv (initGlobalKeywords fullBuild true) zeroedState
          ([["script_user", "root"]] ++ ["notify_fifo_script", "/bin/x"] ::
            [["script_user", "alice"]]))).script = some ⟨["/bin/x"], ⟨0, 0⟩⟩ :=
  have noScriptBefore : ∀ line ∈ [["script_user", "root"]],
      (OnceField.fifoScript .global).owner.namedBy line = true → vectorSize line < 2 := by
    decide
  have built : referenceEnv.notifyScriptInit ["notify_fifo_script", "/bin/x"] true
      (FifoKind.global.typeName ++ "notify_fifo")
      (parsePass referenceEnv (initGlobalKeywords fullBuild true) zeroedState
        [["script_user", "root"]]).defaultScriptUser = some ⟨["/bin/x"], ⟨0, 0⟩⟩ := by
    decide
  ⟨rfl, rfl, noScriptBefore, rfl, by decide, built,
    @fifoScript_parsePass .global fullBuild rfl referenceEnv zeroedState rfl
      [["script_user", "root"]] [["script_user", "alice"]] ["notify_fifo_script", "/bin/x"]
      noScriptBefore rfl (by decide) _ built⟩


/-! ## The sync daemon -/

/-- Whether `lvs_sync_daemon` accepts a line: an interface and a VRRP instance that both fit. -/
def syncdAccepts (env : Env) (strvec : Strvec) : Bool :=
  3 ≤ vectorSize strvec && strlen (strvecSlot env strvec 1) < env.ipVsIfnameMaxlen &&
    strlen (strvecSlot env strvec 2) < env.ipVsIfnameMaxlen

/-- With no sync daemon yet, `lvs_sync_daemon` rejects a line it does not accept outright. -/
theorem lvsSyncdHandler_of_rejected
    {env : Env}
    {s : GlobalState}
    {strvec : Strvec}
    (unnamed : s.lvsSyncd.ifname = none)
    (rejected : syncdAccepts env strvec = false) :
    (lvsSyncdHandler env s strvec).state = s := by
  simp only [syncdAccepts, Bool.and_eq_false_iff, decide_eq_false_iff_not, Nat.not_le,
    Nat.not_lt] at rejected
  unfold lvsSyncdHandler
  simp only [unnamed]
  split_ifs with short ifnameLong vrrpNameLong <;> first | rfl | omega

/-- With no sync daemon yet, a line `lvs_sync_daemon` accepts names it, whatever its options. -/
theorem lvsSyncdHandler_names
    {env : Env}
    {s : GlobalState}
    {strvec : Strvec}
    (unnamed : s.lvsSyncd.ifname = none)
    (accepted : syncdAccepts env strvec = true) :
    (lvsSyncdHandler env s strvec).state.lvsSyncd.ifname = setValue strvec := by
  simp only [syncdAccepts, Bool.and_eq_true, decide_eq_true_eq] at accepted
  have optionsKeep : ∀ opt ∈ syncdOptions env, ∀ t value,
      t.lvsSyncd.ifname = setValue strvec →
        (opt.apply t value).state.lvsSyncd.ifname = setValue strvec := by
    intro opt member t value named
    rw [syncdOptions_apply_state env opt member]
    exact (syncdOptionEffect_fields env _ _ _).1.trans named
  have scan := fun (t : GlobalState) (i : Nat) =>
    scanOptions_invariant (fun t => t.lvsSyncd.ifname = setValue strvec) optionsKeep env
      "lvs_sync_daemon" strvec i (s := t)
  unfold lvsSyncdHandler
  simp only [unnamed]
  rw [if_neg (by omega), if_neg (by omega), if_neg (by omega)]
  split_ifs
  · rw [Outcome.andThen_state]
    exact scan _ 4 (optionsKeep _ (List.mem_cons_self _ _) _ _ rfl)
  · exact scan _ 3 rfl

/-- `lvs_sync_daemon` builds its record from the record alone, whatever else the state holds. -/
theorem lvsSyncdHandler_of_same_record
    {s t : GlobalState}
    (same : t.lvsSyncd = s.lvsSyncd)
    (env : Env)
    (strvec : Strvec) :
    (lvsSyncdHandler env t strvec).state.lvsSyncd =
      (lvsSyncdHandler env s strvec).state.lvsSyncd := by
  have agree : restore [.lvsSyncd] s t = t := by
    show { t with lvsSyncd := s.lvsSyncd } = t
    rw [← same]
  have run := lvsSyncdHandler_footprint env s t strvec
  rw [agree] at run
  rw [run]
  rfl

/-- Lines the sync daemon handler does not accept leave its record, through a whole pass. -/
theorem lvsSyncd_parsePass_of_rejected
    {build : BuildOptions}
    (included : Handler.lvsSyncdHandler.gate build = true)
    (env : Env)
    {s : GlobalState}
    (unnamed : s.lvsSyncd.ifname = none) :
    ∀ (lines : List Strvec) (t : GlobalState), t.lvsSyncd = s.lvsSyncd →
      (∀ line ∈ lines, Handler.lvsSyncdHandler.namedBy line = true →
        syncdAccepts env line = false) →
      (parsePass env (initGlobalKeywords build true) t lines).lvsSyncd = s.lvsSyncd
  | [], _, same, _ => same
  | strvec :: rest, t, same, rejectedAll => by
      have step : (dispatch env (initGlobalKeywords build true) t strvec).state.lvsSyncd =
          s.lvsSyncd := by
        cases named : Handler.lvsSyncdHandler.namedBy strvec
        · exact (@get_dispatch_of_not_namedBy _ .lvsSyncd GlobalState.lvsSyncd _ rfl
            (fun _ _ _ => rfl) _ _ named env t).trans same
        · rw [dispatch_of_namedBy included named]
          show (lvsSyncdHandler env t strvec).state.lvsSyncd = _
          rw [lvsSyncdHandler_of_rejected (same ▸ unnamed)
            (rejectedAll strvec (List.mem_cons_self _ _) named)]
          exact same
      exact lvsSyncd_parsePass_of_rejected included env unnamed rest _ step
        (fun line mem => rejectedAll line (List.mem_cons_of_mem _ mem))

/--
A sync daemon not yet named at the start of a pass ends the pass with the
record its first accepted `lvs_sync_daemon` line builds from the start record:
the lines it rejects before leave the record, and the lines after it are
ignored.
-/
theorem lvsSyncd_parsePass
    {build : BuildOptions}
    (included : Handler.lvsSyncdHandler.gate build = true)
    (env : Env)
    {s : GlobalState}
    (unnamed : s.lvsSyncd.ifname = none)
    {pre post : List Strvec}
    {strvec : Strvec}
    (rejectedBefore : ∀ line ∈ pre, Handler.lvsSyncdHandler.namedBy line = true →
      syncdAccepts env line = false)
    (named : Handler.lvsSyncdHandler.namedBy strvec = true)
    (accepted : syncdAccepts env strvec = true) :
    (parsePass env (initGlobalKeywords build true) s (pre ++ strvec :: post)).lvsSyncd =
      (lvsSyncdHandler env s strvec).state.lvsSyncd := by
  have same := lvsSyncd_parsePass_of_rejected included env unnamed pre s rfl rejectedBefore
  have atLine : (dispatch env (initGlobalKeywords build true)
      (parsePass env (initGlobalKeywords build true) s pre) strvec).state.lvsSyncd =
        (lvsSyncdHandler env s strvec).state.lvsSyncd := by
    rw [dispatch_of_namedBy included named]
    exact lvsSyncdHandler_of_same_record same env strvec
  have isFrozen : OnceField.lvsSyncd.frozen (dispatch env (initGlobalKeywords build true)
      (parsePass env (initGlobalKeywords build true) s pre) strvec).state = true := by
    rw [dispatch_of_namedBy included named]
    have enough : 1 < strvec.length := by
      simp only [syncdAccepts, Bool.and_eq_true, decide_eq_true_eq, vectorSize] at accepted
      omega
    simp only [OnceField.frozen, OnceField.isSet, OnceField.read, OnceValue.isSet, Bool.or_eq_true]
    left
    show ((lvsSyncdHandler env _ strvec).state.lvsSyncd.ifname).isSome = true
    rw [lvsSyncdHandler_names (same.symm ▸ unnamed) accepted, setValue,
      List.getElem?_eq_getElem enough, Option.isSome_some]
  have kept := OnceField.read_parsePass_of_frozen .lvsSyncd env
    (initGlobalKeywords build true) post _ isFrozen
  simp only [OnceField.read, OnceValue.record.injEq] at kept
  rw [parsePass_append]
  exact kept.trans atLine

/-- A rejected `lvs_sync_daemon`, the accepted one, then another: the accepted one decides. -/
theorem lvsSyncd_first_accepted_line :
    Handler.lvsSyncdHandler.gate fullBuild = true ∧ zeroedState.lvsSyncd.ifname = none ∧
      (∀ line ∈ [["lvs_sync_daemon", "eth0"]], Handler.lvsSyncdHandler.namedBy line = true →
        syncdAccepts referenceEnv line = false) ∧
      Handler.lvsSyncdHandler.namedBy ["lvs_sync_daemon", "eth1", "VI_1", "id", "7"] = true ∧
      syncdAccepts referenceEnv ["lvs_sync_daemon", "eth1", "VI_1", "id", "7"] = true ∧
      (parsePass referenceEnv (initGlobalKeywords fullBuild true) zeroedState
          ([["lvs_sync_daemon", "eth0"]] ++ ["lvs_sync_daemon", "eth1", "VI_1", "id", "7"] ::
            [["lvs_sync_daemon", "eth2", "VI_2"]])).lvsSyncd =
        (lvsSyncdHandler referenceEnv zeroedState
          ["lvs_sync_daemon", "eth1", "VI_1", "id", "7"]).state.lvsSyncd :=
  have rejectedBefore : ∀ line ∈ [["lvs_sync_daemon", "eth0"]],
      Handler.lvsSyncdHandler.namedBy line = true → syncdAccepts referenceEnv line = false := by
    decide
  ⟨rfl, rfl, rejectedBefore, rfl, rfl,
    @lvsSyncd_parsePass fullBuild rfl referenceEnv zeroedState rfl [["lvs_sync_daemon", "eth0"]]
      [["lvs_sync_daemon", "eth2", "VI_2"]] ["lvs_sync_daemon", "eth1", "VI_1", "id", "7"]
      rejectedBefore rfl rfl⟩

end Keepalived
