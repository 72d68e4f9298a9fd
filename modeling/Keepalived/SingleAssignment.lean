import Keepalived.HandlerFootprints
import Keepalived.Platform

namespace Keepalived

/-!
# Fields set once per parse pass

`instance`, `net_namespace`, `lvs_sync_daemon`, the three `notify_fifo` names
and scripts, and `snmp_socket` each set a field only while it is NULL.
`OnceField` names these fields.  The step lemmas show that the field's own
handler leaves a set field alone, logging exactly one diagnostic outside a
reload, and the footprints show that no other handler writes it; the run
lemma then carries a set field unchanged through any parse pass.
-/

/-- The fields a parse pass sets at most once. -/
inductive OnceField where
  | instanceName
  | networkNamespace
  | lvsSyncd
  | fifoName (kind : FifoKind)
  | fifoScript (kind : FifoKind)
  | snmpSocket
  deriving DecidableEq, Repr

/-- The value of a set-once field. -/
inductive OnceValue where
  | name (value : Option String)
  | record (value : LvsSyncd)
  | script (value : Option NotifyScript)
  deriving DecidableEq, Repr

/-- Whether the value is no longer NULL: for the sync daemon, whether it is named. -/
def OnceValue.isSet : OnceValue → Bool
  | .name value => value.isSome
  | .record value => value.ifname.isSome
  | .script value => value.isSome

namespace OnceField

/-- The field's value in a state. -/
def read : OnceField → GlobalState → OnceValue
  | .instanceName, s => .name s.instanceName
  | .networkNamespace, s => .name s.networkNamespace
  | .lvsSyncd, s => .record s.lvsSyncd
  | .fifoName kind, s => .name (kind.get s).name
  | .fifoScript kind, s => .script (kind.get s).script
  | .snmpSocket, s => .name s.snmpSocket

/-- Whether the field is set in a state. -/
def isSet (f : OnceField) (s : GlobalState) : Bool :=
  (f.read s).isSet

/-- The field in the footprint vocabulary. -/
def field : OnceField → Field
  | .instanceName => .instanceName
  | .networkNamespace => .networkNamespace
  | .lvsSyncd => .lvsSyncd
  | .fifoName kind => kind.nameField
  | .fifoScript kind => kind.scriptField
  | .snmpSocket => .snmpSocket

/-- The handler of the field's own directive. -/
def owner : OnceField → Handler
  | .instanceName => .instanceHandler
  | .networkNamespace => .netNamespaceHandler
  | .lvsSyncd => .lvsSyncdHandler
  | .fifoName .global => .globalNotifyFifo
  | .fifoName .vrrp => .vrrpNotifyFifo
  | .fifoName .lvs => .lvsNotifyFifo
  | .fifoScript .global => .globalNotifyFifoScript
  | .fifoScript .vrrp => .vrrpNotifyFifoScript
  | .fifoScript .lvs => .lvsNotifyFifoScript
  | .snmpSocket => .snmpSocketHandler

/-- Restoring other fields does not change a set-once field. -/
theorem read_restore
    (f : OnceField)
    {fields : List Field}
    (untouched : f.field ∉ fields)
    (a s : GlobalState) :
    f.read (restore fields a s) = f.read s := by
  have kept : ∀ {α : Type} (x y : α), pick fields f.field x y = y :=
    pick_of_not_mem untouched
  cases f with
  | lvsSyncd => exact congrArg OnceValue.record (kept _ _)
  | fifoName kind => cases kind <;> exact congrArg OnceValue.name (kept _ _)
  | fifoScript kind => cases kind <;> exact congrArg OnceValue.script (kept _ _)
  | _ => exact congrArg OnceValue.name (kept _ _)

/-- Only the field's own handler writes it. -/
theorem owner_of_mem_writes
    {f : OnceField}
    {handler : Handler}
    (written : f.field ∈ handler.writes) :
    handler = f.owner := by
  cases f with
  | fifoName kind => cases kind <;> cases handler <;> first | rfl | (revert written; decide)
  | fifoScript kind => cases kind <;> cases handler <;> first | rfl | (revert written; decide)
  | _ => cases handler <;> first | rfl | (revert written; decide)

end OnceField

/-- A handler that logs one diagnostic and returns its state unchanged. -/
def Ignores (o : Outcome) (s : GlobalState) : Prop :=
  o.state = s ∧ o.log.length = 1

/-- An informational outcome on the unchanged state ignores the line. -/
theorem ignores_info (s : GlobalState) (report : Report) (text : String) :
    Ignores (Outcome.info s report text) s :=
  ⟨rfl, rfl⟩

/-- A name set once is left alone: skipped in a reload, a duplicate otherwise. -/
theorem onceNameHandler_of_set
    {what : String}
    {get : GlobalState → Option String}
    {set : GlobalState → Option String → GlobalState}
    {s : GlobalState}
    (named : (get s).isSome = true)
    (env : Env)
    (strvec : Strvec) :
    (onceNameHandler what get set env s strvec).state = s ∧
      (s.reload = false → (onceNameHandler what get set env s strvec).log.length = 1) := by
  obtain ⟨name, hasName⟩ := Option.isSome_iff_exists.mp named
  unfold onceNameHandler
  cases s.reload
  · simp only [Bool.false_eq_true, ↓reduceIte, hasName]
    exact ⟨rfl, fun _ => rfl⟩
  · exact ⟨rfl, fun notReload => Bool.noConfusion notReload⟩

/-- A reload pass skips every set-once name line. -/
theorem onceNameHandler_of_reload
    {what : String}
    {get : GlobalState → Option String}
    {set : GlobalState → Option String → GlobalState}
    {s : GlobalState}
    (reloading : s.reload = true)
    (env : Env)
    (strvec : Strvec) :
    (onceNameHandler what get set env s strvec).state = s := by
  simp only [onceNameHandler, reloading, ↓reduceIte, Outcome.done_state]

/-- A named sync daemon ignores every later `lvs_sync_daemon` line. -/
theorem lvsSyncdHandler_of_named
    {s : GlobalState}
    (named : s.lvsSyncd.ifname.isSome = true)
    (env : Env)
    (strvec : Strvec) :
    Ignores (lvsSyncdHandler env s strvec) s := by
  obtain ⟨name, hasName⟩ := Option.isSome_iff_exists.mp named
  unfold lvsSyncdHandler
  simp only [hasName]
  exact ignores_info _ _ _

/-- A FIFO whose name is set ignores every later name line. -/
theorem notifyFifo_of_named
    {kind : FifoKind}
    {s : GlobalState}
    (named : (kind.get s).name.isSome = true)
    (env : Env)
    (strvec : Strvec) :
    Ignores (notifyFifo kind env s strvec) s := by
  obtain ⟨name, hasName⟩ := Option.isSome_iff_exists.mp named
  unfold notifyFifo
  split
  · exact ignores_info _ _ _
  · simp only [hasName]
    exact ignores_info _ _ _

/-- A FIFO whose script is set ignores every later script line. -/
theorem notifyFifoScript_of_set
    {kind : FifoKind}
    {s : GlobalState}
    (set : (kind.get s).script.isSome = true)
    (env : Env)
    (strvec : Strvec) :
    Ignores (notifyFifoScript kind env s strvec) s := by
  obtain ⟨script, hasScript⟩ := Option.isSome_iff_exists.mp set
  unfold notifyFifoScript
  split
  · exact ignores_info _ _ _
  · simp only [hasScript]
    exact ignores_info _ _ _

/-- A set SNMP socket ignores every later `snmp_socket` line. -/
theorem snmpSocketHandler_of_set
    {s : GlobalState}
    (set : s.snmpSocket.isSome = true)
    (env : Env)
    (strvec : Strvec) :
    Ignores (snmpSocketHandler env s strvec) s := by
  obtain ⟨name, hasName⟩ := Option.isSome_iff_exists.mp set
  unfold snmpSocketHandler
  simp only [hasName]
  split_ifs <;> exact ignores_info _ _ _

namespace OnceField

/-- A handler other than the field's own leaves the field as it was. -/
theorem read_of_ne_owner
    {f : OnceField}
    {handler : Handler}
    (other : handler ≠ f.owner)
    (env : Env)
    (s : GlobalState)
    (strvec : Strvec) :
    f.read (handler.fn env s strvec).state = f.read s := by
  rw [(Handler.footprint handler).frame env s strvec]
  exact read_restore f (fun written => other (owner_of_mem_writes written)) _ _

/--
The field's own handler leaves a set field, and the whole state, alone; outside
a reload it says why in exactly one diagnostic.
-/
theorem owner_of_isSet
    (f : OnceField)
    (env : Env)
    (s : GlobalState)
    (strvec : Strvec)
    (set : f.isSet s = true) :
    (f.owner.fn env s strvec).state = s ∧
      (s.reload = false → (f.owner.fn env s strvec).log.length = 1) := by
  have ofIgnores :
      ∀ {o : Outcome}, Ignores o s → o.state = s ∧ (s.reload = false → o.log.length = 1) :=
    fun ignores => ⟨ignores.1, fun _ => ignores.2⟩
  cases f with
  | instanceName => exact onceNameHandler_of_set set env strvec
  | networkNamespace => exact onceNameHandler_of_set set env strvec
  | lvsSyncd => exact ofIgnores (lvsSyncdHandler_of_named set env strvec)
  | fifoName kind => cases kind <;> exact ofIgnores (notifyFifo_of_named set env strvec)
  | fifoScript kind => cases kind <;> exact ofIgnores (notifyFifoScript_of_set set env strvec)
  | snmpSocket => exact ofIgnores (snmpSocketHandler_of_set set env strvec)

/-- Whether the field's own handler skips the line in a reload pass. -/
def skipsReload : OnceField → Bool
  | .instanceName => true
  | .networkNamespace => true
  | _ => false

/-- Whether no line can change the field any more: it is set, or a reload pass skips it. -/
def frozen (f : OnceField) (s : GlobalState) : Bool :=
  f.isSet s || (f.skipsReload && s.reload)

/-- The field's own handler leaves a frozen field's state alone. -/
theorem owner_of_frozen
    (f : OnceField)
    (env : Env)
    (s : GlobalState)
    (strvec : Strvec)
    (isFrozen : f.frozen s = true) :
    (f.owner.fn env s strvec).state = s := by
  cases set : f.isSet s
  · have skipped : f.skipsReload = true ∧ s.reload = true := by
      simpa [frozen, set] using isFrozen
    obtain ⟨skips, reload⟩ := skipped
    cases f with
    | instanceName => exact onceNameHandler_of_reload reload env strvec
    | networkNamespace => exact onceNameHandler_of_reload reload env strvec
    | _ => exact absurd skips Bool.false_ne_true
  · exact (owner_of_isSet f env s strvec set).1

end OnceField

/-- No handler writes the reload flag. -/
theorem Handler.reload_not_mem_writes (handler : Handler) : Field.reload ∉ handler.writes := by
  cases handler <;> decide

/-- A parse line never changes whether the pass is a reload. -/
theorem reload_dispatch
    (env : Env)
    (table : List Keyword)
    (s : GlobalState)
    (strvec : Strvec) :
    (dispatch env table s strvec).state.reload = s.reload := by
  unfold dispatch
  split
  · next handler _ =>
      rw [(Handler.footprint handler).frame env s strvec]
      exact pick_of_not_mem (Handler.reload_not_mem_writes handler) _ _
  · rfl

namespace OnceField

/-- Step lemma: one line of a parse pass leaves a frozen field as it was. -/
theorem read_dispatch_of_frozen
    (f : OnceField)
    (env : Env)
    (table : List Keyword)
    (s : GlobalState)
    (strvec : Strvec)
    (isFrozen : f.frozen s = true) :
    f.read (dispatch env table s strvec).state = f.read s := by
  unfold dispatch
  split
  · next handler _ =>
      by_cases own : handler = f.owner
      · rw [own, owner_of_frozen f env s strvec isFrozen]
      · exact read_of_ne_owner own env s strvec
  · rfl

/-- A frozen field stays frozen after one line. -/
theorem frozen_dispatch
    (f : OnceField)
    (env : Env)
    (table : List Keyword)
    (s : GlobalState)
    (strvec : Strvec)
    (isFrozen : f.frozen s = true) :
    f.frozen (dispatch env table s strvec).state = true := by
  simpa only [frozen, isSet, read_dispatch_of_frozen f env table s strvec isFrozen,
    reload_dispatch] using isFrozen

/-- Run lemma: a frozen field keeps its value through a whole parse pass. -/
theorem read_parsePass_of_frozen
    (f : OnceField)
    (env : Env)
    (table : List Keyword)
    (lines : List Strvec)
    (s : GlobalState)
    (isFrozen : f.frozen s = true) :
    f.read (parsePass env table s lines) = f.read s :=
  (parsePass_invariant (fun t => f.frozen t = true ∧ f.read t = f.read s)
    (fun t strvec ⟨frozenT, readT⟩ =>
      ⟨frozen_dispatch f env table t strvec frozenT,
        (read_dispatch_of_frozen f env table t strvec frozenT).trans readT⟩)
    lines s ⟨isFrozen, rfl⟩).2

end OnceField

/--
Each set-once field keeps its first non-NULL value for the rest of any parse
pass; in a reload pass the instance name and the network namespace keep their
value whatever it is; no handler but the field's own writes the field; and,
outside a reload, the own handler ignores a later line for a set field with
exactly one diagnostic.
-/
theorem onceFields_keep_first_value (env : Env) (table : List Keyword) :
    (∀ (f : OnceField) (s : GlobalState) (lines : List Strvec),
        f.isSet s = true → f.read (parsePass env table s lines) = f.read s) ∧
      (∀ (s : GlobalState) (lines : List Strvec), s.reload = true →
        (parsePass env table s lines).instanceName = s.instanceName ∧
          (parsePass env table s lines).networkNamespace = s.networkNamespace) ∧
      (∀ (f : OnceField) (handler : Handler) (s : GlobalState) (strvec : Strvec),
        handler ≠ f.owner → f.read (handler.fn env s strvec).state = f.read s) ∧
      (∀ (f : OnceField) (s : GlobalState) (strvec : Strvec),
        f.isSet s = true → s.reload = false →
          (f.owner.fn env s strvec).state = s ∧ (f.owner.fn env s strvec).log.length = 1) := by
  refine ⟨?kept, ?reload, ?others, ?ignored⟩
  case kept =>
    intro f s lines set
    exact f.read_parsePass_of_frozen env table lines s (by simp [OnceField.frozen, set])
  case reload =>
    intro s lines reload
    have frozenName (f : OnceField) (skips : f.skipsReload = true) :
        f.read (parsePass env table s lines) = f.read s :=
      f.read_parsePass_of_frozen env table lines s (by simp [OnceField.frozen, skips, reload])
    have instanceKept := frozenName .instanceName rfl
    have namespaceKept := frozenName .networkNamespace rfl
    simp only [OnceField.read, OnceValue.name.injEq] at instanceKept namespaceKept
    exact ⟨instanceKept, namespaceKept⟩
  case others =>
    intro f handler s strvec other
    exact OnceField.read_of_ne_owner other env s strvec
  case ignored =>
    intro f s strvec set notReload
    have owned := OnceField.owner_of_isSet f env s strvec set
    exact ⟨owned.1, owned.2 notReload⟩

/-- After `instance foo`, a later `instance bar` leaves the name `foo`. -/
theorem instance_duplicate_keeps_first :
    (parsePass referenceEnv (initGlobalKeywords fullBuild true) zeroedState
      [["instance", "foo"], ["instance", "bar"]]).instanceName = some "foo" := by
  have firstLine :
      (dispatch referenceEnv (initGlobalKeywords fullBuild true) zeroedState
        ["instance", "foo"]).state =
        { zeroedState with instanceName := some "foo", usePidDir := true } :=
    rfl
  have kept := (onceFields_keep_first_value referenceEnv (initGlobalKeywords fullBuild true)).1
    .instanceName { zeroedState with instanceName := some "foo", usePidDir := true }
    [["instance", "bar"]] rfl
  rw [← firstLine] at kept
  simpa only [OnceField.read, OnceValue.name.injEq] using kept

end Keepalived
