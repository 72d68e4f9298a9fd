import Keepalived.Commutation
import Keepalived.SettingRanges

namespace Keepalived

/-!
# What a parse pass only adds

Most flags of `global_data` are latches: their handlers set them and no
handler clears them, so a flag raised before a parse pass is raised after it.
`instance` and `net_namespace` set `use_pid_dir` together with their name,
so a process that has either name keeps its pid files in a directory.  The
`notification_email` blocks only append: after a pass the list is the old
one followed by the entries of every block, in the order of the lines.
-/

/-! ## Latch flags -/

/-- The latch flags of `global_data`: set by their directives, cleared by none. -/
def Field.latch : Field → Option (GlobalState → Bool)
  | .linkbeatUsePolling => some GlobalState.linkbeatUsePolling
  | .dynamicInterfaces => some GlobalState.dynamicInterfaces
  | .noEmailFaults => some GlobalState.noEmailFaults
  | .lvsFlush => some GlobalState.lvsFlush
  | .vrrpCheckUnicastSrc => some GlobalState.vrrpCheckUnicastSrc
  | .vrrpSkipCheckAdvAddr => some GlobalState.vrrpSkipCheckAdvAddr
  | .vrrpStrict => some GlobalState.vrrpStrict
  | .vrrpNoSwap => some GlobalState.vrrpNoSwap
  | .checkerNoSwap => some GlobalState.checkerNoSwap
  | .bfdNoSwap => some GlobalState.bfdNoSwap
  | .enableTraps => some GlobalState.enableTraps
  | .enableSnmpVrrp => some GlobalState.enableSnmpVrrp
  | .enableSnmpRfcv2 => some GlobalState.enableSnmpRfcv2
  | .enableSnmpRfcv3 => some GlobalState.enableSnmpRfcv3
  | .enableSnmpChecker => some GlobalState.enableSnmpChecker
  | .namespaceWithIpsets => some GlobalState.namespaceWithIpsets
  | .enableDbus => some GlobalState.enableDbus
  | .usePidDir => some GlobalState.usePidDir
  | .scriptSecurity => some GlobalState.scriptSecurity
  | _ => none

/-- Whether a field is a raised latch; never for a field that is no latch. -/
def Field.raised (f : Field) (s : GlobalState) : Bool :=
  match f.latch with
  | some get => get s
  | none => false

/-- Every latch raised in `s` is still raised in `t`. -/
def LatchesKept (s t : GlobalState) : Prop :=
  ∀ f : Field, f.raised s = true → f.raised t = true

theorem LatchesKept.trans {s t u : GlobalState} (first : LatchesKept s t)
    (second : LatchesKept t u) : LatchesKept s u :=
  fun f raised => second f (first f raised)

/-- A latch of a restored state comes from where `restore` takes its field. -/
theorem raised_restore (f : Field) (fields : List Field) (a b : GlobalState) :
    f.raised (restore fields a b) = pick fields f (f.raised a) (f.raised b) := by
  cases f <;> first | rfl | exact (pick_self _ _ _).symm

/-- A field that is no latch is never raised. -/
theorem raised_eq_false {f : Field} (notLatch : f.latch.isNone = true) (s : GlobalState) :
    f.raised s = false := by
  unfold Field.raised
  split
  · next get isLatch => simp [isLatch] at notLatch
  · rfl

/-- Writes that hold no latch lower none. -/
theorem raised_written_of_no_latch
    {writes : List Field}
    {s t : GlobalState}
    (noLatch : ∀ f ∈ writes, f.latch.isNone = true) :
    ∀ f ∈ writes, f.raised s = true → f.raised t = true :=
  fun f written before => absurd before (by rw [raised_eq_false (noLatch f written)]; decide)

/-- A single write that leaves its field raised lowers nothing. -/
theorem raised_written_single
    {x : Field}
    {s t : GlobalState}
    (raisedAfter : x.raised t = true) :
    ∀ f ∈ [x], f.raised s = true → f.raised t = true :=
  fun _ written _ => List.mem_singleton.mp written ▸ raisedAfter

/-- A set-once name handler leaves the state, or sets `use_pid_dir`. -/
theorem onceNameHandler_cases
    (what : String)
    (get : GlobalState → Option String)
    (set : GlobalState → Option String → GlobalState)
    (env : Env)
    (s : GlobalState)
    (strvec : Strvec) :
    (onceNameHandler what get set env s strvec).state = s ∨
      (onceNameHandler what get set env s strvec).state.usePidDir = true := by
  unfold onceNameHandler
  split
  · exact .inl rfl
  · split
    · exact .inr rfl
    · exact .inl rfl

/-- A set-once name handler never clears `use_pid_dir`. -/
theorem onceNameHandler_keeps_usePidDir
    {what : String}
    {get : GlobalState → Option String}
    {set : GlobalState → Option String → GlobalState}
    {env : Env}
    {s : GlobalState}
    {strvec : Strvec}
    (before : s.usePidDir = true) :
    (onceNameHandler what get set env s strvec).state.usePidDir = true := by
  rcases onceNameHandler_cases what get set env s strvec with same | raised
  · rw [same]
    exact before
  · exact raised

/-- `snmp_rfc` raises the RFC MIB flags of the build and keeps the others. -/
theorem snmpRfcHandler_flags (env : Env) (s : GlobalState) (strvec : Strvec) :
    (snmpRfcHandler env s strvec).state.enableSnmpRfcv2 =
        (env.build.withSnmpRfcv2 || s.enableSnmpRfcv2) ∧
      (snmpRfcHandler env s strvec).state.enableSnmpRfcv3 =
        (env.build.withSnmpRfcv3 || s.enableSnmpRfcv3) := by
  unfold snmpRfcHandler
  cases env.build.withSnmpRfcv2 <;> cases env.build.withSnmpRfcv3 <;> exact ⟨rfl, rfl⟩

/-- A handler lowers none of the latches it writes. -/
theorem raised_of_written (handler : Handler) (env : Env) (s : GlobalState) (strvec : Strvec) :
    ∀ f ∈ handler.writes,
      f.raised s = true → f.raised (handler.fn env s strvec).state = true := by
  cases handler
  case instanceHandler | netNamespaceHandler =>
    intro f written before
    rcases List.mem_cons.mp written with rfl | usePid
    · exact absurd before Bool.false_ne_true
    · obtain rfl := List.mem_singleton.mp usePid
      exact onceNameHandler_keeps_usePidDir before
  case snmpRfcHandler =>
    obtain ⟨v2, v3⟩ := snmpRfcHandler_flags env s strvec
    intro f written before
    rcases List.mem_cons.mp written with rfl | rfcv3
    · exact v2.trans (Bool.or_eq_true_iff.mpr (.inr before))
    · obtain rfl := List.mem_singleton.mp rfcv3
      exact v3.trans (Bool.or_eq_true_iff.mpr (.inr before))
  all_goals first
    | exact raised_written_of_no_latch (by decide)
    | exact raised_written_single rfl

/-- Step lemma: no handler lowers a latch. -/
theorem Handler.keeps_latches
    (handler : Handler)
    (env : Env)
    (s : GlobalState)
    (strvec : Strvec) :
    LatchesKept s (handler.fn env s strvec).state := by
  intro f before
  rw [handler.footprint.frame env s strvec, raised_restore]
  by_cases written : f ∈ handler.writes
  · rw [pick_of_mem written]
    exact raised_of_written handler env s strvec f written before
  · rw [pick_of_not_mem written]
    exact before

/-- Every parse pass keeps every latch flag that was raised before it. -/
theorem parsePass_keeps_latches
    (env : Env)
    (table : List Keyword)
    (lines : List Strvec)
    (s : GlobalState) :
    LatchesKept s (parsePass env table s lines) :=
  parsePass_of_handlers (LatchesKept s)
    (fun handler t strvec kept => kept.trans (handler.keeps_latches env t strvec))
    table lines s (fun _ raised => raised)

/-! ## The pid directory -/

/-- A process with an instance name or a network namespace keeps its pid files in a directory. -/
def PidDirUsed (s : GlobalState) : Prop :=
  s.instanceName.isSome = true ∨ s.networkNamespace.isSome = true → s.usePidDir = true

theorem pidDirUsed_readsOnly :
    ReadsOnly [.instanceName, .networkNamespace, .usePidDir] PidDirUsed :=
  fun _ _ used => used

/-- A set-once name handler keeps a named process in its pid directory. -/
theorem onceNameHandler_keeps_pidDirUsed
    (what : String)
    (get : GlobalState → Option String)
    (set : GlobalState → Option String → GlobalState)
    (env : Env)
    (s : GlobalState)
    (strvec : Strvec)
    (used : PidDirUsed s) :
    PidDirUsed (onceNameHandler what get set env s strvec).state := by
  rcases onceNameHandler_cases what get set env s strvec with same | raised
  · rw [same]
    exact used
  · exact fun _ => raised

/-- Step lemma: every handler keeps a named process in its pid directory. -/
theorem Handler.keeps_pidDirUsed (env : Env) :
    ∀ (handler : Handler) s strvec,
      PidDirUsed s → PidDirUsed (handler.fn env s strvec).state := by
  refine Handler.keeps_of_owners pidDirUsed_readsOnly
    [.instanceHandler, .netNamespaceHandler, .usePidDirHandler]
    (fun handler => by cases handler <;> rfl) ?_
  simp only [List.mem_cons, List.mem_singleton, List.not_mem_nil, or_false]
  rintro handler (rfl | rfl | rfl) s strvec used
  · exact onceNameHandler_keeps_pidDirUsed _ _ _ env s strvec used
  · exact onceNameHandler_keeps_pidDirUsed _ _ _ env s strvec used
  · exact fun _ => rfl

/-- After any parse pass, an instance name or a network namespace comes with `use_pid_dir`. -/
theorem parsePass_keeps_pidDirUsed
    (env : Env)
    (table : List Keyword)
    (lines : List Strvec)
    (s : GlobalState)
    (used : PidDirUsed s) :
    PidDirUsed (parsePass env table s lines) :=
  parsePass_of_handlers _ (Handler.keeps_pidDirUsed env) table lines s used

/-- From the zeroed state, naming the instance sets `use_pid_dir`. -/
theorem pidDirUsed_zeroed_pass :
    PidDirUsed zeroedState ∧
      PidDirUsed (parsePass referenceEnv (initGlobalKeywords fullBuild true) zeroedState
        [["instance", "LB_1"], ["net_namespace", "blue"]]) :=
  have start : PidDirUsed zeroedState := fun named => absurd named (by decide)
  ⟨start, parsePass_keeps_pidDirUsed _ _ _ _ start⟩

/-! ## The email list -/

/-- The entries one line adds: those of a `notification_email` block, none for any other line. -/
def lineEmailEntries (env : Env) (strvec : Strvec) : List String :=
  if strvec.head? = some "notification_email" then (env.readValueBlock strvec).getD [] else []

/-- The entries a pass adds: those of every `notification_email` block, in line order. -/
def emailEntries (env : Env) (lines : List Strvec) : List String :=
  lines.flatMap (lineEmailEntries env)

/-- `email_handler` appends the entries of its block, none for an empty block. -/
theorem emailHandler_email (env : Env) (s : GlobalState) (strvec : Strvec) :
    (emailHandler env s strvec).state.email = s.email ++ (env.readValueBlock strvec).getD [] := by
  unfold emailHandler
  split
  · next empty =>
      rw [empty]
      exact (List.append_nil _).symm
  · next entries block =>
      rw [block]
      exact foldl_allocEmail_email entries s

/-- Only `email_handler` writes the email list. -/
theorem email_not_mem_writes {handler : Handler} (other : handler ≠ .emailHandler) :
    Field.email ∉ handler.writes := by
  cases handler <;> first | exact absurd rfl other | decide

/-- In every build the table sends `notification_email` to `email_handler`. -/
theorem lookupHandler_notificationEmail (build : BuildOptions) :
    lookupHandler (initGlobalKeywords build true) "notification_email" = some .emailHandler := by
  obtain ⟨_, _, _, _, _, _, _, cloneNewnet, _, _, _, _, _, _, _⟩ := build
  cases cloneNewnet <;>
    simp only [lookupHandler, initGlobalKeywords, gated, List.append_assoc, List.find?_append,
      List.find?_cons, List.find?_nil, Bool.false_eq_true, ↓reduceIte, List.nil_append] <;> rfl

/-- One line's effect on the email list: the entries of a `notification_email` block, or nothing. -/
theorem dispatch_email
    (env : Env)
    (build : BuildOptions)
    (s : GlobalState)
    (strvec : Strvec) :
    (dispatch env (initGlobalKeywords build true) s strvec).state.email =
      s.email ++ lineEmailEntries env strvec := by
  match strvec with
  | [] => exact (List.append_nil _).symm
  | name :: args =>
      simp only [lineEmailEntries, List.head?_cons, Option.some.injEq]
      by_cases email : name = "notification_email"
      · subst email
        rw [dispatch_of_lookup (lookupHandler_notificationEmail build), if_pos rfl]
        exact emailHandler_email env s _
      · rw [if_neg email, List.append_nil]
        cases found : lookupHandler (initGlobalKeywords build true) name with
        | none =>
            rw [dispatch_of_lookup_none found]
            rfl
        | some handler =>
            have other : handler ≠ .emailHandler := by
              rintro rfl
              have named := Handler.mem_names_of_lookup (initGlobalKeywords_named build true) found
              exact email (List.mem_singleton.mp named)
            rw [dispatch_of_lookup found, handler.footprint.frame env s _]
            exact pick_of_not_mem (email_not_mem_writes other) _ _

/--
The email list after a parse pass with global definitions active, in any
build: the list before it followed by the entries of every
`notification_email` block, in the order of the lines.
-/
theorem parsePass_email
    (env : Env)
    (build : BuildOptions)
    (lines : List Strvec)
    (s : GlobalState) :
    (parsePass env (initGlobalKeywords build true) s lines).email =
      s.email ++ emailEntries env lines := by
  induction lines generalizing s with
  | nil => exact (List.append_nil _).symm
  | cons strvec rest inductionHypothesis =>
      show (parsePass env _ (dispatch env _ s strvec).state rest).email = _
      rw [inductionHypothesis, dispatch_email, List.append_assoc]
      rfl

end Keepalived
