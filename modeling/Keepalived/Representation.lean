import Keepalived.SettingRanges

namespace Keepalived

/-!
# The default interface stays on the interface queue

The model keeps the interface a pointer names as an `Interface` value; the C
record keeps an `interface_t *` into the interface queue.  `default_interface`
stores the pointer `if_get_by_ifname` returns; when that function only
returns interfaces on the queue it leaves, the default interface is on the
queue after any pass.
-/

/--
What `default_interface` relies on from `if_get_by_ifname`: an interface it
returns is on the queue it leaves.
-/
def ReturnsQueued (env : Env) : Prop :=
  ∀ name lookup dynamicInterfaces queue ifp,
    (env.ifGetByIfname name lookup dynamicInterfaces queue).1 = some ifp →
      ifp ∈ (env.ifGetByIfname name lookup dynamicInterfaces queue).2

/-- The default interface, when there is one, is on the interface queue. -/
def DefaultIfpQueued (s : GlobalState) : Prop :=
  ∀ ifp, s.defaultIfp = some ifp → ifp ∈ s.ifQueue

theorem defaultIfpQueued_readsOnly : ReadsOnly [.defaultIfp, .ifQueue] DefaultIfpQueued :=
  fun _ _ queued => queued

/-- The reference `if_get_by_ifname` returns a queued interface or one it appends. -/
theorem referenceEnv_returnsQueued : ReturnsQueued referenceEnv := by
  intro name lookup dynamicInterfaces queue ifp returned
  change (referenceIfGetByIfname name lookup dynamicInterfaces queue).1 = some ifp at returned
  change ifp ∈ (referenceIfGetByIfname name lookup dynamicInterfaces queue).2
  unfold referenceIfGetByIfname at returned ⊢
  split at returned
  · next found lookedUp =>
      rw [← Option.some.inj returned]
      exact List.mem_of_find?_eq_some lookedUp
  · by_cases create :
        lookup = .createAlways ∨ (lookup = .createIfDynamic ∧ dynamicInterfaces = true)
    · rw [if_pos create] at returned ⊢
      rw [← Option.some.inj returned]
      exact List.mem_append_right queue (List.mem_singleton_self _)
    · rw [if_neg create] at returned
      cases returned

/-- `default_interface` keeps the default interface on the queue. -/
theorem defaultInterfaceHandler_keeps_queued
    {env : Env}
    (returnsQueued : ReturnsQueued env)
    (s : GlobalState)
    (strvec : Strvec)
    (queued : DefaultIfpQueued s) :
    DefaultIfpQueued (defaultInterfaceHandler env s strvec).state := by
  rw [defaultInterfaceHandler_state]
  split
  · exact queued
  · exact fun ifp stored => returnsQueued _ _ _ _ ifp stored

/-- Step lemma: every handler keeps the default interface on the queue. -/
theorem Handler.keeps_defaultIfpQueued
    {env : Env}
    (returnsQueued : ReturnsQueued env) :
    ∀ (handler : Handler) s strvec,
      DefaultIfpQueued s → DefaultIfpQueued (handler.fn env s strvec).state := by
  refine Handler.keeps_of_owners defaultIfpQueued_readsOnly [.defaultInterfaceHandler]
    (fun handler => by cases handler <;> rfl) ?_
  simp only [List.mem_singleton]
  rintro handler rfl
  exact defaultInterfaceHandler_keeps_queued returnsQueued

/--
When `if_get_by_ifname` only returns queued interfaces, every parse pass keeps
the default interface on the interface queue.
-/
theorem parsePass_keeps_defaultIfpQueued
    (env : Env)
    (returnsQueued : ReturnsQueued env)
    (table : List Keyword)
    (lines : List Strvec)
    (s : GlobalState)
    (queued : DefaultIfpQueued s) :
    DefaultIfpQueued (parsePass env table s lines) :=
  parsePass_of_handlers _ (Handler.keeps_defaultIfpQueued returnsQueued) table lines s queued

/-- On the reference platform, `default_interface` after `dynamic_interfaces` queues its interface. -/
theorem defaultIfpQueued_reference_pass :
    ReturnsQueued referenceEnv ∧ DefaultIfpQueued zeroedState ∧
      DefaultIfpQueued
        (parsePass referenceEnv (initGlobalKeywords fullBuild true) zeroedState
          [["dynamic_interfaces"], ["default_interface", "eth0"]]) :=
  have start : DefaultIfpQueued zeroedState := fun _ unset => nomatch unset
  ⟨referenceEnv_returnsQueued, start,
    parsePass_keeps_defaultIfpQueued _ referenceEnv_returnsQueued _ _ _ start⟩

end Keepalived
