import Keepalived.HandlerFootprints
import Keepalived.Platform

namespace Keepalived

/-!
# Which lines decide a group of fields

The footprints say what each handler reads and writes.  Call a list of fields
closed when every handler either writes none of them or reads only them.  Two
facts about a whole parse pass follow, for every closed list:

* non-interference: two passes over the same lines from states that agree on
  the fields end in states that agree on them, whatever the other fields held;
* slicing: the lines whose handlers write none of the fields can be dropped
  without changing the fields at the end of the pass.

So, for instance, the `lvs_timeouts` settings of a configuration are those of
its `lvs_timeouts` lines alone.  Agreement is stated with `restore`: `t` agrees
with `s` on `fields` when putting `s`'s values of `fields` into `t` gives `t`.
-/

/-- `t` holds `s`'s values of `fields`. -/
def AgreeOn (fields : List Field) (s t : GlobalState) : Prop :=
  restore fields s t = t

/-! ## Restores over two field lists -/

/-- Restoring from a restore over the same fields reads through it. -/
theorem restore_restore_left (fields : List Field) (a b c : GlobalState) :
    restore fields (restore fields a b) c = restore fields a c := by
  have pickPick : ∀ {α : Type} (f : Field) (a b c : α),
      pick fields f (pick fields f a b) c = pick fields f a c := by
    intro α f a b c
    simp only [pick_eq_ite]
    split_ifs <;> rfl
  simp only [restore, pickPick]

/-- A restore of `writes` from one state commutes with a restore of `fields` under it. -/
theorem restore_distrib (fields writes : List Field) (x s t : GlobalState) :
    restore fields (restore writes x s) (restore writes x t) =
      restore writes x (restore fields s t) := by
  have pickDistrib : ∀ {α : Type} (f : Field) (x s t : α),
      pick fields f (pick writes f x s) (pick writes f x t) =
        pick writes f x (pick fields f s t) := by
    intro α f x s t
    simp only [pick_eq_ite]
    split_ifs <;> rfl
  simp only [restore, pickDistrib]

/-- Restoring `fields` from a state whose restore missed them reads the state under it. -/
theorem restore_left_of_disjoint
    {fields writes : List Field}
    (disjoint : ∀ f, f ∈ fields → f ∉ writes)
    (x s y : GlobalState) :
    restore fields (restore writes x s) y = restore fields s y := by
  have pickDisjoint : ∀ {α : Type} (f : Field) (x s y : α),
      pick fields f (pick writes f x s) y = pick fields f s y := by
    intro α f x s y
    simp only [pick_eq_ite]
    by_cases inFields : f ∈ fields
    · simp [inFields, disjoint f inFields]
    · simp [inFields]
  simp only [restore, pickDisjoint]

/-! ## Agreement -/

namespace AgreeOn

variable {fields : List Field}

theorem refl (s : GlobalState) : AgreeOn fields s s :=
  restore_self fields s

theorem symm {s t : GlobalState} (agree : AgreeOn fields s t) : AgreeOn fields t s :=
  calc restore fields t s
      = restore fields (restore fields s t) s := by rw [agree]
    _ = s := by rw [restore_restore_left, restore_self]

theorem trans {a b c : GlobalState} (first : AgreeOn fields a b) (second : AgreeOn fields b c) :
    AgreeOn fields a c :=
  calc restore fields a c
      = restore fields (restore fields a b) c := (restore_restore_left fields a b c).symm
    _ = c := by rw [first, second]

end AgreeOn

/-- A handler that writes none of `fields` leaves them as it found them. -/
theorem Footprint.agreeOn_of_disjoint
    {reads writes : List Field}
    {handler : HandlerFn}
    (footprint : Footprint reads writes handler)
    {fields : List Field}
    (disjoint : ∀ f, f ∈ fields → f ∉ writes)
    (env : Env)
    (s : GlobalState)
    (strvec : Strvec) :
    AgreeOn fields s (handler env s strvec).state := by
  unfold AgreeOn
  rw [footprint.frame env s strvec]
  exact restore_absorb disjoint _ _

/--
Step lemma: a handler that writes none of `fields`, or reads only `fields`,
takes two states that agree on `fields` to two states that agree on them.
-/
theorem Footprint.agreeOn
    {reads writes : List Field}
    {handler : HandlerFn}
    (footprint : Footprint reads writes handler)
    {fields : List Field}
    (confined : (∀ f, f ∈ fields → f ∉ writes) ∨ (∀ f, f ∈ reads → f ∈ fields))
    (env : Env)
    {s t : GlobalState}
    (agree : AgreeOn fields s t)
    (strvec : Strvec) :
    AgreeOn fields (handler env s strvec).state (handler env t strvec).state := by
  have frameS := footprint.frame env s strvec
  rcases confined with outside | inside
  case inl =>
    have frameT := footprint.frame env t strvec
    calc restore fields (handler env s strvec).state (handler env t strvec).state
        = restore fields (restore writes (handler env s strvec).state s)
            (handler env t strvec).state := by rw [← frameS]
      _ = restore fields s (restore writes (handler env t strvec).state t) := by
          rw [restore_left_of_disjoint outside, ← frameT]
      _ = restore writes (handler env t strvec).state (restore fields s t) :=
          restore_comm outside _ _ _
      _ = (handler env t strvec).state := by rw [agree, ← frameT]
  case inr =>
    have readsAgree : restore reads s t = t := by
      rw [← agree, restore_of_subset inside]
    have runT : (handler env t strvec).state = restore writes (handler env s strvec).state t := by
      rw [← readsAgree, footprint env s t strvec]
    calc restore fields (handler env s strvec).state (handler env t strvec).state
        = restore fields (restore writes (handler env s strvec).state s)
            (restore writes (handler env s strvec).state t) := by rw [← frameS, runT]
      _ = restore writes (handler env s strvec).state (restore fields s t) :=
          restore_distrib fields writes _ _ _
      _ = (handler env t strvec).state := by rw [agree, runT]

/-! ## Closed field lists -/

/-- Whether a handler writes none of `fields` or reads only `fields`. -/
def Handler.confinedTo (fields : List Field) (handler : Handler) : Bool :=
  handler.writes.all (fun f => !fields.contains f) || handler.reads.all fields.contains

theorem Handler.confined_of_confinedTo
    {fields : List Field}
    {handler : Handler}
    (checked : handler.confinedTo fields = true) :
    (∀ f, f ∈ fields → f ∉ handler.writes) ∨
      (∀ f, f ∈ handler.reads → f ∈ fields) := by
  simp only [confinedTo, Bool.or_eq_true, List.all_eq_true, Bool.not_eq_true',
    List.elem_eq_mem, decide_eq_false_iff_not, decide_eq_true_eq] at checked
  rcases checked with outside | inside
  · exact .inl fun f mem written => outside f written mem
  · exact .inr inside

/-- Whether the handler a line finds writes one of `fields`. -/
def lineWrites (table : List Keyword) (fields : List Field) (strvec : Strvec) : Bool :=
  match strvec.head? >>= lookupHandler table with
  | some handler => handler.writes.any fields.contains
  | none => false

theorem dispatch_agreeOn
    {fields : List Field}
    (closed : ∀ handler : Handler, handler.confinedTo fields = true)
    (env : Env)
    (table : List Keyword)
    {s t : GlobalState}
    (agree : AgreeOn fields s t)
    (strvec : Strvec) :
    AgreeOn fields (dispatch env table s strvec).state (dispatch env table t strvec).state := by
  unfold dispatch
  split
  · next handler _ =>
      exact handler.footprint.agreeOn (Handler.confined_of_confinedTo (closed handler)) env
        agree strvec
  · exact agree

/--
Non-interference: when every handler writes none of `fields` or reads only
`fields`, two parse passes over the same lines from states that agree on
`fields` end in states that agree on `fields`.
-/
theorem parsePass_agreeOn
    {fields : List Field}
    (closed : ∀ handler : Handler, handler.confinedTo fields = true)
    (env : Env)
    (table : List Keyword) :
    ∀ (lines : List Strvec) {s t : GlobalState}, AgreeOn fields s t →
      AgreeOn fields (parsePass env table s lines) (parsePass env table t lines)
  | [], _, _, agree => agree
  | strvec :: rest, _, _, agree =>
      parsePass_agreeOn closed env table rest (dispatch_agreeOn closed env table agree strvec)

/-- The three `lvs_timeouts` settings. -/
def lvsTimeoutSettings : List Field :=
  [.lvsTcpTimeout, .lvsTcpfinTimeout, .lvsUdpTimeout]

/-- The `lvs_timeouts` settings of a pass do not depend on the VRRP version it starts from. -/
theorem lvsTimeoutSettings_ignore_vrrpVersion :
    (∀ handler : Handler, handler.confinedTo lvsTimeoutSettings = true) ∧
      AgreeOn lvsTimeoutSettings zeroedState { zeroedState with vrrpVersion := 3 } ∧
      AgreeOn lvsTimeoutSettings
        (parsePass referenceEnv (initGlobalKeywords fullBuild true) zeroedState
          [["lvs_timeouts", "tcp", "10"], ["vrrp_version", "2"]])
        (parsePass referenceEnv (initGlobalKeywords fullBuild true)
          { zeroedState with vrrpVersion := 3 }
          [["lvs_timeouts", "tcp", "10"], ["vrrp_version", "2"]]) :=
  have closed : ∀ handler : Handler, handler.confinedTo lvsTimeoutSettings = true := by
    intro handler
    cases handler <;> rfl
  have agree : AgreeOn lvsTimeoutSettings zeroedState { zeroedState with vrrpVersion := 3 } := rfl
  ⟨closed, agree, parsePass_agreeOn closed _ _ _ agree⟩

/--
Slicing: when every handler writes none of `fields` or reads only `fields`, a
parse pass over only the lines whose handlers write one of `fields` leaves
`fields` as the pass over all the lines does.
-/
theorem parsePass_filter_lineWrites
    {fields : List Field}
    (closed : ∀ handler : Handler, handler.confinedTo fields = true)
    (env : Env)
    (table : List Keyword) :
    ∀ (lines : List Strvec) (s : GlobalState),
      AgreeOn fields (parsePass env table s lines)
        (parsePass env table s (lines.filter (lineWrites table fields)))
  | [], s => AgreeOn.refl s
  | strvec :: rest, s => by
      cases writesFields : lineWrites table fields strvec
      · rw [List.filter_cons_of_neg (by simp only [writesFields]; decide)]
        have untouched : AgreeOn fields s (dispatch env table s strvec).state := by
          unfold lineWrites at writesFields
          unfold dispatch
          split
          · next handler found =>
              simp only [found, List.any_eq_false, List.elem_eq_mem, decide_eq_true_eq]
                at writesFields
              exact handler.footprint.agreeOn_of_disjoint
                (fun f mem written => writesFields f written mem) env s strvec
          · exact AgreeOn.refl s
        exact (parsePass_filter_lineWrites closed env table rest _).trans
          (parsePass_agreeOn closed env table _ untouched).symm
      · rw [List.filter_cons_of_pos writesFields]
        exact parsePass_filter_lineWrites closed env table rest _

/-- Only the `lvs_timeouts` lines of a pass decide its `lvs_timeouts` settings. -/
theorem lvsTimeoutSettings_slice :
    (∀ handler : Handler, handler.confinedTo lvsTimeoutSettings = true) ∧
      AgreeOn lvsTimeoutSettings
        (parsePass referenceEnv (initGlobalKeywords fullBuild true) zeroedState
          [["vrrp_version", "2"], ["lvs_timeouts", "tcp", "10"], ["router_id", "a"]])
        (parsePass referenceEnv (initGlobalKeywords fullBuild true) zeroedState
          ([["vrrp_version", "2"], ["lvs_timeouts", "tcp", "10"], ["router_id", "a"]].filter
            (lineWrites (initGlobalKeywords fullBuild true) lvsTimeoutSettings))) :=
  have closed : ∀ handler : Handler, handler.confinedTo lvsTimeoutSettings = true := by
    intro handler
    cases handler <;> rfl
  ⟨closed, parsePass_filter_lineWrites closed _ _ _ _⟩

example :
    [["vrrp_version", "2"], ["lvs_timeouts", "tcp", "10"], ["router_id", "a"]].filter
        (lineWrites (initGlobalKeywords fullBuild true) lvsTimeoutSettings) =
      [["lvs_timeouts", "tcp", "10"]] := by
  decide

end Keepalived
