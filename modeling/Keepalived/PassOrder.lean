import Keepalived.Commutation

namespace Keepalived

/-!
# Reordering the lines of a parse pass

Each line of a pass is processed on its own: the handler its directive finds
runs on the state the earlier lines left.  `Handler.commute` says two different
handlers commute unless one reads a field the other writes.  Lifted to lines,
two lines can trade places when the handlers they reach are different and
unordered, and a line that reaches no handler trades places with anything.
`Perm.foldl_eq'` turns that swap into the run result: a pass gives the same
configuration for every reordering of its lines, as long as any two different
lines can trade places.
-/

/--
Whether two lines can trade places in a pass: the handlers they find in the
table are different and neither reads a field the other writes, or one of them
finds no handler.
-/
def linesCommute (table : List Keyword) (first second : Strvec) : Bool :=
  match first.head? >>= lookupHandler table, second.head? >>= lookupHandler table with
  | some a, some b => a != b && !a.orderMatters b
  | _, _ => true

/-- Swap lemma: two lines that can trade places leave the same state in either order. -/
theorem dispatch_swap
    {env : Env}
    {table : List Keyword}
    {first second : Strvec}
    (commute : linesCommute table first second = true)
    (s : GlobalState) :
    (dispatch env table (dispatch env table s first).state second).state =
      (dispatch env table (dispatch env table s second).state first).state := by
  unfold linesCommute at commute
  cases foundFirst : first.head? >>= lookupHandler table with
  | none => simp only [dispatch, foundFirst, Outcome.done_state]
  | some a =>
      cases foundSecond : second.head? >>= lookupHandler table with
      | none => simp only [dispatch, foundSecond, Outcome.done_state]
      | some b =>
          simp only [foundFirst, foundSecond, Bool.and_eq_true, bne_iff_ne, ne_eq,
            Bool.not_eq_true'] at commute
          simp only [dispatch, foundFirst, foundSecond]
          exact Handler.commute a b commute.1 commute.2 env s first second

/--
A parse pass gives the same configuration for every reordering of its lines,
provided that any two different lines reach different handlers that do not
read each other's writes.
-/
theorem parsePass_perm
    (env : Env)
    (table : List Keyword)
    (s : GlobalState)
    {lines reordered : List Strvec}
    (commute : ∀ first ∈ lines, ∀ second ∈ lines, first ≠ second →
      linesCommute table first second = true)
    (perm : lines.Perm reordered) :
    parsePass env table s lines = parsePass env table s reordered :=
  perm.foldl_eq' (fun first firstMem second secondMem t => by
    by_cases same : first = second
    · rw [same]
    · exact dispatch_swap (commute first firstMem second secondMem same) t) s

/-- Three lines of different directives, passed in the reverse order, give the same state. -/
theorem parsePass_reversed_three :
    (∀ first ∈ [["vrrp_version", "3"], ["lvs_timeouts", "tcp", "10"], ["instance", "a"]],
      ∀ second ∈ [["vrrp_version", "3"], ["lvs_timeouts", "tcp", "10"], ["instance", "a"]],
        first ≠ second →
          linesCommute (initGlobalKeywords fullBuild true) first second = true) ∧
      [["vrrp_version", "3"], ["lvs_timeouts", "tcp", "10"], ["instance", "a"]].Perm
        [["instance", "a"], ["lvs_timeouts", "tcp", "10"], ["vrrp_version", "3"]] ∧
      parsePass referenceEnv (initGlobalKeywords fullBuild true) zeroedState
          [["vrrp_version", "3"], ["lvs_timeouts", "tcp", "10"], ["instance", "a"]] =
        parsePass referenceEnv (initGlobalKeywords fullBuild true) zeroedState
          [["instance", "a"], ["lvs_timeouts", "tcp", "10"], ["vrrp_version", "3"]] :=
  have commute : ∀ first ∈ [["vrrp_version", "3"], ["lvs_timeouts", "tcp", "10"],
      ["instance", "a"]], ∀ second ∈ [["vrrp_version", "3"], ["lvs_timeouts", "tcp", "10"],
        ["instance", "a"]], first ≠ second →
          linesCommute (initGlobalKeywords fullBuild true) first second = true := by
    decide
  have perm : [["vrrp_version", "3"], ["lvs_timeouts", "tcp", "10"], ["instance", "a"]].Perm
      [["instance", "a"], ["lvs_timeouts", "tcp", "10"], ["vrrp_version", "3"]] := by
    decide
  ⟨commute, perm, parsePass_perm _ _ _ commute perm⟩

end Keepalived
