import Keepalived.SyncDaemon

namespace Keepalived

/-!
# Numeric checks and casts

The handlers test the end pointer of `strtol` or `strtoul` and a range.
`numeralValue` is the grammar both functions read in full: blanks, one
optional sign and a non-empty run of decimal digits.  On a non-empty token
whose numeral is not negative, each range check stores the numeral's value
when it lies in the check's range and leaves its field alone otherwise.  The
checks without a range store every numeral: `strtoul` saturates a magnitude
past `ULONG_MAX`, which the real-time limits keep as it is and
`child_wait_time` cuts to the width of its type.  The legacy sync id is read
only from a token whose first character is a digit.  Outside those conditions
the functions show their C behaviour: an empty token is read as `0`, and a
negative numeral is negated modulo `2^64`.

The casts the handlers apply after a conversion are not checked: a
`vrrp_version` is cut to 8 bits before its test, and a GARP delay is scaled in
32 bits.
-/

/-- Whether the characters after the blanks and the sign are a non-empty run of digits. -/
def isNumeral (v : String) : Bool :=
  !(numeralBody v).isEmpty && (numeralBody v).all isdigit

/-- Whether the sign before the digits is `-`. -/
def numeralNegative (v : String) : Bool :=
  (splitSign (v.toList.dropWhile isspace)).1

/--
The integer a token denotes when it is a decimal numeral: blanks, one optional
sign and a non-empty run of digits, nothing after.
-/
def numeralValue (v : String) : Option Int :=
  if isNumeral v then
    some (if numeralNegative v then -(decimalValue (numeralBody v) : Int)
      else decimalValue (numeralBody v))
  else none

theorem takeWhile_of_isNumeral {v : String} (numeral : isNumeral v = true) :
    (numeralBody v).takeWhile isdigit = numeralBody v := by
  simp only [isNumeral, Bool.and_eq_true, Bool.not_eq_true', List.all_eq_true] at numeral
  exact List.takeWhile_eq_self_iff.mpr numeral.2

/-- On a numeral `strtoul` reads every character. -/
theorem strtoul_of_isNumeral {v : String} (numeral : isNumeral v = true) :
    strtoul v =
      (if ulongMax < decimalValue (numeralBody v) then ulongMax
        else if numeralNegative v then (2 ^ 64 - decimalValue (numeralBody v)) % 2 ^ 64
        else decimalValue (numeralBody v), []) := by
  have whole := takeWhile_of_isNumeral numeral
  simp only [isNumeral, Bool.and_eq_true, Bool.not_eq_true', List.isEmpty_eq_false,
    List.all_eq_true] at numeral
  unfold strtoul
  unfold numeralBody numeralNegative at *
  generalize splitSign (v.toList.dropWhile isspace) = parts at *
  obtain ⟨negative, body⟩ := parts
  simp only at whole numeral ⊢
  rw [whole, List.dropWhile_eq_nil_iff.mpr numeral.2]
  cases body with
  | nil => exact absurd rfl numeral.1
  | cons c rest => rfl

/-- `strtoul` returns at most `ULONG_MAX`. -/
theorem strtoul_le_ulongMax (v : String) : (strtoul v).1 ≤ ulongMax := by
  unfold strtoul
  generalize splitSign (v.toList.dropWhile isspace) = parts
  obtain ⟨negative, body⟩ := parts
  dsimp only
  split
  · simp [ulongMax]
  · simp only [ulongMax]
    split_ifs <;> omega

/-- A numeral that is not negative is read in full, its value saturated at `ULONG_MAX`. -/
theorem strtoul_of_nonneg_numeral
    {v : String}
    {n : Int}
    (value : numeralValue v = some n)
    (nonneg : 0 ≤ n) :
    strtoul v = (min n.toNat ulongMax, []) := by
  unfold numeralValue at value
  split at value
  · next numeral =>
      rw [strtoul_of_isNumeral numeral]
      simp only [Option.some.injEq] at value
      subst value
      generalize decimalValue (numeralBody v) = m at nonneg ⊢
      cases negative : numeralNegative v <;>
        simp only [negative, Bool.false_eq_true, ↓reduceIte, Int.toNat_ofNat] at nonneg ⊢
      · split_ifs <;> simp only [Prod.mk.injEq, and_true] <;> omega
      · obtain rfl : m = 0 := by omega
        rfl
  · exact absurd value (Option.some_ne_none n).symm

/-- A numeral of a value `strtoul` can hold is read exactly. -/
theorem strtoul_of_numeralValue
    {v : String}
    {n : Int}
    (value : numeralValue v = some n)
    (nonneg : 0 ≤ n)
    (fits : n ≤ ulongMax) :
    strtoul v = (n.toNat, []) := by
  rw [strtoul_of_nonneg_numeral value nonneg, Nat.min_eq_left (by omega)]

/--
`vrrp_version` keeps only the low 8 bits of a numeral before its test: every
numeral that is `2` or `3` modulo 256 is stored as that residue.
-/
theorem vrrpVersionHandler_stores_residue
    {directive v : String}
    {n : Int}
    (value : numeralValue v = some n)
    (nonneg : 0 ≤ n)
    (fits : n ≤ ulongMax)
    (valid : n.toNat % 256 = 2 ∨ n.toNat % 256 = 3)
    (env : Env)
    (s : GlobalState) :
    (vrrpVersionHandler env s [directive, v]).state.vrrpVersion = n.toNat % 256 := by
  have residue : toUnsigned 8 n.toNat = n.toNat % 256 := rfl
  have good : vrrpIsBadVersion (n.toNat % 256) = false := by
    simp only [vrrpIsBadVersion, Bool.or_eq_false_iff, decide_eq_false_iff_not]
    omega
  simp only [vrrpVersionHandler, strvecSlot, List.getD_cons_succ, List.getD_cons_zero,
    strtoul_of_numeralValue value nonneg fits, good, Bool.false_eq_true, ↓reduceIte,
    Outcome.done_state, residue]

/-- `vrrp_version 258` sets version 2. -/
theorem vrrpVersion_258_stored_as_2 :
    (parsePass referenceEnv (initGlobalKeywords fullBuild true) zeroedState
      [["vrrp_version", "258"]]).vrrpVersion = 2 := by
  decide

/--
A GARP delay keeps the seconds modulo `2^32`, then their product with
`TIMER_HZ` modulo `2^32`.
-/
theorem garpDelayHandler_stores_wrapped
    {directive v : String}
    {n : Int}
    {set : GlobalState → Nat → GlobalState}
    (value : numeralValue v = some n)
    (nonneg : 0 ≤ n)
    (fits : n ≤ ulongMax)
    (env : Env)
    (s : GlobalState) :
    (garpDelayHandler set env s [directive, v]).state =
      set s (n.toNat % 2 ^ 32 * env.timerHz % 2 ^ 32) := by
  simp only [garpDelayHandler, unsignedArg, strvecSlot, List.getD_cons_succ, List.getD_cons_zero,
    strtoul_of_numeralValue value nonneg fits, toUnsigned, Outcome.done_state]

example :
    (vrrpGarpDelayHandler referenceEnv zeroedState
      ["vrrp_garp_master_delay", "4295"]).state.vrrpGarpDelay = 4295 * 1000000 - 2 ^ 32 := by
  decide

end Keepalived
