import Keepalived.LvsHandlers

namespace Keepalived

/-!
# The option loops stay within the line

`lvs_timeouts` and `lvs_syncd_handler` walk their token line with one index,
which the loop body moves on by one token, or by two after a keyword with a
value, and which the `for` header tests against `vector_size`.
`boundedScan` is that loop with a budget of passes and with its two reads,
the keyword at `i` and the value at `i + 1`, taken through indices checked
against the length of the line: it cannot read past the end, and it says when
the budget runs out.  `boundedScan_of_le` shows that the model's loop is that
bounded loop as soon as the budget covers the tokens left, so every loop ends
after at most as many passes as the line has tokens and reads only tokens the
line has.  Both handlers, the legacy sync id at index 3 included, therefore
give the same outcome whatever `strvec_slot` returns past the end.
-/

/--
The spec's Sub-Option Scanner, run for at most `fuel` passes,
reading its keyword at `i` and its value at `i + 1` only through indices
checked against the length of the line; `none` when the passes run out first.
-/
def boundedScan
    (options : List SubOption)
    (directive : String)
    (strvec : Strvec) :
    Nat → GlobalState → Nat → Option Outcome
  | 0, s, i => if i < strvec.length then none else some (.done s)
  | fuel + 1, s, i =>
      if inRange : i < strvec.length then
        let key := strvec[i]
        match findOption options key with
        | some opt =>
            if valueInRange : i + 1 < strvec.length then
              let parsed := opt.apply s strvec[i + 1]
              (boundedScan options directive strvec fuel parsed.state (i + 2)).map
                fun rest => parsed.andThen fun _ => rest
            else
              (boundedScan options directive strvec fuel s (i + 1)).map
                (Outcome.logFirst ⟨.info, .rejectOption, opt.noValue⟩)
        | none =>
            (boundedScan options directive strvec fuel s (i + 1)).map
              (Outcome.logFirst
                ⟨.info, .unknownOption, s!"Unknown option {key} specified for {directive}"⟩)
      else
        some (.done s)

/-- Any budget that covers the tokens left runs the model's loop to its end. -/
theorem boundedScan_of_le
    (env : Env)
    (options : List SubOption)
    (directive : String)
    (strvec : Strvec)
    (s : GlobalState)
    (i fuel : Nat)
    (enough : vectorSize strvec - i ≤ fuel) :
    boundedScan options directive strvec fuel s i =
      some (scanOptions env options directive strvec s i) := by
  refine scanOptions.induct env options directive strvec
    (fun s i => ∀ fuel, vectorSize strvec - i ≤ fuel →
      boundedScan options directive strvec fuel s i =
        some (scanOptions env options directive strvec s i))
    ?_ ?_ ?_ ?_ s i fuel enough
  · intro s opt inRange key found next fuel enough
    obtain ⟨fuel, rfl⟩ : ∃ rest, fuel = rest + 1 := ⟨fuel - 1, by omega⟩
    have keyword : findOption options strvec[vectorSize strvec - 1] = some opt := by
      rw [← strvecSlot_of_lt inRange]
      exact found
    rw [scanOptions_last (by omega) found, boundedScan,
      dif_pos (show _ < strvec.length from inRange)]
    simp only [keyword, dif_neg (show ¬vectorSize strvec - 1 + 1 < strvec.length by
      simp only [vectorSize]; omega)]
    rw [next fuel (by omega)]
    rfl
  · intro s i inRange key opt found notLast next fuel enough
    obtain ⟨fuel, rfl⟩ : ∃ rest, fuel = rest + 1 := ⟨fuel - 1, by omega⟩
    have valueInRange : i + 1 < vectorSize strvec := by omega
    have keyword : findOption options strvec[i] = some opt := by
      rw [← strvecSlot_of_lt inRange]
      exact found
    rw [scanOptions_pair valueInRange found, strvecSlot_of_lt valueInRange, boundedScan,
      dif_pos (show i < strvec.length from inRange)]
    simp only [keyword, dif_pos (show i + 1 < strvec.length from valueInRange)]
    rw [next _ fuel (by omega)]
    rfl
  · intro s i inRange key notFound next fuel enough
    obtain ⟨fuel, rfl⟩ : ∃ rest, fuel = rest + 1 := ⟨fuel - 1, by omega⟩
    have unknown : findOption options strvec[i] = none := by
      rw [← strvecSlot_of_lt inRange]
      exact notFound
    rw [scanOptions_unknown inRange notFound, strvecSlot_of_lt inRange, boundedScan,
      dif_pos (show i < strvec.length from inRange)]
    simp only [unknown]
    rw [next fuel (by omega)]
    rfl
  · intro s i outOfRange fuel _
    rw [scanOptions_of_le (by omega)]
    cases fuel with
    | zero => exact if_neg outOfRange
    | succ fuel => exact dif_neg outOfRange

/-- A line of unknown tokens takes one pass per token: one pass fewer runs out. -/
example (s : GlobalState) :
    (boundedScan lvsTimeoutOptions "lvs_timeouts" ["lvs_timeouts", "a", "b"] 1 s 1).isNone = true :=
  rfl

section Fallback

variable (env : Env) (fallback : String)

/-- Below the length of the line, the fallback of `strvec_slot` is not read. -/
theorem strvecSlot_fallback {strvec : Strvec} {i : Nat} (present : i < vectorSize strvec) :
    strvecSlot { env with slotFallback := fallback } strvec i = strvecSlot env strvec i := by
  rw [strvecSlot_of_lt present, strvecSlot_of_lt present]

/-- The option loop gives the same outcome whatever `strvec_slot` returns past the end. -/
theorem scanOptions_fallback
    (options : List SubOption)
    (directive : String)
    (strvec : Strvec)
    (s : GlobalState)
    (i : Nat) :
    scanOptions { env with slotFallback := fallback } options directive strvec s i =
      scanOptions env options directive strvec s i :=
  Option.some.inj <|
    (boundedScan_of_le _ options directive strvec s i _ le_rfl).symm.trans
      (boundedScan_of_le env options directive strvec s i _ le_rfl)

end Fallback

/--
Every line of `n` tokens: the option loop started at `i` ends within `n - i`
passes, reading keywords and values only below `n`; `lvs_timeouts` and
`lvs_syncd_handler`, whose loops start at 1 and at 3 or 4, and whose legacy id
is read at 3, give the same outcome whatever `strvec_slot` returns past the end.
-/
theorem optionLoops_read_within_line :
    (∀ (env : Env) (options : List SubOption) (directive : String) (strvec : Strvec)
        (s : GlobalState) (i : Nat),
      boundedScan options directive strvec (vectorSize strvec - i) s i =
        some (scanOptions env options directive strvec s i)) ∧
    (∀ (env : Env) (fallback : String) (s : GlobalState) (strvec : Strvec),
      lvsTimeouts { env with slotFallback := fallback } s strvec = lvsTimeouts env s strvec) ∧
    (∀ (env : Env) (fallback : String) (s : GlobalState) (strvec : Strvec),
      lvsSyncdHandler { env with slotFallback := fallback } s strvec =
        lvsSyncdHandler env s strvec) := by
  refine ⟨fun env options directive strvec s i =>
    boundedScan_of_le env options directive strvec s i _ le_rfl, ?_, ?_⟩
  · intro env fallback s strvec
    simp only [lvsTimeouts, scanOptions_fallback]
  · intro env fallback s strvec
    by_cases short : vectorSize strvec < 3
    · simp only [lvsSyncdHandler, short, ↓reduceIte]
    · have named : ∀ i, i < 3 → strvecSlot { env with slotFallback := fallback } strvec i =
          strvecSlot env strvec i :=
        fun i below => strvecSlot_fallback env fallback (by omega)
      by_cases legacy : 4 ≤ vectorSize strvec
      · simp only [lvsSyncdHandler, named 1 (by omega), named 2 (by omega),
          strvecSlot_fallback env fallback (show 3 < vectorSize strvec by omega),
          scanOptions_fallback]
        rfl
      · simp only [lvsSyncdHandler, named 1 (by omega), named 2 (by omega), legacy, false_and,
          ↓reduceIte, scanOptions_fallback]
        rfl

end Keepalived
