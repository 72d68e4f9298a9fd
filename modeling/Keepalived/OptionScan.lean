import Keepalived.HandlerFootprints
import Keepalived.Platform

namespace Keepalived

/-!
# The option scanner read as keyword-value pairs

`scanOptions` walks a token line with an index that moves by one or by two.
Read abstractly, it splits the tokens into pairs of a recognised keyword and
the token after it, while a keyword in last position and any other token are
skipped on their own (`optionPairs`).  `scanOptions_state` proves that the
scan ends in the fold of the options over those pairs, and
`foldl_optionStep_field` turns that fold into one update per field: the
values given for the field's own keyword, in line order.  `lvs_timeouts` is
characterised from them, with `lastAccepted` for "the last value that passes
the check".
-/

/-- How the scanner reads a token line: a keyword takes the token after it as its value. -/
def optionPairs (isKeyword : String → Bool) : List String → List (String × String)
  | key :: value :: rest =>
      if isKeyword key then (key, value) :: optionPairs isKeyword rest
      else optionPairs isKeyword (value :: rest)
  | _ => []

section OptionPairs

variable {isKeyword : String → Bool}

/-- A token that is not a keyword is skipped on its own. -/
theorem optionPairs_cons_of_not_keyword
    {key : String}
    (notKeyword : isKeyword key = false)
    (rest : List String) :
    optionPairs isKeyword (key :: rest) = optionPairs isKeyword rest := by
  cases rest with
  | nil => rfl
  | cons value rest => simp [optionPairs, notKeyword]

/-- A keyword followed by a token takes it as its value. -/
theorem optionPairs_cons_cons_of_keyword
    {key : String}
    (keyword : isKeyword key = true)
    (value : String)
    (rest : List String) :
    optionPairs isKeyword (key :: value :: rest) = (key, value) :: optionPairs isKeyword rest := by
  simp [optionPairs, keyword]

/-- A line of fewer than two tokens has no pairs. -/
theorem optionPairs_of_length_lt_two
    {tokens : List String}
    (short : tokens.length < 2) :
    optionPairs isKeyword tokens = [] := by
  match tokens, short with
  | [], _ => rfl
  | [_], _ => rfl

/-- Every pair the scanner reads starts with a keyword. -/
theorem optionPairs_keyword
    {tokens : List String}
    {pair : String × String}
    (member : pair ∈ optionPairs isKeyword tokens) :
    isKeyword pair.1 = true := by
  induction tokens using optionPairs.induct isKeyword with
  | case1 key value rest keyword inductionHypothesis =>
      rw [optionPairs, if_pos keyword] at member
      rcases List.mem_cons.mp member with rfl | member
      · exact keyword
      · exact inductionHypothesis member
  | case2 key value rest notKeyword inductionHypothesis =>
      rw [optionPairs, if_neg notKeyword] at member
      exact inductionHypothesis member
  | case3 tokens notPair =>
      match tokens, notPair with
      | [], _ => simp [optionPairs] at member
      | [_], _ => simp [optionPairs] at member
      | key :: value :: rest, notPair => exact absurd rfl (notPair key value rest)

end OptionPairs

/-- A piece of a token line as a writer composes it: a keyword with its value, or another token. -/
inductive Block where
  | pair (key value : String)
  | other (token : String)
  deriving DecidableEq, Repr

namespace Block

/-- The tokens a block contributes to the line. -/
def tokens : Block → List String
  | pair key value => [key, value]
  | other token => [token]

/-- The pairs a block contributes. -/
def pairs : Block → List (String × String)
  | pair key value => [(key, value)]
  | other _ => []

/-- A pair starts with a keyword, and another token is not a keyword. -/
def WellFormed (isKeyword : String → Bool) : Block → Bool
  | pair key _ => isKeyword key
  | other token => !isKeyword token

end Block

/-- A line composed of well-formed blocks reads back as the blocks' pairs. -/
theorem optionPairs_flatMap
    {isKeyword : String → Bool}
    (blocks : List Block)
    (wellFormed : ∀ block ∈ blocks, block.WellFormed isKeyword) :
    optionPairs isKeyword (blocks.flatMap Block.tokens) = blocks.flatMap Block.pairs := by
  induction blocks with
  | nil => rfl
  | cons block rest inductionHypothesis =>
      have restWellFormed := fun b member => wellFormed b (List.mem_cons_of_mem block member)
      have blockWellFormed := wellFormed block (List.mem_cons_self block rest)
      cases block with
      | pair key value =>
          rw [List.flatMap_cons, List.flatMap_cons, Block.tokens, Block.pairs]
          exact (optionPairs_cons_cons_of_keyword blockWellFormed _ _).trans
            (congrArg _ (inductionHypothesis restWellFormed))
      | other token =>
          rw [List.flatMap_cons, List.flatMap_cons, Block.tokens, Block.pairs]
          simp only [Block.WellFormed, Bool.not_eq_true'] at blockWellFormed
          exact (optionPairs_cons_of_not_keyword blockWellFormed _).trans
            (inductionHypothesis restWellFormed)

/-- The values paired with `keyword`, in line order. -/
def valuesFor (keyword : String) (pairs : List (String × String)) : List String :=
  pairs.filterMap fun pair => if pair.1 = keyword then some pair.2 else none

/-- The last of `values` that `check` accepts. -/
def lastAccepted {α : Type} (check : String → Option α) : List String → Option α
  | [] => none
  | value :: rest => (lastAccepted check rest).or (check value)

/-- Storing each accepted value in turn leaves the last accepted one. -/
theorem foldl_check_getD
    {α : Type}
    (check : String → Option α)
    (values : List String)
    (initial : α) :
    values.foldl (fun current value => (check value).getD current) initial =
      (lastAccepted check values).getD initial := by
  induction values generalizing initial with
  | nil => rfl
  | cons value rest inductionHypothesis =>
      rw [List.foldl_cons, inductionHypothesis, lastAccepted]
      cases lastAccepted check rest <;> rfl

/-- Whether `key` names one of `options`. -/
def isOptionKeyword (options : List SubOption) (key : String) : Bool :=
  (findOption options key).isSome

/-- The option found for a key has that key as its keyword. -/
theorem findOption_keyword
    {options : List SubOption}
    {key : String}
    {opt : SubOption}
    (found : findOption options key = some opt) :
    opt.keyword = key := by
  simpa using List.find?_some found

/-- A key is an option keyword when some option has it. -/
theorem isOptionKeyword_eq_contains (options : List SubOption) (key : String) :
    isOptionKeyword options key = (options.map SubOption.keyword).contains key := by
  rw [Bool.eq_iff_iff]
  simp [isOptionKeyword, findOption, List.find?_isSome]

/-- The state after one pair: the option of its keyword applied to its value. -/
def optionStep (options : List SubOption) (s : GlobalState) (pair : String × String) :
    GlobalState :=
  match findOption options pair.1 with
  | some opt => (opt.apply s pair.2).state
  | none => s

/-- The option loop ends in the fold of the options over the pairs of the rest of the line. -/
theorem scanOptions_state
    (env : Env)
    (options : List SubOption)
    (directive : String)
    (strvec : Strvec)
    (s : GlobalState)
    (i : Nat) :
    (scanOptions env options directive strvec s i).state =
      (optionPairs (isOptionKeyword options) (strvec.drop i)).foldl (optionStep options) s := by
  have slotEq : ∀ j (inRange : j < strvec.length), strvecSlot env strvec j = strvec[j] :=
    fun j inRange => by simp [strvecSlot, List.getElem?_eq_getElem inRange]
  refine scanOptions.induct env options directive strvec
    (fun s i => (scanOptions env options directive strvec s i).state =
      (optionPairs (isOptionKeyword options) (strvec.drop i)).foldl (optionStep options) s)
    ?_ ?_ ?_ ?_ s i
  · intro s opt inRange key found next
    rw [scanOptions_last (by omega) found, Outcome.logFirst_state, next,
      List.drop_eq_getElem_cons inRange, List.drop_eq_nil_of_le (show strvec.length ≤ _ by
        simp only [vectorSize] at inRange ⊢; omega)]
    rfl
  · intro s i inRange key opt found notLast next
    have valueInRange : i + 1 < vectorSize strvec := by omega
    rw [scanOptions_pair valueInRange found, Outcome.andThen_state, next,
      List.drop_eq_getElem_cons inRange, List.drop_eq_getElem_cons valueInRange,
      optionPairs_cons_cons_of_keyword (by simp [isOptionKeyword, ← slotEq i inRange, found]),
      List.foldl_cons, optionStep, ← slotEq i inRange, found, ← slotEq (i + 1) valueInRange]
  · intro s i inRange key notFound next
    rw [scanOptions_unknown inRange notFound, Outcome.logFirst_state, next,
      List.drop_eq_getElem_cons inRange,
      optionPairs_cons_of_not_keyword (by simp [isOptionKeyword, ← slotEq i inRange, notFound])]
  · intro s i outOfRange
    rw [scanOptions_of_le (by omega), List.drop_eq_nil_of_le (Nat.le_of_not_lt outOfRange)]
    rfl

/-- The values for `keyword` after one more pair. -/
theorem valuesFor_cons (keyword key value : String) (pairs : List (String × String)) :
    valuesFor keyword ((key, value) :: pairs) =
      if key = keyword then value :: valuesFor keyword pairs else valuesFor keyword pairs := by
  by_cases same : key = keyword <;> simp [valuesFor, same]

section FieldOfFold

variable {α : Type} {options : List SubOption} {keyword : String}
  (get : GlobalState → α) (update : String → α → α)

/-- The option loop keeps every property of the state that each option keeps. -/
theorem scanOptions_invariant
    (P : GlobalState → Prop)
    {options : List SubOption}
    (optionsKeep : ∀ opt ∈ options, ∀ s value, P s → P (opt.apply s value).state)
    (env : Env)
    (directive : String)
    (strvec : Strvec)
    (i : Nat)
    {s : GlobalState}
    (holds : P s) :
    P (scanOptions env options directive strvec s i).state := by
  rw [scanOptions_state]
  generalize optionPairs _ _ = pairs
  induction pairs generalizing s with
  | nil => exact holds
  | cons pair rest inductionHypothesis =>
      apply inductionHypothesis
      unfold optionStep
      split
      · next opt found => exact optionsKeep opt (List.mem_of_find?_eq_some found) s pair.2 holds
      · exact holds

/--
The fold of the options, seen through one field: the options of `keyword`
update it with their value, the others keep it.
-/
theorem foldl_optionStep_field
    (effect : ∀ opt ∈ options, ∀ s value,
      get (opt.apply s value).state =
        if opt.keyword = keyword then update value (get s) else get s)
    (pairs : List (String × String))
    (known : ∀ pair ∈ pairs, isOptionKeyword options pair.1 = true)
    (s : GlobalState) :
    get (pairs.foldl (optionStep options) s) =
      (valuesFor keyword pairs).foldl (fun current value => update value current) (get s) := by
  induction pairs generalizing s with
  | nil => rfl
  | cons pair rest inductionHypothesis =>
      obtain ⟨key, value⟩ := pair
      obtain ⟨opt, found⟩ := Option.isSome_iff_exists.mp (known _ (List.mem_cons_self _ _))
      have step : get (optionStep options s (key, value)) =
          if key = keyword then update value (get s) else get s := by
        rw [optionStep, found, effect opt (List.mem_of_find?_eq_some found),
          findOption_keyword found]
      rw [List.foldl_cons, inductionHypothesis (fun pair member => known pair
        (List.mem_cons_of_mem _ member)), step, valuesFor_cons]
      split <;> rfl

end FieldOfFold

/-! ## `lvs_timeouts` -/

/-- The keywords of `lvs_timeouts`. -/
def timeoutKeywords : List String :=
  ["tcp", "tcpfin", "udp"]

theorem isOptionKeyword_lvsTimeoutOptions :
    isOptionKeyword lvsTimeoutOptions = timeoutKeywords.contains :=
  funext (isOptionKeyword_eq_contains lvsTimeoutOptions)

/-- A timeout that passes its check lies in `[lo, LVS_MAX_TIMEOUT]`. -/
theorem lvsTimeoutValue_bounds
    {lo val : Int}
    {value : String}
    (accepted : lvsTimeoutValue lo value = some val) :
    lo ≤ val ∧ val ≤ lvsMaxTimeout := by
  simp only [lvsTimeoutValue] at accepted
  split_ifs at accepted with rejected
  simp only [Option.some.injEq] at accepted
  subst accepted
  omega

/-- A timeout option stores what passes its check: the `(int)` cast changes nothing. -/
theorem timeoutOption_apply_state
    {keyword noValue value : String}
    {lo : Int}
    {set : GlobalState → Int → GlobalState}
    (nonneg : 0 ≤ lo)
    (s : GlobalState) :
    ((timeoutOption keyword lo set noValue).apply s value).state =
      match lvsTimeoutValue lo value with
      | none => s
      | some val => set s val := by
  simp only [timeoutOption]
  cases accepted : lvsTimeoutValue lo value with
  | none => rfl
  | some val =>
      have bounds := lvsTimeoutValue_bounds accepted
      simp only [Outcome.done_state]
      rw [toSigned_of_lt (by omega) (by simp only [lvsMaxTimeout] at bounds; omega)]

/-- How each `lvs_timeouts` option changes each timeout field. -/
theorem lvsTimeoutOptions_effect :
    ∀ opt ∈ lvsTimeoutOptions, ∀ s value,
      (opt.apply s value).state.lvsTcpTimeout =
          (if opt.keyword = "tcp" then (lvsTimeoutValue 0 value).getD s.lvsTcpTimeout
            else s.lvsTcpTimeout) ∧
        (opt.apply s value).state.lvsTcpfinTimeout =
          (if opt.keyword = "tcpfin" then (lvsTimeoutValue 1 value).getD s.lvsTcpfinTimeout
            else s.lvsTcpfinTimeout) ∧
        (opt.apply s value).state.lvsUdpTimeout =
          (if opt.keyword = "udp" then (lvsTimeoutValue 1 value).getD s.lvsUdpTimeout
            else s.lvsUdpTimeout) := by
  simp only [lvsTimeoutOptions, List.mem_cons, List.mem_singleton, List.not_mem_nil, or_false]
  rintro opt (rfl | rfl | rfl) s value <;>
    rw [timeoutOption_apply_state (by decide)] <;>
    cases lvsTimeoutValue _ value <;> simp [timeoutOption]

/-- One timeout field after `lvs_timeouts`: the last value of its keyword that passes its check. -/
theorem lvsTimeouts_field
    (get : GlobalState → Int)
    {keyword : String}
    {lo : Int}
    (effect : ∀ opt ∈ lvsTimeoutOptions, ∀ s value,
      get (opt.apply s value).state =
        if opt.keyword = keyword then (lvsTimeoutValue lo value).getD (get s) else get s)
    (env : Env)
    (s : GlobalState)
    (tokens : List String) :
    get (lvsTimeouts env s ("lvs_timeouts" :: tokens)).state =
      (lastAccepted (lvsTimeoutValue lo)
        (valuesFor keyword (optionPairs timeoutKeywords.contains tokens))).getD (get s) := by
  simp only [lvsTimeouts]
  split
  · next short =>
      simp only [vectorSize, List.length_cons] at short
      rw [optionPairs_of_length_lt_two (by omega)]
      rfl
  · rw [scanOptions_state, List.drop_one, List.tail_cons,
      foldl_optionStep_field get (fun value current => (lvsTimeoutValue lo value).getD current)
        effect _ (fun _ => optionPairs_keyword),
      isOptionKeyword_lvsTimeoutOptions, foldl_check_getD]

/--
The state `lvs_timeouts` leaves after reading `pairs`: each timeout holds the
last value of its keyword that passes that keyword's check, or its old value.
-/
def timeoutsAfter (s : GlobalState) (pairs : List (String × String)) : GlobalState :=
  { s with
    lvsTcpTimeout :=
      (lastAccepted (lvsTimeoutValue 0) (valuesFor "tcp" pairs)).getD s.lvsTcpTimeout
    lvsTcpfinTimeout :=
      (lastAccepted (lvsTimeoutValue 1) (valuesFor "tcpfin" pairs)).getD s.lvsTcpfinTimeout
    lvsUdpTimeout :=
      (lastAccepted (lvsTimeoutValue 1) (valuesFor "udp" pairs)).getD s.lvsUdpTimeout }

/-- Restoring the timeout fields is a record update of those three fields. -/
theorem restore_timeoutFields (a s : GlobalState) :
    restore timeoutFields a s =
      { s with
        lvsTcpTimeout := a.lvsTcpTimeout
        lvsTcpfinTimeout := a.lvsTcpfinTimeout
        lvsUdpTimeout := a.lvsUdpTimeout } :=
  rfl

/-- `lvs_timeouts` refines `timeoutsAfter` over the pairs of its line. -/
theorem lvsTimeouts_state (env : Env) (s : GlobalState) (tokens : List String) :
    (lvsTimeouts env s ("lvs_timeouts" :: tokens)).state =
      timeoutsAfter s (optionPairs timeoutKeywords.contains tokens) := by
  have effect := lvsTimeoutOptions_effect
  rw [lvsTimeouts_footprint.frame, restore_timeoutFields,
    lvsTimeouts_field GlobalState.lvsTcpTimeout
      (fun opt member s value => (effect opt member s value).1),
    lvsTimeouts_field GlobalState.lvsTcpfinTimeout
      (fun opt member s value => (effect opt member s value).2.1),
    lvsTimeouts_field GlobalState.lvsUdpTimeout
      (fun opt member s value => (effect opt member s value).2.2)]
  rfl

/--
`lvs_timeouts`: a line of fewer than two options leaves the state alone; any
line leaves each timeout at the last value of its keyword that passes the
keyword's check, and every other field as it was; so two lines composed of
the same pairs and unknown tokens, each keyword's values in the same order,
end in the same state.
-/
theorem lvsTimeouts_keeps_last_valid_pair (env : Env) (s : GlobalState) :
    (∀ tokens : List String, tokens.length < 2 →
      (lvsTimeouts env s ("lvs_timeouts" :: tokens)).state = s) ∧
    (∀ tokens : List String,
      (lvsTimeouts env s ("lvs_timeouts" :: tokens)).state =
        timeoutsAfter s (optionPairs timeoutKeywords.contains tokens)) ∧
    (∀ blocks blocks' : List Block,
      (∀ block ∈ blocks ++ blocks', block.WellFormed timeoutKeywords.contains) →
      (∀ keyword ∈ timeoutKeywords,
        valuesFor keyword (blocks.flatMap Block.pairs) =
          valuesFor keyword (blocks'.flatMap Block.pairs)) →
      (lvsTimeouts env s ("lvs_timeouts" :: blocks.flatMap Block.tokens)).state =
        (lvsTimeouts env s ("lvs_timeouts" :: blocks'.flatMap Block.tokens)).state) := by
  refine ⟨fun tokens short => ?_, lvsTimeouts_state env s,
    fun blocks blocks' wellFormed same => ?_⟩
  · rw [lvsTimeouts_state, optionPairs_of_length_lt_two short]
    rfl
  · have readBack := fun (bs : List Block) (sub : bs ⊆ blocks ++ blocks') =>
      optionPairs_flatMap bs fun block member => wellFormed block (sub member)
    rw [lvsTimeouts_state, lvsTimeouts_state,
      readBack blocks (List.subset_append_left _ _),
      readBack blocks' (List.subset_append_right _ _)]
    simp only [timeoutsAfter, timeoutKeywords, List.mem_cons, List.mem_singleton,
      forall_eq_or_imp, forall_eq, List.not_mem_nil, false_imp_iff, implies_true,
      and_true] at same ⊢
    rw [same.1, same.2.1, same.2.2]

/-- The spec's ordering example: `tcp 10 udp 5` and `udp 5 tcp 10` end in the same state. -/
theorem lvsTimeouts_order_example :
    (lvsTimeouts referenceEnv zeroedState ["lvs_timeouts", "tcp", "10", "udp", "5"]).state =
      (lvsTimeouts referenceEnv zeroedState ["lvs_timeouts", "udp", "5", "tcp", "10"]).state :=
  (lvsTimeouts_keeps_last_valid_pair referenceEnv zeroedState).2.2
    [.pair "tcp" "10", .pair "udp" "5"] [.pair "udp" "5", .pair "tcp" "10"] (by decide) (by decide)

end Keepalived
