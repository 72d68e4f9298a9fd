import Keepalived.OptionScan

namespace Keepalived

/-!
# `lvs_sync_daemon`

After its guards, `lvs_syncd_handler` names the daemon, reads an optional
legacy sync id, and runs the option loop.  `syncdAfterLine` states the result
as the line reads: a legacy id is a token of decimal digits and counts as an
`id` before the named options, and each field of the record holds the last
value of its option that passes that option's check.  The handler tests only
the first character of the legacy token; `lvsSyncdHandler_state` proves that
it ends in the same state.
-/

/-- "Purely numeric": a non-empty run of decimal digits. -/
def isDecimalDigits (token : String) : Bool :=
  !token.toList.isEmpty && token.toList.all isdigit

/-- The named options of `lvs_sync_daemon` in a build. -/
def syncdKeywords (env : Env) : List String :=
  "id" :: if env.build.haveIpvsSyncdAttributes then ["maxlen", "port", "ttl", "group"] else []

theorem isOptionKeyword_syncdOptions (env : Env) :
    isOptionKeyword (syncdOptions env) = (syncdKeywords env).contains := by
  funext key
  rw [isOptionKeyword_eq_contains]
  unfold syncdOptions syncdKeywords
  split <;> rfl

/-- What the group option leaves: the parsed address, or `AF_UNSPEC` if it is not multicast. -/
def groupAfter (env : Env) (value : String) (group : SockAddr) : SockAddr :=
  let parsed := (env.inetStosockaddr value none group).2
  if notMulticast parsed then .unspec else parsed

/-- What one named option does to the record. -/
def syncdOptionEffect (env : Env) (keyword value : String) (record : LvsSyncd) : LvsSyncd :=
  if keyword = "id" then { record with syncid := (syncdValue 0 255 value).getD record.syncid }
  else if keyword = "maxlen" then
    { record with syncMaxlen := (syncdValue 1 (65535 - 20 - 8) value).getD record.syncMaxlen }
  else if keyword = "port" then
    { record with mcastPort := (syncdValue 1 65535 value).getD record.mcastPort }
  else if keyword = "ttl" then
    { record with mcastTtl := (syncdValue 1 255 value).getD record.mcastTtl }
  else if keyword = "group" then
    { record with mcastGroup := groupAfter env value record.mcastGroup }
  else record

/-- A value that passes a `strtoul` check lies in its range. -/
theorem syncdValue_bounds
    {lo hi val : Nat}
    {value : String}
    (accepted : syncdValue lo hi value = some val) :
    lo ≤ val ∧ val ≤ hi := by
  simp only [syncdValue] at accepted
  split_ifs at accepted with rejected
  simp only [Option.some.injEq] at accepted
  subst accepted
  omega

/-- A numeric option stores what passes its check: its cast changes nothing. -/
theorem syncdNumericOption_apply_state
    {keyword noValue value : String}
    {lo hi bits : Nat}
    {set : LvsSyncd → Nat → LvsSyncd}
    {invalid : String → String}
    (fits : hi < 2 ^ bits)
    (s : GlobalState) :
    ((syncdNumericOption keyword lo hi bits set noValue invalid).apply s value).state =
      setLvsSyncd s fun record =>
        match syncdValue lo hi value with
        | none => record
        | some val => set record val := by
  simp only [syncdNumericOption]
  cases accepted : syncdValue lo hi value with
  | none => rfl
  | some val =>
      rw [Outcome.done_state, toUnsigned_of_lt (by have := syncdValue_bounds accepted; omega)]

/-- The group option leaves `groupAfter` in the record. -/
theorem syncdGroupOption_apply_state (env : Env) (s : GlobalState) (value : String) :
    ((syncdGroupOption env).apply s value).state =
      setLvsSyncd s fun record =>
        { record with mcastGroup := groupAfter env value record.mcastGroup } := by
  change _ = setLvsSyncd s fun _ =>
    { s.lvsSyncd with mcastGroup := groupAfter env value s.lvsSyncd.mcastGroup }
  rcases parsedEq : env.inetStosockaddr value none s.lvsSyncd.mcastGroup with ⟨ok, addr⟩
  simp only [syncdGroupOption, groupAfter, parsedEq]
  cases ok <;> cases multicast : notMulticast addr <;>
    simp only [Outcome.andThen_state, Outcome.info_state, Outcome.done_state,
      setLvsSyncd_lvsSyncd, multicast, ite_true, ite_false, Bool.false_eq_true] <;> rfl

/-- Every option of `lvs_sync_daemon` acts on the record alone, as `syncdOptionEffect` says. -/
theorem syncdOptions_apply_state (env : Env) :
    ∀ opt ∈ syncdOptions env, ∀ s value,
      (opt.apply s value).state = setLvsSyncd s (syncdOptionEffect env opt.keyword value) := by
  intro opt member s value
  simp only [syncdOptions, List.mem_cons] at member
  rcases member with rfl | member
  · rw [syncdIdOption, syncdNumericOption_apply_state (by decide)]
    congr 1
    funext record
    simp only [syncdOptionEffect, syncdNumericOption, if_pos]
    cases syncdValue 0 255 value <;> rfl
  · split at member
    · simp only [List.mem_cons, List.mem_singleton, List.not_mem_nil, or_false] at member
      rcases member with rfl | rfl | rfl | rfl
      · rw [syncdNumericOption_apply_state (by decide)]
        congr 1
        funext record
        simp [syncdOptionEffect, syncdNumericOption]
        cases syncdValue 1 (65535 - 20 - 8) value <;> rfl
      · rw [syncdNumericOption_apply_state (by decide)]
        congr 1
        funext record
        simp [syncdOptionEffect, syncdNumericOption]
        cases syncdValue 1 65535 value <;> rfl
      · rw [syncdNumericOption_apply_state (by decide)]
        congr 1
        funext record
        simp [syncdOptionEffect, syncdNumericOption]
        cases syncdValue 1 255 value <;> rfl
      · rw [syncdGroupOption_apply_state]
        congr 1
    · simp at member

/-- What an option does to each field of the record. -/
theorem syncdOptionEffect_fields (env : Env) (keyword value : String) (record : LvsSyncd) :
    (syncdOptionEffect env keyword value record).ifname = record.ifname ∧
    (syncdOptionEffect env keyword value record).vrrpName = record.vrrpName ∧
    (syncdOptionEffect env keyword value record).syncid =
      (if keyword = "id" then (syncdValue 0 255 value).getD record.syncid else record.syncid) ∧
    (syncdOptionEffect env keyword value record).syncMaxlen =
      (if keyword = "maxlen" then (syncdValue 1 (65535 - 20 - 8) value).getD record.syncMaxlen
        else record.syncMaxlen) ∧
    (syncdOptionEffect env keyword value record).mcastPort =
      (if keyword = "port" then (syncdValue 1 65535 value).getD record.mcastPort
        else record.mcastPort) ∧
    (syncdOptionEffect env keyword value record).mcastTtl =
      (if keyword = "ttl" then (syncdValue 1 255 value).getD record.mcastTtl
        else record.mcastTtl) ∧
    (syncdOptionEffect env keyword value record).mcastGroup =
      (if keyword = "group" then groupAfter env value record.mcastGroup
        else record.mcastGroup) := by
  unfold syncdOptionEffect
  split_ifs <;> subst_vars <;> simp_all

/--
The record after the named options, as the spec reads them: each field holds
the last value of its option that passes the option's check, and the group
holds what the group options leave in turn.
-/
def syncdOptionsAfter (env : Env) (record : LvsSyncd) (pairs : List (String × String)) :
    LvsSyncd :=
  { record with
    syncid := (lastAccepted (syncdValue 0 255) (valuesFor "id" pairs)).getD record.syncid
    syncMaxlen :=
      (lastAccepted (syncdValue 1 (65535 - 20 - 8)) (valuesFor "maxlen" pairs)).getD
        record.syncMaxlen
    mcastPort := (lastAccepted (syncdValue 1 65535) (valuesFor "port" pairs)).getD record.mcastPort
    mcastTtl := (lastAccepted (syncdValue 1 255) (valuesFor "ttl" pairs)).getD record.mcastTtl
    mcastGroup :=
      (valuesFor "group" pairs).foldl (fun group value => groupAfter env value group)
        record.mcastGroup }

/-- The option loop of `lvs_sync_daemon`, over pairs it recognises, refines `syncdOptionsAfter`. -/
theorem foldl_syncdOptions_lvsSyncd
    (env : Env)
    (pairs : List (String × String))
    (known : ∀ pair ∈ pairs, isOptionKeyword (syncdOptions env) pair.1 = true)
    (s : GlobalState) :
    (pairs.foldl (optionStep (syncdOptions env)) s).lvsSyncd =
      syncdOptionsAfter env s.lvsSyncd pairs := by
  have field := fun {α : Type} (get : LvsSyncd → α) (keyword : String)
      (update : String → α → α)
      (effect : ∀ kw value record, get (syncdOptionEffect env kw value record) =
        if kw = keyword then update value (get record) else get record) =>
    foldl_optionStep_field (fun s => get s.lvsSyncd) update
      (fun opt member s value => by
        simp only [syncdOptions_apply_state env opt member, setLvsSyncd_lvsSyncd]
        exact effect _ _ _)
      pairs known s
  have kept := fun {α : Type} (get : LvsSyncd → α)
      (effect : ∀ kw value record, get (syncdOptionEffect env kw value record) = get record) =>
    (field get "id" (fun _ current => current) fun kw value record => by
      rw [effect]; split <;> rfl).trans (List.foldl_fixed _)
  apply LvsSyncd.ext
  · exact kept LvsSyncd.ifname fun kw value record =>
      (syncdOptionEffect_fields env kw value record).1
  · exact kept LvsSyncd.vrrpName fun kw value record =>
      (syncdOptionEffect_fields env kw value record).2.1
  · exact (field LvsSyncd.syncid "id" _ fun kw value record =>
      (syncdOptionEffect_fields env kw value record).2.2.1).trans (foldl_check_getD _ _ _)
  · exact (field LvsSyncd.syncMaxlen "maxlen" _ fun kw value record =>
      (syncdOptionEffect_fields env kw value record).2.2.2.1).trans (foldl_check_getD _ _ _)
  · exact (field LvsSyncd.mcastPort "port" _ fun kw value record =>
      (syncdOptionEffect_fields env kw value record).2.2.2.2.1).trans (foldl_check_getD _ _ _)
  · exact (field LvsSyncd.mcastTtl "ttl" _ fun kw value record =>
      (syncdOptionEffect_fields env kw value record).2.2.2.2.2.1).trans (foldl_check_getD _ _ _)
  · exact field LvsSyncd.mcastGroup "group" (groupAfter env) fun kw value record =>
      (syncdOptionEffect_fields env kw value record).2.2.2.2.2.2

/-- A purely numeric token starts with a digit. -/
theorem firstIsDigit_of_isDecimalDigits
    {token : String}
    (numeric : isDecimalDigits token = true) :
    firstIsDigit token = true := by
  unfold firstIsDigit
  split
  · next c rest chars =>
      simp only [isDecimalDigits, chars, Bool.and_eq_true, List.all_cons] at numeric
      exact numeric.2.1
  · next chars =>
      simp only [isDecimalDigits, chars] at numeric
      simp at numeric

/-- A token that starts with a digit but is not all digits fails every `strtoul` check. -/
theorem syncdValue_of_not_isDecimalDigits
    {token : String}
    (digit : firstIsDigit token = true)
    (notNumeric : isDecimalDigits token = false)
    (lo hi : Nat) :
    syncdValue lo hi token = none := by
  unfold firstIsDigit at digit
  split at digit
  · next c rest chars =>
      have stops : (strtoul token).2 ≠ [] := by
        rw [strtoul_endptr, numeralBody_of_isdigit chars digit, List.takeWhile_cons, if_pos digit,
          if_neg (List.cons_ne_nil _ _), List.dropWhile_cons, if_pos digit]
        intro allDigits
        rw [List.dropWhile_eq_nil_iff] at allDigits
        simp only [isDecimalDigits, chars] at notNumeric
        obtain ⟨bad, member, notDigit⟩ : ∃ x ∈ rest, isdigit x = false := by
          simpa [digit] using notNumeric
        simp [allDigits bad member] at notDigit
      simp [syncdValue, stops]
  · simp at digit

/-- No option keyword starts with a digit. -/
theorem syncdKeywords_contains_of_firstIsDigit
    (env : Env)
    {token : String}
    (digit : firstIsDigit token = true) :
    (syncdKeywords env).contains token = false := by
  have noDigit : ∀ keyword ∈ syncdKeywords env, firstIsDigit keyword = false := by
    unfold syncdKeywords
    split <;> decide
  cases member : (syncdKeywords env).contains token
  · rfl
  · rw [List.contains, List.elem_iff] at member
    exact absurd digit (by rw [noDigit token member]; decide)

/-- The `id` option is the first one the loop tries. -/
theorem findOption_syncdOptions_id (env : Env) :
    findOption (syncdOptions env) "id" = some syncdIdOption :=
  rfl

/--
`lvs_syncd_handler` past its guards: the record is named, and the option loop
runs over the pairs of the rest of the line, a first token that starts with a
digit read as an `id`.
-/
theorem lvsSyncdHandler_state_of_guards
    (env : Env)
    (s : GlobalState)
    (ifname vrrpName : String)
    (rest : List String)
    (unset : s.lvsSyncd.ifname = none)
    (ifnameFits : strlen ifname < env.ipVsIfnameMaxlen)
    (vrrpNameFits : strlen vrrpName < env.ipVsIfnameMaxlen) :
    (lvsSyncdHandler env s ("lvs_sync_daemon" :: ifname :: vrrpName :: rest)).state =
      (match rest with
        | token :: more =>
            if firstIsDigit token then
              ("id", token) :: optionPairs (isOptionKeyword (syncdOptions env)) more
            else optionPairs (isOptionKeyword (syncdOptions env)) rest
        | [] => []).foldl (optionStep (syncdOptions env))
        (setLvsSyncd s fun r => { r with ifname := some ifname, vrrpName := some vrrpName }) := by
  have scan := scanOptions_state env (syncdOptions env) "lvs_sync_daemon"
    ("lvs_sync_daemon" :: ifname :: vrrpName :: rest)
  simp only [lvsSyncdHandler, unset]
  rw [if_neg (by simp [vectorSize]), if_neg (by simpa [strvecSlot] using ifnameFits),
    if_neg (by simpa [strvecSlot] using vrrpNameFits)]
  cases rest with
  | nil =>
      rw [if_neg (by simp [vectorSize]), scan]
      rfl
  | cons token more =>
      by_cases digit : firstIsDigit token
      · rw [if_pos ⟨by simp [vectorSize], digit⟩, Outcome.andThen_state,
          Outcome.logFirst_state, scan]
        simp only [digit, ↓reduceIte, List.foldl_cons]
        rfl
      · rw [if_neg fun legacy => digit legacy.2, scan]
        simp only [digit, Bool.false_eq_true, ↓reduceIte]
        rfl

/--
The pairs the spec reads after the two names: a purely numeric first token is
a legacy `id` that comes before the named options.
-/
def syncdPairs (env : Env) : List String → List (String × String)
  | token :: more =>
      if isDecimalDigits token then ("id", token) :: optionPairs (syncdKeywords env).contains more
      else optionPairs (syncdKeywords env).contains (token :: more)
  | [] => []

/-- A legacy token that starts with a digit but is not a numeral changes nothing. -/
theorem optionStep_legacy_of_not_isDecimalDigits
    (env : Env)
    (s : GlobalState)
    {token : String}
    (digit : firstIsDigit token = true)
    (notNumeric : isDecimalDigits token = false) :
    optionStep (syncdOptions env) s ("id", token) = s := by
  simp only [optionStep, findOption_syncdOptions_id]
  rw [syncdIdOption, syncdNumericOption_apply_state (by decide),
    syncdValue_of_not_isDecimalDigits digit notNumeric]
  rfl

/-- The handler's first-digit test and the spec's all-digits test fold to the same state. -/
theorem foldl_legacy_eq_syncdPairs
    (env : Env)
    (named : GlobalState)
    (rest : List String) :
    (match rest with
      | token :: more =>
          if firstIsDigit token then
            ("id", token) :: optionPairs (isOptionKeyword (syncdOptions env)) more
          else optionPairs (isOptionKeyword (syncdOptions env)) rest
      | [] => []).foldl (optionStep (syncdOptions env)) named =
      (syncdPairs env rest).foldl (optionStep (syncdOptions env)) named := by
  rw [isOptionKeyword_syncdOptions]
  cases rest with
  | nil => rfl
  | cons token more =>
      simp only [syncdPairs]
      by_cases digit : firstIsDigit token
      · by_cases numeric : isDecimalDigits token
        · simp only [digit, numeric, ↓reduceIte]
        · simp only [Bool.not_eq_true] at numeric
          simp only [digit, numeric, ↓reduceIte, Bool.false_eq_true, List.foldl_cons,
            optionStep_legacy_of_not_isDecimalDigits env named digit numeric,
            optionPairs_cons_of_not_keyword (syncdKeywords_contains_of_firstIsDigit env digit)]
      · have notNumeric : isDecimalDigits token = false := by
          cases numeric : isDecimalDigits token
          · rfl
          · exact absurd (firstIsDigit_of_isDecimalDigits numeric) digit
        simp only [digit, notNumeric, Bool.false_eq_true, ↓reduceIte]

/--
`lvs_sync_daemon` as the spec reads its line: the state is unchanged when the
daemon is already named, a name is missing or a name is too long; otherwise
the record is named and holds what its options leave.
-/
def syncdAfterLine (env : Env) (s : GlobalState) : List String → GlobalState
  | ifname :: vrrpName :: rest =>
      if s.lvsSyncd.ifname.isSome ∨ env.ipVsIfnameMaxlen ≤ strlen ifname ∨
          env.ipVsIfnameMaxlen ≤ strlen vrrpName then s
      else
        { s with
          lvsSyncd := syncdOptionsAfter env
            { s.lvsSyncd with ifname := some ifname, vrrpName := some vrrpName }
            (syncdPairs env rest) }
  | _ => s

/-- Every pair the spec reads names an option of the build. -/
theorem syncdPairs_known (env : Env) (rest : List String) :
    ∀ pair ∈ syncdPairs env rest, isOptionKeyword (syncdOptions env) pair.1 = true := by
  rw [isOptionKeyword_syncdOptions]
  intro pair member
  cases rest with
  | nil => simp [syncdPairs] at member
  | cons token more =>
      simp only [syncdPairs] at member
      split at member
      · rcases List.mem_cons.mp member with rfl | member
        · rfl
        · exact optionPairs_keyword member
      · exact optionPairs_keyword member

/-- Restoring the record is a record update of it. -/
theorem restore_lvsSyncd (a s : GlobalState) :
    restore [.lvsSyncd] a s = { s with lvsSyncd := a.lvsSyncd } :=
  rfl

/-- `lvs_syncd_handler` refines `syncdAfterLine`. -/
theorem lvsSyncdHandler_state (env : Env) (s : GlobalState) (tokens : List String) :
    (lvsSyncdHandler env s ("lvs_sync_daemon" :: tokens)).state = syncdAfterLine env s tokens := by
  match tokens with
  | [] | [_] =>
      simp only [lvsSyncdHandler]
      split <;> simp [vectorSize, syncdAfterLine]
  | ifname :: vrrpName :: rest =>
      simp only [syncdAfterLine]
      split
      · next rejected =>
          simp only [lvsSyncdHandler]
          split
          · rfl
          · next unset =>
              rw [unset] at rejected
              simp only [Option.isSome_none, Bool.false_eq_true, false_or] at rejected
              rw [if_neg (by simp [vectorSize])]
              split
              · rfl
              · next ifnameFits =>
                  have long : env.ipVsIfnameMaxlen ≤ strlen vrrpName :=
                    rejected.resolve_left (by simpa [strvecSlot] using ifnameFits)
                  rw [if_pos (by simpa [strvecSlot] using long)]
                  rfl
      · next accepted =>
          simp only [not_or, Option.not_isSome, Option.isNone_iff_eq_none, not_le] at accepted
          obtain ⟨unset, ifnameFits, vrrpNameFits⟩ := accepted
          rw [Option.not_isSome_iff_eq_none] at unset
          rw [lvsSyncdHandler_footprint.frame, restore_lvsSyncd,
            lvsSyncdHandler_state_of_guards env s ifname vrrpName rest unset ifnameFits
              vrrpNameFits,
            foldl_legacy_eq_syncdPairs,
            foldl_syncdOptions_lvsSyncd env _ (syncdPairs_known env rest)]
          rfl

/-- The spec's partial failure: `id 9999` is rejected while the names are still set. -/
example :
    (lvsSyncdHandler referenceEnv zeroedState
      ["lvs_sync_daemon", "eth0", "VI_1", "id", "9999"]).state.lvsSyncd =
      { zeroedState.lvsSyncd with ifname := some "eth0", vrrpName := some "VI_1" } := by
  rw [lvsSyncdHandler_state_of_guards _ _ _ _ _ rfl (by decide) (by decide)]
  decide

/-- Without `_HAVE_IPVS_SYNCD_ATTRIBUTES_`, `port 8000` is two unknown tokens. -/
theorem lvsSyncdHandler_port_unknown_without_attributes :
    (lvsSyncdHandler
      { referenceEnv with build := { fullBuild with haveIpvsSyncdAttributes := false } }
      zeroedState
      ["lvs_sync_daemon", "eth0", "VI_1", "port", "8000"]).state.lvsSyncd.mcastPort ≠ 8000 := by
  rw [lvsSyncdHandler_state_of_guards _ _ _ _ _ rfl (by decide) (by decide)]
  decide

end Keepalived
