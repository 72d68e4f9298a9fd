import Keepalived.GeneralHandlers

namespace Keepalived

/-!
# LVS tuning: `lvs_timeouts`, `lvs_sync_daemon`, `lvs_flush`

`lvs_timeouts` and `lvs_syncd_handler` end in the same option loop:

```text
for ( ; i < vector_size(strvec); i++) {
    if (!strcmp(strvec_slot(strvec, i), "<keyword>")) {
        if (i == vector_size(strvec) - 1) { log "No value ..."; continue; }
        <check strvec_slot(strvec, i+1) and store it, or log>
        i++;  /* skip over value */
        continue;
    }
    ...
    log "Unknown option %s specified for <directive>";
}
```

`scanOptions` is that loop once, over a list of `SubOption`s, recursing on
the index as the C loop does.
-/

/-- `LVS_MAX_TIMEOUT`: 31 days in seconds. -/
def lvsMaxTimeout : Int := 86400 * 31

/-- A named option of a multi-option directive. -/
structure SubOption where
  keyword : String
  /-- The diagnostic when the keyword is the last token. -/
  noValue : String
  /-- Check the value token and store it, or log why not. -/
  apply : GlobalState → String → Outcome

/-- The option whose keyword is `key`, trying them in the source's order. -/
def findOption (options : List SubOption) (key : String) : Option SubOption :=
  options.find? fun opt => opt.keyword == key

/-- The option loop of `lvs_timeouts` and `lvs_syncd_handler`, from index `i`. -/
def scanOptions
    (env : Env)
    (options : List SubOption)
    (directive : String)
    (strvec : Strvec)
    (s : GlobalState)
    (i : Nat) :
    Outcome :=
  if i < vectorSize strvec then
    let key := strvecSlot env strvec i
    match findOption options key with
    | some opt =>
        if i = vectorSize strvec - 1 then
          (scanOptions env options directive strvec s (i + 1)).logFirst
            ⟨.info, .rejectOption, opt.noValue⟩
        else
          (opt.apply s (strvecSlot env strvec (i + 1))).andThen fun next =>
            scanOptions env options directive strvec next (i + 2)
    | none =>
        (scanOptions env options directive strvec s (i + 1)).logFirst
          ⟨.info, .unknownOption, s!"Unknown option {key} specified for {directive}"⟩
  else
    .done s
termination_by vectorSize strvec - i

section ScanOptions

variable {env : Env} {options : List SubOption} {directive : String} {strvec : Strvec}
  {s : GlobalState} {i : Nat}

/-- Past the last token the loop stops. -/
theorem scanOptions_of_le (outOfRange : vectorSize strvec ≤ i) :
    scanOptions env options directive strvec s i = .done s := by
  rw [scanOptions, if_neg (by omega)]

/-- A keyword in last position is logged and dropped. -/
theorem scanOptions_last
    {opt : SubOption}
    (last : i + 1 = vectorSize strvec)
    (found : findOption options (strvecSlot env strvec i) = some opt) :
    scanOptions env options directive strvec s i =
      (scanOptions env options directive strvec s (i + 1)).logFirst
        ⟨.info, .rejectOption, opt.noValue⟩ := by
  rw [scanOptions, if_pos (by omega)]
  simp only [found, if_pos (show i = vectorSize strvec - 1 by omega)]

/-- A keyword with a token after it takes that token as its value. -/
theorem scanOptions_pair
    {opt : SubOption}
    (inRange : i + 1 < vectorSize strvec)
    (found : findOption options (strvecSlot env strvec i) = some opt) :
    scanOptions env options directive strvec s i =
      (opt.apply s (strvecSlot env strvec (i + 1))).andThen fun next =>
        scanOptions env options directive strvec next (i + 2) := by
  rw [scanOptions, if_pos (by omega)]
  simp only [found, if_neg (show ¬i = vectorSize strvec - 1 by omega)]

/-- Any other token is logged and skipped on its own. -/
theorem scanOptions_unknown
    (inRange : i < vectorSize strvec)
    (notFound : findOption options (strvecSlot env strvec i) = none) :
    scanOptions env options directive strvec s i =
      (scanOptions env options directive strvec s (i + 1)).logFirst
        ⟨.info, .unknownOption,
          s!"Unknown option {strvecSlot env strvec i} specified for {directive}"⟩ := by
  rw [scanOptions, if_pos inRange]
  simp only [notFound]

end ScanOptions

/-- A complete `strtol` parse in `[lo, LVS_MAX_TIMEOUT]`. -/
def lvsTimeoutValue (lo : Int) (v : String) : Option Int :=
  let (val, endptr) := strtol v
  if endptr ≠ [] ∨ val < lo ∨ lvsMaxTimeout < val then none else some val

/-- One timeout option: `val` passes its check and is stored through `(int)`. -/
def timeoutOption
    (keyword : String)
    (lo : Int)
    (set : GlobalState → Int → GlobalState)
    (noValue : String) :
    SubOption where
  keyword := keyword
  noValue := noValue
  apply s v :=
    match lvsTimeoutValue lo v with
    | none => .info s .rejectOption s!"Invalid lvs_timeout {keyword} ({v}) - ignoring"
    | some val => .done (set s (toSigned 32 val))

/-- The options of `lvs_timeouts`, in the order the source tests them. -/
def lvsTimeoutOptions : List SubOption :=
  [timeoutOption "tcp" 0 (fun s v => { s with lvsTcpTimeout := v })
      "No value specified for lvs_timout tcp - ignoring",
    timeoutOption "tcpfin" 1 (fun s v => { s with lvsTcpfinTimeout := v })
      "No value specified for lvs_timeout tcpfin - ignoring",
    timeoutOption "udp" 1 (fun s v => { s with lvsUdpTimeout := v })
      "No value specified for lvs_timeout udp - ignoring"]

/-- An option of `lvs_timeouts` is a timeout option under a keyword other than `group`. -/
theorem mem_lvsTimeoutOptions {opt : SubOption} (member : opt ∈ lvsTimeoutOptions) :
    ∃ keyword lo set noValue, keyword ≠ "group" ∧ opt = timeoutOption keyword lo set noValue := by
  simp only [lvsTimeoutOptions, List.mem_cons, List.mem_singleton, List.not_mem_nil,
    or_false] at member
  rcases member with rfl | rfl | rfl <;> exact ⟨_, _, _, _, by decide, rfl⟩

/-- `lvs_timeouts`. -/
def lvsTimeouts : HandlerFn :=
  fun env s strvec =>
    if vectorSize strvec < 3 then
      .info s .rejectLine "lvs_timeouts requires at least one option"
    else
      scanOptions env lvsTimeoutOptions "lvs_timeouts" strvec s 1

/-- A complete `strtoul` parse in `[lo, hi]`. -/
def syncdValue (lo hi : Nat) (v : String) : Option Nat :=
  let (val, endptr) := strtoul v
  if endptr ≠ [] ∨ val < lo ∨ hi < val then none else some val

/-- Update the `lvs_syncd` record. -/
def setLvsSyncd (s : GlobalState) (f : LvsSyncd → LvsSyncd) : GlobalState :=
  { s with lvsSyncd := f s.lvsSyncd }

@[simp] theorem setLvsSyncd_lvsSyncd (s : GlobalState) (f : LvsSyncd → LvsSyncd) :
    (setLvsSyncd s f).lvsSyncd = f s.lvsSyncd := rfl

/--
A numeric option of `lvs_sync_daemon`: a complete `strtoul` parse in `[lo, hi]`
stored through a cast to `bits` bits.  `id` has no `!val` test: its `lo` is 0.
-/
def syncdNumericOption
    (keyword : String)
    (lo hi bits : Nat)
    (set : LvsSyncd → Nat → LvsSyncd)
    (noValue : String)
    (invalid : String → String) :
    SubOption where
  keyword := keyword
  noValue := noValue
  apply s v :=
    match syncdValue lo hi v with
    | none => .info s .rejectOption (invalid v)
    | some val => .done (setLvsSyncd s fun r => set r (toUnsigned bits val))

/-- The `id` option; also the check of the legacy positional id. -/
def syncdIdOption : SubOption :=
  syncdNumericOption "id" 0 255 32 (fun r v => { r with syncid := v })
    "No value specified for lvs_sync_daemon id, defaulting to vrid"
    fun v => s!"Invalid syncid ({v}) - defaulting to vrid"

/-- Whether a socket address fails the multicast test of its own family. -/
def notMulticast : SockAddr → Bool
  | .inet addr _ => !inMulticast addr
  | .inet6 addr _ => !in6IsAddrMulticast addr
  | .unspec => false

/--
The `group` option: `inet_stosockaddr` writes `mcast_group`; an address that is
not multicast for its family is reset to `AF_UNSPEC`.
-/
def syncdGroupOption (env : Env) : SubOption where
  keyword := "group"
  noValue := "No value specified for lvs_sync_daemon group - ignoring"
  apply s v :=
    let (ok, addr) := env.inetStosockaddr v none s.lvsSyncd.mcastGroup
    let parsed : Outcome :=
      if ok then .done (setLvsSyncd s fun r => { r with mcastGroup := addr })
      else .info (setLvsSyncd s fun r => { r with mcastGroup := addr }) .rejectOption
        s!"Invalid lvs_sync_daemon group ({v}) - ignoring"
    parsed.andThen fun next =>
      if notMulticast next.lvsSyncd.mcastGroup then
        .info (setLvsSyncd next fun r => { r with mcastGroup := .unspec }) .rejectOption
          s!"lvs_sync_daemon group address {v} is not multicast - ignoring"
      else
        .done next

/-- The options of `lvs_sync_daemon`; all but `id` need `_HAVE_IPVS_SYNCD_ATTRIBUTES_`. -/
def syncdOptions (env : Env) : List SubOption :=
  syncdIdOption ::
    if env.build.haveIpvsSyncdAttributes then
      [syncdNumericOption "maxlen" 1 (65535 - 20 - 8) 16
          (fun r v => { r with syncMaxlen := v })
          "No value specified for lvs_sync_daemon maxlen - ignoring"
          fun v => s!"Invalid lvs_sync_daemon maxlen ({v}) - ignoring",
        syncdNumericOption "port" 1 65535 16 (fun r v => { r with mcastPort := v })
          "No value specified for lvs_sync_daemon port - ignoring"
          fun v => s!"Invalid lvs_sync_daemon port ({v}) - ignoring",
        syncdNumericOption "ttl" 1 255 8 (fun r v => { r with mcastTtl := v })
          "No value specified for lvs_sync_daemon ttl - ignoring"
          fun v => s!"Invalid lvs_sync_daemon ttl ({v}) - ignoring",
        syncdGroupOption env]
    else []

/-- An option of `lvs_sync_daemon` is `group` or a numeric option under another keyword. -/
theorem mem_syncdOptions {env : Env} {opt : SubOption} (member : opt ∈ syncdOptions env) :
    opt = syncdGroupOption env ∨
      ∃ keyword lo hi bits set noValue invalid, keyword ≠ "group" ∧
        opt = syncdNumericOption keyword lo hi bits set noValue invalid := by
  simp only [syncdOptions, List.mem_cons] at member
  rcases member with rfl | member
  · exact .inr ⟨_, _, _, _, _, _, _, by decide, rfl⟩
  · split at member
    · simp only [List.mem_cons, List.mem_singleton, List.not_mem_nil, or_false] at member
      rcases member with rfl | rfl | rfl | rfl
      iterate 3 exact .inr ⟨_, _, _, _, _, _, _, by decide, rfl⟩
      exact .inl rfl
    · exact absurd member (List.not_mem_nil _)

/-- `isdigit(s[0])`; the terminator of an empty string is not a digit. -/
def firstIsDigit (s : String) : Bool :=
  match s.toList with
  | c :: _ => isdigit c
  | [] => false

/--
`lvs_syncd_handler`.  After the two names, a token starting with a digit is the
legacy positional sync id and the options start one token later.
-/
def lvsSyncdHandler : HandlerFn :=
  fun env s strvec =>
    let ifname := strvecSlot env strvec 1
    let vrrpName := strvecSlot env strvec 2
    match s.lvsSyncd.ifname with
    | some previous =>
        let previousVrrp := fmtStr s.lvsSyncd.vrrpName
        .info s .rejectLine
          s!"lvs_sync_daemon has already been specified as {previous} {previousVrrp} - ignoring"
    | none =>
        if vectorSize strvec < 3 then
          .info s .rejectLine "lvs_sync_daemon requires interface, VRRP instance"
        else if env.ipVsIfnameMaxlen ≤ strlen ifname then
          .info s .rejectLine s!"lvs_sync_daemon interface name '{ifname}' too long - ignoring"
        else if env.ipVsIfnameMaxlen ≤ strlen vrrpName then
          .info s .rejectLine
            s!"lvs_sync_daemon vrrp interface name '{vrrpName}' too long - ignoring"
        else
          let named := setLvsSyncd s fun r =>
            { r with ifname := setValue strvec, vrrpName := some vrrpName }
          let legacyId := strvecSlot env strvec 3
          if 4 ≤ vectorSize strvec ∧ firstIsDigit legacyId then
            ((syncdIdOption.apply named legacyId).logFirst
              ⟨.info, .note, "Please use keyword \"id\" before lvs_sync_daemon syncid value"⟩
              ).andThen fun next =>
                scanOptions env (syncdOptions env) "lvs_sync_daemon" strvec next 4
          else
            scanOptions env (syncdOptions env) "lvs_sync_daemon" strvec named 3

/-- `lvs_flush_handler`. -/
def lvsFlushHandler : HandlerFn :=
  flagHandler fun s => { s with lvsFlush := true }

end Keepalived
