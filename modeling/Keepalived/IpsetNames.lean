import Keepalived.GlobalKeywords
import Keepalived.Platform

namespace Keepalived

/-!
# The derived ipset names

`vrrp_ipsets` with one name `N` derives the two other set names from it: the
IPv6 set is `N` cut at `S - 2` with `6` appended, and the interface set is
that name without its trailing `6`, cut at `S - 5`, with `_if6` appended,
where `S` is the size of the name buffers.  For a name that fits, the first
derivation never cuts, the second cuts only names longer than `S - 5`, and the
two derived names meet exactly when `N` has `S - 2` characters and ends in
`_if`.
-/

/-- Cutting a string at or past its length keeps it. -/
theorem truncate_of_length_le {s : String} {n : Nat} (short : s.length ≤ n) : truncate s n = s :=
  String.ext (List.take_of_length_le short)

/-- A cut string has the shorter of the cut and its own length. -/
theorem length_truncate (s : String) (n : Nat) : (truncate s n).length = min n s.length :=
  List.length_take n s.data

/-- A first name that fits gives the IPv6 name `N ++ "6"`. -/
theorem ipsetAddress6Of_of_fits {size : Nat} {name : String} (fits : strlen name ≤ size - 2) :
    ipsetAddress6Of size name = name ++ "6" := by
  rw [ipsetAddress6Of, truncate_of_length_le fits]

/-- From `N ++ "6"` the interface name drops the `6`, cuts at `S - 5` and appends `_if6`. -/
theorem ipsetAddressIface6Of_append_six (size : Nat) (name : String) :
    ipsetAddressIface6Of size (name ++ "6") = (truncate name (size - 5) ++ "_if6", []) := by
  have last : (name ++ "6").toList.getLast? = some '6' := by
    simp [String.toList]
  have stem : ((name ++ "6").toList.dropLast : List Char) = name.toList := by
    simp [String.toList]
  simp only [ipsetAddressIface6Of, last, ↓reduceIte, stem]
  rfl

/--
`vrrp_ipsets` with one name that fits stores it, derives `N ++ "6"` for the
IPv6 set and `N` cut at `S - 5` with `_if6` for the interface set, and faults
nowhere.
-/
theorem vrrpIpsetsHandler_one_name
    (env : Env)
    (s : GlobalState)
    (name : String)
    (fits : strlen name ≤ env.ipsetNameSize - 2) :
    vrrpIpsetsHandler env s ["vrrp_ipsets", name] =
      .done { s with
        vrrpIpsetAddress := name
        vrrpIpsetAddress6 := name ++ "6"
        vrrpIpsetAddressIface6 := truncate name (env.ipsetNameSize - 5) ++ "_if6" } := by
  have notLong : ¬env.ipsetNameSize - 1 ≤ strlen name := by
    have := env.five_le_ipsetNameSize
    omega
  simp only [vrrpIpsetsHandler, vectorSize, strvecSlot, List.length_cons, List.length_nil,
    List.getD_cons_succ, List.getD_cons_zero, notLong, ↓reduceIte, ipsetIface6Step,
    ipsetAddress6Of_of_fits fits, ipsetAddressIface6Of_append_six]
  simp
  rfl

/--
Of the derived names, the IPv6 set and the interface set meet exactly when the
name fills the buffer and ends in `_if`.
-/
theorem derivedIpsetNames_eq_iff
    {size : Nat}
    {name : String}
    (fits : strlen name ≤ size - 2) :
    name ++ "6" = truncate name (size - 5) ++ "_if6" ↔
      strlen name = size - 2 ∧ ∃ stem, name = stem ++ "_if" := by
  have suffix : "_if".length = 3 := rfl
  constructor
  · intro same
    have lists : name.data ++ ['6'] = (name.data.take (size - 5) ++ ['_', 'i', 'f']) ++ ['6'] := by
      rw [List.append_assoc]
      exact congrArg String.data same
    have stemEq := List.append_cancel_right lists
    have lengths := congrArg List.length stemEq
    have dataLength : strlen name = name.data.length := rfl
    simp only [List.length_append, List.length_take, List.length_cons, List.length_nil] at lengths
    exact ⟨by omega, ⟨name.data.take (size - 5)⟩, String.ext stemEq⟩
  · rintro ⟨full, stem, rfl⟩
    have stemLength : stem.data.length = size - 5 := by
      rw [strlen, String.length_append, suffix] at full
      exact (show stem.length = size - 5 by omega)
    apply String.ext
    show stem.data ++ ['_', 'i', 'f'] ++ ['6'] =
      (stem.data ++ ['_', 'i', 'f']).take (size - 5) ++ ['_', 'i', 'f', '6']
    rw [← stemLength, List.take_left, List.append_assoc]
    rfl

/-- The first name differs from both derived names: they are longer or shorter. -/
theorem derivedIpsetNames_ne_name
    {size : Nat}
    {name : String}
    (fits : strlen name ≤ size - 2) :
    name ≠ name ++ "6" ∧ name ≠ truncate name (size - 5) ++ "_if6" := by
  have six : "6".length = 1 := rfl
  have ifSix : "_if6".length = 4 := rfl
  rw [strlen] at fits
  constructor
  · intro same
    have lengths := congrArg String.length same
    rw [String.length_append, six] at lengths
    omega
  · intro same
    have lengths := congrArg String.length same
    rw [String.length_append, length_truncate, ifSix] at lengths
    omega

/-- A 30-character name ending in `_if` gives the IPv6 set and the interface set one name. -/
theorem vrrpIpsets_derived_names_collide :
    (parsePass referenceEnv (initGlobalKeywords fullBuild true) zeroedState
        [["vrrp_ipsets", "aaaaaaaaaaaaaaaaaaaaaaaaaaa_if"]]).vrrpIpsetAddress6 =
      (parsePass referenceEnv (initGlobalKeywords fullBuild true) zeroedState
        [["vrrp_ipsets", "aaaaaaaaaaaaaaaaaaaaaaaaaaa_if"]]).vrrpIpsetAddressIface6 := by
  decide

end Keepalived
