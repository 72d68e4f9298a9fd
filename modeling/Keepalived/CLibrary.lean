import Mathlib.Data.List.Basic
import Mathlib.Data.Int.Defs
import Mathlib.Algebra.Group.Nat.Basic
import Mathlib.Algebra.Group.Int

namespace Keepalived

/-!
# The C library as the global parser uses it

The handlers of `global_parser.c` read their numbers through `strtol`,
`strtoul` and `atoi`, and narrow them with C casts.  This module models those
functions as the C standard and glibc define them on an LP64 target (`int`
and `unsigned` of 32 bits, `long`, `unsigned long`, `size_t` and `rlim_t` of
64 bits), in the "C" locale.

A C string is modelled by a Lean `String` read one `Char` per C `char`.
Tokens produced by the configuration tokenizer never contain a NUL, so the
terminator is implicit; an end pointer is modelled by the characters it still
points at, and `*endptr == '\0'` by that list being empty.
-/

/-- `ULONG_MAX` on LP64. -/
def ulongMax : Nat := 2 ^ 64 - 1

/-- `UINT_MAX` on LP64. -/
def uintMax : Nat := 2 ^ 32 - 1

/-- `LONG_MAX` on LP64. -/
def longMax : Int := 2 ^ 63 - 1

/-- `LONG_MIN` on LP64. -/
def longMin : Int := -2 ^ 63

/-- `isspace` in the "C" locale. -/
def isspace (c : Char) : Bool :=
  c = ' ' || c = '\t' || c = '\n' || c = '\x0b' || c = '\x0c' || c = '\r'

/-- `isdigit`: the ASCII decimal digits. -/
def isdigit (c : Char) : Bool :=
  '0' ≤ c && c ≤ '9'

/-- The value of a run of decimal digits, most significant first. -/
def decimalValue (digits : List Char) : Nat :=
  digits.foldl (fun acc c => 10 * acc + (c.toNat - '0'.toNat)) 0

/-- The optional sign `strtol` and `strtoul` accept after the leading blanks. -/
def splitSign : List Char → Bool × List Char
  | '-' :: rest => (true, rest)
  | '+' :: rest => (false, rest)
  | cs => (false, cs)

/--
`strtoul(nptr, &endptr, 10)`: the converted value and what `endptr` points at.

Leading blanks and one sign are skipped.  Without a digit nothing is
converted: the value is `0` and `endptr` is `nptr` itself.  A magnitude past
`ULONG_MAX` saturates there; a negative numeral is negated modulo `2^64`.
-/
def strtoul (nptr : String) : Nat × List Char :=
  let (negative, body) := splitSign (nptr.toList.dropWhile isspace)
  match body.takeWhile isdigit with
  | [] => (0, nptr.toList)
  | digits =>
      let magnitude := decimalValue digits
      (if ulongMax < magnitude then ulongMax
        else if negative then (2 ^ 64 - magnitude) % 2 ^ 64 else magnitude,
        body.dropWhile isdigit)

/--
`strtol(nptr, &endptr, 10)`: as `strtoul`, but signed, with the value clamped
to `[LONG_MIN, LONG_MAX]` on overflow.
-/
def strtol (nptr : String) : Int × List Char :=
  let (negative, body) := splitSign (nptr.toList.dropWhile isspace)
  match body.takeWhile isdigit with
  | [] => (0, nptr.toList)
  | digits =>
      let magnitude : Int := decimalValue digits
      (if negative then max (-magnitude) longMin else min magnitude longMax,
        body.dropWhile isdigit)

/-- What `strtol` and `strtoul` convert: the characters after the blanks and the sign. -/
def numeralBody (nptr : String) : List Char :=
  (splitSign (nptr.toList.dropWhile isspace)).2

/-- Where `strtoul` stops: at the start without a digit, else after the digits. -/
theorem strtoul_endptr (nptr : String) :
    (strtoul nptr).2 =
      if (numeralBody nptr).takeWhile isdigit = [] then nptr.toList
      else (numeralBody nptr).dropWhile isdigit := by
  unfold strtoul numeralBody
  generalize splitSign (nptr.toList.dropWhile isspace) = parts
  obtain ⟨negative, body⟩ := parts
  cases digits : body.takeWhile isdigit <;> simp [digits]

/-- A digit is not a blank. -/
theorem isspace_eq_false_of_isdigit {c : Char} (digit : isdigit c = true) : isspace c = false := by
  cases space : isspace c
  · rfl
  · simp only [isspace, Bool.or_eq_true, decide_eq_true_eq] at space
    rcases space with ((((rfl | rfl) | rfl) | rfl) | rfl) | rfl <;> revert digit <;> decide

/-- A digit is not a sign. -/
theorem splitSign_of_isdigit {c : Char} (digit : isdigit c = true) (rest : List Char) :
    splitSign (c :: rest) = (false, c :: rest) := by
  unfold splitSign
  split
  · next minus => cases minus; exact absurd digit (by decide)
  · next plus => cases plus; exact absurd digit (by decide)
  · rfl

/-- A string that starts with a digit is converted from its first character. -/
theorem numeralBody_of_isdigit {nptr : String} {c : Char} {rest : List Char}
    (chars : nptr.toList = c :: rest) (digit : isdigit c = true) :
    numeralBody nptr = c :: rest := by
  rw [numeralBody, chars, List.dropWhile_cons, if_neg (by simp [isspace_eq_false_of_isdigit digit]),
    splitSign_of_isdigit digit]

/-- Conversion to a signed type of `bits` bits, wrapping as two's complement. -/
def toSigned (bits : Nat) (x : Int) : Int :=
  x.bmod (2 ^ bits)

/-- Conversion to an unsigned type of `bits` bits. -/
def toUnsigned (bits : Nat) (n : Nat) : Nat :=
  n % 2 ^ bits

/-- A value that fits the signed type converts to itself. -/
theorem toSigned_of_lt {bits : Nat} {x : Int} (nonneg : 0 ≤ x) (fits : 2 * x < 2 ^ bits) :
    toSigned bits x = x := by
  have reduced : x % ((2 ^ bits : Nat) : Int) = x :=
    Int.emod_eq_of_lt nonneg (by push_cast; omega)
  rw [toSigned, Int.bmod_pos _ _ (by rw [reduced]; push_cast; omega), reduced]

/-- A value that fits the unsigned type converts to itself. -/
theorem toUnsigned_of_lt {bits n : Nat} (fits : n < 2 ^ bits) : toUnsigned bits n = n :=
  Nat.mod_eq_of_lt fits

/-- glibc's `atoi`, which is `(int) strtol(nptr, NULL, 10)`. -/
def atoi (nptr : String) : Int :=
  toSigned 32 (strtol nptr).1

/-- `strlen` of a NUL-free string. -/
def strlen (s : String) : Nat :=
  s.length

example : strtoul "  +42" = (42, []) := by decide
example : strtol "-7x" = (-7, ['x']) := by decide

end Keepalived
