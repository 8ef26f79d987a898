import SessionTokens.Identity
import SessionTokens.Proofs.Text.Integer

/-! # How user numbers are written and read

The decimal text of a user number is read back as that number. Of all texts those are read that are
digits after at most one sign and spell a number of 64 signed bits; any other text is refused for
the first problem in it from left to right.
-/

namespace SessionTokens

open Text

namespace UserId

theorem parse_eq_ok_iff_readInteger {text : String} {user : UserId} :
    parse text = .ok user ↔ readInteger .signed64 text.toList = .ok user.value := by
  unfold parse
  split
  next problem hread =>
    rw [hread]
    exact iff_of_false nofun nofun
  next value hread =>
    rw [hread, Except.ok.injEq]
    split
    next found hfound =>
      rw [Except.ok.injEq, ← Option.some.injEq, ← hfound, ofInt?_eq_some_iff]
      exact eq_comm
    next hnone =>
      refine iff_of_false nofun fun heq => ?_
      rw [heq, ofInt?_value] at hnone
      cases hnone

/-- A text names a user exactly if it is an integer text of the number of that user. -/
theorem parse_eq_ok_iff {text : String} {user : UserId} :
    parse text = .ok user ↔ SignedNumeral text.toList user.value := by
  rw [parse_eq_ok_iff_readInteger, readInteger_eq_ok_iff (by decide)]
  constructor
  · exact fun ⟨hnumeral, _⟩ => hnumeral
  · exact fun hnumeral => ⟨hnumeral, user.contains_value, fun _ => by decide⟩

/-- The number of a user is read back from its decimal text. -/
theorem parse_display (user : UserId) : parse user.display = .ok user := by
  rw [parse_eq_ok_iff, display, String.toList_ofList]
  exact signedNumeral_intDigits user.value

theorem parse_eq_error_iff_readInteger {text : String} {problem : IntegerError} :
    parse text = .error problem ↔ readInteger .signed64 text.toList = .error problem := by
  unfold parse
  split
  next found hread =>
    rw [hread, Except.error.injEq, Except.error.injEq]
  next value hread =>
    -- what was read is in the range, so that there is a user of that number
    have hrange := ((readInteger_eq_ok_iff (by decide)).mp hread).2.1
    obtain ⟨hleast, hgreatest⟩ := IntegerBounds.contains_iff.mp hrange
    have hfound : ofInt? value = some ⟨value, hleast, hgreatest⟩ := ofInt?_eq_some_iff.mpr rfl
    rw [hread, hfound]
    exact iff_of_false nofun nofun

/-- A text that names no user is refused for the first problem in it. -/
theorem parse_eq_error_iff {text : String} {problem : IntegerError} :
    parse text = .error problem ↔ FirstProblem .signed64 text.toList problem := by
  rw [parse_eq_error_iff_readInteger, readInteger_eq_error_iff (by decide)]

/-- What is written for a user number is read back, an integer text of 64 signed bits is read as the
number that it spells, and any other text is refused for the first problem in it from left to
right. -/
theorem parse_isDecimal :
    (∀ user : UserId, parse user.display = .ok user) ∧
    (∀ text user, parse text = .ok user ↔ SignedNumeral text.toList user.value) ∧
    ∀ text problem, parse text = .error problem ↔ FirstProblem .signed64 text.toList problem :=
  ⟨parse_display, fun _ _ => parse_eq_ok_iff, fun _ _ => parse_eq_error_iff⟩

/-- Zeros before a number count for nothing, and the range ends one lower than the other way. -/
example : parse "+0009223372036854775807" = .ok ⟨9223372036854775807, by decide, by decide⟩ ∧
    parse "9223372036854775808" = .error .tooLarge ∧
    parse "-9223372036854775808" = .ok ⟨-9223372036854775808, by decide, by decide⟩ ∧
    parse "-9223372036854775809" = .error .tooSmall :=
  ⟨rfl, rfl, rfl, rfl⟩

/-- A digit that does not fit comes before what is no digit, or after it. -/
example : parse "99999999999999999999x" = .error .tooLarge ∧
    parse "9223372036854775807x" = .error .invalidDigit ∧ parse "-" = .error .invalidDigit :=
  ⟨rfl, rfl, rfl⟩

end UserId

end SessionTokens
