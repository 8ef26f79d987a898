import SessionTokens.Text.Integer

/-! # Who a token speaks for

A user is named by a 64-bit number and acts in one of three roles. A security context is what the
holder of a valid token is allowed to act as.
-/

namespace SessionTokens

open Text

/-- The number of a user, of 64 signed bits. -/
structure UserId where
  value : Int
  least_le : -9223372036854775808 ≤ value
  le_greatest : value ≤ 9223372036854775807
  deriving DecidableEq, Repr

namespace UserId

/-- The user of a number, if the number has at most 64 signed bits. -/
def ofInt? (value : Int) : Option UserId :=
  if h : -9223372036854775808 ≤ value ∧ value ≤ 9223372036854775807 then
    some ⟨value, h.1, h.2⟩
  else none

theorem ofInt?_eq_some_iff {value : Int} {user : UserId} :
    ofInt? value = some user ↔ user.value = value := by
  unfold ofInt?
  split
  next =>
    constructor
    · rintro ⟨⟩
      rfl
    · rintro rfl
      rfl
  next hnot =>
    refine iff_of_false nofun fun heq => hnot ?_
    rw [← heq]
    exact ⟨user.least_le, user.le_greatest⟩

theorem ofInt?_value (user : UserId) : ofInt? user.value = some user :=
  ofInt?_eq_some_iff.mpr rfl

theorem contains_value (user : UserId) : IntegerBounds.signed64.contains user.value = true :=
  IntegerBounds.contains_iff.mpr ⟨user.least_le, user.le_greatest⟩

/-- Reads the decimal text of a user number. -/
def parse (text : String) : Except IntegerError UserId :=
  match readInteger .signed64 text.toList with
  | .error problem => .error problem
  | .ok value =>
      match ofInt? value with
      | some user => .ok user
      | none => .error .tooLarge

/-- The decimal text of a user number. -/
def display (user : UserId) : String := String.ofList (intDigits user.value)

instance : LT UserId := ⟨fun a b => a.value < b.value⟩
instance (a b : UserId) : Decidable (a < b) := inferInstanceAs (Decidable (a.value < b.value))

end UserId

/-- What a user may do. -/
inductive Role where
  | user
  | moderator
  | admin
  deriving DecidableEq, Repr

namespace Role

/-- Every role. -/
def all : List Role := [.user, .moderator, .admin]

/-- The name of a role. -/
def name : Role → String
  | .user => "user"
  | .moderator => "moderator"
  | .admin => "admin"

/-- The role of a name, which has to match exactly. -/
def ofName? : String → Option Role
  | "user" => some .user
  | "moderator" => some .moderator
  | "admin" => some .admin
  | _ => none

/-- The wording for a name that no role has. -/
def unknownMessage (name : String) : String := "Unknown role: " ++ name

theorem ofName?_name (role : Role) : ofName? role.name = some role := by
  cases role <;> rfl

theorem ofName?_eq_some_iff {text : String} {role : Role} :
    ofName? text = some role ↔ text = role.name := by
  constructor
  · intro h
    unfold ofName? at h
    split at h <;> cases h <;> rfl
  · rintro rfl
    exact ofName?_name role

end Role

/-- What the holder of a valid token acts as. -/
structure SecurityContext where
  user : UserId
  role : Role
  deriving DecidableEq, Repr

/-- Whether the holder administers the service. -/
def SecurityContext.isAdmin (context : SecurityContext) : Bool := context.role = .admin

end SessionTokens
