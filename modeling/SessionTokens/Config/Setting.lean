import SessionTokens.Config.Schema
import SessionTokens.Number.Shortest
import SessionTokens.Number.Spelling

/-! # Trees of settings

Settings from several layers are merged into one tree before any of them is read. A table that is
merged into the tree is merged member by member; any other value replaces what was there. Reading is
lenient: texts, numbers and truth values stand for one another where that makes sense.
-/

namespace SessionTokens

open Number Text

/-- A value in a tree of settings. -/
inductive Setting where
  | absent
  | flag (value : Bool)
  | integer (value : Int)
  | real (value : Binary64)
  | text (value : String)
  | list (items : List Setting)
  | table (members : List (String × Setting))
  deriving Repr, Inhabited

namespace Setting

/-- No table within a setting has two members of one name. -/
inductive HasDistinctNames : Setting → Prop
  | absent : HasDistinctNames .absent
  | flag : HasDistinctNames (.flag value)
  | integer : HasDistinctNames (.integer value)
  | real : HasDistinctNames (.real value)
  | text : HasDistinctNames (.text value)
  | list (hitems : ∀ item ∈ items, HasDistinctNames item) : HasDistinctNames (.list items)
  | table (hnames : (members.map Prod.fst).Nodup)
      (hvalues : ∀ member ∈ members, HasDistinctNames member.2) : HasDistinctNames (.table members)

theorem HasDistinctNames.cons {name : String} {value : Setting} {members : List (String × Setting)}
    (hname : name ∉ members.map Prod.fst) (hvalue : value.HasDistinctNames)
    (hmembers : (Setting.table members).HasDistinctNames) :
    (Setting.table ((name, value) :: members)).HasDistinctNames := by
  cases hmembers with
  | table hnames hvalues =>
      exact .table (List.nodup_cons.mpr ⟨hname, hnames⟩)
        (List.forall_mem_cons.mpr ⟨hvalue, hvalues⟩)

/-- Gives the first member of a name a value, or adds such a member. -/
def insert (name : String) (value : α) : List (String × α) → List (String × α)
  | [] => [(name, value)]
  | (key, old) :: rest =>
      if key = name then (key, value) :: rest else (key, old) :: insert name value rest

theorem lookup_insert (name key : String) (value : α) (members : List (String × α)) :
    (insert name value members).lookup key =
      if key = name then some value else members.lookup key := by
  induction members with
  | nil =>
      by_cases h : key = name
      · simp [insert, h]
      · simp [insert, List.lookup_cons, h, beq_eq_false_iff_ne.2 h]
  | cons member rest ih =>
      obtain ⟨k, old⟩ := member
      by_cases hk : k = name
      · subst hk
        by_cases h : key = k
        · simp [insert, h]
        · simp [insert, List.lookup_cons, h, beq_eq_false_iff_ne.2 h]
      · rw [insert, if_neg hk, List.lookup_cons, List.lookup_cons, ih]
        by_cases h : key = k
        · subst h; simp [hk]
        · simp [beq_eq_false_iff_ne.2 h]

/-- The members of a table; any other value has none. -/
def members : Setting → List (String × Setting)
  | table members => members
  | _ => []

/-- The items of a list; any other value has none. -/
def items : Setting → List Setting
  | list items => items
  | _ => []

/-- The member of a table under a name. -/
def get? (setting : Setting) (name : String) : Option Setting := setting.members.lookup name

mutual

/-- Merges a value into a table under a name. What is no table makes room for one. -/
def put (name : String) (value root : Setting) : Setting :=
  match value with
  | table incoming =>
      table (insert name (putAll incoming ((root.get? name).getD (table []))) root.members)
  | value => table (insert name value root.members)

/-- Merges all members of a table into a table. -/
def putAll : List (String × Setting) → Setting → Setting
  | [], root => root
  | (name, value) :: rest, root => putAll rest (put name value root)

end

/-- Where a setting stands within a table: under a name, or at an index, which counts from the end
when it is negative. -/
inductive Step where
  | child (name : String)
  | index (place : Int)
  deriving DecidableEq, Repr

/-- How many items a list can be filled up to. -/
def longestList : Nat := 4294967296

/-- The place of an index in a list of some length, if there is such a place. -/
def placeOf? (index : Int) (length : Nat) : Option Nat :=
  if 0 ≤ index then
    if index < longestList then some index.toNat else none
  else if index.natAbs ≤ length then some (length - index.natAbs)
  else none

/-- Gives an item of a list a value; a list that is too short is filled up. -/
def setItem (place : Nat) (value : Setting) (items : List Setting) : List Setting :=
  (items ++ List.replicate (place + 1 - items.length) absent).set place value

/-- Gives the setting at the end of a path a value. Whatever stands in the way of the path makes
room for it, but a path through a place that a list cannot have leads nowhere. -/
def assign? (value : Setting) : List Step → Setting → Option Setting
  | [], _ => some value
  | [.child name], root => some (put name value root)
  | [.index index], root =>
      (placeOf? index root.items.length).map fun place =>
        list (setItem place value root.items)
  | .child name :: rest, root =>
      (assign? value rest ((root.get? name).getD absent)).map fun inner =>
        table (insert name inner root.members)
  | .index index :: rest, root =>
      (placeOf? index root.items.length).bind fun place =>
        (assign? value rest (root.items[place]?.getD absent)).map fun inner =>
          list (setItem place inner root.items)

/-- The value of a text that may stand for a truth value or a number. -/
def ofText (value : String) : Setting :=
  match String.ofList (fold value.toList) with
  | "true" => flag true
  | "false" => flag false
  | _ =>
      match readInteger .signed64 value.toList with
      | .ok n => integer n
      | .error _ =>
          match readBinary64 value.toList with
          | some x => real x
          | none => text value

/-- What a text stands for where a truth value is wanted. -/
def flagOfText? (value : String) : Option Bool :=
  match String.ofList (fold value.toList) with
  | "1" | "true" | "on" | "yes" => some true
  | "0" | "false" | "off" | "no" => some false
  | _ => none

/-- What a text stands for where an integer is wanted. -/
def integerOfText? (bounds : IntegerBounds) (value : String) : Option Int :=
  match String.ofList (fold value.toList) with
  | "true" | "on" | "yes" => some 1
  | "false" | "off" | "no" => some 0
  | _ => (readInteger bounds value.toList).toOption

/-- Reads a truth value. -/
def toFlag? : Setting → Option Bool
  | flag value => some value
  | integer value => some (value != 0)
  | real value => some !value.isZero
  | text value => flagOfText? value
  | _ => none

/-- Reads an integer within bounds. A number with a fraction is rounded, and held within them. -/
def toInteger? (bounds : IntegerBounds) : Setting → Option Int
  | flag value => some (if value then 1 else 0)
  | integer value => if bounds.contains value then some value else none
  | real value => some (value.toInteger bounds)
  | text value => integerOfText? bounds value
  | _ => none

/-- Reads a text. -/
def toText? : Setting → Option String
  | flag value => some (if value then "true" else "false")
  | integer value => some (String.ofList (intDigits value))
  | real value => some (String.ofList value.toText)
  | text value => some value
  | _ => none

/-- Reads the name of a choice, which may also be the only name in a table. -/
def toChoice? : Setting → Option String
  | text value => some value
  | table [(name, _)] => some name
  | _ => none

/-- Reads a table. The items of a list go by the order of the names. -/
def toTable? (names : List String) : Setting → Option (String → Option Setting)
  | table members => some fun name => members.lookup name
  | list items => some fun name => (names.zip items).lookup name
  | _ => none

end Setting

/-- A tree of settings as a source of them. A natural number of at most 32 bits keeps the lowest
bits of a longer one. -/
def SettingSource.settings : SettingSource Setting where
  table? := Setting.toTable?
  text? := Setting.toText?
  flag? := Setting.toFlag?
  signed? := Setting.toInteger? .signed64
  unsigned? setting := (setting.toInteger? .unsigned64).map Int.toNat
  unsigned32? setting := (setting.toInteger? .unsigned64).map fun value => value.toNat % 4294967296
  choice? := Setting.toChoice?

end SessionTokens
