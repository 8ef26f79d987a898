import SessionTokens.Config.Setting
import SessionTokens.Toml.Moment
import SessionTokens.Toml.Number
import SessionTokens.Toml.Token

/-! # Values in a settings file

Tables within values may be written with dotted names, which add to a table as long as nothing else
closed it. What a value means is settled only when it is asked for: every name of a table may be
used once, unless the first member of the table is a mark that makes a moment of it.
-/

namespace SessionTokens.Toml

open Number Text

/-- A value that is written without quotes. -/
inductive Scalar where
  | flag (value : Bool)
  | integer (value : Int)
  | real (value : Binary64)
  | moment (text : String)

/-- The setting of a scalar. A moment is its written form. -/
def Scalar.toSetting : Scalar → Setting
  | .flag value => .flag value
  | .integer value => .integer value
  | .real value => .real value
  | .moment text => .text text

/-- A value as it is written. -/
inductive Value where
  | plain (scalar : Scalar)
  | string (text : String)
  | list (items : List Value)
  /-- A table to which nothing can be added. -/
  | closed (members : List (String × Value))
  /-- A table that was only named by dotted names so far. -/
  | dotted (members : List (String × Value))

/-- Drops blanks within a line. -/
def skipBlanks : List Token → List Token
  | .blanks _ :: rest => rest
  | rest => rest

/-- Takes a name: a bare word, or a string within one line. -/
def takeName : List Token → Option (String × List Token)
  | .word text :: rest => some (String.ofList text, rest)
  | .string text false :: rest => some (String.ofList text, rest)
  | _ => none

/-- Takes the further names of a dotted name. -/
def takeDots : Nat → List Token → Option (List String × List Token)
  | 0, _ => none
  | fuel + 1, .period :: rest =>
      (takeName (skipBlanks rest)).bind fun (name, rest) =>
        (takeDots fuel (skipBlanks rest)).map fun (names, rest) => (name :: names, rest)
  | _ + 1, rest => some ([], rest)

/-- Takes a dotted name. -/
def takeDottedName (tokens : List Token) : Option (List String × List Token) :=
  (takeName tokens).bind fun (name, rest) =>
    (takeDots tokens.length (skipBlanks rest)).map fun (names, rest) => (name :: names, rest)

/-- Adds a value under a dotted name. -/
def addMember (value : Value) : List String → List (String × Value) →
    Option (List (String × Value))
  | [], _ => none
  | [name], members => some (members ++ [(name, value)])
  | name :: rest, members =>
      match members.lookup name with
      | none =>
          (addMember value rest []).map fun inner => members ++ [(name, .dotted inner)]
      | some (.dotted inner) =>
          (addMember value rest inner).map fun inner =>
            Setting.insert name (.dotted inner) members
      | some _ => none

/-- The name of the mark that makes a moment of a table, as the first of its members. -/
def momentMark : String := "$__toml_private_datetime"

/-- Whether a table has the mark of a moment. -/
def isMarked (members : List (String × α)) : Bool := (members.map (·.1)).head? == some momentMark

/-- The moment that a table with the mark stands for: what the mark says, whatever follows it. -/
def markedMoment? (members : List (String × Value)) : Option Setting :=
  match members with
  | (_, .string text) :: _ =>
      (momentText? text.toList).map fun written => .text (String.ofList written)
  | _ => none

mutual

/-- What a value means. -/
def Value.toSetting? : Value → Option Setting
  | .plain scalar => some scalar.toSetting
  | .string text => some (.text text)
  | .list items => (toItems? items).map .list
  | .closed members | .dotted members =>
      if isMarked members then markedMoment? members else (toMembers? members).map .table

/-- What the items of a list mean. -/
def toItems? : List Value → Option (List Setting)
  | [] => some []
  | item :: rest => do
      let setting ← item.toSetting?
      let settings ← toItems? rest
      some (setting :: settings)

/-- What the members of a table mean. No name may be used twice. -/
def toMembers? : List (String × Value) → Option (List (String × Setting))
  | [] => some []
  | (name, value) :: rest =>
      if rest.any (·.1 == name) then none
      else do
        let setting ← value.toSetting?
        let settings ← toMembers? rest
        some ((name, setting) :: settings)

end

theorem Scalar.toSetting_hasDistinctNames (scalar : Scalar) :
    scalar.toSetting.HasDistinctNames := by
  cases scalar with
  | flag => exact .flag
  | integer => exact .integer
  | real => exact .real
  | moment => exact .text

theorem markedMoment?_hasDistinctNames {members : List (String × Value)} {setting : Setting}
    (h : markedMoment? members = some setting) : setting.HasDistinctNames := by
  unfold markedMoment? at h
  split at h
  next =>
    obtain ⟨written, -, rfl⟩ := Option.map_eq_some_iff.mp h
    exact .text
  next => cases h

mutual

/-- The tables of a value have distinct names, whatever it means. -/
theorem Value.toSetting?_hasDistinctNames : ∀ {value : Value} {setting : Setting},
    value.toSetting? = some setting → setting.HasDistinctNames
  | .plain scalar, _, h => by
      rw [Value.toSetting?] at h
      cases h
      exact scalar.toSetting_hasDistinctNames
  | .string _, _, h => by
      rw [Value.toSetting?] at h
      cases h
      exact .text
  | .list items, _, h => by
      rw [Value.toSetting?] at h
      obtain ⟨settings, hsettings, rfl⟩ := Option.map_eq_some_iff.mp h
      exact .list (toItems?_haveDistinctNames hsettings)
  | .closed members, _, h | .dotted members, _, h => by
      rw [Value.toSetting?] at h
      split at h
      next => exact markedMoment?_hasDistinctNames h
      next =>
        obtain ⟨settings, hsettings, rfl⟩ := Option.map_eq_some_iff.mp h
        exact (toMembers?_hasDistinctNames hsettings).1

theorem toItems?_haveDistinctNames : ∀ {items : List Value} {settings : List Setting},
    toItems? items = some settings → ∀ setting ∈ settings, setting.HasDistinctNames
  | [], _, h => by
      rw [toItems?] at h
      cases h
      exact List.forall_mem_nil _
  | item :: rest, _, h => by
      simp only [toItems?, Option.bind_eq_bind, Option.bind_eq_some_iff, Option.some.injEq] at h
      obtain ⟨setting, hsetting, settings, hsettings, rfl⟩ := h
      exact List.forall_mem_cons.mpr ⟨Value.toSetting?_hasDistinctNames hsetting,
        toItems?_haveDistinctNames hsettings⟩

theorem toMembers?_hasDistinctNames : ∀ {members : List (String × Value)}
    {settings : List (String × Setting)}, toMembers? members = some settings →
      (Setting.table settings).HasDistinctNames ∧ settings.map Prod.fst = members.map Prod.fst
  | [], _, h => by
      rw [toMembers?] at h
      cases h
      exact ⟨.table .nil (List.forall_mem_nil _), rfl⟩
  | (name, value) :: rest, _, h => by
      rw [toMembers?] at h
      split at h
      next => cases h
      next hunused =>
        simp only [Option.bind_eq_bind, Option.bind_eq_some_iff, Option.some.injEq] at h
        obtain ⟨setting, hsetting, settings, hsettings, rfl⟩ := h
        obtain ⟨hdistinct, hnames⟩ := toMembers?_hasDistinctNames hsettings
        refine ⟨.cons ?_ (Value.toSetting?_hasDistinctNames hsetting) hdistinct, ?_⟩
        · rw [hnames]
          simpa using hunused
        · rw [List.map_cons, List.map_cons, hnames]

end

/-- Takes the exponent of a number: what follows the `e` within its word, or else behind a plus
sign. -/
def takeExponent (text : List Char) (rest : List Token) : Option (Int × List Token) :=
  match text with
  | [] =>
      let rest := match rest with
        | .plus :: rest => rest
        | rest => rest
      match rest with
      | .word word :: rest =>
          match takeNumeral 10 true word with
          | some (digits, []) => some (valueIn 10 digits, rest)
          | _ => none
      | _ => none
  | text =>
      let (negative, text) := takeSign text
      match takeNumeral 10 true text with
      | some (digits, []) =>
          some (if negative then -(valueIn 10 digits : Int) else valueIn 10 digits, rest)
      | _ => none

/-- Takes what follows the digits of a number with a fraction or an exponent. -/
def finishReal (negative : Bool) (whole fraction : List Nat) (text : List Char)
    (rest : List Token) : Option (Scalar × List Token) :=
  match text with
  | [] => (realOf? negative whole fraction 0).map fun x => (.real x, rest)
  | c :: text =>
      if c == 'e' || c == 'E' then
        (takeExponent text rest).bind fun (exponent, rest) =>
          (realOf? negative whole fraction exponent).map fun x => (.real x, rest)
      else none

/-- Takes a number with a fraction or an exponent, given the words before and after its point. -/
def takeReal (word : List Char) (after : Option (List Char)) (rest : List Token) :
    Option (Scalar × List Token) :=
  let (negative, text) := takeSign word
  match takeNumeral 10 false text, after with
  | some (whole, text), none => finishReal negative whole [] text rest
  | some (whole, []), some after =>
      match takeNumeral 10 true after with
      | some (fraction, text) => finishReal negative whole fraction text rest
      | none => none
  | _, _ => none

/-- Takes a number from its first word on. -/
def takeNumber (word : List Char) (rest : List Token) : Option (Scalar × List Token) :=
  let integer (value : Option Int) : Option (Scalar × List Token) :=
    value.map fun n => (.integer n, rest)
  match word with
  | '0' :: 'x' :: digits => integer (readInBase 16 digits)
  | '0' :: 'o' :: digits => integer (readInBase 8 digits)
  | '0' :: 'b' :: digits => integer (readInBase 2 digits)
  | word =>
      if word.contains 'e' || word.contains 'E' then takeReal word none rest
      else
        match rest with
        | .period :: .word after :: rest => takeReal word (some after) rest
        | .period :: _ => none
        | rest =>
            match String.ofList word with
            | "inf" => some (.real (.infinite false), rest)
            | "-inf" => some (.real (.infinite true), rest)
            | "nan" | "-nan" => some (.real .nan, rest)
            | _ => integer (readDecimalInteger word)

/-- Takes a mark and the word behind it, if the mark is here. -/
def takeMarked (mark : Token) (char : Char) : List Token → Option (List Char × List Token)
  | token :: rest =>
      if token = mark then
        match rest with
        | .word word :: rest => some (char :: word, rest)
        | _ => none
      else some ([], token :: rest)
  | [] => some ([], [])

/-- Takes the minutes, the seconds and what may follow them. -/
def takeClock (rest : List Token) : Option (List Char × List Token) :=
  match rest with
  | .word minutes :: .colon :: .word seconds :: rest => do
      let (fraction, rest) ← takeMarked .period '.' rest
      let (offset, rest) ← takeMarked .plus '+' rest
      let (offsetMinutes, rest) ← takeMarked .colon ':' rest
      some (minutes ++ ':' :: seconds ++ fraction ++ offset ++ offsetMinutes, rest)
  | _ => none

/-- Takes a moment from its first words on. -/
def takeMoment (text : List Char) (inTime : Bool) (rest : List Token) :
    Option (Scalar × List Token) := do
  let (text, rest) := match rest with
    | .blanks [' '] :: .word hour :: rest => (text ++ ' ' :: hour, rest)
    | rest => (text, rest)
  let (text, rest) ←
    if inTime then (takeClock rest).map fun (clock, rest) => (text ++ clock, rest)
    else
      match rest with
      | .colon :: rest => (takeClock rest).map fun (clock, rest) => (text ++ ':' :: clock, rest)
      | rest => some (text, rest)
  let written ← momentText? text
  some (.moment (String.ofList written), rest)

/-- Whether a word begins a moment: it has the letter between date and time, or a minus sign that
belongs to no exponent. -/
def beginsMoment (word : List Char) : Bool :=
  let exponent (e : Char) : Bool := (word.zip (word.drop 1)).contains (e, '-')
  word.contains 'T' || word.contains 't' ||
    ((word.drop 1).contains '-' && !exponent 'e' && !exponent 'E')

/-- Takes a number or a moment from its first word on. -/
def takeNumberOrMoment (word : List Char) (rest : List Token) : Option (Scalar × List Token) :=
  if beginsMoment word then takeMoment word false rest
  else
    match rest with
    | .colon :: rest => takeMoment (word ++ [':']) true rest
    | rest => takeNumber word rest

/-- Takes a value that a bare word begins. -/
def takeWord (word : List Char) (rest : List Token) : Option (Scalar × List Token) :=
  match String.ofList word with
  | "true" => some (.flag true, rest)
  | "false" => some (.flag false, rest)
  | "inf" | "nan" => takeNumberOrMoment word rest
  | _ =>
      match word with
      | c :: _ =>
          if c == '-' || (digitValue? c).isSome then takeNumberOrMoment word rest else none
      | [] => none

/-- Drops blanks, line ends and comments. A comment has to reach to the end of its line. -/
def skipLines : List Token → Option (List Token)
  | .blanks _ :: rest => skipLines rest
  | .newline :: rest => skipLines rest
  | .comment :: .newline :: rest => skipLines rest
  | [.comment] => some []
  | .comment :: _ => none
  | rest => some rest

mutual

/-- Takes a value. The fuel bounds how many values, items and members may follow one another. -/
def takeValue : Nat → List Token → Option (Value × List Token)
  | 0, _ => none
  | fuel + 1, tokens =>
      match tokens with
      | .string value _ :: rest => some (.string (String.ofList value), rest)
      | .word word :: rest => (takeWord word rest).map fun (value, rest) => (.plain value, rest)
      | .plus :: .word word :: rest =>
          (takeNumber word rest).map fun (value, rest) => (.plain value, rest)
      | .leftBracket :: rest =>
          (takeItems fuel rest).map fun (items, rest) => (.list items, rest)
      | .leftBrace :: rest =>
          match skipBlanks rest with
          | .rightBrace :: rest => some (.closed [], rest)
          | rest => (takeMembers fuel [] rest).map fun (members, rest) => (.closed members, rest)
      | _ => none

/-- Takes the items of a list and its closing bracket. -/
def takeItems : Nat → List Token → Option (List Value × List Token)
  | 0, _ => none
  | fuel + 1, tokens =>
      match skipLines tokens with
      | none => none
      | some (.rightBracket :: rest) => some ([], rest)
      | some tokens =>
          match takeValue fuel tokens with
          | none => none
          | some (item, rest) =>
              match skipLines rest with
              | some (.comma :: rest) =>
                  (takeItems fuel rest).map fun (items, rest) => (item :: items, rest)
              | some (.rightBracket :: rest) => some ([item], rest)
              | _ => none

/-- Takes the members of a table that has some, and its closing brace. -/
def takeMembers : Nat → List (String × Value) → List Token →
    Option (List (String × Value) × List Token)
  | 0, _, _ => none
  | fuel + 1, members, tokens =>
      match takeDottedName tokens with
      | none => none
      | some (names, rest) =>
          match skipBlanks rest with
          | .equals :: rest =>
              match takeValue fuel (skipBlanks rest) with
              | none => none
              | some (value, rest) =>
                  match addMember value names members with
                  | none => none
                  | some members =>
                      match skipBlanks rest with
                      | .rightBrace :: rest => some (members, rest)
                      | .comma :: rest => takeMembers fuel members (skipBlanks rest)
                      | _ => none
          | _ => none

end

end SessionTokens.Toml
