import SessionTokens.Logging.FieldPattern
import SessionTokens.Logging.Level
import SessionTokens.Text.Utf8

/-! # Directives

A directive names a level, a target with its level, or also a span and a field within it. What it is
about gives it its place among others: the more specific one comes first.
-/

namespace SessionTokens.Logging

open Text

/-- One directive of a filter. -/
structure Directive where
  target : Option String := none
  span : Option String := none
  fields : List FieldPattern := []
  level : Level := .trace
  deriving DecidableEq, Repr

/-- Why a text is no filter. -/
inductive FilterError where
  | malformed
  | unknownLevel
  | field (fault : Pattern.Fault)
  /-- A part of a directive would begin or end within a character. -/
  | splitsCharacter
  deriving DecidableEq, Repr

/-- The wording of a filter error. -/
def FilterError.message : FilterError → String
  | .malformed => "invalid filter directive"
  | .unknownLevel =>
      "error parsing level filter: expected one of \"off\", \"error\", \"warn\", \"info\", " ++
        "\"debug\", \"trace\", or a number 0-5"
  | .field fault => "invalid field filter: " ++ fault.message
  | .splitsCharacter => "a part of a directive begins or ends within a character"

namespace Directive

/-- How far a directive was read: which part is open, and at which byte it began. -/
inductive Reading where
  | nothing
  | levelOrTarget
  | span (first : Nat)
  | field (first : Nat)
  | afterField
  | afterSpan
  | level (first : Nat)
  deriving DecidableEq, Repr

/-- Whether a directive may begin with a character. -/
def mayBegin (c : Char) : Bool := c == '-' || c == ':' || c == '_' || isAlphanumeric c

/-- The part of a text from one byte to another. -/
def part (text : List Char) (first last : Nat) : Except FilterError (List Char) :=
  match Utf8.part? first last text with
  | some part => .ok part
  | none => .error .splitsCharacter

/-- The part of a text from a byte on. -/
def partFrom (text : List Char) (first : Nat) : Except FilterError (List Char) :=
  match Utf8.drop? first text with
  | some part => .ok part
  | none => .error .splitsCharacter

/-- Names the target that ended at a byte. -/
def closeTarget (text : List Char) (directive : Directive) (last : Nat) :
    Except FilterError Directive :=
  (part text 0 last).map fun name => { directive with target := some (String.ofList name) }

/-- Names the span that was closed at a byte. A name may be empty. -/
def closeSpan (text : List Char) (directive : Directive) (first last : Nat) :
    Except FilterError Directive :=
  (part text first last).map fun name => { directive with span := some (String.ofList name) }

/-- Names the span before a field. There an empty name is none. -/
def closeSpanBeforeField (text : List Char) (directive : Directive) (first last : Nat) :
    Except FilterError Directive :=
  (closeSpan text directive first last).map fun directive =>
    { directive with span := directive.span.filter fun name => !name.isEmpty }

/-- Adds the field that was closed at a byte. -/
def closeField (text : List Char) (directive : Directive) (first last : Nat) :
    Except FilterError Directive :=
  match part text first last with
  | .error e => .error e
  | .ok [] => .error .malformed
  | .ok field =>
      match FieldPattern.read field with
      | .error fault => .error (.field fault)
      | .ok field => .ok { directive with fields := directive.fields ++ [field] }

/-- Reads the character at a byte. Parts are taken from `text`. -/
def readChar (text : List Char) (state : Reading × Directive) (place : Nat) (c : Char) :
    Except FilterError (Reading × Directive) :=
  match state with
  | (.nothing, d) =>
      if c == '[' then .ok (.span (place + 1), d)
      else if mayBegin c then .ok (.levelOrTarget, d)
      else .error .malformed
  | (.levelOrTarget, d) =>
      if c == '=' then (closeTarget text d place).map (.level (place + 1), ·)
      else if c == '[' then (closeTarget text d place).map (.span (place + 1), ·)
      else .ok (.levelOrTarget, d)
  | (.span first, d) =>
      if c == ']' then (closeSpan text d first place).map (.afterSpan, ·)
      else if c == '\x7b' then
        (closeSpanBeforeField text d first place).map (.field (place + 1), ·)
      else .ok (.span first, d)
  | (.field first, d) =>
      if c == '\x7d' then (closeField text d first place).map (.afterField, ·)
      else .ok (.field first, d)
  | (.afterField, d) => if c == ']' then .ok (.afterSpan, d) else .error .malformed
  | (.afterSpan, d) => if c == '=' then .ok (.level (place + 1), d) else .error .malformed
  | (.level first, d) => .ok (.level first, d)

/-- Reads characters one after the other, the first of which is at a byte. -/
def readChars (text : List Char) :
    Nat → List Char → Reading × Directive → Except FilterError (Reading × Directive)
  | _, [], state => .ok state
  | place, c :: rest, state =>
      match readChar text state place c with
      | .error e => .error e
      | .ok state => readChars text (place + (Utf8.encodeChar c).length) rest state

/-- The directive of a text without target: a level, or else a target of which everything passes. -/
def ofWord (text : List Char) : Directive :=
  match Level.read? text with
  | some level => { level }
  | none => { target := some (String.ofList text) }

/-- The directive with a level; where none is written, everything passes. -/
def withLevel (directive : Directive) : List Char → Except FilterError Directive
  | [] => .ok { directive with level := .trace }
  | text =>
      match Level.read? text with
      | some level => .ok { directive with level }
      | none => .error .unknownLevel

/-- Reads a directive. White space around it is passed over, and places are counted without it; the
parts are nevertheless taken from the whole text. -/
def read (text : List Char) : Except FilterError Directive :=
  match readChars text 0 (trim text) (.nothing, {}) with
  | .error e => .error e
  | .ok (.levelOrTarget, _) => .ok (ofWord text)
  | .ok (.level first, directive) =>
      match partFrom text first with
      | .error e => .error e
      | .ok level => directive.withLevel level
  | .ok (.afterSpan, directive) => .ok directive
  | .ok _ => .error .malformed

/-- Whether a directive is about spans or fields. -/
def isDynamic (directive : Directive) : Bool :=
  directive.span.isSome || !directive.fields.isEmpty

/-- Whether a directive can be decided without knowing a span or a value. -/
def isStatic (directive : Directive) : Bool :=
  directive.span.isNone && directive.fields.all (·.value.isNone)

/-- The fields of a directive within braces. -/
def fieldsText (directive : Directive) : String :=
  match directive.fields with
  | [] => ""
  | fields => "\x7b" ++ String.intercalate "," (fields.map FieldPattern.display) ++ "\x7d"

/-- What a directive is about, as a text. -/
def scopeText (directive : Directive) : String :=
  directive.target.getD "" ++
    if directive.isDynamic then "[" ++ directive.span.getD "" ++ directive.fieldsText ++ "]" else ""

/-- The written form of a directive. -/
def display (directive : Directive) : String :=
  if directive.target.isSome || directive.isDynamic then
    directive.scopeText ++ "=" ++ directive.level.name
  else directive.level.name

/-- How specific a directive is: the bytes of its target, whether it names a span, and the number of
its fields. -/
def specificity (directive : Directive) : List Nat := [
  directive.target.elim 0 fun target => Utf8.size target.toList + 1,
  if directive.span.isSome then 1 else 0,
  directive.fields.length]

/-- What directives are about in order: first by how specific they are, and then by the target, the
span and the fields themselves. -/
def compareScope (a b : Directive) : Ordering :=
  (compare a.specificity b.specificity).then
    ((compare a.target b.target).then ((compare a.span b.span).then (compare a.fields b.fields)))

/-- Adds a directive to others that are ordered from the most specific one. It replaces the one that
is about the same. -/
def add (directive : Directive) : List Directive → List Directive
  | [] => [directive]
  | first :: rest =>
      match compareScope directive first with
      | .gt => directive :: first :: rest
      | .eq => directive :: rest
      | .lt => first :: add directive rest

end Directive

end SessionTokens.Logging
