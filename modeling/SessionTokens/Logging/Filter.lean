import SessionTokens.Database.Error
import SessionTokens.Logging.Directive

/-! # Log filters

A filter is a list of directives, separated by commas. They are kept from the most to the least
specific one, and a later directive replaces an earlier one for the same events.
-/

namespace SessionTokens.Logging

open Text

/-- The directives of a filter, from the most specific one: those that can be decided at once, and
those that are about spans or fields. -/
structure Filter where
  statics : List Directive
  dynamics : List Directive
  deriving DecidableEq, Repr

/-- A text that is no filter, and why. -/
structure FilterFailure where
  text : String
  cause : FilterError
  deriving DecidableEq, Repr

/-- A text that is no filter is a fault of the configuration. -/
def FilterFailure.toInfrastructure (failure : FilterFailure) : InfrastructureError :=
  .configuration s!"Invalid log filter '{failure.text}': {failure.cause.message}"

namespace Filter

/-- The filter of directives. -/
def ofDirectives (directives : List Directive) : Filter :=
  let dynamics := directives.filter Directive.isDynamic
  let plain := directives.filter fun d => !d.isDynamic
  let ordered (ds : List Directive) : List Directive := ds.foldl (fun ds d => d.add ds) []
  ⟨ordered (plain ++ dynamics.filter Directive.isStatic), ordered dynamics⟩

/-- Reads directives up to the first that is none. -/
def readAll : List (List Char) → Except FilterError (List Directive)
  | [] => .ok []
  | text :: rest =>
      match Directive.read text with
      | .error e => .error e
      | .ok directive => (readAll rest).map (directive :: ·)

/-- Reads a filter. Nothing between two commas is no directive. -/
def read (text : String) : Except FilterError Filter :=
  (readAll ((splitAll ',' text.toList).filter fun part => !part.isEmpty)).map ofDirectives

/-- The written form of a filter. -/
def display (filter : Filter) : String :=
  String.intercalate "," ((filter.statics ++ filter.dynamics).map Directive.display)

/-- The filter of the preferred text, or of the configured level where that is missing or blank. -/
def build (preferred : Option String) (level : String) : Except FilterFailure Filter :=
  let chosen := (preferred.filter fun text => !(trim text.toList).isEmpty).getD level
  (read chosen).mapError (⟨chosen, ·⟩)

end Filter

end SessionTokens.Logging
