import RadioLinks.LogFilter.Directive
import RadioLinks.Text.Pieces
/-!
# The log filter

A filter is a list of directives, separated by commas. Those that cannot be read
are left out, and when none remains only errors are let through. The level in
the configuration is for the messages of the multiplexer itself.
-/

namespace RadioLinks

/-- The directives that are in force, the most specific ones first. No two of
one list are for the same messages. -/
structure LogFilter where
  static : List LogFilter.Directive
  dynamic : List LogFilter.Directive
  deriving DecidableEq, Repr, Inhabited

namespace LogFilter

/-- Put a directive in its place among others. It replaces one that is for the
same messages. -/
def insert (directive : Directive) : List Directive → List Directive
  | [] => [directive]
  | other :: rest =>
      match directive.order other with
      | .gt => directive :: other :: rest
      | .eq => directive :: rest
      | .lt => other :: insert directive rest

/-- Put directives in order, later ones over earlier ones. -/
def ordered (directives : List Directive) : List Directive :=
  directives.foldl (fun sorted directive => insert directive sorted) []

/-- What is in force when there are no directives. -/
def fallback : Directive := ⟨none, none, none, .error⟩

/-- The filter of some directives. One that asks for a field but not for a value
is in both lists. -/
def ofDirectives (directives : List Directive) : LogFilter :=
  if directives.isEmpty then ⟨[fallback], []⟩
  else ⟨ordered (directives.filter (·.isStatic)), ordered (directives.filter (·.isDynamic))⟩

def ofText (text : String) : LogFilter :=
  ofDirectives ((Text.pieces ',' text.toList).filterMap fun piece =>
    Directive.ofText? (String.ofList piece))

def text (filter : LogFilter) : String :=
  ",".intercalate ((filter.static ++ filter.dynamic).map (·.text))

/-- The filter for a configured level. The level is not checked, so it may hold
further directives behind a comma. -/
def ofLevel (level : String) : LogFilter := ofText ("netmux=" ++ level)

end LogFilter

end RadioLinks
