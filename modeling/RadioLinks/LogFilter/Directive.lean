import RadioLinks.LogFilter.Level
import RadioLinks.LogFilter.Value
import RadioLinks.Text.Utf8
/-!
# Directives of a log filter

A directive sets the level of the messages from one target, inside one span, or
with one field: `target[span{field=value}]=level`. Each part may be missing.
-/

namespace RadioLinks.LogFilter

/-- A field that a message must have, perhaps with a given value. -/
structure Field where
  name : String
  value : Option Value
  deriving DecidableEq, Repr, Inhabited

/-- A level, and the messages it is for. -/
structure Directive where
  target : Option String
  span : Option String
  field : Option Field
  level : Level
  deriving DecidableEq, Repr, Inhabited

namespace Field

/-- Read a field. Its value stands between the first equals sign and the
second. -/
def ofText? (text : String) : Option Field :=
  let cs := text.toList
  let name := String.ofList (cs.takeWhile (· ≠ '='))
  match cs.dropWhile (· ≠ '=') with
  | [] => some ⟨name, none⟩
  | _ :: value =>
      (Value.ofText? (String.ofList (value.takeWhile (· ≠ '=')))).map fun value =>
        ⟨name, some value⟩

def text (field : Field) : String :=
  match field.value with
  | none => field.name
  | some value => field.name ++ "=" ++ value.text

/-- A field with a value is greater than one without. -/
def order (a b : Field) : Ordering :=
  (compare a.value.isSome b.value.isSome).then <|
  (compare a.name b.name).then <|
  match a.value, b.value with
  | some a, some b => a.order b
  | _, _ => .eq

end Field

/-- A place in a directive: the byte that stands there when the blanks around
the directive are gone, and the byte that stands there while they are kept. -/
structure Place where
  mark : UInt8
  content : UInt8
  deriving DecidableEq, Repr, Inhabited

/-- A directive that is being read. Its parts end where a mark stands in the
text without blanks around it, and are cut at these places from the whole text.
So each blank in front shifts the parts by one, and the last part gets the bytes
of the whole text that are past the last place. -/
structure Source where
  places : List Place
  overhang : Bytes
  deriving DecidableEq, Repr, Inhabited

namespace Source

def ofText (text : String) : Source :=
  let marks := Text.bytes (Text.trimmed text)
  let content := Text.bytes text
  ⟨List.zipWith Place.mk marks content, content.drop marks.length⟩

/-- Take what stands before the first of some marks. The answer has the mark
too, unless none is there. -/
def upTo (marks : List Char) (source : Source) : String × Option Char × Source :=
  let ends (place : Place) : Bool := marks.any fun mark => mark.toUInt8 = place.mark
  let part := Text.ofBytes ((source.places.takeWhile (!ends ·)).map (·.content))
  match source.places.dropWhile (!ends ·) with
  | [] => (part, none, { source with places := [] })
  | place :: rest => (part, some (Char.ofUInt8 place.mark), { source with places := rest })

def remainder (source : Source) : String :=
  Text.ofBytes (source.places.map (·.content) ++ source.overhang)

/-- Take a mark that must stand here. -/
def expect? (mark : Char) (source : Source) : Option Source :=
  match source.places with
  | place :: rest =>
      if place.mark = mark.toUInt8 then some { source with places := rest } else none
  | [] => none

/-- Read the level that ends a directive. No level at all lets everything
through. -/
def level? (source : Source) : Option Level :=
  if source.remainder.isEmpty then some .trace else Level.ofText? source.remainder

/-- Read what may follow a span: nothing, or a level. -/
def levelAfterSpan? (source : Source) : Option Level :=
  if source.places.isEmpty then some .trace else (source.expect? '=').bind level?

/-- Read a span and its field from behind the opening bracket. -/
def span? (target : Option String) (source : Source) : Option Directive :=
  match source.upTo [']', '{'] with
  | (name, some ']', rest) => do
      pure ⟨target, some name, none, ← rest.levelAfterSpan?⟩
  | (name, some '{', rest) =>
      match rest.upTo ['}'] with
      | (field, some _, rest) => do
          guard !field.isEmpty
          let rest ← rest.expect? ']'
          let span := if name.isEmpty then none else some name
          pure ⟨target, span, some (← Field.ofText? field), ← rest.levelAfterSpan?⟩
      | _ => none
  | _ => none

end Source

namespace Directive

/-- What may begin a target or a level. -/
def isStart (c : Char) : Bool := ['-', ':', '_'].contains c || Text.isLetterOrNumber c

/-- Read a directive. A word alone is a level if there is such a level, and
otherwise a target that is let through in full. -/
def ofText? (text : String) : Option Directive := do
  let first ← (Text.trimmed text).toList.head?
  let source := Source.ofText text
  if first = '[' then (source.expect? '[').bind (Source.span? none)
  else if isStart first then
    match source.upTo ['=', '['] with
    | (target, some '=', rest) => do pure ⟨some target, none, none, ← rest.level?⟩
    | (target, some '[', rest) => rest.span? (some target)
    | _ =>
        match Level.ofText? source.remainder with
        | some level => some ⟨none, none, none, level⟩
        | none => some ⟨some source.remainder, none, none, .trace⟩
  else none

def text (directive : Directive) : String :=
  let field := match directive.field with
    | none => ""
    | some field => "\x7b" ++ field.text ++ "\x7d"
  let inner := if directive.span.isNone && directive.field.isNone then ""
    else "[" ++ directive.span.getD "" ++ field ++ "]"
  let subject := directive.target.getD "" ++ inner
  if directive.target.isNone && inner.isEmpty then directive.level.name
  else subject ++ "=" ++ directive.level.name

/-- Whether a directive can be decided without knowing the spans and values of
a message. -/
def isStatic (directive : Directive) : Bool :=
  directive.span.isNone && (directive.field.bind (·.value)).isNone

/-- Whether a directive asks about a span or a field. -/
def isDynamic (directive : Directive) : Bool := directive.span.isSome || directive.field.isSome

/-- More specific directives are greater: first by the length of their target,
then by what else they ask for, and then by their parts. The level does not
matter. -/
def order (a b : Directive) : Ordering :=
  (compare (a.target.map String.utf8ByteSize) (b.target.map String.utf8ByteSize)).then <|
  (compare a.span.isSome b.span.isSome).then <|
  (compare a.field.isSome b.field.isSome).then <|
  (compare a.target b.target).then <|
  (compare a.span b.span).then <|
  match a.field, b.field with
  | some a, some b => a.order b
  | _, _ => .eq

end Directive

end RadioLinks.LogFilter
