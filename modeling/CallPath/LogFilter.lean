import CallPath.Event
import CallPath.Pattern.Text
/-!
# Log filters

A filter decides by level and target what is logged. It is a list of directives separated by
commas, such as `warn,tracepath=debug`: a level for everything, or for targets that start with a
given text. Of the directives that apply to a target the one with the longest text counts; of two
for the same text one that asks for a field counts more, and else the later one. A directive may
also name a span or ask for the value of a field; such a directive says nothing about what is
logged outside of spans.
-/

namespace CallPath

/-- How much is logged: everything up to a level, or nothing. -/
abbrev Verbosity := Option LogLevel

/-- The number of levels a verbosity lets through. -/
def Verbosity.count : Verbosity → Nat
  | none => 0
  | some .error => 1
  | some .warn => 2
  | some .info => 3
  | some .debug => 4
  | some .trace => 5

namespace Verbosity

/-- All verbosities, by the number of levels they let through. -/
def all : List Verbosity :=
  [none, some .error, some .warn, some .info, some .debug, some .trace]

/-- The name of a verbosity, in lower case. -/
def name : Verbosity → String
  | none => "off"
  | some .error => "error"
  | some .warn => "warn"
  | some .info => "info"
  | some .debug => "debug"
  | some .trace => "trace"

/-- Reads a number, which may have a plus sign and leading zeros. -/
def number? (s : String) : Option Nat :=
  let digits := match s.toList with
    | '+' :: cs => cs
    | cs => cs
  if digits ≠ [] && digits.all Char.isDigit then
    some (digits.foldl (fun n c => n * 10 + (c.toNat - '0'.toNat)) 0)
  else none

/-- Reads a verbosity: its number, or its name in any case. -/
def ofText? (s : String) : Option Verbosity :=
  match number? s with
  | some n => all[n]?
  | none => all.find? fun v => v.name = String.ofList (s.toList.map Char.toLower)

end Verbosity

/-- One directive of a filter. -/
structure LogDirective where
  /-- What the targets start with that it is about; `none` for all targets. -/
  target : Option String := none
  /-- The fields it asks for. -/
  fields : List String := []
  verbosity : Verbosity := some .trace
  /-- Whether it is about spans only. -/
  aboutSpans : Bool := false
  deriving DecidableEq, Repr

namespace LogDirective

/-! ## Reading -/

/-- Whether a text is a number, with or without sign, point and exponent, or one of the words for
an infinite number and for none. -/
def isNumber (text : String) : Bool :=
  let cs := match text.toList with
    | '+' :: cs | '-' :: cs => cs
    | cs => cs
  let whole := cs.takeWhile Char.isDigit
  let (fraction, rest) := match cs.dropWhile Char.isDigit with
    | '.' :: cs => (cs.takeWhile Char.isDigit, cs.dropWhile Char.isDigit)
    | cs => ([], cs)
  ["inf", "infinity", "nan"].contains (String.ofList (cs.map Char.toLower)) ||
    (whole ++ fraction ≠ [] && isExponent rest)
where
  /-- Whether the text is an exponent or empty. -/
  isExponent : List Char → Bool
    | [] => true
    | e :: cs =>
      let digits := match cs with
        | '+' :: cs | '-' :: cs => cs
        | cs => cs
      (e = 'e' || e = 'E') && digits ≠ [] && digits.all Char.isDigit

/-- Whether a text may be asked for as the value of a field: a number or a usable pattern. -/
def isFieldValue (text : String) : Bool :=
  isNumber text || (Pattern.ofText? text).any Pattern.isUsable

/-- The directive that also asks for a field, and for the value after an equals sign. -/
def addField (d : LogDirective) (text : String) : Option LogDirective :=
  match text.splitOn "=" with
  | name :: value :: _ =>
    if isFieldValue value then some { d with fields := d.fields ++ [name], aboutSpans := true }
    else none
  | _ => if text = "" then none else some { d with fields := d.fields ++ [text] }

/-- The directive with the verbosity that a text asks for; everything if it is empty. -/
def withVerbosity (d : LogDirective) (text : String) : Option LogDirective :=
  if text = "" then some { d with verbosity := some .trace }
  else (Verbosity.ofText? text).map fun v => { d with verbosity := v }

/-- A verbosity for everything, or everything for a target. -/
def ofWord (word : String) : LogDirective :=
  match Verbosity.ofText? word with
  | some v => { verbosity := v }
  | none => { target := some word }

/-- Where in a directive a reader is, with the offset at which a part of it started. -/
inductive Stage where
  | start
  /-- In a level or a target. -/
  | word (start : Nat)
  | span (start : Nat)
  | field (start : Nat)
  | afterField
  | afterSpan
  | level (start : Nat)
  deriving DecidableEq, Repr

/-- The bytes of a text between two offsets. -/
def cut (text : String) (start stop : Nat) : Option String :=
  String.fromUTF8? (text.toUTF8.extract start stop)

/-- Whether a target or a level may start with the character. -/
def startsWord (c : Char) : Bool :=
  c = '-' || c = ':' || c = '_' || Text.isAlphanumeric c

/-- Reads one character, which is at an offset. -/
def readChar (text : String) (c : Char) (offset : Nat) (d : LogDirective) :
    Stage → Option (LogDirective × Stage)
  | .start =>
    if c = '[' then some (d, .span (offset + 1))
    else if startsWord c then some (d, .word offset)
    else none
  | .word start =>
    if c = '=' then do return ({ d with target := ← cut text start offset }, .level (offset + 1))
    else if c = '[' then do return ({ d with target := ← cut text start offset }, .span (offset + 1))
    else some (d, .word start)
  | .span start =>
    if c = ']' then some ({ d with aboutSpans := true }, .afterSpan)
    else if c = '\x7b' then do
      let name ← cut text start offset
      return ({ d with aboutSpans := name ≠ "" }, .field (offset + 1))
    else some (d, .span start)
  | .field start =>
    if c = '\x7d' then do return (← d.addField (← cut text start offset), .afterField)
    else some (d, .field start)
  | .afterField => if c = ']' then some (d, .afterSpan) else none
  | .afterSpan => if c = '=' then some (d, .level (offset + 1)) else none
  | .level start => some (d, .level start)

/-- Reads characters, the first of which is at an offset. -/
def readChars (text : String) : List Char → Nat → LogDirective → Stage →
    Option (LogDirective × Stage)
  | [], _, d, stage => some (d, stage)
  | c :: cs, offset, d, stage => do
    let (d, stage) ← readChar text c offset d stage
    readChars text cs (offset + c.utf8Size) d stage

/-- Reads a directive. Space around it is passed over when its characters are read, but not when
its parts are cut out: the offsets in the trimmed text are used for the text as it is. So a
directive with space in front has other parts than it seems to have. -/
def ofText? (text : String) : Option LogDirective := do
  let (d, stage) ← readChars text (Text.trimBlank text.toList) 0 {} .start
  match stage with
  | .word start => return ofWord (← cut text start text.utf8ByteSize)
  | .level start => d.withVerbosity (← cut text start text.utf8ByteSize)
  | .afterSpan => return d
  | _ => none

/-! ## Which directive counts -/

/-- Whether the directive is about a target. -/
def appliesTo (d : LogDirective) (target : String) : Bool :=
  !d.aboutSpans && (d.target.elim true fun t => t.toList.isPrefixOf target.toList)

/-- How specific the directive is about targets. -/
def weight (d : LogDirective) : Nat :=
  d.target.elim 0 fun t => t.utf8ByteSize + 1

/-- Whether a directive counts less than another one: it is less specific about targets, or about
fields, or the names of its fields come first. -/
def countsLess (d e : LogDirective) : Bool :=
  d.weight < e.weight || (d.weight = e.weight &&
    (d.fields.length < e.fields.length ||
      (d.fields.length = e.fields.length && decide (d.fields < e.fields))))

end LogDirective

/-- A filter of what is logged. -/
structure LogFilter where
  directives : List LogDirective := []
  deriving DecidableEq, Repr

namespace LogFilter

/-- The texts of the directives of a filter. -/
def parts (text : String) : List String :=
  (text.splitOn ",").filter (· ≠ "")

/-- Reads a filter, every directive of which must be well formed. -/
def ofText? (text : String) : Option LogFilter :=
  ((parts text).mapM LogDirective.ofText?).map LogFilter.mk

/-- Reads a filter and passes over directives that are malformed. -/
def ofWellFormed (text : String) : LogFilter :=
  ⟨(parts text).filterMap LogDirective.ofText?⟩

/-- The filter in effect: the one that the environment asks for, if it is well formed, or warnings
of everything and the library's own messages up to a level. -/
def inEffect (requested : Option String) (level : String) : LogFilter :=
  (requested.bind ofText?).getD (ofWellFormed ("warn,tracepath=" ++ level))

/-- The directive of two that counts, or the second if neither counts less. -/
def moreSpecific (best : Option LogDirective) (d : LogDirective) : Option LogDirective :=
  match best with
  | some b => if d.countsLess b then some b else some d
  | none => some d

/-- How much of a target is logged. -/
def verbosity (f : LogFilter) (target : String) : Verbosity :=
  ((f.directives.filter (·.appliesTo target)).foldl moreSpecific none).bind LogDirective.verbosity

end LogFilter

/-- The log of a process: the filter of whoever installed it first. -/
structure LogSetup where
  filter : Option LogFilter := none
  deriving DecidableEq, Repr

namespace LogSetup

/-- Installs a filter, unless one is installed; tells whether it was. -/
def install (l : LogSetup) (f : LogFilter) : Bool × LogSetup :=
  match l.filter with
  | none => (true, ⟨some f⟩)
  | some _ => (false, l)

/-- How much of a target is logged. -/
def verbosity (l : LogSetup) (target : String) : Verbosity :=
  l.filter.bind fun f => f.verbosity target

end LogSetup

end CallPath
