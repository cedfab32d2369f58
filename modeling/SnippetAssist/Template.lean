import SnippetAssist.Position

/-!
# Templates and tab stops

A template is the text a snippet inserts. A marker in it is a dollar sign followed by a run of
decimal digits whose value fits 32 bits (leading zeros allowed); the value is the marker's stop
number. A dollar sign whose digits are missing or too large is plain text, and so are its digits.

Each marker is a tab stop: the stop number, the line of the template it stands on, and the byte
column just after it. The stops are listed with the final stop `$0` last and the others by
number, markers of one number in the order of the text.

Expanding a template replaces each marker whose number has a value, reading left to right; the
text that replaced a marker is never read again.
-/

namespace SnippetAssist

namespace Template

/-- The largest stop number: stop numbers fit 32 unsigned bits. -/
def stopLimit : Nat := 4294967295

/-- An ASCII decimal digit. -/
def isDigit (c : Char) : Bool := '0' ≤ c && c ≤ '9'

/-- The value of a run of decimal digits. -/
def digitsValue (ds : List Char) : Nat := ds.foldl (fun n d => n * 10 + (d.toNat - '0'.toNat)) 0

/-- A marker after its dollar sign: the stop number and the number of its digits. -/
structure Marker where
  stop : Nat
  width : Nat

/-- The marker whose digits start `rest`, the text after a dollar sign. -/
def markerAfter? (rest : List Char) : Option Marker :=
  let ds := rest.takeWhile isDigit
  if ds.isEmpty then none
  else
    let v := digitsValue ds
    if v ≤ stopLimit then some ⟨v, ds.length⟩ else none

end Template

/-- A place to stop at after inserting a template: the stop number, the template line it is on,
and the byte column just after its marker on that line. -/
structure TabStop where
  stop : Nat
  lineOffset : Nat
  column : Nat
deriving DecidableEq, Repr

namespace TabStop

/-- The final stop, where the cursor rests when the template is done. -/
def isFinal (t : TabStop) : Bool := t.stop == 0

/-- The stop's position inside the template. -/
def relative (t : TabStop) : Position := ⟨t.lineOffset, t.column⟩

/-- The stop's position in the document, the template inserted at `origin`. -/
def absolute (t : TabStop) (origin : Position) : Position := t.relative.relativeTo origin

/-- Stops are visited by number, the final stop last. -/
def visitsBefore (a b : TabStop) : Bool :=
  if a.stop == 0 then b.stop == 0 else b.stop == 0 || a.stop ≤ b.stop

end TabStop

namespace Template

/-- The markers of `cs` in text order, as tab stops; `line` and `col` give where `cs` starts.
After a dollar sign the scan goes on with its digits, which hold no marker, line feed or
character wider than a byte, so the columns after a marker come out the same. -/
def markersFrom (line col : Nat) : List Char → List TabStop
  | [] => []
  | '\n' :: rest => markersFrom (line + 1) 0 rest
  | '$' :: rest =>
    match markerAfter? rest with
    | some m => ⟨m.stop, line, col + 1 + m.width⟩ :: markersFrom line (col + 1) rest
    | none => markersFrom line (col + 1) rest
  | c :: rest => markersFrom line (col + c.utf8Size) rest

/-- The tab stops of a template in the order they are visited. -/
def tabStops (template : String) : List TabStop :=
  (markersFrom 0 0 template.toList).mergeSort TabStop.visitsBefore

/-- `cs` with each marker whose stop has a value in `values` replaced by that value. -/
def expandChars (values : Nat → Option String) : List Char → List Char
  | [] => []
  | '$' :: rest =>
    match markerAfter? rest with
    | some m =>
      match values m.stop with
      | some v => v.toList ++ expandChars values (rest.drop m.width)
      | none => '$' :: expandChars values rest
    | none => '$' :: expandChars values rest
  | c :: rest => c :: expandChars values rest
termination_by cs => cs.length
decreasing_by all_goals (simp only [List.length_cons, List.length_drop]; omega)

/-- The template with each marker whose stop has a value replaced by that value. -/
def expand (template : String) (values : Nat → Option String) : String :=
  String.ofList (expandChars values template.toList)

end Template

end SnippetAssist
