import HandlerPipeline.Decimal.Fixed
import HandlerPipeline.Decimal.Nearest
import HandlerPipeline.Value.Literal

/-!
# Message templates

The message of a log line is a template with arguments. A template is read into pieces: text, and
conversions, each of which takes an argument and shows it

* as it is (`%s`), as a literal (`%r`), as a literal in ASCII (`%a`) or as a character (`%c`),
* as an integer in base ten, eight or sixteen (`%d`, `%o`, `%x`),
* as a decimal with fixed places (`%f`), with an exponent (`%e`), or in the shorter of these two
  forms (`%g`).

Between the percent sign and the letter a conversion may name its argument in brackets and say how
the shown text is laid out. Arguments are taken in order, or by name where the only argument is a
map. A template without arguments is the message itself.
-/

namespace HandlerPipeline.Log

/-! ## Templates -/

/-- How a conversion writes a double. -/
inductive DoubleForm where
  | fixed
  | exponent
  | shorter
  deriving DecidableEq, Repr

/-- What a conversion shows of its argument. -/
inductive Conversion where
  | display
  | literal
  | asciiLiteral
  | character
  | decimal
  | octal
  | hexadecimal (capital : Bool)
  | double (form : DoubleForm) (capital : Bool)
  deriving DecidableEq, Repr

/-- The conversion of a letter. -/
def Conversion.ofLetter? : Char → Option Conversion
  | 's' => some .display
  | 'r' => some .literal
  | 'a' => some .asciiLiteral
  | 'c' => some .character
  | 'd' | 'i' | 'u' => some .decimal
  | 'o' => some .octal
  | 'x' => some (.hexadecimal false)
  | 'X' => some (.hexadecimal true)
  | 'f' => some (.double .fixed false)
  | 'F' => some (.double .fixed true)
  | 'e' => some (.double .exponent false)
  | 'E' => some (.double .exponent true)
  | 'g' => some (.double .shorter false)
  | 'G' => some (.double .shorter true)
  | _ => none

/-- How a shown text is laid out. -/
structure Layout where
  /-- Blanks go behind the text and not before it. -/
  left : Bool
  /-- Numbers are filled with zeros and not with blanks. -/
  zeros : Bool
  /-- A number that is not negative has a plus sign. -/
  plus : Bool
  /-- A number that is not negative has a blank for a sign. -/
  blank : Bool
  /-- The base of an integer is shown, and the point of a double in any case. -/
  marked : Bool
  /-- The least number of characters. -/
  width : Nat
  /-- The most characters of a text, the least digits of an integer, or the places of a double. -/
  places? : Option Nat
  deriving DecidableEq, Repr

/-- The greatest width, and the greatest number of places, that a layout may ask for. -/
def Layout.maxSize : Nat := Nat.pow 2 31 - 1

/-- The layout of a conversion that asks for none. -/
def Layout.plain : Layout := ⟨false, false, false, false, false, 0, none⟩

/-- The layout with the flag that a character sets. -/
def Layout.flagged? (l : Layout) : Char → Option Layout
  | '-' => some { l with left := true }
  | '0' => some { l with zeros := true }
  | '+' => some { l with plus := true }
  | ' ' => some { l with blank := true }
  | '#' => some { l with marked := true }
  | _ => none

/-- A conversion as a template writes it. Its width and its places may be left to arguments of
their own, which stand before the one that is shown. -/
structure Directive where
  name? : Option String
  layout : Layout
  takesWidth : Bool
  takesPlaces : Bool
  deriving DecidableEq, Repr

/-- The conversion of which nothing but the percent sign has been read. -/
def Directive.opened : Directive := ⟨none, .plain, false, false⟩

/-- A piece of a template. -/
inductive Piece where
  | text (c : Char)
  | conversion (d : Directive) (k : Conversion)
  deriving DecidableEq, Repr

/-- The part of a conversion that is being read. -/
inductive Part where
  | start
  /-- The name of the argument, its characters so far from the last to the first; so many opening
  brackets in it have not been closed. -/
  | name (depth : Nat) (chars : List Char)
  | flags
  | width
  | afterWidth
  | firstPlace
  | places
  | afterPlaces
  | size
  deriving DecidableEq, Repr

/-- A conversion that is being read. -/
structure Draft where
  part : Part
  directive : Directive
  deriving DecidableEq, Repr

namespace Draft

/-- The draft with another layout, of which `part` is being read. -/
def laidOut (d : Draft) (part : Part) (layout : Layout) : Draft ⊕ Piece :=
  .inl ⟨part, { d.directive with layout }⟩

/-- Reads the letter that ends a conversion. -/
def letter? (d : Draft) (c : Char) : Option (Draft ⊕ Piece) :=
  (Conversion.ofLetter? c).map fun k => .inr (.conversion d.directive k)

/-- Reads a size, which says nothing, or the letter. -/
def sizeOr? (d : Draft) (c : Char) : Option (Draft ⊕ Piece) :=
  if c = 'h' ∨ c = 'l' ∨ c = 'L' then some (.inl { d with part := .size }) else d.letter? c

/-- Reads a digit of the places, or what may follow them. -/
def placeOr? (d : Draft) (c : Char) : Option (Draft ⊕ Piece) :=
  let layout := d.directive.layout
  if c.isDigit then
    let places := 10 * layout.places?.getD 0 + (c.toNat - 48)
    some (d.laidOut .places { layout with places? := some places })
  else d.sizeOr? c

/-- Reads the point before the places, or what may follow the width without places. -/
def pointOr? (d : Draft) (c : Char) : Option (Draft ⊕ Piece) :=
  if c = '.' then some (d.laidOut .firstPlace { d.directive.layout with places? := some 0 })
  else d.sizeOr? c

/-- Reads a digit of the width, or what may follow it. -/
def widthOr? (d : Draft) (c : Char) : Option (Draft ⊕ Piece) :=
  let layout := d.directive.layout
  if c.isDigit then
    some (d.laidOut .width { layout with width := 10 * layout.width + (c.toNat - 48) })
  else d.pointOr? c

/-- Reads a flag, or what may follow the flags. -/
def flagOr? (d : Draft) (c : Char) : Option (Draft ⊕ Piece) :=
  match d.directive.layout.flagged? c with
  | some layout => some (d.laidOut .flags layout)
  | none =>
    if c = '*' then some (.inl ⟨.afterWidth, { d.directive with takesWidth := true }⟩)
    else d.widthOr? c

/-- Reads a character of the name of the argument, up to the bracket that closes it. -/
def named (d : Draft) (depth : Nat) (chars : List Char) (c : Char) : Draft :=
  match c, depth with
  | ')', 0 => ⟨.flags, { d.directive with name? := some (String.ofList chars.reverse) }⟩
  | ')', depth + 1 => { d with part := .name depth (c :: chars) }
  | '(', depth => { d with part := .name (depth + 1) (c :: chars) }
  | _, _ => { d with part := .name depth (c :: chars) }

/-- Reads one character of a conversion: more of it is to come, or it is a piece. A second percent
sign at once stands for itself. -/
def read? (d : Draft) (c : Char) : Option (Draft ⊕ Piece) :=
  match d.part with
  | .start =>
    if c = '%' then some (.inr (.text '%'))
    else if c = '(' then some (.inl { d with part := .name 0 [] })
    else d.flagOr? c
  | .name depth chars => some (.inl (d.named depth chars c))
  | .flags => d.flagOr? c
  | .width => d.widthOr? c
  | .afterWidth => d.pointOr? c
  | .firstPlace =>
    if c = '*' then some (.inl ⟨.afterPlaces, { d.directive with takesPlaces := true }⟩)
    else d.placeOr? c
  | .places => d.placeOr? c
  | .afterPlaces => d.sizeOr? c
  | .size => d.letter? c

end Draft

/-- The pieces of a template, if it can be read; `draft?` is the conversion that is being read. -/
def piecesAfter? (draft? : Option Draft) : List Char → Option (List Piece)
  | [] => if draft?.isSome then none else some []
  | c :: rest =>
    match draft? with
    | none =>
      if c = '%' then piecesAfter? (some ⟨.start, .opened⟩) rest
      else (piecesAfter? none rest).map (.text c :: ·)
    | some draft =>
      match draft.read? c with
      | none => none
      | some (.inl draft') => piecesAfter? (some draft') rest
      | some (.inr piece) => (piecesAfter? none rest).map (piece :: ·)

/-- The pieces of a template, if it can be read. -/
def pieces? (template : List Char) : Option (List Piece) := piecesAfter? none template

/-! ## Conversions -/

/-- What a conversion shows, before it is laid out. -/
inductive Shown where
  | text (s : String)
  /-- A number: its sign, the mark of its base and its digits. -/
  | number (negative : Bool) (mark : String) (digits : List Char)
  deriving DecidableEq, Repr

/-- The integer that a value stands for as it is. -/
def exactInteger? : Value → Option Int
  | .bool b => some (if b then 1 else 0)
  | .int n => some n
  | _ => none

/-- The integer that a value shows as: a double drops its fraction. -/
def integer? : Value → Option Int
  | .float x => (Decimal.Parts.ofFloat x).truncated?
  | v => exactInteger? v

/-- The double that a value stands for; an integer beyond the doubles stands for none. -/
def double? : Value → Option Decimal.Parts
  | .float x => some (.ofFloat x)
  | v =>
    match exactInteger? v with
    | none => none
    | some n =>
      match Decimal.Parts.ofFloat (Decimal.nearest ⟨n.natAbs, 0⟩) with
      | .finite _ m q => some (.finite (n < 0) m q)
      | _ => none

/-- An integer in a base, with at least as many digits as the layout asks for. -/
def shownInteger (base : Nat) (mark : String) (layout : Layout) (n : Int) : Shown :=
  .number (n < 0) (if layout.marked then mark else "")
    (Decimal.zeroPadded (layout.places?.getD 0) (Nat.toDigits base n.natAbs))

/-- The number of places, unless the layout says it. -/
def defaultPlaces : Nat := 6

/-- The point that a number without places has in a marked layout. -/
def markedPoint (layout : Layout) (digits : List Char) : List Char :=
  if layout.marked && !digits.contains '.' then digits ++ ['.'] else digits

/-- The digits and the exponent of a decimal of `count` digits. -/
def exponentDigits (layout : Layout) (d : Decimal) (count : Nat) : List Char × List Char :=
  let digits := Decimal.zeroPadded count (Nat.toDigits 10 d.digits)
  (markedPoint layout (Decimal.withPoint (count - 1) digits),
    Decimal.exponentText (d.leadingExponent count))

/-- The least exponent that the shorter form writes with fixed places. -/
def leastFixedExponent : Int := -4

/-- The number `m · 2 ^ q` in a form. The shorter form counts significant digits and drops zeros at
their end, unless the layout is marked. -/
def doubleDigits (layout : Layout) (m : Nat) (q : Int) : DoubleForm → List Char
  | .fixed =>
    markedPoint layout (Decimal.fixedDigits m q (layout.places?.getD defaultPlaces))
  | .exponent =>
    let count := layout.places?.getD defaultPlaces + 1
    let (digits, exponent) := exponentDigits layout (Decimal.significant m q count) count
    digits ++ exponent
  | .shorter =>
    let count := max 1 (layout.places?.getD defaultPlaces)
    let d := Decimal.significant m q count
    let trimmed (digits : List Char) : List Char :=
      if layout.marked then digits else Decimal.withoutTrailingZeros digits
    let leading := d.leadingExponent count
    if leastFixedExponent ≤ leading ∧ leading < count then
      let places := ((count : Int) - 1 - leading).toNat
      let digits := Decimal.zeroPadded (places + 1) (Nat.toDigits 10 d.digits)
      trimmed (markedPoint layout (Decimal.withPoint places digits))
    else
      let (digits, exponent) := exponentDigits layout d count
      trimmed digits ++ exponent

/-- A double in a form. -/
def shownDouble (layout : Layout) (form : DoubleForm) : Decimal.Parts → Shown
  | .notANumber => .number false "" "nan".toList
  | .infinite negative => .number negative "" "inf".toList
  | .finite negative m q => .number negative "" (doubleDigits layout m q form)

/-- The digits of a number, in capital letters if asked for. -/
def Shown.capitalised (capital : Bool) : Shown → Shown
  | number negative mark digits =>
    number negative mark (if capital then digits.map Char.toUpper else digits)
  | s => s

/-- The start of a text, as long as the layout allows. -/
def shownText (layout : Layout) (s : String) : Shown :=
  match layout.places? with
  | some places => .text (String.ofList (s.toList.take places))
  | none => .text s

/-- The text with every character beyond ASCII written by its code point. -/
def inAscii (s : String) : String :=
  String.ofList (s.toList.flatMap fun c => if c.toNat < 0x80 then [c] else Text.codeEscape c)

/-- The character that a value stands for: a text of one character, or its code point. -/
def character? : Value → Option Char
  | .text s =>
    match s.toList with
    | [c] => some c
    | _ => none
  | v =>
    match exactInteger? v with
    | some (.ofNat n) => if n.isValidChar then some (Char.ofNat n) else none
    | _ => none

/-- What a conversion shows of a value. One that raises when it is shown has no such text, and an
integer of too many digits is not written in base ten. -/
def Conversion.show? (layout : Layout) (v : Value) : Conversion → Option Shown
  | display => v.display.toOption.map (shownText layout)
  | literal => v.literal.toOption.map (shownText layout)
  | asciiLiteral => v.literal.toOption.map fun shown => shownText layout (inAscii shown)
  | character => (character? v).map fun c => .text (String.singleton c)
  | decimal =>
    (integer? v).bind fun n => (Integer.text? n).map fun _ => shownInteger 10 "" layout n
  | octal => (exactInteger? v).map (shownInteger 8 "0o" layout)
  | hexadecimal capital =>
    (exactInteger? v).map fun n =>
      (shownInteger 16 (if capital then "0X" else "0x") layout n).capitalised capital
  | double form capital =>
    (double? v).map fun x => (shownDouble layout form x).capitalised capital

/-- The sign of a number in a layout. -/
def Layout.sign (l : Layout) (negative : Bool) : List Char :=
  if negative then ['-'] else if l.plus then ['+'] else if l.blank then [' '] else []

/-- Fills a text up to the width: behind it, before it, or with zeros before its `body`. -/
def Layout.filled (l : Layout) (zeros : Bool) (lead body : List Char) : List Char :=
  let missing := l.width - (lead ++ body).length
  if l.left then lead ++ body ++ List.replicate missing ' '
  else if zeros then lead ++ List.replicate missing '0' ++ body
  else List.replicate missing ' ' ++ lead ++ body

/-- Lays out what a conversion shows. Only numbers are filled with zeros. -/
def Layout.apply (l : Layout) : Shown → List Char
  | .text s => l.filled false [] s.toList
  | .number negative mark digits => l.filled l.zeros (l.sign negative ++ mark.toList) digits

/-! ## Messages -/

/-- Where conversions take their arguments from. -/
inductive Arguments where
  | inOrder (values : List Value)
  /-- The entries of a map; the map itself can be taken once, before any of them. -/
  | byName (entries : List (Value × Value)) (whole? : Option Value)

namespace Arguments

/-- The arguments of a template. -/
def ofList : List Value → Arguments
  | [.map (e :: rest)] => byName (e :: rest) (some (.map (e :: rest)))
  | values => inOrder values

/-- Takes an argument, and leaves the others. -/
def take? : Option String → Arguments → Option (Value × Arguments)
  | none, inOrder (v :: rest) => some (v, inOrder rest)
  | none, byName entries (some v) => some (v, byName entries none)
  | some name, byName entries _ =>
    (Value.lookup name entries).map fun v => (v, byName entries none)
  | _, _ => none

/-- Takes an integer that a layout asks for, if it does. -/
def takeSize? (asked : Bool) (args : Arguments) : Option (Option Int × Arguments) :=
  if asked then
    match args with
    | inOrder (v :: rest) =>
      match exactInteger? v with
      | some n => if n.natAbs ≤ Layout.maxSize then some (some n, inOrder rest) else none
      | none => none
    | _ => none
  else some (none, args)

/-- Arguments in order all have to be taken. -/
def mayRemain : Arguments → Bool
  | inOrder values => values.isEmpty
  | byName _ _ => true

end Arguments

/-- The layout with a width from an argument; a negative one asks for blanks behind the text. -/
def Layout.widened (l : Layout) : Option Int → Layout
  | some n => { l with width := n.natAbs, left := l.left || n < 0 }
  | none => l

/-- The layout with places from an argument. -/
def Layout.placed (l : Layout) : Option Int → Layout
  | some n => { l with places? := some n.toNat }
  | none => l

/-- The layout asks for no more than can be given. -/
def Layout.fits (l : Layout) : Bool := l.width ≤ maxSize && l.places?.getD 0 ≤ maxSize

/-- What a conversion becomes, and the arguments that it leaves. -/
def convert? (args : Arguments) (d : Directive) (k : Conversion) :
    Option (List Char × Arguments) := do
  let (width?, args) ← args.takeSize? d.takesWidth
  let (places?, args) ← args.takeSize? d.takesPlaces
  let (v, args) ← args.take? d.name?
  let layout := (d.layout.widened width?).placed places?
  guard layout.fits
  let shown ← k.show? layout v
  return (layout.apply shown, args)

/-- Fills pieces with arguments. -/
def fill? (args : Arguments) : List Piece → Option (List Char)
  | [] => if args.mayRemain then some [] else none
  | .text c :: rest => (fill? args rest).map (c :: ·)
  | .conversion d k :: rest =>
    match convert? args d k with
    | none => none
    | some (shown, others) => (fill? others rest).map (shown ++ ·)

/-- The message of a template with arguments, if they fit. -/
def message? (template : String) (args : List Value) : Option String :=
  match args with
  | [] => some template
  | _ =>
    match pieces? template.toList with
    | some pieces => (fill? (.ofList args) pieces).map String.ofList
    | none => none

example : message? "%s has %04d of %d%%" [.text "a", .int (-7), .int 9] =
    some "a has -007 of 9%" := by decide +kernel
example : message? "%(n)x" [.ofObject [("n", .int 255)]] = some "ff" := by decide +kernel
example : message? "%d" [] = some "%d" ∧ message? "%d" [.null] = none := by decide +kernel
example : message? "%*.*g|" [.int (-6), .int 3, .int 1250] = some "1.25e+03|" := by decide +kernel

end HandlerPipeline.Log
