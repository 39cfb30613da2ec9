import HandlerPipeline.Reference.Parse

/-!
# References by their grammar

The same texts are read token by token, by the grammar

    start: SEGMENT (SEP SEGMENT)+
    SEP: "/" | "."
    SEGMENT: /[^.\/\s]+/

The lexer cuts a text into tokens, up to the first character that belongs to no terminal (`lex`), and
the parser shifts one token after the other (`Stack.run`). Of the tree that is left, the last two
tokens are checked (`Tree.read`). An error is handed on as a description with a column (`Report`).
-/

namespace HandlerPipeline.Reference

/-- A token of the terminal `SEGMENT`, and the column it begins in. -/
structure Segment where
  text : List Char
  column : Nat
  deriving DecidableEq, Repr

/-- A token of the terminal `SEP`, and its column. -/
structure Separator where
  char : Char
  column : Nat
  deriving DecidableEq, Repr

/-- A token of either terminal. -/
inductive Token where
  | segment (s : Segment)
  | separator (x : Separator)
  deriving DecidableEq, Repr

namespace Token

/-- The text of the token. -/
def text : Token → List Char
  | segment s => s.text
  | separator x => [x.char]

/-- The column the token begins in. -/
def column : Token → Nat
  | segment s => s.column
  | separator x => x.column

end Token

/-! ## The lexer -/

/-- What the lexer makes of a text: tokens, and the character it stops at, if it does. -/
structure Lexed where
  tokens : List Token
  stop : Option (Char × Nat)
  deriving DecidableEq, Repr

namespace Lexed

/-- A token before the others. -/
def cons (token : Token) (lexed : Lexed) : Lexed := { lexed with tokens := token :: lexed.tokens }

/-- A character of a segment before the tokens. Since a segment is as long as it can be, the
character belongs to the segment that begins right behind it. -/
def consChar (c : Char) (column : Nat) (lexed : Lexed) : Lexed :=
  match lexed.tokens with
  | .segment s :: rest => { lexed with tokens := .segment ⟨c :: s.text, column⟩ :: rest }
  | _ => lexed.cons (.segment ⟨[c], column⟩)

end Lexed

/-- The tokens of a text whose first character is in `column`. -/
def lex (column : Nat) : List Char → Lexed
  | [] => ⟨[], none⟩
  | c :: rest =>
    if Text.isBlank c then ⟨[], some (c, column)⟩
    else if isSeparator c then (lex (column + 1) rest).cons (.separator ⟨c, column⟩)
    else (lex (column + 1) rest).consChar c column

/-! ## The parser -/

/-- Segments with separators between them. -/
inductive Joined where
  | segment (s : Segment)
  | join (before : Joined) (x : Separator) (s : Segment)
  deriving DecidableEq, Repr

/-- The text of the tokens. -/
def Joined.text : Joined → List Char
  | segment s => s.text
  | join before x s => before.text ++ x.char :: s.text

/-- A sentence of the grammar: the last separator and segment, and what is joined before them. -/
structure Tree where
  path : Joined
  separator : Separator
  last : Segment
  deriving DecidableEq, Repr

/-- What keeps a text from being a sentence: a character of no terminal, or a token, or the end of
the text, where the grammar allows none. -/
inductive Unexpected where
  | character (c : Char) (column : Nat)
  | token (token : Token)
  | theEnd
  deriving DecidableEq, Repr

/-- What the parser has shifted: nothing, joined segments, or a separator behind them. -/
inductive Stack where
  | empty
  | joined (p : Joined)
  | joining (p : Joined) (x : Separator)
  deriving DecidableEq, Repr

namespace Stack

/-- Shifts a token, where the grammar allows it. -/
def shift : Stack → Token → Option Stack
  | empty, .segment s => some (joined (.segment s))
  | joined p, .separator x => some (joining p x)
  | joining p x, .segment s => some (joined (.join p x s))
  | _, _ => none

/-- Shifts the tokens of a text. They all stand before the character the lexer stops at. -/
def run (stack : Stack) (stop : Option (Char × Nat)) : List Token → Except Unexpected Stack
  | [] =>
    match stop with
    | some (c, column) => .error (.character c column)
    | none => .ok stack
  | token :: rest =>
    match stack.shift token with
    | some stack => stack.run stop rest
    | none => .error (.token token)

/-- The sentence that was shifted, where the text may end. Behind a single segment it may not. -/
def tree : Stack → Except Unexpected Tree
  | joined (.join p x s) => .ok ⟨p, x, s⟩
  | _ => .error .theEnd

end Stack

/-- The sentence a text is. -/
def parse (text : List Char) : Except Unexpected Tree := do
  let lexed := lex 1 text
  let stack ← Stack.empty.run lexed.stop lexed.tokens
  stack.tree

example : parse "a/b.c".toList =
    .ok ⟨.join (.segment ⟨['a'], 1⟩) ⟨'/', 2⟩ ⟨['b'], 3⟩, ⟨'.', 4⟩, ⟨['c'], 5⟩⟩ := by rfl

/-! ## What is reported -/

/-- An error as it is handed on: a description, and the column of the defect if it has one. -/
structure Report where
  description : String
  column? : Option Nat
  deriving DecidableEq, Repr

/-- What is handed on of a defect. -/
def SyntaxError.report (e : SyntaxError) : Report := ⟨e.description, e.column?⟩

/-- What is missing at the end of a text. Its last character tells: behind a separator it is the
export, behind a single segment everything but the module path. -/
def endError (text : List Char) : SyntaxError :=
  if text.getLast?.any isSeparator then .missingExport else .bareName

/-- What is handed on of a text that is no sentence. -/
def Unexpected.report (text : List Char) : Unexpected → Report
  | character c column => ⟨"unexpected character " ++ Text.quote (String.singleton c), some column⟩
  | token t => ⟨"empty path segment before " ++ Text.quote (String.ofList t.text), some t.column⟩
  | theEnd => (endError text).report

/-- Checks the last two tokens of a sentence. -/
def Tree.read (tree : Tree) : Except SyntaxError Reference :=
  let name := String.ofList tree.last.text
  if tree.separator.char ≠ '.' then .error (.undotted tree.separator.column)
  else if !Text.isName name then .error (.badExport name tree.last.column)
  else .ok ⟨String.ofList tree.path.text, name⟩

/-- Reads a reference by the grammar. -/
def readSentence (text : List Char) : Except Report Reference :=
  if text.isEmpty then .error SyntaxError.empty.report
  else
    match parse text with
    | .error unexpected => .error (unexpected.report text)
    | .ok tree => tree.read.mapError SyntaxError.report

end HandlerPipeline.Reference
