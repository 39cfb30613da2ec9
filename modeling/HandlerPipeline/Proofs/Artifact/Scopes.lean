import HandlerPipeline.Proofs.Artifact.Pieces

/-!
# The names that an artifact looks up

The fixed text of an artifact is scanned into words and signs, these are cut into statements, and
the statements make functions. When a function runs, it looks a word up outside of itself unless the
word is a parameter, is bound by a statement of the function, is an attribute, names an argument of
a call, or is reserved. What is found there is defined at the top level of the artifact, or else
comes with the language.

The scan knows as much of the language as the text uses. Literals stand between double marks and
hold no escapes, a statement goes on while a bracket is open, and a block is indented deeper than the
statement that heads it.
-/

namespace HandlerPipeline

namespace Scopes

open Text (Token)

/-! ## Statements -/

/-- The words and signs of a source, without its literals. The scan stands inside a literal or
not. -/
def scan : Bool → List Char → List Token
  | _, [] => []
  | inside, c :: rest =>
    if c = '"' then scan (!inside) rest
    else if inside then scan inside rest
    else if ModulePath.isBindingChar c then
      match scan inside rest with
      | .word name :: ts => .word (c :: name) :: ts
      | ts => .word [c] :: ts
    else .sign c :: scan inside rest

/-- The number of open brackets behind a token. -/
def depthBehind (depth : Nat) : Token → Nat
  | .sign '(' | .sign '[' => depth + 1
  | .sign ')' | .sign ']' => depth - 1
  | _ => depth

/-- Cuts tokens at the line ends outside of brackets; `seen` are those of the statement that has
begun, the last one first. -/
def cut (depth : Nat) (seen : List Token) : List Token → List (List Token)
  | [] => [seen.reverse]
  | t :: rest =>
    if t ≠ .sign '\n' then cut (depthBehind depth t) (t :: seen) rest
    else if depth = 0 then seen.reverse :: cut depth [] rest
    else cut depth seen rest

/-- A statement: how far it is indented, and its words and signs other than spaces. -/
structure Statement where
  indent : Nat
  tokens : List Token

/-- The statements of a source. -/
def statements (source : List Char) : List Statement :=
  ((cut 0 [] (scan false source)).map fun ts =>
    ⟨(ts.takeWhile (· = .sign ' ')).length, ts.filter (· ≠ .sign ' ')⟩).filter
      (!·.tokens.isEmpty)

/-! ## Names -/

/-- The word that a token is. -/
def word? : Token → Option (List Char)
  | .word name => some name
  | _ => none

/-- The names that an assignment binds: words joined by commas, before the equals sign and the type
that may stand between. -/
def assigned (ts : List Token) : List (List Char) :=
  let targets := ts.takeWhile fun t => t ≠ .sign '=' && t ≠ .sign ':'
  if ts.contains (.sign '=') && targets.all (fun t => (word? t).isSome || t = .sign ',') then
    targets.filterMap word?
  else []

/-- The names that a statement binds behind the words `for` and `as`. -/
def introduced : List Token → List (List Char)
  | t :: u :: rest =>
    (if t = .word ['f', 'o', 'r'] || t = .word ['a', 's'] then (word? u).toList else []) ++
      introduced (u :: rest)
  | _ => []

/-- The names that a statement binds: those that it imports, the class or the function that it
defines, or those that it assigns or introduces. -/
def bound : List Token → List (List Char)
  | .word ['i', 'm', 'p', 'o', 'r', 't'] :: .word name :: _
  | .word ['c', 'l', 'a', 's', 's'] :: .word name :: _
  | .word ['d', 'e', 'f'] :: .word name :: _
  | .word ['a', 's', 'y', 'n', 'c'] :: .word ['d', 'e', 'f'] :: .word name :: _ => [name]
  | .word ['f', 'r', 'o', 'm'] :: rest =>
    (rest.dropWhile (· ≠ .word ['i', 'm', 'p', 'o', 'r', 't'])).tail.filterMap word?
  | ts => assigned ts ++ introduced ts

/-- The names that a statement reads or binds; `inside` tells that a dot stands before, so that the
name is one of an attribute. -/
def mentioned (depth : Nat) (inside : Bool) : List Token → List (List Char)
  | [] => []
  | .word name :: rest =>
    let isArgument := depth ≠ 0 && rest.head? = some (.sign '=')
    (if inside || isArgument then [] else [name]) ++ mentioned depth false rest
  | t :: rest => mentioned (depthBehind depth t) (t = .sign '.') rest

/-- The parameters of a function, from the tokens of its head; `begins` tells that a parameter may
stand here. -/
def parameters (depth : Nat) (begins : Bool) : List Token → List (List Char)
  | [] => []
  | .word name :: rest =>
    (if begins && depth = 1 then [name] else []) ++ parameters depth false rest
  | t :: rest =>
    parameters (depthBehind depth t) (t = .sign '(' || t = .sign ',' || t = .sign '*') rest

/-! ## Functions -/

/-- A function: its head and the statements of its block. -/
structure Function where
  head : List Token
  body : List Statement

/-- The statement heads a function. -/
def Statement.isHead (s : Statement) : Bool :=
  match s.tokens with
  | .word ['d', 'e', 'f'] :: _ | .word ['a', 's', 'y', 'n', 'c'] :: .word ['d', 'e', 'f'] :: _ =>
    true
  | _ => false

/-- The functions among statements. -/
def functions : List Statement → List Function
  | [] => []
  | s :: rest =>
    if s.isHead then ⟨s.tokens, rest.takeWhile (s.indent < ·.indent)⟩ :: functions rest
    else functions rest

/-- The words that a function looks up outside of itself, apart from the reserved ones. -/
def Function.outer (f : Function) : List (List Char) :=
  let own := parameters 0 false f.head ++ f.body.flatMap (bound ·.tokens)
  (f.body.flatMap (mentioned 0 false ·.tokens)).filter (!own.contains ·)

/-- The names that the functions of a source look up outside of themselves. -/
def lookedUp (source : List Char) : List String :=
  (((functions (statements source)).flatMap Function.outer).eraseDups.map String.ofList).filter
    (!Text.isKeyword ·)

/-- The names that a source defines at its top level. -/
def topLevel (source : List Char) : List String :=
  (((statements source).filter (·.indent = 0)).flatMap (bound ·.tokens)).map String.ofList

example : lookedUp "def f(x):\n    y = g(x.z, key=h)\n    return y\n".toList = ["g", "h"] := by
  decide +kernel

end Scopes

namespace Artifact

/-! ## The fixed text -/

/-- The lines of code that every artifact of the variant has; it gives its import base in one of
them. -/
def frame (variant : Variant) (importBase : String) : List String :=
  ChainSource.lines ++ preamble importBase variant ++ table variant [] ++ entryLines variant

/-- The text of lines, each of them ended. -/
def endedText (ls : List (List Char)) : List Char := ls.flatMap (· ++ ['\n'])

/-- The characters of the fixed text. -/
def frameText (variant : Variant) : List Char :=
  endedText ((frame variant "").map String.toList)

/-- The names that the chain, the loader and the entry points look up when they run. -/
def lookedUpNames (variant : Variant) : List String := Scopes.lookedUp (frameText variant)

/-- The names that an artifact defines for itself. -/
def definedNames (variant : Variant) : List String := Scopes.topLevel (frameText variant)

/-- The names that are looked up and come with the language. -/
def languageNames : Variant → List String
  | .plain => ["isinstance", "dict", "setattr", "Exception", "ImportError"]
  | .typed => ["isinstance", "dict", "setattr", "Exception"]

variable {variant : Variant}

/-- An artifact has the lines of the fixed text, in their order. -/
theorem frame_sublist (variant : Variant) (importBase : String) (p : Pipeline)
    (bs : List (String × String)) :
    (frame variant importBase).Sublist (lines variant importBase p bs) := by
  rw [frame, lines, moduleLines_eq]
  have hchain : ChainSource.lines.Sublist
      (header variant p.functionName ++ ChainSource.lines ++ sectionHead "Handler modules") :=
    (List.sublist_append_right ..).trans (List.sublist_append_left ..)
  have hmodules : (preamble importBase variant).Sublist
      (preamble importBase variant ++ bs.map (moduleLine variant) ++ sectionHead "Pipeline") :=
    (List.sublist_append_left ..).trans (List.sublist_append_left ..)
  have htable : (table variant []).Sublist (table variant p.steps) :=
    .cons_cons _ (List.sublist_append_right ..)
  rw [List.append_assoc _ (preamble importBase variant ++ _)]
  exact ((hchain.append hmodules).append htable).append (.refl _)

/-! ## What is looked up, and what is defined

The fixed text is long, and a character far down in it is slow to reach. So its lines are first
given as characters, one line after the other, and the scan runs over these. -/

/-- Texts that are written one behind the other are their characters. -/
theorem toList_append_of {a b : String} {cs ds : List Char} (ha : a.toList = cs)
    (hb : b.toList = ds) : (a ++ b).toList = cs ++ ds := by
  rw [String.toList_append, ha, hb]

/-- Lines are their characters when the first one and the others are. -/
theorem map_toList_cons_of {l : String} {ls : List String} {cs : List Char}
    {css : List (List Char)} (hl : l.toList = cs) (hls : ls.map String.toList = css) :
    (l :: ls).map String.toList = cs :: css := by
  rw [List.map_cons, hl, hls]

/-- An empty import base is written as two marks. -/
theorem toList_quote_empty : (Text.quote "").toList = ['\'', '\''] := by decide +kernel

/-- The names are those of the characters of the lines. -/
theorem names_of_toList {css : List (List Char)} {looked defined : List String}
    (hcss : (frame variant "").map String.toList = css)
    (hnames : Scopes.lookedUp (endedText css) = looked ∧
      Scopes.topLevel (endedText css) = defined) :
    lookedUpNames variant = looked ∧ definedNames variant = defined := by
  rwa [lookedUpNames, definedNames, frameText, hcss]

/-- The names of a plain artifact. -/
theorem names_plain :
    lookedUpNames .plain =
      ["types", "isinstance", "dict", "setattr", "Stopped", "inspect", "Exception", "Failed",
        "Succeeded", "checkpoint", "logger", "settle", "ExecutionControl", "ChainState", "advance",
        "unwrap", "asyncio", "run_chain", "os", "SERVICE_ROOT", "importlib", "ImportError", "sys",
        "run_chain_sync", "STEPS"] ∧
    definedNames .plain =
      ChainSource.definedNames ++ ["importlib", "os", "sys", "SERVICE_ROOT", "load_module", "STEPS",
        "handler", "async_handler"] := by
  apply names_of_toList
  · simp only [frame, ChainSource.lines, ChainSource.imports, ChainSource.states,
      ChainSource.control, ChainSource.phases, ChainSource.entries, preamble, loader, table,
      tableHead, entryLines, List.cons_append, List.nil_append, List.flatMap_nil]
    repeat' with_reducible first
      | apply map_toList_cons_of
      | exact List.map_nil
      | exact toList_quote_empty
      | apply toList_append_of
      | exact String.toList_ofList
  · decide +kernel

/-- The names of a typed artifact. -/
theorem names_typed :
    lookedUpNames .typed =
      ["types", "isinstance", "dict", "setattr", "Stopped", "inspect", "Exception", "Failed",
        "Succeeded", "checkpoint", "logger", "settle", "ExecutionControl", "ChainState", "advance",
        "unwrap", "asyncio", "run_chain", "run_chain_sync", "STEPS"] ∧
    definedNames .typed =
      ChainSource.definedNames ++ ["importlib", "ModuleType", "Any", "Sequence", "STEPS", "handler",
        "async_handler"] := by
  apply names_of_toList
  · simp only [frame, ChainSource.lines, ChainSource.imports, ChainSource.states,
      ChainSource.control, ChainSource.phases, ChainSource.entries, preamble, importer, table,
      tableHead, entryLines, List.cons_append, List.nil_append, List.flatMap_nil]
    repeat' with_reducible first
      | apply map_toList_cons_of
      | exact List.map_nil
      | apply toList_append_of
      | exact String.toList_ofList
  · decide +kernel

/-- **What is looked up is defined by the artifact or comes with the language**, and what comes with
the language is looked up. -/
theorem mem_languageNames_iff {name : String} :
    name ∈ languageNames variant ↔ name ∈ lookedUpNames variant ∧ name ∉ definedNames variant := by
  have hfilter : (lookedUpNames variant).filter (!(definedNames variant).contains ·) =
      languageNames variant := by
    cases variant
    · rw [names_plain.1, names_plain.2]
      decide +kernel
    · rw [names_typed.1, names_typed.2]
      decide +kernel
  rw [← hfilter, List.mem_filter]
  simp

/-- What an artifact defines for itself is reserved. -/
theorem definedNames_subset_reservedNames : definedNames variant ⊆ reservedNames := by
  cases variant
  · rw [names_plain.2]
    decide +kernel
  · rw [names_typed.2]
    decide +kernel

end Artifact

end HandlerPipeline
