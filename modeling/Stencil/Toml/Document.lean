import Stencil.Toml.Scalar
import Stencil.Toml.Table

/-!
Documents in TOML: lines that write values under keys, and headers that say which table the following
lines belong to.
-/

namespace Stencil.Toml

/-- Skips white space, line breaks and comments between the items of an array. -/
def skipLines (inComment : Bool) : List Char → Except Fault (List Char)
  | [] => .ok []
  | c :: rest =>
    if inComment then
      if c == '\n' then skipLines false rest
      else if isControl c then .error .malformed
      else skipLines true rest
    else if isSpace c || c == '\n' then skipLines false rest
    else if c == '#' then skipLines true rest
    else .ok (c :: rest)

/-- Reads a key, the sign of equality, and the spaces after it. -/
def keyAndSign (s : List Char) : Except Fault (List String × List Char) := do
  let (path, rest) ← key s
  match rest with
  | '=' :: rest => return (path, skipSpace rest)
  | _ => throw .malformed

/-- A result that may be missing, the lack of it being a fault. -/
def orMalformed {α : Type} : Option α → Except Fault α
  | some a => .ok a
  | none => .error .malformed

mutual

/-- Reads a value. The first argument bounds the depth and length of what is read. -/
def value (room : Nat) (s : List Char) : Except Fault (Value × List Char) :=
  match room, s with
  | 0, _ => .error .malformed
  | _, '"' :: '"' :: '"' :: rest => do
    let (body, rest) ← withExtraQuotes '"' (quoted true .plain (dropFirstBreak rest))
    return (.str (String.ofList body), rest)
  | _, '"' :: rest => do
    let (body, rest) ← quoted false .plain rest
    return (.str (String.ofList body), rest)
  | _, '\'' :: '\'' :: '\'' :: rest => do
    let (body, rest) ← withExtraQuotes '\'' (literalLines (dropFirstBreak rest))
    return (.str (String.ofList body), rest)
  | _, '\'' :: rest => do
    let (body, rest) ← literal rest
    return (.str (String.ofList body), rest)
  | _, 't' :: 'r' :: 'u' :: 'e' :: rest => .ok (.bool true, rest)
  | _, 'f' :: 'a' :: 'l' :: 's' :: 'e' :: rest => .ok (.bool false, rest)
  | room + 1, '[' :: rest => do
    let (items, rest) ← arrayItems room (← skipLines false rest)
    return (.list items, rest)
  | room + 1, '{' :: rest =>
    match skipSpace rest with
    | '}' :: rest => .ok (.map [], rest)
    | rest => do
      let (table, rest) ← inlineEntries room [] rest
      return (.map (entryValues table), rest)
  | _, s => scalar s

/-- Reads the items of an array and its closing bracket. -/
def arrayItems (room : Nat) (s : List Char) : Except Fault (List Value × List Char) :=
  match room, s with
  | _, ']' :: rest => .ok ([], rest)
  | 0, _ => .error .malformed
  | room + 1, s => do
    let (item, rest) ← value room s
    match ← skipLines false rest with
    | ']' :: rest => return ([item], rest)
    | ',' :: rest =>
      let (items, rest) ← arrayItems room (← skipLines false rest)
      return (item :: items, rest)
    | _ => throw .malformed

/-- Reads the entries of an inline table and its closing brace. -/
def inlineEntries (room : Nat) (table : Table) (s : List Char) : Except Fault (Table × List Char) :=
  match room with
  | 0 => .error .malformed
  | room + 1 => do
    let (path, rest) ← keyAndSign s
    let (v, rest) ← value room rest
    let table ← orMalformed (table.assign v path)
    match skipSpace rest with
    | '}' :: rest => return (table, rest)
    | ',' :: rest => inlineEntries room table (skipSpace rest)
    | _ => throw .malformed

end

/-- A document that has been read up to some line: its tables, the table that the next lines belong
to, and the tables that those lines have opened by keys of several parts. -/
structure Draft where
  root : Table := []
  header : List String := []
  opened : List (List String) := []

/-- Closes the tables that keys of several parts have opened; a header may not declare them again. -/
def Draft.settle (draft : Draft) : Draft :=
  { draft with
    root := draft.opened.foldl (fun root path => (root.close path).getD root) draft.root
    opened := [] }

/-- The tables that a key of several parts runs through, below the current one. -/
def passed (header path : List String) : List (List String) :=
  (List.range (path.length - 1)).map fun i => header ++ path.take (i + 1)

/-- Writes a value under a key of the current table. A key may not reach into a declared table. -/
def Draft.assign (draft : Draft) (path : List String) (v : Value) : Option Draft :=
  let onTheWay := passed draft.header path
  if onTheWay.any fun path => Table.isDeclared path draft.root then none
  else do
    let root ← draft.root.assign v (draft.header ++ path)
    return { draft with root, opened := draft.opened ++ onTheWay }

/-- Reads a header. -/
def Draft.header? (draft : Draft) (s : List Char) : Except Fault (Draft × List Char) := do
  let draft := draft.settle
  match s with
  | '[' :: rest =>
    let (path, rest) ← key (skipSpace rest)
    let root ← orMalformed (draft.root.append path)
    match rest with
    | ']' :: ']' :: rest => return ({ draft with root, header := path }, rest)
    | _ => throw .malformed
  | rest =>
    let (path, rest) ← key (skipSpace rest)
    let root ← orMalformed (draft.root.declare path)
    match rest with
    | ']' :: rest => return ({ draft with root, header := path }, rest)
    | _ => throw .malformed

/-- Reads what stands on a line before a comment. -/
def Draft.statement (draft : Draft) (s : List Char) : Except Fault (Draft × List Char) :=
  match s with
  | [] => .ok (draft, [])
  | c :: rest =>
    if c == '\n' || c == '#' then .ok (draft, c :: rest)
    else if c == '[' then draft.header? rest
    else do
      let (path, rest) ← keyAndSign s
      let (v, rest) ← value (rest.length + 1) rest
      return (← orMalformed (draft.assign path v), rest)

/-- Skips a comment, which runs up to the end of the line. -/
def skipComment (s : List Char) : Except Fault (List Char) :=
  match s with
  | '#' :: rest =>
    if (rest.takeWhile (· != '\n')).any isControl then .error .malformed
    else .ok (rest.dropWhile (· != '\n'))
  | s => .ok s

/-- Reads the lines of a document, at most `room` of them. -/
def Draft.lines (room : Nat) (draft : Draft) (s : List Char) : Except Fault Draft :=
  match room with
  | 0 => .ok draft
  | room + 1 => do
    let (draft, rest) ← draft.statement (skipSpace s)
    match ← skipComment (skipSpace rest) with
    | [] => return draft
    | '\n' :: rest => Draft.lines room draft rest
    | _ => throw .malformed

/-- A text with every carriage return before a line feed left out. -/
def joinBreaks : List Char → List Char
  | '\r' :: '\n' :: rest => '\n' :: joinBreaks rest
  | c :: rest => c :: joinBreaks rest
  | [] => []

/-- Reads a document as a map. -/
def read (source : String) : Except Fault Value := do
  let s := joinBreaks source.toList
  let draft ← Draft.lines (s.length + 1) {} s
  return .map (entryValues draft.root)

end Stencil.Toml
