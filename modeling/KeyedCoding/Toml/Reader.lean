import KeyedCoding.Toml.Scalar

/-!
# Reading TOML documents

A document is a sequence of lines: headers, and keys with values. A value in brackets or braces may
go over several lines.

## Main definitions

* `Toml.readValue`: a value.
* `Toml.Table.ofText?`: the table that a document spells.
-/

namespace KeyedCoding.Toml

/-! ### Blanks and keys -/

/-- Drop a comment, which ends with its line. -/
def skipComment (source : List Char) : List Char :=
  match source with
  | '#' :: rest => rest.dropWhile isPlain
  | _ => source

/-- Drop the blanks and the comment at the end of a line, which must follow. -/
def endLine (source : List Char) : Option (List Char) :=
  match skipComment (skipLineBlanks source) with
  | [] => some []
  | rest => takeNewline rest

/-- Drop blanks, line breaks and comments, at most `fuel` of these. -/
def skipLines : Nat → List Char → List Char
  | 0, source => source
  | fuel + 1, source =>
    match skipSpace source with
    | '#' :: rest => skipLines fuel (rest.dropWhile isPlain)
    | rest => rest

/-- Whether a character may stand in a key without quotes. -/
def isBareKey (c : Char) : Bool := c.isAlphanum || c == '_' || c == '-'

/-- A key without dots, and the text after it. -/
def readSimpleKey (source : List Char) : Option (String × List Char) :=
  match source with
  | '"' :: '"' :: '"' :: _ => none
  | '\'' :: '\'' :: '\'' :: _ => none
  | '"' :: _ => readQuoted source
  | '\'' :: _ => readQuoted source
  | _ =>
    match source.takeWhile isBareKey with
    | [] => none
    | key => some (String.ofList key, source.dropWhile isBareKey)

/-- A dotted key as a path and its last key, and the text after it with its blanks dropped. -/
def readKey : Nat → List Char → Option ((List String × String) × List Char)
  | 0, _ => none
  | fuel + 1, source =>
    match readSimpleKey (skipLineBlanks source) with
    | none => none
    | some (key, rest) =>
      match skipLineBlanks rest with
      | '.' :: rest =>
        (readKey fuel rest).map fun ((path, last), rest) => ((key :: path, last), rest)
      | rest => some (([], key), rest)

/-! ### Values -/

/-- Whether a character ends a scalar without quotes. -/
def endsWord (c : Char) : Bool := " \t\r\n,]\x7d#=\"\x27[\x7b".toList.contains c

/-- A scalar without quotes as a word, and the text after it. A date and the time after it make one
word. -/
def takeWord (source : List Char) : List Char × List Char :=
  let word := source.takeWhile (!endsWord ·)
  match takeDate word, source.dropWhile (!endsWord ·) with
  | some [], ' ' :: c :: rest =>
    if c.isDigit then
      (word ++ ' ' :: (c :: rest).takeWhile (!endsWord ·), (c :: rest).dropWhile (!endsWord ·))
    else (word, ' ' :: c :: rest)
  | _, rest => (word, rest)

/-- How many arrays and tables may contain each other. -/
def maxDepth : Nat := 80

mutual

/-- A value, and the text after it: at most `depth` arrays and tables deep, in at most `fuel`
steps. -/
def readValue : Nat → Nat → List Char → Option (Value × List Char)
  | 0, _, _ => none
  | fuel + 1, depth, source =>
    match source with
    | '[' :: rest =>
      match depth with
      | 0 => none
      | depth + 1 =>
        (readElements fuel depth rest).map fun (elements, rest) => (.array elements, rest)
    | '{' :: rest =>
      match depth with
      | 0 => none
      | depth + 1 =>
        (readEntries fuel depth [] rest).map fun (entries, rest) => (.table .inline entries, rest)
    | '"' :: _ => (readQuoted source).map fun (value, rest) => (.string value, rest)
    | '\'' :: _ => (readQuoted source).map fun (value, rest) => (.string value, rest)
    | _ =>
      let (word, rest) := takeWord source
      (Value.ofWord? word).map fun value => (value, rest)

/-- The elements of an array up to its closing bracket. -/
def readElements : Nat → Nat → List Char → Option (List Value × List Char)
  | 0, _, _ => none
  | fuel + 1, depth, source =>
    match skipLines fuel source with
    | ']' :: rest => some ([], rest)
    | source =>
      match readValue fuel depth source with
      | none => none
      | some (element, rest) =>
        match skipLines fuel rest with
        | ']' :: rest => some ([element], rest)
        | ',' :: rest =>
          (readElements fuel depth rest).map fun (elements, rest) => (element :: elements, rest)
        | _ => none

/-- The entries of a table in braces up to its closing brace, after those that have been read. -/
def readEntries : Nat → Nat → Table → List Char → Option (Table × List Char)
  | 0, _, _, _ => none
  | fuel + 1, depth, entries, source =>
    match skipLines fuel source with
    | '}' :: rest => some (entries, rest)
    | source =>
      match readKey fuel source with
      | some ((path, key), '=' :: rest) =>
        match readValue fuel depth (skipLineBlanks rest) with
        | none => none
        | some (value, rest) =>
          match entries.put path key value with
          | none => none
          | some entries =>
            match skipLines fuel rest with
            | '}' :: rest => some (entries, rest)
            | ',' :: rest => readEntries fuel depth entries rest
            | _ => none
      | _ => none

end

/-! ### Documents -/

/-- The header of a table, and the text after its line. In double brackets it names an element. -/
def readHeader (fuel : Nat) (source : List Char) :
    Option ((Bool × List String × String) × List Char) :=
  match source with
  | '[' :: '[' :: rest =>
    match readKey fuel rest with
    | some ((path, key), ']' :: ']' :: rest) =>
      (endLine rest).map fun rest => ((true, path, key), rest)
    | _ => none
  | '[' :: rest =>
    match readKey fuel rest with
    | some ((path, key), ']' :: rest) => (endLine rest).map fun rest => ((false, path, key), rest)
    | _ => none
  | _ => none

/-- The lines of a document below a header, given the table of the lines before them, in at most
`fuel` steps. -/
def readDocument : Nat → List String → Table → List Char → Option Table
  | 0, _, _, _ => none
  | fuel + 1, header, entries, source =>
    match skipLines fuel source with
    | [] => some entries
    | '[' :: rest =>
      match readHeader fuel ('[' :: rest) with
      | none => none
      | some ((isElement, path, key), rest) =>
        let opened :=
          if isElement then entries.openElement path key else entries.openTable path key
        match opened with
        | some entries => readDocument fuel (path ++ [key]) entries rest
        | none => none
    | source =>
      match readKey fuel source with
      | some ((path, key), '=' :: rest) =>
        match readValue fuel maxDepth (skipLineBlanks rest) with
        | none => none
        | some (value, rest) =>
          match endLine rest, entries.putBelow header path key value with
          | some rest, some entries => readDocument fuel header entries rest
          | _, _ => none
      | _ => none

/-- Drop the mark that tells the order of bytes. -/
def skipByteOrderMark : List Char → List Char
  | '\uFEFF' :: rest => rest
  | source => source

/-- The table that a document spells. -/
def Table.ofText? (source : String) : Option Table :=
  let source := skipByteOrderMark source.toList
  readDocument (2 * source.length + 2) [] [] source

end KeyedCoding.Toml
