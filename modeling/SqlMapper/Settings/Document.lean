/-!
# Documents

Settings are written as a JSON document. A document is read strictly: one value with white space
around it, no comments, no trailing commas, no number with a leading zero. Numbers are kept as they
are written, since only the reader of a field knows what numbers it takes. A text with an unpaired
surrogate has no characters; that is a fault only where the text is needed.
-/

namespace SqlMapper

/-- The value of a document. -/
inductive Document where
  /-- The null value. -/
  | null
  /-- A truth value. -/
  | bool (b : Bool)
  /-- A number as it is written. -/
  | number (literal : List Char)
  /-- A text; nothing when it has an unpaired surrogate. -/
  | text (s : Option String)
  /-- A list of values. -/
  | list (items : List Document)
  /-- Fields with their values, in order; a name may occur more than once. -/
  | object (fields : List (Option String × Document))
deriving Inhabited

namespace Document

/-- A reader of the start of a text gives what it read and the rest of the text. -/
abbrev Reader (α : Type) := List Char → Option (α × List Char)

/-- Holds of the characters that may stand around values. -/
def isSpace (c : Char) : Bool :=
  c == ' ' || c == '\t' || c == '\n' || c == '\r'

/-- The text without the space at its start. -/
def skipSpace (cs : List Char) : List Char :=
  cs.dropWhile isSpace

/-- The value of a hexadecimal digit. -/
def hexDigit? (c : Char) : Option Nat :=
  if '0' ≤ c ∧ c ≤ '9' then some (c.toNat - 48)
  else if 'a' ≤ c ∧ c ≤ 'f' then some (c.toNat - 87)
  else if 'A' ≤ c ∧ c ≤ 'F' then some (c.toNat - 55)
  else none

/-- Reads four hexadecimal digits. -/
def readCodeUnit : Reader Nat
  | a :: b :: c :: d :: rest => do
    let a ← hexDigit? a
    let b ← hexDigit? b
    let c ← hexDigit? c
    let d ← hexDigit? d
    some (a * 4096 + b * 256 + c * 16 + d, rest)
  | _ => none

/-- A piece of a text: a character, or half of one that is written as two code units. -/
inductive Piece where
  /-- A character. -/
  | char (c : Char)
  /-- A code unit that starts or ends a pair. -/
  | surrogate (unit : Nat)
deriving DecidableEq, Inhabited

/-- The piece that a code unit stands for. -/
def pieceOf (unit : Nat) : Piece :=
  if 0xD800 ≤ unit ∧ unit < 0xE000 then .surrogate unit else .char (Char.ofNat unit)

/-- Reads what follows a backslash. -/
def readEscape : Reader Piece
  | '\x22' :: rest => some (.char '\x22', rest)
  | '\\' :: rest => some (.char '\\', rest)
  | '/' :: rest => some (.char '/', rest)
  | 'b' :: rest => some (.char '\x08', rest)
  | 'f' :: rest => some (.char '\x0c', rest)
  | 'n' :: rest => some (.char '\n', rest)
  | 'r' :: rest => some (.char '\r', rest)
  | 't' :: rest => some (.char '\t', rest)
  | 'u' :: rest => (readCodeUnit rest).map (fun (unit, rest) => (pieceOf unit, rest))
  | _ => none

/-- Reads the pieces of a text up to its closing quote. -/
def readPieces : Nat → Reader (List Piece)
  | 0, _ => none
  | _ + 1, [] => none
  | fuel + 1, c :: rest =>
    if c = '\x22' then some ([], rest)
    else if c = '\\' then do
      let (piece, rest) ← readEscape rest
      let (others, rest) ← readPieces fuel rest
      some (piece :: others, rest)
    else if c.toNat < 0x20 then none
    else do
      let (others, rest) ← readPieces fuel rest
      some (.char c :: others, rest)

/-- The characters of a text, if its surrogates are paired. -/
def join : List Piece → Option (List Char)
  | [] => some []
  | .char c :: rest => (join rest).map (fun cs => c :: cs)
  | .surrogate high :: .surrogate low :: rest =>
    if high < 0xDC00 ∧ 0xDC00 ≤ low then
      (join rest).map (fun cs =>
        Char.ofNat (0x10000 + (high - 0xD800) * 0x400 + (low - 0xDC00)) :: cs)
    else none
  | .surrogate _ :: _ => none

/-- Reads a text after its opening quote. -/
def readText : Reader (Option String) := fun cs => do
  let (ps, rest) ← readPieces (cs.length + 1) cs
  some ((join ps).map String.ofList, rest)

/-- Reads digits, at least one. -/
def readDigits : Reader (List Char) := fun cs =>
  match cs.takeWhile Char.isDigit with
  | [] => none
  | ds => some (ds, cs.dropWhile Char.isDigit)

/-- Reads the whole part of a number: a zero alone, or digits that do not start with one. -/
def readWhole : Reader (List Char)
  | '0' :: rest => if (rest.head?.any Char.isDigit) then none else some (['0'], rest)
  | cs => readDigits cs

/-- Reads the fraction of a number, or nothing. -/
def readFraction : Reader (List Char)
  | '.' :: rest => (readDigits rest).map (fun (ds, rest) => ('.' :: ds, rest))
  | cs => some ([], cs)

/-- Reads the exponent of a number, or nothing. -/
def readExponent : Reader (List Char)
  | c :: rest =>
    if c = 'e' ∨ c = 'E' then
      match rest with
      | '+' :: rest => (readDigits rest).map (fun (ds, rest) => (c :: '+' :: ds, rest))
      | '-' :: rest => (readDigits rest).map (fun (ds, rest) => (c :: '-' :: ds, rest))
      | _ => (readDigits rest).map (fun (ds, rest) => (c :: ds, rest))
    else some ([], c :: rest)
  | [] => some ([], [])

/-- Reads a number. -/
def readNumber : Reader (List Char) := fun cs => do
  let (sign, cs) ← match cs with
    | '-' :: rest => some (['-'], rest)
    | _ => some ([], cs)
  let (whole, cs) ← readWhole cs
  let (fraction, cs) ← readFraction cs
  let (exponent, cs) ← readExponent cs
  some (sign ++ whole ++ fraction ++ exponent, cs)

/-- Reads a given word. -/
def readWord (expected : List Char) : Reader Unit := fun cs =>
  if expected.isPrefixOf cs then some ((), cs.drop expected.length) else none

mutual

/-- Reads a value, after space. -/
def readValue : Nat → Reader Document
  | 0, _ => none
  | fuel + 1, cs =>
    match skipSpace cs with
    | '\x7b' :: rest =>
      match skipSpace rest with
      | '\x7d' :: rest => some (.object [], rest)
      | rest => (readFields fuel rest).map (fun (fields, rest) => (.object fields, rest))
    | '[' :: rest =>
      match skipSpace rest with
      | ']' :: rest => some (.list [], rest)
      | rest => (readItems fuel rest).map (fun (items, rest) => (.list items, rest))
    | '\x22' :: rest => (readText rest).map (fun (s, rest) => (.text s, rest))
    | 'n' :: rest => (readWord ['u', 'l', 'l'] rest).map (fun ((), rest) => (.null, rest))
    | 't' :: rest => (readWord ['r', 'u', 'e'] rest).map (fun ((), rest) => (.bool true, rest))
    | 'f' :: rest => (readWord ['a', 'l', 's', 'e'] rest).map (fun ((), rest) => (.bool false, rest))
    | cs => (readNumber cs).map (fun (literal, rest) => (.number literal, rest))

/-- Reads the items of a list, at least one, and its closing bracket. -/
def readItems : Nat → Reader (List Document)
  | 0, _ => none
  | fuel + 1, cs => do
    let (item, rest) ← readValue fuel cs
    match skipSpace rest with
    | ',' :: rest => do
      let (others, rest) ← readItems fuel rest
      some (item :: others, rest)
    | ']' :: rest => some ([item], rest)
    | _ => none

/-- Reads the fields of an object, at least one, and its closing brace. -/
def readFields : Nat → Reader (List (Option String × Document))
  | 0, _ => none
  | fuel + 1, cs =>
    match skipSpace cs with
    | '\x22' :: rest => do
      let (name, rest) ← readText rest
      match skipSpace rest with
      | ':' :: rest => do
        let (item, rest) ← readValue fuel rest
        match skipSpace rest with
        | ',' :: rest => do
          let (others, rest) ← readFields fuel rest
          some ((name, item) :: others, rest)
        | '\x7d' :: rest => some ([(name, item)], rest)
        | _ => none
      | _ => none
    | _ => none

end

/-- The value a text writes, if it is a document. Every nested value takes at least one character,
so the length of the text bounds the depth of the reading. -/
def ofText? (s : String) : Option Document :=
  let cs := s.toList
  match readValue (cs.length + 1) cs with
  | some (document, rest) => if skipSpace rest = [] then some document else none
  | none => none

end Document

end SqlMapper
