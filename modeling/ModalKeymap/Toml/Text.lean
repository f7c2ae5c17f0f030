import ModalKeymap.Text.Hexadecimal
import ModalKeymap.Toml.Reading

/-!
# Texts in TOML

Quoted texts come in four forms: with or without escapes, on one line or over
several.  A text over several lines ends at three quotation marks, of which
up to two more may stand directly in front and belong to the text.
-/

namespace ModalKeymap.Toml

/-- The character that one letter after a backslash stands for. -/
def escapeOf? : Char → Option Char
  | 'b' => some '\x08'
  | 't' => some '\t'
  | 'n' => some '\n'
  | 'f' => some '\x0c'
  | 'r' => some '\r'
  | '"' => some '"'
  | '\\' => some '\\'
  | _ => none

/-- The character with a given code point in so many hexadecimal digits. -/
def readCodePoint (width : Nat) (text : List Char) :
    Except ReadFault (Front (List Char)) :=
  let digits := text.take width
  if digits.length ≠ width then
    malformed
  else
    match Text.ofHexDigits? digits with
    | some code =>
        if code.isValidChar then
          .ok ([Char.ofNat code], text.drop width)
        else
          malformed
    | none => malformed

/--
The text behind a backslash at the end of a line: the line break and all
spacing and line breaks after it are left out.
-/
def skipLineEnd (text : List Char) : Except ReadFault (Front (List Char)) :=
  match skipSpacing text with
  | [] => .ok ([], [])
  | '\n' :: rest =>
      .ok ([], rest.dropWhile fun character =>
        isSpacing character || character = '\n')
  | _ => malformed

/-- What an escape stands for, read behind its backslash. -/
def readEscape (multiline : Bool) :
    List Char → Except ReadFault (Front (List Char))
  | 'u' :: rest => readCodePoint 4 rest
  | 'U' :: rest => readCodePoint 8 rest
  | letter :: rest =>
      if multiline && (isSpacing letter || letter = '\n') then
        skipLineEnd (letter :: rest)
      else
        match escapeOf? letter with
        | some character => .ok ([character], rest)
        | none => malformed
  | [] => malformed

/--
The rest of a text with escapes, up to its closing quotation marks, behind
the part that has been read, in reverse.
-/
def readEscaped (multiline : Bool) (fuel : Nat) (done : List Char)
    (text : List Char) : Except ReadFault (Front (List Char)) :=
  match fuel, text with
  | fuel + 1, '"' :: rest =>
      if multiline then
        match after? ['"', '"'] rest with
        | some behind => .ok (done.reverse, behind)
        | none => readEscaped multiline fuel ('"' :: done) rest
      else
        .ok (done.reverse, rest)
  | fuel + 1, '\\' :: rest => do
      let (characters, behind) ← readEscape multiline rest
      readEscaped multiline fuel (characters.reverse ++ done) behind
  | fuel + 1, character :: rest =>
      if isForbidden character && !(multiline && character = '\n') then
        malformed
      else
        readEscaped multiline fuel (character :: done) rest
  | _, _ => malformed

/-- A literal text on one line, read behind its opening mark. -/
def readLiteralLine (text : List Char) : Except ReadFault (Front (List Char)) :=
  let body := text.takeWhile (· ≠ '\'')
  match text.dropWhile (· ≠ '\'') with
  | [] => malformed
  | _ :: rest =>
      if body.any isForbidden then malformed else .ok (body, rest)

/-- The parts of a text before and behind three marks in a row. -/
def cutAtTriple? (mark : Char) : List Char → Option (List Char × List Char)
  | [] => none
  | character :: rest =>
      match after? [mark, mark, mark] (character :: rest) with
      | some behind => some ([], behind)
      | none =>
          (cutAtTriple? mark rest).map fun parts =>
            (character :: parts.1, parts.2)

/-- A literal text over several lines, read behind its opening marks. -/
def readLiteralLines (text : List Char) :
    Except ReadFault (Front (List Char)) :=
  match cutAtTriple? '\'' text with
  | none => malformed
  | some (body, rest) =>
      if body.any fun character =>
          isForbidden character && character ≠ '\n' then
        malformed
      else
        .ok (body, rest)

/-- Up to two marks behind the end of a text that still belong to it. -/
def trailingMarks (mark : Char) (body : List Char) :
    List Char → List Char × List Char
  | first :: second :: rest =>
      if first = mark && second = mark then
        (body ++ [mark, mark], rest)
      else if first = mark then
        (body ++ [mark], second :: rest)
      else
        (body, first :: second :: rest)
  | [last] => if last = mark then (body ++ [mark], []) else (body, [last])
  | [] => (body, [])

/-- A text without the line break in front. -/
def skipLineBreak : List Char → List Char
  | '\n' :: rest => rest
  | text => text

/-- A text with escapes on one line, read behind its opening mark. -/
def readEscapedLine (text : List Char) : Except ReadFault (Front (List Char)) :=
  readEscaped false (text.length + 1) [] text

/-- A quoted text of any form, with its opening mark in front. -/
def readText (text : List Char) : Except ReadFault (Front String) := do
  let (body, rest) ← match text with
    | '"' :: '"' :: '"' :: inside => do
        let start := skipLineBreak inside
        let (body, rest) ← readEscaped true (start.length + 1) [] start
        pure (trailingMarks '"' body rest)
    | '"' :: inside => readEscapedLine inside
    | '\'' :: '\'' :: '\'' :: inside => do
        let (body, rest) ← readLiteralLines (skipLineBreak inside)
        pure (trailingMarks '\'' body rest)
    | '\'' :: inside => readLiteralLine inside
    | _ => malformed
  return (String.ofList body, rest)

/-- A character of a key that needs no quotation marks. -/
def isBare (character : Char) : Bool :=
  character.isAlphanum || character = '-' || character = '_'

/-- One part of a dotted key. -/
def readKeyPart (text : List Char) : Except ReadFault (Front String) :=
  match text with
  | '"' :: inside => do
      let (body, rest) ← readEscapedLine inside
      return (String.ofList body, rest)
  | '\'' :: inside => do
      let (body, rest) ← readLiteralLine inside
      return (String.ofList body, rest)
  | first :: rest =>
      if isBare first then
        .ok (String.ofList (first :: rest.takeWhile isBare),
          rest.dropWhile isBare)
      else
        malformed
  | [] => malformed

/-- The parts of a dotted key after the first. -/
def readMoreKeyParts (fuel : Nat) (text : List Char) :
    Except ReadFault (Front (List String)) :=
  match fuel, skipSpacing text with
  | fuel + 1, '.' :: rest => do
      let (part, behind) ← readKeyPart (skipSpacing rest)
      let (more, behind) ← readMoreKeyParts fuel behind
      return (part :: more, behind)
  | _, rest => .ok ([], rest)

/-- A dotted key with the spacing behind it: its first part and the others. -/
def readKey (text : List Char) :
    Except ReadFault (Front (String × List String)) := do
  let (first, behind) ← readKeyPart text
  let (more, rest) ← readMoreKeyParts (behind.length + 1) behind
  return ((first, more), rest)

end ModalKeymap.Toml
