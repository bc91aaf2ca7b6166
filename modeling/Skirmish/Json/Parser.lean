import Skirmish.Json

/-!
# Reading JSON

`Json.parse?` reads a text that is exactly one value, with blanks around it. Every reader takes
the characters that are left and returns what it read and the rest. A value inside another is read
with less fuel, and the length of a text is fuel enough for it.
-/

namespace Skirmish.Json.Parser

/-- The rest after the blanks that may stand between tokens. -/
def skip (cs : List Char) : List Char :=
  cs.dropWhile fun c => c = ' ' ∨ c = '\n' ∨ c = '\t' ∨ c = '\r'

/-! ## Numbers -/

/-- One or more digits. -/
def digits (cs : List Char) : Option (List Char × List Char) :=
  match cs.span Char.isDigit with
  | ([], _) => none
  | (ds, rest) => some (ds, rest)

def sign : List Char → Bool × List Char
  | '-' :: cs => (true, cs)
  | cs => (false, cs)

/-- Digits without a zero in front of others. -/
def whole : List Char → Option (List Char × List Char)
  | '0' :: cs => some (['0'], cs)
  | cs => digits cs

def fraction : List Char → Option (Option (List Char) × List Char)
  | '.' :: cs => (digits cs).map fun (ds, rest) => (some ds, rest)
  | cs => some (none, cs)

/-- The sign and digits behind the mark of an exponent. -/
def signedDigits : List Char → Option ((Bool × List Char) × List Char)
  | '-' :: cs => (digits cs).map fun (ds, rest) => ((true, ds), rest)
  | '+' :: cs => (digits cs).map fun (ds, rest) => ((false, ds), rest)
  | cs => (digits cs).map fun (ds, rest) => ((false, ds), rest)

def exponent : List Char → Option (Option (Bool × List Char) × List Char)
  | 'e' :: cs | 'E' :: cs => (signedDigits cs).map fun (e, rest) => (some e, rest)
  | cs => some (none, cs)

def number (cs : List Char) : Option (Number × List Char) := do
  let (negative, cs) := sign cs
  let (whole, cs) ← whole cs
  let (fraction, cs) ← fraction cs
  let (exponent, cs) ← exponent cs
  some ({ negative, whole, fraction, exponent }, cs)

/-! ## Strings -/

def hexDigit? (c : Char) : Option Nat :=
  if c.isDigit then some (c.toNat - '0'.toNat)
  else if 'a' ≤ c ∧ c ≤ 'f' then some (c.toNat - 'a'.toNat + 10)
  else if 'A' ≤ c ∧ c ≤ 'F' then some (c.toNat - 'A'.toNat + 10)
  else none

/-- The code unit of four hexadecimal digits. -/
def codeUnit? (a b c d : Char) : Option Nat := do
  let a ← hexDigit? a
  let b ← hexDigit? b
  let c ← hexDigit? c
  let d ← hexDigit? d
  some (((a * 16 + b) * 16 + c) * 16 + d)

/-- The character behind a backslash in a short escape. -/
def shortEscape? : Char → Option Char
  | '"' => some '"'
  | '\\' => some '\\'
  | '/' => some '/'
  | 'b' => some '\x08'
  | 'f' => some '\x0c'
  | 'n' => some '\n'
  | 'r' => some '\r'
  | 't' => some '\t'
  | _ => none

/-- The code units and code points of a string's text, last one first, up to the closing quote. -/
def codes (done : List Nat) : List Char → Option (List Nat × List Char)
  | [] => none
  | '"' :: cs => some (done, cs)
  | '\\' :: 'u' :: a :: b :: c :: d :: cs => do
    let n ← codeUnit? a b c d
    codes (n :: done) cs
  | '\\' :: c :: cs => do
    let e ← shortEscape? c
    codes (e.toNat :: done) cs
  | c :: cs => if c.toNat < 0x20 ∨ c = '\\' then none else codes (c.toNat :: done) cs

/-- The characters of codes, last one first, in front of those already found. A pair of
surrogates makes one character; half a pair makes none. -/
def assemble (found : List Char) : List Nat → Option (List Char)
  | [] => some found
  | low :: high :: rest =>
    if low.isValidChar then assemble (Char.ofNat low :: found) (high :: rest)
    else if 0xdc00 ≤ low ∧ low < 0xe000 ∧ 0xd800 ≤ high ∧ high < 0xdc00 then
      assemble (Char.ofNat (0x10000 + (high - 0xd800) * 0x400 + (low - 0xdc00)) :: found) rest
    else none
  | [code] => if code.isValidChar then some (Char.ofNat code :: found) else none

/-- A string behind its opening quote. -/
def string (cs : List Char) : Option (Option String × List Char) := do
  let (reversed, rest) ← codes [] cs
  some ((assemble [] reversed).map String.ofList, rest)

/-! ## Values -/

mutual

def value : Nat → List Char → Option (Json × List Char)
  | 0, _ => none
  | fuel + 1, cs =>
    match skip cs with
    | '"' :: cs => (string cs).map fun (s, rest) => (.string s, rest)
    | '[' :: cs =>
      match skip cs with
      | ']' :: rest => some (.array [], rest)
      | cs => (items fuel cs).map fun (vs, rest) => (.array vs, rest)
    | '\x7b' :: cs =>
      match skip cs with
      | '\x7d' :: rest => some (.object [], rest)
      | cs => (members fuel cs).map fun (ms, rest) => (.object ms, rest)
    | 'n' :: 'u' :: 'l' :: 'l' :: rest => some (.null, rest)
    | 't' :: 'r' :: 'u' :: 'e' :: rest => some (.bool true, rest)
    | 'f' :: 'a' :: 'l' :: 's' :: 'e' :: rest => some (.bool false, rest)
    | cs => (number cs).map fun (n, rest) => (.number n, rest)

/-- One or more values up to the closing bracket. -/
def items : Nat → List Char → Option (List Json × List Char)
  | 0, _ => none
  | fuel + 1, cs => do
    let (v, cs) ← value fuel cs
    match skip cs with
    | ',' :: cs =>
      let (vs, rest) ← items fuel cs
      some (v :: vs, rest)
    | ']' :: rest => some ([v], rest)
    | _ => none

/-- One or more members up to the closing brace. -/
def members : Nat → List Char → Option (List (Option String × Json) × List Char)
  | 0, _ => none
  | fuel + 1, cs => do
    let (key, cs) ← match skip cs with
      | '"' :: cs => string cs
      | _ => none
    let (v, cs) ← match skip cs with
      | ':' :: cs => value fuel cs
      | _ => none
    match skip cs with
    | ',' :: cs =>
      let (ms, rest) ← members fuel cs
      some ((key, v) :: ms, rest)
    | '\x7d' :: rest => some ([(key, v)], rest)
    | _ => none

end

end Skirmish.Json.Parser

namespace Skirmish

/-- The value that a text writes. -/
def Json.parse? (text : String) : Option Json :=
  let cs := text.toList
  match Json.Parser.value (2 * cs.length + 2) cs with
  | some (v, rest) => if Json.Parser.skip rest = [] then some v else none
  | none => none

end Skirmish
