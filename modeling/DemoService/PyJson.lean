import DemoService.CodePoints
import Mathlib.Data.List.Sort
import Mathlib.Data.Nat.Digits.Lemmas

/-! JSON as Python's `json` module reads and writes it: `loads` of any text, and `dumps` of an
object of texts and integers, with sorted keys, without spaces and in ASCII. -/

namespace PyJson

open CodePoints

/-- What `loads` returns. A float keeps its lexeme, and an object the members in the order of
the document, of which the last one with a key counts. -/
inductive Json
  | null
  | bool (value : Bool)
  | int (value : Int)
  | float (lexeme : Str)
  | str (value : Str)
  | arr (items : List Json)
  | obj (members : List (Str × Json))

inductive LoadsError
  | decode
  | recursion
  deriving DecidableEq, Repr

/-- The digits that an integer may have as a text. -/
def maxStrDigits : Nat := 4300

section Scanner

def isSpace (c : CodePoint) : Bool := c = 0x20 || c = 0x09 || c = 0x0A || c = 0x0D

def skipSpace (s : Str) : Str := s.dropWhile isSpace

def hexDigit? (c : CodePoint) : Option Nat :=
  if 0x30 ≤ c.val ∧ c.val ≤ 0x39 then some (c.val - 0x30)
  else if 0x61 ≤ c.val ∧ c.val ≤ 0x66 then some (c.val - 0x57)
  else if 0x41 ≤ c.val ∧ c.val ≤ 0x46 then some (c.val - 0x37)
  else none

/-- The four digits of a `\u` escape. -/
def hex4 : Str → Option (CodePoint × Str)
  | a :: b :: c :: d :: s => do
    let a ← hexDigit? a
    let b ← hexDigit? b
    let c ← hexDigit? c
    let d ← hexDigit? d
    some (Fin.ofNat 0x110000 (a * 0x1000 + b * 0x100 + c * 0x10 + d), s)
  | _ => none

/-- The escape of a low half, which a high half takes with it. -/
def lowEscape : Str → Option (CodePoint × Str)
  | a :: b :: s => if a = 0x5C ∧ b = 0x75 then (hex4 s).filter fun r => isLow r.1 else none
  | _ => none

def backslash? (c : CodePoint) : Option CodePoint :=
  if c = 0x22 ∨ c = 0x5C ∨ c = 0x2F then some c
  else if c = 0x62 then some 0x08
  else if c = 0x66 then some 0x0C
  else if c = 0x6E then some 0x0A
  else if c = 0x72 then some 0x0D
  else if c = 0x74 then some 0x09
  else none

/-- What follows a backslash. -/
def scanEscape : Str → Option (CodePoint × Str)
  | [] => none
  | c :: s =>
    if c = 0x75 then
      match hex4 s with
      | none => none
      | some (unit, t) =>
        if isHigh unit then
          match lowEscape t with
          | some (low, u) => some (joinPair unit low, u)
          | none => some (unit, t)
        else some (unit, t)
    else (backslash? c).map (·, s)

/-- A character of a string, which is not its closing quotation mark. -/
def scanChar (c : CodePoint) (s : Str) : Option (CodePoint × Str) :=
  if c.val < 0x20 then none else if c = 0x5C then scanEscape s else some (c, s)

/-- `scanstring`, after the opening quotation mark; every character takes one unit of fuel. -/
def scanString : Nat → Str → Option (Str × Str)
  | 0, _ => none
  | _ + 1, [] => none
  | fuel + 1, c :: s =>
    if c = 0x22 then some ([], s)
    else
      match scanChar c s with
      | none => none
      | some (d, t) => (scanString fuel t).map fun r => (d :: r.1, r.2)

def isDigit (c : CodePoint) : Bool := 0x30 ≤ c.val && c.val ≤ 0x39

def digitsValue (digits : Str) : Nat := digits.foldl (fun acc d => acc * 10 + (d.val - 0x30)) 0

/-- A zero, or digits of which the first is not zero. -/
def wholePart : Str → Option (Str × Str)
  | [] => none
  | c :: s =>
    if c = 0x30 then some ([c], s)
    else if isDigit c then some (c :: s.takeWhile isDigit, s.dropWhile isDigit)
    else none

def fraction : Str → Str × Str
  | [] => ([], [])
  | c :: s =>
    if c = 0x2E ∧ s.takeWhile isDigit ≠ [] then (c :: s.takeWhile isDigit, s.dropWhile isDigit)
    else ([], c :: s)

def splitSign (signs : List CodePoint) : Str → Str × Str
  | [] => ([], [])
  | c :: s => if c ∈ signs then ([c], s) else ([], c :: s)

def exponent : Str → Str × Str
  | [] => ([], [])
  | c :: s =>
    let sign := splitSign [0x2B, 0x2D] s
    let digits := sign.2.takeWhile isDigit
    if (c = 0x65 ∨ c = 0x45) ∧ digits ≠ [] then
      (c :: sign.1 ++ digits, sign.2.dropWhile isDigit)
    else ([], c :: s)

/-- `_match_number`; an integer with too many digits is a `ValueError`. -/
def matchNumber (s : Str) : Option (Json × Str) :=
  let sign := splitSign [0x2D] s
  match wholePart sign.2 with
  | none => none
  | some (whole, t) =>
    let frac := fraction t
    let exp := exponent frac.2
    if frac.1 = [] ∧ exp.1 = [] then
      if whole.length ≤ maxStrDigits then
        some (.int (if sign.1 = [] then digitsValue whole else -digitsValue whole), t)
      else none
    else some (.float (sign.1 ++ whole ++ frac.1 ++ exp.1), exp.2)

def keywords : List (Str × Json) :=
  [(ofString "null", .null), (ofString "true", .bool true), (ofString "false", .bool false),
    (ofString "NaN", .float (ofString "NaN")), (ofString "Infinity", .float (ofString "Infinity")),
    (ofString "-Infinity", .float (ofString "-Infinity"))]

/-- A value that is neither a string nor an object nor an array. -/
def scanAtom (s : Str) : Option (Json × Str) :=
  match keywords.find? fun keyword => keyword.1.isPrefixOf s with
  | some (word, value) => some (value, s.drop word.length)
  | none => matchNumber s

/-- The rest of the text after the character, if the text starts with it. -/
def expect (c : CodePoint) : Str → Except LoadsError Str
  | [] => .error .decode
  | d :: s => if d = c then .ok s else .error .decode

def ofOption {α : Type} : Option α → Except LoadsError α
  | none => .error .decode
  | some a => .ok a

mutual

/-- `scan_once`: objects and arrays may nest `nesting` deep, and every call takes one unit of
fuel, of which two for each character are enough. -/
def scanOnce (nesting : Nat) : Nat → Str → Except LoadsError (Json × Str)
  | 0, _ => .error .decode
  | _ + 1, [] => .error .decode
  | fuel + 1, c :: s =>
    if c = 0x22 then (ofOption (scanString (s.length + 1) s)).map fun r => (.str r.1, r.2)
    else if c = 0x7B then
      match nesting with
      | 0 => .error .recursion
      | nesting + 1 =>
        match expect 0x7D (skipSpace s) with
        | .ok t => .ok (.obj [], t)
        | .error _ => (scanMembers nesting fuel (skipSpace s)).map fun r => (.obj r.1, r.2)
    else if c = 0x5B then
      match nesting with
      | 0 => .error .recursion
      | nesting + 1 =>
        match expect 0x5D (skipSpace s) with
        | .ok t => .ok (.arr [], t)
        | .error _ => (scanItems nesting fuel (skipSpace s)).map fun r => (.arr r.1, r.2)
    else ofOption (scanAtom (c :: s))

/-- The members of an object up to its closing brace. -/
def scanMembers (nesting : Nat) : Nat → Str → Except LoadsError (List (Str × Json) × Str)
  | 0, _ => .error .decode
  | fuel + 1, s => do
    let s ← expect 0x22 s
    let (key, s) ← ofOption (scanString (s.length + 1) s)
    let s ← expect 0x3A (skipSpace s)
    let (value, s) ← scanOnce nesting fuel (skipSpace s)
    match expect 0x7D (skipSpace s) with
    | .ok t => .ok ([(key, value)], t)
    | .error _ =>
      let s ← expect 0x2C (skipSpace s)
      let (members, s) ← scanMembers nesting fuel (skipSpace s)
      .ok ((key, value) :: members, s)

/-- The items of an array up to its closing bracket. -/
def scanItems (nesting : Nat) : Nat → Str → Except LoadsError (List Json × Str)
  | 0, _ => .error .decode
  | fuel + 1, s => do
    let (value, s) ← scanOnce nesting fuel s
    match expect 0x5D (skipSpace s) with
    | .ok t => .ok ([value], t)
    | .error _ =>
      let s ← expect 0x2C (skipSpace s)
      let (items, s) ← scanItems nesting fuel (skipSpace s)
      .ok (value :: items, s)

end

/-- `json.loads` of a text. -/
def loads (nesting : Nat) (s : Str) : Except LoadsError Json := do
  let (value, rest) ← scanOnce nesting (2 * s.length + 2) (skipSpace s)
  if skipSpace rest = [] then .ok value else .error .decode

end Scanner

section Members

/-- The last member with the key. -/
def member? (key : String) (members : List (Str × Json)) : Option Json :=
  (members.reverse.find? fun member => member.1 = ofString key).map Prod.snd

/-- `dict.get(key, default)`; only an object has it. -/
def getOr (key : String) (default : Json) : Json → Option Json
  | .obj members => some ((member? key members).getD default)
  | _ => none

end Members

section Writer

def hexOf (v : Nat) : CodePoint := Fin.ofNat 0x110000 (if v < 10 then 0x30 + v else 0x57 + v)

def unicodeEscape (v : Nat) : Str :=
  [0x5C, 0x75, hexOf (v / 0x1000 % 16), hexOf (v / 0x100 % 16), hexOf (v / 0x10 % 16),
    hexOf (v % 16)]

def escapeChar (c : CodePoint) : Str :=
  if c = 0x22 ∨ c = 0x5C then [0x5C, c]
  else if c = 0x08 then [0x5C, 0x62]
  else if c = 0x0C then [0x5C, 0x66]
  else if c = 0x0A then [0x5C, 0x6E]
  else if c = 0x0D then [0x5C, 0x72]
  else if c = 0x09 then [0x5C, 0x74]
  else if 0x20 ≤ c.val ∧ c.val ≤ 0x7E then [c]
  else if c.val < 0x10000 then unicodeEscape c.val
  else
    unicodeEscape (0xD800 + (c.val - 0x10000) / 0x400) ++
      unicodeEscape (0xDC00 + (c.val - 0x10000) % 0x400)

/-- `py_encode_basestring_ascii`. -/
def encodeString (s : Str) : Str := 0x22 :: s.flatMap escapeChar ++ [0x22]

def decimal (n : Nat) : Str :=
  if n = 0 then [0x30] else (Nat.digits 10 n).reverse.map fun d => Fin.ofNat 0x110000 (0x30 + d)

/-- `int.__repr__`, which refuses a number with too many digits. -/
def reprInt (i : Int) : Option Str :=
  if (decimal i.natAbs).length ≤ maxStrDigits then
    some (if i < 0 then 0x2D :: decimal i.natAbs else decimal i.natAbs)
  else none

inductive Scalar
  | text (value : Str)
  | number (value : Int)
  deriving DecidableEq, Repr

def Scalar.dumps : Scalar → Option Str
  | .text value => some (encodeString value)
  | .number value => reprInt value

def dumpsMember (member : Str × Scalar) : Option Str := do
  let value ← member.2.dumps
  some (encodeString member.1 ++ 0x3A :: value)

/-- `json.dumps(payload, separators=(",", ":"), sort_keys=True)`. -/
def dumps (payload : List (Str × Scalar)) : Option Str := do
  let members ← (payload.insertionSort fun a b => a.1 ≤ b.1).mapM dumpsMember
  some (0x7B :: [0x2C].intercalate members ++ [0x7D])

end Writer

end PyJson
