import Mathlib.Algebra.Order.Ring.Nat
import Mathlib.Algebra.Ring.Int.Defs
import Mathlib.Data.List.DropRight

/-! Rust's `str` operations on lists of characters. Offsets count UTF-8 bytes, so
a slice can be out of range or cut a character, and then it panics. -/

namespace RustText

abbrev Str := List Char

-- What is said of every character of a text is decided by the text, not over all characters.
scoped instance (priority := 2000) charsForall {p : Char → Prop} [DecidablePred p] (s : List Char) :
    Decidable (∀ c ∈ s, p c) := List.decidableBAll p s

/-- `char::is_whitespace`: the characters with the White_Space property. -/
def isWhitespace (c : Char) : Bool :=
  let n := c.toNat
  (9 ≤ n && n ≤ 13) || n = 0x20 || n = 0x85 || n = 0xA0 || n = 0x1680 ||
    (0x2000 ≤ n && n ≤ 0x200A) || n = 0x2028 || n = 0x2029 || n = 0x202F || n = 0x205F || n = 0x3000

def trim (s : Str) : Str := (s.dropWhile isWhitespace).rdropWhile isWhitespace

def trimEnd (s : Str) : Str := s.rdropWhile isWhitespace

def trimMatches (p : Char → Bool) (s : Str) : Str := (s.dropWhile p).rdropWhile p

/-- `str::split` on the characters meeting a predicate. -/
def splitBy (p : Char → Bool) : Str → List Str
  | [] => [[]]
  | d :: ds =>
    if p d then [] :: splitBy p ds
    else
      match splitBy p ds with
      | [] => [[d]]
      | field :: fields => (d :: field) :: fields

/-- `str::split` on one character. -/
def splitChar (c : Char) (s : Str) : List Str := splitBy (· = c) s

def splitWhitespace (s : Str) : List Str := (splitBy isWhitespace s).filter (· ≠ [])

/-- `str::split` on a pattern text. `skip` characters of a match are still to be passed over,
`field` has been read since the last one. -/
def splitStrFrom (pattern : Str) : Nat → Str → Str → List Str
  | _, field, [] => [field]
  | skip + 1, field, _ :: cs => splitStrFrom pattern skip field cs
  | 0, field, c :: cs =>
    if pattern.isPrefixOf (c :: cs) then field :: splitStrFrom pattern (pattern.length - 1) [] cs
    else splitStrFrom pattern 0 (field ++ [c]) cs

def splitStr (pattern s : Str) : List Str := splitStrFrom pattern 0 [] s

def stripSuffixChar (c : Char) (s : Str) : Str :=
  if s.getLast? = some c then s.dropLast else s

/-- `str::lines`: lines end in `\n` or `\r\n`; a last line without `\n` keeps its `\r`. -/
def lines (s : Str) : List Str :=
  let parts := splitChar '\n' s
  parts.dropLast.map (stripSuffixChar '\r') ++
    (if parts.getLast? = some [] then [] else parts.getLast?.toList)

def stripPrefix (p : Str) (s : Str) : Option Str :=
  if p.isPrefixOf s then some (s.drop p.length) else none

def startsWith (p : Str) (s : Str) : Bool := p.isPrefixOf s

/-- `str::split_once`. -/
def splitOnce (sep : Str) : Str → Option (Str × Str)
  | [] => (stripPrefix sep []).map (fun rest => ([], rest))
  | c :: cs =>
    match stripPrefix sep (c :: cs) with
    | some rest => some ([], rest)
    | none => (splitOnce sep cs).map (fun (front, back) => (c :: front, back))

/-- `str::rsplit_once` on a character. -/
def rsplitOnce (c : Char) : Str → Option (Str × Str)
  | [] => none
  | d :: ds =>
    match rsplitOnce c ds with
    | some (front, back) => some (d :: front, back)
    | none => if d = c then some ([], ds) else none

def contains (sub : Str) (s : Str) : Bool := (splitOnce sub s).isSome

def asciiLower (c : Char) : Char :=
  if 'A' ≤ c ∧ c ≤ 'Z' then Char.ofNat (c.toNat + 32) else c

def asciiUpper (c : Char) : Char :=
  if 'a' ≤ c ∧ c ≤ 'z' then Char.ofNat (c.toNat - 32) else c

def toAsciiLowercase (s : Str) : Str := s.map asciiLower

def toAsciiUppercase (s : Str) : Str := s.map asciiUpper

def isAsciiPunctuation (c : Char) : Bool :=
  let n := c.toNat
  (0x21 ≤ n && n ≤ 0x2F) || (0x3A ≤ n && n ≤ 0x40) || (0x5B ≤ n && n ≤ 0x60) ||
    (0x7B ≤ n && n ≤ 0x7E)

def isAsciiDigit (c : Char) : Bool := '0' ≤ c && c ≤ '9'

def eqIgnoreAsciiCase (s t : Str) : Bool := toAsciiLowercase s = toAsciiLowercase t

def digit? (radix : Nat) (c : Char) : Option Nat :=
  let n := c.toNat
  let value :=
    if '0'.toNat ≤ n ∧ n ≤ '9'.toNat then some (n - '0'.toNat)
    else if 'a'.toNat ≤ n ∧ n ≤ 'z'.toNat then some (n - 'a'.toNat + 10)
    else if 'A'.toNat ≤ n ∧ n ≤ 'Z'.toNat then some (n - 'A'.toNat + 10)
    else none
  value.filter (· < radix)

/-- Accumulates digits, failing on another character or past `bound`. -/
def digitsBelow (bound radix : Nat) : Nat → Str → Option Nat
  | acc, [] => some acc
  | acc, c :: cs => do
    let d ← digit? radix c
    let next := acc * radix + d
    if next < bound then digitsBelow bound radix next cs else none

/-- `str::parse::<u16>`: an optional `+`, then at least one digit. -/
def parseU16 (s : Str) : Option Nat :=
  match s with
  | [] => none
  | '+' :: [] => none
  | '+' :: digits => digitsBelow 65536 10 0 digits
  | digits => digitsBelow 65536 10 0 digits

def ofNat (n : Nat) : Str := Nat.toDigits 10 n

/-- `[String]::join`. -/
def join (sep : Str) : List Str → Str
  | [] => []
  | [s] => s
  | s :: rest => s ++ sep ++ join sep rest

def utf8Len (s : Str) : Nat := (s.map Char.utf8Size).sum

/-- `str::find` on a character: the byte offset of its first occurrence. -/
def find (c : Char) : Str → Option Nat
  | [] => none
  | d :: ds => if d = c then some 0 else (find c ds).map (· + d.utf8Size)

inductive Panic
  | sliceOutOfBounds
  | sliceBeginAfterEnd
  | sliceNotCharBoundary
  deriving DecidableEq, Repr

def dropBytes : Nat → Str → Option Str
  | 0, s => some s
  | _ + 1, [] => none
  | n + 1, c :: cs => if c.utf8Size ≤ n + 1 then dropBytes (n + 1 - c.utf8Size) cs else none

def takeBytes : Nat → Str → Option Str
  | 0, _ => some []
  | _ + 1, [] => none
  | n + 1, c :: cs =>
    if c.utf8Size ≤ n + 1 then (takeBytes (n + 1 - c.utf8Size) cs).map (c :: ·) else none

/-- `&s[start..stop]`. -/
def slice (s : Str) (start stop : Nat) : Except Panic Str :=
  if utf8Len s < start ∨ utf8Len s < stop then .error .sliceOutOfBounds
  else if stop < start then .error .sliceBeginAfterEnd
  else
    match dropBytes start s with
    | none => .error .sliceNotCharBoundary
    | some rest =>
      match takeBytes (stop - start) rest with
      | none => .error .sliceNotCharBoundary
      | some mid => .ok mid

@[simp] theorem utf8Len_nil : utf8Len [] = 0 := rfl

@[simp] theorem utf8Len_cons (c : Char) (s : Str) : utf8Len (c :: s) = c.utf8Size + utf8Len s := rfl

@[simp] theorem utf8Len_append (s t : Str) : utf8Len (s ++ t) = utf8Len s + utf8Len t := by
  simp [utf8Len]

theorem dropBytes_append (s t : Str) : dropBytes (utf8Len s) (s ++ t) = some t := by
  induction s with
  | nil => simp [dropBytes]
  | cons c s ih =>
    have hpos : 0 < c.utf8Size := Char.utf8Size_pos c
    obtain ⟨n, hn⟩ : ∃ n, c.utf8Size + utf8Len s = n + 1 := ⟨_, (Nat.succ_pred (by omega)).symm⟩
    rw [utf8Len_cons, hn, List.cons_append, dropBytes, if_pos (by omega)]
    have hrest : n + 1 - c.utf8Size = utf8Len s := by omega
    rw [hrest, ih]

theorem takeBytes_append (s t : Str) : takeBytes (utf8Len s) (s ++ t) = some s := by
  induction s with
  | nil => simp [takeBytes]
  | cons c s ih =>
    have hpos : 0 < c.utf8Size := Char.utf8Size_pos c
    obtain ⟨n, hn⟩ : ∃ n, c.utf8Size + utf8Len s = n + 1 := ⟨_, (Nat.succ_pred (by omega)).symm⟩
    rw [utf8Len_cons, hn, List.cons_append, takeBytes, if_pos (by omega)]
    have hrest : n + 1 - c.utf8Size = utf8Len s := by omega
    rw [hrest, ih]
    rfl

/-- A slice whose ends fall between characters is the text between them. -/
theorem slice_append (s t u : Str) :
    slice (s ++ t ++ u) (utf8Len s) (utf8Len s + utf8Len t) = .ok t := by
  have hrange : ¬ (utf8Len (s ++ t ++ u) < utf8Len s ∨
      utf8Len (s ++ t ++ u) < utf8Len s + utf8Len t) := by
    simp only [utf8Len_append]
    omega
  rw [slice, if_neg hrange, if_neg (by omega), List.append_assoc, dropBytes_append]
  simp only [Nat.add_sub_cancel_left, takeBytes_append]

theorem find_eq_some {c : Char} {s : Str} {n : Nat} (h : find c s = some n) :
    ∃ front back, s = front ++ c :: back ∧ c ∉ front ∧ utf8Len front = n := by
  induction s generalizing n with
  | nil => cases h
  | cons d ds ih =>
    unfold find at h
    split at h
    · rename_i hd
      subst hd
      exact ⟨[], ds, rfl, List.not_mem_nil, Option.some.inj h⟩
    · rename_i hd
      obtain ⟨m, hm, rfl⟩ := Option.map_eq_some_iff.mp h
      obtain ⟨front, back, rfl, hc, hlen⟩ := ih hm
      refine ⟨d :: front, back, rfl, ?_, by rw [utf8Len_cons, hlen, Nat.add_comm]⟩
      exact fun hmem => (List.mem_cons.mp hmem).elim (fun e => hd e.symm) hc

/-- Slicing between two found ASCII characters succeeds exactly when they are in order. -/
theorem slice_between_found {s : Str} {a b : Char} {i j : Nat} (ha : find a s = some i)
    (hb : find b s = some j) (hne : a ≠ b) (hsize : a.utf8Size = 1) :
    (∃ mid, slice s (i + 1) j = .ok mid) ↔ i < j := by
  obtain ⟨front, back, hs, hfront, rfl⟩ := find_eq_some ha
  obtain ⟨front', back', hs', hfront', rfl⟩ := find_eq_some hb
  have hsplit : front ++ a :: back = front' ++ b :: back' := hs.symm.trans hs'
  rcases List.append_eq_append_iff.mp hsplit with ⟨mid, rfl, hmid⟩ | ⟨mid, rfl, hmid⟩
  · cases mid with
    | nil =>
      have hab : a = b := (List.cons.inj (by simpa using hmid)).1
      exact absurd hab hne
    | cons c mid =>
      obtain ⟨rfl, hback⟩ := List.cons.inj hmid
      have htext : s = (front ++ [a]) ++ mid ++ (b :: back') := by simp [hs']
      refine ⟨fun _ => by simp only [utf8Len_append, utf8Len_cons]; omega, fun _ => ⟨mid, ?_⟩⟩
      have hsl := slice_append (front ++ [a]) mid (b :: back')
      rw [← htext] at hsl
      simpa [hsize, Nat.add_assoc] using hsl
  · constructor
    · rintro ⟨r, hr⟩
      by_contra hlt
      simp only [slice] at hr
      split at hr
      · cases hr
      · rw [if_pos (by simp only [utf8Len_append] at hlt ⊢; omega)] at hr
        cases hr
    · intro hlt
      simp only [utf8Len_append] at hlt
      omega

end RustText
