import Mathlib.Algebra.Order.Ring.Nat
import Mathlib.Algebra.Ring.Int.Defs
import Mathlib.Data.List.DropRight

/-! Python text as a list of code points, with the `str` methods the services use. -/

namespace PyText

abbrev Text := List Char

/-- Comparisons of texts mean the same whatever else is imported. -/
scoped instance (priority := 2000) textLawful : LawfulBEq Text := inferInstance

/-- `str.isspace` of one character, which is also what `\s` matches in `re`. -/
def isSpace (c : Char) : Bool :=
  let n := c.toNat
  (0x09 ≤ n && n ≤ 0x0D) || (0x1C ≤ n && n ≤ 0x20) || n == 0x85 || n == 0xA0 || n == 0x1680 ||
    (0x2000 ≤ n && n ≤ 0x200A) || n == 0x2028 || n == 0x2029 || n == 0x202F || n == 0x205F ||
    n == 0x3000

def lstrip (s : Text) : Text := s.dropWhile isSpace

def rstrip (s : Text) : Text := s.rdropWhile isSpace

def strip (s : Text) : Text := rstrip (lstrip s)

/-- The zeros of the runs of ten decimal digits (category Nd). -/
def decimalZeros : List Nat :=
  [0x30, 0x660, 0x6F0, 0x7C0, 0x966, 0x9E6, 0xA66, 0xAE6, 0xB66, 0xBE6, 0xC66, 0xCE6, 0xD66, 0xDE6,
    0xE50, 0xED0, 0xF20, 0x1040, 0x1090, 0x17E0, 0x1810, 0x1946, 0x19D0, 0x1A80, 0x1A90, 0x1B50,
    0x1BB0, 0x1C40, 0x1C50, 0xA620, 0xA8D0, 0xA900, 0xA9D0, 0xA9F0, 0xAA50, 0xABF0, 0xFF10,
    0x104A0, 0x10D30, 0x10D40, 0x11066, 0x110F0, 0x11136, 0x111D0, 0x112F0, 0x11450, 0x114D0,
    0x11650, 0x116C0, 0x116D0, 0x116DA, 0x11730, 0x118E0, 0x11950, 0x11BF0, 0x11C50, 0x11D50,
    0x11DA0, 0x11F50, 0x16130, 0x16A60, 0x16AC0, 0x16B50, 0x16D70, 0x1CCF0, 0x1D7CE, 0x1D7D8,
    0x1D7E2, 0x1D7EC, 0x1D7F6, 0x1E140, 0x1E2F0, 0x1E4F0, 0x1E5F1, 0x1E950, 0x1FBF0]

/-- What `\d` matches in `re`. -/
def isDecimal (c : Char) : Bool :=
  decimalZeros.any fun first => first ≤ c.toNat && c.toNat < first + 10

/-- `sep.join(parts)`. -/
def join (sep : Text) (parts : List Text) : Text := sep.intercalate parts

/-- The characters at which `str.splitlines` ends a line. -/
def isLineBoundary (c : Char) : Bool :=
  let n := c.toNat
  (0x0A ≤ n && n ≤ 0x0D) || (0x1C ≤ n && n ≤ 0x1E) || n == 0x85 || n == 0x2028 || n == 0x2029

/-- `str.splitlines`; a carriage return and the line feed after it end one line. -/
def splitlines : Text → List Text
  | [] => []
  | '\r' :: '\n' :: cs => [] :: splitlines cs
  | c :: cs =>
    if isLineBoundary c then [] :: splitlines cs
    else
      match splitlines cs with
      | [] => [[c]]
      | line :: later => (c :: line) :: later

/-- `len(s.encode("utf-8"))`. -/
def utf8Length (s : Text) : Nat := (s.map Char.utf8Size).sum

/-- `value or None` for a text. -/
def orNone (s : Text) : Option Text := if s = [] then none else some s

/-- `value or fallback` for an optional text. -/
def orText (value : Option Text) (fallback : Text) : Text := (value.bind orNone).getD fallback

@[simp] theorem orText_none (fallback : Text) : orText none fallback = fallback := rfl

@[simp] theorem orText_nil (fallback : Text) : orText (some []) fallback = fallback := rfl

@[simp] theorem orText_cons (c : Char) (s fallback : Text) :
    orText (some (c :: s)) fallback = c :: s := rfl

theorem rstrip_append_space {c : Char} (hc : isSpace c = true) (s : Text) :
    rstrip (s ++ [c]) = rstrip s := List.rdropWhile_concat_pos isSpace s c hc

theorem head_lstrip {s : Text} : ∀ c ∈ (lstrip s).head?, isSpace c = false := by
  intro c hc
  have h := List.head?_dropWhile_not isSpace s
  rw [show s.dropWhile isSpace = lstrip s from rfl, Option.mem_def.mp hc] at h
  exact h

theorem lstrip_of_head {s : Text} (h : ∀ c ∈ s.head?, isSpace c = false) : lstrip s = s := by
  cases s with
  | nil => rfl
  | cons c cs =>
    have hc : ¬ isSpace c = true := by simp [h c rfl]
    exact List.dropWhile_cons_of_neg hc

theorem rstrip_head {s : Text} (h : ∀ c ∈ s.head?, isSpace c = false) :
    ∀ c ∈ (rstrip s).head?, isSpace c = false := by
  intro c hc
  obtain ⟨tail, htail⟩ := List.rdropWhile_prefix isSpace s
  cases hstrip : rstrip s with
  | nil => simp [hstrip] at hc
  | cons d ds =>
    rw [hstrip] at hc
    rw [show s.rdropWhile isSpace = rstrip s from rfl, hstrip] at htail
    exact h c (by rw [← htail]; exact hc)

theorem strip_head (s : Text) : ∀ c ∈ (strip s).head?, isSpace c = false :=
  rstrip_head head_lstrip

theorem strip_strip (s : Text) : strip (strip s) = strip s := by
  rw [strip, lstrip_of_head (strip_head s), strip, rstrip, rstrip, List.rdropWhile_idempotent]

/-- A stripped text loses a space put behind it, unless nothing is left of it. -/
theorem strip_append_space {c : Char} (hc : isSpace c = true) {s : Text} (hs : strip s = s)
    (hne : s ≠ []) : strip (s ++ [c]) = s := by
  have hhead : ∀ d ∈ (s ++ [c]).head?, isSpace d = false := by
    cases s with
    | nil => exact absurd rfl hne
    | cons d ds =>
      have := strip_head (d :: ds)
      rw [hs] at this
      simpa using this
  rw [strip, lstrip_of_head hhead, rstrip_append_space hc, ← hs]
  exact List.rdropWhile_idempotent isSpace _

theorem mem_of_mem_strip {c : Char} {s : Text} (h : c ∈ strip s) : c ∈ s :=
  (List.dropWhile_suffix isSpace).subset ((List.rdropWhile_prefix isSpace _).subset h)

end PyText
