import DemoService.Fallible
import DemoService.PyDict
import DemoService.PyFloats
import DemoService.PyJsonFuel
import DemoService.PyText

/-! Python's `int` and `repr` of the values that `json.loads` returns. -/

namespace PyConversions

open CodePoints Fallible PyJson

section Integers

def asciiSpace (c : CodePoint) : Bool := (0x09 ≤ c.val && c.val ≤ 0x0D) || c.val == 0x20

/-- The value of a decimal digit of any script. -/
def decimalDigit? (v : Nat) : Option Nat :=
  (PyText.decimalZeros.find? fun first => first ≤ v && v < first + 10).map (v - ·)

/-- `_PyUnicode_TransformDecimalAndSpaceToASCII`, which leaves a text alone that is ASCII. -/
def transformDecimalAndSpace (s : Str) : Str :=
  if s.all fun c => c.val < 0x80 then s
  else
    s.map fun c =>
      if c.val < 0x7F then c
      else if PyText.isSpace (Char.ofNat c.val) then 0x20
      else
        match decimalDigit? c.val with
        | some digit => Fin.ofNat 0x110000 (0x30 + digit)
        | none => 0x3F

/-- `int` of a text: a sign and digits, with single underscores between them; what is no number
and what has too many digits is a `ValueError`. -/
def intOfText (s : Str) : Option Int :=
  let body := ((transformDecimalAndSpace s).dropWhile asciiSpace).rdropWhile asciiSpace
  let sign := splitSign [0x2B, 0x2D] body
  let groups := sign.2.splitOn 0x5F
  let digits := groups.flatten
  if (groups.all fun group => group ≠ [] && group.all isDigit) && digits.length ≤ maxStrDigits then
    some (if sign.1 = [0x2D] then -digitsValue digits else digitsValue digits)
  else none

end Integers

section Texts

variable (isPrintable : CodePoint → Bool)

def hexEscape (v : Nat) : Str :=
  if v < 0x100 then [0x5C, 0x78, hexOf (v / 0x10 % 16), hexOf (v % 16)]
  else if v < 0x10000 then unicodeEscape v
  else
    [0x5C, 0x55, 0x30, 0x30, hexOf (v / 0x100000 % 16), hexOf (v / 0x10000 % 16),
      hexOf (v / 0x1000 % 16), hexOf (v / 0x100 % 16), hexOf (v / 0x10 % 16), hexOf (v % 16)]

def reprChar (quote c : CodePoint) : Str :=
  if c = quote ∨ c = 0x5C then [0x5C, c]
  else if c = 0x09 then [0x5C, 0x74]
  else if c = 0x0A then [0x5C, 0x6E]
  else if c = 0x0D then [0x5C, 0x72]
  else if c.val < 0x20 ∨ c.val = 0x7F then hexEscape c.val
  else if c.val < 0x7F then [c]
  else if isPrintable c then [c] else hexEscape c.val

/-- `str.__repr__`: double quotation marks only around a text that has single ones alone. -/
def reprText (s : Str) : Str :=
  let quote : CodePoint := if 0x27 ∈ s ∧ 0x22 ∉ s then 0x22 else 0x27
  quote :: s.flatMap (reprChar isPrintable quote) ++ [quote]

end Texts

section Values

mutual

/-- The value with the dictionaries that its objects become: a key keeps its first place, and its
last value counts. -/
def held : Json → Json
  | .arr items => .arr (heldItems items)
  | .obj members => .obj (Dict.ofList (heldMembers members))
  | value => value

def heldItems : List Json → List Json
  | [] => []
  | item :: items => held item :: heldItems items

def heldMembers : List (Str × Json) → List (Str × Json)
  | [] => []
  | (key, value) :: members => (key, held value) :: heldMembers members

end

mutual

/-- How deep lists and dictionaries nest in a value, their innermost values included. -/
def height : Json → Nat
  | .arr items => heightItems items + 1
  | .obj members => heightMembers members + 1
  | _ => 1

def heightItems : List Json → Nat
  | [] => 0
  | item :: items => max (height item) (heightItems items)

def heightMembers : List (Str × Json) → Nat
  | [] => 0
  | (_, value) :: members => max (height value) (heightMembers members)

end

/-- An integer with too many digits is a `ValueError`, and nesting beyond the limit a
`RecursionError`. -/
inductive ReprError
  | digits
  | recursion
  deriving DecidableEq, Repr

variable (isPrintable : CodePoint → Bool)

mutual

/-- `repr` of a value whose objects are dictionaries, with so many calls inside each other. -/
def reprOf : Json → Nat → Except ReprError Str
  | _, 0 => .error .recursion
  | .null, _ + 1 => .ok (ofString "None")
  | .bool value, _ + 1 => .ok (ofString (if value then "True" else "False"))
  | .int value, _ + 1 => (reprInt value).elim (.error .digits) .ok
  | .float lexeme, _ + 1 => .ok (PyFloats.repr (PyFloats.ofLexeme lexeme))
  | .str value, _ + 1 => .ok (reprText isPrintable value)
  | .arr items, nesting + 1 => do
    let texts ← reprItems items nesting
    .ok (0x5B :: (ofString ", ").intercalate texts ++ [0x5D])
  | .obj members, nesting + 1 => do
    let texts ← reprMembers members nesting
    .ok (0x7B :: (ofString ", ").intercalate texts ++ [0x7D])

def reprItems : List Json → Nat → Except ReprError (List Str)
  | [], _ => .ok []
  | item :: items, nesting => do
    let text ← reprOf item nesting
    let texts ← reprItems items nesting
    .ok (text :: texts)

/-- The `repr` of a key takes a call inside the dictionary's as that of its value does. -/
def reprMembers : List (Str × Json) → Nat → Except ReprError (List Str)
  | [], _ => .ok []
  | (key, value) :: members, nesting => do
    let text ← reprOf value nesting
    let texts ← reprMembers members nesting
    .ok ((reprText isPrintable key ++ ofString ": " ++ text) :: texts)

end

end Values

section Nesting

mutual

/-- No integer in the value has too many digits to be written. -/
def ShortInts : Json → Prop
  | .int value => (reprInt value).isSome = true
  | .arr items => ShortItems items
  | .obj members => ShortMembers members
  | _ => True

def ShortItems : List Json → Prop
  | [] => True
  | item :: items => ShortInts item ∧ ShortItems items

def ShortMembers : List (Str × Json) → Prop
  | [] => True
  | (_, value) :: members => ShortInts value ∧ ShortMembers members

end

theorem shortMembers_iff {members : List (Str × Json)} :
    ShortMembers members ↔ ∀ member ∈ members, ShortInts member.2 := by
  induction members with
  | nil => simp [ShortMembers]
  | cons member members ih => rw [ShortMembers, ih, List.forall_mem_cons]

mutual

theorem shortInts_held {value : Json} (h : ShortInts value) : ShortInts (held value) := by
  match value with
  | .null | .bool _ | .int _ | .float _ | .str _ => exact h
  | .arr items =>
    rw [ShortInts] at h
    rw [held, ShortInts]
    exact shortItems_held h
  | .obj members =>
    rw [ShortInts] at h
    rw [held, ShortInts, shortMembers_iff]
    intro member hmem
    exact shortMembers_iff.mp (shortMembers_held h) member (Dict.mem_ofList hmem)

theorem shortItems_held {items : List Json} (h : ShortItems items) : ShortItems (heldItems items) := by
  match items with
  | [] => exact h
  | item :: items =>
    rw [ShortItems] at h
    rw [heldItems, ShortItems]
    exact ⟨shortInts_held h.1, shortItems_held h.2⟩

theorem shortMembers_held {members : List (Str × Json)} (h : ShortMembers members) :
    ShortMembers (heldMembers members) := by
  match members with
  | [] => exact h
  | (key, value) :: members =>
    rw [ShortMembers] at h
    rw [heldMembers, ShortMembers]
    exact ⟨shortInts_held h.1, shortMembers_held h.2⟩

end

variable {isPrintable : CodePoint → Bool}

mutual

/-- Values are written up to the limit of the calls inside each other. -/
theorem reprOf_succeeds {value : Json} {nesting : Nat} (hshort : ShortInts value)
    (h : height value ≤ nesting) : Succeeds (reprOf isPrintable value nesting) := by
  match nesting, value with
  | 0, value =>
    cases value <;> simp [height] at h
  | nesting + 1, .null | nesting + 1, .bool _ | nesting + 1, .float _ | nesting + 1, .str _ =>
    exact ⟨_, rfl⟩
  | nesting + 1, .int value =>
    obtain ⟨digits, hdigits⟩ := Option.isSome_iff_exists.mp hshort
    rw [reprOf, hdigits]
    exact ⟨digits, rfl⟩
  | nesting + 1, .arr items =>
    rw [height] at h
    obtain ⟨texts, htexts⟩ := reprItems_succeeds hshort (show heightItems items ≤ nesting by omega)
    rw [reprOf, htexts]
    exact ⟨_, rfl⟩
  | nesting + 1, .obj members =>
    rw [height] at h
    obtain ⟨texts, htexts⟩ := reprMembers_succeeds hshort
      (show heightMembers members ≤ nesting by omega)
    rw [reprOf, htexts]
    exact ⟨_, rfl⟩

theorem reprItems_succeeds {items : List Json} {nesting : Nat} (hshort : ShortItems items)
    (h : heightItems items ≤ nesting) : Succeeds (reprItems isPrintable items nesting) := by
  match items with
  | [] => exact ⟨_, rfl⟩
  | item :: items =>
    rw [ShortItems] at hshort
    rw [heightItems] at h
    obtain ⟨text, htext⟩ := reprOf_succeeds hshort.1 (show height item ≤ nesting by omega)
    obtain ⟨texts, htexts⟩ := reprItems_succeeds hshort.2 (show heightItems items ≤ nesting by omega)
    rw [reprItems, htext, htexts]
    exact ⟨_, rfl⟩

theorem reprMembers_succeeds {members : List (Str × Json)} {nesting : Nat}
    (hshort : ShortMembers members) (h : heightMembers members ≤ nesting) :
    Succeeds (reprMembers isPrintable members nesting) := by
  match members with
  | [] => exact ⟨_, rfl⟩
  | (key, value) :: members =>
    rw [ShortMembers] at hshort
    rw [heightMembers] at h
    obtain ⟨text, htext⟩ := reprOf_succeeds hshort.1 (show height value ≤ nesting by omega)
    obtain ⟨texts, htexts⟩ := reprMembers_succeeds hshort.2
      (show heightMembers members ≤ nesting by omega)
    rw [reprMembers, htext, htexts]
    exact ⟨_, rfl⟩

end

mutual

/-- Beyond the limit, the first value that nests too deep ends the writing. -/
theorem reprOf_recursion {value : Json} {nesting : Nat} (hshort : ShortInts value)
    (h : nesting < height value) : reprOf isPrintable value nesting = .error .recursion := by
  match nesting, value with
  | 0, value => rw [reprOf]
  | nesting + 1, .null | nesting + 1, .bool _ | nesting + 1, .float _ | nesting + 1, .str _
  | nesting + 1, .int _ =>
    rw [height] at h
    · omega
    all_goals nofun
  | nesting + 1, .arr items =>
    rw [height] at h
    rw [reprOf, reprItems_recursion hshort (show nesting < heightItems items by omega)]
    rfl
  | nesting + 1, .obj members =>
    rw [height] at h
    rw [reprOf, reprMembers_recursion hshort (show nesting < heightMembers members by omega)]
    rfl

theorem reprItems_recursion {items : List Json} {nesting : Nat} (hshort : ShortItems items)
    (h : nesting < heightItems items) : reprItems isPrintable items nesting = .error .recursion := by
  match items with
  | [] => exact absurd h (Nat.not_lt_zero _)
  | item :: items =>
    rw [ShortItems] at hshort
    rw [heightItems] at h
    rw [reprItems]
    by_cases hitem : nesting < height item
    · rw [reprOf_recursion hshort.1 hitem]
      rfl
    · obtain ⟨text, htext⟩ : Succeeds (reprOf isPrintable item nesting) :=
        reprOf_succeeds hshort.1 (show height item ≤ nesting by omega)
      rw [htext, reprItems_recursion hshort.2 (show nesting < heightItems items by omega)]
      rfl

theorem reprMembers_recursion {members : List (Str × Json)} {nesting : Nat}
    (hshort : ShortMembers members) (h : nesting < heightMembers members) :
    reprMembers isPrintable members nesting = .error .recursion := by
  match members with
  | [] => exact absurd h (Nat.not_lt_zero _)
  | (key, value) :: members =>
    rw [ShortMembers] at hshort
    rw [heightMembers] at h
    rw [reprMembers]
    by_cases hvalue : nesting < height value
    · rw [reprOf_recursion hshort.1 hvalue]
      rfl
    · obtain ⟨text, htext⟩ : Succeeds (reprOf isPrintable value nesting) :=
        reprOf_succeeds hshort.1 (show height value ≤ nesting by omega)
      rw [htext, reprMembers_recursion hshort.2 (show nesting < heightMembers members by omega)]
      rfl

end

end Nesting

section Loads

theorem digitsValue_lt {digits : Str} (h : ∀ c ∈ digits, isDigit c = true) :
    digitsValue digits < 10 ^ digits.length := by
  induction digits using List.reverseRecOn with
  | nil => decide
  | append_singleton digits c ih =>
    have hdigits := ih fun d hd => h d (List.mem_append_left _ hd)
    have hc := h c (List.mem_append_right _ List.mem_cons_self)
    rw [isDigit, Bool.and_eq_true, decide_eq_true_eq, decide_eq_true_eq] at hc
    have hvalue : digitsValue (digits ++ [c]) = digitsValue digits * 10 + (c.val - 0x30) := by
      rw [digitsValue, List.foldl_append]
      rfl
    rw [hvalue, List.length_append, List.length_singleton, Nat.pow_succ]
    omega

theorem wholePart_digits {s whole t : Str} (h : wholePart s = some (whole, t)) :
    whole ≠ [] ∧ ∀ c ∈ whole, isDigit c = true := by
  match s, h with
  | c :: s, h =>
    rw [wholePart] at h
    split at h
    · rename_i hc
      obtain ⟨rfl, -⟩ := Prod.mk.inj (Option.some.inj h)
      exact ⟨List.cons_ne_nil _ _, List.forall_mem_singleton.mpr (hc ▸ rfl)⟩
    · split at h
      · rename_i hdigit
        obtain ⟨rfl, -⟩ := Prod.mk.inj (Option.some.inj h)
        exact ⟨List.cons_ne_nil _ _,
          List.forall_mem_cons.mpr ⟨hdigit, fun d hd => List.mem_takeWhile_imp hd⟩⟩
      · cases h

/-- A number is written in no more digits than it was read from. -/
theorem length_decimal_le {digits : Str} (hne : digits ≠ []) (h : ∀ c ∈ digits, isDigit c = true) :
    (decimal (digitsValue digits)).length ≤ digits.length := by
  have hpos := List.length_pos_of_ne_nil hne
  unfold decimal
  split
  · exact hpos
  · rw [List.length_map, List.length_reverse, Nat.digits_length_le_iff (by omega)]
    exact digitsValue_lt h

theorem matchNumber_shortInts {s rest : Str} {value : Json}
    (h : matchNumber s = some (value, rest)) : ShortInts value := by
  simp only [matchNumber] at h
  split at h
  · cases h
  · rename_i whole t hwhole
    obtain ⟨hne, hdigits⟩ := wholePart_digits hwhole
    have hlen := length_decimal_le hne hdigits
    split at h
    · split at h
      · rename_i hmax
        obtain ⟨rfl, -⟩ := Prod.mk.inj (Option.some.inj h)
        have habs : (if (splitSign [0x2D] s).1 = [] then (digitsValue whole : Int)
            else -digitsValue whole).natAbs = digitsValue whole := by
          split
          · exact Int.natAbs_natCast _
          · exact (Int.natAbs_neg _).trans (Int.natAbs_natCast _)
        rw [ShortInts, reprInt, habs, if_pos (hlen.trans hmax)]
        rfl
      · cases h
    · obtain ⟨rfl, -⟩ := Prod.mk.inj (Option.some.inj h)
      trivial

theorem scanAtom_shortInts {s rest : Str} {value : Json} (h : scanAtom s = some (value, rest)) :
    ShortInts value := by
  unfold scanAtom at h
  split at h
  · rename_i word _ hfind
    obtain ⟨rfl, -⟩ := Prod.mk.inj (Option.some.inj h)
    have hmem := List.mem_of_find?_eq_some hfind
    simp only [keywords, List.mem_cons, Prod.mk.injEq, List.not_mem_nil, or_false] at hmem
    rcases hmem with ⟨-, rfl⟩ | ⟨-, rfl⟩ | ⟨-, rfl⟩ | ⟨-, rfl⟩ | ⟨-, rfl⟩ | ⟨-, rfl⟩ <;> trivial
  · exact matchNumber_shortInts h

mutual

theorem scanOnce_shortInts {nesting fuel : Nat} {s rest : Str} {value : Json}
    (h : scanOnce nesting fuel s = .ok (value, rest)) : ShortInts value := by
  match fuel, s, h with
  | fuel + 1, c :: s, h =>
    rw [scanOnce.eq_def] at h
    simp only at h
    split at h
    · obtain ⟨⟨text, t⟩, -, h⟩ := map_eq_ok.mp h
      obtain ⟨rfl, -⟩ := Prod.mk.inj h
      trivial
    · split at h
      · split at h
        · cases h
        · split at h
          · cases h
            trivial
          · obtain ⟨⟨members, t⟩, hmembers, h⟩ := map_eq_ok.mp h
            obtain ⟨rfl, -⟩ := Prod.mk.inj h
            exact scanMembers_shortInts hmembers
      · split at h
        · split at h
          · cases h
          · split at h
            · cases h
              trivial
            · obtain ⟨⟨items, t⟩, hitems, h⟩ := map_eq_ok.mp h
              obtain ⟨rfl, -⟩ := Prod.mk.inj h
              exact scanItems_shortInts hitems
        · exact scanAtom_shortInts (ofOption_eq_ok h)

theorem scanMembers_shortInts {nesting fuel : Nat} {s rest : Str} {members : List (Str × Json)}
    (h : scanMembers nesting fuel s = .ok (members, rest)) : ShortMembers members := by
  match fuel, h with
  | fuel + 1, h =>
    rw [scanMembers] at h
    obtain ⟨s₁, -, h⟩ := bind_eq_ok.mp h
    obtain ⟨⟨key, s₂⟩, -, h⟩ := bind_eq_ok.mp h
    obtain ⟨s₃, -, h⟩ := bind_eq_ok.mp h
    obtain ⟨⟨value, s₄⟩, hvalue, h⟩ := bind_eq_ok.mp h
    have hvalue := scanOnce_shortInts hvalue
    simp only at h
    split at h
    · cases h
      exact ⟨hvalue, trivial⟩
    · obtain ⟨s₅, -, h⟩ := bind_eq_ok.mp h
      obtain ⟨⟨members, s₆⟩, hmembers, h⟩ := bind_eq_ok.mp h
      obtain ⟨rfl, -⟩ := Prod.mk.inj (Except.ok.inj h)
      exact ⟨hvalue, scanMembers_shortInts hmembers⟩

theorem scanItems_shortInts {nesting fuel : Nat} {s rest : Str} {items : List Json}
    (h : scanItems nesting fuel s = .ok (items, rest)) : ShortItems items := by
  match fuel, h with
  | fuel + 1, h =>
    rw [scanItems] at h
    obtain ⟨⟨value, s₁⟩, hvalue, h⟩ := bind_eq_ok.mp h
    have hvalue := scanOnce_shortInts hvalue
    simp only at h
    split at h
    · cases h
      exact ⟨hvalue, trivial⟩
    · obtain ⟨s₂, -, h⟩ := bind_eq_ok.mp h
      obtain ⟨⟨items, s₃⟩, hitems, h⟩ := bind_eq_ok.mp h
      obtain ⟨rfl, -⟩ := Prod.mk.inj (Except.ok.inj h)
      exact ⟨hvalue, scanItems_shortInts hitems⟩

end

/-- What was read from a document can be written again, as far as its integers go. -/
theorem loads_shortInts {nesting : Nat} {s : Str} {value : Json} (h : loads nesting s = .ok value) :
    ShortInts value := by
  obtain ⟨⟨value', rest⟩, hscan, h⟩ := bind_eq_ok.mp h
  simp only at h
  split at h
  · obtain rfl := Except.ok.inj h
    exact scanOnce_shortInts hscan
  · cases h

end Loads

end PyConversions
