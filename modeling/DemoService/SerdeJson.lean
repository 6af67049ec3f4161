import DemoService.PyJsonRoundTrip

/-! JSON as `serde_json` writes a value of texts and objects: without spaces, the members of an
object in the order of their keys, and only what must be escaped escaped. Python's `loads` reads
every such text back. -/

namespace SerdeJson

open CodePoints PyJson

inductive Value
  | str (value : List Char)
  | obj (members : List (List Char × Value))

/-- `Map::insert`: a member takes the place of the one with its key. -/
def insertMember (key : List Char) (value : Value) :
    List (List Char × Value) → List (List Char × Value)
  | [] => [(key, value)]
  | (k, v) :: members =>
    if key = k then (key, value) :: members
    else if key < k then (key, value) :: (k, v) :: members
    else (k, v) :: insertMember key value members

theorem insertMember_before {key k : List Char} (h : key < k) (value v : Value)
    (members : List (List Char × Value)) :
    insertMember key value ((k, v) :: members) = (key, value) :: (k, v) :: members := by
  have hne : key ≠ k := fun heq => List.lt_irrefl k (heq ▸ h)
  rw [insertMember, if_neg hne, if_pos h]

theorem insertMember_after {key k : List Char} (h : k < key) (value v : Value)
    (members : List (List Char × Value)) :
    insertMember key value ((k, v) :: members) = (k, v) :: insertMember key value members := by
  have hne : key ≠ k := fun heq => List.lt_irrefl k (heq ▸ h)
  rw [insertMember, if_neg hne, if_neg (List.lt_asymm h)]

/-- The object of the members written down in any order. -/
def object (members : List (String × Value)) : Value :=
  .obj (members.foldl (fun map member => insertMember member.1.toList member.2 map) [])

/-- An escaped character of `format_escaped_str`. -/
def escapeChar (c : CodePoint) : Str :=
  if c = 0x22 ∨ c = 0x5C then [0x5C, c]
  else if c = 0x08 then [0x5C, 0x62]
  else if c = 0x0C then [0x5C, 0x66]
  else if c = 0x0A then [0x5C, 0x6E]
  else if c = 0x0D then [0x5C, 0x72]
  else if c = 0x09 then [0x5C, 0x74]
  else if c.val < 0x20 then unicodeEscape c.val
  else [c]

def encodeString (s : List Char) : Str := 0x22 :: (s.map chr).flatMap escapeChar ++ [0x22]

mutual

/-- `to_string` of a value. -/
def Value.render : Value → Str
  | .str value => encodeString value
  | .obj members => 0x7B :: (renderMembers members ++ [0x7D])

def renderMembers : List (List Char × Value) → Str
  | [] => []
  | [(key, value)] => encodeString key ++ 0x3A :: value.render
  | (key, value) :: next :: members =>
    encodeString key ++ 0x3A :: (value.render ++ 0x2C :: renderMembers (next :: members))

end

mutual

/-- What `loads` makes of a value. -/
def Value.read : Value → Json
  | .str value => .str (value.map chr)
  | .obj members => .obj (readMembers members)

def readMembers : List (List Char × Value) → List (Str × Json)
  | [] => []
  | (key, value) :: members => (key.map chr, value.read) :: readMembers members

end

mutual

/-- How deep the objects of a value nest. -/
def Value.depth : Value → Nat
  | .str _ => 0
  | .obj members => depthMembers members + 1

def depthMembers : List (List Char × Value) → Nat
  | [] => 0
  | (_, value) :: members => max value.depth (depthMembers members)

end

section Strings

/-- What an escape can be: a backslash and a letter, the escape of a control character, or the
character as it is. -/
theorem escapeChar_cases (c : CodePoint) :
    (∃ d, escapeChar c = [0x5C, d] ∧ d ≠ 0x75 ∧ backslash? d = some c) ∨
      (escapeChar c = unicodeEscape c.val ∧ c.val < 0x20) ∨
      (escapeChar c = [c] ∧ c ≠ 0x22 ∧ c ≠ 0x5C ∧ 0x20 ≤ c.val) := by
  generalize hvalue : escapeChar c = value
  unfold escapeChar at hvalue
  split at hvalue
  · rename_i hc
    subst hvalue
    rcases hc with rfl | rfl
    · exact .inl ⟨0x22, rfl, by decide, rfl⟩
    · exact .inl ⟨0x5C, rfl, by decide, rfl⟩
  rename_i hplain
  obtain ⟨hquote, hback⟩ := not_or.mp hplain
  split at hvalue
  · rename_i hc
    subst hvalue hc
    exact .inl ⟨0x62, rfl, by decide, rfl⟩
  split at hvalue
  · rename_i hc
    subst hvalue hc
    exact .inl ⟨0x66, rfl, by decide, rfl⟩
  split at hvalue
  · rename_i hc
    subst hvalue hc
    exact .inl ⟨0x6E, rfl, by decide, rfl⟩
  split at hvalue
  · rename_i hc
    subst hvalue hc
    exact .inl ⟨0x72, rfl, by decide, rfl⟩
  split at hvalue
  · rename_i hc
    subst hvalue hc
    exact .inl ⟨0x74, rfl, by decide, rfl⟩
  split at hvalue
  · rename_i hcontrol
    exact .inr (.inl ⟨hvalue.symm, hcontrol⟩)
  · rename_i hcontrol
    exact .inr (.inr ⟨hvalue.symm, hquote, hback, Nat.le_of_not_lt hcontrol⟩)

/-- An escaped character is read back as itself. -/
theorem scanChar_escapeChar (c : CodePoint) (s : Str) :
    ∃ d t, escapeChar c ++ s = d :: t ∧ d ≠ 0x22 ∧ scanChar d t = some (c, s) := by
  rcases escapeChar_cases c with ⟨d, hd, hunicode, hback⟩ | ⟨hd, hcontrol⟩ |
    ⟨hd, hquote, hback, hlow⟩
  · refine ⟨0x5C, d :: s, by rw [hd]; rfl, by decide, ?_⟩
    rw [scanChar, if_neg (by decide), if_pos rfl, scanEscape, if_neg hunicode, hback]
    rfl
  · refine ⟨0x5C, (unicodeEscape c.val).tail ++ s, by rw [hd]; rfl, by decide, ?_⟩
    have hhigh : ¬ isHigh c = true := by
      simp only [isHigh, Bool.and_eq_true, decide_eq_true_eq]
      omega
    rw [scanChar_unicodeEscape (by omega), Fin.ofNat_val_eq_self, if_neg hhigh]
  · refine ⟨c, s, by rw [hd]; rfl, hquote, ?_⟩
    rw [scanChar, if_neg (by omega), if_neg hback]

theorem scanString_flatMap (s rest : Str) {fuel : Nat} (h : s.length < fuel) :
    scanString fuel (s.flatMap escapeChar ++ 0x22 :: rest) = some (s, rest) := by
  induction s generalizing fuel with
  | nil =>
    obtain ⟨fuel, rfl⟩ := Nat.exists_eq_succ_of_ne_zero (Nat.ne_zero_of_lt h)
    exact scanString_quote fuel rest
  | cons c s ih =>
    rw [List.length_cons] at h
    obtain ⟨fuel, rfl⟩ := Nat.exists_eq_succ_of_ne_zero (Nat.ne_zero_of_lt h)
    obtain ⟨d, t, heq, hquote, hscan⟩ := scanChar_escapeChar c (s.flatMap escapeChar ++ 0x22 :: rest)
    rw [List.flatMap_cons, List.append_assoc, heq, scanString_char hquote hscan,
      ih (show s.length < fuel by omega)]
    rfl

theorem length_flatMap_escapeChar (s : Str) : s.length ≤ (s.flatMap escapeChar).length := by
  induction s with
  | nil => simp
  | cons c s ih =>
    have hpos : 0 < (escapeChar c).length := by
      rcases escapeChar_cases c with ⟨d, hd, -⟩ | ⟨hd, -⟩ | ⟨hd, -⟩
      · rw [hd]
        exact Nat.succ_pos _
      · rw [hd]
        exact Nat.succ_pos _
      · rw [hd]
        exact Nat.succ_pos _
    rw [List.flatMap_cons, List.length_append, List.length_cons]
    omega

/-- The string that starts after a quotation mark ends with the text and its closing mark. -/
theorem scanString_encoded (s : List Char) (rest : Str) :
    scanString (((s.map chr).flatMap escapeChar ++ 0x22 :: rest).length + 1)
      ((s.map chr).flatMap escapeChar ++ 0x22 :: rest) = some (s.map chr, rest) := by
  have hlen := length_flatMap_escapeChar (s.map chr)
  apply scanString_flatMap
  rw [List.length_append]
  omega

theorem encodeString_append (s : List Char) (rest : Str) :
    encodeString s ++ rest = 0x22 :: ((s.map chr).flatMap escapeChar ++ 0x22 :: rest) := by
  simp [encodeString]

theorem two_le_length_encodeString (s : List Char) : 2 ≤ (encodeString s).length := by
  simp [encodeString]

end Strings

section Values

/-- A value starts with a quotation mark or a brace, so nothing of it is skipped. -/
theorem render_head (value : Value) (rest : Str) :
    skipSpace (value.render ++ rest) = value.render ++ rest := by
  cases value with
  | str value => rfl
  | obj members => rfl

theorem renderMembers_cons (key : List Char) (value : Value) (next : List Char × Value)
    (members : List (List Char × Value)) : renderMembers ((key, value) :: next :: members) =
      encodeString key ++ 0x3A :: (value.render ++ 0x2C :: renderMembers (next :: members)) := rfl

/-- The members of an object start with the quotation mark of the first key. -/
theorem renderMembers_head (member : List Char × Value) (members : List (List Char × Value))
    (rest : Str) : ∃ t, renderMembers (member :: members) ++ rest = 0x22 :: t := by
  obtain ⟨key, value⟩ := member
  cases members with
  | nil => exact ⟨_, rfl⟩
  | cons next members => exact ⟨_, rfl⟩

/-- One member is read as its key and whatever its value is read as. -/
theorem scanMembers_member {nesting fuel : Nat} (key : List Char) {value : Value} {rest more : Str}
    (hscan : scanOnce nesting fuel (value.render ++ more) = .ok (value.read, more))
    (hspace : skipSpace more = more) (hmore : rest = encodeString key ++ 0x3A :: (value.render ++ more)) :
    scanMembers nesting (fuel + 1) rest =
      match expect 0x7D more with
      | .ok t => .ok ([(key.map chr, value.read)], t)
      | .error _ =>
        expect 0x2C more >>= fun s =>
          (scanMembers nesting fuel (skipSpace s)).map fun r =>
            ((key.map chr, value.read) :: r.1, r.2) := by
  have hquote : expect 0x22 (encodeString key ++ 0x3A :: (value.render ++ more)) =
      .ok ((key.map chr).flatMap escapeChar ++ 0x22 :: (0x3A :: (value.render ++ more))) := by
    rw [encodeString_append]
    rfl
  have hcolon : expect 0x3A (skipSpace (0x3A :: (value.render ++ more))) =
      .ok (value.render ++ more) := rfl
  rw [hmore, scanMembers, hquote]
  simp only [bind, Except.bind, scanString_encoded, ofOption, hcolon, render_head, hscan, hspace]
  rfl

mutual

/-- A value at the head of a text is read back, with fuel for each of its characters. -/
theorem scanOnce_render {nesting fuel : Nat} (value : Value) (rest : Str)
    (hdepth : value.depth ≤ nesting) (hfuel : value.render.length < fuel) :
    scanOnce nesting fuel (value.render ++ rest) = .ok (value.read, rest) := by
  obtain ⟨fuel, rfl⟩ := Nat.exists_eq_succ_of_ne_zero (Nat.ne_zero_of_lt hfuel)
  match value with
  | .str value =>
    rw [Value.render, encodeString_append, scanOnce.eq_def]
    simp only [if_true, scanString_encoded]
    rfl
  | .obj [] =>
    obtain ⟨nesting, rfl⟩ := Nat.exists_eq_succ_of_ne_zero
      (show nesting ≠ 0 by simp only [Value.depth] at hdepth; omega)
    rw [scanOnce.eq_def]
    rfl
  | .obj (member :: members) =>
    simp only [Value.depth] at hdepth
    obtain ⟨nesting, rfl⟩ := Nat.exists_eq_succ_of_ne_zero (show nesting ≠ 0 by omega)
    simp only [Value.render, List.length_cons, List.length_append] at hfuel
    have hmembers := scanMembers_render member members rest
      (show depthMembers (member :: members) ≤ nesting by omega)
      (show (renderMembers (member :: members)).length + 1 < fuel by omega)
    obtain ⟨t, hhead⟩ := renderMembers_head member members (0x7D :: rest)
    have hspace : skipSpace (renderMembers (member :: members) ++ 0x7D :: rest) =
        renderMembers (member :: members) ++ 0x7D :: rest := by
      rw [hhead]
      rfl
    have hopen : expect 0x7D (renderMembers (member :: members) ++ 0x7D :: rest) =
        .error .decode := by
      rw [hhead]
      rfl
    rw [Value.render, List.cons_append, List.append_assoc, List.singleton_append, scanOnce.eq_def]
    simp only [show ¬ (0x7B : CodePoint) = 0x22 by decide, if_false, if_true, hspace, hopen,
      hmembers]
    rfl

theorem scanMembers_render {nesting fuel : Nat} (member : List Char × Value)
    (members : List (List Char × Value)) (rest : Str)
    (hdepth : depthMembers (member :: members) ≤ nesting)
    (hfuel : (renderMembers (member :: members)).length + 1 < fuel) :
    scanMembers nesting fuel (renderMembers (member :: members) ++ 0x7D :: rest) =
      .ok (readMembers (member :: members), rest) := by
  obtain ⟨fuel, rfl⟩ := Nat.exists_eq_succ_of_ne_zero (Nat.ne_zero_of_lt hfuel)
  obtain ⟨key, value⟩ := member
  have hkey := two_le_length_encodeString key
  simp only [depthMembers] at hdepth
  match members with
  | [] =>
    simp only [renderMembers, List.length_append, List.length_cons] at hfuel
    have hvalue := scanOnce_render value (0x7D :: rest) (show value.depth ≤ nesting by omega)
      (show value.render.length < fuel by omega)
    rw [scanMembers_member key hvalue rfl (by simp [renderMembers])]
    rfl
  | next :: members =>
    rw [renderMembers_cons] at hfuel
    simp only [List.length_append, List.length_cons] at hfuel
    have hvalue := scanOnce_render value
      (0x2C :: (renderMembers (next :: members) ++ 0x7D :: rest))
      (show value.depth ≤ nesting by omega) (show value.render.length < fuel by omega)
    have hnext := scanMembers_render next members rest
      (show depthMembers (next :: members) ≤ nesting by omega)
      (show (renderMembers (next :: members)).length + 1 < fuel by omega)
    have hspace : skipSpace (renderMembers (next :: members) ++ 0x7D :: rest) =
        renderMembers (next :: members) ++ 0x7D :: rest := by
      obtain ⟨t, hhead⟩ := renderMembers_head next members (0x7D :: rest)
      rw [hhead]
      rfl
    rw [scanMembers_member key hvalue rfl (by simp [renderMembers_cons])]
    show (scanMembers nesting fuel
      (skipSpace (renderMembers (next :: members) ++ 0x7D :: rest))).map _ = _
    rw [hspace, hnext]
    rfl

end

/-- `loads` undoes `to_string` for every value that nests no deeper than it allows. -/
theorem loads_render {nesting : Nat} (value : Value) (hdepth : value.depth ≤ nesting) :
    loads nesting value.render = .ok value.read := by
  have hskip := render_head value []
  have hscan := scanOnce_render value [] hdepth
    (show value.render.length < 2 * value.render.length + 2 by omega)
  rw [List.append_nil] at hskip hscan
  rw [loads, hskip, hscan]
  rfl

end Values

end SerdeJson
