import DemoService.PyText

/-! `str.lower` with its two characters that are not replaced one by one: the capital I with a dot,
which becomes two characters, and the capital sigma, of whose two small letters the neighbours
decide. What the other characters become is a table of the interpreter's version of Unicode. -/

namespace PyText

/-- The case properties of characters. -/
structure CaseTable where
  lowerChar : Char → Char
  isCased : Char → Bool
  isCaseIgnorable : Char → Bool

variable (table : CaseTable)

/-- The next character that counts for the case of its neighbours is a cased one. -/
def CaseTable.meetsCased (s : Text) : Bool :=
  (s.dropWhile table.isCaseIgnorable).head?.any table.isCased

/-- `handle_capital_sigma`, with the characters before it in reverse: at the end of a word it
becomes the final form. -/
def CaseTable.smallSigma (before after : Text) : Char :=
  if table.meetsCased before && !table.meetsCased after then 'ς' else 'σ'

/-- `lower_ucs4`. -/
def CaseTable.lowerAt (before : Text) (c : Char) (after : Text) : Text :=
  if c = 'Σ' then [table.smallSigma before after]
  else if c = 'İ' then ['i', '\u0307']
  else [table.lowerChar c]

def CaseTable.lowerFrom : Text → Text → Text
  | _, [] => []
  | before, c :: after => table.lowerAt before c after ++ CaseTable.lowerFrom (c :: before) after

/-- `str.lower`. -/
def CaseTable.lower (s : Text) : Text := table.lowerFrom [] s

/-- The small sigmas counted as one letter. -/
def foldSigma (c : Char) : Char := if c = 'ς' then 'σ' else c

/-- What a character becomes, whichever small sigma that is. -/
def CaseTable.foldChar (c : Char) : Char := if c = 'Σ' then 'σ' else foldSigma (table.lowerChar c)

/-- The texts are the same up to letter case. -/
def CaseTable.SameCase (a b : Text) : Prop :=
  (table.lower a).map foldSigma = (table.lower b).map foldSigma

variable {table}

theorem foldSigma_lowerAt {c : Char} (h : c ≠ 'İ') (before after : Text) :
    (table.lowerAt before c after).map foldSigma = [table.foldChar c] := by
  unfold CaseTable.lowerAt CaseTable.foldChar
  by_cases hsigma : c = 'Σ'
  · have hsmall : foldSigma (table.smallSigma before after) = 'σ' := by
      unfold CaseTable.smallSigma
      split <;> decide
    rw [if_pos hsigma, if_pos hsigma, List.map_singleton, hsmall]
  · rw [if_neg hsigma, if_neg h, if_neg hsigma, List.map_singleton]

theorem foldSigma_lowerFrom {s : Text} (h : 'İ' ∉ s) (before : Text) :
    (table.lowerFrom before s).map foldSigma = s.map table.foldChar := by
  induction s generalizing before with
  | nil => rfl
  | cons c s ih =>
    have hc : c ≠ 'İ' := fun heq => h (heq ▸ List.mem_cons_self)
    have hs : 'İ' ∉ s := fun hmem => h (List.mem_cons_of_mem c hmem)
    rw [CaseTable.lowerFrom, List.map_append, foldSigma_lowerAt hc, ih hs]
    rfl

/-- Up to the form of a sigma, a text without the dotted capital I is lowered character by
character. -/
theorem foldSigma_lower {s : Text} (h : 'İ' ∉ s) :
    (table.lower s).map foldSigma = s.map table.foldChar :=
  foldSigma_lowerFrom h []

theorem sameCase_iff {a b : Text} (ha : 'İ' ∉ a) (hb : 'İ' ∉ b) :
    table.SameCase a b ↔ a.map table.foldChar = b.map table.foldChar := by
  rw [CaseTable.SameCase, foldSigma_lower ha, foldSigma_lower hb]

/-- Where a text is found in another one after both were lowered, a part of the other one that is
the same up to letter case stands there. -/
theorem sameCase_of_lower {text needle front back : Text} (htext : 'İ' ∉ text)
    (hneedle : 'İ' ∉ needle) (h : table.lower text = front ++ table.lower needle ++ back) :
    front.length + needle.length ≤ text.length ∧
      table.SameCase ((text.drop front.length).take needle.length) needle := by
  have hmap := congrArg (List.map foldSigma) h
  rw [List.map_append, List.map_append, foldSigma_lower htext, foldSigma_lower hneedle] at hmap
  have hlength := congrArg List.length hmap
  simp only [List.length_map, List.length_append] at hlength
  refine ⟨by omega, (sameCase_iff (fun hmem => ?_) hneedle).mpr ?_⟩
  · exact htext (List.mem_of_mem_drop (List.mem_of_mem_take hmem))
  · rw [List.map_take, List.map_drop, hmap, List.append_assoc, List.drop_left' (List.length_map _),
      List.take_left' (List.length_map _)]

end PyText
