import DemoService.PyJson

/-! Reading back what `dumps` writes: `loads` undoes it up to the order of the members, and up to
joining the halves of surrogate pairs that stand next to each other. -/

namespace PyJson

open CodePoints

theorem hexDigit?_hexOf {v : Nat} (h : v < 16) : hexDigit? (hexOf v) = some v := by
  have hall : ∀ w : Fin 16, hexDigit? (hexOf w) = some w.val := by decide +kernel
  exact hall ⟨v, h⟩

theorem hex4_digits {v : Nat} (h : v < 0x10000) (s : Str) :
    hex4 (hexOf (v / 0x1000 % 16) :: hexOf (v / 0x100 % 16) :: hexOf (v / 0x10 % 16) ::
      hexOf (v % 16) :: s) = some (Fin.ofNat 0x110000 v, s) := by
  have hsum : v / 0x1000 % 16 * 0x1000 + v / 0x100 % 16 * 0x100 + v / 0x10 % 16 * 0x10 + v % 16 =
      v := by omega
  simp only [hex4, hexDigit?_hexOf (Nat.mod_lt _ (show 0 < 16 by omega))]
  simp [hsum]

theorem lowEscape_unicodeEscape {v : Nat} (h : v < 0x10000) (s : Str) :
    lowEscape (unicodeEscape v ++ s) =
      if isLow (Fin.ofNat 0x110000 v) then some (Fin.ofNat 0x110000 v, s) else none := by
  simp only [unicodeEscape, List.cons_append, List.nil_append, lowEscape, and_self, if_true,
    hex4_digits h, Option.filter_some]

/-- A `\u` escape is read as its unit, with the low half after it if it is a high half. -/
theorem scanChar_unicodeEscape {v : Nat} (h : v < 0x10000) (s : Str) :
    scanChar 0x5C ((unicodeEscape v).tail ++ s) =
      if isHigh (Fin.ofNat 0x110000 v) then
        match lowEscape s with
        | some (low, u) => some (joinPair (Fin.ofNat 0x110000 v) low, u)
        | none => some (Fin.ofNat 0x110000 v, s)
      else some (Fin.ofNat 0x110000 v, s) := by
  simp only [unicodeEscape, List.tail_cons, List.cons_append, List.nil_append, scanChar, if_true,
    scanEscape, hex4_digits h]
  rfl

/-- What an escape can be: a backslash and a letter, a printable character as it is, or the
escapes of one unit or two. -/
theorem escapeChar_cases (c : CodePoint) :
    (∃ d, escapeChar c = [0x5C, d] ∧ d ≠ 0x75 ∧ (0x20 ≤ d.val ∧ d.val ≤ 0x7E) ∧
        backslash? d = some c ∧ c.val < 0x80) ∨
      (escapeChar c = [c] ∧ c ≠ 0x22 ∧ c ≠ 0x5C ∧ 0x20 ≤ c.val ∧ c.val ≤ 0x7E) ∨
      (escapeChar c = unicodeEscape c.val ∧ c.val < 0x10000) ∨
      escapeChar c = unicodeEscape (0xD800 + (c.val - 0x10000) / 0x400) ++
        unicodeEscape (0xDC00 + (c.val - 0x10000) % 0x400) ∧ 0x10000 ≤ c.val := by
  generalize hvalue : escapeChar c = value
  unfold escapeChar at hvalue
  split at hvalue
  · rename_i hc
    subst hvalue
    rcases hc with rfl | rfl
    · exact .inl ⟨0x22, rfl, by decide, by decide, rfl, by decide⟩
    · exact .inl ⟨0x5C, rfl, by decide, by decide, rfl, by decide⟩
  split at hvalue
  · rename_i hc
    subst hvalue hc
    exact .inl ⟨0x62, rfl, by decide, by decide, rfl, by decide⟩
  split at hvalue
  · rename_i hc
    subst hvalue hc
    exact .inl ⟨0x66, rfl, by decide, by decide, rfl, by decide⟩
  split at hvalue
  · rename_i hc
    subst hvalue hc
    exact .inl ⟨0x6E, rfl, by decide, by decide, rfl, by decide⟩
  split at hvalue
  · rename_i hc
    subst hvalue hc
    exact .inl ⟨0x72, rfl, by decide, by decide, rfl, by decide⟩
  split at hvalue
  · rename_i hc
    subst hvalue hc
    exact .inl ⟨0x74, rfl, by decide, by decide, rfl, by decide⟩
  split at hvalue
  · rename_i hplain _ _ _ _ _ hprintable
    obtain ⟨hquote, hback⟩ := not_or.mp hplain
    exact .inr (.inl ⟨hvalue.symm, hquote, hback, hprintable⟩)
  split at hvalue
  · rename_i hunit
    exact .inr (.inr (.inl ⟨hvalue.symm, hunit⟩))
  · rename_i hunit
    exact .inr (.inr (.inr ⟨hvalue.symm, Nat.le_of_not_lt hunit⟩))

/-- An escaped character is read back as itself, unless it is a high half before a low one. -/
theorem scanChar_escapeChar (c : CodePoint) {s : Str} (h : isHigh c → lowEscape s = none) :
    ∃ d t, escapeChar c ++ s = d :: t ∧ d ≠ 0x22 ∧ scanChar d t = some (c, s) := by
  have hlt := c.isLt
  have hself : Fin.ofNat 0x110000 c.val = c := Fin.ofNat_val_eq_self c
  rcases escapeChar_cases c with
    ⟨d, hd, hunicode, -, hback, -⟩ | ⟨hd, hquote, hback, hlow, -⟩ | ⟨hd, hunit⟩ | ⟨hd, hunit⟩
  · refine ⟨0x5C, d :: s, by rw [hd]; rfl, by decide, ?_⟩
    rw [scanChar, if_neg (by decide), if_pos rfl, scanEscape, if_neg hunicode, hback]
    rfl
  · refine ⟨c, s, by rw [hd]; rfl, hquote, ?_⟩
    rw [scanChar, if_neg (by omega), if_neg hback]
  · refine ⟨0x5C, (unicodeEscape c.val).tail ++ s, by rw [hd]; rfl, by decide, ?_⟩
    rw [scanChar_unicodeEscape hunit, hself]
    by_cases hhigh : isHigh c
    · rw [if_pos hhigh, h hhigh]
    · rw [if_neg hhigh]
  · have hhigh : 0xD800 + (c.val - 0x10000) / 0x400 < 0xDC00 := by omega
    have hlow : 0xDC00 + (c.val - 0x10000) % 0x400 < 0xE000 := by omega
    refine ⟨0x5C, (unicodeEscape (0xD800 + (c.val - 0x10000) / 0x400)).tail ++
      (unicodeEscape (0xDC00 + (c.val - 0x10000) % 0x400) ++ s), by rw [hd]; rfl, by decide, ?_⟩
    have hunits := val_ofNat (show 0xD800 + (c.val - 0x10000) / 0x400 < 0x110000 by omega)
    have hlows := val_ofNat (show 0xDC00 + (c.val - 0x10000) % 0x400 < 0x110000 by omega)
    have hjoin : joinPair (Fin.ofNat 0x110000 (0xD800 + (c.val - 0x10000) / 0x400))
        (Fin.ofNat 0x110000 (0xDC00 + (c.val - 0x10000) % 0x400)) = c := by
      apply Fin.ext
      rw [joinPair, hunits, hlows, val_ofNat (by omega)]
      omega
    rw [scanChar_unicodeEscape (by omega), lowEscape_unicodeEscape (by omega),
      if_pos (isHigh_ofNat (by omega) hhigh), if_pos (isLow_ofNat (by omega) hlow)]
    simp only [hjoin]

theorem lowEscape_of_ne {c d : CodePoint} {s : Str} (h : ¬ (c = 0x5C ∧ d = 0x75)) :
    lowEscape (c :: d :: s) = none := by
  rw [lowEscape, if_neg h]

/-- What a high half sees of the escape after it: whether it is that of a low half. -/
theorem lowEscape_escapeChar (c : CodePoint) (s : Str) :
    lowEscape (escapeChar c ++ s) = if isLow c then some (c, s) else none := by
  rcases escapeChar_cases c with
    ⟨d, hd, hunicode, -, -, hascii⟩ | ⟨hd, -, hback, -, hhigh⟩ | ⟨hd, hunit⟩ | ⟨hd, hunit⟩
  · rw [hd, if_neg (not_isLow (.inl (by omega)))]
    exact lowEscape_of_ne fun h => hunicode h.2
  · rw [hd, if_neg (not_isLow (.inl (by omega)))]
    cases s with
    | nil => rfl
    | cons d s => exact lowEscape_of_ne fun h => hback h.1
  · rw [hd, lowEscape_unicodeEscape hunit, Fin.ofNat_val_eq_self c]
  · have hhigh : 0xD800 + (c.val - 0x10000) / 0x400 < 0xDC00 := by omega
    rw [hd, if_neg (not_isLow (.inr (by omega))), List.append_assoc,
      lowEscape_unicodeEscape (by omega), if_neg]
    apply not_isLow
    rw [val_ofNat (by omega)]
    exact .inl hhigh

theorem scanString_char {c d : CodePoint} {s t : Str} (hquote : c ≠ 0x22)
    (h : scanChar c s = some (d, t)) (fuel : Nat) :
    scanString (fuel + 1) (c :: s) = (scanString fuel t).map fun r => (d :: r.1, r.2) := by
  rw [scanString, if_neg hquote, h]

theorem escapeChar_of_isHigh {c : CodePoint} (h : isHigh c) : escapeChar c = unicodeEscape c.val := by
  simp only [isHigh, Bool.and_eq_true, decide_eq_true_eq] at h
  have hne : ∀ d : CodePoint, d.val < 0x80 → c ≠ d := by
    intro d hd hcd
    subst hcd
    omega
  rw [escapeChar, if_neg (not_or.mpr ⟨hne 0x22 (by decide), hne 0x5C (by decide)⟩),
    if_neg (hne 0x08 (by decide)), if_neg (hne 0x0C (by decide)), if_neg (hne 0x0A (by decide)),
    if_neg (hne 0x0D (by decide)), if_neg (hne 0x09 (by decide)), if_neg (by omega),
    if_pos (by omega)]

/-- The escapes of a high half and a low half after it are read as one code point. -/
theorem scanChar_pair {high low : CodePoint} (hhigh : isHigh high) (hlow : isLow low) (s : Str) :
    ∃ t, escapeChar high ++ (escapeChar low ++ s) = 0x5C :: t ∧
      scanChar 0x5C t = some (joinPair high low, s) := by
  have hunit : high.val < 0x10000 := by
    simp only [isHigh, Bool.and_eq_true, decide_eq_true_eq] at hhigh
    omega
  refine ⟨(unicodeEscape high.val).tail ++ (escapeChar low ++ s), ?_, ?_⟩
  · rw [escapeChar_of_isHigh hhigh]
    rfl
  · rw [scanChar_unicodeEscape hunit, Fin.ofNat_val_eq_self, if_pos hhigh,
      lowEscape_escapeChar, if_pos hlow]

theorem scanString_quote (fuel : Nat) (rest : Str) :
    scanString (fuel + 1) (0x22 :: rest) = some ([], rest) := by
  rw [scanString, if_pos rfl]

/-- Reading a string back joins the halves that stand next to each other, and changes nothing
else. -/
theorem scanString_flatMap (s rest : Str) {fuel : Nat} (h : s.length < fuel) :
    scanString fuel (s.flatMap escapeChar ++ 0x22 :: rest) = some (joinSurrogates s, rest) := by
  obtain ⟨fuel, rfl⟩ := Nat.exists_eq_succ_of_ne_zero (Nat.ne_zero_of_lt h)
  induction s using joinSurrogates.induct generalizing fuel with
  | case1 => exact scanString_quote fuel rest
  | case2 c =>
    simp only [List.length_cons, List.length_nil] at h
    obtain ⟨fuel, rfl⟩ := Nat.exists_eq_succ_of_ne_zero (show fuel ≠ 0 by omega)
    have hnone : lowEscape (0x22 :: rest) = none := by
      cases rest with
      | nil => rfl
      | cons d rest => exact lowEscape_of_ne (by simp)
    obtain ⟨d, t, heq, hquote, hscan⟩ := scanChar_escapeChar c (fun _ => hnone)
    rw [List.flatMap_cons, List.flatMap_nil, List.append_nil, heq,
      scanString_char hquote hscan, scanString_quote]
    rfl
  | case3 high low s hpair ih =>
    rw [Bool.and_eq_true] at hpair
    simp only [List.length_cons] at h
    obtain ⟨fuel, rfl⟩ := Nat.exists_eq_succ_of_ne_zero (show fuel ≠ 0 by omega)
    obtain ⟨t, heq, hscan⟩ := scanChar_pair hpair.1 hpair.2 (s.flatMap escapeChar ++ 0x22 :: rest)
    rw [List.flatMap_cons, List.flatMap_cons, List.append_assoc, List.append_assoc, heq,
      scanString_char (by decide) hscan, ih _ (by omega)]
    simp [joinSurrogates, hpair]
  | case4 high low s hpair ih =>
    rw [List.length_cons] at h
    obtain ⟨fuel, rfl⟩ := Nat.exists_eq_succ_of_ne_zero (show fuel ≠ 0 by omega)
    have hnone : isHigh high → lowEscape ((low :: s).flatMap escapeChar ++ 0x22 :: rest) = none := by
      intro hhigh
      rw [List.flatMap_cons, List.append_assoc, lowEscape_escapeChar, if_neg]
      intro hlow
      exact hpair (by simp [hhigh, hlow])
    obtain ⟨d, t, heq, hquote, hscan⟩ := scanChar_escapeChar high hnone
    rw [List.flatMap_cons, List.append_assoc, heq, scanString_char hquote hscan, ih _ (by omega),
      joinSurrogates, if_neg hpair]
    rfl

theorem digitsValue_decimal (n : Nat) : digitsValue (decimal n) = n := by
  unfold decimal
  split
  · rename_i h
    rw [h]
    rfl
  · have hvalue : ∀ digits : List Nat, (∀ d ∈ digits, d < 10) →
        digitsValue (digits.reverse.map fun d => Fin.ofNat 0x110000 (0x30 + d)) =
          Nat.ofDigits 10 digits := by
      intro digits hdigits
      induction digits with
      | nil => rfl
      | cons d digits ih =>
        have hd := hdigits d (List.mem_cons_self ..)
        have hrest := ih fun e he => hdigits e (List.mem_cons_of_mem d he)
        rw [digitsValue] at hrest
        rw [digitsValue, List.reverse_cons, List.map_append, List.foldl_append, hrest,
          Nat.ofDigits_cons, List.map_singleton, List.foldl_cons, List.foldl_nil,
          val_ofNat (by omega)]
        show _ * 10 + (0x30 + d - 0x30) = d + 10 * _
        omega
    rw [hvalue _ fun d hd => Nat.digits_lt_base (by omega) hd, Nat.ofDigits_digits]

theorem isDigit_ofNat {d : Nat} (h : d < 10) : isDigit (Fin.ofNat 0x110000 (0x30 + d)) = true := by
  rw [isDigit, val_ofNat (by omega)]
  simp only [Bool.and_eq_true, decide_eq_true_eq]
  omega

/-- A decimal is a zero alone, or digits that do not start with a zero. -/
theorem decimal_cases (n : Nat) :
    decimal n = [0x30] ∨ ∃ d s, decimal n = d :: s ∧ d ≠ 0x30 ∧ ∀ c ∈ d :: s, isDigit c = true := by
  by_cases h : n = 0
  · exact .inl (if_pos h)
  · right
    have hne : Nat.digits 10 n ≠ [] := Nat.digits_ne_nil_iff_ne_zero.mpr h
    have hlast := Nat.getLast_digit_ne_zero 10 h
    have hlt := Nat.digits_lt_base (show 1 < 10 by omega) (List.getLast_mem hne)
    have hdecimal : decimal n = Fin.ofNat 0x110000 (0x30 + (Nat.digits 10 n).getLast hne) ::
        (Nat.digits 10 n).dropLast.reverse.map fun d => Fin.ofNat 0x110000 (0x30 + d) := by
      rw [decimal, if_neg h]
      conv_lhs => rw [← List.dropLast_append_getLast hne]
      rw [List.reverse_append, List.reverse_singleton, List.singleton_append, List.map_cons]
    refine ⟨_, _, hdecimal, ?_, ?_⟩
    · intro hzero
      have hval := congrArg Fin.val hzero
      rw [val_ofNat (by omega)] at hval
      have hthirty : (0x30 : CodePoint).val = 0x30 := rfl
      omega
    · intro c hc
      rw [List.mem_cons, List.mem_map] at hc
      rcases hc with rfl | ⟨d, hd, rfl⟩
      · exact isDigit_ofNat hlt
      · rw [List.mem_reverse] at hd
        exact isDigit_ofNat (Nat.digits_lt_base (by omega) (List.mem_of_mem_dropLast hd))

/-- What may stand after a number in an object. -/
def Closes (rest : Str) : Prop := ∃ t, rest = 0x2C :: t ∨ rest = 0x7D :: t

theorem wholePart_decimal (n : Nat) {rest : Str} (h : Closes rest) :
    wholePart (decimal n ++ rest) = some (decimal n, rest) := by
  have hstop : rest.takeWhile isDigit = [] ∧ rest.dropWhile isDigit = rest := by
    obtain ⟨t, rfl | rfl⟩ := h
    · exact ⟨rfl, rfl⟩
    · exact ⟨rfl, rfl⟩
  rcases decimal_cases n with hzero | ⟨d, s, hdecimal, hne, hdigits⟩
  · rw [hzero, List.singleton_append, wholePart, if_pos rfl]
  · rw [List.forall_mem_cons] at hdigits
    rw [hdecimal, List.cons_append, wholePart, if_neg hne, if_pos hdigits.1,
      List.takeWhile_append_of_pos hdigits.2, List.dropWhile_append_of_pos hdigits.2,
      hstop.1, hstop.2, List.append_nil]

theorem fraction_closes {rest : Str} (h : Closes rest) :
    fraction rest = ([], rest) ∧ exponent rest = ([], rest) := by
  obtain ⟨t, rfl | rfl⟩ := h
  · simp [fraction, exponent]
  · simp [fraction, exponent]

theorem decimal_cons (n : Nat) : ∃ d s, decimal n = d :: s ∧ isDigit d = true := by
  rcases decimal_cases n with h | ⟨d, s, h, -, hdigits⟩
  · exact ⟨0x30, [], h, rfl⟩
  · exact ⟨d, s, h, hdigits d (List.mem_cons_self ..)⟩

theorem isDigit_ne {c d : CodePoint} (hd : isDigit d = true) (hc : isDigit c = false) : d ≠ c := by
  rintro rfl
  rw [hd] at hc
  cases hc

theorem matchNumber_int (i : Int) {digits rest : Str} (hrepr : reprInt i = some digits)
    (h : Closes rest) : matchNumber (digits ++ rest) = some (.int i, rest) := by
  unfold reprInt at hrepr
  split at hrepr
  · rename_i hlen
    have hfrac := fraction_closes h
    have hwhole := wholePart_decimal i.natAbs h
    obtain rfl := Option.some.inj hrepr
    split
    · have habs : -(i.natAbs : Int) = i := by omega
      have hsign : splitSign [0x2D] (0x2D :: decimal i.natAbs ++ rest) =
          ([0x2D], decimal i.natAbs ++ rest) := rfl
      simp only [matchNumber, hsign, hwhole, hfrac.1, hfrac.2, and_self, if_true, if_pos hlen,
        digitsValue_decimal, habs]
      rfl
    · have habs : (i.natAbs : Int) = i := by omega
      have hsign : splitSign [0x2D] (decimal i.natAbs ++ rest) =
          ([], decimal i.natAbs ++ rest) := by
        obtain ⟨d, s, hd, hdigit⟩ := decimal_cons i.natAbs
        rw [hd, List.cons_append, splitSign, if_neg]
        rw [List.mem_singleton]
        exact isDigit_ne hdigit rfl
      simp only [matchNumber, hsign, hwhole, hfrac.1, hfrac.2, and_self, if_true, if_pos hlen,
        digitsValue_decimal, habs]
  · cases hrepr

/-- An integer starts with a digit, or with a minus sign and a digit. -/
theorem reprInt_head {i : Int} {digits : Str} (h : reprInt i = some digits) :
    ∃ d s, isDigit d = true ∧ (digits = d :: s ∨ digits = 0x2D :: d :: s) := by
  obtain ⟨d, s, hd, hdigit⟩ := decimal_cons i.natAbs
  unfold reprInt at h
  split at h
  · obtain rfl := Option.some.inj h
    split
    · exact ⟨d, s, hdigit, .inr (by rw [hd])⟩
    · exact ⟨d, s, hdigit, .inl hd⟩
  · cases h

/-- A word starts with no digit, and goes on with none after a minus sign. -/
theorem keywords_head : ∀ keyword ∈ keywords, ∃ c e t, keyword.1 = c :: e :: t ∧
    isDigit c = false ∧ isDigit e = false := by
  simp only [keywords, List.forall_mem_cons, List.not_mem_nil, false_implies, implies_true, and_true]
  exact ⟨⟨_, _, _, rfl, rfl, rfl⟩, ⟨_, _, _, rfl, rfl, rfl⟩, ⟨_, _, _, rfl, rfl, rfl⟩,
    ⟨_, _, _, rfl, rfl, rfl⟩, ⟨_, _, _, rfl, rfl, rfl⟩, ⟨_, _, _, rfl, rfl, rfl⟩⟩

theorem scanAtom_int (i : Int) {digits rest : Str} (hrepr : reprInt i = some digits)
    (h : Closes rest) : scanAtom (digits ++ rest) = some (.int i, rest) := by
  have hnone : keywords.find? (fun keyword => keyword.1.isPrefixOf (digits ++ rest)) = none := by
    rw [List.find?_eq_none]
    intro keyword hmem hprefix
    obtain ⟨c, e, t, hword, hc, he⟩ := keywords_head keyword hmem
    obtain ⟨d, s, hd, hdigits⟩ := reprInt_head hrepr
    rw [List.isPrefixOf_iff_prefix, hword] at hprefix
    rcases hdigits with rfl | rfl
    · exact isDigit_ne hd hc (List.cons_prefix_cons.mp hprefix).1.symm
    · have htail := (List.cons_prefix_cons.mp hprefix).2
      exact isDigit_ne hd he (List.cons_prefix_cons.mp htail).1.symm
  rw [scanAtom, hnone]
  exact matchNumber_int i hrepr h

/-- What reading back makes of a value: a text with its neighbouring halves joined. -/
def Scalar.read : Scalar → Json
  | .text value => .str (joinSurrogates value)
  | .number value => .int value

theorem length_flatMap_escapeChar (s : Str) : s.length ≤ (s.flatMap escapeChar).length := by
  induction s with
  | nil => simp
  | cons c s ih =>
    have hpos : 0 < (escapeChar c).length := by
      rcases escapeChar_cases c with ⟨d, hd, -⟩ | ⟨hd, -⟩ | ⟨hd, -⟩ | ⟨hd, -⟩
      · rw [hd]
        exact Nat.succ_pos _
      · rw [hd]
        exact Nat.succ_pos _
      · rw [hd]
        exact Nat.succ_pos _
      · rw [hd]
        exact Nat.succ_pos _
    rw [List.flatMap_cons, List.length_append, List.length_cons]
    omega

theorem scanOnce_string (nesting fuel : Nat) (s rest : Str) :
    scanOnce nesting (fuel + 1) (encodeString s ++ rest) = .ok (.str (joinSurrogates s), rest) := by
  have hlen := length_flatMap_escapeChar s
  have hscan := scanString_flatMap s rest
    (show s.length < (s.flatMap escapeChar ++ 0x22 :: rest).length + 1 by
      rw [List.length_append]
      omega)
  rw [encodeString, List.append_assoc, List.cons_append, scanOnce.eq_def]
  simp only [if_true, List.singleton_append, hscan]
  rfl

theorem scanOnce_int (nesting fuel : Nat) {i : Int} {digits rest : Str}
    (hrepr : reprInt i = some digits) (h : Closes rest) :
    scanOnce nesting (fuel + 1) (digits ++ rest) = .ok (.int i, rest) := by
  have hhead : ∃ c t, digits ++ rest = c :: t ∧ c ≠ 0x22 ∧ c ≠ 0x7B ∧ c ≠ 0x5B := by
    obtain ⟨d, s, hd, rfl | rfl⟩ := reprInt_head hrepr
    · exact ⟨d, s ++ rest, rfl, isDigit_ne hd rfl, isDigit_ne hd rfl, isDigit_ne hd rfl⟩
    · exact ⟨0x2D, d :: s ++ rest, rfl, by decide, by decide, by decide⟩
  obtain ⟨c, t, heq, hquote, hbrace, hbracket⟩ := hhead
  have hatom := scanAtom_int i hrepr h
  rw [heq] at hatom ⊢
  rw [scanOnce.eq_def]
  simp only [if_neg hquote, if_neg hbrace, if_neg hbracket, hatom]
  rfl

theorem scanOnce_dumps (nesting fuel : Nat) {value : Scalar} {text rest : Str}
    (hdumps : value.dumps = some text) (h : Closes rest) :
    scanOnce nesting (fuel + 1) (text ++ rest) = .ok (value.read, rest) := by
  cases value with
  | text value =>
    obtain rfl := Option.some.inj hdumps
    exact scanOnce_string nesting fuel value rest
  | number value => exact scanOnce_int nesting fuel hdumps h

/-- A value starts with no white space. -/
theorem skipSpace_dumps {value : Scalar} {text : Str} (hdumps : value.dumps = some text)
    (rest : Str) : skipSpace (text ++ rest) = text ++ rest := by
  cases value with
  | text value =>
    obtain rfl := Option.some.inj hdumps
    rfl
  | number value =>
    obtain ⟨d, s, hd, rfl | rfl⟩ := reprInt_head hdumps
    · have hspace : isSpace d = false := by
        simp [isSpace, isDigit_ne hd (show isDigit 0x20 = false from rfl),
          isDigit_ne hd (show isDigit 0x09 = false from rfl),
          isDigit_ne hd (show isDigit 0x0A = false from rfl),
          isDigit_ne hd (show isDigit 0x0D = false from rfl)]
      rw [skipSpace, List.cons_append, List.dropWhile_cons_of_neg (by simp [hspace])]
    · rfl

def readMember (member : Str × Scalar) : Str × Json := (joinSurrogates member.1, member.2.read)

section Members

variable (nesting fuel : Nat) (key : Str) {value : Scalar} {text more : Str}

/-- The reading of one member, up to what follows it. -/
theorem scanMembers_member (hdumps : value.dumps = some text) (h : Closes more) :
    scanMembers nesting (fuel + 2) (encodeString key ++ 0x3A :: text ++ more) =
      match expect 0x7D more with
      | .ok t => .ok ([readMember (key, value)], t)
      | .error _ =>
        expect 0x2C more >>= fun s =>
          (scanMembers nesting (fuel + 1) (skipSpace s)).map fun r =>
            (readMember (key, value) :: r.1, r.2) := by
  have hspace : skipSpace more = more := by
    obtain ⟨t, rfl | rfl⟩ := h
    · rfl
    · rfl
  have hquote : expect 0x22 (encodeString key ++ 0x3A :: text ++ more) =
      .ok (key.flatMap escapeChar ++ 0x22 :: (0x3A :: text ++ more)) := by
    simp [encodeString, expect]
  have hlen := length_flatMap_escapeChar key
  have hscan := scanString_flatMap key (0x3A :: text ++ more)
    (show key.length < (key.flatMap escapeChar ++ 0x22 :: (0x3A :: text ++ more)).length + 1 by
      rw [List.length_append]
      omega)
  have hcolon : expect 0x3A (skipSpace (0x3A :: text ++ more)) = .ok (text ++ more) := rfl
  rw [scanMembers, hquote]
  simp only [bind, Except.bind, hscan, ofOption, hcolon, skipSpace_dumps hdumps,
    scanOnce_dumps nesting fuel hdumps h, hspace]
  rfl

theorem scanMembers_last (hdumps : value.dumps = some text) (rest : Str) :
    scanMembers nesting (fuel + 2) (encodeString key ++ 0x3A :: text ++ 0x7D :: rest) =
      .ok ([readMember (key, value)], rest) := by
  rw [scanMembers_member nesting fuel key hdumps ⟨rest, .inr rfl⟩]
  rfl

theorem scanMembers_next (hdumps : value.dumps = some text) {s rest : Str}
    {members : List (Str × Json)} (hspace : skipSpace s = s)
    (hnext : scanMembers nesting (fuel + 1) s = .ok (members, rest)) :
    scanMembers nesting (fuel + 2) (encodeString key ++ 0x3A :: text ++ 0x2C :: s) =
      .ok (readMember (key, value) :: members, rest) := by
  rw [scanMembers_member nesting fuel key hdumps ⟨s, .inl rfl⟩]
  show (scanMembers nesting (fuel + 1) (skipSpace s)).map _ = _
  rw [hspace, hnext]
  rfl

end Members

/-- The texts of the members are those of their keys and values, one after the other. -/
theorem dumpsMembers_cons {member : Str × Scalar} {payload : List (Str × Scalar)}
    {texts : List Str} (h : (member :: payload).mapM dumpsMember = some texts) :
    ∃ value others, member.2.dumps = some value ∧ payload.mapM dumpsMember = some others ∧
      texts = (encodeString member.1 ++ 0x3A :: value) :: others := by
  rw [List.mapM_cons] at h
  obtain ⟨first, hfirst, h⟩ := Option.bind_eq_some_iff.mp h
  obtain ⟨others, hothers, h⟩ := Option.bind_eq_some_iff.mp h
  obtain ⟨value, hvalue, hfirst⟩ := Option.bind_eq_some_iff.mp hfirst
  obtain rfl := Option.some.inj hfirst
  exact ⟨value, others, hvalue, hothers, (Option.some.inj h).symm⟩

/-- The members of an object start with the quotation mark of the first key. -/
theorem intercalate_members {payload : List (Str × Scalar)} {texts : List Str}
    (hne : payload ≠ []) (htexts : payload.mapM dumpsMember = some texts) :
    texts ≠ [] ∧ ∃ t, [0x2C].intercalate texts = 0x22 :: t := by
  cases payload with
  | nil => exact absurd rfl hne
  | cons member payload =>
    obtain ⟨text, others, hdumps, hothers, rfl⟩ := dumpsMembers_cons htexts
    refine ⟨List.cons_ne_nil _ _, ?_⟩
    cases others with
    | nil => exact ⟨_, List.intercalate_singleton⟩
    | cons next others => exact ⟨_, List.intercalate_cons_cons⟩

/-- The members between the braces are read back in their order. -/
theorem scanMembers_dumps (nesting : Nat) {payload : List (Str × Scalar)} {texts : List Str}
    (hne : payload ≠ []) (htexts : payload.mapM dumpsMember = some texts) (rest : Str) {fuel : Nat}
    (hfuel : payload.length < fuel) :
    scanMembers nesting fuel ([0x2C].intercalate texts ++ 0x7D :: rest) =
      .ok (payload.map readMember, rest) := by
  induction payload generalizing texts fuel with
  | nil => exact absurd rfl hne
  | cons member payload ih =>
    obtain ⟨text, others, hdumps, hothers, rfl⟩ := dumpsMembers_cons htexts
    rw [List.length_cons] at hfuel
    obtain ⟨fuel, rfl⟩ := Nat.exists_eq_add_of_le' (show 2 ≤ fuel by omega)
    cases payload with
    | nil =>
      obtain rfl : others = [] := (Option.some.inj hothers).symm
      rw [List.intercalate_singleton, scanMembers_last nesting fuel member.1 hdumps]
      rfl
    | cons next payload =>
      obtain ⟨hothersne, t, hhead⟩ := intercalate_members (List.cons_ne_nil _ _) hothers
      have hspace : skipSpace ([0x2C].intercalate others ++ 0x7D :: rest) =
          [0x2C].intercalate others ++ 0x7D :: rest := by
        rw [hhead]
        rfl
      have hnext := ih (List.cons_ne_nil _ _) hothers (show _ < fuel + 1 by omega)
      rw [List.intercalate_cons_of_ne_nil hothersne, List.append_assoc, List.append_assoc,
        List.singleton_append]
      exact scanMembers_next nesting fuel member.1 hdumps hspace hnext

theorem length_le_members {payload : List (Str × Scalar)} {texts : List Str}
    (htexts : payload.mapM dumpsMember = some texts) :
    payload.length ≤ ([0x2C].intercalate texts).length := by
  induction payload generalizing texts with
  | nil => exact Nat.zero_le _
  | cons member payload ih =>
    obtain ⟨text, others, -, hothers, rfl⟩ := dumpsMembers_cons htexts
    have hlen := ih hothers
    cases payload with
    | nil =>
      obtain rfl : others = [] := (Option.some.inj hothers).symm
      simp [encodeString]
    | cons next payload =>
      have hne := (intercalate_members (List.cons_ne_nil next payload) hothers).1
      rw [List.intercalate_cons_of_ne_nil hne]
      simp only [List.length_cons, List.length_append] at hlen ⊢
      omega

/-- `loads` undoes `dumps`, up to the order of the members and the halves that stand next to
each other. -/
theorem loads_dumps {nesting : Nat} (hnesting : 0 < nesting) {payload : List (Str × Scalar)}
    {text : Str} (hne : payload ≠ []) (h : dumps payload = some text) :
    loads nesting text =
      .ok (.obj ((payload.insertionSort fun a b => a.1 ≤ b.1).map readMember)) := by
  obtain ⟨texts, htexts, h⟩ := Option.bind_eq_some_iff.mp h
  obtain rfl := Option.some.inj h
  obtain ⟨nesting, rfl⟩ := Nat.exists_eq_succ_of_ne_zero hnesting.ne'
  have hsorted : payload.insertionSort (fun a b => a.1 ≤ b.1) ≠ [] := by
    intro hnil
    have hlen := List.length_insertionSort (fun a b : Str × Scalar => a.1 ≤ b.1) payload
    rw [hnil] at hlen
    exact hne (List.length_eq_zero_iff.mp hlen.symm)
  obtain ⟨-, t, hhead⟩ := intercalate_members hsorted htexts
  have hscan := scanMembers_dumps nesting hsorted htexts []
    (show _ < 2 * ([0x2C].intercalate texts ++ [0x7D]).length + 3 by
      have hlen := length_le_members htexts
      rw [List.length_append]
      omega)
  have hspace : skipSpace ([0x2C].intercalate texts ++ [0x7D]) =
      [0x2C].intercalate texts ++ [0x7D] := by
    rw [hhead]
    rfl
  have hopen : expect 0x7D ([0x2C].intercalate texts ++ [0x7D]) = .error .decode := by
    rw [hhead]
    rfl
  have hbrace : scanOnce (nesting + 1) (2 * ([0x2C].intercalate texts ++ [0x7D]).length + 4)
      (0x7B :: ([0x2C].intercalate texts ++ [0x7D])) =
        .ok (.obj ((payload.insertionSort fun a b => a.1 ≤ b.1).map readMember), []) := by
    rw [scanOnce.eq_def]
    simp only [show ¬ (0x7B : CodePoint) = 0x22 by decide, if_false, if_true, hspace, hopen, hscan]
    rfl
  show (scanOnce (nesting + 1) (2 * ([0x2C].intercalate texts ++ [0x7D]).length + 4)
    (0x7B :: ([0x2C].intercalate texts ++ [0x7D])) >>= _) = _
  rw [hbrace]
  rfl

def Printable (s : Str) : Prop := ∀ c ∈ s, 0x20 ≤ c.val ∧ c.val ≤ 0x7E

theorem printable_cons {c : CodePoint} {s : Str} :
    Printable (c :: s) ↔ (0x20 ≤ c.val ∧ c.val ≤ 0x7E) ∧ Printable s :=
  List.forall_mem_cons

theorem printable_append {s t : Str} : Printable (s ++ t) ↔ Printable s ∧ Printable t :=
  List.forall_mem_append

theorem printable_nil : Printable [] := by simp [Printable]

theorem isAscii_of_printable {s : Str} (h : Printable s) : IsAscii s := by
  intro c hc
  have hc := h c hc
  omega

theorem printable_hexOf (v : Nat) : 0x20 ≤ (hexOf (v % 16)).val ∧ (hexOf (v % 16)).val ≤ 0x7E := by
  have hlt : v % 16 < 16 := Nat.mod_lt _ (by omega)
  have hval : (hexOf (v % 16)).val = if v % 16 < 10 then 0x30 + v % 16 else 0x57 + v % 16 := by
    rw [hexOf, val_ofNat (by split <;> omega)]
  rw [hval]
  split <;> omega

theorem printable_unicodeEscape (v : Nat) : Printable (unicodeEscape v) := by
  simp only [unicodeEscape, printable_cons, printable_hexOf, true_and]
  exact ⟨by decide, by decide, printable_nil⟩

theorem printable_escapeChar (c : CodePoint) : Printable (escapeChar c) := by
  rcases escapeChar_cases c with
    ⟨d, hd, -, hprintable, -⟩ | ⟨hd, -, -, hprintable⟩ | ⟨hd, -⟩ | ⟨hd, -⟩
  · rw [hd, printable_cons, printable_cons]
    exact ⟨by decide, hprintable, printable_nil⟩
  · rw [hd]
    exact printable_cons.mpr ⟨hprintable, printable_nil⟩
  · rw [hd]
    exact printable_unicodeEscape c.val
  · rw [hd]
    exact printable_append.mpr ⟨printable_unicodeEscape _, printable_unicodeEscape _⟩

theorem printable_encodeString (s : Str) : Printable (encodeString s) := by
  have hbody : Printable (s.flatMap escapeChar) := by
    intro d hd
    obtain ⟨c, -, hd⟩ := List.mem_flatMap.mp hd
    exact printable_escapeChar c d hd
  exact printable_append.mpr ⟨printable_cons.mpr ⟨by decide, hbody⟩,
    printable_cons.mpr ⟨by decide, printable_nil⟩⟩

theorem printable_reprInt {i : Int} {digits : Str} (h : reprInt i = some digits) :
    Printable digits := by
  have hdigit : ∀ c, isDigit c = true → 0x20 ≤ c.val ∧ c.val ≤ 0x7E := by
    intro c hc
    simp only [isDigit, Bool.and_eq_true, decide_eq_true_eq] at hc
    omega
  have hdecimal : Printable (decimal i.natAbs) := by
    rcases decimal_cases i.natAbs with hzero | ⟨d, s, hd, -, hdigits⟩
    · rw [hzero]
      exact printable_cons.mpr ⟨by decide, printable_nil⟩
    · rw [hd]
      exact fun c hc => hdigit c (hdigits c hc)
  unfold reprInt at h
  split at h
  · obtain rfl := Option.some.inj h
    split
    · exact printable_cons.mpr ⟨by decide, hdecimal⟩
    · exact hdecimal
  · cases h

theorem printable_intercalate {payload : List (Str × Scalar)} {texts : List Str}
    (htexts : payload.mapM dumpsMember = some texts) : Printable ([0x2C].intercalate texts) := by
  induction payload generalizing texts with
  | nil =>
    obtain rfl : texts = [] := (Option.some.inj htexts).symm
    exact printable_nil
  | cons member payload ih =>
    obtain ⟨text, others, hdumps, hothers, rfl⟩ := dumpsMembers_cons htexts
    have hvalue : Printable text := by
      cases hscalar : member.2 with
      | text value =>
        rw [hscalar] at hdumps
        obtain rfl := Option.some.inj hdumps
        exact printable_encodeString value
      | number value =>
        rw [hscalar] at hdumps
        exact printable_reprInt hdumps
    have hmember : Printable (encodeString member.1 ++ 0x3A :: text) :=
      printable_append.mpr ⟨printable_encodeString member.1,
        printable_cons.mpr ⟨by decide, hvalue⟩⟩
    cases others with
    | nil =>
      rw [List.intercalate_singleton]
      exact hmember
    | cons next others =>
      rw [List.intercalate_cons_cons]
      exact printable_append.mpr ⟨printable_append.mpr ⟨hmember,
        printable_cons.mpr ⟨by decide, printable_nil⟩⟩, ih hothers⟩

/-- What `dumps` writes is printable ASCII. -/
theorem printable_dumps {payload : List (Str × Scalar)} {text : Str}
    (h : dumps payload = some text) : Printable text := by
  obtain ⟨texts, htexts, h⟩ := Option.bind_eq_some_iff.mp h
  obtain rfl := Option.some.inj h
  exact printable_append.mpr ⟨printable_cons.mpr ⟨by decide, printable_intercalate htexts⟩,
    printable_cons.mpr ⟨by decide, printable_nil⟩⟩

end PyJson
