import DemoService.Fallible
import DemoService.PyJson

/-! `loads` never runs out of fuel: two units for each character of a text are enough, so what it
reports of a text that nests too deep is the nesting. -/

namespace PyJson

open CodePoints Fallible

section Lengths

theorem skipSpace_length (s : Str) : (skipSpace s).length ≤ s.length :=
  (List.dropWhile_sublist _).length_le

theorem hex4_length {s t : Str} {unit : CodePoint} (h : hex4 s = some (unit, t)) :
    t.length < s.length := by
  match s, h with
  | a :: b :: c :: d :: s, h =>
    simp only [hex4, Option.bind_eq_bind, Option.bind_eq_some_iff] at h
    obtain ⟨_, -, _, -, _, -, _, -, h⟩ := h
    obtain ⟨-, rfl⟩ := Prod.mk.inj (Option.some.inj h)
    simp only [List.length_cons]
    omega

theorem lowEscape_length {s t : Str} {unit : CodePoint} (h : lowEscape s = some (unit, t)) :
    t.length < s.length := by
  match s, h with
  | a :: b :: s, h =>
    rw [lowEscape] at h
    split at h
    · obtain ⟨hhex, -⟩ := Option.filter_eq_some_iff.mp h
      have hlen := hex4_length hhex
      simp only [List.length_cons]
      omega
    · cases h

theorem scanEscape_length {s t : Str} {unit : CodePoint} (h : scanEscape s = some (unit, t)) :
    t.length < s.length := by
  match s, h with
  | c :: s, h =>
    rw [scanEscape] at h
    split at h
    · split at h
      · cases h
      · rename_i first u hhex
        have hlen := hex4_length hhex
        have hone : u = t ∨ u.length > t.length := by
          split at h
          · split at h
            · rename_i low v hlow
              obtain ⟨-, rfl⟩ := Prod.mk.inj (Option.some.inj h)
              exact .inr (lowEscape_length hlow)
            · exact .inl (Prod.mk.inj (Option.some.inj h)).2
          · exact .inl (Prod.mk.inj (Option.some.inj h)).2
        rw [List.length_cons]
        rcases hone with rfl | hone <;> omega
    · obtain ⟨d, -, hd⟩ := Option.map_eq_some_iff.mp h
      obtain ⟨-, rfl⟩ := Prod.mk.inj hd
      exact Nat.lt_succ_self _

theorem scanChar_length {c d : CodePoint} {s t : Str} (h : scanChar c s = some (d, t)) :
    t.length ≤ s.length := by
  unfold scanChar at h
  split at h
  · cases h
  · split at h
    · exact (scanEscape_length h).le
    · obtain ⟨-, rfl⟩ := Prod.mk.inj (Option.some.inj h)
      exact le_rfl

theorem scanString_length {fuel : Nat} {s value rest : Str}
    (h : scanString fuel s = some (value, rest)) : rest.length < s.length := by
  induction fuel generalizing s value with
  | zero => cases h
  | succ fuel ih =>
    match s, h with
    | c :: s, h =>
      rw [scanString] at h
      rw [List.length_cons]
      split at h
      · obtain ⟨-, rfl⟩ := Prod.mk.inj (Option.some.inj h)
        exact Nat.lt_succ_self _
      · split at h
        · cases h
        · rename_i d t hchar
          obtain ⟨⟨value, u⟩, hrest, hr⟩ := Option.map_eq_some_iff.mp h
          obtain ⟨-, rfl⟩ := Prod.mk.inj hr
          have hlen := ih hrest
          have hone := scanChar_length hchar
          omega

theorem splitSign_length (signs : List CodePoint) (s : Str) :
    (splitSign signs s).2.length ≤ s.length := by
  cases s with
  | nil => exact le_rfl
  | cons c s =>
    rw [splitSign]
    split
    · exact Nat.le_succ _
    · exact le_rfl

theorem wholePart_length {s whole t : Str} (h : wholePart s = some (whole, t)) :
    t.length < s.length := by
  match s, h with
  | c :: s, h =>
    rw [wholePart] at h
    rw [List.length_cons]
    split at h
    · obtain ⟨-, rfl⟩ := Prod.mk.inj (Option.some.inj h)
      exact Nat.lt_succ_self _
    · split at h
      · obtain ⟨-, rfl⟩ := Prod.mk.inj (Option.some.inj h)
        exact Nat.lt_succ_of_le (List.dropWhile_sublist _).length_le
      · cases h

theorem fraction_length (s : Str) : (fraction s).2.length ≤ s.length := by
  cases s with
  | nil => exact le_rfl
  | cons c s =>
    rw [fraction]
    split
    · exact (List.dropWhile_sublist _).length_le.trans (Nat.le_succ _)
    · exact le_rfl

theorem exponent_length (s : Str) : (exponent s).2.length ≤ s.length := by
  cases s with
  | nil => exact le_rfl
  | cons c s =>
    rw [exponent]
    split
    · have hsign := splitSign_length [0x2B, 0x2D] s
      exact ((List.dropWhile_sublist _).length_le.trans hsign).trans (Nat.le_succ _)
    · exact le_rfl

theorem matchNumber_length {s rest : Str} {value : Json} (h : matchNumber s = some (value, rest)) :
    rest.length < s.length := by
  have hsign := splitSign_length [0x2D] s
  simp only [matchNumber] at h
  split at h
  · cases h
  · rename_i whole t hwhole
    have hlen := wholePart_length hwhole
    split at h
    · split at h
      · obtain ⟨-, rfl⟩ := Prod.mk.inj (Option.some.inj h)
        omega
      · cases h
    · obtain ⟨-, rfl⟩ := Prod.mk.inj (Option.some.inj h)
      have hfrac := fraction_length t
      have hexp := exponent_length (fraction t).2
      omega

theorem scanAtom_length {s rest : Str} {value : Json} (h : scanAtom s = some (value, rest)) :
    rest.length < s.length := by
  unfold scanAtom at h
  split at h
  · rename_i word _ hfind
    obtain ⟨-, rfl⟩ := Prod.mk.inj (Option.some.inj h)
    have hstarts : word.isPrefixOf s = true := by simpa using List.find?_some hfind
    have hword : 0 < word.length := by
      have hmem := List.mem_of_find?_eq_some hfind
      simp only [keywords, List.mem_cons, Prod.mk.injEq, List.not_mem_nil, or_false] at hmem
      rcases hmem with ⟨rfl, -⟩ | ⟨rfl, -⟩ | ⟨rfl, -⟩ | ⟨rfl, -⟩ | ⟨rfl, -⟩ | ⟨rfl, -⟩ <;> decide
    have hlen := (List.isPrefixOf_iff_prefix.mp hstarts).length_le
    rw [List.length_drop]
    omega
  · exact matchNumber_length h

theorem expect_length {c : CodePoint} {s t : Str} (h : expect c s = .ok t) :
    s.length = t.length + 1 := by
  match s, h with
  | d :: s, h =>
    rw [expect] at h
    split at h
    · cases h
      rfl
    · cases h

theorem ofOption_eq_ok {α : Type} {o : Option α} {a : α} (h : ofOption o = .ok a) : o = some a := by
  cases o with
  | none => cases h
  | some b =>
    cases h
    rfl

mutual

/-- A value that is read takes characters of the text. -/
theorem scanOnce_length {nesting fuel : Nat} {s rest : Str} {value : Json}
    (h : scanOnce nesting fuel s = .ok (value, rest)) : rest.length < s.length := by
  match fuel, s, h with
  | fuel + 1, c :: s, h =>
    have hskip := skipSpace_length s
    rw [scanOnce.eq_def] at h
    rw [List.length_cons]
    simp only at h
    split at h
    · obtain ⟨⟨text, t⟩, htext, h⟩ := map_eq_ok.mp h
      obtain ⟨-, rfl : t = rest⟩ := Prod.mk.inj h
      have hlen := scanString_length (ofOption_eq_ok htext)
      omega
    · split at h
      · split at h
        · cases h
        · split at h
          · rename_i t hclose
            cases h
            have hlen := expect_length hclose
            omega
          · obtain ⟨⟨members, t⟩, hmembers, h⟩ := map_eq_ok.mp h
            obtain ⟨-, rfl : t = rest⟩ := Prod.mk.inj h
            have hlen := scanMembers_length hmembers
            omega
      · split at h
        · split at h
          · cases h
          · split at h
            · rename_i t hclose
              cases h
              have hlen := expect_length hclose
              omega
            · obtain ⟨⟨items, t⟩, hitems, h⟩ := map_eq_ok.mp h
              obtain ⟨-, rfl : t = rest⟩ := Prod.mk.inj h
              have hlen := scanItems_length hitems
              omega
        · exact scanAtom_length (ofOption_eq_ok h)

theorem scanMembers_length {nesting fuel : Nat} {s rest : Str} {members : List (Str × Json)}
    (h : scanMembers nesting fuel s = .ok (members, rest)) : rest.length < s.length := by
  match fuel, h with
  | fuel + 1, h =>
    rw [scanMembers] at h
    obtain ⟨s₁, hquote, h⟩ := bind_eq_ok.mp h
    obtain ⟨⟨key, s₂⟩, hkey, h⟩ := bind_eq_ok.mp h
    obtain ⟨s₃, hcolon, h⟩ := bind_eq_ok.mp h
    obtain ⟨⟨value, s₄⟩, hvalue, h⟩ := bind_eq_ok.mp h
    have hquote := expect_length hquote
    have hkey := scanString_length (ofOption_eq_ok hkey)
    have hcolon := expect_length hcolon
    have hvalue := scanOnce_length hvalue
    have hskip₂ := skipSpace_length s₂
    have hskip₃ := skipSpace_length s₃
    have hskip₄ := skipSpace_length s₄
    simp only at h hcolon
    split at h
    · rename_i t hclose
      cases h
      have hclose := expect_length hclose
      omega
    · obtain ⟨s₅, hcomma, h⟩ := bind_eq_ok.mp h
      obtain ⟨⟨members, s₆⟩, hmembers, h⟩ := bind_eq_ok.mp h
      obtain ⟨-, rfl : s₆ = rest⟩ := Prod.mk.inj (Except.ok.inj h)
      have hcomma := expect_length hcomma
      have hmembers := scanMembers_length hmembers
      have hskip₅ := skipSpace_length s₅
      omega

theorem scanItems_length {nesting fuel : Nat} {s rest : Str} {items : List Json}
    (h : scanItems nesting fuel s = .ok (items, rest)) : rest.length < s.length := by
  match fuel, h with
  | fuel + 1, h =>
    rw [scanItems] at h
    obtain ⟨⟨value, s₁⟩, hvalue, h⟩ := bind_eq_ok.mp h
    have hvalue := scanOnce_length hvalue
    have hskip₁ := skipSpace_length s₁
    simp only at h
    split at h
    · rename_i t hclose
      cases h
      have hclose := expect_length hclose
      omega
    · obtain ⟨s₂, hcomma, h⟩ := bind_eq_ok.mp h
      obtain ⟨⟨items, s₃⟩, hitems, h⟩ := bind_eq_ok.mp h
      obtain ⟨-, rfl : s₃ = rest⟩ := Prod.mk.inj (Except.ok.inj h)
      have hcomma := expect_length hcomma
      have hitems := scanItems_length hitems
      have hskip₂ := skipSpace_length s₂
      omega

end

end Lengths

section Enough

mutual

/-- Two units of fuel for each character are enough: more of it changes nothing. -/
theorem scanOnce_fuel {nesting fuel fuel' : Nat} {s : Str} (h : 2 * s.length < fuel)
    (h' : 2 * s.length < fuel') : scanOnce nesting fuel s = scanOnce nesting fuel' s := by
  match fuel, fuel', s with
  | fuel + 1, fuel' + 1, [] => rfl
  | fuel + 1, fuel' + 1, c :: s =>
    have hskip := skipSpace_length s
    rw [List.length_cons] at h h'
    have hmembers : ∀ nesting, scanMembers nesting fuel (skipSpace s) =
        scanMembers nesting fuel' (skipSpace s) :=
      fun nesting => scanMembers_fuel (by omega) (by omega)
    have hitems : ∀ nesting, scanItems nesting fuel (skipSpace s) =
        scanItems nesting fuel' (skipSpace s) :=
      fun nesting => scanItems_fuel (by omega) (by omega)
    rw [scanOnce.eq_def nesting (fuel + 1), scanOnce.eq_def nesting (fuel' + 1)]
    simp only [hmembers, hitems]

theorem scanMembers_fuel {nesting fuel fuel' : Nat} {s : Str} (h : 2 * s.length + 1 < fuel)
    (h' : 2 * s.length + 1 < fuel') : scanMembers nesting fuel s = scanMembers nesting fuel' s := by
  match fuel, fuel' with
  | fuel + 1, fuel' + 1 =>
    rw [scanMembers, scanMembers]
    refine bind_congr_ok fun s₁ hquote => bind_congr_ok fun ⟨key, s₂⟩ hkey =>
      bind_congr_ok fun s₃ hcolon => ?_
    have hquote := expect_length hquote
    have hkey := scanString_length (ofOption_eq_ok hkey)
    have hcolon := expect_length hcolon
    have hskip₂ := skipSpace_length s₂
    have hskip₃ := skipSpace_length s₃
    simp only [scanOnce_fuel (show 2 * (skipSpace s₃).length < fuel by omega)
      (show 2 * (skipSpace s₃).length < fuel' by omega)]
    refine bind_congr_ok fun ⟨value, s₄⟩ hvalue => ?_
    have hvalue := scanOnce_length hvalue
    have hskip₄ := skipSpace_length s₄
    simp only
    split
    · rfl
    · refine bind_congr_ok fun s₅ hcomma => ?_
      have hcomma := expect_length hcomma
      have hskip₅ := skipSpace_length s₅
      rw [scanMembers_fuel (show 2 * (skipSpace s₅).length + 1 < fuel by omega)
        (show 2 * (skipSpace s₅).length + 1 < fuel' by omega)]

theorem scanItems_fuel {nesting fuel fuel' : Nat} {s : Str} (h : 2 * s.length + 1 < fuel)
    (h' : 2 * s.length + 1 < fuel') : scanItems nesting fuel s = scanItems nesting fuel' s := by
  match fuel, fuel' with
  | fuel + 1, fuel' + 1 =>
    rw [scanItems, scanItems, scanOnce_fuel (show 2 * s.length < fuel by omega)
      (show 2 * s.length < fuel' by omega)]
    refine bind_congr_ok fun ⟨value, s₁⟩ hvalue => ?_
    have hvalue := scanOnce_length hvalue
    have hskip₁ := skipSpace_length s₁
    simp only
    split
    · rfl
    · refine bind_congr_ok fun s₂ hcomma => ?_
      have hcomma := expect_length hcomma
      have hskip₂ := skipSpace_length s₂
      rw [scanItems_fuel (show 2 * (skipSpace s₂).length + 1 < fuel by omega)
        (show 2 * (skipSpace s₂).length + 1 < fuel' by omega)]

end

/-- With whatever fuel beyond two units for each character, a text is read as `loads` reads it. -/
theorem loads_eq {nesting fuel : Nat} {s : Str} (h : 2 * s.length < fuel) :
    loads nesting s = (scanOnce nesting fuel (skipSpace s) >>= fun r =>
      if skipSpace r.2 = [] then .ok r.1 else .error .decode) := by
  have hskip := skipSpace_length s
  rw [loads, scanOnce_fuel (show 2 * (skipSpace s).length < 2 * s.length + 2 by omega)
    (show 2 * (skipSpace s).length < fuel by omega)]

end Enough

section Deep

/-- Arrays that open beyond the limit are too deep, whatever follows them. -/
theorem scanOnce_opens {nesting depth fuel : Nat} (rest : Str) (hdepth : nesting < depth)
    (hfuel : 2 * nesting < fuel) :
    scanOnce nesting fuel (List.replicate depth 0x5B ++ rest) = .error .recursion := by
  induction nesting generalizing depth fuel with
  | zero =>
    obtain ⟨depth, rfl⟩ := Nat.exists_eq_succ_of_ne_zero hdepth.ne'
    obtain ⟨fuel, rfl⟩ := Nat.exists_eq_succ_of_ne_zero (Nat.ne_zero_of_lt hfuel)
    rw [List.replicate_succ, List.cons_append, scanOnce.eq_def]
    rfl
  | succ nesting ih =>
    obtain ⟨depth, rfl⟩ := Nat.exists_eq_add_of_le' (show 2 ≤ depth by omega)
    obtain ⟨fuel, rfl⟩ := Nat.exists_eq_add_of_le' (show 2 ≤ fuel by omega)
    have hinner := ih (show nesting < depth + 1 by omega) (show 2 * nesting < fuel by omega)
    have hspace : skipSpace (List.replicate (depth + 1) 0x5B ++ rest) =
        List.replicate (depth + 1) 0x5B ++ rest := rfl
    have hopen : expect 0x5D (List.replicate (depth + 1) 0x5B ++ rest) = .error .decode := rfl
    have hitems : scanItems nesting (fuel + 1) (List.replicate (depth + 1) 0x5B ++ rest) =
        .error .recursion := by
      rw [scanItems, hinner]
      rfl
    rw [List.replicate_succ, List.cons_append, scanOnce.eq_def]
    simp only [show ¬(0x5B : CodePoint) = 0x22 by decide, show ¬(0x5B : CodePoint) = 0x7B by decide,
      if_false, if_true, hspace, hopen, hitems]
    rfl

theorem loads_opens {nesting depth : Nat} (rest : Str) (h : nesting < depth) :
    loads nesting (List.replicate depth 0x5B ++ rest) = .error .recursion := by
  have hlen : (List.replicate depth (0x5B : CodePoint) ++ rest).length = depth + rest.length := by
    rw [List.length_append, List.length_replicate]
  have hspace : skipSpace (List.replicate depth 0x5B ++ rest) =
      List.replicate depth 0x5B ++ rest := by
    obtain ⟨depth, rfl⟩ := Nat.exists_eq_succ_of_ne_zero (Nat.ne_zero_of_lt h)
    rfl
  rw [loads_eq (Nat.lt_succ_self _), hspace, scanOnce_opens rest h (by omega)]
  rfl

end Deep

end PyJson
