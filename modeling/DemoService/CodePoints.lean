import Mathlib.Data.Fin.Basic
import Mathlib.Data.List.Basic
import Mathlib.Tactic.Common

/-! Python text as code points, the lone halves of surrogate pairs included, and its encodings
as bytes. -/

namespace CodePoints

abbrev CodePoint := Fin 0x110000

-- Literals and comparisons of code points mean the same whatever else is imported.
instance (priority := 2000) codePointBound : @NeZero Nat Zero.ofOfNat0 0x110000 :=
  ⟨Nat.succ_ne_zero _⟩

instance (priority := 2000) codePointLawful : LawfulBEq CodePoint := instLawfulBEq

abbrev Str := List CodePoint

abbrev Bytes := List UInt8

def chr (c : Char) : CodePoint := Fin.ofNat 0x110000 c.toNat

def ofString (text : String) : Str := text.toList.map chr

def isHigh (c : CodePoint) : Bool := 0xD800 ≤ c.val && c.val < 0xDC00

def isLow (c : CodePoint) : Bool := 0xDC00 ≤ c.val && c.val < 0xE000

def isSurrogate (c : CodePoint) : Bool := 0xD800 ≤ c.val && c.val < 0xE000

/-- The code point that a high and a low half stand for together. -/
def joinPair (high low : CodePoint) : CodePoint :=
  Fin.ofNat 0x110000 (0x10000 + (high.val - 0xD800) * 0x400 + (low.val - 0xDC00))

/-- The text with every pair of halves joined, as a decoder of UTF-16 escapes does. -/
def joinSurrogates : Str → Str
  | [] => []
  | [c] => [c]
  | high :: low :: s =>
    if isHigh high && isLow low then joinPair high low :: joinSurrogates s
    else high :: joinSurrogates (low :: s)

/-- A high half directly before a low half. -/
def SplitPair (s : Str) : Prop :=
  ∃ front high low back, s = front ++ high :: low :: back ∧ isHigh high ∧ isLow low

/-- `str.encode("ascii")`. -/
def encodeAscii (s : Str) : Option Bytes :=
  if s.all fun c => c.val < 0x80 then some (s.map fun c => UInt8.ofNat c.val) else none

/-- `bytes.decode("ascii")` of bytes that are ASCII. -/
def decodeAscii (bytes : Bytes) : Str := bytes.map fun b => Fin.ofNat 0x110000 b.toNat

/-- `str.encode("utf-8")`, which refuses the halves of pairs. -/
def encodeUtf8 (s : Str) : Option Bytes :=
  if s.any isSurrogate then none
  else some (s.flatMap fun c => String.utf8EncodeChar (Char.ofNat c.val))

/-- The text as a string of characters, if it has no halves of pairs. -/
def toString? (s : Str) : Option String :=
  if s.any isSurrogate then none else some (String.ofList (s.map fun c => Char.ofNat c.val))

theorem val_ofNat {v : Nat} (h : v < 0x110000) : (Fin.ofNat 0x110000 v).val = v :=
  Nat.mod_eq_of_lt h

theorem isHigh_ofNat {v : Nat} (hlo : 0xD800 ≤ v) (hhi : v < 0xDC00) :
    isHigh (Fin.ofNat 0x110000 v) = true := by
  rw [isHigh, val_ofNat (by omega)]
  simp [hlo, hhi]

theorem isLow_ofNat {v : Nat} (hlo : 0xDC00 ≤ v) (hhi : v < 0xE000) :
    isLow (Fin.ofNat 0x110000 v) = true := by
  rw [isLow, val_ofNat (by omega)]
  simp [hlo, hhi]

theorem not_isLow {c : CodePoint} (h : c.val < 0xDC00 ∨ 0xE000 ≤ c.val) : ¬ isLow c = true := by
  simp only [isLow, Bool.and_eq_true, decide_eq_true_eq]
  omega

def IsAscii (s : Str) : Prop := ∀ c ∈ s, c.val < 0x80

theorem isAscii_append {s t : Str} : IsAscii (s ++ t) ↔ IsAscii s ∧ IsAscii t :=
  List.forall_mem_append

theorem isAscii_cons {c : CodePoint} {s : Str} : IsAscii (c :: s) ↔ c.val < 0x80 ∧ IsAscii s :=
  List.forall_mem_cons

theorem chr_toNat (c : Char) : (chr c).val = c.toNat := by
  have hlt : c.toNat < 0x110000 := by
    have hvalid := c.valid
    rcases hvalid with h | ⟨-, h⟩
    · have : c.toNat < 0xD800 := h
      omega
    · exact h
  exact Nat.mod_eq_of_lt hlt

theorem toString?_ofString (text : String) : toString? (ofString text) = some text := by
  have hchar : ∀ c : Char, isSurrogate (chr c) = false := by
    intro c
    have hvalid := c.valid
    rw [isSurrogate, chr_toNat]
    rcases hvalid with h | ⟨h, -⟩
    · have hc : c.toNat < 0xD800 := h
      simp only [Bool.and_eq_false_iff, decide_eq_false_iff_not]
      omega
    · have hc : 0xDFFF < c.toNat := h
      simp only [Bool.and_eq_false_iff, decide_eq_false_iff_not]
      omega
  have hmap : (ofString text).map (fun c => Char.ofNat c.val) = text.toList := by
    simp [ofString, Function.comp_def, chr_toNat]
  have hnone : (ofString text).any isSurrogate = false := by
    simp [ofString, hchar]
  rw [toString?, hnone, hmap]
  simp

theorem encodeAscii_eq_some {s : Str} (h : IsAscii s) :
    encodeAscii s = some (s.map fun c => UInt8.ofNat c.val) := by
  have hall : (s.all fun c => decide (c.val < 0x80)) = true :=
    List.all_eq_true.mpr fun c hc => decide_eq_true (h c hc)
  rw [encodeAscii, if_pos hall]

theorem isAscii_of_encodeAscii {s : Str} {bytes : Bytes} (h : encodeAscii s = some bytes) :
    IsAscii s ∧ decodeAscii bytes = s := by
  unfold encodeAscii at h
  split at h
  · rename_i hall
    obtain rfl := Option.some.inj h
    have hascii : IsAscii s := fun c hc => of_decide_eq_true (List.all_eq_true.mp hall c hc)
    refine ⟨hascii, ?_⟩
    rw [decodeAscii, List.map_map]
    conv_rhs => rw [← List.map_id s]
    apply List.map_congr_left
    intro c hc
    have hlt := hascii c hc
    apply Fin.ext
    simp only [Function.comp_apply, UInt8.toNat_ofNat', Fin.ofNat_eq_cast, Fin.val_natCast, id_eq]
    omega
  · cases h

theorem decodeAscii_injective {a b : Bytes} (h : decodeAscii a = decodeAscii b) : a = b := by
  refine List.map_injective_iff.mpr ?_ h
  intro x y hxy
  have hx := x.toNat_lt
  have hy := y.toNat_lt
  have hval := congrArg Fin.val hxy
  rw [val_ofNat (by omega), val_ofNat (by omega)] at hval
  exact UInt8.toNat_inj.mp hval

theorem encodeAscii_decodeAscii {bytes : Bytes} (h : ∀ b ∈ bytes, b.toNat < 0x80) :
    encodeAscii (decodeAscii bytes) = some bytes := by
  have hval : ∀ b ∈ bytes, (Fin.ofNat 0x110000 b.toNat).val = b.toNat := by
    intro b hb
    have hlt := h b hb
    exact Nat.mod_eq_of_lt (by omega)
  have hascii : IsAscii (decodeAscii bytes) := by
    intro c hc
    obtain ⟨b, hb, rfl⟩ := List.mem_map.mp hc
    rw [hval b hb]
    exact h b hb
  rw [encodeAscii_eq_some hascii, decodeAscii, List.map_map]
  congr 1
  conv_rhs => rw [← List.map_id bytes]
  apply List.map_congr_left
  intro b hb
  rw [Function.comp_apply, hval b hb, id_eq, UInt8.ofNat_toNat]

theorem utf8EncodeChar_of_ascii {n : Nat} (h : n < 0x80) :
    String.utf8EncodeChar (Char.ofNat n) = [UInt8.ofNat n] := by
  have hval : (Char.ofNat n).val.toNat = n := by
    rw [Char.ofNat, dif_pos (Or.inl (by omega))]
    rfl
  rw [String.utf8EncodeChar, hval]
  simp [show n ≤ 127 by omega]

/-- An ASCII text has the same bytes in UTF-8. -/
theorem encodeUtf8_of_ascii {s : Str} (h : IsAscii s) : encodeUtf8 s = encodeAscii s := by
  have hnone : s.any isSurrogate = false := by
    rw [List.any_eq_false]
    intro c hc
    have hlt := h c hc
    simp only [isSurrogate, Bool.and_eq_true, decide_eq_true_eq]
    omega
  rw [encodeUtf8, hnone, encodeAscii_eq_some h]
  simp only [Bool.false_eq_true, if_false, Option.some.injEq]
  induction s with
  | nil => rfl
  | cons c s ih =>
    have hcs := isAscii_cons.mp h
    rw [List.flatMap_cons, List.map_cons, utf8EncodeChar_of_ascii hcs.1]
    exact congrArg (_ :: ·) (ih hcs.2 (List.any_eq_false.mpr fun d hd =>
      List.any_eq_false.mp hnone d (List.mem_cons_of_mem c hd)))

theorem joinSurrogates_length_le (s : Str) : (joinSurrogates s).length ≤ s.length := by
  fun_induction joinSurrogates s with
  | case1 => simp
  | case2 => simp
  | case3 high low s hpair ih =>
    simp only [List.length_cons]
    omega
  | case4 high low s hpair ih =>
    simp only [List.length_cons] at ih ⊢
    omega

/-- Joining changes a text exactly when it has a pair to join. -/
theorem joinSurrogates_eq_self_iff {s : Str} : joinSurrogates s = s ↔ ¬ SplitPair s := by
  fun_induction joinSurrogates s with
  | case1 => simp [SplitPair]
  | case2 c =>
    refine iff_of_true rfl ?_
    rintro ⟨front, high, low, back, h, -, -⟩
    have hlen := congrArg List.length h
    simp only [List.length_append, List.length_cons, List.length_nil] at hlen
    omega
  | case3 high low s hpair ih =>
    rw [Bool.and_eq_true] at hpair
    refine iff_of_false ?_ (not_not.mpr ⟨[], high, low, s, rfl, hpair.1, hpair.2⟩)
    intro h
    have hlen := congrArg List.length h
    have hle := joinSurrogates_length_le s
    simp only [List.length_cons] at hlen
    omega
  | case4 high low s hpair ih =>
    rw [List.cons.injEq, ih]
    simp only [true_and]
    apply not_congr
    constructor
    · rintro ⟨front, h, l, back, heq, hh, hl⟩
      exact ⟨high :: front, h, l, back, by rw [heq, List.cons_append], hh, hl⟩
    · rintro ⟨front, h, l, back, heq, hh, hl⟩
      cases front with
      | nil =>
        simp only [List.nil_append, List.cons.injEq] at heq
        obtain ⟨rfl, rfl, -⟩ := heq
        exact absurd (by simp [hh, hl]) hpair
      | cons c front =>
        rw [List.cons_append, List.cons.injEq] at heq
        exact ⟨front, h, l, back, heq.2, hh, hl⟩

theorem joinSurrogates_of_ascii {s : Str} (h : IsAscii s) : joinSurrogates s = s := by
  rw [joinSurrogates_eq_self_iff]
  rintro ⟨front, high, low, back, rfl, hhigh, -⟩
  have hlt := h high (by simp)
  simp only [isHigh, Bool.and_eq_true, decide_eq_true_eq] at hhigh
  omega

end CodePoints
