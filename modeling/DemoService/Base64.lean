import DemoService.CodePoints
import Mathlib.Data.List.DropRight

/-! Base64 as Python's `base64` and `binascii` modules compute it: the padded encoder with the
URL-safe alphabet, and the lenient decoder, which skips characters outside the alphabet and
stops at a complete padding. -/

namespace Base64

open CodePoints

/-- `table_b2a_base64`. -/
def alphabet : List UInt8 :=
  "ABCDEFGHIJKLMNOPQRSTUVWXYZabcdefghijklmnopqrstuvwxyz0123456789+/".toList.map fun c =>
    UInt8.ofNat c.toNat

def pad : UInt8 := 0x3D

/-- The character of a value below 64. -/
def digit (value : Nat) : UInt8 := alphabet.getD value pad

/-- The value of a character of the alphabet. -/
def value? (c : UInt8) : Option Nat := alphabet.idxOf? c

/-- `binascii.b2a_base64(data, newline=False)`. -/
def b2aBase64 : Bytes → Bytes
  | a :: b :: c :: rest =>
    digit (a.toNat / 4) :: digit (a.toNat % 4 * 16 + b.toNat / 16) ::
      digit (b.toNat % 16 * 4 + c.toNat / 64) :: digit (c.toNat % 64) :: b2aBase64 rest
  | [a, b] =>
    [digit (a.toNat / 4), digit (a.toNat % 4 * 16 + b.toNat / 16), digit (b.toNat % 16 * 4), pad]
  | [a] => [digit (a.toNat / 4), digit (a.toNat % 4 * 16), pad, pad]
  | [] => []

/-- `binascii.a2b_base64`, not in strict mode: characters of the current group read so far, the
bits of the last one still to be written, and the padding characters since then. -/
def a2bBase64 (quadPos leftchar pads : Nat) : Bytes → Option Bytes
  | [] => if quadPos = 0 then some [] else none
  | c :: cs =>
    if c = pad then
      if 2 ≤ quadPos then
        if 4 ≤ quadPos + (pads + 1) then some [] else a2bBase64 quadPos leftchar (pads + 1) cs
      else a2bBase64 quadPos leftchar pads cs
    else
      match value? c with
      | none => a2bBase64 quadPos leftchar pads cs
      | some v =>
        match quadPos with
        | 0 => a2bBase64 1 v 0 cs
        | 1 => (a2bBase64 2 (v % 16) 0 cs).map (UInt8.ofNat (leftchar * 4 + v / 16) :: ·)
        | 2 => (a2bBase64 3 (v % 4) 0 cs).map (UInt8.ofNat (leftchar * 16 + v / 4) :: ·)
        | _ => (a2bBase64 0 0 0 cs).map (UInt8.ofNat (leftchar * 64 + v) :: ·)

/-- `bytes.translate` of the standard alphabet to the URL-safe one. -/
def urlsafeEncodeTranslation (c : UInt8) : UInt8 :=
  if c = 0x2B then 0x2D else if c = 0x2F then 0x5F else c

def urlsafeDecodeTranslation (c : UInt8) : UInt8 :=
  if c = 0x2D then 0x2B else if c = 0x5F then 0x2F else c

def urlsafeB64encode (data : Bytes) : Bytes := (b2aBase64 data).map urlsafeEncodeTranslation

/-- `base64.urlsafe_b64decode` of a text; both of its failures are `ValueError`s. -/
def urlsafeB64decode (s : Str) : Option Bytes := do
  let data ← encodeAscii s
  a2bBase64 0 0 0 (data.map urlsafeDecodeTranslation)

example : a2bBase64 0 0 0 [] = some [] := by simp [a2bBase64]

/-- `base64.b64encode(data).decode("ascii")`. -/
def b64encode (data : Bytes) : Str := decodeAscii (b2aBase64 data)

/-- `base64.b64decode` of a text. -/
def b64decode (s : Str) : Option Bytes := do
  let data ← encodeAscii s
  a2bBase64 0 0 0 data

section Digits

theorem value?_digit {v : Nat} (h : v < 64) : value? (digit v) = some v := by
  have hall : ∀ w : Fin 64, value? (digit w) = some w.val := by decide +kernel
  exact hall ⟨v, h⟩

/-- What the encoder writes of a value is an ASCII character other than the padding and the
full stop, and the decoder's translation takes it back. -/
theorem digit_spec {v : Nat} (h : v < 64) :
    digit v ≠ pad ∧ urlsafeEncodeTranslation (digit v) ≠ pad ∧
      urlsafeEncodeTranslation (digit v) ≠ 0x2E ∧
      (urlsafeEncodeTranslation (digit v)).toNat < 0x80 ∧
      urlsafeDecodeTranslation (urlsafeEncodeTranslation (digit v)) = digit v := by
  have hall : ∀ w : Fin 64, digit w ≠ pad ∧ urlsafeEncodeTranslation (digit w) ≠ pad ∧
      urlsafeEncodeTranslation (digit w) ≠ 0x2E ∧
      (urlsafeEncodeTranslation (digit w)).toNat < 0x80 ∧
      urlsafeDecodeTranslation (urlsafeEncodeTranslation (digit w)) = digit w := by decide +kernel
  exact hall ⟨v, h⟩

end Digits

/-- The characters of the alphabet come first, then at most two of the padding, which make the
length a multiple of four. -/
theorem b2aBase64_shape (data : Bytes) :
    ∃ body pads, b2aBase64 data = body ++ List.replicate pads pad ∧
      (∀ c ∈ body, ∃ v < 64, c = digit v) ∧ pads < 4 ∧ (body.length + pads) % 4 = 0 := by
  fun_induction b2aBase64 data with
  | case1 a b c rest ih =>
    obtain ⟨body, pads, heq, hbody, hlt, hlen⟩ := ih
    have ha := a.toNat_lt
    have hb := b.toNat_lt
    have hc := c.toNat_lt
    refine ⟨digit (a.toNat / 4) :: digit (a.toNat % 4 * 16 + b.toNat / 16) ::
      digit (b.toNat % 16 * 4 + c.toNat / 64) :: digit (c.toNat % 64) :: body, pads,
      by simp [heq], ?_, hlt, by simp only [List.length_cons]; omega⟩
    simp only [List.forall_mem_cons]
    exact ⟨⟨_, by omega, rfl⟩, ⟨_, by omega, rfl⟩, ⟨_, by omega, rfl⟩, ⟨_, by omega, rfl⟩, hbody⟩
  | case2 a b =>
    have ha := a.toNat_lt
    have hb := b.toNat_lt
    refine ⟨[digit (a.toNat / 4), digit (a.toNat % 4 * 16 + b.toNat / 16),
      digit (b.toNat % 16 * 4)], 1, rfl, ?_, by omega, by simp⟩
    simp only [List.forall_mem_cons]
    exact ⟨⟨_, by omega, rfl⟩, ⟨_, by omega, rfl⟩, ⟨_, by omega, rfl⟩, by simp⟩
  | case3 a =>
    have ha := a.toNat_lt
    refine ⟨[digit (a.toNat / 4), digit (a.toNat % 4 * 16)], 2, rfl, ?_, by omega, by simp⟩
    simp only [List.forall_mem_cons]
    exact ⟨⟨_, by omega, rfl⟩, ⟨_, by omega, rfl⟩, by simp⟩
  | case4 => exact ⟨[], 0, rfl, by simp, by omega, rfl⟩

section Groups

variable {v : Nat} (leftchar : Nat) (cs : Bytes)

theorem a2bBase64_first (h : v < 64) :
    a2bBase64 0 leftchar 0 (digit v :: cs) = a2bBase64 1 v 0 cs := by
  simp only [a2bBase64, if_neg (digit_spec h).1, value?_digit h]

theorem a2bBase64_second (h : v < 64) :
    a2bBase64 1 leftchar 0 (digit v :: cs) =
      (a2bBase64 2 (v % 16) 0 cs).map (UInt8.ofNat (leftchar * 4 + v / 16) :: ·) := by
  simp only [a2bBase64, if_neg (digit_spec h).1, value?_digit h]

theorem a2bBase64_third (h : v < 64) :
    a2bBase64 2 leftchar 0 (digit v :: cs) =
      (a2bBase64 3 (v % 4) 0 cs).map (UInt8.ofNat (leftchar * 16 + v / 4) :: ·) := by
  simp only [a2bBase64, if_neg (digit_spec h).1, value?_digit h]

theorem a2bBase64_fourth (h : v < 64) :
    a2bBase64 3 leftchar 0 (digit v :: cs) =
      (a2bBase64 0 0 0 cs).map (UInt8.ofNat (leftchar * 64 + v) :: ·) := by
  simp only [a2bBase64, if_neg (digit_spec h).1, value?_digit h]

end Groups

theorem ofNat_eq_of_toNat {n : Nat} {b : UInt8} (h : n = b.toNat) : UInt8.ofNat n = b := by
  rw [h, UInt8.ofNat_toNat]

/-- The decoder undoes the encoder. -/
theorem a2bBase64_b2aBase64 (data : Bytes) : a2bBase64 0 0 0 (b2aBase64 data) = some data := by
  fun_induction b2aBase64 data with
  | case1 a b c rest ih =>
    have ha := a.toNat_lt
    have hb := b.toNat_lt
    have hc := c.toNat_lt
    rw [a2bBase64_first _ _ (by omega), a2bBase64_second _ _ (by omega),
      a2bBase64_third _ _ (by omega), a2bBase64_fourth _ _ (by omega), ih]
    simp only [Option.map_some, Option.some.injEq, List.cons.injEq, and_true]
    exact ⟨ofNat_eq_of_toNat (by omega), ofNat_eq_of_toNat (by omega), ofNat_eq_of_toNat (by omega)⟩
  | case2 a b =>
    have ha := a.toNat_lt
    have hb := b.toNat_lt
    have hdone : a2bBase64 3 (b.toNat % 16 * 4 % 4) 0 [pad] = some [] := by simp [a2bBase64]
    rw [a2bBase64_first _ _ (by omega), a2bBase64_second _ _ (by omega),
      a2bBase64_third _ _ (by omega), hdone]
    simp only [Option.map_some, Option.some.injEq, List.cons.injEq, and_true]
    exact ⟨ofNat_eq_of_toNat (by omega), ofNat_eq_of_toNat (by omega)⟩
  | case3 a =>
    have ha := a.toNat_lt
    have hdone : a2bBase64 2 (a.toNat % 4 * 16 % 16) 0 [pad, pad] = some [] := by
      simp [a2bBase64]
    rw [a2bBase64_first _ _ (by omega), a2bBase64_second _ _ (by omega), hdone]
    simp only [Option.map_some, Option.some.injEq, List.cons.injEq, and_true]
    exact ofNat_eq_of_toNat (by omega)
  | case4 => rfl

theorem rdropWhile_pads {body : Bytes} (h : ∀ c ∈ body, c ≠ pad) (pads : Nat) :
    (body ++ List.replicate pads pad).rdropWhile (· = pad) = body := by
  induction pads with
  | zero =>
    rw [List.replicate_zero, List.append_nil, List.rdropWhile_eq_self_iff]
    intro hne
    simpa using h _ (List.getLast_mem hne)
  | succ n ih =>
    rw [List.replicate_succ', ← List.append_assoc, List.rdropWhile_concat_pos _ _ _ (by simp), ih]

/-- The encoded text without its padding: ASCII without a full stop, from whose length the
padding can be told, so that the decoder reads the data back. -/
theorem urlsafeB64encode_stripped (data : Bytes) :
    ∃ body pads, urlsafeB64encode data = body ++ List.replicate pads pad ∧
      (urlsafeB64encode data).rdropWhile (· = pad) = body ∧ pads = (4 - body.length % 4) % 4 ∧
      (∀ c ∈ body, c.toNat < 0x80 ∧ c ≠ 0x2E) ∧
      (body ++ List.replicate pads pad).map urlsafeDecodeTranslation = b2aBase64 data := by
  obtain ⟨digits, pads, heq, hdigits, hlt, hlen⟩ := b2aBase64_shape data
  have hpad : (List.replicate pads pad).map urlsafeEncodeTranslation = List.replicate pads pad := by
    rw [List.map_replicate]
    rfl
  have hencoded : urlsafeB64encode data =
      digits.map urlsafeEncodeTranslation ++ List.replicate pads pad := by
    rw [urlsafeB64encode, heq, List.map_append, hpad]
  have hbody : ∀ c ∈ digits.map urlsafeEncodeTranslation,
      c ≠ pad ∧ c.toNat < 0x80 ∧ c ≠ 0x2E := by
    intro c hc
    obtain ⟨d, hd, rfl⟩ := List.mem_map.mp hc
    obtain ⟨v, hv, rfl⟩ := hdigits d hd
    obtain ⟨-, hne, hstop, hascii, -⟩ := digit_spec hv
    exact ⟨hne, hascii, hstop⟩
  refine ⟨_, pads, hencoded, ?_, ?_, fun c hc => (hbody c hc).2, ?_⟩
  · rw [hencoded]
    exact rdropWhile_pads (fun c hc => (hbody c hc).1) pads
  · rw [List.length_map]
    omega
  · rw [← hencoded, urlsafeB64encode, List.map_map, heq, List.map_append, List.map_replicate]
    congr 1
    · conv_rhs => rw [← List.map_id digits]
      apply List.map_congr_left
      intro c hc
      obtain ⟨v, hv, rfl⟩ := hdigits c hc
      exact (digit_spec hv).2.2.2.2

theorem b2aBase64_ascii (data : Bytes) : ∀ c ∈ b2aBase64 data, c.toNat < 0x80 := by
  obtain ⟨body, pads, heq, hbody, -, -⟩ := b2aBase64_shape data
  intro c hc
  rw [heq] at hc
  rcases List.mem_append.mp hc with hc | hc
  · obtain ⟨v, hv, rfl⟩ := hbody c hc
    obtain ⟨-, -, -, hlt, -⟩ := digit_spec hv
    by_cases hplus : digit v = 0x2B
    · rw [hplus]
      decide
    · by_cases hslash : digit v = 0x2F
      · rw [hslash]
        decide
      · rwa [urlsafeEncodeTranslation, if_neg hplus, if_neg hslash] at hlt
  · rw [List.eq_of_mem_replicate hc]
    decide

@[simp] theorem b64decode_b64encode (data : Bytes) : b64decode (b64encode data) = some data := by
  rw [b64decode, b64encode, encodeAscii_decodeAscii (b2aBase64_ascii data)]
  exact a2bBase64_b2aBase64 data

theorem b64encode_eq_nil {data : Bytes} : b64encode data = [] ↔ data = [] := by
  rw [b64encode, decodeAscii, List.map_eq_nil_iff]
  constructor
  · intro h
    have hback := a2bBase64_b2aBase64 data
    rw [h] at hback
    exact (Option.some.inj hback).symm
  · intro h
    rw [h]
    rfl

end Base64
