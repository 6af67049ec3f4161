import DemoService.CodePoints

/-! Python's decoders of UTF-8, UTF-16 and UTF-32 that let lone halves of pairs pass
(`errors="surrogatepass"`), and the encoding that `json.loads` takes bytes for. -/

namespace PyCodecs

open CodePoints

section Utf8

def isTail (b : UInt8) : Bool := 0x80 ≤ b && b < 0xC0

/-- The low bits of an octet that is none of the first of a character. -/
def tailBits (b : UInt8) : Nat := b.toNat % 0x40

def leads2 (a b : UInt8) : Bool := 0xC2 ≤ a && a < 0xE0 && isTail b

/-- The encoded halves of pairs, which start with `0xED`, are let through. -/
def leads3 (a b c : UInt8) : Bool :=
  0xE0 ≤ a && a < 0xF0 && isTail b && isTail c && (a != 0xE0 || 0xA0 ≤ b)

def leads4 (a b c d : UInt8) : Bool :=
  0xF0 ≤ a && a < 0xF5 && isTail b && isTail c && isTail d && (a != 0xF0 || 0x90 ≤ b) &&
    (a != 0xF4 || b < 0x90)

/-- `bytes.decode("utf-8", "surrogatepass")`. -/
def decodeUtf8 : Bytes → Option Str
  | [] => some []
  | a :: s =>
    if a < 0x80 then (decodeUtf8 s).map (Fin.ofNat 0x110000 a.toNat :: ·)
    else
      match s with
      | [] => none
      | b :: s =>
        if leads2 a b then
          (decodeUtf8 s).map (Fin.ofNat 0x110000 (a.toNat % 0x20 * 0x40 + tailBits b) :: ·)
        else
          match s with
          | [] => none
          | c :: s =>
            if leads3 a b c then
              (decodeUtf8 s).map
                (Fin.ofNat 0x110000 (a.toNat % 0x10 * 0x1000 + tailBits b * 0x40 + tailBits c) :: ·)
            else
              match s with
              | [] => none
              | d :: s =>
                if leads4 a b c d then
                  (decodeUtf8 s).map
                    (Fin.ofNat 0x110000 (a.toNat % 0x08 * 0x40000 + tailBits b * 0x1000 +
                      tailBits c * 0x40 + tailBits d) :: ·)
                else none

theorem decodeUtf8_of_ascii {bytes : Bytes} (h : ∀ b ∈ bytes, b < 0x80) :
    decodeUtf8 bytes = some (decodeAscii bytes) := by
  induction bytes with
  | nil => rfl
  | cons b bytes ih =>
    have hb := h b List.mem_cons_self
    rw [decodeUtf8.eq_def]
    simp only [if_pos hb, ih fun c hc => h c (List.mem_cons_of_mem b hc)]
    rfl

end Utf8

section Utf16

inductive ByteOrder
  | little
  | big
  deriving DecidableEq, Repr

/-- The two octets as a number. -/
def ByteOrder.unit16 : ByteOrder → UInt8 → UInt8 → Nat
  | .little, a, b => b.toNat * 0x100 + a.toNat
  | .big, a, b => a.toNat * 0x100 + b.toNat

def ByteOrder.unit32 : ByteOrder → UInt8 → UInt8 → UInt8 → UInt8 → Nat
  | .little, a, b, c, d => ByteOrder.little.unit16 c d * 0x10000 + ByteOrder.little.unit16 a b
  | .big, a, b, c, d => ByteOrder.big.unit16 a b * 0x10000 + ByteOrder.big.unit16 c d

/-- The units of two octets; an octet that is left over is an error. -/
def units16 (order : ByteOrder) : Bytes → Option Str
  | [] => some []
  | [_] => none
  | a :: b :: s => (units16 order s).map (Fin.ofNat 0x110000 (order.unit16 a b) :: ·)

/-- `bytes.decode("utf-16-le", "surrogatepass")`, or `utf-16-be`. -/
def decodeUtf16 (order : ByteOrder) (bytes : Bytes) : Option Str :=
  (units16 order bytes).map joinSurrogates

/-- `bytes.decode("utf-32-le", "surrogatepass")`, or `utf-32-be`. -/
def decodeUtf32 (order : ByteOrder) : Bytes → Option Str
  | [] => some []
  | a :: b :: c :: d :: s =>
    if order.unit32 a b c d < 0x110000 then
      (decodeUtf32 order s).map (Fin.ofNat 0x110000 (order.unit32 a b c d) :: ·)
    else none
  | _ => none

end Utf16

section Json

/-- The encodings that bytes of JSON are told from. -/
inductive Encoding
  | utf8
  | utf8Sig
  | utf16 (order : ByteOrder)
  | utf32 (order : ByteOrder)
  /-- Those whose byte order mark the decoder takes away. -/
  | utf16Marked (order : ByteOrder)
  | utf32Marked (order : ByteOrder)
  deriving DecidableEq, Repr

/-- `json.detect_encoding`. -/
def detectEncoding (b : Bytes) : Encoding :=
  if [0x00, 0x00, 0xFE, 0xFF].isPrefixOf b then .utf32Marked .big
  else if [0xFF, 0xFE, 0x00, 0x00].isPrefixOf b then .utf32Marked .little
  else if [0xFE, 0xFF].isPrefixOf b then .utf16Marked .big
  else if [0xFF, 0xFE].isPrefixOf b then .utf16Marked .little
  else if [0xEF, 0xBB, 0xBF].isPrefixOf b then .utf8Sig
  else
    match b with
    | [b₀, b₁] =>
      if b₀ = 0 then .utf16 .big else if b₁ = 0 then .utf16 .little else .utf8
    | b₀ :: b₁ :: b₂ :: b₃ :: _ =>
      if b₀ = 0 then if b₁ = 0 then .utf32 .big else .utf16 .big
      else if b₁ = 0 then if b₂ = 0 ∧ b₃ = 0 then .utf32 .little else .utf16 .little
      else .utf8
    | _ => .utf8

/-- `b.decode(detect_encoding(b), "surrogatepass")`, nothing where it is a `UnicodeDecodeError`. -/
def decodeJson (b : Bytes) : Option Str :=
  match detectEncoding b with
  | .utf8 => decodeUtf8 b
  | .utf8Sig => decodeUtf8 (b.drop 3)
  | .utf16 order => decodeUtf16 order b
  | .utf32 order => decodeUtf32 order b
  | .utf16Marked order => decodeUtf16 order (b.drop 2)
  | .utf32Marked order => decodeUtf32 order (b.drop 4)

/-- Without a null byte, a document in ASCII is taken for what it is. -/
theorem detectEncoding_of_ascii {bytes : Bytes} (h : ∀ b ∈ bytes, 0 < b ∧ b < 0x80) :
    detectEncoding bytes = .utf8 := by
  have hhead : ∀ first mark, ¬(0 < first ∧ first < 0x80) →
      (first :: mark).isPrefixOf bytes = false := by
    intro first mark hfirst
    cases bytes with
    | nil => rfl
    | cons b bytes =>
      have hb := h b List.mem_cons_self
      have hne : (first == b) = false := beq_eq_false_iff_ne.mpr fun heq => hfirst (heq ▸ hb)
      rw [List.isPrefixOf, hne]
      rfl
  have hzero : ∀ b ∈ bytes, b ≠ 0 := by
    rintro b hb rfl
    exact absurd (h 0 hb).1 (by decide)
  unfold detectEncoding
  rw [hhead 0x00 _ (by decide), hhead 0xFF _ (by decide), hhead 0xFE _ (by decide),
    hhead 0xFF _ (by decide), hhead 0xEF _ (by decide)]
  simp only [Bool.false_eq_true, if_false]
  split
  · rename_i b₀ b₁
    rw [if_neg (hzero b₀ (by simp)), if_neg (hzero b₁ (by simp))]
  · rename_i b₀ b₁ b₂ b₃ rest
    rw [if_neg (hzero b₀ (by simp)), if_neg (hzero b₁ (by simp))]
  · rfl

theorem decodeJson_of_ascii {bytes : Bytes} (h : ∀ b ∈ bytes, 0 < b ∧ b < 0x80) :
    decodeJson bytes = some (decodeAscii bytes) := by
  rw [decodeJson, detectEncoding_of_ascii h]
  exact decodeUtf8_of_ascii fun b hb => (h b hb).2

end Json

end PyCodecs
