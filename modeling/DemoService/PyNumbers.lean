import DemoService.CodePoints
import Mathlib.Data.Rat.Floor
import Mathlib.Tactic.Linarith
import Mathlib.Tactic.NormNum

/-! Python's `round` of an exact number, and the 16-bit integers that `struct` packs with `<h`. -/

namespace PyNumbers

open CodePoints

/-- `round`: the nearest integer, ties to even. -/
def roundHalfEven (q : ℚ) : Int :=
  if q - ⌊q⌋ < 1 / 2 then ⌊q⌋
  else if 1 / 2 < q - ⌊q⌋ then ⌊q⌋ + 1
  else ⌊q⌋ + ⌊q⌋ % 2

theorem roundHalfEven_of_lt {q : ℚ} {n : Int} (hn : (n : ℚ) ≤ q) (h : q - n < 1 / 2) :
    roundHalfEven q = n := by
  have hfloor : ⌊q⌋ = n := by
    rw [Int.floor_eq_iff]
    exact ⟨hn, by linarith⟩
  rw [roundHalfEven, hfloor, if_pos h]

theorem roundHalfEven_of_gt {q : ℚ} {n : Int} (hn : q < n + 1) (h : 1 / 2 < q - n) :
    roundHalfEven q = n + 1 := by
  have hfloor : ⌊q⌋ = n := by
    rw [Int.floor_eq_iff]
    exact ⟨by linarith, hn⟩
  rw [roundHalfEven, hfloor, if_neg (by linarith), if_pos h]

@[simp] theorem roundHalfEven_intCast (n : Int) : roundHalfEven n = n :=
  roundHalfEven_of_lt le_rfl (by norm_num)

/-- `struct.pack("<h", n)`, which raises outside the sixteen bits. -/
def packShort (n : Int) : Option Bytes :=
  if -0x8000 ≤ n ∧ n ≤ 0x7FFF then
    let word := (n % 0x10000).toNat
    some [UInt8.ofNat (word % 0x100), UInt8.ofNat (word / 0x100)]
  else none

def packShorts : List Int → Option Bytes
  | [] => some []
  | n :: ns => do
    let short ← packShort n
    let shorts ← packShorts ns
    some (short ++ shorts)

/-- The word of two bytes in two's complement. -/
def signedShort (word : Nat) : Int := if word < 0x8000 then word else word - 0x10000

def unpackShort (low high : UInt8) : Int := signedShort (low.toNat + 0x100 * high.toNat)

/-- `struct.unpack` of bytes of even length. -/
def unpackShorts : Bytes → List Int
  | low :: high :: rest => unpackShort low high :: unpackShorts rest
  | _ => []

def IsShort (n : Int) : Prop := -0x8000 ≤ n ∧ n ≤ 0x7FFF

theorem length_unpackShorts (bytes : Bytes) : (unpackShorts bytes).length = bytes.length / 2 := by
  fun_induction unpackShorts bytes with
  | case1 low high rest ih =>
    simp only [List.length_cons, ih]
    omega
  | case2 bytes hshort =>
    match bytes with
    | [] => rfl
    | [_] => simp
    | low :: high :: rest => exact absurd rfl (hshort low high rest)

/-- A last byte without its second one is not part of a sample. -/
theorem unpackShorts_dropLast {bytes : Bytes} (h : bytes.length % 2 ≠ 0) :
    unpackShorts bytes.dropLast = unpackShorts bytes := by
  fun_induction unpackShorts bytes with
  | case1 low high rest ih =>
    have hrest : rest.length % 2 ≠ 0 := by
      simp only [List.length_cons] at h
      omega
    obtain ⟨b, bs, rfl⟩ := List.exists_cons_of_length_pos (by omega : 0 < rest.length)
    rw [List.dropLast_cons_cons, List.dropLast_cons_cons, unpackShorts, ih hrest]
  | case2 bytes hshort =>
    match bytes with
    | [] => rfl
    | [_] => rfl
    | low :: high :: rest => exact absurd rfl (hshort low high rest)

theorem unpackShorts_append {a b : Bytes} (h : 2 ∣ a.length) :
    unpackShorts (a ++ b) = unpackShorts a ++ unpackShorts b := by
  fun_induction unpackShorts a with
  | case1 low high rest ih =>
    have hrest : 2 ∣ rest.length := by
      simp only [List.length_cons] at h
      omega
    simp only [List.cons_append, unpackShorts, ih hrest]
  | case2 a hshort =>
    match a with
    | [] => rfl
    | [_] => simp at h
    | low :: high :: rest => exact absurd rfl (hshort low high rest)

/-- What is packed is of even length and read back. -/
theorem packShort_spec {n : Int} (h : IsShort n) :
    ∃ low high, packShort n = some [low, high] ∧ unpackShort low high = n := by
  obtain ⟨hle, hge⟩ := h
  let word := (n % 0x10000).toNat
  have hlow : (UInt8.ofNat (word % 0x100)).toNat = word % 0x100 := by
    rw [UInt8.toNat_ofNat']
    omega
  have hhigh : (UInt8.ofNat (word / 0x100)).toNat = word / 0x100 := by
    rw [UInt8.toNat_ofNat']
    omega
  refine ⟨UInt8.ofNat (word % 0x100), UInt8.ofNat (word / 0x100), if_pos ⟨hle, hge⟩, ?_⟩
  have hword : word % 0x100 + 0x100 * (word / 0x100) = word := Nat.mod_add_div word 0x100
  rw [unpackShort, hlow, hhigh, hword, signedShort]
  split <;> omega

theorem packShorts_spec {ns : List Int} (h : ∀ n ∈ ns, IsShort n) :
    ∃ bytes, packShorts ns = some bytes ∧ bytes.length = 2 * ns.length ∧
      unpackShorts bytes = ns := by
  induction ns with
  | nil => exact ⟨[], rfl, rfl, rfl⟩
  | cons n ns ih =>
    obtain ⟨low, high, hpack, hunpack⟩ := packShort_spec (h n List.mem_cons_self)
    obtain ⟨bytes, hbytes, hlength, hback⟩ := ih fun m hm => h m (List.mem_cons_of_mem _ hm)
    refine ⟨low :: high :: bytes, by simp [packShorts, hpack, hbytes], ?_, ?_⟩
    · simp only [List.length_cons, hlength]
      omega
    · rw [unpackShorts, hunpack, hback]

end PyNumbers
