import Mathlib.Algebra.Order.Ring.Nat

/-! Natural numbers as a fixed number of bytes, the highest first. -/

namespace BigEndian

/-- `to_be_bytes` of an unsigned integer of this many bytes. -/
def toBeBytes : Nat → Nat → List UInt8
  | 0, _ => []
  | width + 1, n => UInt8.ofNat (n / 256 ^ width) :: toBeBytes width (n % 256 ^ width)

def fromBeBytes (bytes : List UInt8) : Nat := bytes.foldl (fun acc b => acc * 256 + b.toNat) 0

theorem length_toBeBytes (width n : Nat) : (toBeBytes width n).length = width := by
  induction width generalizing n with
  | zero => rfl
  | succ width ih => rw [toBeBytes, List.length_cons, ih]

theorem foldl_toBeBytes {width n : Nat} (h : n < 256 ^ width) (acc : Nat) :
    (toBeBytes width n).foldl (fun acc b => acc * 256 + b.toNat) acc = acc * 256 ^ width + n := by
  induction width generalizing n acc with
  | zero =>
    have hn : n = 0 := by
      rw [pow_zero] at h
      omega
    simp [toBeBytes, hn]
  | succ width ih =>
    have hpos : 0 < 256 ^ width := Nat.pow_pos (by omega)
    have hdigit : n / 256 ^ width < 256 := by
      rw [Nat.div_lt_iff_lt_mul hpos, Nat.mul_comm, ← Nat.pow_succ]
      exact h
    have hbyte : (UInt8.ofNat (n / 256 ^ width)).toNat = n / 256 ^ width := by
      rw [UInt8.toNat_ofNat']
      exact Nat.mod_eq_of_lt hdigit
    have hrest := ih (Nat.mod_lt n hpos) (acc * 256 + n / 256 ^ width)
    have hsplit := Nat.div_add_mod n (256 ^ width)
    rw [toBeBytes, List.foldl_cons, hbyte, hrest, Nat.pow_succ, Nat.add_mul, Nat.add_assoc,
      Nat.mul_comm (n / 256 ^ width), hsplit, Nat.mul_assoc, Nat.mul_comm 256]

theorem fromBeBytes_toBeBytes {width n : Nat} (h : n < 256 ^ width) :
    fromBeBytes (toBeBytes width n) = n := by
  rw [fromBeBytes, foldl_toBeBytes h]
  simp

end BigEndian
