import Mathlib.Data.List.AList
import Mathlib.Data.Multiset.MapFold

/-! Finite maps with a sweep that keeps the entries whose value meets a predicate. -/

namespace AssocMap

variable {K V W : Type*} [DecidableEq K]

abbrev Map (K V : Type*) := AList (fun _ : K => V)

/-- `HashMap::retain` on a predicate of the value. -/
def retain (keep : V → Bool) (m : Map K V) : Map K V :=
  ⟨m.entries.filter (fun e => keep e.2), m.nodupKeys.sublist List.filter_sublist⟩

theorem lookup_retain (keep : V → Bool) (m : Map K V) (k : K) :
    (retain keep m).lookup k = (m.lookup k).filter keep := by
  ext v
  rw [← Option.mem_def, AList.mem_lookup_iff, Option.filter_eq_some_iff, ← Option.mem_def,
    AList.mem_lookup_iff]
  exact List.mem_filter

theorem lookup_of_retain {keep : V → Bool} {m : Map K V} {k : K} {v : V}
    (h : (retain keep m).lookup k = some v) : m.lookup k = some v := by
  rw [lookup_retain] at h
  exact (Option.filter_eq_some_iff.mp h).1

/-- The values of a map under a function, counted. -/
def image (f : V → W) (m : Map K V) : Multiset W := ↑(m.entries.map (fun e => f e.2))

theorem image_insert (f : V → W) {m : Map K V} {k : K} (v : V) (h : m.lookup k = none) :
    image f (m.insert k v) = f v ::ₘ image f m := by
  have hk : k ∉ m := AList.lookup_eq_none.mp h
  rw [image, AList.entries_insert_of_notMem hk]
  rfl

theorem image_erase (f : V → W) {m : Map K V} {k : K} {v : V} (h : m.lookup k = some v) :
    image f m = f v ::ₘ image f (m.erase k) := by
  have hk : k ∈ m.entries.keys := AList.lookup_isSome.mp (by rw [h]; rfl)
  obtain ⟨b, front, back, hfront, hsplit, herase⟩ := List.exists_of_kerase hk
  have hb : b = v := by
    have hm : Sigma.mk k b ∈ m.entries := hsplit ▸ List.mem_append_right _ (List.mem_cons_self ..)
    have hl : m.lookup k = some b := AList.mem_lookup_iff.mpr hm
    exact Option.some.inj (hl.symm.trans h)
  subst hb
  have he : (m.erase k).entries = front ++ back := herase
  rw [image, image, he, hsplit, Multiset.cons_coe, Multiset.coe_eq_coe]
  simp [List.perm_middle]

omit [DecidableEq K] in
theorem card_image (f : V → W) (m : Map K V) : (image f m).card = m.entries.length := by
  simp [image]

end AssocMap
