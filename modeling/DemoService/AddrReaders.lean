import Mathlib.Data.List.TakeWhile
import DemoService.NetAddr
import DemoService.RustLines

/-! Address readers on longer texts: none reads past a character that its addresses cannot
contain, and each leaves an end of its text. -/

namespace NetAddr

open RustText

/-- What stands behind a `c` is left as it is. -/
def StopsAt {α : Type} (c : Char) (reader : Reader α) : Prop :=
  ∀ s t, reader (s ++ c :: t) = (reader s).map fun r => (r.1, r.2 ++ c :: t)

/-- What is left is an end of the text. -/
def LeavesEnd {α : Type} (reader : Reader α) : Prop :=
  ∀ s r, reader s = some r → r.2 <:+ s

section Combinators

variable {α β : Type} {c : Char}

theorem StopsAt.bind {first : Reader α} {next : α → Reader β} (hfirst : StopsAt c first)
    (hnext : ∀ a, StopsAt c (next a)) :
    StopsAt c fun s => (first s).bind fun r => next r.1 r.2 := by
  intro s t
  simp only [hfirst s t, Option.bind_map, Option.map_bind]
  exact congrArg _ (funext fun r => hnext r.1 r.2 t)

theorem LeavesEnd.bind {first : Reader α} {next : α → Reader β} (hfirst : LeavesEnd first)
    (hnext : ∀ a, LeavesEnd (next a)) :
    LeavesEnd fun s => (first s).bind fun r => next r.1 r.2 := by
  intro s r hr
  obtain ⟨middle, hmiddle, hr⟩ := Option.bind_eq_some_iff.mp hr
  exact (hnext _ _ _ hr).trans (hfirst _ _ hmiddle)

theorem stopsAt_pure (a : α) : StopsAt c fun s => some (a, s) := fun _ _ => rfl

theorem leavesEnd_pure (a : α) : LeavesEnd fun s => some (a, s) := by
  intro s r hr
  obtain rfl := Option.some.inj hr
  exact List.suffix_refl s

theorem stopsAt_givenChar {d : Char} (h : c ≠ d) : StopsAt c (readGivenChar d) := by
  intro s t
  cases s with
  | nil => exact if_neg h
  | cons e s =>
    rw [List.cons_append, readGivenChar, readGivenChar]
    split <;> rfl

theorem leavesEnd_givenChar (d : Char) : LeavesEnd (readGivenChar d) := by
  intro s r hr
  cases s with
  | nil => cases hr
  | cons e s =>
    rw [readGivenChar] at hr
    split at hr
    · obtain rfl := Option.some.inj hr
      exact List.suffix_cons e s
    · cases hr

theorem StopsAt.separator {inner : Reader α} (hinner : StopsAt c inner) {d : Char} (h : c ≠ d)
    (first : Bool) : StopsAt c (readSeparator d first inner) := by
  cases first with
  | true => exact hinner
  | false => exact (stopsAt_givenChar h).bind fun _ => hinner

theorem LeavesEnd.separator {inner : Reader α} (hinner : LeavesEnd inner) (d : Char)
    (first : Bool) : LeavesEnd (readSeparator d first inner) := by
  cases first with
  | true => exact hinner
  | false => exact (leavesEnd_givenChar d).bind fun _ => hinner

end Combinators

theorem takeWhile_append_cons {p : Char → Bool} {c : Char} (hc : ¬ p c = true) (s t : Str) :
    (s ++ c :: t).takeWhile p = s.takeWhile p := by
  induction s with
  | nil => exact List.takeWhile_cons_of_neg hc
  | cons d s ih =>
    by_cases hd : p d = true
    · rw [List.cons_append, List.takeWhile_cons_of_pos hd, List.takeWhile_cons_of_pos hd, ih]
    · rw [List.cons_append, List.takeWhile_cons_of_neg hd, List.takeWhile_cons_of_neg hd]

section Numbers

variable (bound radix : Nat) (maxDigits : Option Nat) (allowZeroPrefix : Bool)

theorem stopsAt_number {c : Char} (h : digit? radix c = none) :
    StopsAt c (readNumber bound radix maxDigits allowZeroPrefix) := by
  intro s t
  have hdigits : (s ++ c :: t).takeWhile (fun c => (digit? radix c).isSome) =
      s.takeWhile fun c => (digit? radix c).isSome := takeWhile_append_cons (by simp [h]) s t
  have hlength : (s.takeWhile fun c => (digit? radix c).isSome).length ≤ s.length :=
    (List.takeWhile_prefix _).length_le
  rw [readNumber, readNumber]
  simp only [hdigits, List.drop_append_of_le_length hlength]
  split
  · rfl
  · split
    · rfl
    · split
      · rfl
      · rw [Option.map_map]
        rfl

theorem leavesEnd_number : LeavesEnd (readNumber bound radix maxDigits allowZeroPrefix) := by
  intro s r hr
  rw [readNumber] at hr
  split at hr
  · cases hr
  · split at hr
    · cases hr
    · split at hr
      · cases hr
      · obtain ⟨n, _, rfl⟩ := Option.map_eq_some_iff.mp hr
        exact List.drop_suffix _ s

end Numbers

theorem stopsAt_ipv4Addr {c : Char} (hdigit : digit? 10 c = none) (hdot : c ≠ '.') :
    StopsAt c readIpv4Addr := by
  have hoctet : StopsAt c readOctet := stopsAt_number 256 10 (some 3) false hdigit
  have hnext : StopsAt c (readSeparator '.' false readOctet) := hoctet.separator hdot false
  exact hoctet.bind fun a => hnext.bind fun b => hnext.bind fun c => hnext.bind fun d =>
    stopsAt_pure (a, b, c, d)

theorem leavesEnd_ipv4Addr : LeavesEnd readIpv4Addr := by
  have hoctet : LeavesEnd readOctet := leavesEnd_number 256 10 (some 3) false
  have hnext : LeavesEnd (readSeparator '.' false readOctet) := hoctet.separator '.' false
  exact hoctet.bind fun a => hnext.bind fun b => hnext.bind fun c => hnext.bind fun d =>
    leavesEnd_pure (a, b, c, d)

/-- The groups and whether they end in an IPv4 address are those of the text before the `c`. -/
theorem readGroups_append {c : Char} (hhex : digit? 16 c = none) (hdecimal : digit? 10 c = none)
    (hdot : c ≠ '.') (hcolon : c ≠ ':') (first : Bool) (limit : Nat) (s t : Str) :
    readGroups first limit (s ++ c :: t) =
      ((readGroups first limit s).1, (readGroups first limit s).2.1,
        (readGroups first limit s).2.2 ++ c :: t) := by
  induction limit generalizing first s with
  | zero => rfl
  | succ n ih =>
    have hv4 : (if 0 < n then readSeparator ':' first readIpv4Addr (s ++ c :: t) else none) =
        (if 0 < n then readSeparator ':' first readIpv4Addr s else none).map
          fun r => (r.1, r.2 ++ c :: t) := by
      split
      · exact (stopsAt_ipv4Addr hdecimal hdot).separator hcolon first s t
      · rfl
    have hgroup : readSeparator ':' first (readNumber 65536 16 (some 4) true) (s ++ c :: t) =
        (readSeparator ':' first (readNumber 65536 16 (some 4) true) s).map
          fun r => (r.1, r.2 ++ c :: t) :=
      (stopsAt_number 65536 16 (some 4) true hhex).separator hcolon first s t
    rw [readGroups, readGroups, hv4, hgroup]
    cases if 0 < n then readSeparator ':' first readIpv4Addr s else none with
    | some v4 => rfl
    | none =>
      cases readSeparator ':' first (readNumber 65536 16 (some 4) true) s with
      | none => rfl
      | some r => simp only [Option.map_none, Option.map_some, ih]

theorem stopsAt_ipv6Addr {c : Char} (hhex : digit? 16 c = none) (hdecimal : digit? 10 c = none)
    (hdot : c ≠ '.') (hcolon : c ≠ ':') : StopsAt c readIpv6Addr := by
  intro s t
  have hgiven : StopsAt c (readGivenChar ':') := stopsAt_givenChar hcolon
  rw [readIpv6Addr, readIpv6Addr]
  simp only [readGroups_append hhex hdecimal hdot hcolon]
  split
  · rfl
  · split
    · rfl
    · generalize hlimit : 8 - ((readGroups true 8 s).1.length + 1) = limit
      have htail : StopsAt c fun s => some ((readGroups true limit s).1,
          (readGroups true limit s).2.2) := fun s t => by
        simp only [readGroups_append hhex hdecimal hdot hcolon]
        rfl
      exact (hgiven.bind fun _ => hgiven.bind fun _ => htail.bind fun tail =>
        stopsAt_pure ((readGroups true 8 s).1 ++
          List.replicate (8 - (readGroups true 8 s).1.length - tail.length) 0 ++ tail)) _ t

/-! ### Literals -/

theorem readIpAddr_of_parse {text : Str} {ip : IpAddr} (h : parseIpAddr text = some ip) :
    readIpAddr text = some (ip, []) := by
  rw [parseIpAddr, parseWith] at h
  split at h
  · rename_i found hfound
    obtain rfl := Option.some.inj h
    exact hfound
  · cases h

theorem readIpv4Addr_of_parse {text : Str} {a b c d : Nat}
    (h : parseIpAddr text = some (.v4 a b c d)) : readIpv4Addr text = some ((a, b, c, d), []) := by
  have hread := readIpAddr_of_parse h
  rw [readIpAddr] at hread
  split at hread
  · rename_i hv4
    cases Option.some.inj hread
    exact hv4
  · obtain ⟨r, _, hr⟩ := Option.map_eq_some_iff.mp hread
    cases (Prod.mk.inj hr).1

theorem readIpv6Addr_of_parse {text : Str} {segments : List Nat}
    (h : parseIpAddr text = some (.v6 segments)) : readIpv6Addr text = some (segments, []) := by
  have hread := readIpAddr_of_parse h
  rw [readIpAddr] at hread
  split at hread
  · cases Option.some.inj hread
  · obtain ⟨r, hv6, hr⟩ := Option.map_eq_some_iff.mp hread
    obtain ⟨hsegments, hrest⟩ := Prod.mk.inj hr
    rw [hv6, Option.some.injEq]
    exact Prod.ext (IpAddr.v6.inj hsegments) hrest

theorem notMem_of_stopsAt {α : Type} {reader : Reader α} {c : Char} (hstops : StopsAt c reader)
    {s : Str} {a : α} (h : reader s = some (a, [])) : c ∉ s := by
  intro hc
  obtain ⟨front, back, rfl⟩ := List.append_of_mem hc
  rw [hstops] at h
  obtain ⟨r, _, hr⟩ := Option.map_eq_some_iff.mp h
  exact List.append_ne_nil_of_right_ne_nil r.2 (List.cons_ne_nil c back) (Prod.mk.inj hr).2

theorem isAlphanum_iff {c : Char} : c.isAlphanum = true ↔
    (65 ≤ c.toNat ∧ c.toNat ≤ 90) ∨ (97 ≤ c.toNat ∧ c.toNat ≤ 122) ∨
      (48 ≤ c.toNat ∧ c.toNat ≤ 57) := by
  have hupper : c.isUpper = true ↔ 'A'.toNat ≤ c.toNat ∧ c.toNat ≤ 'Z'.toNat := decide_eq_true_iff
  have hlower : c.isLower = true ↔ 'a'.toNat ≤ c.toNat ∧ c.toNat ≤ 'z'.toNat := by
    change (decide ('a'.val ≤ c.val) && decide (c.val ≤ 'z'.val)) = true ↔ _
    rw [Bool.and_eq_true, decide_eq_true_iff, decide_eq_true_iff]
    exact Iff.rfl
  have hparts : c.isAlphanum = ((c.isUpper || c.isLower) || c.isDigit) := rfl
  rw [hparts, Bool.or_eq_true, Bool.or_eq_true, hupper, hlower, Char.isDigit_iff_toNat, or_assoc]
  exact Iff.rfl

theorem digit?_eq_none {c : Char} (h : ¬ c.isAlphanum = true) (radix : Nat) :
    digit? radix c = none := by
  rw [isAlphanum_iff, not_or, not_or] at h
  have hdigit : ¬ ('0'.toNat ≤ c.toNat ∧ c.toNat ≤ '9'.toNat) := h.2.2
  have hlower : ¬ ('a'.toNat ≤ c.toNat ∧ c.toNat ≤ 'z'.toNat) := h.2.1
  have hupper : ¬ ('A'.toNat ≤ c.toNat ∧ c.toNat ≤ 'Z'.toNat) := h.1
  rw [digit?, if_neg hdigit, if_neg hlower, if_neg hupper]
  rfl

theorem not_isWhitespace_of_isAlphanum {c : Char} (h : c.isAlphanum = true) :
    ¬ isWhitespace c = true := by
  rw [isAlphanum_iff] at h
  simp only [isWhitespace, Bool.or_eq_true, Bool.and_eq_true, decide_eq_true_eq]
  omega

theorem literal_char {text : Str} {ip : IpAddr} (h : parseIpAddr text = some ip) {c : Char}
    (hc : c ∈ text) : c.isAlphanum = true ∨ c = '.' ∨ c = ':' := by
  by_contra hno
  rw [not_or, not_or] at hno
  cases ip with
  | v4 a b c d =>
    exact notMem_of_stopsAt (stopsAt_ipv4Addr (digit?_eq_none hno.1 10) hno.2.1)
      (readIpv4Addr_of_parse h) hc
  | v6 segments =>
    exact notMem_of_stopsAt (stopsAt_ipv6Addr (digit?_eq_none hno.1 16) (digit?_eq_none hno.1 10)
      hno.2.1 hno.2.2) (readIpv6Addr_of_parse h) hc

theorem digit?_isSome_of_isDigit {c : Char} (h : c.isDigit = true) :
    (digit? 10 c).isSome = true := by
  obtain ⟨hlow, hhigh⟩ := Char.isDigit_iff_toNat.mp h
  have hvalue : c.toNat - '0'.toNat < 10 := by
    change 48 ≤ c.toNat at hlow
    change c.toNat ≤ 57 at hhigh
    change c.toNat - 48 < 10
    omega
  rw [digit?, if_pos ⟨hlow, hhigh⟩, Option.filter_some, if_pos (decide_eq_true hvalue)]
  rfl

theorem readPort_decimal {n : Nat} (h : n < 65536) (zeros : Nat) :
    readPort (':' :: decimal zeros n) = some (n, []) := by
  have hdigits : ∀ c ∈ decimal zeros n, (digit? 10 c).isSome = true := fun c hc =>
    digit?_isSome_of_isDigit (isDigit_of_mem_decimal hc)
  have hall : (decimal zeros n).takeWhile (fun c => (digit? 10 c).isSome) = decimal zeros n :=
    List.takeWhile_eq_self_iff.mpr hdigits
  have hnumber : readNumber 65536 10 none true (decimal zeros n) = some (n, []) := by
    rw [readNumber, hall, if_neg (decimal_ne_nil zeros n), digitsBelow_decimal h]
    simp
  exact hnumber

theorem parseSocketAddr_ipv4 {text : Str} {a b c d n : Nat}
    (h : parseIpAddr text = some (.v4 a b c d)) (hn : n < 65536) (zeros : Nat) :
    parseSocketAddr (text ++ ':' :: decimal zeros n) = some (.new (.v4 a b c d) n) := by
  have hread : readIpv4Addr (text ++ ':' :: decimal zeros n) =
      some ((a, b, c, d), ':' :: decimal zeros n) := by
    rw [stopsAt_ipv4Addr (by decide) (by decide) text, readIpv4Addr_of_parse h]
    rfl
  have hv4 : readSocketAddrV4 (text ++ ':' :: decimal zeros n) =
      some (.new (.v4 a b c d) n, []) := by
    rw [readSocketAddrV4, hread]
    change (readPort (':' :: decimal zeros n)).bind _ = _
    rw [readPort_decimal hn]
    rfl
  rw [parseSocketAddr, parseWith, readSocketAddr, hv4]

theorem parseSocketAddr_ipv6 {text : Str} {segments : List Nat} {n : Nat}
    (h : parseIpAddr text = some (.v6 segments)) (hn : n < 65536) (zeros : Nat) :
    parseSocketAddr ('[' :: text ++ ']' :: ':' :: decimal zeros n) =
      some (.new (.v6 segments) n) := by
  have hread : readIpv6Addr (text ++ ']' :: ':' :: decimal zeros n) =
      some (segments, ']' :: ':' :: decimal zeros n) := by
    rw [stopsAt_ipv6Addr (by decide) (by decide) (by decide) (by decide) text,
      readIpv6Addr_of_parse h]
    rfl
  have hv4 : readSocketAddrV4 ('[' :: text ++ ']' :: ':' :: decimal zeros n) = none := rfl
  have hv6 : readSocketAddrV6 ('[' :: text ++ ']' :: ':' :: decimal zeros n) =
      some (.new (.v6 segments) n, []) := by
    rw [readSocketAddrV6]
    change (readIpv6Addr (text ++ ']' :: ':' :: decimal zeros n)).bind _ = _
    rw [hread]
    change (readPort (':' :: decimal zeros n)).bind _ = _
    rw [readPort_decimal hn]
    rfl
  rw [parseSocketAddr, parseWith, readSocketAddr, hv4, hv6]

theorem toSocketAddrs_socketAddr (resolve : Resolver) {s : Str} {addr : SocketAddr}
    (h : parseSocketAddr s = some addr) : toSocketAddrs resolve s = some [addr] := by
  rw [toSocketAddrs, h]

theorem readPort_eq_none {s : Str} (h : s.head? ≠ some ':') : readPort s = none := by
  cases s with
  | nil => rfl
  | cons c s =>
    have hc : ¬ c = ':' := fun hc => h (congrArg some hc)
    rw [readPort, readGivenChar, if_neg hc]
    rfl

theorem readSocketAddrV6_eq_none {s : Str} (h : s.head? ≠ some '[') :
    readSocketAddrV6 s = none := by
  cases s with
  | nil => rfl
  | cons c s =>
    have hc : ¬ c = '[' := fun hc => h (congrArg some hc)
    rw [readSocketAddrV6, readGivenChar, if_neg hc]
    rfl

/-- A literal in brackets is no address without a port. -/
theorem parseSocketAddr_brackets {text : Str} {segments : List Nat}
    (h : parseIpAddr text = some (.v6 segments)) :
    parseSocketAddr ('[' :: text ++ [']']) = none := by
  have hread : readIpv6Addr (text ++ [']']) = some (segments, [']']) := by
    rw [stopsAt_ipv6Addr (by decide) (by decide) (by decide) (by decide) text,
      readIpv6Addr_of_parse h]
    rfl
  have hv4 : readSocketAddrV4 ('[' :: text ++ [']']) = none := rfl
  have hv6 : readSocketAddrV6 ('[' :: text ++ [']']) = none := by
    rw [readSocketAddrV6]
    change (readIpv6Addr (text ++ [']'])).bind _ = _
    rw [hread]
    rfl
  rw [parseSocketAddr, parseWith, readSocketAddr, hv4, hv6]

theorem parseIpAddr_brackets (text : Str) : parseIpAddr ('[' :: text) = none := rfl

theorem parseSocketAddr_eq_none {s : Str} (hopen : s.head? ≠ some '[')
    (hport : ∀ r, readIpv4Addr s = some r → r.2.head? ≠ some ':') : parseSocketAddr s = none := by
  have hv4 : readSocketAddrV4 s = none := by
    rw [readSocketAddrV4]
    cases hread : readIpv4Addr s with
    | none => rfl
    | some r =>
      change (readPort r.2).bind _ = none
      rw [readPort_eq_none (hport r hread)]
      rfl
  rw [parseSocketAddr, parseWith, readSocketAddr, hv4, readSocketAddrV6_eq_none hopen]

/-- A text without a colon has no port. -/
theorem parseSocketAddr_no_colon {s : Str} (h : ':' ∉ s) (hopen : s.head? ≠ some '[') :
    parseSocketAddr s = none := by
  refine parseSocketAddr_eq_none hopen fun r hr hhead => ?_
  exact h ((leavesEnd_ipv4Addr s r hr).subset (List.mem_of_head? hhead))

/-- A port does not make a socket address of a text that is no IP literal. -/
theorem parseSocketAddr_not_literal {name : Str} (h : parseIpAddr name = none) (hne : name ≠ [])
    (hcolon : ':' ∉ name) (hopen : name.head? ≠ some '[') (t : Str) :
    parseSocketAddr (name ++ ':' :: t) = none := by
  obtain ⟨c, cs, rfl⟩ := List.exists_cons_of_ne_nil hne
  refine parseSocketAddr_eq_none hopen fun r hr hhead => ?_
  rw [stopsAt_ipv4Addr (by decide) (by decide)] at hr
  obtain ⟨⟨⟨a, b, c, d⟩, rest⟩, hname, rfl⟩ := Option.map_eq_some_iff.mp hr
  cases rest with
  | nil =>
    rw [parseIpAddr, parseWith, readIpAddr, hname] at h
    cases h
  | cons e rest =>
    obtain rfl := Option.some.inj hhead
    exact hcolon ((leavesEnd_ipv4Addr _ _ hname).subset List.mem_cons_self)

end NetAddr
