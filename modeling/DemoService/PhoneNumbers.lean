import DemoService.SmsModel

/-! Spellings of a phone number: which of them normalize to the one key of the number. -/

namespace DemoService.Sms

open PyText

/-- The value of a decimal digit of any script. -/
def decimalValue (c : Char) : Nat :=
  match decimalZeros.find? fun first => first ≤ c.toNat && c.toNat < first + 10 with
  | some first => c.toNat - first
  | none => 0

def isAsciiDigit (c : Char) : Bool := '0' ≤ c && c ≤ '9'

def asciiDigit (value : Nat) : Char := Char.ofNat ('0'.toNat + value)

/-- The values of the decimal digits of a text, without the country digit of an eleven-digit
number. -/
def nationalValues (s : Text) : List Nat :=
  let values := (s.filter isDecimal).map decimalValue
  if values.length = 11 ∧ values.head? = some 1 then values.drop 1 else values

def SameNumber (s t : Text) : Prop := nationalValues s = nationalValues t

/-- No result, or the country code and ten ASCII digits, the first and fourth neither 0 nor 1. -/
def Canonical (result : Option Text) : Prop :=
  ∀ phone ∈ result, ∃ digits, phone = '+' :: '1' :: digits ∧ digits.length = 10 ∧
    (∀ c ∈ digits, isAsciiDigit c = true) ∧
      ¬ (isTrunkDigit digits[0]? || isTrunkDigit digits[3]?) = true

/-- The normal forms of two texts are canonical, and one key where they spell the same number. -/
structure OneKey (s t : Text) : Prop where
  canonical : Canonical (normalizeUsPhone (some s)) ∧ Canonical (normalizeUsPhone (some t))
  idempotent : ∀ phone ∈ normalizeUsPhone (some s), normalizeUsPhone (some phone) = some phone
  sameKey : SameNumber s t → normalizeUsPhone (some s) = normalizeUsPhone (some t)
  blocks : SameNumber s t → ∀ db db' source reason,
    upsertSmsOptOut db s source reason = some db' → isPhoneOptedOut db' t = true

/-- The digits that the code looks at. -/
def keptDigits (s : Text) : Text :=
  let found := s.filter isDecimal
  if found.length = 11 ∧ found.head? = some '1' then found.drop 1 else found

/-- Ten digits that pass the code's checks, one of which is not ASCII. -/
def Mistaken (s : Text) : Prop :=
  (keptDigits s).length = 10 ∧
    ¬ (isTrunkDigit (keptDigits s)[0]? || isTrunkDigit (keptDigits s)[3]?) = true ∧
      ∃ c ∈ keptDigits s, isAsciiDigit c = false

/-- The first of eleven digits is a one, but not the ASCII one. -/
def ForeignCountryDigit (s : Text) : Prop :=
  (s.filter isDecimal).length = 11 ∧
    ∃ c ∈ (s.filter isDecimal).head?, c ≠ '1' ∧ decimalValue c = 1

def isTrunkValue (value : Option Nat) : Bool := value == some 0 || value == some 1

/-- The values are those of a number that can be dialled. -/
def Dialable (values : List Nat) : Prop :=
  values.length = 10 ∧ ¬ (isTrunkValue values[0]? || isTrunkValue values[3]?) = true

/-! ### Digits -/

theorem isAsciiDigit_iff {c : Char} : isAsciiDigit c = true ↔ 0x30 ≤ c.toNat ∧ c.toNat < 0x3A := by
  rw [isAsciiDigit, Bool.and_eq_true, decide_eq_true_eq, decide_eq_true_eq, Char.le_def, Char.le_def,
    UInt32.le_iff_toNat_le, UInt32.le_iff_toNat_le]
  change 48 ≤ c.toNat ∧ c.toNat ≤ 57 ↔ _
  omega

theorem decimalValue_ascii {c : Char} (h : isAsciiDigit c = true) :
    isDecimal c = true ∧ decimalValue c = c.toNat - 0x30 := by
  have hrange := isAsciiDigit_iff.mp h
  have hfirst : (decide (0x30 ≤ c.toNat) && decide (c.toNat < 0x30 + 10)) = true := by
    simp only [Bool.and_eq_true, decide_eq_true_eq]
    omega
  have hzeros : decimalZeros = 0x30 :: decimalZeros.tail := rfl
  constructor
  · rw [isDecimal, hzeros, List.any_cons, hfirst, Bool.true_or]
  · rw [decimalValue, hzeros, List.find?_cons]
    simp only [hfirst]

theorem asciiDigit_decimalValue {c : Char} (h : isAsciiDigit c = true) :
    asciiDigit (decimalValue c) = c := by
  have hrange := isAsciiDigit_iff.mp h
  have hsum : '0'.toNat + (c.toNat - 0x30) = c.toNat := by
    change 0x30 + (c.toNat - 0x30) = c.toNat
    omega
  rw [(decimalValue_ascii h).2, asciiDigit, hsum, Char.ofNat_toNat]

/-- The comparisons with characters are comparisons of values for ASCII digits only. -/
theorem isTrunkDigit_ascii {c : Char} (h : isAsciiDigit c = true) :
    isTrunkDigit (some c) = isTrunkValue (some (decimalValue c)) := by
  have hchar : ∀ d : Char, isAsciiDigit d = true → (c = d ↔ decimalValue c = decimalValue d) :=
    fun d hd => ⟨congrArg _, fun heq => by
      rw [← asciiDigit_decimalValue h, ← asciiDigit_decimalValue hd, heq]⟩
  have hzero : c = '0' ↔ decimalValue c = 0 := hchar '0' (by decide)
  have hone : c = '1' ↔ decimalValue c = 1 := hchar '1' (by decide)
  rw [Bool.eq_iff_iff]
  simp [isTrunkDigit, isTrunkValue, hzero, hone]

theorem isTrunkValue_of_isTrunkDigit {digits : Text} {i : Nat} (h : isTrunkDigit digits[i]? = true) :
    isTrunkValue (digits.map decimalValue)[i]? = true := by
  rw [List.getElem?_map]
  simp only [isTrunkDigit, Bool.or_eq_true, beq_iff_eq] at h
  rcases h with h | h
  · rw [h]
    decide
  · rw [h]
    decide

/-! ### The normal form -/

theorem isDecimal_not_space {c : Char} (h : isDecimal c = true) : isSpace c = false := by
  have hsplit : ∀ first ∈ decimalZeros, first ≤ c.toNat → c.toNat < first + 10 →
      isSpace c = false := by
    intro first hfirst hlow hhigh
    simp only [isSpace, Bool.or_eq_false_iff, Bool.and_eq_false_iff, decide_eq_false_iff_not,
      beq_eq_false_iff_ne]
    have hzero : ∀ n ∈ decimalZeros, n = 0x30 ∨ (0x660 ≤ n ∧ n < 0x1676) ∨
        (0x1680 < n ∧ n < 0x1FF6) ∨ 0x3000 < n := by decide
    rcases hzero first hfirst with rfl | h | h | h <;> omega
  obtain ⟨first, hfirst, hrange⟩ := List.any_eq_true.mp h
  rw [Bool.and_eq_true, decide_eq_true_eq, decide_eq_true_eq] at hrange
  exact hsplit first hfirst hrange.1 hrange.2

theorem isSpace_of_strip_eq_nil {s : Text} (h : strip s = []) : ∀ c ∈ s, isSpace c = true := by
  cases hstrip : lstrip s with
  | nil => exact List.dropWhile_eq_nil_iff.mp hstrip
  | cons c cs =>
    have hhead : isSpace c = false := head_lstrip (s := s) c (by rw [hstrip]; rfl)
    rw [strip, hstrip, rstrip, List.rdropWhile_eq_nil_iff] at h
    rw [h c List.mem_cons_self] at hhead
    cases hhead

theorem keptDigits_blank {s : Text} (h : strip s = []) : keptDigits s = [] := by
  have hnone : s.filter isDecimal = [] := by
    refine List.filter_eq_nil_iff.mpr fun c hc hdecimal => ?_
    have hspace := isSpace_of_strip_eq_nil h c hc
    rw [isDecimal_not_space hdecimal] at hspace
    cases hspace
  rw [keptDigits, hnone]
  rfl

/-- The normal form is the kept digits, where there are ten that pass the checks. -/
theorem normalizeUsPhone_eq_some_iff {s phone : Text} : normalizeUsPhone (some s) = some phone ↔
    (keptDigits s).length = 10 ∧
      ¬ (isTrunkDigit (keptDigits s)[0]? || isTrunkDigit (keptDigits s)[3]?) = true ∧
        phone = '+' :: '1' :: keptDigits s := by
  by_cases hblank : strip s = []
  · rw [keptDigits_blank hblank]
    simp [normalizeUsPhone, hblank]
  · have hnormal : normalizeUsPhone (some s) = if (keptDigits s).length ≠ 10 then none
        else if isTrunkDigit (keptDigits s)[0]? || isTrunkDigit (keptDigits s)[3]? then none
        else some ('+' :: '1' :: keptDigits s) := by
      simp only [normalizeUsPhone, hblank, if_false]
      rfl
    rw [hnormal]
    by_cases hlen : (keptDigits s).length = 10
    · rw [if_neg (not_not.mpr hlen)]
      by_cases htrunk : (isTrunkDigit (keptDigits s)[0]? || isTrunkDigit (keptDigits s)[3]?) = true
      · rw [if_pos htrunk]
        exact iff_of_false (Option.some_ne_none _).symm fun h => h.2.1 htrunk
      · rw [if_neg htrunk]
        exact ⟨fun h => ⟨hlen, htrunk, (Option.some.inj h).symm⟩, fun h => congrArg some h.2.2.symm⟩
    · rw [if_pos hlen]
      exact iff_of_false (Option.some_ne_none _).symm fun h => hlen h.1

theorem canonical_iff (s : Text) : Canonical (normalizeUsPhone (some s)) ↔ ¬ Mistaken s := by
  constructor
  · rintro h ⟨hlen, htrunk, c, hc, hforeign⟩
    obtain ⟨digits, hdigits, -, hascii, -⟩ :=
      h _ (normalizeUsPhone_eq_some_iff.mpr ⟨hlen, htrunk, rfl⟩)
    obtain rfl : keptDigits s = digits := by simpa using hdigits
    rw [hascii c hc] at hforeign
    cases hforeign
  · intro h phone hphone
    obtain ⟨hlen, htrunk, rfl⟩ := normalizeUsPhone_eq_some_iff.mp hphone
    refine ⟨keptDigits s, rfl, hlen, fun c hc => ?_, htrunk⟩
    rw [← Bool.not_eq_false]
    exact fun hforeign => h ⟨hlen, htrunk, c, hc, hforeign⟩

/-! ### One key -/

/-- Unless the country digit is a foreign one, the code drops the digit that the values drop. -/
theorem nationalValues_eq {s : Text} (h : ¬ ForeignCountryDigit s) :
    nationalValues s = (keptDigits s).map decimalValue := by
  have hhead : (s.filter isDecimal).length = 11 →
      ((s.filter isDecimal).map decimalValue).head? = some 1 →
        (s.filter isDecimal).head? = some '1' := by
    intro hlen hone
    rw [List.head?_map] at hone
    obtain ⟨c, hc, hvalue⟩ := Option.map_eq_some_iff.mp hone
    rw [hc]
    by_contra hne
    exact h ⟨hlen, c, hc, fun heq => hne (congrArg some heq), hvalue⟩
  have hvalue : (s.filter isDecimal).head? = some '1' →
      ((s.filter isDecimal).map decimalValue).head? = some 1 := by
    intro hone
    rw [List.head?_map, hone]
    decide
  simp only [nationalValues, keptDigits, List.length_map]
  by_cases hdrop : (s.filter isDecimal).length = 11 ∧ (s.filter isDecimal).head? = some '1'
  · rw [if_pos hdrop, if_pos ⟨hdrop.1, hvalue hdrop.2⟩, List.map_drop]
  · rw [if_neg hdrop, if_neg fun h' => hdrop ⟨h'.1, hhead h'.1 h'.2⟩]

/-- With a foreign country digit all eleven digits are kept. -/
theorem ForeignCountryDigit.normalize {s : Text} (h : ForeignCountryDigit s) :
    normalizeUsPhone (some s) = none := by
  obtain ⟨hlen, c, hc, hne, -⟩ := h
  have hkept : keptDigits s = s.filter isDecimal := by
    refine if_neg fun h => ?_
    rw [Option.mem_def.mp hc] at h
    exact hne (Option.some.inj h.2)
  rw [Option.eq_none_iff_forall_ne_some]
  intro phone hphone
  have hten := (normalizeUsPhone_eq_some_iff.mp hphone).1
  rw [hkept, hlen] at hten
  omega

/-- The key that the values of a number spell. -/
def keyOf (values : List Nat) : Text := '+' :: '1' :: values.map asciiDigit

theorem map_asciiDigit {digits : Text} (h : ∀ c ∈ digits, isAsciiDigit c = true) :
    (digits.map decimalValue).map asciiDigit = digits := by
  rw [List.map_map]
  exact (List.map_congr_left fun c hc => asciiDigit_decimalValue (h c hc)).trans (List.map_id digits)

theorem trunk_map {digits : Text} (h : ∀ c ∈ digits, isAsciiDigit c = true) (i : Nat) :
    isTrunkValue (digits.map decimalValue)[i]? = isTrunkDigit digits[i]? := by
  rw [List.getElem?_map]
  cases hget : digits[i]? with
  | none => rfl
  | some c => exact (isTrunkDigit_ascii (h c (List.mem_of_getElem? hget))).symm

/-- Any other text that is not mistaken has the key of its number. -/
theorem normalize_of_not_mistaken {s : Text} (hmistaken : ¬ Mistaken s)
    (hforeign : ¬ ForeignCountryDigit s) (phone : Text) :
    normalizeUsPhone (some s) = some phone ↔
      Dialable (nationalValues s) ∧ phone = keyOf (nationalValues s) := by
  rw [normalizeUsPhone_eq_some_iff, nationalValues_eq hforeign, Dialable, List.length_map, and_assoc]
  refine and_congr_right fun hlen => ?_
  have hascii : ¬ (isTrunkDigit (keptDigits s)[0]? || isTrunkDigit (keptDigits s)[3]?) = true →
      ∀ c ∈ keptDigits s, isAsciiDigit c = true := by
    intro htrunk c hc
    rw [← Bool.not_eq_false]
    exact fun hc' => hmistaken ⟨hlen, htrunk, c, hc, hc'⟩
  by_cases htrunk : (isTrunkDigit (keptDigits s)[0]? || isTrunkDigit (keptDigits s)[3]?) = true
  · refine iff_of_false (fun h => h.1 htrunk) fun h => h.1 ?_
    rw [Bool.or_eq_true] at htrunk ⊢
    exact htrunk.imp isTrunkValue_of_isTrunkDigit isTrunkValue_of_isTrunkDigit
  · rw [trunk_map (hascii htrunk), trunk_map (hascii htrunk), keyOf, map_asciiDigit (hascii htrunk)]

/-- An opt-out blocks every text that has its key. -/
theorem blocks_of_same_key {s t : Text} (h : normalizeUsPhone (some s) = normalizeUsPhone (some t))
    {db db' : Database} {source : String} {reason : Option String}
    (hupsert : upsertSmsOptOut db s source reason = some db') : isPhoneOptedOut db' t = true := by
  obtain ⟨normalized, hnormalized, rfl⟩ := Option.map_eq_some_iff.mp hupsert
  rw [isPhoneOptedOut, ← h, hnormalized]
  exact any_optOuts_iff.mpr (mem_optedOut_putOptOut.mpr (.inr rfl))

/-- Two texts have canonical normal forms, and one key where they spell one number, exactly where
neither of them keeps a foreign digit and, of a number that can be dialled, both or none have a
foreign country digit. -/
theorem one_key_iff (s t : Text) : OneKey s t ↔ ¬ Mistaken s ∧ ¬ Mistaken t ∧
    (SameNumber s t → Dialable (nationalValues s) →
      (ForeignCountryDigit s ↔ ForeignCountryDigit t)) := by
  constructor
  · rintro ⟨⟨hs, ht⟩, -, hsame, -⟩
    rw [canonical_iff] at hs ht
    refine ⟨hs, ht, fun hnumber hdial => ?_⟩
    have hkey := hsame hnumber
    by_cases hfs : ForeignCountryDigit s <;> by_cases hft : ForeignCountryDigit t
    · exact iff_of_true hfs hft
    · rw [SameNumber] at hnumber
      have hsome := (normalize_of_not_mistaken ht hft _).mpr ⟨hnumber ▸ hdial, rfl⟩
      rw [← hkey, hfs.normalize] at hsome
      cases hsome
    · have hsome := (normalize_of_not_mistaken hs hfs _).mpr ⟨hdial, rfl⟩
      rw [hkey, hft.normalize] at hsome
      cases hsome
    · exact iff_of_false hfs hft
  · rintro ⟨hs, ht, hforeign⟩
    have hsame : SameNumber s t → normalizeUsPhone (some s) = normalizeUsPhone (some t) := by
      intro hnumber
      refine Option.ext fun phone => ?_
      by_cases hdial : Dialable (nationalValues s)
      · by_cases hfs : ForeignCountryDigit s
        · rw [hfs.normalize, ((hforeign hnumber hdial).mp hfs).normalize]
        · have hft : ¬ ForeignCountryDigit t := fun h => hfs ((hforeign hnumber hdial).mpr h)
          rw [normalize_of_not_mistaken hs hfs, normalize_of_not_mistaken ht hft, hnumber]
      · have hnone : ∀ {u : Text}, ¬ Mistaken u → ¬ Dialable (nationalValues u) →
            ¬ normalizeUsPhone (some u) = some phone := by
          intro u hu hnot hsome
          by_cases hfu : ForeignCountryDigit u
          · rw [hfu.normalize] at hsome
            cases hsome
          · exact hnot ((normalize_of_not_mistaken hu hfu _).mp hsome).1
        exact iff_of_false (hnone hs hdial) (hnone ht (hnumber ▸ hdial))
    exact ⟨⟨(canonical_iff s).mpr hs, (canonical_iff t).mpr ht⟩,
      fun phone hphone => normalizeUsPhone_normalized hphone, hsame,
      fun hnumber _ _ _ _ hupsert => blocks_of_same_key (hsame hnumber) hupsert⟩

def asciiSpelling : Text := "(415) 555-0134".toList

/-- The same number in Arabic-Indic digits. -/
def arabicSpelling : Text := "٤١٥ ٥٥٥ ٠١٣٤".toList

theorem arabic_spelling_not_blocked : SameNumber asciiSpelling arabicSpelling ∧
    ¬ Canonical (normalizeUsPhone (some arabicSpelling)) ∧
      ∃ db, upsertSmsOptOut ⟨[], [], []⟩ asciiSpelling "sms" none = some db ∧
        isPhoneOptedOut db arabicSpelling = false := by
  have hsame : nationalValues asciiSpelling = nationalValues arabicSpelling := by decide +kernel
  refine ⟨hsame, ?_, _, rfl, by decide +kernel⟩
  rw [canonical_iff, not_not]
  exact ⟨by decide +kernel, by decide +kernel, '٤', by decide +kernel, by decide +kernel⟩

end DemoService.Sms
