import DemoService.RustText

/-! Lines and blank lines of texts with `\r\n` line ends, trimmed values, and
decimal numbers as text. -/

namespace RustText

/-! ### Decimal numbers -/

theorem digitsBelow_append (bound radix acc : Nat) (s t : Str) :
    digitsBelow bound radix acc (s ++ t) =
      (digitsBelow bound radix acc s).bind fun v => digitsBelow bound radix v t := by
  induction s generalizing acc with
  | nil => rfl
  | cons c s ih =>
    simp only [List.cons_append, digitsBelow, Option.bind_eq_bind]
    cases digit? radix c with
    | none => rfl
    | some d =>
      by_cases hlt : acc * radix + d < bound
      · simp [hlt, ih]
      · simp [hlt]

theorem digit?_digitChar {d : Nat} (h : d < 10) : digit? 10 d.digitChar = some d := by
  have hall : ∀ d < 10, digit? 10 d.digitChar = some d := by decide
  exact hall d h

theorem digitsBelow_toDigits {bound n : Nat} (h : n < bound) :
    digitsBelow bound 10 0 (Nat.toDigits 10 n) = some n := by
  induction n using Nat.strong_induction_on with
  | _ n ih =>
    by_cases hn : n < 10
    · simp [Nat.toDigits_of_lt_base hn, digitsBelow, digit?_digitChar hn, h]
    · have hfront := ih (n / 10) (by omega) (by omega)
      have hlast : digit? 10 (n % 10).digitChar = some (n % 10) := digit?_digitChar (by omega)
      have hsum : n / 10 * 10 + n % 10 = n := by omega
      rw [Nat.toDigits_of_base_le (by omega) (by omega), digitsBelow_append, hfront]
      simp [digitsBelow, hlast, hsum, h]

/-- A number in decimal digits, with so many zeros before it. -/
def decimal (zeros n : Nat) : Str := List.replicate zeros '0' ++ ofNat n

theorem digitsBelow_decimal {bound n : Nat} (h : n < bound) (zeros : Nat) :
    digitsBelow bound 10 0 (decimal zeros n) = some n := by
  induction zeros with
  | zero => exact digitsBelow_toDigits h
  | succ zeros ih =>
    have hzero : digit? 10 '0' = some 0 := by decide
    have htext : decimal (zeros + 1) n = '0' :: decimal zeros n := rfl
    have hpos : 0 * 10 + 0 < bound := by omega
    rw [htext, digitsBelow, hzero]
    exact (if_pos hpos).trans ih

theorem isDigit_of_mem_ofNat {n : Nat} {c : Char} (h : c ∈ ofNat n) : c.isDigit = true :=
  Nat.isDigit_of_mem_toDigits (by omega) (by omega) h

theorem isDigit_of_mem_decimal {zeros n : Nat} {c : Char} (h : c ∈ decimal zeros n) :
    c.isDigit = true := by
  rcases List.mem_append.mp h with h | h
  · rw [List.eq_of_mem_replicate h]
    decide
  · exact isDigit_of_mem_ofNat h

theorem decimal_ne_nil (zeros n : Nat) : decimal zeros n ≠ [] :=
  List.append_ne_nil_of_right_ne_nil _ Nat.toDigits_ne_nil

theorem parseU16_decimal_append {n : Nat} (h : n < 65536) (zeros : Nat) (t : Str) :
    parseU16 (decimal zeros n ++ t) = digitsBelow 65536 10 n t := by
  have hdigits : digitsBelow 65536 10 0 (decimal zeros n ++ t) = digitsBelow 65536 10 n t := by
    rw [digitsBelow_append, digitsBelow_decimal h, Option.bind_some]
  cases htext : decimal zeros n with
  | nil => exact absurd htext (decimal_ne_nil zeros n)
  | cons c cs =>
    have hc : c.isDigit = true := isDigit_of_mem_decimal (htext ▸ List.mem_cons_self)
    have hplus : c ≠ '+' := by
      rintro rfl
      exact absurd hc (by decide)
    rw [← hdigits, htext, List.cons_append]
    unfold parseU16
    split <;> simp_all

/-- A number below `2 ^ 16` is read back from its decimal text. -/
theorem parseU16_decimal {n : Nat} (h : n < 65536) (zeros : Nat) :
    parseU16 (decimal zeros n) = some n := by
  have happend := parseU16_decimal_append h zeros []
  rw [List.append_nil] at happend
  exact happend

theorem parseU16_ofNat {n : Nat} (h : n < 65536) : parseU16 (ofNat n) = some n :=
  parseU16_decimal h 0

/-! ### Trimmed texts -/

def Trimmed (s : Str) : Prop :=
  (∀ c ∈ s.head?, ¬ isWhitespace c = true) ∧ ∀ c ∈ s.getLast?, ¬ isWhitespace c = true

theorem trim_of_trimmed {s : Str} (h : Trimmed s) : trim s = s := by
  cases s with
  | nil => rfl
  | cons c cs =>
    have hc : ¬ isWhitespace c = true := h.1 c rfl
    have hfront : (c :: cs).dropWhile isWhitespace = c :: cs := by simp [hc]
    rw [trim, hfront, List.rdropWhile_eq_self_iff]
    intro hne
    exact h.2 _ (List.getLast?_eq_some_getLast hne)

theorem trimmed_trim (s : Str) : Trimmed (trim s) := by
  have hhead : ∀ c ∈ (s.dropWhile isWhitespace).head?, ¬ isWhitespace c = true := by
    intro c hc
    have hfind := List.head?_dropWhile_not isWhitespace s
    rw [hc] at hfind
    simpa using hfind
  refine ⟨fun c hc => ?_, fun c hc => ?_⟩
  · obtain ⟨rest, hrest⟩ := List.rdropWhile_prefix isWhitespace (s.dropWhile isWhitespace)
    rw [trim] at hc
    refine hhead c ?_
    rw [← hrest, List.head?_append, hc]
    rfl
  · have hne : (s.dropWhile isWhitespace).rdropWhile isWhitespace ≠ [] := by
      rintro hnil
      rw [trim, hnil] at hc
      cases hc
    have hlast := List.rdropWhile_last_not isWhitespace _ hne
    rw [trim, List.getLast?_eq_some_getLast hne] at hc
    obtain rfl := Option.some.inj hc
    exact hlast

theorem trim_sublist (s : Str) : (trim s).Sublist s :=
  (List.rdropWhile_prefix isWhitespace _).sublist.trans (List.dropWhile_sublist isWhitespace)

theorem mem_of_mem_trim {c : Char} {s : Str} (h : c ∈ trim s) : c ∈ s := (trim_sublist s).subset h

/-! ### Splitting once -/

theorem stripPrefix_append (p s : Str) : stripPrefix p (p ++ s) = some s := by
  simp [stripPrefix]

theorem stripPrefix_eq_some {p s rest : Str} (h : stripPrefix p s = some rest) :
    s = p ++ rest := by
  unfold stripPrefix at h
  split at h
  · rename_i hprefix
    obtain ⟨tail, rfl⟩ := List.isPrefixOf_iff_prefix.mp hprefix
    simpa using h
  · cases h

theorem splitOnce_eq_some {sep s front back : Str} (h : splitOnce sep s = some (front, back)) :
    s = front ++ sep ++ back := by
  induction s generalizing front with
  | nil =>
    obtain ⟨rest, hrest, heq⟩ := Option.map_eq_some_iff.mp h
    cases heq
    simpa using stripPrefix_eq_some hrest
  | cons c cs ih =>
    unfold splitOnce at h
    split at h
    · rename_i rest hrest
      cases h
      simpa using stripPrefix_eq_some hrest
    · obtain ⟨⟨f, b⟩, hfb, heq⟩ := Option.map_eq_some_iff.mp h
      cases heq
      simp [ih hfb]

theorem splitOnce_char {c : Char} {front : Str} (h : c ∉ front) (back : Str) :
    splitOnce [c] (front ++ c :: back) = some (front, back) := by
  induction front with
  | nil =>
    have hhere : stripPrefix [c] (c :: back) = some back := stripPrefix_append [c] back
    simp [splitOnce, hhere]
  | cons d front ih =>
    rw [List.mem_cons, not_or] at h
    have hother : stripPrefix [c] (d :: (front ++ c :: back)) = none := by
      simp [stripPrefix, List.isPrefixOf, h.1]
    simp [splitOnce, hother, ih h.2]

/-! ### Lines -/

theorem mem_splitBy {p : Char → Bool} {s field : Str} (h : field ∈ splitBy p s) :
    ∀ c ∈ field, ¬ p c = true := by
  induction s generalizing field with
  | nil => simp_all [splitBy]
  | cons d ds ih =>
    unfold splitBy at h
    split at h
    · rcases List.mem_cons.mp h with rfl | h
      · simp
      · exact ih h
    · rename_i hd
      split at h
      · obtain rfl := List.mem_singleton.mp h
        simpa using hd
      · rename_i first rest hsplit
        rcases List.mem_cons.mp h with rfl | h
        · have hfirst := ih (hsplit ▸ List.mem_cons_self)
          exact List.forall_mem_cons.mpr ⟨hd, hfirst⟩
        · exact ih (hsplit ▸ List.mem_cons_of_mem _ h)

theorem splitBy_field {p : Char → Bool} {field : Str} (h : ∀ c ∈ field, ¬ p c = true) {d : Char}
    (hd : p d = true) (rest : Str) : splitBy p (field ++ d :: rest) = field :: splitBy p rest := by
  induction field with
  | nil => simp [splitBy, hd]
  | cons c field ih =>
    have hfield := ih fun x hx => h x (List.mem_cons_of_mem _ hx)
    simp [splitBy, h c List.mem_cons_self, hfield]

theorem splitBy_last {p : Char → Bool} {field : Str} (h : ∀ c ∈ field, ¬ p c = true) :
    splitBy p field = [field] := by
  induction field with
  | nil => rfl
  | cons c field ih =>
    have hfield := ih fun x hx => h x (List.mem_cons_of_mem _ hx)
    simp [splitBy, h c List.mem_cons_self, hfield]

theorem mem_stripSuffixChar {d c : Char} {s : Str} (h : c ∈ stripSuffixChar d s) : c ∈ s := by
  unfold stripSuffixChar at h
  split at h
  · exact (List.dropLast_sublist s).subset h
  · exact h

theorem newline_notMem_lines {s line : Str} (h : line ∈ lines s) : '\n' ∉ line := by
  have hpart : ∀ part ∈ splitChar '\n' s, '\n' ∉ part := fun part hmem hnl =>
    mem_splitBy hmem '\n' hnl (by simp)
  unfold lines at h
  rcases List.mem_append.mp h with h | h
  · obtain ⟨part, hmem, rfl⟩ := List.mem_map.mp h
    exact fun hnl => hpart part ((List.dropLast_sublist _).subset hmem) (mem_stripSuffixChar hnl)
  · split at h
    · cases h
    · exact hpart line (List.mem_of_getLast? (Option.mem_toList.mp h))

def joinLines : List Str → Str := join ['\r', '\n']

theorem joinLines_cons {line : Str} {ls : List Str} (h : ls ≠ []) :
    joinLines (line :: ls) = line ++ '\r' :: '\n' :: joinLines ls := by
  cases ls with
  | nil => exact absurd rfl h
  | cons next ls => simp [joinLines, join]

theorem splitChar_joinLines {ls : List Str} (hls : ls ≠ []) (h : ∀ line ∈ ls, '\n' ∉ line) :
    splitChar '\n' (joinLines ls) = ls.dropLast.map (· ++ ['\r']) ++ ls.getLast?.toList := by
  induction ls with
  | nil => exact absurd rfl hls
  | cons line ls ih =>
    rw [List.forall_mem_cons] at h
    cases ls with
    | nil =>
      have hlast : ∀ c ∈ line, ¬ decide (c = '\n') = true := fun c hc => by
        simpa using fun he : c = '\n' => h.1 (he ▸ hc)
      simpa [joinLines, join, splitChar] using splitBy_last hlast
    | cons next ls =>
      have hfield : ∀ c ∈ line ++ ['\r'], ¬ decide (c = '\n') = true := fun c hc => by
        rcases List.mem_append.mp hc with hc | hc
        · simpa using fun he : c = '\n' => h.1 (he ▸ hc)
        · obtain rfl := List.mem_singleton.mp hc
          decide
      have hrest := ih (List.cons_ne_nil _ _) h.2
      have hsplit := splitBy_field hfield (d := '\n') (by decide) (joinLines (next :: ls))
      rw [joinLines_cons (List.cons_ne_nil _ _)]
      simp only [List.append_assoc, List.cons_append, List.nil_append] at hsplit
      rw [splitChar, hsplit, ← splitChar, hrest]
      simp

/-- Lines without line breaks are read back. -/
theorem lines_joinLines {ls : List Str} (h : ∀ line ∈ ls, '\n' ∉ line)
    (hlast : ∀ line ∈ ls.getLast?, line ≠ []) : lines (joinLines ls) = ls := by
  by_cases hls : ls = []
  · subst hls
    rfl
  · have hstrip : ∀ line : Str, stripSuffixChar '\r' (line ++ ['\r']) = line := by
      simp [stripSuffixChar]
    have hend : ls.getLast? = some (ls.getLast hls) := List.getLast?_eq_some_getLast hls
    have hne : ls.getLast hls ≠ [] := hlast _ hend
    rw [lines, splitChar_joinLines hls h, hend]
    simp [List.dropLast_append_of_ne_nil, hstrip, hne, Function.comp_def,
      List.dropLast_append_getLast]

/-! ### Words -/

theorem splitBy_ne_nil (p : Char → Bool) (s : Str) : splitBy p s ≠ [] := by
  induction s with
  | nil => simp [splitBy]
  | cons c s ih =>
    unfold splitBy
    split
    · simp
    · split <;> simp

theorem splitBy_concat {p : Char → Bool} {d : Char} (hd : p d = true) (s : Str) :
    splitBy p (s ++ [d]) = splitBy p s ++ [[]] := by
  induction s with
  | nil => simp [splitBy, hd]
  | cons c s ih =>
    by_cases hc : p c = true
    · simp [splitBy, hc, ih]
    · cases hsplit : splitBy p s with
      | nil => exact absurd hsplit (splitBy_ne_nil p s)
      | cons field fields => simp [splitBy, hc, ih, hsplit]

theorem splitWhitespace_dropWhile (s : Str) :
    splitWhitespace (s.dropWhile isWhitespace) = splitWhitespace s := by
  induction s with
  | nil => rfl
  | cons c s ih =>
    by_cases hc : isWhitespace c = true
    · simpa [hc, splitWhitespace, splitBy] using ih
    · simp [hc]

theorem splitWhitespace_rdropWhile (s : Str) :
    splitWhitespace (s.rdropWhile isWhitespace) = splitWhitespace s := by
  induction s using List.reverseRecOn with
  | nil => rfl
  | append_singleton s c ih =>
    rw [List.rdropWhile_concat]
    by_cases hc : isWhitespace c = true
    · simpa [hc, splitWhitespace, splitBy_concat hc] using ih
    · simp [hc]

theorem splitWhitespace_trim (s : Str) : splitWhitespace (trim s) = splitWhitespace s := by
  rw [trim, splitWhitespace_rdropWhile, splitWhitespace_dropWhile]

/-- A word: a text without whitespace that is not empty. -/
def IsWord (word : Str) : Prop := word ≠ [] ∧ ∀ c ∈ word, ¬ isWhitespace c = true

theorem isWord_of_all {word : Str}
    (h : (!word.isEmpty && word.all fun c => !isWhitespace c) = true) : IsWord word := by
  simpa [IsWord] using h

theorem isWord_of_mem_splitWhitespace {word s : Str} (h : word ∈ splitWhitespace s) :
    IsWord word := by
  obtain ⟨hmem, hne⟩ := List.mem_filter.mp h
  exact ⟨of_decide_eq_true hne, mem_splitBy hmem⟩

/-- Words with one space between any two of them. -/
def IsPhrase (s : Str) : Prop := join [' '] (splitWhitespace s) = s

instance (s : Str) : Decidable (IsPhrase s) := inferInstanceAs (Decidable (_ = _))

theorem splitWhitespace_word {word : Str} (h : IsWord word) {d : Char}
    (hd : isWhitespace d = true) (rest : Str) :
    splitWhitespace (word ++ d :: rest) = word :: splitWhitespace rest := by
  simp [splitWhitespace, splitBy_field h.2 hd, h.1]

theorem splitWhitespace_join {ws : List Str} (h : ∀ word ∈ ws, IsWord word) :
    splitWhitespace (join [' '] ws) = ws := by
  induction ws with
  | nil => rfl
  | cons word ws ih =>
    rw [List.forall_mem_cons] at h
    cases ws with
    | nil => simp [join, splitWhitespace, splitBy_last h.1.2, h.1.1]
    | cons next ws =>
      have hword := splitWhitespace_word h.1 (d := ' ') (by decide) (join [' '] (next :: ws))
      rw [ih h.2] at hword
      simpa [join] using hword

theorem mem_join {sep : Str} {ws : List Str} {c : Char} (h : c ∈ join sep ws) :
    c ∈ sep ∨ ∃ word ∈ ws, c ∈ word := by
  induction ws with
  | nil => cases h
  | cons word ws ih =>
    cases ws with
    | nil => exact .inr ⟨word, List.mem_cons_self, h⟩
    | cons next ws =>
      rw [join] at h
      · rcases List.mem_append.mp h with h | h
        · rcases List.mem_append.mp h with h | h
          · exact .inr ⟨word, List.mem_cons_self, h⟩
          · exact .inl h
        · rcases ih h with h | ⟨other, hother, h⟩
          · exact .inl h
          · exact .inr ⟨other, List.mem_cons_of_mem _ hother, h⟩
      · simp

theorem newline_notMem_join {ws : List Str} (h : ∀ word ∈ ws, IsWord word) :
    '\n' ∉ join [' '] ws := by
  intro hnl
  rcases mem_join hnl with hsep | ⟨word, hword, hmem⟩
  · simp at hsep
  · exact (h word hword).2 '\n' hmem (by decide)

theorem not_isWhitespace_of_isDigit {c : Char} (h : c.isDigit = true) :
    ¬ isWhitespace c = true := by
  have hrange : 48 ≤ c.toNat ∧ c.toNat ≤ 57 := by
    simpa [Char.isDigit, UInt32.le_iff_toNat_le] using h
  simp only [isWhitespace, Bool.or_eq_true, Bool.and_eq_true, decide_eq_true_eq]
  omega

theorem isWord_decimal (zeros n : Nat) : IsWord (decimal zeros n) :=
  ⟨decimal_ne_nil zeros n, fun _ hc => not_isWhitespace_of_isDigit (isDigit_of_mem_decimal hc)⟩

theorem isWord_ofNat (n : Nat) : IsWord (ofNat n) :=
  ⟨Nat.toDigits_ne_nil, fun _ hc => not_isWhitespace_of_isDigit (isDigit_of_mem_ofNat hc)⟩

/-! ### Fields -/

theorem rdropWhile_append_cons {p : Char → Bool} {c : Char} (hc : ¬ p c = true) (s t : Str) :
    (s ++ c :: t).rdropWhile p = s ++ c :: t.rdropWhile p := by
  induction t using List.reverseRecOn with
  | nil => simpa using List.rdropWhile_concat_neg p s c hc
  | append_singleton t d ih =>
    have hsplit : s ++ c :: (t ++ [d]) = (s ++ c :: t) ++ [d] := by simp
    rw [hsplit, List.rdropWhile_concat, List.rdropWhile_concat, ih]
    by_cases hd : p d = true <;> simp [hd]

theorem dropWhile_append_cons {p : Char → Bool} {c : Char} (hc : ¬ p c = true) (s t : Str) :
    (s ++ c :: t).dropWhile p = s.dropWhile p ++ c :: t := by
  induction s with
  | nil => simp [hc]
  | cons d s ih => by_cases hd : p d = true <;> simp [hd, ih]

/-- Trimming takes only whitespace, on the two sides of any other character. -/
theorem trim_around {c : Char} (hc : ¬ isWhitespace c = true) (s t : Str) :
    trim (s ++ c :: t) = s.dropWhile isWhitespace ++ c :: t.rdropWhile isWhitespace := by
  rw [trim, dropWhile_append_cons hc, rdropWhile_append_cons hc]

def fieldLine (field : Str × Str) : Str := field.1 ++ ':' :: ' ' :: field.2

def IsFieldName (name : Str) : Prop :=
  name ≠ [] ∧ ':' ∉ name ∧ '\n' ∉ name ∧ name.head?.any isWhitespace = false

instance (name : Str) : Decidable (IsFieldName name) :=
  inferInstanceAs (Decidable (_ ∧ _))

/-- A field line splits at the colon after its name, and its value is what is left. -/
theorem trim_fieldLine {name value : Str} (hname : IsFieldName name) (hvalue : Trimmed value) :
    ∃ rest, trim (fieldLine (name, value)) = name ++ ':' :: rest ∧ trim rest = value := by
  obtain ⟨c, name, rfl⟩ := List.exists_cons_of_ne_nil hname.1
  have hc : isWhitespace c = false := hname.2.2.2
  refine ⟨(' ' :: value).rdropWhile isWhitespace, ?_, ?_⟩
  · have hdrop := rdropWhile_append_cons (p := isWhitespace) (c := ':') (by decide) (c :: name)
      (' ' :: value)
    simpa [trim, fieldLine, hc] using hdrop
  · cases value with
    | nil => decide
    | cons d value =>
      have hlast : ∀ e ∈ (' ' :: d :: value).getLast?, ¬ isWhitespace e = true := by
        simpa using hvalue.2
      have hkeep : (' ' :: d :: value).rdropWhile isWhitespace = ' ' :: d :: value := by
        rw [List.rdropWhile_eq_self_iff]
        exact fun hne => hlast _ (List.getLast?_eq_some_getLast hne)
      have htrim : trim (' ' :: d :: value) = trim (d :: value) := by
        simp [trim, show isWhitespace ' ' = true by decide]
      rw [hkeep, htrim, trim_of_trimmed hvalue]

/-! ### The blank line -/

/-- `\r\n\r\n`, the end of a line and an empty line after it. -/
def blankLine : Str := ['\r', '\n', '\r', '\n']

theorem splitOnce_cons {sep : Str} {c : Char} {cs : Str} (h : stripPrefix sep (c :: cs) = none) :
    splitOnce sep (c :: cs) = (splitOnce sep cs).map fun p => (c :: p.1, p.2) := by
  rw [splitOnce, h]

/-- No blank line begins inside a line. -/
theorem stripPrefix_blankLine {c d : Char} (h : d ≠ '\n') (rest : Str) :
    stripPrefix blankLine (c :: d :: rest) = none := by
  simp [stripPrefix, blankLine, List.isPrefixOf, h.symm]

theorem splitOnce_line {line : Str} (h : '\n' ∉ line) (rest : Str) :
    splitOnce blankLine (line ++ '\r' :: rest) =
      (splitOnce blankLine ('\r' :: rest)).map fun p => (line ++ p.1, p.2) := by
  induction line with
  | nil => simp
  | cons c line ih =>
    rw [List.mem_cons, not_or] at h
    have hhere : stripPrefix blankLine (c :: (line ++ '\r' :: rest)) = none := by
      cases line with
      | nil => exact stripPrefix_blankLine (by decide) rest
      | cons d line =>
        have hd : d ≠ '\n' := fun he => h.2 (he ▸ List.mem_cons_self)
        exact stripPrefix_blankLine hd _
    rw [List.cons_append, splitOnce_cons hhere, ih h.2, Option.map_map]
    rfl

/-- The search for the blank line passes over a line that is not followed by one. -/
theorem splitOnce_skip_line {line : Str} (h : '\n' ∉ line) {rest : Str}
    (hrest : ∀ c ∈ rest[1]?, c ≠ '\n') :
    splitOnce blankLine (line ++ '\r' :: '\n' :: rest) =
      (splitOnce blankLine rest).map fun p => (line ++ '\r' :: '\n' :: p.1, p.2) := by
  have hbreak : stripPrefix blankLine ('\r' :: '\n' :: rest) = none := by
    cases rest with
    | nil => decide
    | cons c rest =>
      cases rest with
      | nil => simp [stripPrefix, blankLine, List.isPrefixOf]
      | cons d rest =>
        have hd : d ≠ '\n' := hrest d rfl
        simp [stripPrefix, blankLine, List.isPrefixOf, hd.symm]
  have hnewline : stripPrefix blankLine ('\n' :: rest) = none := by
    simp [stripPrefix, blankLine, List.isPrefixOf]
  rw [splitOnce_line h, splitOnce_cons hbreak, splitOnce_cons hnewline, Option.map_map,
    Option.map_map]
  simp [Function.comp_def]

theorem splitOnce_blank {line : Str} (h : '\n' ∉ line) (rest : Str) :
    splitOnce blankLine (line ++ blankLine ++ rest) = some (line, rest) := by
  have hhere : stripPrefix blankLine ('\r' :: '\n' :: '\r' :: '\n' :: rest) = some rest :=
    stripPrefix_append blankLine rest
  have hsplit : splitOnce blankLine ('\r' :: '\n' :: '\r' :: '\n' :: rest) = some ([], rest) := by
    rw [splitOnce, hhere]
  have hline := splitOnce_line h ('\n' :: '\r' :: '\n' :: rest)
  rw [hsplit] at hline
  simpa [blankLine] using hline

/-- The first blank line after a head of lines is the one that ends it. -/
theorem splitOnce_joinLines {ls : List Str} (hls : ls ≠ []) (h : ∀ line ∈ ls, '\n' ∉ line)
    (hne : ∀ line ∈ ls, line ≠ []) (body : Str) :
    splitOnce blankLine (joinLines ls ++ blankLine ++ body) = some (joinLines ls, body) := by
  induction ls with
  | nil => exact absurd rfl hls
  | cons line ls ih =>
    rw [List.forall_mem_cons] at h hne
    by_cases hlast : ls = []
    · subst hlast
      exact splitOnce_blank h.1 body
    · have hrest := ih hlast h.2 hne.2
      have hsecond : ∀ c ∈ (joinLines ls ++ blankLine ++ body)[1]?, c ≠ '\n' := by
        obtain ⟨next, later, rfl⟩ := List.exists_cons_of_ne_nil hlast
        obtain ⟨d, next, rfl⟩ := List.exists_cons_of_ne_nil (hne.2 next List.mem_cons_self)
        have hnext := h.2 _ List.mem_cons_self
        cases next with
        | nil => cases later <;> simp [joinLines, join, blankLine]
        | cons e next =>
          have he : e ≠ '\n' := fun he => hnext (by simp [he])
          cases later <;> simp [joinLines, join, he]
      have hskip := splitOnce_skip_line h.1 hsecond
      rw [hrest] at hskip
      rw [joinLines_cons hlast]
      simpa using hskip

theorem splitChar_endings {ls : List Str} (h : ∀ line ∈ ls, '\n' ∉ line) :
    splitChar '\n' (ls.map (· ++ ['\r', '\n'])).flatten = ls.map (· ++ ['\r']) ++ [[]] := by
  induction ls with
  | nil => rfl
  | cons line ls ih =>
    rw [List.forall_mem_cons] at h
    have hfield : ∀ c ∈ line ++ ['\r'], ¬ decide (c = '\n') = true := fun c hc => by
      rcases List.mem_append.mp hc with hc | hc
      · simpa using fun he : c = '\n' => h.1 (he ▸ hc)
      · obtain rfl := List.mem_singleton.mp hc
        decide
    have htext : ((line :: ls).map (· ++ ['\r', '\n'])).flatten =
        line ++ ['\r'] ++ '\n' :: (ls.map (· ++ ['\r', '\n'])).flatten := by simp
    rw [htext, splitChar, splitBy_field hfield (by decide), ← splitChar, ih h.2]
    rfl

/-- Lines that all end in `\r\n` are read back. -/
theorem lines_endings {ls : List Str} (h : ∀ line ∈ ls, '\n' ∉ line) :
    lines (ls.map (· ++ ['\r', '\n'])).flatten = ls := by
  have hstrip : ∀ line : Str, stripSuffixChar '\r' (line ++ ['\r']) = line := by
    simp [stripSuffixChar]
  rw [lines, splitChar_endings h]
  simp [hstrip, Function.comp_def]

theorem flatten_endings {ls : List Str} (h : ls ≠ []) :
    (ls.map (· ++ ['\r', '\n'])).flatten = joinLines ls ++ ['\r', '\n'] := by
  induction ls with
  | nil => exact absurd rfl h
  | cons line ls ih =>
    by_cases hlast : ls = []
    · simp [hlast, joinLines, join]
    · rw [List.map_cons, List.flatten_cons, ih hlast, joinLines_cons hlast]
      simp

end RustText
