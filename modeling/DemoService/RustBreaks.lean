import Mathlib.Data.List.Infix
import DemoService.RustLines

/-! Where a separator first occurs in a text that was put together, and the lines
of a text whose lines may themselves be broken. -/

namespace RustText

/-! ### Occurrences of a separator -/

theorem infix_append_cons_iff {sep : Str} {c : Char} (hc : c ∉ sep) (s t : Str) :
    sep <:+: s ++ c :: t ↔ sep <:+: s ∨ sep <:+: t := by
  have hstart : ∀ part, part ≠ [] → part <+: c :: t → c ∈ part := by
    intro part hne hprefix
    obtain ⟨d, part, rfl⟩ := List.exists_cons_of_ne_nil hne
    rw [(List.cons_prefix_cons.mp hprefix).1]
    exact List.mem_cons_self
  rw [List.infix_append_iff_ne_nil, List.infix_cons_iff]
  constructor
  · rintro (h | (h | h) | ⟨front, back, -, hback, rfl, -, hprefix⟩)
    · exact Or.inl h
    · by_cases hnil : sep = []
      · exact Or.inl (hnil ▸ List.nil_infix)
      · exact absurd (hstart sep hnil h) hc
    · exact Or.inr h
    · exact absurd (List.mem_append_right _ (hstart back hback hprefix)) hc
  · rintro (h | h)
    · exact Or.inl h
    · exact Or.inr (Or.inl (Or.inr h))

/-- A separator does not reach over a text that shares no character with it. -/
theorem infix_around_iff {sep mid : Str} (hne : mid ≠ []) (hmid : ∀ c ∈ mid, c ∉ sep) (s t : Str) :
    sep <:+: s ++ (mid ++ t) ↔ sep <:+: s ∨ sep <:+: t := by
  induction mid generalizing s with
  | nil => exact absurd rfl hne
  | cons c mid ih =>
    rw [List.forall_mem_cons] at hmid
    rw [List.cons_append, infix_append_cons_iff hmid.1]
    by_cases hnil : mid = []
    · rw [hnil, List.nil_append]
    · have hrest := ih hnil hmid.2 []
      have hempty : sep <:+: [] → sep <:+: s := fun h => h.trans (List.nil_infix)
      rw [List.nil_append] at hrest
      rw [hrest]
      constructor
      · rintro (h | h | h)
        · exact Or.inl h
        · exact Or.inl (hempty h)
        · exact Or.inr h
      · rintro (h | h)
        · exact Or.inl h
        · exact Or.inr (Or.inr h)

theorem splitOnce_eq_none_iff {sep s : Str} : splitOnce sep s = none ↔ ¬ sep <:+: s := by
  induction s with
  | nil => simp [splitOnce, stripPrefix]
  | cons c s ih =>
    rw [List.infix_cons_iff, not_or, ← ih]
    by_cases hprefix : sep <+: c :: s
    · simp [splitOnce, stripPrefix, hprefix]
    · simp [splitOnce, stripPrefix, hprefix]

/-- A separator is found where it was put exactly when it does not occur before. -/
theorem splitOnce_append_iff {sep : Str} (hsep : sep ≠ []) (front back : Str) :
    splitOnce sep (front ++ (sep ++ back)) = some (front, back) ↔
      ¬ sep <:+: front ++ sep.dropLast := by
  have hshort : sep.dropLast.length < sep.length := by
    have hpos := List.length_pos_iff.mpr hsep
    rw [List.length_dropLast]
    omega
  have hdrop : sep.dropLast <+: sep ++ back :=
    (List.dropLast_prefix sep).trans (List.prefix_append sep back)
  induction front with
  | nil =>
    have hfound : splitOnce sep (sep ++ back) = some ([], back) := by
      obtain ⟨c, rest, rfl⟩ := List.exists_cons_of_ne_nil hsep
      have hstrip := stripPrefix_append (c :: rest) back
      rw [List.cons_append] at hstrip ⊢
      rw [splitOnce, hstrip]
    have hnot : ¬ sep <:+: sep.dropLast := fun h => by
      have hle := h.length_le
      omega
    simp only [List.nil_append, hfound, hnot, not_false_eq_true]
  | cons c front ih =>
    have hsame : sep <+: c :: (front ++ (sep ++ back)) ↔ sep <+: c :: (front ++ sep.dropLast) := by
      have hwhole : c :: (front ++ sep.dropLast) <+: c :: (front ++ (sep ++ back)) :=
        List.cons_prefix_cons.mpr ⟨rfl, (List.prefix_append_right_inj front).mpr hdrop⟩
      constructor
      · intro h
        apply List.prefix_of_prefix_length_le h hwhole
        simp only [List.length_cons, List.length_append, List.length_dropLast]
        omega
      · exact fun h => h.trans hwhole
    rw [List.cons_append, List.cons_append, List.infix_cons_iff, not_or, ← hsame]
    by_cases hprefix : sep <+: c :: (front ++ (sep ++ back))
    · simp [splitOnce, stripPrefix, hprefix]
    · simpa [splitOnce, stripPrefix, hprefix] using ih

theorem blankLine_infix_concat_iff (s : Str) :
    blankLine <:+: s ++ ['\r'] ↔ blankLine <:+: s := by
  rw [List.infix_concat_iff]
  constructor
  · rintro (h | h)
    · have hlast := h.getLast (by decide)
      exact absurd hlast (by simp [blankLine])
    · exact h
  · exact fun h => Or.inr h

/-- Lines that begin inside no line break hold a blank line only each on its own. -/
theorem blankLine_infix_lines_iff {ls : List Str}
    (hstart : ∀ line ∈ ls, ∃ c rest, line = c :: rest ∧ c ∉ blankLine) :
    blankLine <:+: (ls.map (· ++ ['\r', '\n'])).flatten ++ ['\r'] ↔
      ∃ line ∈ ls, blankLine <:+: line ++ ['\r', '\n'] := by
  rw [blankLine_infix_concat_iff]
  induction ls with
  | nil =>
    have hnot : ¬ blankLine <:+: [] := by simp [blankLine]
    simp [hnot]
  | cons line ls ih =>
    rw [List.forall_mem_cons] at hstart
    rw [List.map_cons, List.flatten_cons, List.exists_mem_cons_iff, ← ih hstart.2]
    cases ls with
    | nil =>
      have hnot : ¬ blankLine <:+: [] := by simp [blankLine]
      simp [hnot]
    | cons next ls =>
      obtain ⟨c, rest, rfl, hc⟩ := hstart.2 next List.mem_cons_self
      have hempty : ¬ blankLine <:+: [] := by simp [blankLine]
      have hdrop := infix_append_cons_iff hc []
        (rest ++ ['\r', '\n'] ++ (ls.map (· ++ ['\r', '\n'])).flatten)
      rw [List.map_cons, List.flatten_cons]
      simp only [List.cons_append, List.nil_append, hempty, false_or] at hdrop ⊢
      rw [infix_append_cons_iff hc, hdrop]

theorem no_blankLine {text : Str} (h : '\n' ∉ text) : ¬ blankLine <:+: text :=
  fun hoccurs => h (hoccurs.subset (by decide))

theorem not_blankLine_infix_line {line : Str} (h : '\n' ∉ line) :
    ¬ blankLine <:+: line ++ ['\r', '\n'] := by
  intro hinfix
  have hcount := hinfix.sublist.count_le '\n'
  rw [List.count_append, List.count_eq_zero.mpr h] at hcount
  exact absurd hcount (by decide)

/-- A text without the characters of a line break. -/
def Unbroken (s : Str) : Prop := '\r' ∉ s ∧ '\n' ∉ s

instance (s : Str) : Decidable (Unbroken s) := inferInstanceAs (Decidable (_ ∧ _))

theorem Unbroken.append {s t : Str} (hs : Unbroken s) (ht : Unbroken t) : Unbroken (s ++ t) := by
  simp [Unbroken, hs.1, hs.2, ht.1, ht.2]

theorem Unbroken.notMem {s : Str} (h : Unbroken s) : ∀ c ∈ s, c ∉ blankLine := by
  intro c hc hmem
  simp only [blankLine, List.mem_cons, List.not_mem_nil, or_false] at hmem
  rcases hmem with rfl | rfl | rfl | rfl
  · exact h.1 hc
  · exact h.2 hc
  · exact h.1 hc
  · exact h.2 hc

section Holes

variable {front mid back : Str} {d : Char} (hne : front ≠ []) (hfront : Unbroken front)
  (hd : d ∉ blankLine) (hback : ¬ blankLine <:+: back)
include hne hfront hd hback

theorem blankLine_infix_hole_iff (text : Str) :
    blankLine <:+: front ++ (text ++ d :: back) ↔ blankLine <:+: text := by
  have hempty : ¬ blankLine <:+: [] := by simp [blankLine]
  have hdrop := infix_around_iff hne hfront.notMem [] (text ++ d :: back)
  rw [List.nil_append] at hdrop
  rw [hdrop, infix_append_cons_iff hd]
  simp [hempty, hback]

theorem blankLine_infix_holes_iff (hmid : mid ≠ []) (hmids : Unbroken mid)
    (text other : Str) :
    blankLine <:+: front ++ (text ++ (mid ++ (other ++ d :: back))) ↔
      blankLine <:+: text ∨ blankLine <:+: other := by
  have hempty : ¬ blankLine <:+: [] := by simp [blankLine]
  have hdrop := infix_around_iff hne hfront.notMem [] (text ++ (mid ++ (other ++ d :: back)))
  rw [List.nil_append] at hdrop
  rw [hdrop, infix_around_iff hmid hmids.notMem, infix_append_cons_iff hd]
  simp [hempty, hback]

end Holes

theorem joinLines_concat (ls : List Str) (line : Str) :
    ∃ front, joinLines (ls ++ [line]) = front ++ line := by
  induction ls with
  | nil => exact ⟨[], by simp [joinLines, join]⟩
  | cons first ls ih =>
    obtain ⟨front, hfront⟩ := ih
    refine ⟨first ++ '\r' :: '\n' :: front, ?_⟩
    rw [List.cons_append, joinLines_cons (by simp), hfront]
    simp

/-! ### Broken lines -/

def firstLine (s : Str) : Str := (splitChar '\n' s).headD []

def furtherLines (s : Str) : List Str := (splitChar '\n' s).tail

theorem firstLine_cons_furtherLines (s : Str) :
    firstLine s :: furtherLines s = splitChar '\n' s := by
  cases hsplit : splitChar '\n' s with
  | nil => exact absurd hsplit (splitBy_ne_nil _ s)
  | cons first rest => simp [firstLine, furtherLines, hsplit]

theorem splitChar_append {front : Str} (h : '\n' ∉ front) (s : Str) :
    splitChar '\n' (front ++ s) = (front ++ firstLine s) :: furtherLines s := by
  induction front with
  | nil => exact (firstLine_cons_furtherLines s).symm
  | cons c front ih =>
    rw [List.mem_cons, not_or] at h
    have hc : ¬ c = '\n' := fun he => h.1 he.symm
    rw [splitChar] at ih
    simp [splitChar, splitBy, hc, ih h.2]

theorem firstLine_append {front : Str} (h : '\n' ∉ front) (s : Str) :
    firstLine (front ++ s) = front ++ firstLine s := by
  rw [firstLine, splitChar_append h, List.headD_cons]

theorem furtherLines_append {front : Str} (h : '\n' ∉ front) (s : Str) :
    furtherLines (front ++ s) = furtherLines s := by
  rw [furtherLines, splitChar_append h, List.tail_cons]

theorem firstLine_of_oneLine {s : Str} (h : '\n' ∉ s) : firstLine s = s := by
  have happend := firstLine_append h []
  rw [List.append_nil] at happend
  rw [happend]
  exact List.append_nil s

/-- The first line of a broken text, and with the rest after it the text. -/
theorem firstLine_break {front : Str} (h : '\n' ∉ front) (s : Str) :
    firstLine (front ++ '\n' :: s) = front ∧ furtherLines (front ++ '\n' :: s) = splitChar '\n' s := by
  have hfield : ∀ c ∈ front, ¬ decide (c = '\n') = true := fun c hc => by
    simpa using fun he : c = '\n' => h (he ▸ hc)
  have hsplit := splitBy_field hfield (d := '\n') (by decide) s
  rw [firstLine, furtherLines, splitChar, hsplit]
  exact ⟨rfl, rfl⟩

theorem splitBy_append_cons {p : Char → Bool} {d : Char} (hd : p d = true) (s t : Str) :
    splitBy p (s ++ d :: t) = splitBy p s ++ splitBy p t := by
  induction s with
  | nil => simp [splitBy, hd]
  | cons c s ih =>
    by_cases hc : p c = true
    · simp [splitBy, hc, ih]
    · cases hsplit : splitBy p s with
      | nil => exact absurd hsplit (splitBy_ne_nil p s)
      | cons field fields => simp [splitBy, hc, ih, hsplit]

theorem splitBy_concat_neg {p : Char → Bool} {d : Char} (hd : ¬ p d = true) (s : Str) :
    ∃ front last, splitBy p s = front ++ [last] ∧
      splitBy p (s ++ [d]) = front ++ [last ++ [d]] := by
  induction s with
  | nil => exact ⟨[], [], by simp [splitBy], by simp [splitBy, hd]⟩
  | cons c s ih =>
    obtain ⟨front, last, hs, hconcat⟩ := ih
    by_cases hc : p c = true
    · exact ⟨[] :: front, last, by simp [splitBy, hc, hs], by simp [splitBy, hc, hconcat]⟩
    · cases front with
      | nil => exact ⟨[], c :: last, by simp [splitBy, hc, hs], by simp [splitBy, hc, hconcat]⟩
      | cons field front =>
        exact ⟨(c :: field) :: front, last, by simp [splitBy, hc, hs],
          by simp [splitBy, hc, hconcat]⟩

theorem mem_of_mem_splitBy {p : Char → Bool} {s field : Str} (h : field ∈ splitBy p s) {c : Char}
    (hc : c ∈ field) : c ∈ s := by
  induction s generalizing field with
  | nil =>
    obtain rfl := List.mem_singleton.mp h
    exact hc
  | cons d s ih =>
    have htail : ∀ part ∈ splitBy p s, c ∈ part → c ∈ d :: s := fun part hpart hmem =>
      List.mem_cons_of_mem _ (ih hpart hmem)
    unfold splitBy at h
    split at h
    · rcases List.mem_cons.mp h with rfl | h
      · cases hc
      · exact htail field h hc
    · split at h
      · obtain rfl := List.mem_singleton.mp h
        obtain rfl := List.mem_singleton.mp hc
        exact List.mem_cons_self
      · rename_i first rest hsplit
        rw [hsplit] at htail
        rcases List.mem_cons.mp h with rfl | h
        · rcases List.mem_cons.mp hc with rfl | hc
          · exact List.mem_cons_self
          · exact htail first List.mem_cons_self hc
        · exact htail field (List.mem_cons_of_mem _ h) hc

theorem exists_of_trim_ne_nil {s : Str} (h : trim s ≠ []) : ∃ c ∈ s, ¬ isWhitespace c = true := by
  obtain ⟨c, rest, hrest⟩ := List.exists_cons_of_ne_nil h
  have hhead := (trimmed_trim s).1 c (by rw [hrest]; rfl)
  exact ⟨c, mem_of_mem_trim (hrest ▸ List.mem_cons_self), hhead⟩

theorem trim_rdropWhile (s : Str) : trim (s.rdropWhile isWhitespace) = trim s := by
  by_cases hblank : ∃ c ∈ s, ¬ isWhitespace c = true
  · obtain ⟨c, hmem, hc⟩ := hblank
    obtain ⟨before, after, rfl⟩ := List.append_of_mem hmem
    rw [rdropWhile_append_cons hc, trim_around hc, trim_around hc, List.rdropWhile_idempotent]
  · have hall : ∀ c ∈ s, isWhitespace c = true := by
      simpa using hblank
    rw [List.rdropWhile_eq_nil_iff.mpr hall, trim, trim, List.dropWhile_eq_nil_iff.mpr hall]
    rfl

/-- A line break inside a text is not at its end, so trimming keeps it. -/
theorem trim_break_ne {front back : Str} (hfront : '\n' ∉ front)
    (hback : ∃ c ∈ back, ¬ isWhitespace c = true) : trim (front ++ '\n' :: back) ≠ trim front := by
  obtain ⟨c, hmem, hc⟩ := hback
  obtain ⟨before, after, rfl⟩ := List.append_of_mem hmem
  have hwhole := trim_around hc (front ++ '\n' :: before) after
  rw [List.append_assoc, List.cons_append] at hwhole
  by_cases hblank : trim front = []
  · rw [hwhole, hblank]
    simp
  · obtain ⟨d, hd, hspace⟩ := exists_of_trim_ne_nil hblank
    obtain ⟨first, second, rfl⟩ := List.append_of_mem hd
    have hkeep := dropWhile_append_cons hspace first (second ++ '\n' :: before)
    have hsame : first ++ d :: second ++ '\n' :: before =
        first ++ d :: (second ++ '\n' :: before) := by simp
    rw [hsame, hkeep] at hwhole
    intro heq
    apply hfront
    apply mem_of_mem_trim
    rw [← heq, hwhole]
    simp

theorem trim_concat {c : Char} (hc : isWhitespace c = true) (s : Str) :
    trim (s ++ [c]) = trim s := by
  rw [trim, List.dropWhile_append]
  split
  · rename_i hnil
    rw [List.isEmpty_iff] at hnil
    rw [trim, hnil]
    simp [hc]
  · rw [List.rdropWhile_concat_pos _ _ _ hc, trim]

theorem trim_stripSuffixChar {c : Char} (hc : isWhitespace c = true) (s : Str) :
    trim (stripSuffixChar c s) = trim s := by
  unfold stripSuffixChar
  split
  · rename_i hlast
    obtain ⟨front, rfl⟩ := List.getLast?_eq_some_iff.mp hlast
    rw [List.dropLast_concat, trim_concat hc]
  · rfl

theorem splitChar_joinLines_trim {ls : List Str} (hls : ls ≠ []) :
    (splitChar '\n' (joinLines ls)).map trim = (ls.flatMap (splitChar '\n')).map trim := by
  induction ls with
  | nil => exact absurd rfl hls
  | cons line ls ih =>
    by_cases hlast : ls = []
    · simp [hlast, joinLines, join]
    · have hreturn : ¬ decide ('\r' = '\n') = true := by decide
      obtain ⟨front, last, hline, hconcat⟩ := splitBy_concat_neg (p := (· = '\n')) hreturn line
      have hbreak := splitBy_append_cons (p := (· = '\n')) (d := '\n') (by simp) (line ++ ['\r'])
        (joinLines ls)
      have hspace : isWhitespace '\r' = true := by decide
      rw [List.append_assoc, List.singleton_append] at hbreak
      rw [joinLines_cons hlast, List.flatMap_cons, List.map_append, ← ih hlast, splitChar, hbreak,
        hconcat, splitChar, hline]
      simp only [List.map_append, List.map_cons, List.map_nil, trim_concat hspace, splitChar]

/-- Trimmed, the lines of a text are the lines of its lines. -/
theorem lines_joinLines_trim {ls : List Str} {last : Char} {front : Str}
    (hend : joinLines ls = front ++ [last]) (hlast : last ≠ '\n') (hls : ls ≠ []) :
    (lines (joinLines ls)).map trim = (ls.flatMap (splitChar '\n')).map trim := by
  have hbreak : ¬ decide (last = '\n') = true := by simpa using hlast
  obtain ⟨before, final, -, hsplit⟩ := splitBy_concat_neg (p := (· = '\n')) hbreak front
  have hspace : isWhitespace '\r' = true := by decide
  have hlines : (lines (joinLines ls)).map trim = (splitChar '\n' (joinLines ls)).map trim := by
    rw [lines, hend, splitChar, hsplit]
    simp [trim_stripSuffixChar hspace, Function.comp_def]
  rw [hlines, splitChar_joinLines_trim hls]

end RustText
