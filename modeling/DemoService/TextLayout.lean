import DemoService.RustText

/-! Words and the gaps between them. A text is read from the right into its leading gap and
its words, each with the gap that follows it; lines and collapsed whitespace are read off it. -/

namespace TextLayout

open RustText (Str splitBy join)

abbrev Token := Str × Str

/-- Puts one character that is no space in front of a layout. -/
def pushWordChar (c : Char) : Str × List Token → Str × List Token
  | ([], (word, gap) :: rest) => ([], (c :: word, gap) :: rest)
  | (lead, toks) => ([], ([c], lead) :: toks)

def tokens (space : Char → Bool) : Str → Str × List Token
  | [] => ([], [])
  | c :: cs =>
    if space c then (c :: (tokens space cs).1, (tokens space cs).2)
    else pushWordChar c (tokens space cs)

def words (space : Char → Bool) (s : Str) : List Str := (tokens space s).2.map Prod.fst

/-- The gaps between two words, without the leading and the trailing one. -/
def innerGaps (space : Char → Bool) (s : Str) : List Str :=
  (tokens space s).2.dropLast.map Prod.snd

def unwords (ws : List Str) : Str := join [' '] ws

/-- `re.sub(r"\s+", " ", s)`: each run of spaces becomes one blank. -/
def squeeze (space : Char → Bool) : Str → Str
  | [] => []
  | c :: cs =>
    if space c then
      match cs with
      | [] => [' ']
      | d :: _ => if space d then squeeze space cs else ' ' :: squeeze space cs
    else c :: squeeze space cs

/-- Groups words into lines, a new line after each word whose gap has a break. -/
def linesOf (brk : Char → Bool) : List Token → List (List Str)
  | [] => []
  | (word, gap) :: rest =>
    match linesOf brk rest with
    | [] => [[word]]
    | line :: later => if gap.any brk then [word] :: line :: later else (word :: line) :: later

section Tokens

variable {space : Char → Bool}

theorem tokens_cons_space {c : Char} (hc : space c = true) (cs : Str) :
    tokens space (c :: cs) = (c :: (tokens space cs).1, (tokens space cs).2) := by
  rw [tokens, if_pos hc]

theorem tokens_cons_word {c : Char} (hc : ¬ space c = true) (cs : Str) :
    tokens space (c :: cs) = pushWordChar c (tokens space cs) := by
  rw [tokens, if_neg hc]

theorem pushWordChar_fst (c : Char) (layout : Str × List Token) :
    (pushWordChar c layout).1 = [] := by
  obtain ⟨lead, toks⟩ := layout
  cases lead <;> cases toks <;> rfl

/-- A layout begins with a gap exactly when its text begins with a space. -/
theorem lead_eq_nil_iff (space : Char → Bool) (s : Str) :
    (tokens space s).1 = [] ↔ ∀ c ∈ s.head?, ¬ space c = true := by
  cases s with
  | nil => simp [tokens]
  | cons c cs =>
    by_cases hc : space c = true
    · simp [tokens_cons_space hc, hc]
    · simp [tokens_cons_word hc, pushWordChar_fst, hc]

theorem words_cons_space {c : Char} (hc : space c = true) (cs : Str) :
    words space (c :: cs) = words space cs := by
  rw [words, tokens_cons_space hc]
  rfl

/-- A word character before a gap or the end is a word of its own. -/
theorem words_cons_start {c : Char} (hc : ¬ space c = true) {cs : Str}
    (hcs : ∀ d ∈ cs.head?, space d = true) : words space (c :: cs) = [c] :: words space cs := by
  cases cs with
  | nil => simp [words, tokens, hc, pushWordChar]
  | cons d ds =>
    have hd : space d = true := hcs d rfl
    rw [words, words, tokens_cons_word hc, tokens_cons_space hd]
    rfl

/-- A word character before a word lengthens it. -/
theorem words_cons_extend {c d : Char} (hc : ¬ space c = true) (hd : ¬ space d = true) (ds : Str) :
    ∃ word rest, words space (d :: ds) = word :: rest ∧
      words space (c :: d :: ds) = (c :: word) :: rest := by
  rw [words, words, tokens_cons_word hc, tokens_cons_word hd]
  rcases tokens space ds with ⟨lead, toks⟩
  cases lead with
  | nil =>
    cases toks with
    | nil => exact ⟨_, _, rfl, rfl⟩
    | cons tok toks => exact ⟨_, _, rfl, rfl⟩
  | cons e lead => exact ⟨_, _, rfl, rfl⟩

theorem words_cons_ne_nil {d : Char} (hd : ¬ space d = true) (rest : Str) :
    words space (d :: rest) ≠ [] := by
  cases rest with
  | nil => simp [words, tokens, hd, pushWordChar]
  | cons e rest =>
    by_cases he : space e = true
    · rw [words_cons_start hd (by simpa using he)]
      exact List.cons_ne_nil _ _
    · obtain ⟨word, toks, -, hcons⟩ := words_cons_extend hd he rest
      rw [hcons]
      exact List.cons_ne_nil _ _

end Tokens

section Squeeze

variable {space : Char → Bool}

theorem rdropWhile_cons (p : Char → Bool) (c : Char) (s : Str) :
    (c :: s).rdropWhile p =
      if s.rdropWhile p = [] then (if p c then [] else [c]) else c :: s.rdropWhile p := by
  rw [List.rdropWhile, List.reverse_cons, List.dropWhile_append, List.rdropWhile]
  by_cases hnil : s.reverse.dropWhile p = []
  · by_cases hc : p c = true <;> simp [hnil, hc]
  · simp [hnil]

theorem rdropWhile_cons_neg {p : Char → Bool} {c : Char} (hc : ¬ p c = true) (s : Str) :
    (c :: s).rdropWhile p = c :: s.rdropWhile p := by
  rw [rdropWhile_cons]
  by_cases hnil : s.rdropWhile p = [] <;> simp [hnil, hc]

theorem unwords_cons_char (c : Char) (word : Str) (rest : List Str) :
    unwords ((c :: word) :: rest) = c :: unwords (word :: rest) := by
  cases rest <;> rfl

theorem unwords_cons {word : Str} {rest : List Str} (h : rest ≠ []) :
    unwords (word :: rest) = word ++ ' ' :: unwords rest := by
  cases rest with
  | nil => exact absurd rfl h
  | cons w ws => simp [unwords, join]

theorem squeeze_cons_word {c : Char} (hc : ¬ space c = true) (cs : Str) :
    squeeze space (c :: cs) = c :: squeeze space cs := by
  cases cs <;> simp [squeeze, hc]

theorem squeeze_cons_last {c : Char} (hc : space c = true) {cs : Str}
    (hcs : ∀ d ∈ cs.head?, ¬ space d = true) :
    squeeze space (c :: cs) = ' ' :: squeeze space cs := by
  cases cs with
  | nil => simp [squeeze, hc]
  | cons d ds =>
    have hd : ¬ space d = true := hcs d rfl
    rw [squeeze, if_pos hc, if_neg hd]

theorem squeeze_cons_inside {c d : Char} (hc : space c = true) (hd : space d = true) (ds : Str) :
    squeeze space (c :: d :: ds) = squeeze space (d :: ds) := by
  rw [squeeze, if_pos hc, if_pos hd]

/-- A squeezed text holds the text's word characters and blanks. -/
theorem mem_squeeze {c : Char} {s : Str} (h : c ∈ squeeze space s) :
    c = ' ' ∨ (c ∈ s ∧ ¬ space c = true) := by
  induction s with
  | nil => simp [squeeze] at h
  | cons d ds ih =>
    have hlater : c ∈ squeeze space ds → c = ' ' ∨ (c ∈ d :: ds ∧ ¬ space c = true) :=
      fun h => (ih h).imp_right fun h => ⟨List.mem_cons_of_mem _ h.1, h.2⟩
    by_cases hd : space d = true
    · by_cases hhead : ∀ e ∈ ds.head?, ¬ space e = true
      · rw [squeeze_cons_last hd hhead] at h
        exact (List.mem_cons.mp h).elim .inl hlater
      · cases ds with
        | nil => simp at hhead
        | cons e es =>
          rw [squeeze_cons_inside hd (by simpa using hhead)] at h
          exact hlater h
    · rw [squeeze_cons_word hd] at h
      rcases List.mem_cons.mp h with rfl | h
      · exact .inr ⟨List.mem_cons_self, hd⟩
      · exact hlater h

/-- Squeezing keeps the word characters, each in its place among them. -/
theorem filter_squeeze (hblank : space ' ' = true) (s : Str) :
    (squeeze space s).filter (fun c => !space c) = s.filter fun c => !space c := by
  induction s with
  | nil => rfl
  | cons c cs ih =>
    by_cases hc : space c = true
    · by_cases hhead : ∀ d ∈ cs.head?, ¬ space d = true
      · rw [squeeze_cons_last hc hhead]
        simpa [hblank, hc] using ih
      · cases cs with
        | nil => simp at hhead
        | cons d ds =>
          rw [squeeze_cons_inside hc (by simpa using hhead), ih]
          simp [hc]
    · rw [squeeze_cons_word hc]
      simpa [hc] using ih

/-- The blank that stands for the gap in front of a first word. -/
def blankBefore (space : Char → Bool) (s : Str) : Str :=
  if s.head?.any space ∧ words space s ≠ [] then [' '] else []

theorem blankBefore_word {s : Str} (h : ∀ c ∈ s.head?, ¬ space c = true) :
    blankBefore space s = [] := by
  refine if_neg fun hblank => ?_
  cases hhead : s.head? with
  | none => simp [hhead] at hblank
  | some c => exact h c hhead (by simpa [hhead] using hblank.1)

theorem unwords_words_ne_nil {s : Str} (h : words space s ≠ []) : unwords (words space s) ≠ [] := by
  induction s with
  | nil => exact absurd rfl h
  | cons c cs ih =>
    by_cases hc : space c = true
    · rw [words_cons_space hc] at h ⊢
      exact ih h
    · cases cs with
      | nil => simp [words, tokens, hc, pushWordChar, unwords, join]
      | cons d ds =>
        by_cases hd : space d = true
        · rw [words_cons_start hc (by simpa using hd), unwords_cons_char]
          exact List.cons_ne_nil _ _
        · obtain ⟨word, rest, -, hcons⟩ := words_cons_extend hc hd ds
          rw [hcons, unwords_cons_char]
          exact List.cons_ne_nil _ _

theorem unwords_words_head {d : Char} (hd : ¬ space d = true) (ds : Str) :
    ∃ rest, unwords (words space (d :: ds)) = d :: rest := by
  cases ds with
  | nil => exact ⟨_, by rw [words_cons_start hd (by simp), unwords_cons_char]⟩
  | cons e es =>
    by_cases he : space e = true
    · exact ⟨_, by rw [words_cons_start hd (by simpa using he), unwords_cons_char]⟩
    · obtain ⟨word, toks, -, hcons⟩ := words_cons_extend hd he es
      exact ⟨_, by rw [hcons, unwords_cons_char]⟩

/-- The collapsed text has the words of the text. -/
theorem words_unwords_words (hblank : space ' ' = true) (s : Str) :
    words space (unwords (words space s)) = words space s := by
  induction s with
  | nil => rfl
  | cons c cs ih =>
    by_cases hc : space c = true
    · rw [words_cons_space hc, ih]
    · cases cs with
      | nil =>
        rw [words_cons_start hc (by simp)]
        exact words_cons_start hc (by simp)
      | cons d ds =>
        by_cases hd : space d = true
        · rw [words_cons_start hc (by simpa using hd)]
          by_cases hrest : words space (d :: ds) = []
          · rw [hrest]
            exact words_cons_start hc (by simp)
          · rw [unwords_cons hrest, List.singleton_append,
              words_cons_start hc (by simpa using hblank), words_cons_space hblank, ih]
        · obtain ⟨word, rest, hwords, hcons⟩ := words_cons_extend hc hd ds
          obtain ⟨tail, htail⟩ := unwords_words_head hd ds
          rw [hwords] at ih htail
          obtain ⟨word', rest', hwords', hcons'⟩ := words_cons_extend hc hd tail
          rw [← htail, ih] at hwords'
          obtain ⟨rfl, rfl⟩ := List.cons.inj hwords'
          rw [hcons, unwords_cons_char, htail, hcons']

theorem rdropWhile_squeeze (hblank : space ' ' = true) (s : Str) :
    (squeeze space s).rdropWhile space = blankBefore space s ++ unwords (words space s) := by
  induction s with
  | nil => simp [squeeze, blankBefore, words, tokens, unwords, join]
  | cons c cs ih =>
    by_cases hc : space c = true
    · by_cases hhead : ∀ d ∈ cs.head?, ¬ space d = true
      · rw [squeeze_cons_last hc hhead, rdropWhile_cons, ih, blankBefore_word hhead,
          List.nil_append]
        by_cases hwords : words space cs = []
        · simp [hwords, unwords, join, hblank, blankBefore, words_cons_space hc]
        · simp [unwords_words_ne_nil hwords, blankBefore, words_cons_space hc, hwords, hc]
      · cases cs with
        | nil => simp at hhead
        | cons d ds =>
          have hd : space d = true := by simpa using hhead
          rw [squeeze_cons_inside hc hd, ih, words_cons_space hc]
          simp [blankBefore, words_cons_space hc, hc, hd]
    · have hfront : blankBefore space (c :: cs) = [] := blankBefore_word (by simp [hc])
      rw [squeeze_cons_word hc, rdropWhile_cons, ih, hfront, List.nil_append]
      cases cs with
      | nil => simp [words, tokens, hc, pushWordChar, blankBefore, unwords, join]
      | cons d ds =>
        by_cases hd : space d = true
        · rw [words_cons_start hc (by simpa using hd)]
          by_cases hwords : words space (d :: ds) = []
          · simp [hwords, blankBefore, unwords, join, hc]
          · have hblankBefore : blankBefore space (d :: ds) = [' '] :=
              if_pos ⟨hd, hwords⟩
            simp [hblankBefore, unwords_cons hwords]
        · obtain ⟨word, rest, htail, hcons⟩ := words_cons_extend hc hd ds
          have hne : unwords (words space (d :: ds)) ≠ [] :=
            unwords_words_ne_nil (by rw [htail]; exact List.cons_ne_nil _ _)
          rw [blankBefore_word (s := d :: ds) (by simp [hd]), List.nil_append, if_neg hne, hcons,
            htail, unwords_cons_char]

theorem dropWhile_squeeze (hblank : space ' ' = true) (s : Str) :
    (squeeze space s).dropWhile space = squeeze space (s.dropWhile space) := by
  induction s with
  | nil => rfl
  | cons c cs ih =>
    by_cases hc : space c = true
    · rw [List.dropWhile_cons_of_pos hc]
      by_cases hhead : ∀ d ∈ cs.head?, ¬ space d = true
      · rw [squeeze_cons_last hc hhead, List.dropWhile_cons_of_pos hblank, ih]
      · cases cs with
        | nil => simp at hhead
        | cons d ds =>
          rw [squeeze_cons_inside hc (by simpa using hhead), ih]
    · rw [List.dropWhile_cons_of_neg hc, squeeze_cons_word hc, List.dropWhile_cons_of_neg hc]

theorem words_dropWhile (s : Str) : words space (s.dropWhile space) = words space s := by
  induction s with
  | nil => rfl
  | cons c cs ih =>
    by_cases hc : space c = true
    · rw [List.dropWhile_cons_of_pos hc, words_cons_space hc, ih]
    · rw [List.dropWhile_cons_of_neg hc]

/-- Collapsing whitespace and stripping leaves the words, one blank between two. -/
theorem strip_squeeze (hblank : space ' ' = true) (s : Str) :
    ((squeeze space s).dropWhile space).rdropWhile space = unwords (words space s) := by
  rw [dropWhile_squeeze hblank, rdropWhile_squeeze hblank, words_dropWhile, blankBefore_word,
    List.nil_append]
  intro c hmem
  cases hdrop : s.dropWhile space with
  | nil => simp [hdrop] at hmem
  | cons d ds =>
    have hd := List.head?_dropWhile_not space s
    simp_all

end Squeeze

section Lines

variable {space brk : Char → Bool}

theorem splitBy_cons_neg {p : Char → Bool} {c : Char} (hc : ¬ p c = true) {s field : Str}
    {fields : List Str} (h : splitBy p s = field :: fields) :
    splitBy p (c :: s) = (c :: field) :: fields := by
  rw [splitBy, if_neg hc, h]

theorem splitBy_cons_pos {p : Char → Bool} {c : Char} (hc : p c = true) (s : Str) :
    splitBy p (c :: s) = [] :: splitBy p s := by
  rw [splitBy, if_pos hc]

theorem splitBy_words (space : Char → Bool) (s : Str) : ∃ field fields, splitBy space s = field :: fields ∧
    ((field = [] ∧ (∀ c ∈ s.head?, space c = true) ∧ fields.filter (· ≠ []) = words space s) ∨
      (field ≠ [] ∧ (∃ c cs, s = c :: cs ∧ ¬ space c = true) ∧
        words space s = field :: fields.filter (· ≠ []))) := by
  induction s with
  | nil => exact ⟨[], [], rfl, .inl ⟨rfl, by simp, rfl⟩⟩
  | cons c cs ih =>
    obtain ⟨field, fields, hsplit, hcase⟩ := ih
    by_cases hc : space c = true
    · refine ⟨[], field :: fields, by rw [splitBy_cons_pos hc, hsplit], .inl ⟨rfl, by simpa, ?_⟩⟩
      rw [words_cons_space hc]
      rcases hcase with ⟨rfl, -, hwords⟩ | ⟨hne, -, hwords⟩
      · simpa using hwords
      · rw [hwords, List.filter_cons_of_pos (by simpa using hne)]
    · refine ⟨c :: field, fields, splitBy_cons_neg hc hsplit,
        .inr ⟨List.cons_ne_nil _ _, ⟨c, cs, rfl, hc⟩, ?_⟩⟩
      rcases hcase with ⟨rfl, hhead, hwords⟩ | ⟨-, ⟨d, ds, rfl, hd⟩, hwords⟩
      · rw [words_cons_start hc hhead, hwords]
      · obtain ⟨word, rest, htail, hcons⟩ := words_cons_extend hc hd ds
        rw [hwords] at htail
        obtain ⟨rfl, rfl⟩ := List.cons.inj htail
        exact hcons

theorem filter_splitBy (s : Str) : (splitBy space s).filter (· ≠ []) = words space s := by
  obtain ⟨field, fields, hsplit, ⟨rfl, -, hwords⟩ | ⟨hne, -, hwords⟩⟩ := splitBy_words space s
  · simpa [hsplit] using hwords
  · rw [hsplit, hwords, List.filter_cons_of_pos (by simpa using hne)]

theorem linesOf_ne_nil {toks : List Token} : ∀ line ∈ linesOf brk toks, line ≠ [] := by
  induction toks with
  | nil => simp [linesOf]
  | cons tok toks ih =>
    obtain ⟨word, gap⟩ := tok
    cases hrest : linesOf brk toks with
    | nil => simp [linesOf, hrest]
    | cons line later =>
      rw [hrest] at ih
      by_cases hgap : gap.any brk = true
      · simp only [linesOf, hrest, if_pos hgap]
        intro l hl
        rcases List.mem_cons.mp hl with rfl | hl
        · exact List.cons_ne_nil _ _
        · exact ih l hl
      · simp only [linesOf, hrest, if_neg hgap]
        intro l hl
        rcases List.mem_cons.mp hl with rfl | hl
        · exact List.cons_ne_nil _ _
        · exact ih l (List.mem_cons_of_mem _ hl)

/-- The first line of a layout begins with its first word. -/
theorem linesOf_cons_head (brk : Char → Bool) (gap : Str) (toks : List Token) :
    ∃ line later, ∀ word, linesOf brk ((word, gap) :: toks) = (word :: line) :: later := by
  cases hrest : linesOf brk toks with
  | nil => exact ⟨[], [], fun word => by simp only [linesOf, hrest]⟩
  | cons line later =>
    by_cases hgap : gap.any brk = true
    · exact ⟨[], line :: later, fun word => by simp only [linesOf, hrest, if_pos hgap]⟩
    · exact ⟨line, later, fun word => by simp only [linesOf, hrest, if_neg hgap]⟩

theorem splitBy_head (brk : Char → Bool) (s : Str) : ∃ field fields, splitBy brk s = field :: fields ∧
    (∀ c ∈ field.head?, c ∈ s.head?) ∧ (∀ c ∈ s.head?, ¬ brk c = true → c ∈ field.head?) := by
  induction s with
  | nil => exact ⟨[], [], rfl, by simp, by simp⟩
  | cons c cs ih =>
    obtain ⟨field, fields, hsplit, -, -⟩ := ih
    by_cases hc : brk c = true
    · refine ⟨[], field :: fields, by rw [splitBy_cons_pos hc, hsplit], by simp, ?_⟩
      intro d hd hbrk
      simp only [List.head?_cons, Option.mem_some_iff] at hd
      exact absurd hc (hd ▸ hbrk)
    · exact ⟨c :: field, fields, splitBy_cons_neg hc hsplit, by simp, by simp⟩

theorem words_of_lead {s : Str} (h : (tokens space s).1 = []) :
    ((tokens space s).2 = [] ∧ s = []) ∨ ∃ c cs, s = c :: cs ∧ ¬ space c = true := by
  cases s with
  | nil => exact .inl ⟨rfl, rfl⟩
  | cons c cs => exact .inr ⟨c, cs, rfl, by simpa using (lead_eq_nil_iff space (c :: cs)).mp h⟩

theorem filter_first_line {broken : Bool} {lines later : List (List Str)} {first : List Str}
    (hne : ∀ line ∈ lines, line ≠ [])
    (hfirst : first = if broken = true then [] else lines.headD [])
    (hlater : later.filter (· ≠ []) = if broken = true then lines else lines.tail) :
    (first :: later).filter (· ≠ []) = lines := by
  cases broken with
  | true => simpa [hfirst] using hlater
  | false =>
    cases lines with
    | nil => simpa [hfirst] using hlater
    | cons line lines =>
      have hline : line ≠ [] := hne line List.mem_cons_self
      simpa [hfirst, hline] using hlater

/-- Splitting at breaks and then into words gives the lines of the layout. The first field
holds the first line unless the leading gap has a break. -/
theorem splitBy_lines (hsub : ∀ c, brk c = true → space c = true) (s : Str) :
    ∃ field fields, splitBy brk s = field :: fields ∧
      words space field = (if (tokens space s).1.any brk then []
        else (linesOf brk (tokens space s).2).headD []) ∧
      (fields.map (words space)).filter (· ≠ []) = (if (tokens space s).1.any brk then
        linesOf brk (tokens space s).2 else (linesOf brk (tokens space s).2).tail) := by
  induction s with
  | nil => exact ⟨[], [], rfl, rfl, rfl⟩
  | cons c cs ih =>
    obtain ⟨field, fields, hsplit, hfield, hfields⟩ := ih
    by_cases hc : brk c = true
    · refine ⟨[], field :: fields, by rw [splitBy_cons_pos hc, hsplit], ?_, ?_⟩
      · rw [tokens_cons_space (hsub c hc), List.any_cons, hc, Bool.true_or, if_pos rfl]
        rfl
      · rw [tokens_cons_space (hsub c hc), List.any_cons, hc, Bool.true_or, if_pos rfl,
          List.map_cons]
        exact filter_first_line linesOf_ne_nil hfield hfields
    · refine ⟨c :: field, fields, splitBy_cons_neg hc hsplit, ?_⟩
      by_cases hspace : space c = true
      · rw [words_cons_space hspace, tokens_cons_space hspace, List.any_cons,
          Bool.eq_false_iff.mpr hc, Bool.false_or]
        exact ⟨hfield, hfields⟩
      · rw [tokens_cons_word hspace, pushWordChar_fst, List.any_nil, if_neg Bool.false_ne_true,
          if_neg Bool.false_ne_true]
        obtain ⟨field', fields', hsplit', hsame, hkept⟩ := splitBy_head brk cs
        obtain ⟨rfl, rfl⟩ := List.cons.inj (hsplit'.symm.trans hsplit)
        by_cases hlead : (tokens space cs).1 = []
        · rw [hlead, List.any_nil, if_neg Bool.false_ne_true] at hfield hfields
          rcases words_of_lead hlead with ⟨htoks, rfl⟩ | ⟨d, ds, rfl, hd⟩
          · simp only [splitBy, List.cons.injEq] at hsplit
            obtain ⟨rfl, rfl⟩ := hsplit
            simp [words, tokens, hspace, pushWordChar, linesOf]
          · have hdbrk : ¬ brk d = true := fun hb => hd (hsub d hb)
            have hdfield := hkept d rfl hdbrk
            cases field' with
            | nil => simp at hdfield
            | cons e field' =>
              obtain rfl : e = d := by simpa using hdfield
              obtain ⟨word, rest, htail, hcons⟩ := words_cons_extend hspace hd field'
              rw [hcons]
              rcases htoks : tokens space (e :: ds) with ⟨lead, toks⟩
              rw [htoks] at hlead hfield hfields
              obtain rfl : lead = [] := hlead
              cases toks with
              | nil => simp [htail, linesOf] at hfield
              | cons tok toks =>
                obtain ⟨first, gap⟩ := tok
                obtain ⟨line, later, hlines⟩ := linesOf_cons_head brk gap toks
                rw [htail] at hfield
                simp only [hlines, List.headD_cons, List.tail_cons, List.cons.injEq] at hfield hfields
                simp only [pushWordChar, hlines, List.headD_cons, List.tail_cons]
                exact ⟨by rw [hfield.1, hfield.2], hfields⟩
        · have hhead : ∀ d ∈ field'.head?, space d = true := by
            intro d hd
            by_contra hdspace
            obtain ⟨d', ds, rfl⟩ : ∃ d' ds, cs = d' :: ds := by
              cases cs with
              | nil => simpa using hsame d hd
              | cons d' ds => exact ⟨d', ds, rfl⟩
            obtain rfl : d' = d := by simpa using hsame d hd
            exact hlead ((lead_eq_nil_iff space (d' :: ds)).mpr (by simpa using hdspace))
          rw [words_cons_start hspace hhead]
          rcases htoks : tokens space cs with ⟨lead, toks⟩
          rw [htoks] at hlead hfield hfields
          obtain ⟨d, lead, rfl⟩ : ∃ d ds, lead = d :: ds := List.exists_cons_of_ne_nil hlead
          cases hlines : linesOf brk toks with
          | nil => simp_all [pushWordChar, linesOf]
          | cons line later =>
            by_cases hbreak : (d :: lead).any brk = true
            · simp only [if_pos hbreak, hlines] at hfield hfields
              simp only [pushWordChar, linesOf, hlines, if_pos hbreak, hfield, hfields,
                List.headD_cons, List.tail_cons, and_self]
            · simp only [if_neg hbreak, hlines, List.headD_cons, List.tail_cons] at hfield hfields
              simp only [pushWordChar, linesOf, hlines, if_neg hbreak, hfield, hfields,
                List.headD_cons, List.tail_cons, and_self]

theorem filter_words_splitBy (hsub : ∀ c, brk c = true → space c = true) (s : Str) :
    ((splitBy brk s).map (words space)).filter (· ≠ []) = linesOf brk (tokens space s).2 := by
  obtain ⟨field, fields, hsplit, hfield, hfields⟩ := splitBy_lines hsub s
  rw [hsplit, List.map_cons]
  exact filter_first_line linesOf_ne_nil hfield hfields

end Lines

theorem dropWhile_congr {p q : Char → Bool} {s : List Char} (h : ∀ c ∈ s, p c = q c) :
    s.dropWhile p = s.dropWhile q := by
  induction s with
  | nil => rfl
  | cons c s ih =>
    have hs := ih fun d hd => h d (List.mem_cons_of_mem c hd)
    simp only [List.dropWhile_cons, h c List.mem_cons_self, hs]

end TextLayout
