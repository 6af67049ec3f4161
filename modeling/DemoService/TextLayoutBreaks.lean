import DemoService.TextLayout

/-! What collapsing only some of the spaces of a text does to its lines: the words stay, and
a break between two words survives where one of its characters is not collapsed. -/

namespace TextLayout

open RustText (Str)

variable {space inner : Char → Bool}

theorem squeeze_eq_nil {s : Str} : squeeze inner s = [] ↔ s = [] := by
  refine ⟨fun h => ?_, fun h => by rw [h]; rfl⟩
  induction s with
  | nil => rfl
  | cons c cs ih =>
    by_cases hc : inner c = true
    · cases cs with
      | nil => simp [squeeze, hc] at h
      | cons d ds =>
        by_cases hd : inner d = true
        · rw [squeeze_cons_inside hc hd] at h
          exact absurd (ih h) (List.cons_ne_nil _ _)
        · rw [squeeze_cons_last hc (by simpa using hd)] at h
          exact absurd h (List.cons_ne_nil _ _)
    · rw [squeeze_cons_word hc] at h
      exact absurd h (List.cons_ne_nil _ _)

def squeezeGaps (inner : Char → Bool) (layout : Str × List Token) : Str × List Token :=
  (squeeze inner layout.1, layout.2.map (fun tok => (tok.1, squeeze inner tok.2)))

theorem pushWordChar_squeezeGaps (c : Char) (layout : Str × List Token) :
    pushWordChar c (squeezeGaps inner layout) = squeezeGaps inner (pushWordChar c layout) := by
  obtain ⟨lead, toks⟩ := layout
  cases lead with
  | nil => cases toks <;> rfl
  | cons d lead =>
    obtain ⟨e, rest, hrest⟩ : ∃ e rest, squeeze inner (d :: lead) = e :: rest :=
      List.exists_cons_of_ne_nil fun h => List.cons_ne_nil d lead (squeeze_eq_nil.mp h)
    simp only [squeezeGaps, hrest, pushWordChar, List.map_cons]
    rfl

/-- A collapse of some of the spaces acts on the gaps alone. -/
theorem tokens_squeeze (hsub : ∀ c, inner c = true → space c = true) (hblank : inner ' ' = true)
    (s : Str) : tokens space (squeeze inner s) = squeezeGaps inner (tokens space s) := by
  induction s with
  | nil => rfl
  | cons c cs ih =>
    by_cases hc : inner c = true
    · have hspace := hsub c hc
      by_cases hhead : ∀ d ∈ cs.head?, ¬ inner d = true
      · have hlead : ∀ d ∈ (tokens space cs).1.head?, ¬ inner d = true := by
          cases cs with
          | nil => simp [tokens]
          | cons d ds =>
            by_cases hd : space d = true
            · simpa [tokens_cons_space hd] using hhead
            · simp [tokens_cons_word hd, pushWordChar_fst]
        rw [squeeze_cons_last hc hhead, tokens_cons_space (hsub ' ' hblank), ih,
          tokens_cons_space hspace]
        simp only [squeezeGaps, squeeze_cons_last hc hlead]
      · cases cs with
        | nil => simp at hhead
        | cons d ds =>
          have hd : inner d = true := by simpa using hhead
          rw [squeeze_cons_inside hc hd, ih, tokens_cons_space hspace, tokens_cons_space (hsub d hd)]
          simp only [squeezeGaps, squeeze_cons_inside hc hd]
    · rw [squeeze_cons_word hc]
      by_cases hspace : space c = true
      · rw [tokens_cons_space hspace, tokens_cons_space hspace, ih]
        simp only [squeezeGaps, squeeze_cons_word hc]
      · rw [tokens_cons_word hspace, tokens_cons_word hspace, ih, pushWordChar_squeezeGaps]

theorem any_squeeze {brk : Char → Bool} (hblank : brk ' ' = false) (s : Str) :
    (squeeze inner s).any brk = s.any (fun c => brk c && !inner c) := by
  induction s with
  | nil => rfl
  | cons c cs ih =>
    by_cases hc : inner c = true
    · by_cases hhead : ∀ d ∈ cs.head?, ¬ inner d = true
      · rw [squeeze_cons_last hc hhead, List.any_cons, List.any_cons, hblank, ih, hc]
        simp
      · cases cs with
        | nil => simp at hhead
        | cons d ds =>
          rw [squeeze_cons_inside hc (by simpa using hhead), ih]
          simp [hc]
    · rw [squeeze_cons_word hc, List.any_cons, List.any_cons, ih, Bool.eq_false_iff.mpr hc]
      simp

theorem linesOf_map_gaps {brk brk' : Char → Bool} {f : Str → Str}
    (h : ∀ gap : Str, (f gap).any brk = gap.any brk') (toks : List Token) :
    linesOf brk (toks.map (fun tok => (tok.1, f tok.2))) = linesOf brk' toks := by
  induction toks with
  | nil => rfl
  | cons tok toks ih =>
    obtain ⟨word, gap⟩ := tok
    simp only [List.map_cons, linesOf, ih, h]

/-- Adds spaces behind a layout. -/
def padLast (tail : Str) : List Token → List Token
  | [] => []
  | [(word, gap)] => [(word, gap ++ tail)]
  | tok :: tok' :: rest => tok :: padLast tail (tok' :: rest)

theorem tokens_append_spaces {tail : Str} (htail : ∀ c ∈ tail, space c = true) (s : Str) :
    (tokens space (s ++ tail)).2 = padLast tail (tokens space s).2 ∧
      ((tokens space s).2 ≠ [] → (tokens space (s ++ tail)).1 = (tokens space s).1) ∧
      ((tokens space s).2 = [] → (tokens space (s ++ tail)).1 = (tokens space s).1 ++ tail) := by
  induction s with
  | nil =>
    induction tail with
    | nil => simp [tokens, padLast]
    | cons c tail ih =>
      have hc : space c = true := htail c List.mem_cons_self
      have hrest := ih fun d hd => htail d (List.mem_cons_of_mem _ hd)
      rw [List.nil_append] at hrest
      rw [List.nil_append, tokens_cons_space hc]
      simpa [tokens, padLast] using hrest
  | cons c cs ih =>
    rw [List.cons_append]
    by_cases hc : space c = true
    · rw [tokens_cons_space hc, tokens_cons_space hc]
      simpa using ih
    · rw [tokens_cons_word hc, tokens_cons_word hc]
      rcases htoks : tokens space cs with ⟨lead, toks⟩
      rcases htoks' : tokens space (cs ++ tail) with ⟨lead', toks'⟩
      rw [htoks, htoks'] at ih
      obtain ⟨rfl, hsome, hnone⟩ := ih
      cases toks with
      | nil =>
        obtain rfl : lead' = lead ++ tail := hnone rfl
        cases lead with
        | nil => cases tail <;> simp [pushWordChar, padLast]
        | cons d lead => simp [pushWordChar, padLast]
      | cons tok toks =>
        obtain rfl : lead' = lead := hsome (List.cons_ne_nil _ _)
        obtain ⟨word, gap⟩ := tok
        cases lead' with
        | nil => cases toks <;> simp [pushWordChar, padLast]
        | cons d lead' => cases toks <;> simp [pushWordChar, padLast]

theorem linesOf_padLast (brk : Char → Bool) (tail : Str) (toks : List Token) :
    linesOf brk (padLast tail toks) = linesOf brk toks := by
  induction toks with
  | nil => rfl
  | cons tok toks ih =>
    cases toks with
    | nil => rfl
    | cons tok' toks =>
      obtain ⟨word, gap⟩ := tok
      simp only [padLast, linesOf] at ih ⊢
      rw [ih]

theorem tokens_dropWhile (hsub : ∀ c, inner c = true → space c = true) (s : Str) :
    (tokens space (s.dropWhile inner)).2 = (tokens space s).2 := by
  induction s with
  | nil => rfl
  | cons c cs ih =>
    by_cases hc : inner c = true
    · rw [List.dropWhile_cons_of_pos hc, tokens_cons_space (hsub c hc), ih]
    · rw [List.dropWhile_cons_of_neg hc]

theorem linesOf_rdropWhile (hsub : ∀ c, inner c = true → space c = true) (brk : Char → Bool)
    (s : Str) :
    linesOf brk (tokens space (s.rdropWhile inner)).2 = linesOf brk (tokens space s).2 := by
  have hsplit : s.rdropWhile inner ++ s.rtakeWhile inner = s := List.rdropWhile_append_rtakeWhile ..
  have htail : ∀ c ∈ s.rtakeWhile inner, space c = true := by
    intro c hc
    exact hsub c (List.mem_rtakeWhile_imp hc)
  have happend := (tokens_append_spaces htail (s.rdropWhile inner)).1
  rw [hsplit] at happend
  rw [happend, linesOf_padLast]

/-- The lines of a text whose spaces of one kind were collapsed, as `split_whitespace` and a
join do: the breaks that count are those of the other kind. -/
theorem linesOf_unwords {brk : Char → Bool} (hsub : ∀ c, inner c = true → space c = true)
    (hblank : inner ' ' = true) (hbrk : brk ' ' = false) (s : Str) :
    linesOf brk (tokens space (unwords (words inner s))).2 =
      linesOf (fun c => brk c && !inner c) (tokens space s).2 := by
  rw [← strip_squeeze hblank, linesOf_rdropWhile hsub, tokens_dropWhile hsub,
    tokens_squeeze hsub hblank]
  exact linesOf_map_gaps (any_squeeze hbrk) _

section Compare

variable {brk brk' : Char → Bool}

theorem length_linesOf (brk : Char → Bool) (tok : Token) (toks : List Token) :
    (linesOf brk (tok :: toks)).length =
      (((tok :: toks).dropLast.filter (fun t => t.2.any brk)).length) + 1 := by
  induction toks generalizing tok with
  | nil => simp [linesOf]
  | cons tok' toks ih =>
    obtain ⟨word, gap⟩ := tok
    obtain ⟨word', gap'⟩ := tok'
    obtain ⟨line, later, hlines⟩ := linesOf_cons_head brk gap' toks
    have hlen := ih (word', gap')
    rw [hlines word', List.length_cons] at hlen
    rw [linesOf, hlines word', List.dropLast_cons_cons]
    by_cases hgap : gap.any brk = true
    · simp only [if_pos hgap, List.filter_cons_of_pos (p := fun t : Token => t.2.any brk) (a := (word, gap)) hgap,
        List.length_cons, hlen]
    · simp only [if_neg hgap, List.filter_cons_of_neg (p := fun t : Token => t.2.any brk) (a := (word, gap)) hgap,
        List.length_cons, hlen]

theorem linesOf_cons_congr (word : Str) {gap : Str} {toks : List Token}
    (hgap : gap.any brk = gap.any brk') (h : linesOf brk toks = linesOf brk' toks) :
    linesOf brk ((word, gap) :: toks) = linesOf brk' ((word, gap) :: toks) := by
  simp only [linesOf, h, hgap]

theorem linesOf_congr {toks : List Token}
    (h : ∀ gap ∈ toks.dropLast.map Prod.snd, gap.any brk = gap.any brk') :
    linesOf brk toks = linesOf brk' toks := by
  induction toks with
  | nil => rfl
  | cons tok toks ih =>
    obtain ⟨word, gap⟩ := tok
    cases toks with
    | nil => rfl
    | cons tok' toks =>
      rw [List.dropLast_cons_cons, List.map_cons] at h
      have hgap : gap.any brk = gap.any brk' := h gap List.mem_cons_self
      exact linesOf_cons_congr word hgap (ih fun g hg => h g (List.mem_cons_of_mem _ hg))

/-- With fewer characters that break, a text keeps its number of lines exactly when every
inner gap that had a break still has one. -/
theorem length_linesOf_eq_iff (hsub : ∀ c, brk' c = true → brk c = true) (toks : List Token) :
    (linesOf brk' toks).length = (linesOf brk toks).length ↔
      ∀ gap ∈ toks.dropLast.map Prod.snd, gap.any brk = true → gap.any brk' = true := by
  have hweaker : ∀ t : Token, t.2.any brk' = true → t.2.any brk = true := by
    intro t ht
    obtain ⟨c, hc, hbrk⟩ := List.any_eq_true.mp ht
    exact List.any_eq_true.mpr ⟨c, hc, hsub c hbrk⟩
  cases toks with
  | nil => simp [linesOf]
  | cons tok toks =>
    rw [length_linesOf, length_linesOf, Nat.add_right_cancel_iff]
    constructor
    · intro hlen gap hgap hbreak
      obtain ⟨t, ht, rfl⟩ := List.mem_map.mp hgap
      have hsublist := List.monotone_filter_right (tok :: toks).dropLast hweaker
      have heq := hsublist.eq_of_length hlen
      have hmem : t ∈ (tok :: toks).dropLast.filter (fun t => t.2.any brk) :=
        List.mem_filter.mpr ⟨ht, hbreak⟩
      rw [← heq] at hmem
      exact (List.mem_filter.mp hmem).2
    · intro hkept
      congr 1
      refine List.filter_congr fun t ht => ?_
      rw [Bool.eq_iff_iff]
      exact ⟨hweaker t, hkept t.2 (List.mem_map_of_mem ht)⟩

/-- Hence the lines are the same texts exactly then. -/
theorem map_linesOf_eq_iff {α : Type} (f : List Str → α)
    (hsub : ∀ c, brk' c = true → brk c = true) (toks : List Token) :
    (linesOf brk' toks).map f = (linesOf brk toks).map f ↔
      ∀ gap ∈ toks.dropLast.map Prod.snd, gap.any brk = true → gap.any brk' = true := by
  constructor
  · intro h
    exact (length_linesOf_eq_iff hsub toks).mp (by simpa using congrArg List.length h)
  · intro hkept
    rw [linesOf_congr]
    intro gap hgap
    rw [Bool.eq_iff_iff]
    refine ⟨fun h => ?_, hkept gap hgap⟩
    obtain ⟨c, hc, hbrk⟩ := List.any_eq_true.mp h
    exact List.any_eq_true.mpr ⟨c, hc, hsub c hbrk⟩

end Compare

end TextLayout
