import DemoService.RustBreaks

/-! The text after the first blank line, found line by line. -/

namespace RustText

/-! ### Lines and their text -/

def unlines : List Str → Str := join ['\n']

theorem unlines_cons_cons (line next : Str) (rest : List Str) :
    unlines (line :: next :: rest) = line ++ '\n' :: unlines (next :: rest) := by
  simp [unlines, join]

theorem unlines_cons {rest : List Str} (h : rest ≠ []) (line : Str) :
    unlines (line :: rest) = line ++ '\n' :: unlines rest := by
  obtain ⟨next, rest, rfl⟩ := List.exists_cons_of_ne_nil h
  exact unlines_cons_cons line next rest

theorem unlines_splitChar (s : Str) : unlines (splitChar '\n' s) = s := by
  induction s with
  | nil => rfl
  | cons c s ih =>
    have hne := splitBy_ne_nil (· = '\n') s
    rw [splitChar] at ih ⊢
    by_cases hc : c = '\n'
    · simp only [splitBy, hc, decide_true, if_true]
      rw [unlines_cons hne, ih]
      rfl
    · cases hsplit : splitBy (· = '\n') s with
      | nil => exact absurd hsplit hne
      | cons line rest =>
        rw [hsplit] at ih
        simp only [splitBy, hc, decide_false, Bool.false_eq_true, if_false, hsplit]
        cases rest with
        | nil => exact congrArg (c :: ·) ih
        | cons next rest =>
          rw [unlines_cons_cons] at ih ⊢
          exact congrArg (c :: ·) ih

theorem prefix_line_iff {ending line : Str} (hending : '\n' ∉ ending) (hline : '\n' ∉ line)
    (s t : Str) : ending ++ '\n' :: s <+: line ++ '\n' :: t ↔ ending = line ∧ s <+: t := by
  induction ending generalizing line with
  | nil =>
    cases line with
    | nil => simp
    | cons c line =>
      have hc : ¬ '\n' = c := fun he => hline (he ▸ List.mem_cons_self)
      simp [hc]
  | cons d ending ih =>
    rw [List.mem_cons, not_or] at hending
    cases line with
    | nil => simp [Ne.symm hending.1]
    | cons c line =>
      rw [List.mem_cons, not_or] at hline
      rw [List.cons_append, List.cons_append, List.cons_prefix_cons, ih hending.2 hline.2,
        List.cons.injEq, and_assoc]

/-! ### After a separator -/

def textAfter (sep s : Str) : Option Str := (splitOnce sep s).map Prod.snd

theorem textAfter_eq_none {sep s : Str} : textAfter sep s = none ↔ ¬ sep <:+: s := by
  rw [textAfter, Option.map_eq_none_iff, splitOnce_eq_none_iff]

theorem textAfter_prefix {sep s : Str} (h : sep ≠ []) : textAfter sep (sep ++ s) = some s := by
  obtain ⟨c, rest, rfl⟩ := List.exists_cons_of_ne_nil h
  have hstrip := stripPrefix_append (c :: rest) s
  rw [List.cons_append] at hstrip ⊢
  rw [textAfter, splitOnce, hstrip]
  rfl

theorem textAfter_cons {sep : Str} {c : Char} {s : Str} (h : ¬ sep <+: c :: s) :
    textAfter sep (c :: s) = textAfter sep s := by
  have hstrip : stripPrefix sep (c :: s) = none := by simp [stripPrefix, h]
  rw [textAfter, splitOnce_cons hstrip, Option.map_map]
  rfl

/-- Two line ends of one kind, as they stand around an empty line. -/
def emptyLine (ending : Str) : Str := ending ++ '\n' :: (ending ++ ['\n'])

theorem emptyLine_ne_nil (ending : Str) : emptyLine ending ≠ [] :=
  List.append_ne_nil_of_right_ne_nil _ (List.cons_ne_nil _ _)

theorem textAfter_emptyLine_self {rest : List Str} (h : rest ≠ []) (ending : Str) :
    textAfter (emptyLine ending) (unlines (ending :: ending :: rest)) = some (unlines rest) := by
  have htext : unlines (ending :: ending :: rest) = emptyLine ending ++ unlines rest := by
    rw [unlines_cons_cons, unlines_cons h]
    simp [emptyLine]
  rw [htext, textAfter_prefix (emptyLine_ne_nil ending)]

section Lines

variable {ending : Str} (hending : '\n' ∉ ending)
include hending

theorem emptyLine_prefix_iff {line next : Str} (hline : '\n' ∉ line) (hnext : '\n' ∉ next)
    (rest : List Str) : emptyLine ending <+: unlines (line :: next :: rest) ↔
      ending = line ∧ next = ending ∧ rest ≠ [] := by
  rw [emptyLine, unlines_cons_cons, prefix_line_iff hending hline]
  refine and_congr_right fun _ => ?_
  cases rest with
  | nil =>
    refine iff_of_false (fun h => hnext ?_) (fun h => h.2 rfl)
    exact h.subset (List.mem_append_right _ List.mem_cons_self)
  | cons first rest =>
    rw [unlines_cons_cons, prefix_line_iff hending hnext]
    simp [eq_comm]

/-- The empty line that is looked for is the next one, or it is one of those behind. -/
theorem textAfter_emptyLine {line next : Str} (hline : '\n' ∉ line) (hnext : '\n' ∉ next)
    (rest : List Str) : textAfter (emptyLine ending) (unlines (line :: next :: rest)) =
      if ending <:+ line ∧ next = ending ∧ rest ≠ [] then some (unlines rest)
      else textAfter (emptyLine ending) (unlines (next :: rest)) := by
  induction line with
  | nil =>
    by_cases hhere : ending = [] ∧ next = ending ∧ rest ≠ []
    · obtain ⟨rfl, rfl, hrest⟩ := hhere
      rw [if_pos ⟨List.suffix_rfl, rfl, hrest⟩, textAfter_emptyLine_self hrest]
    · have hnot := (emptyLine_prefix_iff hending hline hnext rest).not.mpr hhere
      rw [unlines_cons_cons] at hnot ⊢
      rw [if_neg fun h => hhere ⟨List.suffix_nil.mp h.1, h.2⟩]
      exact textAfter_cons hnot
  | cons c line ih =>
    have hrest : '\n' ∉ line := fun h => hline (List.mem_cons_of_mem c h)
    by_cases hhere : ending = c :: line ∧ next = ending ∧ rest ≠ []
    · obtain ⟨rfl, rfl, hrest⟩ := hhere
      rw [if_pos ⟨List.suffix_rfl, rfl, hrest⟩, textAfter_emptyLine_self hrest]
    · have hnot := (emptyLine_prefix_iff hending hline hnext rest).not.mpr hhere
      have hcondition : (ending <:+ c :: line ∧ next = ending ∧ rest ≠ []) ↔
          ending <:+ line ∧ next = ending ∧ rest ≠ [] := by
        rw [List.suffix_cons_iff, or_and_right]
        exact or_iff_right hhere
      rw [if_congr hcondition rfl rfl, ← ih hrest]
      rw [unlines_cons_cons] at hnot ⊢
      rw [unlines_cons_cons]
      exact textAfter_cons hnot

end Lines

theorem textAfter_oneLine (ending : Str) {line : Str} (h : '\n' ∉ line) :
    textAfter (emptyLine ending) (unlines [line]) = none := by
  rw [textAfter_eq_none]
  exact fun hfound => h (hfound.subset (List.mem_append_right _ List.mem_cons_self))

end RustText
