import Mathlib.Data.List.Infix
import Mathlib.Tactic.Common

/-!
# `LIKE`

A pattern of `LIKE … ESCAPE`, and the pattern that looks for a text: without regard to the case of ASCII
letters, it matches just where the text occurs.
-/

namespace Like

/-- `text LIKE pattern ESCAPE escape`. -/
def matchesPattern (escape : Char) : List Char → List Char → Bool
  | [], text => text.isEmpty
  | c :: pattern, text =>
      if c = escape then
        match pattern with
        | [] => false
        | literal :: pattern =>
            match text with
            | [] => false
            | d :: text => literal.toLower = d.toLower && matchesPattern escape pattern text
      else if c = '%' then text.tails.any fun rest => matchesPattern escape pattern rest
      else
        match text with
        | [] => false
        | d :: text => (c = '_' || c.toLower = d.toLower) && matchesPattern escape pattern text

/-- A character that stands for itself. -/
def escapeChar (escape c : Char) : List Char :=
  if c = escape ∨ c = '%' ∨ c = '_' then [escape, c] else [c]

/-- `term` occurs in `text`, whatever the case of its ASCII letters. -/
def Occurs (term text : List Char) : Prop :=
  ∃ before found after, text = before ++ (found ++ after) ∧ found.map Char.toLower = term.map Char.toLower

variable {escape : Char}

theorem matches_plain_nil {c : Char} (hescape : c ≠ escape) (hpercent : c ≠ '%') (pattern : List Char) :
    matchesPattern escape (c :: pattern) [] = false := by
  rw [matchesPattern.eq_def]
  simp only [hescape, hpercent, if_false]

theorem matches_plain_cons {c d : Char} (hescape : c ≠ escape) (hpercent : c ≠ '%')
    (pattern rest : List Char) : matchesPattern escape (c :: pattern) (d :: rest) =
      ((c = '_' || c.toLower = d.toLower) && matchesPattern escape pattern rest) := by
  rw [matchesPattern.eq_def]
  simp only [hescape, hpercent, if_false]

theorem matches_escapeChar (c : Char) (pattern : List Char) (text : List Char) :
    matchesPattern escape (escapeChar escape c ++ pattern) text = true ↔
      ∃ d rest, text = d :: rest ∧ d.toLower = c.toLower ∧ matchesPattern escape pattern rest = true := by
  unfold escapeChar
  split
  · cases text with
    | nil => simp [matchesPattern]
    | cons d rest =>
        simp only [List.cons_append, List.nil_append, matchesPattern, if_true, Bool.and_eq_true,
          decide_eq_true_eq, List.cons.injEq]
        constructor
        · rintro ⟨hcase, hrest⟩
          exact ⟨d, rest, ⟨rfl, rfl⟩, hcase.symm, hrest⟩
        · rintro ⟨_, _, ⟨rfl, rfl⟩, hcase, hrest⟩
          exact ⟨hcase.symm, hrest⟩
  · next hplain =>
      simp only [not_or] at hplain
      obtain ⟨hescape', hpercent, hone⟩ := hplain
      cases text with
      | nil => simp [matches_plain_nil hescape' hpercent]
      | cons d rest =>
          simp only [List.cons_append, List.nil_append, matches_plain_cons hescape' hpercent, hone,
            decide_false, Bool.false_or, Bool.and_eq_true, decide_eq_true_eq, List.cons.injEq]
          constructor
          · rintro ⟨hcase, hrest⟩
            exact ⟨d, rest, ⟨rfl, rfl⟩, hcase.symm, hrest⟩
          · rintro ⟨_, _, ⟨rfl, rfl⟩, hcase, hrest⟩
            exact ⟨hcase.symm, hrest⟩

/-- Escaped characters match a text that is theirs, and the rest the rest. -/
theorem matches_escaped (term pattern text : List Char) :
    matchesPattern escape (term.flatMap (escapeChar escape) ++ pattern) text = true ↔
      ∃ found after, text = found ++ after ∧ found.map Char.toLower = term.map Char.toLower ∧
        matchesPattern escape pattern after = true := by
  induction term generalizing text with
  | nil =>
      constructor
      · exact fun h => ⟨[], text, rfl, rfl, h⟩
      · rintro ⟨found, after, rfl, hfound, h⟩
        rw [List.map_nil, List.map_eq_nil_iff] at hfound
        rw [hfound]
        exact h
  | cons c term ih =>
      rw [List.flatMap_cons, List.append_assoc, matches_escapeChar]
      constructor
      · rintro ⟨d, rest, rfl, hcase, hrest⟩
        obtain ⟨found, after, rfl, hfound, hafter⟩ := (ih rest).mp hrest
        refine ⟨d :: found, after, rfl, ?_, hafter⟩
        rw [List.map_cons, List.map_cons, hcase, hfound]
      · rintro ⟨found, after, rfl, hfound, hafter⟩
        cases found with
        | nil => simp at hfound
        | cons d found =>
            rw [List.map_cons, List.map_cons, List.cons.injEq] at hfound
            exact ⟨d, found ++ after, rfl, hfound.1, (ih _).mpr ⟨found, after, rfl, hfound.2, hafter⟩⟩

theorem matches_percent (hescape : escape ≠ '%') (pattern text : List Char) :
    matchesPattern escape ('%' :: pattern) text = true ↔
      ∃ before rest, text = before ++ rest ∧ matchesPattern escape pattern rest = true := by
  rw [matchesPattern.eq_def]
  simp only [Ne.symm hescape, if_false, if_true, List.any_eq_true, List.mem_tails]
  constructor
  · rintro ⟨rest, ⟨before, rfl⟩, h⟩
    exact ⟨before, rest, rfl, h⟩
  · rintro ⟨before, rest, rfl, h⟩
    exact ⟨rest, List.suffix_append before rest, h⟩

/-- The pattern with the escaped text between two wildcards finds the text wherever it occurs. -/
theorem matches_escaped_iff (hescape : escape ≠ '%') (term text : List Char) :
    matchesPattern escape ('%' :: (term.flatMap (escapeChar escape) ++ ['%'])) text = true ↔
      Occurs term text := by
  rw [matches_percent hescape]
  constructor
  · rintro ⟨before, rest, rfl, h⟩
    obtain ⟨found, after, rfl, hfound, -⟩ := (matches_escaped term _ rest).mp h
    exact ⟨before, found, after, rfl, hfound⟩
  · rintro ⟨before, found, after, rfl, hfound⟩
    refine ⟨before, found ++ after, rfl, (matches_escaped term _ _).mpr ⟨found, after, rfl, hfound, ?_⟩⟩
    refine (matches_percent hescape [] after).mpr ⟨after, [], (List.append_nil after).symm, rfl⟩

end Like
