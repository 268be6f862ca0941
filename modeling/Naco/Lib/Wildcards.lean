import Naco.Lib.Fnmatch

/-!
# Patterns without sets

Without a `[` every character of a pattern is one token: a wildcard or itself. A run of wildcards only
counts characters: at least as many as it has `?` if it has a `*`, else exactly as many.
-/

namespace Py.Fnmatch

/-- `*` or `?`. -/
def isWild (c : Char) : Bool :=
  c = '*' || c = '?'

def tokenOf (c : Char) : Token :=
  if c = '*' then .star else if c = '?' then .one else .literal c

theorem isWild_iff {c : Char} : isWild c = true ↔ c = '*' ∨ c = '?' := by
  rw [isWild, Bool.or_eq_true, decide_eq_true_eq, decide_eq_true_eq]

theorem tokenOf_of_not_wild {c : Char} (h : isWild c = false) : tokenOf c = .literal c := by
  rw [isWild, Bool.or_eq_false_iff, decide_eq_false_iff_not, decide_eq_false_iff_not] at h
  rw [tokenOf, if_neg h.1, if_neg h.2]

theorem translate_eq {fuel : Nat} {cs : List Char} (hfuel : cs.length ≤ fuel) (h : '[' ∉ cs) :
    translate fuel cs = cs.map tokenOf := by
  induction cs generalizing fuel with
  | nil => cases fuel <;> rfl
  | cons c cs ih =>
      cases fuel with
      | zero => simp at hfuel
      | succ fuel =>
          have hrest := @ih fuel (by simpa using hfuel) fun hmem => h (List.mem_cons_of_mem _ hmem)
          by_cases hstar : c = '*'
          · subst hstar
            rw [translate, hrest]
            rfl
          · by_cases hone : c = '?'
            · subst hone
              rw [translate, hrest]
              rfl
            · have hset : c ≠ '[' := by
                rintro rfl
                exact h List.mem_cons_self
              rw [translate, hrest, List.map_cons, tokenOf, if_neg hstar, if_neg hone]
              · exact hstar
              · exact hone
              · exact hset

theorem fnmatchcase_eq {name pattern : String} (h : '[' ∉ pattern.toList) :
    fnmatchcase name pattern = matchTokens (pattern.toList.map tokenOf) name.toList := by
  rw [fnmatchcase, translate_eq le_rfl h]

/-! ### Matching piece by piece -/

theorem matchTokens_star_iff {tokens : List Token} {cs : List Char} :
    matchTokens (.star :: tokens) cs = true ↔ ∃ skipped rest, cs = skipped ++ rest ∧
      matchTokens tokens rest = true := by
  rw [matchTokens, List.any_eq_true]
  constructor
  · rintro ⟨rest, hrest, hmatch⟩
    obtain ⟨skipped, rfl⟩ := (List.mem_tails _ _).mp hrest
    exact ⟨skipped, rest, rfl, hmatch⟩
  · rintro ⟨skipped, rest, rfl, hmatch⟩
    exact ⟨rest, (List.mem_tails _ _).mpr (List.suffix_append _ _), hmatch⟩

theorem matchTokens_cons_iff {token : Token} (htoken : token ≠ .star) {tokens : List Token}
    {cs : List Char} :
    matchTokens (token :: tokens) cs = true ↔ ∃ c rest, cs = c :: rest ∧ token.matchesOne c = true ∧
      matchTokens tokens rest = true := by
  cases cs with
  | nil => cases token <;> simp_all [matchTokens]
  | cons c rest => cases token <;> simp_all [matchTokens]

theorem matchTokens_append_iff {tokens tokens' : List Token} {cs : List Char} :
    matchTokens (tokens ++ tokens') cs = true ↔ ∃ first second, cs = first ++ second ∧
      matchTokens tokens first = true ∧ matchTokens tokens' second = true := by
  induction tokens generalizing cs with
  | nil =>
      constructor
      · exact fun h => ⟨[], cs, rfl, rfl, h⟩
      · rintro ⟨first, second, rfl, hfirst, hsecond⟩
        obtain rfl := List.isEmpty_iff.mp hfirst
        exact hsecond
  | cons token tokens ih =>
      rw [List.cons_append]
      by_cases htoken : token = .star
      · subst htoken
        rw [matchTokens_star_iff]
        constructor
        · rintro ⟨skipped, rest, rfl, hrest⟩
          obtain ⟨first, second, rfl, hfirst, hsecond⟩ := ih.mp hrest
          exact ⟨skipped ++ first, second, (List.append_assoc _ _ _).symm,
            matchTokens_star_iff.mpr ⟨skipped, first, rfl, hfirst⟩, hsecond⟩
        · rintro ⟨first, second, rfl, hfirst, hsecond⟩
          obtain ⟨skipped, rest, rfl, hrest⟩ := matchTokens_star_iff.mp hfirst
          exact ⟨skipped, rest ++ second, List.append_assoc _ _ _, ih.mpr ⟨rest, second, rfl, hrest, hsecond⟩⟩
      · rw [matchTokens_cons_iff htoken]
        constructor
        · rintro ⟨c, rest, rfl, hc, hrest⟩
          obtain ⟨first, second, rfl, hfirst, hsecond⟩ := ih.mp hrest
          exact ⟨c :: first, second, rfl, (matchTokens_cons_iff htoken).mpr ⟨c, first, rfl, hc, hfirst⟩, hsecond⟩
        · rintro ⟨first, second, rfl, hfirst, hsecond⟩
          obtain ⟨c, rest, rfl, hc, hrest⟩ := (matchTokens_cons_iff htoken).mp hfirst
          exact ⟨c, rest ++ second, rfl, hc, ih.mpr ⟨rest, second, rfl, hrest, hsecond⟩⟩

theorem matchTokens_literals_iff {cs text : List Char} :
    matchTokens (cs.map .literal) text = true ↔ text = cs := by
  induction cs generalizing text with
  | nil => exact List.isEmpty_iff
  | cons c cs ih =>
      rw [List.map_cons, matchTokens_cons_iff (by simp)]
      constructor
      · rintro ⟨d, rest, rfl, hd, hrest⟩
        rw [ih.mp hrest, of_decide_eq_true hd]
      · rintro rfl
        exact ⟨c, cs, rfl, decide_eq_true rfl, ih.mpr rfl⟩

/-- A run of wildcards counts characters. -/
theorem matchTokens_wild_iff {run : List Char} (hwild : ∀ c ∈ run, isWild c = true) {cs : List Char} :
    matchTokens (run.map tokenOf) cs = true ↔
      run.count '?' ≤ cs.length ∧ ('*' ∈ run ∨ cs.length ≤ run.count '?') := by
  induction run generalizing cs with
  | nil => cases cs <;> simp [matchTokens]
  | cons c run ih =>
      obtain ⟨hc, hrun⟩ := List.forall_mem_cons.mp hwild
      rcases isWild_iff.mp hc with rfl | rfl
      · rw [List.map_cons, show tokenOf '*' = .star from rfl, matchTokens_star_iff,
          List.count_cons_of_ne (by decide)]
        constructor
        · rintro ⟨skipped, rest, rfl, hrest⟩
          have hcount := ((ih hrun).mp hrest).1
          rw [List.length_append]
          exact ⟨by omega, .inl List.mem_cons_self⟩
        · rintro ⟨hcount, -⟩
          refine ⟨cs.take (cs.length - run.count '?'), cs.drop (cs.length - run.count '?'),
            (List.take_append_drop _ _).symm, (ih hrun).mpr ?_⟩
          rw [List.length_drop]
          omega
      · rw [List.map_cons, show tokenOf '?' = .one from rfl, matchTokens_cons_iff (by simp),
          List.count_cons_self]
        constructor
        · rintro ⟨d, rest, rfl, -, hrest⟩
          obtain ⟨hcount, hstar⟩ := (ih hrun).mp hrest
          rw [List.length_cons, List.mem_cons]
          exact ⟨by omega, hstar.imp .inr fun h => by omega⟩
        · rintro ⟨hcount, hstar⟩
          cases cs with
          | nil => simp at hcount
          | cons d rest =>
              rw [List.length_cons] at hcount hstar
              rw [List.mem_cons] at hstar
              refine ⟨d, rest, rfl, rfl, (ih hrun).mpr ⟨by omega, ?_⟩⟩
              rcases hstar with (heq | hstar) | hle
              · cases heq
              · exact .inl hstar
              · exact .inr (by omega)

end Py.Fnmatch
