import Naco.Conditions
import Naco.Lib.Casefold
import Naco.Tacacs.Authz

/-!
# What ignoring case adds and loses

Pattern and value are folded as wholes, and some characters fold to two or three. A run of `?` with no `*`
counts characters, so it can miss the folded value; a pattern in which every such run has a `*` beside it
loses no match, and neither does a value of characters that fold to one.
-/

namespace Naco

open Py Fnmatch

/-- A run of `?` with no other wildcard beside it. -/
def LoneRun (cs : List Char) : Prop :=
  ∃ before count after, cs = before ++ List.replicate (count + 1) '?' ++ after ∧
    (∀ c ∈ before.getLast?, isWild c = false) ∧ ∀ c ∈ after.head?, isWild c = false

/-- Single blanks between the words, and none around them. -/
def Squeezed (s : String) : Prop :=
  join " " (words s) = s

/-- What matches with the case as it is matches without. -/
structure KeepsMatch (pattern value : String) : Prop where
  glob : fnmatchcase value pattern = true → glob pattern (some value) = true
  rule : Squeezed pattern → Squeezed value → fnmatchcase value pattern = true →
    ∀ (set : CommandSet) (action : CommandAction) (rest : List (CommandAction × String)),
      set.rules = (action, pattern) :: rest → Tacacs.commandAllowed value (some set) =
        ⟨action = .permit, Tacacs.CommandAction.lowerValue action ++ " by rule '" ++ pattern ++ "'"⟩

/-! ### Folded patterns -/

theorem foldChar_of_wild {c : Char} (h : isWild c = true) : foldChar c = [c] := by
  rcases isWild_iff.mp h with rfl | rfl <;> decide

theorem tokens_foldChar {c : Char} (hwild : isWild c = false) (hset : c ≠ '[') :
    (foldChar c).map tokenOf = (foldChar c).map .literal := by
  have hspecial : isSpecial c = false := by
    rw [isSpecial, ← isWild, hwild, Bool.false_or, decide_eq_false_iff_not]
    exact hset
  refine List.map_congr_left fun d hd => tokenOf_of_not_wild ?_
  have hd := not_isSpecial_of_mem_foldChar hspecial hd
  rw [isSpecial, ← isWild, Bool.or_eq_false_iff] at hd
  exact hd.1

theorem not_mem_fold {cs : List Char} (h : '[' ∉ cs) : '[' ∉ cs.flatMap foldChar := by
  intro hmem
  obtain ⟨c, hc, hfold⟩ := List.mem_flatMap.mp hmem
  cases hwild : isWild c with
  | true =>
      rw [foldChar_of_wild hwild] at hfold
      exact h (List.mem_singleton.mp hfold ▸ hc)
  | false =>
      have hspecial : isSpecial c = false := by
        rw [isSpecial, ← isWild, hwild, Bool.false_or, decide_eq_false_iff_not]
        rintro rfl
        exact h hc
      exact absurd (not_isSpecial_of_mem_foldChar hspecial hfold) (by decide)

/-- The tokens of a folded pattern. -/
def foldTokens (cs : List Char) : List Token :=
  (cs.flatMap foldChar).map tokenOf

theorem foldTokens_append (cs cs' : List Char) :
    foldTokens (cs ++ cs') = foldTokens cs ++ foldTokens cs' := by
  rw [foldTokens, List.flatMap_append, List.map_append]
  rfl

theorem foldTokens_of_wild {run : List Char} (h : ∀ c ∈ run, isWild c = true) :
    foldTokens run = run.map tokenOf := by
  have hfold : run.flatMap foldChar = run := by
    induction run with
    | nil => rfl
    | cons c run ih =>
        obtain ⟨hc, hrun⟩ := List.forall_mem_cons.mp h
        rw [List.flatMap_cons, foldChar_of_wild hc, ih hrun, List.singleton_append]
  rw [foldTokens, hfold]

theorem foldTokens_cons_of_not_wild {c : Char} (hwild : isWild c = false) (hset : c ≠ '[')
    (cs : List Char) : foldTokens (c :: cs) = (foldChar c).map .literal ++ foldTokens cs := by
  rw [foldTokens, List.flatMap_cons, List.map_append, tokens_foldChar hwild hset]
  rfl

theorem fold_matches_iff {pattern value : String} (h : '[' ∉ pattern.toList) :
    fnmatchcase (casefold value) (casefold pattern) =
      matchTokens (foldTokens pattern.toList) (value.toList.flatMap foldChar) := by
  have hfold : '[' ∉ (casefold pattern).toList := by
    rw [casefold, String.toList_ofList]
    exact not_mem_fold h
  rw [fnmatchcase_eq hfold, casefold, casefold, String.toList_ofList, String.toList_ofList, foldTokens]

theorem glob_some (pattern value : String) :
    glob pattern (some value) = fnmatchcase (casefold value) (casefold pattern) := by
  simp only [glob, fold, Option.isSome_some, Option.getD_some, Bool.true_and]

theorem keepsMatch_iff {pattern value : String} (h : '[' ∉ pattern.toList) :
    KeepsMatch pattern value ↔ (matchTokens (pattern.toList.map tokenOf) value.toList = true →
      matchTokens (foldTokens pattern.toList) (value.toList.flatMap foldChar) = true) := by
  rw [← fnmatchcase_eq h, ← fold_matches_iff h]
  constructor
  · intro hkeeps hmatch
    rw [← glob_some]
    exact hkeeps.glob hmatch
  · refine fun hkeeps => ⟨fun hmatch => (glob_some pattern value).trans (hkeeps hmatch),
      fun hpattern _ hmatch set action rest hrules => ?_⟩
    have hrule : fnmatchcase (casefold value) (casefold (join " " (words pattern))) = true := by
      rw [hpattern]
      exact hkeeps hmatch
    simp [Tacacs.commandAllowed, hrules, hrule]
    rfl

/-! ### Every run has a star -/

theorem length_le_fold (text : List Char) : text.length ≤ (text.flatMap foldChar).length := by
  induction text with
  | nil => exact le_rfl
  | cons c text ih =>
      have hpos := List.length_pos_of_ne_nil (foldChar_ne_nil c)
      rw [List.flatMap_cons, List.length_append, List.length_cons]
      omega

theorem replicate_of_wild {run : List Char} (hwild : ∀ c ∈ run, isWild c = true) (hstar : '*' ∉ run) :
    run = List.replicate run.length '?' := by
  refine List.eq_replicate_of_mem fun c hc => ?_
  rcases isWild_iff.mp (hwild c hc) with rfl | rfl
  · exact absurd hc hstar
  · rfl

theorem LoneRun.of_suffix {c : Char} {rest : List Char} (h : LoneRun rest) (hc : isWild c = false)
    (run : List Char) : LoneRun (run ++ c :: rest) := by
  obtain ⟨before, count, after, rfl, hbefore, hafter⟩ := h
  refine ⟨run ++ c :: before, count, after, by simp, ?_, hafter⟩
  rw [List.getLast?_append_of_ne_nil _ (by simp)]
  cases before with
  | nil =>
      rintro d hd
      cases hd
      exact hc
  | cons d before =>
      rw [List.getLast?_cons_cons]
      exact hbefore

theorem matches_fold_of_not_loneRun {cs text : List Char} (hset : '[' ∉ cs) (hlone : ¬LoneRun cs)
    (hmatch : matchTokens (cs.map tokenOf) text = true) :
    matchTokens (foldTokens cs) (text.flatMap foldChar) = true := by
  induction hlength : cs.length using Nat.strong_induction_on generalizing cs text with
  | h length ih =>
      have hsplit := List.takeWhile_append_dropWhile (p := isWild) (l := cs)
      have hwild : ∀ c ∈ cs.takeWhile isWild, isWild c = true := fun c hc => List.mem_takeWhile_imp hc
      have hhead : ∀ c ∈ (cs.dropWhile isWild).head?, isWild c = false := by
        intro c hc
        have hnot := List.head?_dropWhile_not isWild cs
        rw [Option.mem_def.mp hc] at hnot
        exact hnot
      generalize cs.takeWhile isWild = run at hsplit hwild
      generalize cs.dropWhile isWild = rest at hsplit hhead
      subst hsplit
      rw [List.map_append] at hmatch
      obtain ⟨first, second, rfl, hfirst, hsecond⟩ := matchTokens_append_iff.mp hmatch
      rw [foldTokens_append, List.flatMap_append]
      refine matchTokens_append_iff.mpr ⟨_, _, rfl, ?_, ?_⟩
      · -- the run counts characters, and folding only makes more of them
        rw [foldTokens_of_wild hwild, matchTokens_wild_iff hwild]
        obtain ⟨hcount, hstar⟩ := (matchTokens_wild_iff hwild).mp hfirst
        refine ⟨hcount.trans (length_le_fold first), ?_⟩
        by_cases hmem : '*' ∈ run
        · exact .inl hmem
        · right
          have hreplicate := replicate_of_wild hwild hmem
          cases hrun : run.length with
          | zero =>
              obtain rfl := List.length_eq_zero_iff.mp hrun
              obtain rfl : first = [] := by simpa using hstar
              exact Nat.zero_le _
          | succ count =>
              rw [hrun] at hreplicate
              exact absurd ⟨[], count, rest, by rw [hreplicate, List.nil_append], by simp, hhead⟩ hlone
      · cases rest with
        | nil =>
            obtain rfl := List.isEmpty_iff.mp hsecond
            rfl
        | cons c rest =>
            have hc := hhead c rfl
            have hbracket : c ≠ '[' := by
              rintro rfl
              exact hset (by simp)
            rw [List.map_cons, tokenOf_of_not_wild hc] at hsecond
            obtain ⟨d, tail, rfl, hd, htail⟩ := (matchTokens_cons_iff (by simp)).mp hsecond
            obtain rfl : d = c := of_decide_eq_true hd
            rw [foldTokens_cons_of_not_wild hc hbracket, List.flatMap_cons]
            refine matchTokens_append_iff.mpr ⟨_, _, rfl, matchTokens_literals_iff.mpr rfl, ?_⟩
            refine ih rest.length ?_ (fun hmem => hset (by simp [hmem])) (fun h => hlone (h.of_suffix hc run))
              htail rfl
            rw [← hlength, List.length_append, List.length_cons]
            omega

/-! ### A run without a star -/

/-- Three characters that fold to two each, with no character in common. -/
def expanders : List Char :=
  ['\u00DF', '\u0149', '\u01F0']

/-- What stands for a character of the pattern: nothing for a star. -/
def filling (c : Char) : List Char :=
  if c = '*' then [] else if c = '?' then ['x'] else [c]

theorem foldChar_expanders :
    foldChar '\u00DF' = ['s', 's'] ∧ foldChar '\u0149' = ['\u02BC', 'n'] ∧
      foldChar '\u01F0' = ['j', '\u030C'] := by
  decide

theorem length_of_mem_expanders {c : Char} (h : c ∈ expanders) : (foldChar c).length = 2 := by
  obtain ⟨hs, hn, hj⟩ := foldChar_expanders
  simp only [expanders, List.mem_cons, List.not_mem_nil, or_false] at h
  rcases h with rfl | rfl | rfl
  · rw [hs]
    rfl
  · rw [hn]
    rfl
  · rw [hj]
    rfl

/-- A character is in the folding of at most one of them. -/
theorem exists_blocked (d : Option Char) :
    ∃ blocked ∈ expanders, ∀ c ∈ expanders, c ≠ blocked → ∀ x ∈ d, x ∉ foldChar c := by
  obtain ⟨hs, hn, hj⟩ := foldChar_expanders
  by_cases hds : ∃ x ∈ d, x ∈ foldChar '\u00DF'
  · obtain ⟨x, rfl, hx⟩ := hds
    rw [hs] at hx
    refine ⟨_, List.mem_cons_self, fun c hc hne y hy => ?_⟩
    cases hy
    obtain rfl : x = 's' := by simpa using hx
    simp only [expanders, List.mem_cons, List.not_mem_nil, or_false] at hc
    rcases hc with rfl | rfl | rfl
    · exact absurd rfl hne
    · rw [hn]
      decide
    · rw [hj]
      decide
  · by_cases hdn : ∃ x ∈ d, x ∈ foldChar '\u0149'
    · obtain ⟨x, rfl, hx⟩ := hdn
      rw [hn] at hx
      refine ⟨'\u0149', by decide, fun c hc hne y hy => ?_⟩
      cases hy
      simp only [expanders, List.mem_cons, List.not_mem_nil, or_false] at hc hx
      rcases hc with rfl | rfl | rfl
      · exact fun hmem => hds ⟨x, rfl, hmem⟩
      · exact absurd rfl hne
      · rw [hj]
        rcases hx with rfl | rfl <;> decide
    · refine ⟨'\u01F0', by decide, fun c hc hne y hy => ?_⟩
      simp only [expanders, List.mem_cons, List.not_mem_nil, or_false] at hc
      rcases hc with rfl | rfl | rfl
      · exact fun hmem => hds ⟨y, hy, hmem⟩
      · exact fun hmem => hdn ⟨y, hy, hmem⟩
      · exact absurd rfl hne

theorem exists_expander (d e : Option Char) :
    ∃ c ∈ expanders, (∀ x ∈ d, x ∉ foldChar c) ∧ ∀ x ∈ e, x ∉ foldChar c := by
  obtain ⟨first, hfirst, hd⟩ := exists_blocked d
  obtain ⟨second, hsecond, he⟩ := exists_blocked e
  have hthird : (expanders.all fun first => expanders.all fun second =>
      expanders.any fun c => c ≠ first && c ≠ second) = true := by
    decide
  simp only [List.all_eq_true, List.any_eq_true, Bool.and_eq_true, decide_eq_true_eq] at hthird
  obtain ⟨c, hc, hne, hne'⟩ := hthird first hfirst second hsecond
  exact ⟨c, hc, hd c hc hne, he c hc hne'⟩

theorem matches_filling (cs : List Char) : matchTokens (cs.map tokenOf) (cs.flatMap filling) = true := by
  induction cs with
  | nil => rfl
  | cons c cs ih =>
      rw [List.map_cons, List.flatMap_cons]
      cases hwild : isWild c with
      | true =>
          rcases isWild_iff.mp hwild with rfl | rfl
          · exact matchTokens_star_iff.mpr ⟨[], _, rfl, ih⟩
          · exact (matchTokens_cons_iff (by decide)).mpr ⟨'x', _, rfl, rfl, ih⟩
      | false =>
          have hfilling : filling c = [c] := by
            rw [isWild, Bool.or_eq_false_iff, decide_eq_false_iff_not, decide_eq_false_iff_not] at hwild
            rw [filling, if_neg hwild.1, if_neg hwild.2]
          rw [tokenOf_of_not_wild hwild, hfilling]
          exact (matchTokens_cons_iff (by simp)).mpr ⟨c, _, rfl, decide_eq_true rfl, ih⟩

/-- Nothing shorter than the folded filling matches. -/
theorem length_filling_le {cs text : List Char} (hset : '[' ∉ cs)
    (h : matchTokens (foldTokens cs) text = true) :
    ((cs.flatMap filling).flatMap foldChar).length ≤ text.length := by
  induction cs generalizing text with
  | nil => exact Nat.zero_le _
  | cons c cs ih =>
      rw [List.mem_cons, not_or] at hset
      rw [List.flatMap_cons, List.flatMap_append, List.length_append]
      cases hwild : isWild c with
      | true =>
          have htokens : foldTokens (c :: cs) = tokenOf c :: foldTokens cs := by
            rw [foldTokens, List.flatMap_cons, foldChar_of_wild hwild]
            rfl
          rw [htokens] at h
          rcases isWild_iff.mp hwild with rfl | rfl
          · obtain ⟨skipped, rest, rfl, hrest⟩ := matchTokens_star_iff.mp h
            have hle := ih hset.2 hrest
            have hnone : ((filling '*').flatMap foldChar).length = 0 := by decide
            rw [hnone, List.length_append]
            omega
          · obtain ⟨d, rest, rfl, -, hrest⟩ := (matchTokens_cons_iff (by decide)).mp h
            have hle := ih hset.2 hrest
            have hone : ((filling '?').flatMap foldChar).length = 1 := by decide
            rw [hone, List.length_cons]
            omega
      | false =>
          have hfilling : filling c = [c] := by
            rw [isWild, Bool.or_eq_false_iff, decide_eq_false_iff_not, decide_eq_false_iff_not] at hwild
            rw [filling, if_neg hwild.1, if_neg hwild.2]
          rw [foldTokens_cons_of_not_wild hwild (Ne.symm hset.1)] at h
          obtain ⟨first, second, rfl, hfirst, hsecond⟩ := matchTokens_append_iff.mp h
          obtain rfl := matchTokens_literals_iff.mp hfirst
          have hle := ih hset.2 hsecond
          rw [hfilling, List.flatMap_singleton, List.length_append]
          omega

theorem exists_middle {left middle right first second third : List Char}
    (h : left ++ middle ++ right = first ++ second ++ third) (hleft : left.length ≤ first.length)
    (hright : right.length ≤ third.length) :
    ∃ front back, first = left ++ front ∧ third = back ++ right ∧ middle = front ++ second ++ back := by
  obtain ⟨front, rfl⟩ : left <+: first := by
    refine List.prefix_of_prefix_length_le ?_ (List.prefix_append first (second ++ third)) hleft
    rw [← List.append_assoc, ← h, List.append_assoc]
    exact List.prefix_append _ _
  obtain ⟨back, rfl⟩ : right <:+ third := by
    refine List.suffix_of_suffix_length_le ?_ (List.suffix_append (left ++ front ++ second) third) hright
    rw [← h]
    exact List.suffix_append _ _
  refine ⟨front, back, rfl, rfl, ?_⟩
  rw [← List.append_assoc _ back right, List.append_left_inj, List.append_assoc, List.append_assoc,
    List.append_right_inj] at h
  rw [h, List.append_assoc]

/-- The folded text of a pattern that starts with a literal starts with the folded literal. -/
theorem head?_of_matches {cs text : List Char} (hset : '[' ∉ cs) (hhead : ∀ c ∈ cs.head?, isWild c = false)
    (h : matchTokens (foldTokens cs) text = true) :
    text.head? = (cs.head?.map foldChar).bind List.head? := by
  cases cs with
  | nil =>
      obtain rfl := List.isEmpty_iff.mp h
      rfl
  | cons c cs =>
      have hbracket : c ≠ '[' := by
        rintro rfl
        exact hset List.mem_cons_self
      rw [foldTokens_cons_of_not_wild (hhead c rfl) hbracket] at h
      obtain ⟨first, second, rfl, hfirst, -⟩ := matchTokens_append_iff.mp h
      obtain rfl := matchTokens_literals_iff.mp hfirst
      rw [List.head?_append_of_ne_nil _ (foldChar_ne_nil c)]
      rfl

theorem getLast?_of_matches {cs text : List Char} (hset : '[' ∉ cs)
    (hlast : ∀ c ∈ cs.getLast?, isWild c = false) (h : matchTokens (foldTokens cs) text = true) :
    text.getLast? = (cs.getLast?.map foldChar).bind List.getLast? := by
  rcases cs.eq_nil_or_concat with rfl | ⟨init, c, rfl⟩
  · obtain rfl := List.isEmpty_iff.mp h
    rfl
  · rw [List.concat_eq_append] at hset hlast h ⊢
    have hc := hlast c (by simp)
    have hbracket : c ≠ '[' := by
      rintro rfl
      exact hset (by simp)
    rw [foldTokens_append, foldTokens_cons_of_not_wild hc hbracket] at h
    obtain ⟨first, second, rfl, -, hsecond⟩ := matchTokens_append_iff.mp h
    obtain ⟨third, fourth, rfl, hthird, hfourth⟩ := matchTokens_append_iff.mp hsecond
    obtain rfl := matchTokens_literals_iff.mp hthird
    obtain rfl := List.isEmpty_iff.mp hfourth
    rw [List.append_nil, List.getLast?_append_of_ne_nil _ (foldChar_ne_nil c), List.getLast?_concat]
    rfl

/-- A lone run misses a value: with characters that fold to two in its place, and that fold to none of the
characters beside it, the folded run has room for neither neighbour. -/
theorem exists_lost_of_loneRun {cs : List Char} (hset : '[' ∉ cs) (hlone : LoneRun cs) :
    ∃ text, matchTokens (cs.map tokenOf) text = true ∧
      ¬matchTokens (foldTokens cs) (text.flatMap foldChar) = true := by
  obtain ⟨before, count, after, rfl, hbefore, hafter⟩ := hlone
  have hsetBefore : '[' ∉ before := fun hmem => hset (by simp [hmem])
  have hsetAfter : '[' ∉ after := fun hmem => hset (by simp [hmem])
  obtain ⟨c, hc, hleft, hright⟩ := exists_expander
    ((before.getLast?.map foldChar).bind List.getLast?) ((after.head?.map foldChar).bind List.head?)
  have hwild : ∀ d ∈ List.replicate (count + 1) '?', isWild d = true := by
    intro d hd
    rw [List.eq_of_mem_replicate hd]
    rfl
  have hlong : ((List.replicate (count + 1) c).flatMap foldChar).length = 2 * (count + 1) := by
    rw [List.flatMap_replicate, List.length_flatten, List.map_replicate, List.sum_replicate_nat,
      length_of_mem_expanders hc, Nat.mul_comm]
  have hchars : ∀ d ∈ (List.replicate (count + 1) c).flatMap foldChar, d ∈ foldChar c := by
    intro d hd
    obtain ⟨e, he, hd⟩ := List.mem_flatMap.mp hd
    exact List.eq_of_mem_replicate he ▸ hd
  refine ⟨before.flatMap filling ++ List.replicate (count + 1) c ++ after.flatMap filling, ?_, fun h => ?_⟩
  · rw [List.map_append, List.map_append]
    refine matchTokens_append_iff.mpr ⟨_, _, rfl, matchTokens_append_iff.mpr ⟨_, _, rfl,
      matches_filling before, (matchTokens_wild_iff hwild).mpr ?_⟩, matches_filling after⟩
    simp
  · rw [foldTokens_append, foldTokens_append, List.flatMap_append, List.flatMap_append] at h
    generalize (List.replicate (count + 1) c).flatMap foldChar = folded at h hlong hchars
    obtain ⟨front, third, htext, hfront, hthird⟩ := matchTokens_append_iff.mp h
    obtain ⟨first, second, rfl, hfirst, hsecond⟩ := matchTokens_append_iff.mp hfront
    rw [foldTokens_of_wild hwild, matchTokens_wild_iff hwild, List.count_replicate_self] at hsecond
    have hcount : second.length = count + 1 := by
      have hnone : '*' ∉ List.replicate (count + 1) '?' := fun hmem => by
        exact absurd (List.eq_of_mem_replicate hmem) (by decide)
      exact le_antisymm (hsecond.2.resolve_left hnone) hsecond.1
    obtain ⟨front, back, rfl, rfl, hmiddle⟩ := exists_middle htext
      (length_filling_le hsetBefore hfirst) (length_filling_le hsetAfter hthird)
    rw [hmiddle, List.length_append, List.length_append, hcount] at hlong
    rw [hmiddle] at hchars
    by_cases hback : back = []
    · have hfront : front ≠ [] := by
        rintro rfl
        rw [hback, List.length_nil] at hlong
        omega
      have hlast := getLast?_of_matches hsetBefore hbefore hfirst
      rw [List.getLast?_append_of_ne_nil _ hfront] at hlast
      obtain ⟨d, hd⟩ := Option.isSome_iff_exists.mp (List.getLast?_isSome.mpr hfront)
      refine hleft d (hlast ▸ hd) (hchars d ?_)
      exact List.mem_append_left _ (List.mem_append_left _ (List.mem_of_getLast? hd))
    · have hhead := head?_of_matches hsetAfter hafter hthird
      rw [List.head?_append_of_ne_nil _ hback] at hhead
      obtain ⟨d, hd⟩ := Option.isSome_iff_exists.mp (List.isSome_head?.mpr hback)
      exact hright d (hhead ▸ hd) (hchars d (List.mem_append_right _ (List.mem_of_head? hd)))

/-! ### Values of characters that fold to one -/

theorem matches_fold_of_single {cs text : List Char} (hset : '[' ∉ cs)
    (hsingle : ∀ c ∈ text, (foldChar c).length = 1) (h : matchTokens (cs.map tokenOf) text = true) :
    matchTokens (foldTokens cs) (text.flatMap foldChar) = true := by
  induction cs generalizing text with
  | nil =>
      obtain rfl := List.isEmpty_iff.mp h
      rfl
  | cons c cs ih =>
      rw [List.mem_cons, not_or] at hset
      rw [List.map_cons] at h
      cases hwild : isWild c with
      | true =>
          have htokens : foldTokens (c :: cs) = tokenOf c :: foldTokens cs := by
            rw [foldTokens, List.flatMap_cons, foldChar_of_wild hwild]
            rfl
          rw [htokens]
          rcases isWild_iff.mp hwild with rfl | rfl
          · obtain ⟨skipped, rest, rfl, hrest⟩ := matchTokens_star_iff.mp h
            rw [List.flatMap_append]
            exact matchTokens_star_iff.mpr ⟨_, _, rfl,
              ih hset.2 (fun c hc => hsingle c (List.mem_append_right _ hc)) hrest⟩
          · obtain ⟨d, rest, rfl, -, hrest⟩ := (matchTokens_cons_iff (by decide)).mp h
            obtain ⟨hd, hsingle⟩ := List.forall_mem_cons.mp hsingle
            obtain ⟨e, he⟩ := List.length_eq_one_iff.mp hd
            rw [List.flatMap_cons, he]
            exact (matchTokens_cons_iff (by decide)).mpr ⟨e, _, rfl, rfl, ih hset.2 hsingle hrest⟩
      | false =>
          rw [tokenOf_of_not_wild hwild] at h
          obtain ⟨d, rest, rfl, hd, hrest⟩ := (matchTokens_cons_iff (by simp)).mp h
          obtain rfl : d = c := of_decide_eq_true hd
          rw [foldTokens_cons_of_not_wild hwild (Ne.symm hset.1), List.flatMap_cons]
          exact matchTokens_append_iff.mpr ⟨_, _, rfl, matchTokens_literals_iff.mpr rfl,
            ih hset.2 (List.forall_mem_cons.mp hsingle).2 hrest⟩

theorem single_of_length_fold {text : List Char} (h : (text.flatMap foldChar).length = text.length) :
    ∀ c ∈ text, (foldChar c).length = 1 := by
  induction text with
  | nil => exact List.forall_mem_nil _
  | cons c text ih =>
      have hpos := List.length_pos_of_ne_nil (foldChar_ne_nil c)
      have hle := length_le_fold text
      rw [List.flatMap_cons, List.length_append, List.length_cons] at h
      exact List.forall_mem_cons.mpr ⟨by omega, ih (by omega)⟩

/-- Ignoring case loses no match of a pattern exactly when no run of `?` stands alone, and no match with a
value exactly when each of its characters folds to one. -/
theorem keepsMatch_iff_not_loneRun (pattern value : String) :
    ('[' ∉ pattern.toList →
        ((∀ value, KeepsMatch pattern value) ↔ ¬LoneRun pattern.toList)) ∧
      ((∀ pattern : String, '[' ∉ pattern.toList → KeepsMatch pattern value) ↔
        ∀ c ∈ value.toList, (foldChar c).length = 1) := by
  refine ⟨fun hset => ?_, ?_⟩
  · constructor
    · intro hkeeps hlone
      obtain ⟨text, hmatch, hlost⟩ := exists_lost_of_loneRun hset hlone
      have htext := (keepsMatch_iff hset).mp (hkeeps (String.ofList text))
      rw [String.toList_ofList] at htext
      exact hlost (htext hmatch)
    · exact fun hlone value => (keepsMatch_iff hset).mpr (matches_fold_of_not_loneRun hset hlone)
  · constructor
    · intro hkeeps
      -- as many `?` as the value has characters
      have hwild : ∀ c ∈ List.replicate value.toList.length '?', isWild c = true := by
        intro c hc
        rw [List.eq_of_mem_replicate hc]
        rfl
      have hset : '[' ∉ (String.ofList (List.replicate value.toList.length '?')).toList := by
        rw [String.toList_ofList]
        exact fun hmem => absurd (hwild '[' hmem) (by decide)
      have hfold := (keepsMatch_iff hset).mp (hkeeps _ hset)
      rw [String.toList_ofList, foldTokens_of_wild hwild, matchTokens_wild_iff hwild,
        matchTokens_wild_iff hwild, List.count_replicate_self] at hfold
      obtain ⟨-, hstar⟩ := hfold ⟨le_rfl, .inr le_rfl⟩
      refine single_of_length_fold (le_antisymm (hstar.resolve_left fun hmem => ?_) (length_le_fold _))
      exact absurd (List.eq_of_mem_replicate hmem) (by decide)
    · exact fun hsingle pattern hset => (keepsMatch_iff hset).mpr (matches_fold_of_single hset hsingle)

/-- A `?` covers the sharp s, but not the two letters that it folds to. -/
theorem glob_misses_sharp_s :
    ¬ ∀ pattern value : String, '[' ∉ pattern.toList → fnmatchcase value pattern = true →
      glob pattern (some value) = true := by
  intro h
  have hglob : glob "stra?e" (some "stra\u00DFe") = false := by decide
  exact absurd ((h "stra?e" "stra\u00DFe" (by decide) (by decide)).symm.trans hglob) (by decide)

end Naco
