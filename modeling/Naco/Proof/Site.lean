import Naco.Proof.MacForms
import Naco.Site

/-!
# The site and NACo agree on MAC addresses

A User-Name that one of the three expressions matches consists of six pairs of hex digits with a gap of at
most one separator after each of the first five. Groups of four or six digits are such pairs too, some of
them without a separator.
-/

namespace Naco.Site

open Py

/-- Pairs of characters after their gaps. -/
def writtenPairs (rest : List (Option Char × List Char)) : List Char :=
  rest.flatMap fun pair => pair.1.toList ++ pair.2

/-- A pair of hex digits. -/
def IsPair (pair : List Char) : Prop :=
  pair.length = 2 ∧ ∀ c ∈ pair, isHexDigit c = true

/-- `cs` is six pairs of hex digits with at most one separator in each gap. -/
structure WritesPairs (cs first : List Char) (rest : List (Option Char × List Char)) : Prop where
  text : cs = first ++ writtenPairs rest
  five : rest.length = 5
  isPair : IsPair first ∧ ∀ pair ∈ rest, IsPair pair.2
  separator : ∀ pair ∈ rest, ∀ c ∈ pair.1, isSeparator c = true

/-- Two different separators. -/
def MixesSeparators (rest : List (Option Char × List Char)) : Prop :=
  ∃ pair ∈ rest, ∃ other ∈ rest, ∃ c ∈ pair.1, ∃ d ∈ other.1, c ≠ d

/-- A separator in one gap and none in another. -/
def SeparatesSome (rest : List (Option Char × List Char)) : Prop :=
  (∃ pair ∈ rest, pair.1 = none) ∧ ∃ pair ∈ rest, pair.1 ≠ none

/-! ### What the expressions match -/

/-- Groups of hex digits with their gaps. -/
def IsGroups (optional : Bool) (size : Nat) (groups : List (Option Char × List Char)) : Prop :=
  ∀ group ∈ groups, (optional = false → group.1 ≠ none) ∧ (∀ c ∈ group.1, isSeparator c = true) ∧
    group.2.length = size ∧ ∀ c ∈ group.2, isHexDigit c = true

theorem isGroups_cons {optional : Bool} {size : Nat} {gap : Option Char} {group : List Char}
    {groups : List (Option Char × List Char)} :
    IsGroups optional size ((gap, group) :: groups) ↔
      ((optional = false → gap ≠ none) ∧ (∀ c ∈ gap, isSeparator c = true) ∧ group.length = size ∧
        ∀ c ∈ group, isHexDigit c = true) ∧ IsGroups optional size groups :=
  List.forall_mem_cons

theorem not_hex_of_isSeparator {c : Char} (h : isSeparator c = true) : isHexDigit c = false := by
  have hall : ∀ separator ∈ ['-', ':', '.', ' '], isHexDigit separator = false :=
    forall_mem_of_all (by decide)
  exact hall c (of_decide_eq_true h)

theorem dropGroups_eq_some {optional : Bool} {size count : Nat} {cs tail : List Char}
    (h : dropGroups optional size count cs = some tail) :
    ∃ groups, cs = writtenPairs groups ++ tail ∧ groups.length = count ∧ IsGroups optional size groups := by
  induction count generalizing cs with
  | zero =>
      cases h
      exact ⟨[], rfl, rfl, fun _ hgroup => nomatch hgroup⟩
  | succ count ih =>
      have hgroup {gap : Option Char} {rest : List Char}
          (hgap : (optional = false → gap ≠ none) ∧ ∀ c ∈ gap, isSeparator c = true)
          (hrest : (dropHex size rest).bind (dropGroups optional size count) = some tail) :
          ∃ groups, gap.toList ++ rest = writtenPairs groups ++ tail ∧ groups.length = count + 1 ∧
            IsGroups optional size groups := by
        obtain ⟨middle, hfirst, hnext⟩ := Option.bind_eq_some_iff.mp hrest
        obtain ⟨group, rfl, hsize, hhex⟩ := dropHex_eq_some hfirst
        obtain ⟨groups, rfl, rfl, hgroups⟩ := ih hnext
        refine ⟨(gap, group) :: groups, ?_, rfl, isGroups_cons.mpr ⟨⟨hgap.1, hgap.2, hsize, hhex⟩, hgroups⟩⟩
        simp [writtenPairs]
      cases cs with
      | nil => cases h
      | cons c rest =>
          rw [dropGroups] at h
          by_cases hc : isSeparator c = true
          · rw [if_pos hc] at h
            refine @hgroup (some c) rest ⟨fun _ => by simp, fun d hd => ?_⟩ h
            cases hd
            exact hc
          · rw [if_neg hc] at h
            cases optional with
            | false => cases h
            | true => exact @hgroup none (c :: rest) ⟨by simp, by simp⟩ h

theorem dropGroups_append {optional : Bool} {size : Nat} {groups : List (Option Char × List Char)}
    (h : IsGroups optional (size + 1) groups) (tail : List Char) :
    dropGroups optional (size + 1) groups.length (writtenPairs groups ++ tail) = some tail := by
  induction groups with
  | nil => rfl
  | cons first groups ih =>
      obtain ⟨gap, group⟩ := first
      obtain ⟨⟨hoptional, hgap, hsize, hhex⟩, hgroups⟩ := isGroups_cons.mp h
      have hnext : (dropHex (size + 1) (group ++ (writtenPairs groups ++ tail))).bind
          (dropGroups optional (size + 1) groups.length) = some tail := by
        rw [← hsize, dropHex_append hhex, Option.bind_some, hsize]
        exact ih hgroups
      rw [writtenPairs, List.flatMap_cons, List.append_assoc, List.append_assoc, List.length_cons]
      cases gap with
      | some c =>
          rw [Option.toList_some, List.cons_append, dropGroups, if_pos (hgap c rfl)]
          exact hnext
      | none =>
          cases group with
          | nil => cases hsize
          | cons c group =>
              have hc : ¬isSeparator c = true := by
                intro hsep
                have hdigit := hhex c List.mem_cons_self
                rw [not_hex_of_isSeparator hsep] at hdigit
                cases hdigit
              have hopt : optional = true := by
                cases optional with
                | true => rfl
                | false => exact absurd rfl (hoptional rfl)
              rw [Option.toList_none, List.nil_append, List.cons_append, dropGroups, if_neg hc, if_pos hopt]
              exact hnext

theorem matchesGroups_iff {pcre optional : Bool} {size count : Nat} {userName : String} :
    matchesGroups pcre optional (size + 1) count userName = true ↔
      ∃ first groups tail, userName.toList = first ++ writtenPairs groups ++ tail ∧
        (first.length = size + 1 ∧ ∀ c ∈ first, isHexDigit c = true) ∧ groups.length = count ∧
        IsGroups optional (size + 1) groups ∧ atEnd pcre tail = true := by
  rw [matchesGroups]
  constructor
  · intro h
    split at h
    · next tail hdrop =>
        obtain ⟨middle, hfirst, hgroups⟩ := Option.bind_eq_some_iff.mp hdrop
        obtain ⟨first, htext, hlength, hhex⟩ := dropHex_eq_some hfirst
        obtain ⟨groups, rfl, hcount, hall⟩ := dropGroups_eq_some hgroups
        exact ⟨first, groups, tail, by rw [htext, List.append_assoc], ⟨hlength, hhex⟩, hcount, hall, h⟩
    · cases h
  · rintro ⟨first, groups, tail, htext, ⟨hlength, hhex⟩, rfl, hall, htail⟩
    have hdrop : (dropHex (size + 1) userName.toList).bind
        (dropGroups optional (size + 1) groups.length) = some tail := by
      rw [htext, List.append_assoc, ← hlength, dropHex_append hhex, Option.bind_some, hlength]
      exact dropGroups_append hall tail
    rw [hdrop]
    exact htail

/-! ### Every expression matches pairs -/

/-- A group of digits as pairs, the first of them after the gap. -/
def pairsOf (gap : Option Char) : List Char → List (Option Char × List Char)
  | a :: b :: cs => (gap, [a, b]) :: pairsOf none cs
  | _ => []

theorem pairsOf_spec {gap : Option Char} {count : Nat} {group : List Char}
    (hgap : ∀ c ∈ gap, isSeparator c = true) (hlength : group.length = 2 * (count + 1))
    (hhex : ∀ c ∈ group, isHexDigit c = true) :
    writtenPairs (pairsOf gap group) = gap.toList ++ group ∧ (pairsOf gap group).length = count + 1 ∧
      IsGroups true 2 (pairsOf gap group) := by
  induction count generalizing gap group with
  | zero =>
      match group, hlength with
      | [a, b], _ => exact ⟨by simp [writtenPairs, pairsOf], rfl,
          isGroups_cons.mpr ⟨⟨by simp, hgap, rfl, hhex⟩, fun _ h => nomatch h⟩⟩
  | succ count ih =>
      match group, hlength with
      | a :: b :: rest, hlength =>
          obtain ⟨ha, hhex⟩ := List.forall_mem_cons.mp hhex
          obtain ⟨hb, hhex⟩ := List.forall_mem_cons.mp hhex
          obtain ⟨htext, hcount, hall⟩ := @ih none rest (by simp)
            (by rw [List.length_cons, List.length_cons] at hlength; omega) hhex
          refine ⟨?_, by rw [pairsOf, List.length_cons, hcount],
            isGroups_cons.mpr ⟨⟨by simp, hgap, rfl, by simp [ha, hb]⟩, hall⟩⟩
          rw [pairsOf, writtenPairs, List.flatMap_cons]
          rw [writtenPairs] at htext
          rw [htext]
          simp

theorem pairsOf_groups {size count : Nat} {groups : List (Option Char × List Char)}
    (h : IsGroups false (2 * (size + 1)) groups) (hcount : groups.length = count) :
    writtenPairs (groups.flatMap fun group => pairsOf group.1 group.2) = writtenPairs groups ∧
      (groups.flatMap fun group => pairsOf group.1 group.2).length = count * (size + 1) ∧
      IsGroups true 2 (groups.flatMap fun group => pairsOf group.1 group.2) := by
  induction groups generalizing count with
  | nil =>
      subst hcount
      exact ⟨rfl, by simp, fun _ h => nomatch h⟩
  | cons first groups ih =>
      obtain ⟨gap, group⟩ := first
      obtain ⟨⟨-, hgap, hlength, hhex⟩, hgroups⟩ := isGroups_cons.mp h
      obtain ⟨htext, hnumber, hall⟩ := pairsOf_spec hgap hlength hhex
      obtain ⟨htexts, hnumbers, halls⟩ := ih hgroups rfl
      rw [List.length_cons] at hcount
      refine ⟨?_, ?_, ?_⟩
      · rw [List.flatMap_cons, writtenPairs, List.flatMap_append]
        rw [writtenPairs] at htext htexts
        rw [htext, htexts]
        simp [writtenPairs]
      · rw [List.flatMap_cons, List.length_append, hnumber, hnumbers, ← hcount, Nat.succ_mul, Nat.add_comm]
      · rw [List.flatMap_cons]
        intro pair hpair
        rcases List.mem_append.mp hpair with hpair | hpair
        · exact hall pair hpair
        · exact halls pair hpair

/-- An expression with groups of `size + 1` pairs matches pairs. -/
theorem writesPairs_of_matchesGroups {pcre : Bool} {size count : Nat} {userName : String}
    (hpairs : size + count * (size + 1) = 5)
    (h : matchesGroups pcre false (2 * size + 1 + 1) count userName = true) :
    ∃ cs first rest tail, userName.toList = cs ++ tail ∧ atEnd pcre tail = true ∧
      WritesPairs cs first rest := by
  obtain ⟨group, groups, tail, htext, ⟨hlength, hhex⟩, hcount, hall, htail⟩ := matchesGroups_iff.mp h
  obtain ⟨htexts, hnumbers, halls⟩ := pairsOf_groups hall hcount
  obtain ⟨hfirst, hnumber, hpairs'⟩ := @pairsOf_spec none size group (by simp) hlength hhex
  cases hgroup : pairsOf none group with
  | nil =>
      rw [hgroup] at hnumber
      cases hnumber
  | cons first others =>
      obtain ⟨gap, first⟩ := first
      rw [hgroup] at hfirst hnumber hpairs'
      obtain ⟨⟨-, -, hpair, hfirsthex⟩, hothers⟩ := isGroups_cons.mp hpairs'
      have hgap : gap = none := by
        match group, hgroup with
        | a :: b :: cs, hgroup =>
            rw [pairsOf] at hgroup
            exact (Prod.mk.inj (List.cons.inj hgroup).1).1.symm
      subst hgap
      refine ⟨group ++ writtenPairs groups, first,
        others ++ groups.flatMap fun group => pairsOf group.1 group.2, tail, htext, htail, ?_, ?_, ?_, ?_⟩
      · rw [← htexts, ← List.nil_append group, ← Option.toList_none, ← hfirst, writtenPairs, writtenPairs,
          writtenPairs, List.flatMap_cons, List.flatMap_append]
        simp
      · rw [List.length_append, hnumbers]
        rw [List.length_cons] at hnumber
        omega
      · refine ⟨⟨hpair, hfirsthex⟩, fun pair hmem => ?_⟩
        rcases List.mem_append.mp hmem with hmem | hmem
        · exact (hothers pair hmem).2.2
        · exact (halls pair hmem).2.2
      · intro pair hmem
        rcases List.mem_append.mp hmem with hmem | hmem
        · exact (hothers pair hmem).2.1
        · exact (halls pair hmem).2.1

theorem writesPairs_of_isMacName {pcre : Bool} {userName : String} (h : isMacName pcre userName = true) :
    ∃ cs first rest tail, userName.toList = cs ++ tail ∧ atEnd pcre tail = true ∧
      WritesPairs cs first rest := by
  rw [isMacName, Bool.or_eq_true, Bool.or_eq_true] at h
  rcases h with (h | h) | h
  · obtain ⟨first, groups, tail, htext, hfirst, hcount, hall, htail⟩ := matchesGroups_iff.mp h
    exact ⟨first ++ writtenPairs groups, first, groups, tail, htext, htail, rfl, hcount,
      ⟨hfirst, fun pair hpair => (hall pair hpair).2.2⟩, fun pair hpair => (hall pair hpair).2.1⟩
  · exact @writesPairs_of_matchesGroups pcre 1 2 userName rfl h
  · exact @writesPairs_of_matchesGroups pcre 2 1 userName rfl h

/-! ### Both accept the same notations -/

theorem isSeparator_iff {c : Char} : isSeparator c = true ↔ c ∈ [':', '-', '.', ' '] := by
  rw [isSeparator, decide_eq_true_eq]
  simp only [List.mem_cons, List.not_mem_nil, or_false]
  exact or_left_comm

theorem isGroups_separated {optional : Bool} {separator : Char} {size : Nat} {groups : List (List Char)}
    (hseparator : isSeparator separator = true)
    (hgroups : ∀ group ∈ groups, group.length = size ∧ ∀ c ∈ group, isHexDigit c = true) :
    IsGroups optional size (groups.map (some separator, ·)) ∧
      writtenPairs (groups.map (some separator, ·)) = separated separator groups := by
  constructor
  · intro pair hpair
    obtain ⟨group, hgroup, rfl⟩ := List.mem_map.mp hpair
    refine ⟨by simp, fun c hc => ?_, hgroups group hgroup⟩
    cases hc
    exact hseparator
  · rw [writtenPairs, separated, List.flatMap_map]
    rfl

theorem matchesGroups_of_groups {pcre optional : Bool} {separator : Char} {size : Nat}
    {userName : String} {group : List Char} {groups : List (List Char)}
    (hseparator : isSeparator separator = true)
    (hgroups : ∀ g ∈ group :: groups, g.length = size + 1 ∧ ∀ c ∈ g, isHexDigit c = true)
    (htext : userName.toList = [separator].intercalate (group :: groups)) :
    matchesGroups pcre optional (size + 1) groups.length userName = true := by
  obtain ⟨hgroup, hrest⟩ := List.forall_mem_cons.mp hgroups
  obtain ⟨hall, hwritten⟩ := @isGroups_separated optional separator (size + 1) groups hseparator hrest
  refine matchesGroups_iff.mpr ⟨group, groups.map (some separator, ·), [], ?_, hgroup,
    List.length_map _, hall, rfl⟩
  rw [htext, intercalate_cons_groups, hwritten, List.append_nil]

/-- Whatever writes an address is matched. -/
theorem isMacName_of_writesMac {pcre : Bool} {userName : String} {digits : List Char}
    (h : WritesMac userName.toList digits) : isMacName pcre userName = true := by
  obtain ⟨hlength, hhex, htext | ⟨separator, hseparator, size, hsize, groups, rfl, hsizes, htext⟩⟩ := h
  · have hfirst : matchesGroups pcre true 2 5 userName = true := by
      refine matchesGroups_iff.mpr ⟨digits.take 2, pairsOf none (digits.drop 2), [], ?_, ⟨?_, ?_⟩, ?_, ?_,
        rfl⟩
      all_goals
        have hspec := @pairsOf_spec none 4 (digits.drop 2) (by simp) (by rw [List.length_drop, hlength])
          fun c hc => hhex c (List.mem_of_mem_drop hc)
      · rw [htext, hspec.1, List.append_nil, Option.toList_none, List.nil_append, List.take_append_drop]
      · rw [List.length_take, hlength]
        rfl
      · exact fun c hc => hhex c (List.mem_of_mem_take hc)
      · exact hspec.2.1
      · exact hspec.2.2
    rw [isMacName, hfirst, Bool.true_or, Bool.true_or]
  · rw [length_flatten_of_forall hsizes] at hlength
    have hall : ∀ group ∈ groups, group.length = size ∧ ∀ c ∈ group, isHexDigit c = true :=
      fun group hgroup => ⟨hsizes group hgroup, fun c hc => hhex c (List.mem_flatten_of_mem hgroup hc)⟩
    simp only [List.mem_cons, List.not_mem_nil, or_false] at hsize
    cases groups with
    | nil => simp at hlength
    | cons group groups =>
        rw [List.length_cons] at hlength
        rw [isMacName]
        rcases hsize with rfl | rfl | rfl
        · have hcount : groups.length = 5 := by omega
          have h := @matchesGroups_of_groups pcre true separator 1 userName group groups
            (isSeparator_iff.mpr hseparator) hall htext
          rw [hcount] at h
          rw [h, Bool.true_or, Bool.true_or]
        · have hcount : groups.length = 2 := by omega
          have h := @matchesGroups_of_groups pcre false separator 3 userName group groups
            (isSeparator_iff.mpr hseparator) hall htext
          rw [hcount] at h
          rw [h, Bool.or_true, Bool.true_or]
        · have hcount : groups.length = 1 := by omega
          have h := @matchesGroups_of_groups pcre false separator 5 userName group groups
            (isSeparator_iff.mpr hseparator) hall htext
          rw [hcount] at h
          rw [h, Bool.or_true]

/-- Pairs with one separator throughout, or with none, write an address. -/
theorem writesMac_of_writesPairs {cs first : List Char} {rest : List (Option Char × List Char)}
    (h : WritesPairs cs first rest) (hmix : ¬MixesSeparators rest) (hsome : ¬SeparatesSome rest) :
    ∃ digits, WritesMac cs digits := by
  have hpairs : ∀ pair ∈ first :: rest.map Prod.snd, IsPair pair := by
    refine List.forall_mem_cons.mpr ⟨h.isPair.1, fun pair hpair => ?_⟩
    obtain ⟨gapped, hgapped, rfl⟩ := List.mem_map.mp hpair
    exact h.isPair.2 gapped hgapped
  have hlength : (first :: rest.map Prod.snd).flatten.length = 12 := by
    rw [length_flatten_of_forall fun pair hpair => (hpairs pair hpair).1, List.length_cons,
      List.length_map, h.five]
  have hhex : ∀ c ∈ (first :: rest.map Prod.snd).flatten, isHexDigit c = true := by
    intro c hc
    obtain ⟨pair, hpair, hmem⟩ := List.mem_flatten.mp hc
    exact (hpairs pair hpair).2 c hmem
  refine ⟨_, hlength, hhex, ?_⟩
  by_cases hnone : ∃ pair ∈ rest, pair.1 = none
  · left
    have hall : ∀ pair ∈ rest, pair.1 = none := by
      intro pair hpair
      by_contra hgap
      exact hsome ⟨hnone, pair, hpair, hgap⟩
    rw [h.text, List.flatten_cons, writtenPairs, List.flatMap_def]
    refine congrArg (first ++ ·) (congrArg List.flatten (List.map_congr_left fun pair hpair => ?_))
    rw [hall pair hpair]
    rfl
  · right
    cases rest with
    | nil => exact absurd h.five (by decide)
    | cons next rest =>
        cases hgap : next.1 with
        | none => exact absurd ⟨next, List.mem_cons_self, hgap⟩ hnone
        | some separator =>
            have hall : ∀ pair ∈ next :: rest, pair.1 = some separator := by
              intro pair hpair
              cases hother : pair.1 with
              | none => exact absurd ⟨pair, hpair, hother⟩ hnone
              | some other =>
                  by_contra hne
                  exact hmix ⟨pair, hpair, next, List.mem_cons_self, other, hother, separator, hgap,
                    fun heq => hne (congrArg some heq)⟩
            refine ⟨separator, isSeparator_iff.mp (h.separator next List.mem_cons_self separator hgap), 2,
              by simp, _, rfl, fun pair hpair => (hpairs pair hpair).1, ?_⟩
            rw [h.text, intercalate_cons_groups, separated, List.flatMap_map, writtenPairs,
              List.flatMap_def, List.flatMap_def]
            refine congrArg (first ++ ·) (congrArg List.flatten (List.map_congr_left fun pair hpair => ?_))
            rw [hall pair hpair]
            rfl

theorem isSpace_of_isHexDigit {c : Char} (h : isHexDigit c = true) : isSpace c = false := by
  have hall : ∀ n < 103, isHexDigit (Char.ofNat n) = true → isSpace (Char.ofNat n) = false := by
    decide +kernel
  have hc := hall c.toNat (toNat_lt_of_isHexDigit h)
  rw [Char.ofNat_toNat] at hc
  exact hc h

theorem stripChars_append_space {cs : List Char} {c : Char} (h : stripChars cs = cs) (hne : cs ≠ [])
    (hc : isSpace c = true) : stripChars (cs ++ [c]) = cs := by
  obtain ⟨hhead, hlast⟩ := stripChars_eq_self_iff.mp h
  rw [List.getLast?_eq_head?_reverse] at hlast
  have hdrop : (cs ++ [c]).dropWhile isSpace = cs ++ [c] := by
    rw [dropWhile_eq_self_iff_head?, List.head?_append_of_ne_nil _ hne]
    exact hhead
  rw [stripChars, hdrop, List.reverse_append, List.reverse_singleton, List.singleton_append,
    List.dropWhile_cons_of_pos hc, dropWhile_eq_self_iff_head?.mpr hlast, List.reverse_reverse]

/-- No blank stands before the first pair or after the last one. -/
theorem WritesPairs.stripChars_eq {cs first : List Char} {rest : List (Option Char × List Char)}
    (h : WritesPairs cs first rest) : stripChars cs = cs ∧ cs ≠ [] := by
  have hend {pair : List Char} (hpair : IsPair pair) :
      pair ≠ [] ∧ (∀ c ∈ pair.head?, isSpace c = false) ∧ ∀ c ∈ pair.getLast?, isSpace c = false :=
    ⟨List.ne_nil_of_length_pos (by rw [hpair.1]; decide),
      fun c hc => isSpace_of_isHexDigit (hpair.2 c (List.mem_of_head? hc)),
      fun c hc => isSpace_of_isHexDigit (hpair.2 c (List.mem_of_getLast? hc))⟩
  obtain ⟨hne, hhead, -⟩ := hend h.isPair.1
  obtain rfl | ⟨init, last, rfl⟩ := rest.eq_nil_or_concat
  · exact absurd h.five (by decide)
  · obtain ⟨hneLast, -, hlast⟩ := hend (h.isPair.2 last (by simp))
    have htext : cs = first ++ (writtenPairs init ++ (last.1.toList ++ last.2)) := by
      rw [h.text]
      simp [writtenPairs]
    refine ⟨stripChars_eq_self_iff.mpr ⟨?_, ?_⟩, ?_⟩
    · rw [htext, List.head?_append_of_ne_nil _ hne]
      exact hhead
    · rw [htext, ← List.append_assoc, ← List.append_assoc, List.getLast?_append_of_ne_nil _ hneLast]
      exact hlast
    · rw [htext]
      simp [hne]

/-- The end of the text that `$` allows is blank. -/
theorem strip_of_writesPairs {pcre : Bool} {userName : String} {cs tail first : List Char}
    {rest : List (Option Char × List Char)} (h : WritesPairs cs first rest)
    (htext : userName.toList = cs ++ tail) (htail : atEnd pcre tail = true) :
    (strip userName).toList = cs := by
  obtain ⟨hstrip, hne⟩ := h.stripChars_eq
  rw [strip, String.toList_ofList, htext]
  rw [atEnd, Bool.or_eq_true, decide_eq_true_eq, Bool.and_eq_true, decide_eq_true_eq] at htail
  obtain rfl | ⟨-, rfl⟩ := htail
  · rw [List.append_nil]
    exact hstrip
  · exact stripChars_append_space hstrip hne (by decide)

theorem filter_of_writesPairs {cs first : List Char} {rest : List (Option Char × List Char)}
    (h : WritesPairs cs first rest) : (cs.filter isHexDigit).length = 12 := by
  have hpair {pair : List Char} (hpair : IsPair pair) : (pair.filter isHexDigit).length = 2 := by
    rw [List.filter_eq_self.mpr hpair.2, hpair.1]
  have hrest : ∀ rest : List (Option Char × List Char), (∀ pair ∈ rest, IsPair pair.2) →
      (∀ pair ∈ rest, ∀ c ∈ pair.1, isSeparator c = true) →
      ((writtenPairs rest).filter isHexDigit).length = 2 * rest.length := by
    intro rest hpairs hgaps
    induction rest with
    | nil => rfl
    | cons next rest ih =>
        obtain ⟨hnext, hpairs⟩ := List.forall_mem_cons.mp hpairs
        obtain ⟨hgap, hgaps⟩ := List.forall_mem_cons.mp hgaps
        have hnone : next.1.toList.filter isHexDigit = [] := by
          refine List.filter_eq_nil_iff.mpr fun c hc => ?_
          rw [not_hex_of_isSeparator (hgap c (Option.mem_toList.mp hc))]
          exact Bool.false_ne_true
        have ih := ih hpairs hgaps
        rw [writtenPairs] at ih ⊢
        rw [List.flatMap_cons, List.filter_append, List.filter_append, hnone, List.nil_append,
          List.length_append, hpair hnext, ih, List.length_cons]
        omega
  rw [h.text, List.filter_append, List.length_append, hpair h.isPair.1,
    hrest rest h.isPair.2 h.separator, h.five]

/-- The site takes every User-Name that NACo accepts for MAC authentication, and what it takes for an
address has twelve hex digits, which NACo accepts too unless the separators are mixed or incomplete. -/
theorem mac_names_agree (pcre : Bool) (tolower : String → String) (userName : String) :
    (strip userName = userName → (∃ mac, normalizeMac (some userName) = some mac) →
        isMacName pcre userName = true ∧
          ∀ request : Request, request.userName = some userName →
            (request.userPassword = none ∨ request.userPassword = some "" ∨
              request.userPassword = some userName) →
            (request.hasEapMessage = false → authorize pcre tolower request = .mab) ∧
              authorize pcre tolower request ≠ .pap) ∧
      (isMacName pcre userName = true →
        (userName.toList.filter isHexDigit).length = 12 ∧
          (∃ first rest, WritesPairs (strip userName).toList first rest) ∧
          ∀ first rest, WritesPairs (strip userName).toList first rest → ¬MixesSeparators rest →
            ¬SeparatesSome rest → ∃ mac, normalizeMac (some userName) = some mac) := by
  constructor
  · intro hstrip haccepts
    obtain ⟨digits, hwrites⟩ := normalizeMac_eq_some_iff.mp haccepts
    rw [hstrip] at hwrites
    have hname := @isMacName_of_writesMac pcre userName digits hwrites
    refine ⟨hname, fun request hrequest hpassword => ?_⟩
    have hsecret : isNoSecret tolower userName request.userPassword = true := by
      rcases hpassword with h | h | h <;> simp [h, isNoSecret]
    have hmab : request.hasEapMessage = false → authorize pcre tolower request = .mab := by
      intro heap
      by_cases hcall : request.serviceType = some "Call-Check"
      · simp [authorize, heap, hcall]
      · simp [authorize, heap, hcall, hrequest, hname, hsecret]
    refine ⟨hmab, ?_⟩
    cases heap : request.hasEapMessage with
    | false =>
        rw [hmab heap]
        simp
    | true => simp [authorize, heap]
  · intro hname
    obtain ⟨cs, first, rest, tail, htext, htail, hpairs⟩ := writesPairs_of_isMacName hname
    have hstrip := strip_of_writesPairs hpairs htext htail
    have hnewline : tail.filter isHexDigit = [] := by
      rw [atEnd, Bool.or_eq_true, decide_eq_true_eq, Bool.and_eq_true, decide_eq_true_eq] at htail
      obtain rfl | ⟨-, rfl⟩ := htail <;> decide
    refine ⟨?_, ⟨first, rest, hstrip ▸ hpairs⟩, fun first' rest' h hmix hsome => ?_⟩
    · rw [htext, List.filter_append, hnewline, List.append_nil]
      exact filter_of_writesPairs hpairs
    · exact normalizeMac_eq_some_iff.mpr (writesMac_of_writesPairs h hmix hsome)

end Naco.Site
