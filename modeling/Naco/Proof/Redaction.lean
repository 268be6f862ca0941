import Naco.Logging

/-!
# What the redaction of a JSON secret shows

No expression but the last reads a quote, so the first two work on each side of one by itself. The last
takes the value of a key up to the next quote, which may be an escaped one: what follows it stays.
-/

namespace Naco.Logging

open Py

/-- The keys whose values are hidden. -/
def redactedKeys : List String :=
  ["password", "passwd", "pwd", "secret", "token", "api_key", "key", "authorization", "totp_code"]

/-- The text of a value from its first quote on, as far as its end. -/
def encodedRest (rest : String) : String :=
  String.ofList (rest.toList.flatMap dumpChar ++ ['"', '\x7d'])

/-! ### Substitutions -/

/-- The expression reads no quote. -/
structure Quoteless (matcher : Matcher) : Prop where
  nil : ∀ previous, matcher previous [] = none
  append : ∀ previous cs rest, matcher previous (cs ++ '"' :: rest) = matcher previous cs
  length_le : ∀ {previous cs written length}, matcher previous cs = some (written, length) →
    length ≤ cs.length
  written : ∀ {previous cs written length}, matcher previous cs = some (written, length) →
    '"' ∉ cs → '"' ∉ written

variable {matcher : Matcher}

theorem sub_append (h : Quoteless matcher) {skip : Nat} {cs : List Char} (hskip : skip ≤ cs.length)
    (previous : Option Char) (rest : List Char) :
    sub matcher previous skip (cs ++ '"' :: rest) =
      sub matcher previous skip cs ++ '"' :: sub matcher (some '"') 0 rest := by
  induction cs generalizing previous skip with
  | nil =>
      obtain rfl := Nat.le_zero.mp hskip
      have hnone : matcher previous ('"' :: rest) = none := (h.append previous [] rest).trans (h.nil previous)
      rw [List.nil_append, sub.eq_3, hnone]
      rfl
  | cons c cs ih =>
      rw [List.cons_append]
      cases skip with
      | succ skip =>
          rw [sub, sub, ih (by simpa using hskip)]
      | zero =>
          rw [sub, sub, ← List.cons_append, h.append]
          cases hmatch : matcher previous (c :: cs) with
          | none =>
              dsimp only
              rw [ih (Nat.zero_le _), List.cons_append]
          | some found =>
              obtain ⟨written, length⟩ := found
              have hle := h.length_le hmatch
              rw [List.length_cons] at hle
              dsimp only
              rw [ih (by omega), List.append_assoc]

theorem not_mem_sub (h : Quoteless matcher) {cs : List Char} (hcs : '"' ∉ cs) (previous : Option Char)
    (skip : Nat) : '"' ∉ sub matcher previous skip cs := by
  induction cs generalizing previous skip with
  | nil => exact List.not_mem_nil
  | cons c cs ih =>
      rw [List.mem_cons, not_or] at hcs
      cases skip with
      | succ skip => exact ih hcs.2 _ _
      | zero =>
          rw [sub]
          cases hmatch : matcher previous (c :: cs) with
          | none => exact List.not_mem_cons_of_ne_of_not_mem hcs.1 (ih hcs.2 _ _)
          | some found =>
              obtain ⟨written, length⟩ := found
              have hwritten := h.written hmatch (List.not_mem_cons_of_ne_of_not_mem hcs.1 hcs.2)
              exact fun hmem => (List.mem_append.mp hmem).elim hwritten (ih hcs.2 _ _)

theorem sub_skip (previous : Option Char) (skipped rest : List Char) (last : Char) :
    sub matcher previous (skipped.length + 1) (skipped ++ last :: rest) = sub matcher (some last) 0 rest := by
  induction skipped generalizing previous with
  | nil => rfl
  | cons c skipped ih =>
      rw [List.length_cons, List.cons_append, sub]
      exact ih (some c)

/-- A substitution that writes a star changes a text to one with a star, if at all. -/
theorem sub_eq_or_mem (h : ∀ {previous cs written length}, matcher previous cs = some (written, length) →
    '*' ∈ written) (previous : Option Char) (cs : List Char) :
    sub matcher previous 0 cs = cs ∨ '*' ∈ sub matcher previous 0 cs := by
  induction cs generalizing previous with
  | nil => exact .inl rfl
  | cons c cs ih =>
      rw [sub]
      cases hmatch : matcher previous (c :: cs) with
      | none => exact (ih (some c)).imp (congrArg (c :: ·)) (List.mem_cons_of_mem c)
      | some found => exact .inr (List.mem_append_left _ (h hmatch))

/-! ### The first two expressions -/

theorem takeWhile_append_stop {p : Char → Bool} (hp : p '"' = false) (cs rest : List Char) :
    (cs ++ '"' :: rest).takeWhile p = cs.takeWhile p ∧
      (cs ++ '"' :: rest).dropWhile p = cs.dropWhile p ++ '"' :: rest := by
  induction cs with
  | nil => simp [hp]
  | cons c cs ih =>
      cases hc : p c with
      | true => simp [hc, ih]
      | false => simp [hc]

/-- The piece can match the character. -/
def Piece.reads : Piece → Char → Bool
  | .letter c, d => isLetter c d
  | .hyphen, d => d = '_' || d = '-'

theorem dropKeyword_append {pieces : List Piece} (hpieces : ∀ piece ∈ pieces, piece.reads '"' = false)
    (cs rest : List Char) :
    dropKeyword pieces (cs ++ '"' :: rest) = (dropKeyword pieces cs).map (· ++ '"' :: rest) := by
  induction pieces generalizing cs with
  | nil => rfl
  | cons piece pieces ih =>
      obtain ⟨hpiece, hpieces⟩ := List.forall_mem_cons.mp hpieces
      have hrest := ih hpieces
      cases piece with
      | letter letter =>
          cases cs with
          | nil =>
              rw [Piece.reads] at hpiece
              simp [dropKeyword, hpiece]
          | cons c cs =>
              rw [List.cons_append, dropKeyword, dropKeyword]
              split
              · exact hrest cs
              · rfl
      | hyphen =>
          cases cs with
          | nil =>
              rw [List.nil_append, dropKeyword, dropKeyword, if_neg (by decide)]
              exact hrest []
          | cons c cs =>
              rw [List.cons_append, dropKeyword, dropKeyword]
              split
              · exact hrest cs
              · exact hrest (c :: cs)

theorem length_of_dropKeyword {word cs rest : List Char}
    (h : dropKeyword (word.map .letter) cs = some rest) : cs.length = word.length + rest.length := by
  induction word generalizing cs with
  | nil =>
      obtain rfl := Option.some.inj h
      simp
  | cons letter word ih =>
      cases cs with
      | nil => cases h
      | cons c cs =>
          rw [List.map_cons, dropKeyword] at h
          split at h
          · rw [List.length_cons, List.length_cons, ih h]
            omega
          · cases h

theorem head?_append_cons {cs : List Char} (hne : cs ≠ []) (rest : List Char) :
    (cs ++ '"' :: rest).head? = cs.head? :=
  List.head?_append_of_ne_nil _ hne

theorem bearer_eq_none {alnum : Char → Bool} {cs : List Char} (h : dropKeyword (lettersOf "bearer") cs = none)
    (previous : Option Char) : bearer alnum previous cs = none := by
  rw [bearer, h]
  exact ite_self none

theorem quoteless_bearer (alnum : Char → Bool) : Quoteless (bearer alnum) where
  nil := bearer_eq_none rfl
  append previous cs rest := by
    by_cases hne : cs = []
    · subst hne
      exact (bearer_eq_none rfl previous).trans (bearer_eq_none rfl previous).symm
    · rw [bearer, bearer, head?_append_cons hne]
      split
      · rw [dropKeyword_append (by decide)]
        cases hword : dropKeyword (lettersOf "bearer") cs with
        | none => rfl
        | some after =>
            have hlength : cs.length = 6 + after.length := length_of_dropKeyword hword
            have hspaces := @takeWhile_append_stop isSpace (by decide) after rest
            have htoken := @takeWhile_append_stop (isTokenChar ['.', '_', '~', '+', '/', '=', '-'])
              (by decide) (after.dropWhile isSpace) rest
            simp only [Option.map_some, hspaces.1, hspaces.2, htoken.1]
            rw [List.take_append_of_le_length (by omega)]
      · rfl
  length_le := by
    intro previous cs written length h
    rw [bearer] at h
    split at h
    · cases hword : dropKeyword (lettersOf "bearer") cs with
      | none =>
          rw [hword] at h
          cases h
      | some after =>
          have hlength : cs.length = 6 + after.length := length_of_dropKeyword hword
          rw [hword] at h
          dsimp only at h
          split at h
          · cases h
          · obtain ⟨-, rfl⟩ := Prod.mk.inj (Option.some.inj h)
            have hsplit := congrArg List.length (List.takeWhile_append_dropWhile (p := isSpace) (l := after))
            have htoken := (List.takeWhile_sublist (isTokenChar ['.', '_', '~', '+', '/', '=', '-'])
              (l := after.dropWhile isSpace)).length_le
            rw [List.length_append] at hsplit
            omega
    · cases h
  written := by
    intro previous cs written length h hcs
    rw [bearer] at h
    split at h
    · split at h
      · cases h
      · dsimp only at h
        split at h
        · cases h
        · obtain ⟨rfl, -⟩ := Prod.mk.inj (Option.some.inj h)
          intro hmem
          rcases List.mem_append.mp hmem with hmem | hmem
          · exact hcs (List.mem_of_mem_take hmem)
          · exact absurd hmem (by decide)
    · cases h

theorem quoteless_nacoToken (alnum : Char → Bool) : Quoteless (nacoToken alnum) where
  nil previous := by
    rw [nacoToken]
    refine if_neg ?_
    rw [Bool.and_eq_true, not_and]
    exact fun _ => by decide
  append previous cs rest := by
    have htoken := @takeWhile_append_stop (fun c => c.isAlphanum || c = '_' || c = '-') (by decide)
    by_cases hlong : 5 ≤ cs.length
    · have hne : cs ≠ [] := by
        rintro rfl
        exact absurd hlong (by decide)
      rw [nacoToken, nacoToken, head?_append_cons hne, List.take_append_of_le_length hlong,
        List.drop_append_of_le_length hlong]
      simp only [(htoken (cs.drop 5) rest).1]
    · -- the five characters would have a quote among them
      have hshort {cs : List Char} (hcs : cs.take 5 ≠ "naco_".toList) :
          nacoToken alnum previous cs = none := by
        rw [nacoToken, decide_eq_false hcs, Bool.and_false]
        exact if_neg Bool.false_ne_true
      rw [hshort, hshort]
      · intro htake
        have hlength := congrArg List.length htake
        rw [List.length_take] at hlength
        change min 5 cs.length = 5 at hlength
        omega
      · intro htake
        have hmem : '"' ∈ (cs ++ '"' :: rest).take 5 := by
          obtain ⟨count, hcount⟩ : ∃ count, 5 - cs.length = count + 1 := ⟨4 - cs.length, by omega⟩
          rw [List.take_append, hcount, List.take_succ_cons]
          exact List.mem_append_right _ List.mem_cons_self
        rw [htake] at hmem
        exact absurd hmem (by decide)
  length_le := by
    intro previous cs written length h
    rw [nacoToken] at h
    split at h
    · next hprefix =>
        dsimp only at h
        split at h
        · cases h
        · obtain ⟨-, rfl⟩ := Prod.mk.inj (Option.some.inj h)
          have htoken := (List.takeWhile_sublist (fun c => c.isAlphanum || c = '_' || c = '-')
            (l := cs.drop 5)).length_le
          rw [List.length_drop] at htoken
          have hlength : 5 ≤ cs.length := by
            rw [Bool.and_eq_true, decide_eq_true_eq] at hprefix
            have htake := congrArg List.length hprefix.2
            rw [List.length_take] at htake
            change min 5 cs.length = 5 at htake
            omega
          omega
    · cases h
  written := by
    intro previous cs written length h _
    rw [nacoToken] at h
    split at h
    · dsimp only at h
      split at h
      · cases h
      · obtain ⟨rfl, -⟩ := Prod.mk.inj (Option.some.inj h)
        decide
    · cases h

/-! ### The value of a key -/

theorem sub_match {previous : Option Char} {c last : Char} {skipped rest written : List Char}
    (h : matcher previous (c :: (skipped ++ last :: rest)) = some (written, skipped.length + 2)) :
    sub matcher previous 0 (c :: (skipped ++ last :: rest)) = written ++ sub matcher (some last) 0 rest := by
  rw [sub, h]
  exact congrArg (written ++ ·) (sub_skip (some c) skipped rest last)

theorem dropWhile_ne_quote {value : List Char} (h : '"' ∉ value) (rest : List Char) :
    (value ++ '"' :: rest).dropWhile (· ≠ '"') = '"' :: rest := by
  have hall : ∀ c ∈ value, decide (c ≠ '"') = true := by
    intro c hc
    rw [decide_eq_true_eq]
    rintro rfl
    exact h hc
  rw [List.dropWhile_append_of_pos hall]
  exact List.dropWhile_cons_of_neg (by decide)

theorem findSome?_keywords {key : String} (hkey : key ∈ redactedKeys) {α : Type}
    (found : List Char → Option α) (rest : List Char) :
    (keywords.findSome? fun keyword => (dropKeyword keyword (key.toList ++ '"' :: rest)).bind found) =
      found ('"' :: rest) := by
  -- one keyword reads the key, as far as its end
  have hone : ∀ key ∈ redactedKeys, keywords.filterMap (dropKeyword · key.toList) = [[]] := by decide
  have hquote : ∀ keyword ∈ keywords, ∀ piece ∈ keyword, piece.reads '"' = false := by decide
  have hfind : (keywords.filterMap fun keyword =>
      (dropKeyword keyword (key.toList ++ '"' :: rest)).bind found) = [[]].filterMap fun after =>
        found (after ++ '"' :: rest) := by
    rw [← hone key hkey, List.filterMap_filterMap]
    refine List.filterMap_congr fun keyword hkeyword => ?_
    rw [dropKeyword_append (hquote keyword hkeyword), Option.bind_map]
    rfl
  rw [← List.head?_filterMap, hfind, List.head?_filterMap]
  exact List.findSome?_singleton

theorem secret_key (alnum : Char → Bool) {key : String} (hkey : key ∈ redactedKeys) {value : List Char}
    (hvalue : '"' ∉ value) (rest : List Char) :
    secret alnum (some '"') (key.toList ++ '"' :: ':' :: ' ' :: '"' :: (value ++ '"' :: rest)) =
      some (key.toList ++ "\": ***".toList, key.toList.length + value.length + 5) := by
  have hboundary : atBoundary alnum (some '"')
      (key.toList ++ '"' :: ':' :: ' ' :: '"' :: (value ++ '"' :: rest)).head? = true := by
    simp only [redactedKeys, List.mem_cons, List.not_mem_nil, or_false] at hkey
    rcases hkey with rfl | rfl | rfl | rfl | rfl | rfl | rfl | rfl | rfl <;> rfl
  have hassignment : dropAssignment ('"' :: ':' :: ' ' :: '"' :: (value ++ '"' :: rest)) =
      some ('"' :: (value ++ '"' :: rest)) := rfl
  have hdrop : dropValue ('"' :: (value ++ '"' :: rest)) = some rest := by
    rw [dropValue, if_pos (.inl rfl), dropWhile_ne_quote hvalue]
  have htext : key.toList ++ '"' :: ':' :: ' ' :: '"' :: (value ++ '"' :: rest) =
      (key.toList ++ ['"', ':', ' ']) ++ '"' :: (value ++ '"' :: rest) := by simp
  have htake : (key.toList ++ '"' :: ':' :: ' ' :: '"' :: (value ++ '"' :: rest)).length -
      ('"' :: (value ++ '"' :: rest)).length = (key.toList ++ ['"', ':', ' ']).length := by
    rw [htext, List.length_append]
    omega
  have hlength : (key.toList ++ '"' :: ':' :: ' ' :: '"' :: (value ++ '"' :: rest)).length - rest.length =
      key.toList.length + value.length + 5 := by
    simp only [List.length_append, List.length_cons]
    omega
  rw [secret, if_pos hboundary, findSome?_keywords hkey, hassignment, Option.bind_some, hdrop, Option.map_some,
    htake, hlength, htext, List.take_left, List.append_assoc]
  rfl

/-! ### The pair -/

/-- What the three substitutions make of what follows a quote. -/
def clean (alnum : Char → Bool) (rest : List Char) : List Char :=
  sub (secret alnum) (some '"') 0 (sub (nacoToken alnum) (some '"') 0 (sub (bearer alnum) (some '"') 0 rest))

/-- The text of a pair from its value on replaced. -/
def shownPair (key : String) (rest : List Char) : List Char :=
  '\x7b' :: '"' :: (key.toList ++ ("\": ***".toList ++ rest))

theorem sub_pair (h : Quoteless matcher) {key : String}
    (hbrace : sub matcher none 0 ['\x7b'] = ['\x7b'])
    (hkey : sub matcher (some '"') 0 key.toList = key.toList)
    (hcolon : sub matcher (some '"') 0 [':', ' '] = [':', ' ']) (value rest : List Char) :
    sub matcher none 0 ('\x7b' :: '"' :: (key.toList ++ '"' :: ':' :: ' ' :: '"' :: (value ++ '"' :: rest))) =
      '\x7b' :: '"' :: (key.toList ++ '"' :: ':' :: ' ' :: '"' :: (sub matcher (some '"') 0 value ++
        '"' :: sub matcher (some '"') 0 rest)) := by
  have hsub (cs : List Char) (previous : Option Char) (rest : List Char) :=
    @sub_append matcher h 0 cs (Nat.zero_le _) previous rest
  have hfirst := hsub ['\x7b'] none (key.toList ++ '"' :: ':' :: ' ' :: '"' :: (value ++ '"' :: rest))
  have hthird := hsub [':', ' '] (some '"') (value ++ '"' :: rest)
  rw [List.singleton_append, hbrace, List.singleton_append, hsub key.toList, hkey] at hfirst
  rw [List.cons_append, List.singleton_append, hcolon, hsub value, List.cons_append,
    List.singleton_append] at hthird
  rw [hfirst, hthird]

theorem sub_secret_pair (alnum : Char → Bool) {key : String} (hkey : key ∈ redactedKeys) {value : List Char}
    (hvalue : '"' ∉ value) (rest : List Char) :
    sub (secret alnum) none 0
        ('\x7b' :: '"' :: (key.toList ++ '"' :: ':' :: ' ' :: '"' :: (value ++ '"' :: rest))) =
      shownPair key (sub (secret alnum) (some '"') 0 rest) := by
  have hbrace (rest : List Char) : secret alnum none ('\x7b' :: rest) = none := rfl
  have hquote (rest : List Char) : secret alnum (some '\x7b') ('"' :: rest) = none := rfl
  have hmatch := secret_key alnum hkey hvalue rest
  obtain ⟨c, cs, hchars⟩ : ∃ c cs, key.toList = c :: cs := by
    refine List.exists_cons_of_ne_nil ?_
    have hall : ∀ key ∈ redactedKeys, key.toList ≠ [] := by decide
    exact hall key hkey
  have hskipped : c :: cs ++ '"' :: ':' :: ' ' :: '"' :: (value ++ '"' :: rest) =
      c :: (cs ++ '"' :: ':' :: ' ' :: '"' :: value ++ '"' :: rest) := by simp
  have hlength : (c :: cs).length + value.length + 5 = (cs ++ '"' :: ':' :: ' ' :: '"' :: value).length + 2 := by
    simp only [List.length_append, List.length_cons]
    omega
  rw [hchars, hskipped, hlength] at hmatch
  rw [sub, hbrace]
  dsimp only
  rw [sub, hquote]
  dsimp only
  rw [hchars, hskipped, sub_match hmatch, shownPair, hchars, List.append_assoc]

/-- The redacted pair: nothing of the value up to its first quote, and all the rest cleaned by itself. -/
theorem redact_pair (alnum : Char → Bool) {key : String} (hkey : key ∈ redactedKeys) {value : List Char}
    (hvalue : '"' ∉ value) (rest : List Char) :
    sub (secret alnum) none 0 (sub (nacoToken alnum) none 0 (sub (bearer alnum) none 0
        ('\x7b' :: '"' :: (key.toList ++ '"' :: ':' :: ' ' :: '"' :: (value ++ '"' :: rest))))) =
      shownPair key (clean alnum rest) := by
  have hkeys : sub (bearer alnum) (some '"') 0 key.toList = key.toList ∧
      sub (nacoToken alnum) (some '"') 0 key.toList = key.toList := by
    simp only [redactedKeys, List.mem_cons, List.not_mem_nil, or_false] at hkey
    rcases hkey with rfl | rfl | rfl | rfl | rfl | rfl | rfl | rfl | rfl <;> exact ⟨rfl, rfl⟩
  rw [sub_pair (quoteless_bearer alnum) rfl hkeys.1 rfl, sub_pair (quoteless_nacoToken alnum) rfl hkeys.2 rfl,
    sub_secret_pair alnum hkey (not_mem_sub (quoteless_nacoToken alnum)
      (not_mem_sub (quoteless_bearer alnum) hvalue _ _) _ _)]
  rfl

/-! ### Encoded values -/

theorem quote_mem_dumpChar {c : Char} : '"' ∈ dumpChar c ↔ c = '"' := by
  have hhex : ∀ unit : Nat, '"' ∉ escapeUnit unit := by
    intro unit hmem
    have hdigit : ∀ digit < 16, "0123456789abcdef".toList.getD digit '0' ≠ '"' := by decide
    simp only [escapeUnit, hex4, List.mem_cons, List.mem_map] at hmem
    rcases hmem with heq | heq | ⟨digit, hmem, heq⟩
    · exact absurd heq (by decide)
    · exact absurd heq (by decide)
    · refine hdigit digit ?_ heq
      simp only [List.not_mem_nil, or_false] at hmem
      omega
  constructor
  · intro hmem
    by_contra hne
    unfold dumpChar at hmem
    split_ifs at hmem with h₁ h₂ h₃ h₄ h₅ h₆ h₇ h₈
    · simp [Ne.symm hne] at hmem
    · exact hne (List.mem_singleton.mp hmem).symm
    · exact absurd hmem (by decide)
    · exact absurd hmem (by decide)
    · exact absurd hmem (by decide)
    · exact absurd hmem (by decide)
    · exact absurd hmem (by decide)
    · exact hhex _ hmem
    · exact (List.mem_append.mp hmem).elim (hhex _) (hhex _)
  · rintro rfl
    decide

theorem quote_not_mem_encoded {value : List Char} (h : '"' ∉ value) : '"' ∉ value.flatMap dumpChar := by
  intro hmem
  obtain ⟨c, hc, hquote⟩ := List.mem_flatMap.mp hmem
  exact h (quote_mem_dumpChar.mp hquote ▸ hc)

theorem toList_dumpPair {key : String} (hkey : key ∈ redactedKeys) (value : String) :
    (dumpPair key value).toList = '\x7b' :: '"' :: (key.toList ++ '"' :: ':' :: ' ' :: '"' ::
      (value.toList.flatMap dumpChar ++ ['"', '\x7d'])) := by
  have hplain : ∀ key ∈ redactedKeys, key.toList.flatMap dumpChar = key.toList := by decide
  rw [dumpPair, dumpString, dumpString, hplain key hkey]
  simp [String.toList_append]

theorem sub_start (hquote : ∀ cs, matcher (some '"') cs = matcher none cs) (cs : List Char) :
    sub matcher (some '"') 0 cs = sub matcher none 0 cs := by
  cases cs with
  | nil => rfl
  | cons c cs => rw [sub, sub, hquote]

theorem clean_eq_redact (alnum : Char → Bool) (rest : List Char) :
    String.ofList (clean alnum rest) = redact alnum (String.ofList rest) := by
  rw [clean, sub_start fun _ => rfl, sub_start fun _ => rfl, sub_start fun _ => rfl, redact,
    String.toList_ofList]

theorem redact_of_quoteless (alnum : Char → Bool) {key : String} (hkey : key ∈ redactedKeys) {value : String}
    (hvalue : '"' ∉ value.toList) :
    redact alnum (dumpPair key value) = String.ofList (shownPair key ['\x7d']) := by
  rw [redact, toList_dumpPair hkey]
  exact congrArg String.ofList (redact_pair alnum hkey (quote_not_mem_encoded hvalue) ['\x7d'])

theorem redact_of_quote (alnum : Char → Bool) {key : String} (hkey : key ∈ redactedKeys) {before : List Char}
    (hbefore : '"' ∉ before) (rest : String) :
    redact alnum (dumpPair key (String.ofList (before ++ '"' :: rest.toList))) =
      String.ofList (shownPair key (redact alnum (encodedRest rest)).toList) := by
  have hescaped : '"' ∉ before.flatMap dumpChar ++ ['\\'] := by
    rw [List.mem_append, not_or]
    exact ⟨quote_not_mem_encoded hbefore, by decide⟩
  have htext : (String.ofList (before ++ '"' :: rest.toList)).toList.flatMap dumpChar ++ ['"', '\x7d'] =
      (before.flatMap dumpChar ++ ['\\']) ++ '"' :: (encodedRest rest).toList := by
    have hquote : dumpChar '"' = ['\\', '"'] := by decide
    simp [encodedRest, hquote]
  rw [redact, toList_dumpPair hkey, htext, redact_pair alnum hkey hescaped]
  have hclean := congrArg String.toList (clean_eq_redact alnum (encodedRest rest).toList)
  rw [String.toList_ofList, String.ofList_toList] at hclean
  rw [hclean]

theorem quote_mem_sub (h : Quoteless matcher) {cs : List Char} (hcs : '"' ∈ cs) (previous : Option Char) :
    '"' ∈ sub matcher previous 0 cs := by
  obtain ⟨before, rest, rfl⟩ := List.append_of_mem hcs
  rw [sub_append h (Nat.zero_le _)]
  exact List.mem_append_right _ List.mem_cons_self

theorem star_mem_of_secret {alnum : Char → Bool} {previous : Option Char} {cs written : List Char}
    {length : Nat} (h : secret alnum previous cs = some (written, length)) : '*' ∈ written := by
  rw [secret] at h
  split at h
  · obtain ⟨keyword, -, hfound⟩ := List.exists_of_findSome?_eq_some h
    obtain ⟨rest, -, hrest⟩ := Option.bind_eq_some_iff.mp hfound
    obtain ⟨value, -, hvalue⟩ := Option.bind_eq_some_iff.mp hrest
    obtain ⟨after, -, heq⟩ := Option.map_eq_some_iff.mp hvalue
    obtain ⟨rfl, -⟩ := Prod.mk.inj heq
    exact List.mem_append_right _ (by decide)
  · cases h

/-- What follows a quote keeps one or shows a star. -/
theorem redact_encodedRest_ne (alnum : Char → Bool) (rest : String) :
    (redact alnum (encodedRest rest)).toList ≠ ['\x7d'] := by
  have hencoded : '"' ∈ (encodedRest rest).toList := by simp [encodedRest]
  have hquote := quote_mem_sub (quoteless_nacoToken alnum)
    (quote_mem_sub (quoteless_bearer alnum) hencoded none) none
  rw [redact, String.toList_ofList]
  intro heq
  rcases sub_eq_or_mem (fun h => star_mem_of_secret h) none
    (sub (nacoToken alnum) none 0 (sub (bearer alnum) none 0 (encodedRest rest).toList)) with hsame | hstar
  · rw [← hsame, heq] at hquote
    exact absurd hquote (by decide)
  · rw [heq] at hstar
    exact absurd hstar (by decide)

theorem shownPair_inj {key : String} {rest rest' : List Char} :
    String.ofList (shownPair key rest) = String.ofList (shownPair key rest') ↔ rest = rest' := by
  rw [String.ofList_inj, shownPair, shownPair]
  simp

/-- A text has no quote, or a first one. -/
theorem exists_first_quote (value : String) :
    '"' ∉ value.toList ∨
      ∃ before rest : String, value = before ++ "\"" ++ rest ∧ '"' ∉ before.toList := by
  by_cases hmem : '"' ∈ value.toList
  · obtain ⟨before, rest, hvalue, hbefore⟩ := List.eq_append_cons_of_mem hmem
    refine .inr ⟨String.ofList before, String.ofList rest, ?_, by rwa [String.toList_ofList]⟩
    rw [← String.toList_inj, hvalue]
    simp [String.toList_append]
  · exact .inl hmem

theorem redact_of_first_quote (alnum : Char → Bool) {key : String} (hkey : key ∈ redactedKeys)
    {before : String} (hbefore : '"' ∉ before.toList) (rest : String) :
    redact alnum (dumpPair key (before ++ "\"" ++ rest)) =
      String.ofList (shownPair key (redact alnum (encodedRest rest)).toList) := by
  rw [← redact_of_quote alnum hkey hbefore rest]
  refine congrArg (fun value => redact alnum (dumpPair key value)) ?_
  rw [← String.toList_inj, String.toList_ofList]
  simp [String.toList_append]

/-- Two values are redacted alike exactly when neither has a quote, or both have one and what follows it is
redacted alike; so a value shows nothing exactly when it has no quote. -/
theorem redact_hides_iff (alnum : Char → Bool) (key : String) (hkey : key ∈ redactedKeys) :
    (∀ value, redact alnum (dumpPair key value) = redact alnum (dumpPair key "") ↔ '"' ∉ value.toList) ∧
      ∀ value other, redact alnum (dumpPair key value) = redact alnum (dumpPair key other) ↔
        ('"' ∉ value.toList ∧ '"' ∉ other.toList) ∨
          ∃ before rest before' rest', value = before ++ "\"" ++ rest ∧ other = before' ++ "\"" ++ rest' ∧
            '"' ∉ before.toList ∧ '"' ∉ before'.toList ∧
            redact alnum (encodedRest rest) = redact alnum (encodedRest rest') := by
  have hquote (before rest : String) : '"' ∈ (before ++ "\"" ++ rest).toList := by simp [String.toList_append]
  have hpair : ∀ value other, redact alnum (dumpPair key value) = redact alnum (dumpPair key other) ↔
      ('"' ∉ value.toList ∧ '"' ∉ other.toList) ∨
        ∃ before rest before' rest', value = before ++ "\"" ++ rest ∧ other = before' ++ "\"" ++ rest' ∧
          '"' ∉ before.toList ∧ '"' ∉ before'.toList ∧
          redact alnum (encodedRest rest) = redact alnum (encodedRest rest') := by
    intro value other
    constructor
    · intro heq
      rcases exists_first_quote value with hvalue | ⟨before, rest, rfl, hbefore⟩
      · rcases exists_first_quote other with hother | ⟨before', rest', rfl, hbefore'⟩
        · exact .inl ⟨hvalue, hother⟩
        · rw [redact_of_quoteless alnum hkey hvalue, redact_of_first_quote alnum hkey hbefore',
            shownPair_inj] at heq
          exact absurd heq.symm (redact_encodedRest_ne alnum rest')
      · rcases exists_first_quote other with hother | ⟨before', rest', rfl, hbefore'⟩
        · rw [redact_of_quoteless alnum hkey hother, redact_of_first_quote alnum hkey hbefore,
            shownPair_inj] at heq
          exact absurd heq (redact_encodedRest_ne alnum rest)
        · rw [redact_of_first_quote alnum hkey hbefore, redact_of_first_quote alnum hkey hbefore',
            shownPair_inj, String.toList_inj] at heq
          exact .inr ⟨before, rest, before', rest', rfl, rfl, hbefore, hbefore', heq⟩
    · rintro (⟨hvalue, hother⟩ | ⟨before, rest, before', rest', rfl, rfl, hbefore, hbefore', heq⟩)
      · rw [redact_of_quoteless alnum hkey hvalue, redact_of_quoteless alnum hkey hother]
      · rw [redact_of_first_quote alnum hkey hbefore, redact_of_first_quote alnum hkey hbefore', heq]
  refine ⟨fun value => (hpair value "").trans ⟨?_, fun hvalue => .inl ⟨hvalue, by decide⟩⟩, hpair⟩
  rintro (⟨hvalue, -⟩ | ⟨-, -, before', rest', -, hempty, -⟩)
  · exact hvalue
  · have hmem := hquote before' rest'
    rw [← hempty] at hmem
    exact absurd hmem (by decide)

/-- What follows an escaped quote is shown. -/
theorem redact_shows_rest :
    ¬ ∀ key ∈ redactedKeys, ∀ value other, redact Char.isAlphanum (dumpPair key value) =
      redact Char.isAlphanum (dumpPair key other) := by
  intro h
  exact absurd (h "password" (by decide) "a\"b" "a\"c") (by decide +kernel)

theorem redact_hides_iff_password :
    (∀ value, redact Char.isAlphanum (dumpPair "password" value) =
        redact Char.isAlphanum (dumpPair "password" "") ↔ '"' ∉ value.toList) ∧
      ∀ value other, redact Char.isAlphanum (dumpPair "password" value) =
          redact Char.isAlphanum (dumpPair "password" other) ↔
        ('"' ∉ value.toList ∧ '"' ∉ other.toList) ∨
          ∃ before rest before' rest', value = before ++ "\"" ++ rest ∧ other = before' ++ "\"" ++ rest' ∧
            '"' ∉ before.toList ∧ '"' ∉ before'.toList ∧
            redact Char.isAlphanum (encodedRest rest) = redact Char.isAlphanum (encodedRest rest') :=
  redact_hides_iff Char.isAlphanum "password" (by decide)

end Naco.Logging
