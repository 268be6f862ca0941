import Naco.Lib.UnicodeData
import Mathlib.Data.List.DropRight

/-!
# Python's `str` methods

A Python string is a sequence of code points, and so is a Lean `String`; the methods below work on
its list of characters. They cover the whole of Unicode through the tables of `UnicodeData`: a user
name or an attribute value reaches them straight from the network.
-/

namespace Py

def isSpace (c : Char) : Bool :=
  Unicode.spaces.mem c.toNat

def isDigit (c : Char) : Bool :=
  Unicode.digits.mem c.toNat

def isAscii (c : Char) : Bool :=
  c.toNat < 128

/-- `s.isascii()`. -/
def isAsciiText (s : String) : Bool :=
  s.toList.all isAscii

-- deciding the statement itself would go through every character there is
theorem forall_mem_of_all {α : Type} {p : α → Prop} [DecidablePred p] {l : List α}
    (h : (l.all fun a => decide (p a)) = true) : ∀ a ∈ l, p a :=
  fun a ha => of_decide_eq_true (List.all_eq_true.mp h a ha)

section Ends

variable {α : Type} (p : α → Bool)

/-- The list without what satisfies `p` at its ends. -/
def dropEnds (l : List α) : List α :=
  ((l.dropWhile p).reverse.dropWhile p).reverse

theorem dropWhile_dropEnds (l : List α) : (dropEnds p l).dropWhile p = dropEnds p l := by
  rw [List.dropWhile_eq_self_iff]
  intro hpos hdrop
  -- the first element kept is the one at which the first `dropWhile` stopped
  have hearlier : dropEnds p l <+: l.dropWhile p := by
    rw [← List.reverse_suffix, dropEnds, List.reverse_reverse]
    exact List.dropWhile_suffix _
  have hne : l.dropWhile p ≠ [] := by
    intro h
    rw [h] at hearlier
    simp [List.prefix_nil.mp hearlier] at hpos
  have hhead := List.head_dropWhile_not p hne
  have hget : (l.dropWhile p).head hne = (dropEnds p l)[0] := by
    rw [List.head_eq_getElem]
    exact (hearlier.getElem hpos).symm
  rw [hget, hdrop] at hhead
  exact Bool.noConfusion hhead

theorem dropEnds_dropEnds (l : List α) : dropEnds p (dropEnds p l) = dropEnds p l := by
  calc
    dropEnds p (dropEnds p l) = ((dropEnds p l).reverse.dropWhile p).reverse := by
      rw [dropEnds, dropWhile_dropEnds]
    _ = dropEnds p l := by
      rw [dropEnds, List.reverse_reverse, List.dropWhile_idempotent]

theorem dropEnds_cons_of_pos {a : α} (h : p a = true) (l : List α) :
    dropEnds p (a :: l) = dropEnds p l := by
  rw [dropEnds, List.dropWhile_cons_of_pos h, dropEnds]

variable {p}

theorem head?_dropEnds_cons {a : α} (h : p a = false) (l : List α) :
    (dropEnds p (a :: l)).head? = some a := by
  have hkept : (a :: l).dropWhile p = a :: l := List.dropWhile_cons_of_neg (by simp [h])
  have hprefix : dropEnds p (a :: l) <+: a :: l := by
    rw [← List.reverse_suffix, dropEnds, hkept, List.reverse_reverse]
    exact List.dropWhile_suffix _
  have hne : dropEnds p (a :: l) ≠ [] := by
    rw [dropEnds, hkept, ne_eq, List.reverse_eq_nil_iff, List.dropWhile_eq_nil_iff]
    intro hall
    exact absurd (hall a (by simp)) (by simp [h])
  obtain ⟨rest, hrest⟩ := hprefix
  obtain ⟨b, kept, hcons⟩ := List.exists_cons_of_ne_nil hne
  rw [hcons, List.cons_append, List.cons.injEq] at hrest
  rw [hcons, List.head?_cons, hrest.1]

theorem dropWhile_eq_self_iff_head? {l : List α} :
    l.dropWhile p = l ↔ ∀ a ∈ l.head?, p a = false := by
  cases l with
  | nil => simp
  | cons a l =>
      rw [List.dropWhile_cons]
      by_cases ha : p a = true
      · have hne : l.dropWhile p ≠ a :: l := by
          intro h
          have hlength := (List.dropWhile_sublist p (l := l)).length_le
          rw [h, List.length_cons] at hlength
          omega
        simp [ha, hne]
      · simp [ha]

theorem dropEnds_eq_self_iff {l : List α} :
    dropEnds p l = l ↔ (∀ a ∈ l.head?, p a = false) ∧ ∀ a ∈ l.getLast?, p a = false := by
  rw [List.getLast?_eq_head?_reverse, ← dropWhile_eq_self_iff_head?, ← dropWhile_eq_self_iff_head?]
  constructor
  · intro h
    have hhead := dropWhile_dropEnds p l
    rw [h] at hhead
    refine ⟨hhead, ?_⟩
    rw [dropEnds, hhead, List.reverse_eq_iff] at h
    exact h
  · rintro ⟨hhead, hlast⟩
    rw [dropEnds, hhead, hlast, List.reverse_reverse]

end Ends

def stripChars (cs : List Char) : List Char :=
  ((cs.dropWhile isSpace).reverse.dropWhile isSpace).reverse

/-- `s.strip()`. -/
def strip (s : String) : String :=
  String.ofList (stripChars s.toList)

theorem stripChars_stripChars (cs : List Char) : stripChars (stripChars cs) = stripChars cs :=
  dropEnds_dropEnds isSpace cs

theorem strip_strip (s : String) : strip (strip s) = strip s := by
  simp only [strip, String.toList_ofList, stripChars_stripChars]

theorem stripChars_eq_self_iff {cs : List Char} :
    stripChars cs = cs ↔
      (∀ c ∈ cs.head?, isSpace c = false) ∧ ∀ c ∈ cs.getLast?, isSpace c = false :=
  dropEnds_eq_self_iff

theorem strip_of_forall {s : String} (h : ∀ c ∈ s.toList, isSpace c = false) : strip s = s := by
  rw [strip, ← String.toList_inj, String.toList_ofList, stripChars_eq_self_iff]
  exact ⟨fun c hc => h c (List.mem_of_head? hc), fun c hc => h c (List.mem_of_getLast? hc)⟩

/-- `s[:n]`. -/
def truncate (n : Nat) (s : String) : String :=
  String.ofList (s.toList.take n)

/-- `a or b` for strings. -/
def orElse (a b : String) : String :=
  if a = "" then b else a

/-- `s or None`. -/
def orNone (s : String) : Option String :=
  if s = "" then none else some s

def lowerChar (c : Char) : List Char :=
  if isAscii c then [c.toLower]
  else if c.toNat = 0x130 then ['i', '\u0307']
  else match Unicode.lowerRuns.image c.toNat with
    | some code => [Char.ofNat code]
    | none => [c]

/-- The first character that is not case ignorable is a cased one. -/
def startsCased (cs : List Char) : Bool :=
  match cs.dropWhile fun c => Unicode.caseIgnorable.mem c.toNat with
  | [] => false
  | c :: _ => Unicode.casedLetters.mem c.toNat

/-- Lower-cases `cs`, which follows the reversed prefix `before`. A capital sigma is written as a
final one when it ends a word: something cased before it, nothing cased after it. -/
def lowerAfter : List Char → List Char → List Char
  | _, [] => []
  | before, c :: cs =>
      (if c = 'Σ' then
        [if startsCased before && !startsCased cs then 'ς' else 'σ']
      else
        lowerChar c) ++ lowerAfter (c :: before) cs

/-- `s.lower()`. -/
def lower (s : String) : String :=
  String.ofList (lowerAfter [] s.toList)

theorem lowerAfter_of_isAscii {cs : List Char} (h : ∀ c ∈ cs, isAscii c = true) (before : List Char) :
    lowerAfter before cs = cs.map Char.toLower := by
  induction cs generalizing before with
  | nil => rfl
  | cons c cs ih =>
      obtain ⟨hc, hcs⟩ := List.forall_mem_cons.mp h
      have hsigma : c ≠ 'Σ' := by
        rintro rfl
        exact absurd hc (by decide)
      rw [lowerAfter, if_neg hsigma, lowerChar, if_pos hc, ih hcs]
      rfl

theorem toList_lower_of_isAscii {s : String} (h : isAsciiText s = true) :
    (lower s).toList = s.toList.map Char.toLower := by
  rw [lower, String.toList_ofList, lowerAfter_of_isAscii (List.all_eq_true.mp h)]

def upperChar (c : Char) : List Char :=
  if isAscii c then [c.toUpper]
  else match Unicode.upperExpansions.lookup c.toNat with
    | some codes => codes.map Char.ofNat
    | none => match Unicode.upperRuns.image c.toNat with
      | some code => [Char.ofNat code]
      | none => [c]

/-- `s.upper()`. -/
def upper (s : String) : String :=
  String.ofList (s.toList.flatMap upperChar)

def foldChar (c : Char) : List Char :=
  if isAscii c then [c.toLower]
  else match Unicode.foldExpansions.lookup c.toNat with
    | some codes => codes.map Char.ofNat
    | none => match Unicode.foldRuns.image c.toNat with
      | some code => [Char.ofNat code]
      | none => [c]

/-- `s.casefold()`. -/
def casefold (s : String) : String :=
  String.ofList (s.toList.flatMap foldChar)

/-- `s.replace(c, "")`. -/
def removeChar (c : Char) (s : String) : String :=
  String.ofList (s.toList.filter (· ≠ c))

/-- `s.partition(sep)` for a one-character separator, as the head and the tail after it. -/
def partition (sep : Char) (s : String) : String × Option String :=
  match s.toList.span (· ≠ sep) with
  | (head, []) => (String.ofList head, none)
  | (head, _ :: tail) => (String.ofList head, some (String.ofList tail))

/-- `s.rsplit(sep, 1)[-1]`: what follows the last separator. -/
def afterLast (sep : Char) (s : String) : String :=
  String.ofList (s.toList.reverse.takeWhile (· ≠ sep)).reverse

/-- The pieces of `cs` between separators, `word` being the piece under way. -/
def splitAux (sep : Char) : List Char → List Char → List (List Char)
  | word, [] => [word.reverse]
  | word, c :: cs =>
      if c = sep then word.reverse :: splitAux sep [] cs else splitAux sep (c :: word) cs

/-- `s.split(sep)`. -/
def splitOn (sep : Char) (s : String) : List String :=
  (splitAux sep [] s.toList).map String.ofList

def wordsAux : List Char → List Char → List (List Char)
  | word, [] => if word = [] then [] else [word.reverse]
  | word, c :: cs =>
      if isSpace c then
        if word = [] then wordsAux [] cs else word.reverse :: wordsAux [] cs
      else
        wordsAux (c :: word) cs

/-- `s.split()`: the words between runs of white space. -/
def words (s : String) : List String :=
  (wordsAux [] s.toList).map String.ofList

/-- `sep.join(parts)`. -/
def join (sep : String) (parts : List String) : String :=
  String.ofList (sep.toList.intercalate (parts.map String.toList))

theorem join_ne_empty {sep : String} (hsep : sep ≠ "") {parts : List String} (h : 1 < parts.length) :
    join sep parts ≠ "" := by
  match parts, h with
  | first :: second :: rest, _ =>
      intro hempty
      have hnil := String.toList_eq_nil_iff.mpr hempty
      rw [join, String.toList_ofList, List.map_cons, List.map_cons, List.intercalate_cons_cons] at hnil
      have hsep' : sep.toList = [] := by
        simp only [List.append_eq_nil_iff] at hnil
        tauto
      exact hsep (String.toList_eq_nil_iff.mp hsep')

/-- The length of `s.encode()`. -/
def encodedLength (s : String) : Nat :=
  s.utf8ByteSize

/-- `s.encode()`. -/
def encode (s : String) : List UInt8 :=
  s.toList.flatMap String.utf8EncodeChar

/-- `f"{n:0{width}x}"`. -/
def hexDigits (width n : Nat) : List Char :=
  let digits := Nat.toDigits 16 n
  List.replicate (width - digits.length) '0' ++ digits

/-- How `repr` writes a character of a text in these quotes. -/
def reprChar (quote c : Char) : List Char :=
  if c = quote ∨ c = '\\' then ['\\', c]
  else if c = '\t' then ['\\', 't']
  else if c = '\n' then ['\\', 'n']
  else if c = '\r' then ['\\', 'r']
  else if (' ' ≤ c ∧ c ≤ '~') ∨ (¬ isAscii c ∧ ¬ Unicode.unprintable.mem c.toNat) then [c]
  else if c.toNat ≤ 0xFF then '\\' :: 'x' :: hexDigits 2 c.toNat
  else if c.toNat ≤ 0xFFFF then '\\' :: 'u' :: hexDigits 4 c.toNat
  else '\\' :: 'U' :: hexDigits 8 c.toNat

/-- `repr(s)`. -/
def reprText (s : String) : String :=
  let quote := if s.toList.contains '\'' && !s.toList.contains '"' then '"' else '\''
  String.ofList (quote :: (s.toList.flatMap (reprChar quote) ++ [quote]))

end Py
