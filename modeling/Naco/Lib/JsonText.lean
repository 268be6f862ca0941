import Naco.Lib.IpText

/-!
# Canonical JSON is read in one way

A string that `json.dumps` writes ends at its closing quote, a number where its digits end, an array or
an object at its bracket. Two texts that begin with written values and go on alike begin with one
value, so what is written determines what was written.
-/

namespace Py

/-! ### Characters of a string -/

/-- The value of a lower-case hex digit. -/
def lowerHexValue (c : Char) : Nat :=
  "0123456789abcdef".toList.idxOf c

/-- Four hex digits and what follows them. -/
def readHex4 : List Char → Option (Nat × List Char)
  | a :: b :: c :: d :: rest =>
      some (((lowerHexValue a * 16 + lowerHexValue b) * 16 + lowerHexValue c) * 16 + lowerHexValue d, rest)
  | _ => none

/-- The character of an escaped unit, or of it and the low surrogate that follows. -/
def readUnits (unit : Nat) (rest : List Char) : Option (Char × List Char) :=
  if 0xd800 ≤ unit ∧ unit < 0xdc00 then
    (readHex4 (rest.drop 2)).map fun low =>
      (Char.ofNat (0x10000 + (unit - 0xd800) * 1024 + (low.1 - 0xdc00)), low.2)
  else
    some (Char.ofNat unit, rest)

/-- The first character of a string that `dumpString` wrote, and what follows it. -/
def readChar : List Char → Option (Char × List Char)
  | '\\' :: 'u' :: rest => (readHex4 rest).bind fun unit => readUnits unit.1 unit.2
  | '\\' :: 'n' :: rest => some ('\n', rest)
  | '\\' :: 'r' :: rest => some ('\r', rest)
  | '\\' :: 't' :: rest => some ('\t', rest)
  | '\\' :: 'f' :: rest => some ('\x0c', rest)
  | '\\' :: 'b' :: rest => some ('\x08', rest)
  | '\\' :: c :: rest => some (c, rest)
  | '"' :: _ => none
  | c :: rest => some (c, rest)
  | [] => none

theorem readHex4_hex4 {unit : Nat} (h : unit < 65536) (rest : List Char) :
    readHex4 (hex4 unit ++ rest) = some (unit, rest) := by
  have hdigit : ∀ digit < 16, lowerHexValue ("0123456789abcdef".toList.getD digit '0') = digit := by
    decide
  have hlt : ∀ value, value % 16 < 16 := fun value => Nat.mod_lt _ (by decide)
  simp only [hex4, List.map_cons, List.map_nil, List.cons_append, List.nil_append, readHex4,
    hdigit _ (hlt _), Option.some.injEq, Prod.mk.injEq, and_true]
  omega

theorem readChar_escapeUnit {unit : Nat} (h : unit < 65536) (rest : List Char) :
    readChar (escapeUnit unit ++ rest) = readUnits unit rest := by
  rw [escapeUnit, List.cons_append, List.cons_append, readChar, readHex4_hex4 h]
  rfl

theorem readUnits_low {unit : Nat} (hunit : 0xd800 ≤ unit ∧ unit < 0xdc00) {low : Nat} (hlow : low < 65536)
    (rest : List Char) :
    readUnits unit (escapeUnit low ++ rest) =
      some (Char.ofNat (0x10000 + (unit - 0xd800) * 1024 + (low - 0xdc00)), rest) := by
  rw [readUnits, if_pos hunit, escapeUnit, List.cons_append, List.cons_append, List.drop_succ_cons,
    List.drop_succ_cons, List.drop_zero, readHex4_hex4 hlow]
  rfl

/-- A character is read as it was written. -/
theorem readChar_dumpChar (c : Char) (rest : List Char) :
    readChar (dumpChar c ++ rest) = some (c, rest) := by
  have hvalid : c.toNat < 0xd800 ∨ 0xdfff < c.toNat ∧ c.toNat < 0x110000 := c.valid
  unfold dumpChar
  split
  · next hquoted => rcases hquoted with rfl | rfl <;> rfl
  · next hplain =>
      obtain ⟨hquote, hslash⟩ := not_or.mp hplain
      split
      · rw [List.singleton_append, readChar]
        all_goals simp_all
      · split_ifs with hn hr ht hf hb hunit
        · rw [hn]
          rfl
        · rw [hr]
          rfl
        · rw [ht]
          rfl
        · rw [hf]
          rfl
        · rw [hb]
          rfl
        · -- no character is a surrogate
          rw [readChar_escapeUnit hunit, readUnits, if_neg (by omega), Char.ofNat_toNat]
        · rw [List.append_assoc, readChar_escapeUnit (by omega), readUnits_low (by omega) (by omega)]
          have hvalue : 0x10000 + (0xd800 + (c.toNat - 0x10000) / 1024 - 0xd800) * 1024 +
              (0xdc00 + (c.toNat - 0x10000) % 1024 - 0xdc00) = c.toNat := by omega
          rw [hvalue, Char.ofNat_toNat]

/-- A string ends at its closing quote. -/
theorem dumpString_append {s t : String} {rest rest' : List Char}
    (h : (dumpString s).toList ++ rest = (dumpString t).toList ++ rest') : s = t ∧ rest = rest' := by
  have hchars : ∀ cs ds : List Char, cs.flatMap dumpChar ++ '"' :: rest = ds.flatMap dumpChar ++ '"' :: rest' →
      cs = ds ∧ rest = rest' := by
    intro cs
    induction cs with
    | nil =>
        rintro (_ | ⟨d, ds⟩) heq
        · exact ⟨rfl, (List.cons.inj heq).2⟩
        · have hread := congrArg readChar heq
          rw [List.flatMap_cons, List.append_assoc, readChar_dumpChar] at hread
          cases hread
    | cons c cs ih =>
        rintro (_ | ⟨d, ds⟩) heq
        · have hread := congrArg readChar heq
          rw [List.flatMap_cons, List.append_assoc, readChar_dumpChar] at hread
          cases hread
        · have hread := congrArg readChar heq
          rw [List.flatMap_cons, List.flatMap_cons, List.append_assoc, List.append_assoc,
            readChar_dumpChar, readChar_dumpChar] at hread
          obtain ⟨rfl, hrest⟩ := Prod.mk.inj (Option.some.inj hread)
          obtain ⟨rfl, hend⟩ := ih ds hrest
          exact ⟨rfl, hend⟩
  rw [dumpString, dumpString, String.toList_ofList, String.toList_ofList] at h
  simp only [List.cons_append, List.append_assoc, List.nil_append, List.cons.injEq, true_and] at h
  obtain ⟨hlist, hrest⟩ := hchars _ _ h
  exact ⟨String.toList_inj.mp hlist, hrest⟩

/-! ### Values -/

/-- What follows a value does not go on with a digit. -/
def Ends (rest : List Char) : Prop :=
  ∀ c ∈ rest.head?, c.isDigit = false

/-- A written value is told apart from what follows it. -/
def Delimited {α : Type} (write : α → String) : Prop :=
  ∀ ⦃a b : α⦄ ⦃rest rest' : List Char⦄, Ends rest → Ends rest' →
    (write a).toList ++ rest = (write b).toList ++ rest' → a = b ∧ rest = rest'

theorem ends_cons {c : Char} (h : c.isDigit = false) (rest : List Char) : Ends (c :: rest) := by
  intro d hd
  cases hd
  exact h

theorem repr_injective : Function.Injective Nat.repr := by
  intro a b h
  have hread := congrArg (fun s : String => Nat.ofDigitChars 10 s.toList 0) h
  simpa only [Nat.toList_repr, Nat.ofDigitChars_ten_toDigits] using hread

/-- A number ends with its digits. -/
theorem delimited_toString : Delimited fun value : Nat => (toString value : String) := by
  intro a b rest rest' hends hends' h
  dsimp only at h
  have htake : ∀ (value : Nat) {rest : List Char}, Ends rest →
      ((toString value : String).toList ++ rest).takeWhile Char.isDigit =
        (toString value : String).toList := by
    intro value rest hends
    have hall : ∀ c ∈ (toString value : String).toList, c.isDigit = true := by
      intro c hc
      rw [Nat.toString_eq_ofList_toDigits, String.toList_ofList] at hc
      exact Nat.isDigit_of_mem_toDigits (by decide) (by decide) hc
    rw [List.takeWhile_append_of_pos hall]
    cases rest with
    | nil => simp
    | cons c rest =>
        rw [List.takeWhile_cons_of_neg (by simp [hends c rfl]), List.append_nil]
  have hdigits := htake a hends
  rw [h, htake b hends'] at hdigits
  have hvalue : (toString a : String) = toString b := String.toList_inj.mp hdigits.symm
  rw [hvalue] at h
  exact ⟨repr_injective hvalue, List.append_cancel_left h⟩

section Items

variable {α : Type} {write : α → String} {close : Char}

/-- What follows the first item: the bracket, or a comma and the other items. -/
def afterFirst (write : α → String) (close : Char) (items : List α) (rest : List Char) : List Char :=
  if items = [] then close :: rest else ',' :: ((join "," (items.map write)).toList ++ close :: rest)

theorem join_map_cons (a : α) (items : List α) (rest : List Char) :
    (join "," ((a :: items).map write)).toList ++ close :: rest =
      (write a).toList ++ afterFirst write close items rest := by
  unfold afterFirst
  split
  · next hnil =>
      subst hnil
      simp [join]
  · next hne =>
      rw [List.map_cons, join_cons (by simpa using hne)]
      simp

theorem ends_afterFirst (hclose : close.isDigit = false) (items : List α) (rest : List Char) :
    Ends (afterFirst write close items rest) := by
  unfold afterFirst
  split
  · exact ends_cons hclose _
  · exact ends_cons (by decide) _

/-- Items between brackets are told apart from what follows the closing one. -/
theorem delimited_items (hwrite : Delimited write) (hclose : close.isDigit = false ∧ close ≠ ',')
    (hfirst : ∀ a, ∃ c cs, (write a).toList = c :: cs ∧ c ≠ close) {as bs : List α}
    {rest rest' : List Char}
    (h : (join "," (as.map write)).toList ++ close :: rest =
      (join "," (bs.map write)).toList ++ close :: rest') : as = bs ∧ rest = rest' := by
  have hnil : ∀ (a : α) (items : List α) (rest rest' : List Char),
      close :: rest ≠ (join "," ((a :: items).map write)).toList ++ close :: rest' := by
    intro a items rest rest' heq
    obtain ⟨c, cs, hwritten, hne⟩ := hfirst a
    rw [join_map_cons, hwritten] at heq
    exact hne (List.cons.inj heq).1.symm
  induction as generalizing bs with
  | nil =>
      cases bs with
      | nil => exact ⟨rfl, (List.cons.inj h).2⟩
      | cons b bs => exact absurd h (hnil b bs rest rest')
  | cons a as ih =>
      cases bs with
      | nil => exact absurd h.symm (hnil a as rest' rest)
      | cons b bs =>
          rw [join_map_cons, join_map_cons] at h
          obtain ⟨rfl, htail⟩ := hwrite (ends_afterFirst hclose.1 as rest)
            (ends_afterFirst hclose.1 bs rest') h
          unfold afterFirst at htail
          split at htail
          · next has =>
              subst has
              split at htail
              · next hbs =>
                  subst hbs
                  exact ⟨rfl, (List.cons.inj htail).2⟩
              · exact absurd (List.cons.inj htail).1 hclose.2
          · split at htail
            · exact absurd (List.cons.inj htail).1.symm hclose.2
            · obtain ⟨rfl, hrest⟩ := ih (List.cons.inj htail).2
              exact ⟨rfl, hrest⟩

end Items

end Py
