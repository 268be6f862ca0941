import Naco.Lib.IpAddress
import Mathlib.Data.List.GetD
import Mathlib.Data.List.TakeDrop
import Mathlib.Tactic.MkIffOfInductiveProp

/-!
# Addresses as texts

`str` writes an address in one way, and `ip_address` reads it back: an address and its text determine
each other. A network is written with its prefix length, and read back when it has no host bits.
-/

namespace Py

/-! ### Pieces of a text -/

theorem splitAux_eq (sep : Char) (word cs : List Char) :
    splitAux sep word cs = (cs.splitOn sep).modifyHead (word.reverse ++ ·) := by
  induction cs generalizing word with
  | nil => simp [splitAux]
  | cons c cs ih =>
      rw [splitAux, List.splitOn_cons_eq_if_modifyHead]
      by_cases hsep : c = sep
      · rw [if_pos hsep, if_pos (beq_iff_eq.mpr hsep), ih]
        cases cs.splitOn sep <;> simp
      · rw [if_neg hsep, if_neg (by simpa using hsep), ih]
        cases cs.splitOn sep <;> simp

theorem splitOn_eq (sep : Char) (s : String) :
    splitOn sep s = (s.toList.splitOn sep).map String.ofList := by
  rw [splitOn, splitAux_eq]
  cases s.toList.splitOn sep <;> simp

theorem splitOn_join {sep : Char} {parts : List String} (hne : parts ≠ [])
    (hparts : ∀ part ∈ parts, sep ∉ part.toList) :
    splitOn sep (join (String.ofList [sep]) parts) = parts := by
  rw [splitOn_eq, join, String.toList_ofList, String.toList_ofList, List.splitOn_intercalate]
  · rw [List.map_map]
    simp
  · simpa using hparts
  · simpa using hne

theorem join_splitOn (sep : Char) (s : String) : join (String.ofList [sep]) (splitOn sep s) = s := by
  rw [splitOn_eq, join, String.toList_ofList, List.map_map]
  simp

theorem not_mem_splitOn {sep : Char} {s piece : String} (h : piece ∈ splitOn sep s) :
    sep ∉ piece.toList := by
  have hpieces : ∀ (cs word : List Char), sep ∉ word → ∀ found ∈ splitAux sep word cs, sep ∉ found := by
    intro cs
    induction cs with
    | nil =>
        intro word hword found hfound
        rw [splitAux, List.mem_singleton] at hfound
        rwa [hfound, List.mem_reverse]
    | cons c cs ih =>
        intro word hword found hfound
        rw [splitAux] at hfound
        split at hfound
        · rcases List.mem_cons.mp hfound with rfl | hfound
          · rwa [List.mem_reverse]
          · exact ih [] List.not_mem_nil found hfound
        · next hsep =>
            refine ih (c :: word) ?_ found hfound
            rw [List.mem_cons, not_or]
            exact ⟨Ne.symm hsep, hword⟩
  obtain ⟨found, hfound, rfl⟩ := List.mem_map.mp h
  rw [String.toList_ofList]
  exact hpieces _ _ List.not_mem_nil found hfound

theorem join_cons {sep first : String} {parts : List String} (hne : parts ≠ []) :
    join sep (first :: parts) = first ++ sep ++ join sep parts := by
  have hmap : parts.map String.toList ≠ [] := by simpa using hne
  rw [← String.toList_inj, join, join, List.map_cons, List.intercalate_cons_of_ne_nil hmap]
  simp

theorem join_append {sep : String} {parts rest : List String} (hparts : parts ≠ []) (hrest : rest ≠ []) :
    join sep (parts ++ rest) = join sep parts ++ sep ++ join sep rest := by
  induction parts with
  | nil => exact absurd rfl hparts
  | cons first parts ih =>
      cases parts with
      | nil =>
          rw [List.singleton_append, join_cons hrest]
          simp [join]
      | cons second parts =>
          have hcons := @join_cons sep first (second :: parts) (by simp)
          rw [List.cons_append, join_cons (by simp), ih (by simp), hcons]
          simp only [String.append_assoc]

theorem mem_join {sep : String} {parts : List String} {c : Char} (h : c ∈ (join sep parts).toList) :
    c ∈ sep.toList ∨ ∃ part ∈ parts, c ∈ part.toList := by
  induction parts with
  | nil => simp [join] at h
  | cons first parts ih =>
      by_cases hne : parts = []
      · subst hne
        exact .inr ⟨first, by simp, by simpa [join] using h⟩
      · rw [join_cons hne, String.toList_append, String.toList_append] at h
        rcases List.mem_append.mp h with h | h
        · rcases List.mem_append.mp h with hfirst | hsep
          · exact .inr ⟨first, by simp, hfirst⟩
          · exact .inl hsep
        · rcases ih h with hsep | ⟨part, hpart, hc⟩
          · exact .inl hsep
          · exact .inr ⟨part, List.mem_cons_of_mem _ hpart, hc⟩

theorem partition_of_not_mem {sep : Char} {s : String} (h : sep ∉ s.toList) :
    partition sep s = (s, none) := by
  have hall : ∀ c ∈ s.toList, decide (c ≠ sep) = true := by
    rintro c hc
    rw [decide_eq_true_iff]
    rintro rfl
    exact h hc
  rw [partition, List.span_eq_takeWhile_dropWhile, List.takeWhile_eq_self_iff.mpr hall,
    List.dropWhile_eq_nil_iff.mpr hall]
  simp

theorem partition_append {sep : Char} {head tail : String} (h : sep ∉ head.toList) :
    partition sep (head ++ String.ofList [sep] ++ tail) = (head, some tail) := by
  have hall : ∀ c ∈ head.toList, decide (c ≠ sep) = true := by
    rintro c hc
    rw [decide_eq_true_iff]
    rintro rfl
    exact h hc
  rw [partition, List.span_eq_takeWhile_dropWhile, String.toList_append, String.toList_append,
    List.append_assoc, List.takeWhile_append_of_pos hall, List.dropWhile_append_of_pos hall]
  simp

theorem mem_of_mem_partition {sep : Char} {s head tail : String} (h : partition sep s = (head, some tail))
    {c : Char} (hc : c ∈ tail.toList) : c ∈ s.toList := by
  rw [partition, List.span_eq_takeWhile_dropWhile] at h
  split at h
  · cases h
  · next first found rest hspan =>
      cases h
      rw [String.toList_ofList] at hc
      have hrest : c ∈ s.toList.dropWhile fun c => decide (c ≠ sep) := by
        rw [(Prod.mk.inj hspan).2]
        exact List.mem_cons_of_mem _ hc
      exact (List.dropWhile_suffix _).mem hrest

/-! ### Numbers in a base -/

/-- Reading the digits of a value in order gives its lower `count` digits back. -/
theorem foldl_digits (base count value : Nat) :
    ((List.range count).map fun i => value / base ^ (count - 1 - i) % base).foldl
      (fun read digit => read * base + digit) 0 = value % base ^ count := by
  induction count generalizing value with
  | zero => simp [Nat.mod_one]
  | succ count ih =>
      have hupper : ((List.range count).map fun i => value / base ^ (count + 1 - 1 - i) % base) =
          (List.range count).map fun i => value / base / base ^ (count - 1 - i) % base := by
        refine List.map_congr_left fun i hi => ?_
        rw [List.mem_range] at hi
        rw [Nat.div_div_eq_div_mul, ← Nat.pow_succ']
        congr 3
        omega
      rw [List.range_succ, List.map_append, List.foldl_append, hupper, ih, List.map_singleton,
        List.foldl_cons, List.foldl_nil, Nat.add_sub_cancel, Nat.sub_self, Nat.pow_zero, Nat.div_one,
        Nat.pow_succ', Nat.mod_mul, Nat.mul_comm base, Nat.add_comm]

/-- A number of `n` digits is below the `n`-th power of its base. -/
theorem foldl_lt {base : Nat} {digits : List Nat} (h : ∀ digit ∈ digits, digit < base) :
    digits.foldl (fun read digit => read * base + digit) 0 < base ^ digits.length := by
  induction digits using List.reverseRecOn with
  | nil => simp
  | append_singleton digits digit ih =>
      have hdigit : digit < base := h digit (by simp)
      have hrest := ih fun d hd => h d (List.mem_append_left _ hd)
      rw [List.foldl_append, List.foldl_cons, List.foldl_nil, List.length_append, List.length_singleton,
        Nat.pow_succ]
      calc digits.foldl (fun read digit => read * base + digit) 0 * base + digit
          < digits.foldl (fun read digit => read * base + digit) 0 * base + base := by omega
        _ = (digits.foldl (fun read digit => read * base + digit) 0 + 1) * base := by
            rw [Nat.add_mul, Nat.one_mul]
        _ ≤ base ^ digits.length * base := Nat.mul_le_mul_right _ hrest

/-- Leading zeros count for nothing. -/
theorem foldl_dropWhile_zero (base : Nat) (digits : List Nat) :
    (digits.dropWhile (· = 0)).foldl (fun read digit => read * base + digit) 0 =
      digits.foldl (fun read digit => read * base + digit) 0 := by
  induction digits with
  | nil => rfl
  | cons digit digits ih =>
      by_cases hzero : digit = 0
      · rw [List.dropWhile_cons_of_pos (by simpa using hzero), ih, hzero, List.foldl_cons, Nat.zero_mul]
      · rw [List.dropWhile_cons_of_neg (by simpa using hzero)]

theorem mapM_eq_some_iff {α β : Type} {f : α → Option β} {items : List α} {results : List β} :
    items.mapM f = some results ↔ List.Forall₂ (fun item result => f item = some result) items results := by
  induction items generalizing results with
  | nil => cases results <;> simp
  | cons item items ih =>
      rw [List.mapM_cons]
      constructor
      · intro h
        obtain ⟨first, hfirst, h⟩ := Option.bind_eq_some_iff.mp h
        obtain ⟨rest, hrest, h⟩ := Option.bind_eq_some_iff.mp h
        cases h
        exact .cons hfirst (ih.mp hrest)
      · rintro (_ | ⟨hfirst, hrest⟩)
        rw [hfirst, ih.mpr hrest]
        rfl

/-- What one function writes another reads. -/
theorem mapM_map_eq_some {α β γ : Type} {read : β → Option γ} {write : α → β} {value : α → γ}
    {items : List α} (h : ∀ item ∈ items, read (write item) = some (value item)) :
    (items.map write).mapM read = some (items.map value) := by
  induction items with
  | nil => rfl
  | cons item items ih =>
      rw [List.map_cons, List.mapM_cons, h item (by simp),
        ih fun i hi => h i (List.mem_cons_of_mem _ hi)]
      rfl

namespace IpAddress

/-! ### Dotted quads -/

theorem head?_toDigits {n : Nat} (h : 0 < n) : (Nat.toDigits 10 n).head? ≠ some '0' := by
  induction n using Nat.strongRecOn with
  | ind n ih =>
      by_cases hlt : n < 10
      · rw [Nat.toDigits_of_lt_base hlt]
        have hdigit : ∀ n < 10, 0 < n → [n.digitChar].head? ≠ some '0' := by decide
        exact hdigit n hlt h
      · rw [Nat.toDigits_of_base_le (by decide) (by omega),
          List.head?_append_of_ne_nil _ Nat.toDigits_ne_nil]
        exact ih (n / 10) (by omega) (by omega)

theorem decimal_toString (value : Nat) : decimal (toString value : String).toList = some value := by
  rw [Nat.toString_eq_ofList_toDigits, String.toList_ofList, decimal, if_pos]
  · congr 1
    calc
      (Nat.toDigits 10 value).foldl (fun value c => value * 10 + (c.toNat - '0'.toNat)) 0 =
          Nat.ofDigitChars 10 (Nat.toDigits 10 value) 0 := by
        rw [Nat.ofDigitChars_eq_foldl]
        congr 1
        funext value c
        rw [Nat.mul_comm]
      _ = value := Nat.ofDigitChars_ten_toDigits
  · refine ⟨Nat.toDigits_ne_nil, List.all_eq_true.mpr fun c hc => ?_⟩
    exact Nat.isDigit_of_mem_toDigits (by decide) (by decide) hc

theorem parseOctet_toString {value : Nat} (h : value < 256) :
    parseOctet (toString value) = some value := by
  have hlength : (toString value : String).toList.length ≤ 3 := by
    rw [Nat.toString_eq_ofList_toDigits, String.toList_ofList,
      Nat.length_toDigits_le_iff (by decide) (by decide)]
    omega
  have hzero : (toString value : String) = "0" ∨ (toString value : String).toList.head? ≠ some '0' := by
    by_cases hpos : 0 < value
    · right
      rw [Nat.toString_eq_ofList_toDigits, String.toList_ofList]
      exact head?_toDigits hpos
    · left
      obtain rfl : value = 0 := by omega
      rfl
  rw [parseOctet, decimal_toString]
  exact if_pos ⟨hlength, hzero, by omega⟩

theorem isDigit_of_decimal {cs : List Char} {value : Nat} (h : decimal cs = some value) :
    ∀ c ∈ cs, c.isDigit = true := by
  unfold decimal at h
  split at h
  · next hdigits => exact List.all_eq_true.mp hdigits.2
  · cases h

theorem isDigit_toString {value : Nat} {c : Char} (h : c ∈ (toString value).toList) :
    c.isDigit = true :=
  isDigit_of_decimal (decimal_toString value) c h

/-- `str` of an IPv4 address. -/
def formatV4 (value : Nat) : String :=
  join "." ((List.range 4).map fun i => toString (value / 256 ^ (3 - i) % 256))

theorem mem_formatV4 {value : Nat} {c : Char} (h : c ∈ (formatV4 value).toList) :
    c = '.' ∨ c.isDigit = true := by
  rcases mem_join h with hdot | ⟨part, hpart, hc⟩
  · exact .inl (by simpa using hdot)
  · obtain ⟨i, -, rfl⟩ := List.mem_map.mp hpart
    exact .inr (isDigit_toString hc)

theorem parseV4_formatV4 {value : Nat} (h : value < 2 ^ 32) : parseV4 (formatV4 value) = some value := by
  have hsplit : splitOn '.' (formatV4 value) =
      (List.range 4).map fun i => toString (value / 256 ^ (3 - i) % 256) := by
    refine splitOn_join (by simp) ?_
    intro part hpart hdot
    obtain ⟨i, -, rfl⟩ := List.mem_map.mp hpart
    exact absurd (isDigit_toString hdot) (by decide)
  have hdigits : (splitOn '.' (formatV4 value)).mapM parseOctet =
      some ((List.range 4).map fun i => value / 256 ^ (3 - i) % 256) := by
    rw [hsplit]
    exact mapM_map_eq_some fun i _ => parseOctet_toString (Nat.mod_lt _ (by decide))
  have hvalue := foldl_digits 256 4 value
  rw [Nat.mod_eq_of_lt (by omega)] at hvalue
  rw [parseV4, hdigits]
  simp [List.range_succ] at hvalue ⊢
  exact hvalue

theorem octet_le {s : String} {value : Nat} (h : parseOctet s = some value) :
    value ≤ 255 ∧ ∀ c ∈ s.toList, c.isDigit = true := by
  unfold parseOctet at h
  obtain ⟨read, hread, h⟩ := Option.bind_eq_some_iff.mp h
  split at h
  · next hoctet =>
      cases h
      exact ⟨hoctet.2.2, isDigit_of_decimal hread⟩
  · cases h

/-- A dotted quad is below `2 ^ 32`, and written in digits and dots. -/
theorem parseV4_eq_some {s : String} {value : Nat} (h : parseV4 s = some value) :
    value < 2 ^ 32 ∧ ∀ c ∈ s.toList, c = '.' ∨ c.isDigit = true := by
  unfold parseV4 at h
  split at h
  · next a b c d hoctets =>
      have hparts := mapM_eq_some_iff.mp hoctets
      have hle : ∀ octet ∈ [a, b, c, d], octet ≤ 255 := by
        intro octet hoctet
        obtain ⟨part, -, hpart⟩ := forall₂_mem_right hparts hoctet
        exact (octet_le hpart).1
      simp only [List.mem_cons, List.not_mem_nil, or_false, forall_eq_or_imp, forall_eq] at hle
      obtain rfl := Option.some.inj h
      refine ⟨by omega, fun char hchar => ?_⟩
      rw [← join_splitOn '.' s] at hchar
      rcases mem_join hchar with hdot | ⟨part, hpart, hc⟩
      · exact .inl (by simpa using hdot)
      · obtain ⟨octet, -, hoctet⟩ := forall₂_mem_left hparts hpart
        exact .inr ((octet_le hoctet).2 char hc)
  · cases h

/-! ### Hextets -/

theorem hexValue_hexChar : ∀ digit < 16, hexValue (hexChar digit) = some digit := by
  decide

theorem hexChar_plain : ∀ digit < 16, hexChar digit ≠ ':' ∧ hexChar digit ≠ '%' ∧ hexChar digit ≠ '/' ∧
    hexChar digit ≠ '.' := by
  decide

theorem hexValue_lt {c : Char} {digit : Nat} (h : hexValue c = some digit) : digit < 16 := by
  unfold hexValue at h
  simp only [Char.le_def, UInt32.le_iff_toNat_le] at h
  split at h
  · next hrange =>
      cases h
      change 48 ≤ c.toNat ∧ c.toNat ≤ 57 at hrange
      change c.toNat - 48 < 16
      omega
  · split at h
    · next hrange =>
        cases h
        change 97 ≤ c.toNat ∧ c.toNat ≤ 102 at hrange
        change c.toNat - 97 + 10 < 16
        omega
    · split at h
      · next hrange =>
          cases h
          change 65 ≤ c.toNat ∧ c.toNat ≤ 70 at hrange
          change c.toNat - 65 + 10 < 16
          omega
      · cases h

/-- The digits `'%x' % value` shows. -/
def shownDigits (value : Nat) : List Nat :=
  let shown := [value / 4096 % 16, value / 256 % 16, value / 16 % 16, value % 16].dropWhile (· = 0)
  if shown = [] then [0] else shown

theorem formatHextet_eq (value : Nat) :
    formatHextet value = String.ofList ((shownDigits value).map hexChar) := by
  unfold formatHextet shownDigits
  rfl

theorem shownDigits_spec {value : Nat} (h : value < 65536) :
    shownDigits value ≠ [] ∧ (shownDigits value).length ≤ 4 ∧ (∀ digit ∈ shownDigits value, digit < 16) ∧
      (shownDigits value).foldl (fun read digit => read * 16 + digit) 0 = value := by
  have hread := foldl_dropWhile_zero 16 [value / 4096 % 16, value / 256 % 16, value / 16 % 16, value % 16]
  have hvalue : [value / 4096 % 16, value / 256 % 16, value / 16 % 16, value % 16].foldl
      (fun read digit => read * 16 + digit) 0 = value := by
    simp only [List.foldl_cons, List.foldl_nil]
    omega
  rw [hvalue] at hread
  unfold shownDigits
  dsimp only
  split
  · next hnil =>
      rw [hnil] at hread
      exact ⟨by simp, by simp, by simp, hread⟩
  · next hne =>
      refine ⟨hne, List.length_dropWhile_le _ _, fun digit hdigit => ?_, hread⟩
      have hmem := (List.dropWhile_suffix _).mem hdigit
      simp only [List.mem_cons, List.not_mem_nil, or_false] at hmem
      omega

theorem parseHextet_formatHextet {value : Nat} (h : value < 65536) :
    parseHextet (formatHextet value) = some value := by
  obtain ⟨hne, hlength, hdigits, hread⟩ := shownDigits_spec h
  have hmap : ((shownDigits value).map hexChar).mapM hexValue = some (shownDigits value) := by
    have hchars := @mapM_map_eq_some _ _ _ hexValue hexChar id (shownDigits value)
      fun digit hdigit => hexValue_hexChar digit (hdigits digit hdigit)
    rw [hchars, List.map_id]
  rw [parseHextet, formatHextet_eq, String.toList_ofList, hmap]
  simp [hne, hlength, hread]

theorem formatHextet_plain {value : Nat} (h : value < 65536) :
    formatHextet value ≠ "" ∧ ∀ c ∈ (formatHextet value).toList, c ≠ ':' ∧ c ≠ '%' ∧ c ≠ '/' ∧ c ≠ '.' := by
  obtain ⟨hne, -, hdigits, -⟩ := shownDigits_spec h
  rw [formatHextet_eq]
  constructor
  · simpa using hne
  · intro c hc
    rw [String.toList_ofList] at hc
    obtain ⟨digit, hdigit, rfl⟩ := List.mem_map.mp hc
    exact hexChar_plain digit (hdigits digit hdigit)

theorem hextet_lt {s : String} {value : Nat} (h : parseHextet s = some value) : value < 65536 := by
  unfold parseHextet at h
  obtain ⟨digits, hdigits, h⟩ := Option.bind_eq_some_iff.mp h
  split at h
  · next hlength =>
      cases h
      have hall : ∀ digit ∈ digits, digit < 16 := by
        intro digit hdigit
        obtain ⟨c, -, hc⟩ := forall₂_mem_right (mapM_eq_some_iff.mp hdigits) hdigit
        exact hexValue_lt hc
      calc digits.foldl (fun read digit => read * 16 + digit) 0
          < 16 ^ digits.length := foldl_lt hall
        _ ≤ 16 ^ 4 := Nat.pow_le_pow_right (by decide) hlength.2
        _ = 65536 := by decide
  · cases h

/-! ### Colons -/

/-- The pieces on one side of a `::`, of which there is an empty one when nothing is there. -/
def sidePieces (side : List String) : List String :=
  if side = [] then [""] else side

theorem join_sidePieces (side : List String) : join ":" (sidePieces side) = join ":" side := by
  unfold sidePieces
  split
  · next h =>
      subst h
      rfl
  · rfl

theorem filter_range_eq_singleton {p : Nat → Bool} {count index : Nat} (hlt : index < count)
    (h : ∀ i < count, p i = true ↔ i = index) : (List.range count).filter p = [index] := by
  induction count with
  | zero => omega
  | succ count ih =>
      rw [List.range_succ, List.filter_append, List.filter_singleton]
      by_cases hlast : index = count
      · subst hlast
        have hnone : (List.range index).filter p = [] := by
          rw [List.filter_eq_nil_iff]
          intro i hi hp
          rw [List.mem_range] at hi
          exact absurd ((h i (by omega)).mp hp) (by omega)
        rw [hnone, (h index (by omega)).mpr rfl]
        rfl
      · have hp : p count = false := by
          rw [Bool.eq_false_iff]
          exact fun hp => hlast ((h count (by omega)).mp hp).symm
        rw [ih (by omega) fun i hi => h i (by omega), hp]
        rfl

/-- Pieces without an empty one are the whole address. -/
theorem v6Layout_full {parts : List String} (hlength : parts.length = 8) (hne : ∀ part ∈ parts, part ≠ "") :
    v6Layout parts = some (parts, 0, []) := by
  have hinner : ((List.range parts.length).filter fun i =>
      decide (1 ≤ i ∧ i + 1 < parts.length ∧ parts.getD i "" = "")) = [] := by
    rw [List.filter_eq_nil_iff]
    intro i hi hempty
    rw [List.mem_range] at hi
    rw [List.getD_eq_getElem _ _ hi] at hempty
    exact hne _ (List.getElem_mem hi) (of_decide_eq_true hempty).2.2
  rw [v6Layout, hinner]
  exact if_pos hlength

theorem length_sidePieces (side : List String) :
    (sidePieces side).length ≤ side.length + 1 ∧
      (0 < side.length → (sidePieces side).length = side.length) ∧ 0 < (sidePieces side).length := by
  unfold sidePieces
  split
  · next h =>
      subst h
      exact ⟨le_refl _, fun h => absurd h (Nat.lt_irrefl _), Nat.one_pos⟩
  · next h => exact ⟨Nat.le_succ _, fun _ => rfl, List.length_pos_iff.mpr h⟩

/-- The only empty piece of a side is that of an empty side. -/
theorem getD_sidePieces {side : List String} (hside : ∀ part ∈ side, part ≠ "") {i : Nat}
    (hi : i < (sidePieces side).length) (hempty : (sidePieces side).getD i "" = "") :
    (sidePieces side).length = 1 := by
  unfold sidePieces at hi hempty ⊢
  split at hi
  · next h =>
      rw [if_pos h]
      rfl
  · next h =>
      rw [if_neg h, List.getD_eq_getElem _ _ hi] at hempty
      exact absurd hempty (hside _ (List.getElem_mem hi))

/-- The only empty piece between the first and the last is the one of the `::`. -/
theorem inner_sides {high low : List String} (hhigh : ∀ part ∈ high, part ≠ "")
    (hlow : ∀ part ∈ low, part ≠ "") :
    ((List.range (sidePieces high ++ "" :: sidePieces low).length).filter fun i =>
      decide (1 ≤ i ∧ i + 1 < (sidePieces high ++ "" :: sidePieces low).length ∧
        (sidePieces high ++ "" :: sidePieces low).getD i "" = "")) = [(sidePieces high).length] := by
  have hhighPos := (length_sidePieces high).2.2
  have hlowPos := (length_sidePieces low).2.2
  have hlength : (sidePieces high ++ "" :: sidePieces low).length =
      (sidePieces high).length + (sidePieces low).length + 1 := by
    rw [List.length_append, List.length_cons, Nat.add_assoc]
  refine filter_range_eq_singleton (by omega) fun i hi => ?_
  rw [decide_eq_true_iff, hlength]
  constructor
  · rintro ⟨hpos, hnotLast, hempty⟩
    rcases Nat.lt_trichotomy i (sidePieces high).length with hlt | heq | hgt
    · rw [List.getD_append _ _ _ _ hlt] at hempty
      have := getD_sidePieces hhigh hlt hempty
      omega
    · exact heq
    · obtain ⟨j, rfl⟩ : ∃ j, i = (sidePieces high).length + (j + 1) :=
        ⟨i - (sidePieces high).length - 1, by omega⟩
      rw [List.getD_append_right _ _ _ _ (by omega), Nat.add_sub_cancel_left, List.getD_cons_succ] at hempty
      have := getD_sidePieces hlow (by omega) hempty
      omega
  · rintro rfl
    refine ⟨hhighPos, by omega, ?_⟩
    rw [List.getD_append_right _ _ _ _ (le_refl _), Nat.sub_self, List.getD_cons_zero]

/-- The pieces around a `::` are told apart from the skipped zeros. -/
theorem v6Layout_sides {high low : List String} (hhigh : ∀ part ∈ high, part ≠ "")
    (hlow : ∀ part ∈ low, part ≠ "") (hlength : high.length + low.length < 8) :
    v6Layout (sidePieces high ++ "" :: sidePieces low) =
      some (high, 8 - (high.length + low.length), low) := by
  have hhead : (sidePieces high ++ "" :: sidePieces low).headD "" = "" ↔ high = [] := by
    cases high with
    | nil => simp [sidePieces]
    | cons first high => simpa [sidePieces] using hhigh first (by simp)
  have hlast : (sidePieces high ++ "" :: sidePieces low).getLastD "" = "" ↔ low = [] := by
    rcases List.eq_nil_or_concat low with rfl | ⟨before, last, rfl⟩
    · simp [sidePieces]
    · have hconcat : sidePieces high ++ "" :: sidePieces (before.concat last) =
          (sidePieces high ++ "" :: before) ++ [last] := by simp [sidePieces]
      rw [hconcat, List.getLastD_concat]
      simpa using hlow last (by simp)
  rw [v6Layout, inner_sides hhigh hlow]
  simp only [hhead, hlast]
  by_cases hhighNil : high = []
  · subst hhighNil
    by_cases hlowNil : low = []
    · subst hlowNil
      rfl
    · have hdrop : low.length + 1 + 1 - low.length = 2 := by omega
      have hlt : low.length < 8 := by simpa using hlength
      simp [sidePieces, hlowNil, hdrop, hlt]
  · by_cases hlowNil : low = []
    · subst hlowNil
      have hlt : high.length < 8 := by simpa using hlength
      simp [sidePieces, hhighNil, hlt]
    · have hdrop : high.length + (low.length + 1) - low.length = high.length + 1 := by omega
      simp [sidePieces, hhighNil, hlowNil, hlength, hdrop, List.drop_append]

/-! ### Compressed zeros -/

theorem run_longestZeros (values : List Nat) :
    (longestZeros values).2 ≤ ((values.drop (longestZeros values).1).takeWhile (· = 0)).length := by
  unfold longestZeros
  refine List.foldlRecOn
    (motive := fun best : Nat × Nat => best.2 ≤ ((values.drop best.1).takeWhile (· = 0)).length)
    _ _ (Nat.zero_le _) fun best hbest i _ => ?_
  dsimp only
  split
  · exact le_refl _
  · exact hbest

/-- The run that is left out is one of zeros. -/
theorem zeros_longestZeros {values : List Nat} (hlength : 0 < (longestZeros values).2) :
    (longestZeros values).1 + (longestZeros values).2 ≤ values.length ∧
      values.take (longestZeros values).1 ++ List.replicate (longestZeros values).2 0 ++
        values.drop ((longestZeros values).1 + (longestZeros values).2) = values := by
  have hrun := run_longestZeros values
  generalize (longestZeros values).1 = start at hrun ⊢
  generalize (longestZeros values).2 = length at hlength hrun ⊢
  have hwhole : ((values.drop start).takeWhile (· = 0)).length ≤ (values.drop start).length :=
    (List.takeWhile_prefix _).length_le
  rw [List.length_drop] at hwhole
  have hzeros : (values.drop start).take length = List.replicate length 0 := by
    rw [← List.takeWhile_append_dropWhile (p := fun value => decide (value = 0)) (l := values.drop start),
      List.take_append_of_le_length hrun, List.eq_replicate_iff]
    refine ⟨List.length_take_of_le hrun, fun value hvalue => ?_⟩
    simpa using List.mem_takeWhile_imp (List.mem_of_mem_take hvalue)
  refine ⟨by omega, ?_⟩
  rw [← hzeros, ← List.drop_drop, List.append_assoc, List.take_append_drop, List.take_append_drop]

theorem hextet_lt_of_mem {value hextet : Nat} (h : hextet ∈ hextets value) : hextet < 65536 := by
  obtain ⟨i, -, rfl⟩ := List.mem_map.mp h
  exact Nat.mod_lt _ (by decide)

/-- Pieces that are hextets, or empty, are the pieces of the text they make. -/
theorem v6Parts_join {parts : List String} (hlength : 3 ≤ parts.length)
    (hplain : ∀ part ∈ parts, ∀ c ∈ part.toList, c ≠ ':' ∧ c ≠ '.') :
    v6Parts (join ":" parts) = some parts := by
  have hne : parts ≠ [] := by
    rintro rfl
    simp at hlength
  have hsplit : splitOn ':' (join ":" parts) = parts :=
    splitOn_join hne fun part hpart hcolon => (hplain part hpart _ hcolon).1 rfl
  have hdot : '.' ∉ (parts.getLastD "").toList := by
    intro hdot
    rw [List.getLastD_eq_getLast?, List.getLast?_eq_some_getLast hne, Option.getD_some] at hdot
    exact (hplain _ (List.getLast_mem hne) _ hdot).2 rfl
  rw [v6Parts, hsplit, if_neg (by omega)]
  exact if_neg hdot

theorem parseV6_join {parts high low : List String} {skipped : Nat} {highValues lowValues : List Nat}
    (hlength : 3 ≤ parts.length ∧ parts.length ≤ 9)
    (hplain : ∀ part ∈ parts, ∀ c ∈ part.toList, c ≠ ':' ∧ c ≠ '.')
    (hlayout : v6Layout parts = some (high, skipped, low))
    (hhigh : high.mapM parseHextet = some highValues) (hlow : low.mapM parseHextet = some lowValues) :
    parseV6 (join ":" parts) = some ((highValues ++ List.replicate skipped 0 ++ lowValues).foldl
      (fun value hextet => value * 65536 + hextet) 0) := by
  have hnine : ¬ 9 < parts.length := by omega
  simp [parseV6, v6Parts_join hlength.1 hplain, hnine, hlayout, hhigh, hlow]

theorem join_sides (high low : List String) :
    join ":" (sidePieces high ++ "" :: sidePieces low) = join ":" high ++ "::" ++ join ":" low := by
  have hhigh : sidePieces high ≠ [] := List.length_pos_iff.mp (length_sidePieces high).2.2
  have hlow : sidePieces low ≠ [] := List.length_pos_iff.mp (length_sidePieces low).2.2
  have hcolons : "::" = ":" ++ ":" := by decide
  rw [join_append hhigh (List.cons_ne_nil _ _), join_cons hlow, join_sidePieces, join_sidePieces, hcolons]
  simp only [String.append_assoc, String.empty_append]

theorem mem_sidePieces {side : List String} {part : String} (h : part ∈ sidePieces side) :
    part = "" ∨ part ∈ side := by
  unfold sidePieces at h
  split at h
  · exact .inl (List.mem_singleton.mp h)
  · exact .inr h

theorem mapM_formatHextet {values : List Nat} (h : ∀ value ∈ values, value < 65536) :
    (values.map formatHextet).mapM parseHextet = some values := by
  have hmap := @mapM_map_eq_some _ _ _ parseHextet formatHextet id values
    fun value hvalue => parseHextet_formatHextet (h value hvalue)
  rw [hmap, List.map_id]

theorem formatHextet_pieces {values : List Nat} (h : ∀ value ∈ values, value < 65536) {part : String}
    (hpart : part ∈ values.map formatHextet) :
    part ≠ "" ∧ ∀ c ∈ part.toList, c ≠ ':' ∧ c ≠ '%' ∧ c ≠ '/' ∧ c ≠ '.' := by
  obtain ⟨value, hvalue, rfl⟩ := List.mem_map.mp hpart
  exact formatHextet_plain (h value hvalue)

/-- Eight hextets. -/
theorem parseV6_full {values : List Nat} (hlength : values.length = 8)
    (h : ∀ value ∈ values, value < 65536) :
    parseV6 (join ":" (values.map formatHextet)) =
      some (values.foldl (fun value hextet => value * 65536 + hextet) 0) := by
  have hlayout : v6Layout (values.map formatHextet) = some (values.map formatHextet, 0, []) :=
    v6Layout_full (by simpa using hlength) fun part hpart => (formatHextet_pieces h hpart).1
  have hplain : ∀ part ∈ values.map formatHextet, ∀ c ∈ part.toList, c ≠ ':' ∧ c ≠ '.' := by
    intro part hpart c hc
    obtain ⟨hcolon, -, -, hdot⟩ := (formatHextet_pieces h hpart).2 c hc
    exact ⟨hcolon, hdot⟩
  rw [parseV6_join (by simp [hlength]) hplain hlayout (mapM_formatHextet h) rfl]
  simp

/-- The hextets around a `::`. -/
theorem parseV6_sides {high low : List Nat} (hhigh : ∀ value ∈ high, value < 65536)
    (hlow : ∀ value ∈ low, value < 65536) (hlength : high.length + low.length < 8) :
    parseV6 (join ":" (high.map formatHextet) ++ "::" ++ join ":" (low.map formatHextet)) =
      some ((high ++ List.replicate (8 - (high.length + low.length)) 0 ++ low).foldl
        (fun value hextet => value * 65536 + hextet) 0) := by
  have hlayout := @v6Layout_sides (high.map formatHextet) (low.map formatHextet)
    (fun part hpart => (formatHextet_pieces hhigh hpart).1)
    (fun part hpart => (formatHextet_pieces hlow hpart).1) (by simpa using hlength)
  have hplain : ∀ part ∈ sidePieces (high.map formatHextet) ++ "" :: sidePieces (low.map formatHextet),
      ∀ c ∈ part.toList, c ≠ ':' ∧ c ≠ '.' := by
    intro part hpart c hc
    have hside : part = "" ∨ part ∈ high.map formatHextet ∨ part ∈ low.map formatHextet := by
      rcases List.mem_append.mp hpart with hside | hside
      · rcases mem_sidePieces hside with hempty | hmem
        · exact .inl hempty
        · exact .inr (.inl hmem)
      · rcases List.mem_cons.mp hside with hempty | hside
        · exact .inl hempty
        · rcases mem_sidePieces hside with hempty | hmem
          · exact .inl hempty
          · exact .inr (.inr hmem)
    rcases hside with rfl | hmem | hmem
    · simp at hc
    · exact ⟨((formatHextet_pieces hhigh hmem).2 c hc).1, ((formatHextet_pieces hhigh hmem).2 c hc).2.2.2⟩
    · exact ⟨((formatHextet_pieces hlow hmem).2 c hc).1, ((formatHextet_pieces hlow hmem).2 c hc).2.2.2⟩
  have hpieces : 3 ≤ (sidePieces (high.map formatHextet) ++ "" :: sidePieces (low.map formatHextet)).length ∧
      (sidePieces (high.map formatHextet) ++ "" :: sidePieces (low.map formatHextet)).length ≤ 9 := by
    have hhighLength := length_sidePieces (high.map formatHextet)
    have hlowLength := length_sidePieces (low.map formatHextet)
    rw [List.length_map] at hhighLength hlowLength
    rw [List.length_append, List.length_cons]
    omega
  rw [← join_sides, parseV6_join hpieces hplain hlayout (mapM_formatHextet hhigh) (mapM_formatHextet hlow),
    List.length_map, List.length_map]

/-- An address is read as it was written. -/
theorem parseV6_formatV6 {value : Nat} (h : value < 2 ^ 128) : parseV6 (formatV6 value) = some value := by
  have hread : (hextets value).foldl (fun value hextet => value * 65536 + hextet) 0 = value := by
    have hdigits := foldl_digits 65536 8 value
    rw [Nat.mod_eq_of_lt (by omega)] at hdigits
    exact hdigits
  have hcount : (hextets value).length = 8 := by simp [hextets]
  unfold formatV6
  dsimp only
  split
  · next hlong =>
      obtain ⟨hfit, hzeros⟩ := zeros_longestZeros (Nat.lt_trans Nat.one_pos hlong)
      generalize (longestZeros (hextets value)).1 = start at hfit hzeros ⊢
      generalize (longestZeros (hextets value)).2 = length at hlong hfit hzeros ⊢
      rw [hcount] at hfit
      have hhigh : ((hextets value).take start).length = start := by
        rw [List.length_take]
        omega
      have hlow : ((hextets value).drop (start + length)).length = 8 - (start + length) := by
        rw [List.length_drop, hcount]
      have hskipped : 8 - (((hextets value).take start).length +
          ((hextets value).drop (start + length)).length) = length := by omega
      rw [← List.map_take, ← List.map_drop,
        parseV6_sides (fun _ hextet => hextet_lt_of_mem (List.mem_of_mem_take hextet))
          (fun _ hextet => hextet_lt_of_mem (List.mem_of_mem_drop hextet)) (by omega),
        hskipped, hzeros, hread]
  · rw [parseV6_full hcount fun _ => hextet_lt_of_mem, hread]

/-- The characters of an IPv6 address are hex digits and colons, and it has a colon. -/
theorem mem_formatV6 (value : Nat) :
    ':' ∈ (formatV6 value).toList ∧ ∀ c ∈ (formatV6 value).toList, c ≠ '%' ∧ c ≠ '/' := by
  have hjoin : ∀ parts : List String, parts ⊆ (hextets value).map formatHextet →
      ∀ c ∈ (join ":" parts).toList, c ≠ '%' ∧ c ≠ '/' := by
    intro parts hparts c hc
    rcases mem_join hc with hcolon | ⟨part, hpart, hc⟩
    · obtain rfl : c = ':' := by simpa using hcolon
      decide
    · obtain ⟨-, hplain⟩ := formatHextet_pieces (fun _ => hextet_lt_of_mem) (hparts hpart)
      exact ⟨(hplain c hc).2.1, (hplain c hc).2.2.1⟩
  unfold formatV6
  dsimp only
  split
  · constructor
    · simp
    · intro c hc
      rw [String.toList_append, String.toList_append] at hc
      rcases List.mem_append.mp hc with hc | hc
      · rcases List.mem_append.mp hc with hc | hc
        · exact hjoin _ (List.take_subset _ _) c hc
        · obtain rfl : c = ':' := by simpa using hc
          decide
      · exact hjoin _ (List.drop_subset _ _) c hc
  · refine ⟨?_, hjoin _ (List.Subset.refl _)⟩
    have hcons : (hextets value).map formatHextet =
        formatHextet (value / 65536 ^ 7 % 65536) ::
          ((List.range 7).map fun i => formatHextet (value / 65536 ^ (6 - i) % 65536)) := by
      simp [hextets, List.range_succ]
    rw [hcons, join_cons (by simp)]
    simp

theorem length_v6Layout {parts high low : List String} {skipped : Nat}
    (h : v6Layout parts = some (high, skipped, low)) : high.length + skipped + low.length ≤ 8 := by
  unfold v6Layout at h
  dsimp only at h
  split at h
  · split at h
    · next height =>
        cases h
        simp [height]
    · cases h
  · next skip _ =>
      generalize (if parts.headD "" = "" then skip - 1 else skip) = highCount at h
      generalize (if parts.getLastD "" = "" then parts.length - skip - 2
        else parts.length - skip - 1) = lowCount at h
      split at h
      · cases h
      · split at h
        · cases h
        · split at h
          · cases h
          · cases h
            rw [List.length_take, List.length_drop]
            omega
  · cases h

/-- What is read is below `2 ^ 128`. -/
theorem value_lt_of_parseV6 {s : String} {value : Nat} (h : parseV6 s = some value) :
    value < 2 ^ 128 := by
  unfold parseV6 at h
  obtain ⟨parts, -, h⟩ := Option.bind_eq_some_iff.mp h
  split at h
  · cases h
  obtain ⟨⟨high, skipped, low⟩, hlayout, h⟩ := Option.bind_eq_some_iff.mp h
  obtain ⟨highValues, hhigh, h⟩ := Option.bind_eq_some_iff.mp h
  obtain ⟨lowValues, hlow, h⟩ := Option.bind_eq_some_iff.mp h
  obtain rfl := Option.some.inj h
  have hhigh := mapM_eq_some_iff.mp hhigh
  have hlow := mapM_eq_some_iff.mp hlow
  have hall : ∀ hextet ∈ highValues ++ List.replicate skipped 0 ++ lowValues, hextet < 65536 := by
    intro hextet hmem
    rcases List.mem_append.mp hmem with hmem | hmem
    · rcases List.mem_append.mp hmem with hmem | hmem
      · obtain ⟨part, -, hpart⟩ := forall₂_mem_right hhigh hmem
        exact hextet_lt hpart
      · rw [List.eq_of_mem_replicate hmem]
        decide
    · obtain ⟨part, -, hpart⟩ := forall₂_mem_right hlow hmem
      exact hextet_lt hpart
  have hcount : (highValues ++ List.replicate skipped 0 ++ lowValues).length ≤ 8 := by
    rw [List.length_append, List.length_append, List.length_replicate, ← hhigh.length_eq,
      ← hlow.length_eq]
    exact length_v6Layout hlayout
  calc (highValues ++ List.replicate skipped 0 ++ lowValues).foldl
        (fun value hextet => value * 65536 + hextet) 0
      < 65536 ^ (highValues ++ List.replicate skipped 0 ++ lowValues).length := foldl_lt hall
    _ ≤ 65536 ^ 8 := Nat.pow_le_pow_right (by decide) hcount
    _ = 2 ^ 128 := by decide

/-! ### Addresses -/

/-- The addresses there are: the value has the bits of its version, and only an IPv6 address has a
scope. -/
@[mk_iff]
structure Valid (address : IpAddress) : Prop where
  value : address.value < 2 ^ address.version.bits
  scope : ∀ scope ∈ address.scope,
    address.version = .v6 ∧ scope ≠ "" ∧ '%' ∉ scope.toList ∧ '/' ∉ scope.toList

theorem valid_of_parse {s : String} {address : IpAddress} (h : parse s = some address) :
    address.Valid := by
  unfold parse at h
  split at h
  · cases h
  · next hslash =>
      split at h
      · next value hvalue =>
          cases h
          exact ⟨(parseV4_eq_some hvalue).1, by simp⟩
      · split at h
        · obtain ⟨value, hvalue, rfl⟩ := Option.map_eq_some_iff.mp h
          exact ⟨value_lt_of_parseV6 hvalue, by simp⟩
        · next text scope hpartition =>
            split at h
            · cases h
            · next hscope =>
                obtain ⟨value, hvalue, rfl⟩ := Option.map_eq_some_iff.mp h
                obtain ⟨hempty, hpercent⟩ := not_or.mp hscope
                refine ⟨value_lt_of_parseV6 hvalue, ?_⟩
                intro found hfound
                cases hfound
                exact ⟨rfl, hempty, hpercent, fun hmem =>
                  hslash (mem_of_mem_partition hpartition hmem)⟩

theorem format_v4 (value : Nat) : format ⟨.v4, value, none⟩ = formatV4 value :=
  rfl

/-- `str` of an IPv6 address, by its scope. -/
theorem format_v6 (value : Nat) (scope : Option String) :
    format ⟨.v6, value, scope⟩ = formatV6 value ++ (scope.map ("%" ++ ·)).getD "" := by
  cases scope with
  | none => simp [format]
  | some scope => simp [format, String.append_assoc]

theorem not_slash_mem_format {address : IpAddress} (h : address.Valid) : '/' ∉ address.format.toList := by
  obtain ⟨version, value, scope⟩ := address
  cases version with
  | v4 =>
      intro hslash
      rcases mem_formatV4 hslash with hdot | hdigit
      · exact absurd hdot (by decide)
      · exact absurd hdigit (by decide)
  | v6 =>
      have hplain := (mem_formatV6 value).2 '/'
      cases scope with
      | none => exact fun hslash => (hplain hslash).2 rfl
      | some scope =>
          obtain ⟨-, -, -, hscope⟩ := h.scope scope rfl
          rw [format_v6, String.toList_append, List.mem_append, not_or]
          refine ⟨fun hslash => (hplain hslash).2 rfl, ?_⟩
          simpa using hscope

/-- An address is read as it was written. -/
theorem parse_format {address : IpAddress} (h : address.Valid) :
    parse address.format = some address := by
  have hslash := not_slash_mem_format h
  obtain ⟨version, value, scope⟩ := address
  cases version with
  | v4 =>
      have hscope : scope = none := by
        rw [Option.eq_none_iff_forall_not_mem]
        exact fun found hfound => absurd (h.scope found hfound).1 (by simp)
      subst hscope
      rw [parse, if_neg hslash, format_v4, parseV4_formatV4 h.value]
  | v6 =>
      have hcolon : ':' ∈ (format ⟨.v6, value, scope⟩).toList := by
        rw [format_v6, String.toList_append]
        exact List.mem_append_left _ (mem_formatV6 value).1
      have hv4 : parseV4 (format ⟨.v6, value, scope⟩) = none := by
        rw [Option.eq_none_iff_forall_not_mem]
        intro found hfound
        rcases (parseV4_eq_some hfound).2 ':' hcolon with hdot | hdigit
        · exact absurd hdot (by decide)
        · exact absurd hdigit (by decide)
      have hpercent : '%' ∉ (formatV6 value).toList := fun hmem => ((mem_formatV6 value).2 _ hmem).1 rfl
      rw [parse, if_neg hslash, hv4, format_v6]
      cases scope with
      | none =>
          simp [partition_of_not_mem hpercent, parseV6_formatV6 h.value]
      | some scope =>
          obtain ⟨-, hempty, hscope, -⟩ := h.scope scope rfl
          have hpartition := @partition_append '%' (formatV6 value) scope hpercent
          rw [String.append_assoc] at hpartition
          have hsep : String.ofList ['%'] = "%" := rfl
          rw [hsep] at hpartition
          simp [hpartition, parseV6_formatV6 h.value, hempty, hscope]

end IpAddress

/-! ### Networks -/

namespace IpNetwork

theorem parsePrefixlen_toString {version : IpVersion} {prefixlen : Nat}
    (h : prefixlen ≤ version.bits) : parsePrefixlen version (toString prefixlen) = some prefixlen := by
  have hbits : version.bits ≤ 128 := by cases version <;> decide
  rw [parsePrefixlen, IpAddress.decimal_toString]
  simp [h]

/-- A network without host bits is read as it was written; the scope of its address is lost. -/
theorem parse_format {address : IpAddress} (h : address.Valid) {prefixlen : Nat}
    (hprefixlen : prefixlen ≤ address.version.bits)
    (hmask : mask address.version prefixlen address.value = address.value) :
    parse (address.format ++ "/" ++ toString prefixlen) =
      .ok ⟨address.version, address.value, prefixlen⟩ := by
  have hdigits : '/' ∉ (toString prefixlen : String).toList := by
    intro hslash
    have hbits : address.version.bits ≤ 128 := by cases address.version <;> decide
    exact absurd (IpAddress.isDigit_toString hslash) (by decide)
  have hlength := parsePrefixlen_toString hprefixlen
  generalize (toString prefixlen : String) = length at hdigits hlength ⊢
  have hsplit : splitOn '/' (address.format ++ "/" ++ length) = [address.format, length] := by
    have hjoin := @splitOn_join '/' [address.format, length] (by simp)
      (by simpa using ⟨IpAddress.not_slash_mem_format h, hdigits⟩)
    rw [join_cons (by simp)] at hjoin
    simpa [join] using hjoin
  have hparts : ∀ version, parseParts version address.format length =
      if address.version = version then some (address.value, prefixlen) else none := by
    intro version
    simp only [parseParts, IpAddress.parse_format h]
    by_cases hversion : address.version = version
    · subst hversion
      simp [hlength]
    · simp [hversion]
  unfold parse
  rw [hsplit]
  dsimp only
  rw [hparts, hparts]
  cases hversion : address.version with
  | v4 =>
      rw [hversion] at hmask
      simp [hmask]
  | v6 =>
      rw [hversion] at hmask
      simp [hmask]

theorem mask_mask (version : IpVersion) (prefixlen value : Nat) :
    mask version prefixlen (mask version prefixlen value) = mask version prefixlen value := by
  unfold mask
  rw [Nat.mul_div_cancel _ (Nat.two_pow_pos _)]

theorem parseParts_eq_some {version : IpVersion} {address length : String} {value prefixlen : Nat}
    (h : parseParts version address length = some (value, prefixlen)) :
    ∃ parsed, IpAddress.parse address = some parsed ∧ parsed.version = version ∧
      parsed.value = value ∧ prefixlen ≤ version.bits := by
  unfold parseParts at h
  obtain ⟨parsed, hparsed, h⟩ := Option.bind_eq_some_iff.mp h
  by_cases hversion : parsed.version = version
  · simp only [hversion, ne_eq, not_true_eq_false, if_false] at h
    cases hnumber : parsePrefixlen version length with
    | some number =>
        rw [hnumber] at h
        cases h
        obtain ⟨read, -, hread⟩ := Option.bind_eq_some_iff.mp hnumber
        split at hread
        · next hle =>
            cases hread
            exact ⟨parsed, hparsed, hversion, rfl, hle⟩
        · cases hread
    | none =>
        rw [hnumber] at h
        dsimp only at h
        split at h
        · next hv4 =>
            obtain ⟨found, hfound, h⟩ := Option.bind_eq_some_iff.mp h
            cases h
            -- a mask is that of a length up to 32
            obtain ⟨netmask, -, hmask⟩ := Option.bind_eq_some_iff.mp hfound
            have hrange : prefixlen ∈ List.range 33 := by
              dsimp only at hmask
              split at hmask
              · next hnetmask =>
                  cases hmask
                  exact List.mem_of_find?_eq_some hnetmask
              · exact List.mem_of_find?_eq_some hmask
            rw [List.mem_range] at hrange
            rw [hv4] at hversion ⊢
            exact ⟨parsed, hparsed, hversion, rfl, Nat.le_of_lt_succ hrange⟩
        · cases h
  · simp [hversion] at h

/-- A text with a slash is read as an address without host bits. -/
theorem parseLoose_eq_some {s : String} {address : IpAddress} {prefixlen : Nat}
    (h : parseLoose s = some (address, prefixlen)) :
    address.Valid ∧ prefixlen ≤ address.version.bits ∧
      mask address.version prefixlen address.value = address.value := by
  have hloose : ∀ {version text length}, looseParts version text length = some (address, prefixlen) →
      address.Valid ∧ prefixlen ≤ address.version.bits ∧
        mask address.version prefixlen address.value = address.value := by
    intro version text length h
    obtain ⟨⟨value, found⟩, hparts, h⟩ := Option.bind_eq_some_iff.mp h
    obtain ⟨parsed, hparsed, rfl, rfl, hle⟩ := parseParts_eq_some hparts
    obtain ⟨read, hread, h⟩ := Option.bind_eq_some_iff.mp h
    cases hparsed.symm.trans hread
    have hvalid := IpAddress.valid_of_parse hparsed
    obtain ⟨haddress, rfl⟩ := Prod.mk.inj (Option.some.inj h)
    split at haddress
    · next hmask =>
        subst haddress
        exact ⟨hvalid, hle, hmask⟩
    · subst haddress
      refine ⟨⟨Nat.lt_of_le_of_lt (Nat.div_mul_le_self _ _) hvalid.value, by simp⟩, hle, ?_⟩
      exact mask_mask _ _ _
  unfold parseLoose at h
  split at h
  · next address' length _ =>
      cases hfirst : looseParts .v4 address' length with
      | some found =>
          rw [hfirst] at h
          cases h
          exact hloose hfirst
      | none =>
          rw [hfirst] at h
          exact hloose h
  · cases h

end IpNetwork

end Py
