import Naco.Secrets

/-!
# Spellings of the master key

A key may be given in three alphabets, and the decoders read each other's: each drops or takes what it was
not made for. What counts is the number of bytes that comes out. A decoder yields three bytes for four
characters that it takes, so it makes less of a text of which it drops something, and more of hex digits.
-/

namespace Naco

open Py

/-! ### Characters that are taken -/

/-- The characters that a decoder takes. -/
def sextets (cs : List Char) : Nat :=
  cs.countP fun c => (sextet c).isSome

/-- The characters that a group lacks. -/
def lacking (group : Group64) : Nat :=
  (4 - group.read) % 4

/-- One more character, and the byte that it may complete. -/
theorem lacking_push {group : Group64} (hread : group.read < 4) (value : Nat) :
    (group.push value).2.read < 4 ∧
      4 * (group.push value).1.length + lacking (group.push value).2 = lacking group + 3 := by
  obtain ⟨read, left, pads, padded⟩ := group
  match read, hread with
  | 0, _ => simp [Group64.push, lacking]
  | 1, _ => simp [Group64.push, lacking]
  | 2, _ => simp [Group64.push, lacking]
  | 3, _ => simp [Group64.push, lacking]

/-- Three bytes at most come out for four characters that are taken. -/
theorem length_decodeGroups {cs : List Char} {group : Group64} {raw : Bytes} (hread : group.read < 4)
    (h : decodeGroups false group cs = .ok raw) : 4 * raw.length ≤ 3 * sextets cs + lacking group := by
  induction cs generalizing group raw with
  | nil =>
      rw [decodeGroups] at h
      split at h
      · obtain rfl := Except.ok.inj h
        exact Nat.zero_le _
      · split at h <;> cases h
  | cons c cs ih =>
      have hkept : sextets cs ≤ sextets (c :: cs) := (List.sublist_cons_self c cs).countP_le
      rw [decodeGroups] at h
      split at h
      · -- padding ends the text or is passed over
        have hpassed (pads : Nat) (h : decodeGroups false { group with pads, padded := true } cs = .ok raw) :
            4 * raw.length ≤ 3 * sextets (c :: cs) + lacking group := by
          have hlength := @ih { group with pads, padded := true } raw hread h
          exact hlength.trans (Nat.add_le_add_right (Nat.mul_le_mul_left 3 hkept) _)
        split at h
        · rw [if_neg (by simp)] at h
          obtain rfl := Except.ok.inj h
          exact Nat.zero_le _
        · split at h
          · exact hpassed _ h
          · exact hpassed _ h
      · cases hsextet : sextet c with
        | none =>
            rw [hsextet] at h
            have hlength := ih hread h
            omega
        | some value =>
            rw [hsextet] at h
            dsimp only at h
            rw [if_neg (by simp)] at h
            cases hlater : decodeGroups false (group.push value).2 cs with
            | error error => rw [hlater] at h; cases h
            | ok later =>
                rw [hlater] at h
                obtain rfl : (group.push value).1 ++ later = raw := Except.ok.inj h
                obtain ⟨hread', hlack⟩ := lacking_push hread value
                have hlength := ih hread' hlater
                have hcount : sextets (c :: cs) = sextets cs + 1 := by
                  rw [sextets, List.countP_cons_of_pos (by rw [hsextet]; rfl), sextets]
                rw [List.length_append]
                omega

/-- Just three bytes come out for four characters, where all of them are taken. -/
theorem length_decodeGroups_eq {cs : List Char} {group : Group64} {raw : Bytes} (hread : group.read < 4)
    (hall : ∀ c ∈ cs, (sextet c).isSome ∧ c ≠ '=') (h : decodeGroups false group cs = .ok raw) :
    4 * raw.length = 3 * cs.length + lacking group := by
  induction cs generalizing group raw with
  | nil =>
      rw [decodeGroups] at h
      split at h
      · next hzero =>
          obtain rfl := Except.ok.inj h
          rw [lacking, hzero]
          rfl
      · split at h <;> cases h
  | cons c cs ih =>
      obtain ⟨⟨hsome, hpad⟩, hrest⟩ := List.forall_mem_cons.mp hall
      obtain ⟨value, hvalue⟩ := Option.isSome_iff_exists.mp hsome
      rw [decodeGroups, if_neg hpad, hvalue] at h
      dsimp only at h
      rw [if_neg (by simp)] at h
      cases hlater : decodeGroups false (group.push value).2 cs with
      | error error => rw [hlater] at h; cases h
      | ok later =>
          rw [hlater] at h
          obtain rfl : (group.push value).1 ++ later = raw := Except.ok.inj h
          obtain ⟨hread', hlack⟩ := lacking_push hread value
          have hlength := ih hread' hrest hlater
          rw [List.length_append, List.length_cons]
          omega

theorem b64decode_ascii {cs : List Char} (h : ∀ c ∈ cs, isAscii c = true) :
    b64decode (String.ofList cs) false = decodeGroups false {} cs := by
  have hascii : isAsciiText (String.ofList cs) = true := by
    rw [isAsciiText, String.toList_ofList, List.all_eq_true]
    exact h
  rw [b64decode, hascii, if_neg (by simp), if_neg (by simp), String.toList_ofList]

/-! ### The URL-safe alphabet -/

/-- The character that the URL-safe decoder reads for one. -/
def standardChar (c : Char) : Char :=
  if c = '-' then '+' else if c = '_' then '/' else c

theorem urlsafeB64decode_eq (cs : List Char) :
    urlsafeB64decode (String.ofList cs) = b64decode (String.ofList (cs.map standardChar)) false := by
  rw [urlsafeB64decode, String.toList_ofList]
  congr 3
  funext c
  unfold standardChar
  split
  · rfl
  · rfl
  · next hminus hunderscore => rw [if_neg hminus, if_neg hunderscore]

theorem alphabet_chars : ∀ value < 64, base64Char value ≠ '-' ∧ base64Char value ≠ '_' ∧
    isAscii (urlsafeChar (base64Char value)) = true ∧ isSpace (urlsafeChar (base64Char value)) = false := by
  decide +kernel

theorem mem_written {raw : Bytes} {c : Char} (h : c ∈ encodeGroups (raw.map (·.toNat))) :
    (c ≠ '-' ∧ c ≠ '_') ∧ isAscii (urlsafeChar c) = true ∧ isSpace (urlsafeChar c) = false := by
  rcases mem_encodeGroups_iff byte_lt h with rfl | ⟨value, hlt, rfl⟩
  · decide
  · obtain ⟨hminus, hunderscore, hplain⟩ := alphabet_chars value hlt
    exact ⟨⟨hminus, hunderscore⟩, hplain⟩

theorem standardChar_urlsafeChar {c : Char} (h : c ≠ '-' ∧ c ≠ '_') : standardChar (urlsafeChar c) = c := by
  unfold urlsafeChar
  split
  · next hplus => rw [hplus]; rfl
  · split
    · next hslash => rw [hslash]; rfl
    · rw [standardChar, if_neg h.1, if_neg h.2]

theorem urlsafeB64decode_urlsafeB64encode (raw : Bytes) :
    urlsafeB64decode (urlsafeB64encode raw) = .ok raw := by
  have hback : (encodeGroups (raw.map (·.toNat))).map (standardChar ∘ urlsafeChar) =
      encodeGroups (raw.map (·.toNat)) := by
    refine (List.map_congr_left fun c hc => ?_).trans (List.map_id _)
    exact standardChar_urlsafeChar (mem_written hc).1
  rw [urlsafeB64encode, urlsafeB64decode_eq, List.map_map, hback]
  exact b64decode_b64encode raw false

/-- Two or three characters for what is left of a group of three bytes. -/
theorem sextets_encodeGroups {raw : List Nat} (hraw : ∀ byte ∈ raw, byte < 256) :
    sextets (encodeGroups raw) = (4 * raw.length + 2) / 3 := by
  have htaken {value : Nat} (h : value < 64) (cs : List Char) :
      sextets (base64Char value :: cs) = sextets cs + 1 := by
    rw [sextets, List.countP_cons_of_pos (by rw [(sextet_base64Char h).1]; rfl), sextets]
  induction raw using encodeGroups.induct with
  | case1 => rfl
  | case2 a =>
      have ha : a < 256 := hraw a (by simp)
      have hpad : sextets ['=', '='] = 0 := by decide
      rw [encodeGroups, htaken (by omega), htaken (by omega), hpad]
      simp only [List.length_cons, List.length_nil]
  | case3 a b =>
      have ha : a < 256 := hraw a (by simp)
      have hb : b < 256 := hraw b (by simp)
      have hpad : sextets ['='] = 0 := by decide
      rw [encodeGroups, htaken (by omega), htaken (by omega), htaken (by omega), hpad]
      simp only [List.length_cons, List.length_nil]
  | case4 a b c raw ih =>
      have ha : a < 256 := hraw a (by simp)
      have hb : b < 256 := hraw b (by simp)
      have hc : c < 256 := hraw c (by simp)
      rw [encodeGroups, htaken (by omega), htaken (by omega), htaken (by omega), htaken (by omega),
        ih fun byte hmem => hraw byte (by simp [hmem])]
      simp only [List.length_cons]
      omega

theorem sextets_cons (c : Char) (cs : List Char) :
    sextets (c :: cs) = sextets cs + if (sextet c).isSome then 1 else 0 :=
  List.countP_cons

/-- The standard decoder drops what only the other alphabet has. -/
theorem urlsafeChar_cases (c : Char) : urlsafeChar c = c ∨
    (sextet c).isSome = true ∧ (sextet (urlsafeChar c)).isSome = false := by
  unfold urlsafeChar
  split
  · next hplus => rw [hplus]; exact .inr (by decide)
  · split
    · next hslash => rw [hslash]; exact .inr (by decide)
    · exact .inl rfl

theorem sextets_urlsafe_le (cs : List Char) : sextets (cs.map urlsafeChar) ≤ sextets cs := by
  induction cs with
  | nil => exact le_rfl
  | cons c cs ih =>
      rw [List.map_cons, sextets_cons, sextets_cons]
      rcases urlsafeChar_cases c with hsame | ⟨htaken, hdropped⟩
      · rw [hsame]
        omega
      · rw [if_neg (by rw [hdropped]; nofun), if_pos htaken]
        omega

theorem sextets_urlsafe_lt {cs : List Char} (h : ∃ c ∈ cs, urlsafeChar c ≠ c) :
    sextets (cs.map urlsafeChar) < sextets cs := by
  induction cs with
  | nil =>
      obtain ⟨c, hc, -⟩ := h
      cases hc
  | cons c cs ih =>
      have hle := sextets_urlsafe_le cs
      rw [List.map_cons, sextets_cons, sextets_cons]
      rcases urlsafeChar_cases c with hsame | ⟨htaken, hdropped⟩
      · rw [hsame]
        obtain ⟨d, hd, hother⟩ := h
        rcases List.mem_cons.mp hd with rfl | hd
        · exact absurd hsame hother
        · have hlt := ih ⟨d, hd, hother⟩
          omega
      · rw [if_neg (by rw [hdropped]; nofun), if_pos htaken]
        omega

/-- The standard decoder reads the URL-safe text of a key as this key or as fewer bytes. -/
theorem b64decode_urlsafe (key : Key) {raw : Bytes}
    (h : b64decode (urlsafeB64encode key.val) false = .ok raw) (hlength : raw.length = 32) :
    raw = key.val := by
  by_cases hsame : ∀ c ∈ encodeGroups (key.val.map (·.toNat)), urlsafeChar c = c
  · have htext : urlsafeB64encode key.val = b64encode key.val := by
      rw [urlsafeB64encode, List.map_congr_left hsame, List.map_id', b64encode]
    rw [htext, b64decode_b64encode] at h
    exact (Except.ok.inj h).symm
  · simp only [not_forall] at hsame
    obtain ⟨c, hc, hother⟩ := hsame
    have hfewer := sextets_urlsafe_lt ⟨c, hc, hother⟩
    rw [sextets_encodeGroups byte_lt, List.length_map, key.property] at hfewer
    rw [urlsafeB64encode, b64decode_ascii] at h
    · have hbytes := length_decodeGroups (by decide) h
      change 4 * raw.length ≤ 3 * _ + 0 at hbytes
      omega
    · intro d hd
      obtain ⟨written, hwritten, rfl⟩ := List.mem_map.mp hd
      exact (mem_written hwritten).2.1

/-! ### Hex digits -/

/-- The digits of a value, in lower and in upper case. -/
def hexChars (value : Nat) : List Char :=
  ["0123456789abcdef".toList.getD value '0', "0123456789ABCDEF".toList.getD value '0']

/-- Two digits for each byte, in either case. -/
inductive SpelledHex : Bytes → List Char → Prop where
  | nil : SpelledHex [] []
  | cons {byte : UInt8} {raw : Bytes} {high low : Char} {cs : List Char}
      (hhigh : high ∈ hexChars (byte.toNat / 16)) (hlow : low ∈ hexChars (byte.toNat % 16))
      (hrest : SpelledHex raw cs) : SpelledHex (byte :: raw) (high :: low :: cs)

/-- A hex digit is a character of both alphabets. -/
theorem mem_hexChars : ∀ value < 16, ∀ c ∈ hexChars value,
    (hexDigit c = some value ∧ isHexSpace c = false) ∧
    ((sextet c).isSome = true ∧ c ≠ '=') ∧ standardChar c = c ∧ isAscii c = true ∧ isSpace c = false := by
  have hall : ∀ value < 16, ((hexChars value).all fun c => decide (
      (hexDigit c = some value ∧ isHexSpace c = false) ∧ ((sextet c).isSome = true ∧ c ≠ '=') ∧
        standardChar c = c ∧ isAscii c = true ∧ isSpace c = false)) = true := by
    decide +kernel
  exact fun value hvalue => forall_mem_of_all (hall value hvalue)

theorem SpelledHex.length {raw : Bytes} {cs : List Char} (h : SpelledHex raw cs) :
    cs.length = 2 * raw.length := by
  induction h with
  | nil => rfl
  | cons _ _ _ ih =>
      rw [List.length_cons, List.length_cons, List.length_cons, ih]
      omega

theorem SpelledHex.mem {raw : Bytes} {cs : List Char} (h : SpelledHex raw cs) :
    ∀ c ∈ cs, ((sextet c).isSome = true ∧ c ≠ '=') ∧ standardChar c = c ∧ isAscii c = true ∧
      isSpace c = false := by
  induction h with
  | nil => nofun
  | @cons byte _ _ _ _ hhigh hlow _ ih =>
      have hbyte := byte.toNat_lt
      rw [List.forall_mem_cons, List.forall_mem_cons]
      exact ⟨(mem_hexChars _ (by omega) _ hhigh).2, (mem_hexChars _ (by omega) _ hlow).2, ih⟩

theorem SpelledHex.fromHex {raw : Bytes} {cs : List Char} (h : SpelledHex raw cs) :
    fromHex cs = .ok raw := by
  induction h with
  | nil => rfl
  | @cons byte _ high low _ hhigh hlow _ ih =>
      have hbyte := byte.toNat_lt
      obtain ⟨⟨hfirst, hspace⟩, -⟩ := mem_hexChars _ (by omega) _ hhigh
      obtain ⟨⟨hsecond, -⟩, -⟩ := mem_hexChars _ (by omega) _ hlow
      have hvalue : UInt8.ofNat (byte.toNat / 16 * 16 + byte.toNat % 16) = byte := by
        rw [Nat.div_add_mod', UInt8.ofNat_toNat]
      rw [Py.fromHex, hspace, if_neg Bool.false_ne_true, hfirst, hsecond]
      dsimp only
      rw [ih, hvalue]
      rfl

/-- The base64 decoders read the hex digits of a key as another number of bytes. -/
theorem SpelledHex.b64decode {key : Key} {cs : List Char} (h : SpelledHex key.val cs) {raw : Bytes}
    (hdecode : b64decode (String.ofList cs) false = .ok raw) : raw.length ≠ 32 := by
  rw [b64decode_ascii fun c hc => (h.mem c hc).2.2.1] at hdecode
  have hlength := length_decodeGroups_eq (by decide) (fun c hc => (h.mem c hc).1) hdecode
  rw [h.length, key.property] at hlength
  change 4 * raw.length = 3 * 64 + 0 at hlength
  omega

theorem SpelledHex.urlsafeB64decode {key : Key} {cs : List Char} (h : SpelledHex key.val cs) {raw : Bytes}
    (hdecode : urlsafeB64decode (String.ofList cs) = .ok raw) : raw.length ≠ 32 := by
  have hsame : cs.map standardChar = cs :=
    (List.map_congr_left fun c hc => (h.mem c hc).2.1).trans (List.map_id cs)
  rw [urlsafeB64decode_eq, hsame] at hdecode
  exact h.b64decode hdecode

/-! ### The first key -/

/-- A decoder that yields no 32 bytes, or just these. -/
def OnlyKey (key : Key) (result : Except Error Bytes) : Prop :=
  ∀ raw, result = .ok raw → raw.length = 32 → raw = key.val

/-- Where the decoders yield no other key, the key is found. -/
theorem parseMasterKey_of_decoders {key : Key} {material : String}
    (hstandard : OnlyKey key (b64decode (strip material) false))
    (hurlsafe : OnlyKey key (urlsafeB64decode (strip material)))
    (hhex : OnlyKey key (fromHex (strip material).toList))
    (hsome : .ok key.val ∈ [b64decode (strip material) false, urlsafeB64decode (strip material),
      fromHex (strip material).toList]) : parseMasterKey material = .ok key := by
  have honly : ∀ result ∈ [b64decode (strip material) false, urlsafeB64decode (strip material),
      fromHex (strip material).toList], OnlyKey key result := by
    rw [List.forall_mem_cons, List.forall_mem_cons, List.forall_mem_singleton]
    exact ⟨hstandard, hurlsafe, hhex⟩
  unfold parseMasterKey
  dsimp only
  generalize [b64decode (strip material) false, urlsafeB64decode (strip material),
    fromHex (strip material).toList] = results at honly hsome ⊢
  have hmem : key.val ∈ results.filterMap Except.toOption :=
    List.mem_filterMap.mpr ⟨.ok key.val, hsome, rfl⟩
  have hkey : (results.filterMap Except.toOption).findSome? (fun raw =>
      if h : raw.length = 32 then some (⟨raw, h⟩ : Key) else none) = some key := by
    cases hfound : (results.filterMap Except.toOption).findSome? (fun raw =>
        if h : raw.length = 32 then some (⟨raw, h⟩ : Key) else none) with
    | none =>
        have hnone := List.findSome?_eq_none_iff.mp hfound key.val hmem
        rw [dif_pos key.property] at hnone
        cases hnone
    | some found =>
        obtain ⟨raw, hraw, hlength⟩ := List.exists_of_findSome?_eq_some hfound
        obtain ⟨result, hresult, htoOption⟩ := List.mem_filterMap.mp hraw
        split at hlength
        · next hbytes =>
            have hok : result = .ok raw := by
              cases result with
              | ok value => exact congrArg Except.ok (Option.some_inj.mp htoOption)
              | error error => cases htoOption
            have hsame := honly result hresult raw hok hbytes
            rw [← Option.some_inj.mp hlength, Option.some_inj]
            exact Subtype.ext hsame
        · cases hlength
  rw [hkey]

/-! ### Spellings -/

/-- What a key is written as. -/
inductive Spells (key : Key) : String → Prop where
  | standard : Spells key (b64encode key.val)
  | urlsafe : Spells key (urlsafeB64encode key.val)
  | hex {cs : List Char} (h : SpelledHex key.val cs) : Spells key (String.ofList cs)

theorem stripChars_surrounded {before cs after : List Char} (hbefore : ∀ c ∈ before, isSpace c = true)
    (hafter : ∀ c ∈ after, isSpace c = true) (hcs : ∀ c ∈ cs, isSpace c = false) :
    stripChars (before ++ cs ++ after) = cs := by
  have hkeep : ∀ cs : List Char, (∀ c ∈ cs, isSpace c = false) → cs.dropWhile isSpace = cs := by
    intro cs hcs
    rw [List.dropWhile_eq_self_iff]
    intro hpos
    rw [hcs _ (List.getElem_mem hpos)]
    exact Bool.false_ne_true
  have hdrop (cs more : List Char) (hcs : ∀ c ∈ cs, isSpace c = true) :
      (cs ++ more).dropWhile isSpace = more.dropWhile isSpace :=
    List.dropWhile_append_of_pos hcs
  have hall : ∀ c ∈ after.reverse, isSpace c = true := fun c hc => hafter c (List.mem_reverse.mp hc)
  cases cs with
  | nil =>
      have hspace : ∀ c ∈ before ++ [] ++ after, isSpace c = true := by
        rw [List.append_nil, List.forall_mem_append]
        exact ⟨hbefore, hafter⟩
      rw [stripChars, List.dropWhile_eq_nil_iff.mpr hspace]
      rfl
  | cons c cs =>
      have hfirst : (c :: cs ++ after).dropWhile isSpace = c :: cs ++ after := by
        rw [List.cons_append, List.dropWhile_cons_of_neg (by simp [hcs c List.mem_cons_self])]
      rw [stripChars, List.append_assoc, hdrop _ _ hbefore, hfirst, List.reverse_append, hdrop _ _ hall,
        hkeep _ fun d hd => hcs d (List.mem_reverse.mp hd), List.reverse_reverse]

/-- A spelling has no whitespace. -/
theorem Spells.noSpace {key : Key} {spelling : String} (h : Spells key spelling) :
    ∀ c ∈ spelling.toList, isSpace c = false := by
  cases h with
  | standard =>
      intro c hc
      rw [b64encode, String.toList_ofList] at hc
      exact (mem_encodeGroups byte_lt hc).2
  | urlsafe =>
      intro c hc
      rw [urlsafeB64encode, String.toList_ofList] at hc
      obtain ⟨written, hwritten, rfl⟩ := List.mem_map.mp hc
      exact (mem_written hwritten).2.2
  | hex h =>
      intro c hc
      rw [String.toList_ofList] at hc
      exact (h.mem c hc).2.2.2

theorem onlyKey_ok (key : Key) : OnlyKey key (.ok key.val) :=
  fun _ h _ => (Except.ok.inj h).symm

theorem length_fromHex {cs : List Char} {raw : Bytes} (h : fromHex cs = .ok raw) :
    2 * raw.length ≤ cs.length := by
  induction cs using fromHex.induct generalizing raw with
  | case1 =>
      obtain rfl := Except.ok.inj h
      exact Nat.zero_le _
  | case2 c hspace =>
      rw [fromHex, if_pos hspace] at h
      obtain rfl := Except.ok.inj h
      exact Nat.zero_le _
  | case3 c hspace =>
      rw [fromHex, if_neg hspace] at h
      cases h
  | case4 c d cs hspace ih =>
      rw [fromHex, if_pos hspace] at h
      exact (ih h).trans (Nat.le_succ _)
  | case5 c d cs hspace high low hhigh hlow ih =>
      rw [fromHex, if_neg hspace, hhigh, hlow] at h
      dsimp only at h
      cases hlater : fromHex cs with
      | error error => rw [hlater] at h; cases h
      | ok later =>
          rw [hlater] at h
          obtain rfl : UInt8.ofNat (high * 16 + low) :: later = raw := Except.ok.inj h
          have hlength := ih hlater
          rw [List.length_cons, List.length_cons, List.length_cons]
          omega
  | case6 c d cs hspace hdigits =>
      rw [fromHex, if_neg hspace] at h
      split at h
      · next high low hhigh hlow => exact absurd hlow (hdigits high low hhigh)
      · cases h

theorem length_encodeGroups (raw : List Nat) : (encodeGroups raw).length = 4 * ((raw.length + 2) / 3) := by
  induction raw using encodeGroups.induct with
  | case1 => rfl
  | case2 a => simp [encodeGroups]
  | case3 a b => simp [encodeGroups]
  | case4 a b c raw ih =>
      rw [encodeGroups]
      simp only [List.length_cons]
      omega

/-- A base64 text of a key is too short to be the hex digits of one. -/
theorem onlyKey_fromHex (key : Key) {cs : List Char} (h : cs.length = 44) : OnlyKey key (fromHex cs) := by
  intro raw hraw hlength
  have hle := length_fromHex hraw
  omega

theorem length_written (key : Key) : (encodeGroups (key.val.map (·.toNat))).length = 44 := by
  rw [length_encodeGroups, List.length_map, key.property]

/-- The URL-safe decoder reads the standard alphabet too. -/
theorem urlsafeB64decode_b64encode (raw : Bytes) : urlsafeB64decode (b64encode raw) = .ok raw := by
  have hsame : (encodeGroups (raw.map (·.toNat))).map standardChar = encodeGroups (raw.map (·.toNat)) := by
    refine (List.map_congr_left fun c hc => ?_).trans (List.map_id _)
    obtain ⟨⟨hminus, hunderscore⟩, -⟩ := mem_written hc
    rw [standardChar, if_neg hminus, if_neg hunderscore]
    rfl
  rw [b64encode, urlsafeB64decode_eq, hsame]
  exact b64decode_b64encode raw false

/-- Every spelling of a key is that key, whatever whitespace is around it; and only keys of 32 bytes are
accepted. -/
theorem parseMasterKey_spells :
    (∀ (key : Key) (spelling before after : String), Spells key spelling →
      (∀ c ∈ before.toList, isSpace c = true) → (∀ c ∈ after.toList, isSpace c = true) →
        parseMasterKey (before ++ spelling ++ after) = .ok key) ∧
    ∀ material key, parseMasterKey material = .ok key → key.val.length = 32 := by
  refine ⟨fun key spelling before after hspells hbefore hafter => ?_, fun _ key _ => key.property⟩
  have hstrip : strip (before ++ spelling ++ after) = spelling := by
    rw [strip, String.toList_append, String.toList_append,
      stripChars_surrounded hbefore hafter hspells.noSpace, String.ofList_toList]
  apply parseMasterKey_of_decoders
  all_goals rw [hstrip]
  all_goals clear hstrip
  · cases hspells with
    | standard => rw [b64decode_b64encode]; exact onlyKey_ok key
    | urlsafe => exact fun raw => b64decode_urlsafe key
    | hex h => exact fun raw hraw hlength => absurd hlength (h.b64decode hraw)
  · cases hspells with
    | standard => rw [urlsafeB64decode_b64encode]; exact onlyKey_ok key
    | urlsafe => rw [urlsafeB64decode_urlsafeB64encode]; exact onlyKey_ok key
    | hex h => exact fun raw hraw hlength => absurd hlength (h.urlsafeB64decode hraw)
  · cases hspells with
    | standard => rw [b64encode, String.toList_ofList]; exact onlyKey_fromHex key (length_written key)
    | urlsafe =>
        rw [urlsafeB64encode, String.toList_ofList]
        exact onlyKey_fromHex key ((List.length_map _).trans (length_written key))
    | hex h => rw [String.toList_ofList, h.fromHex]; exact onlyKey_ok key
  · cases hspells with
    | standard => simp [b64decode_b64encode]
    | urlsafe => simp [urlsafeB64decode_urlsafeB64encode]
    | hex h => simp [h.fromHex]

end Naco
