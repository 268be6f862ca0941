import Naco.Proof.Tacacs.CommandWords
import Naco.Routes.Users

/-!
# Service attributes

A line that is accepted is written in one way, and read again it gives the same service and pair. The pair
of a shell is never the privilege level: an attribute has no separator and no blank, so its name is read as
it was checked.
-/

namespace Naco.Tacacs

open Py

/-- What the groups of a line hold. -/
structure IsServiceLine (service attr : List Char) (separator : Char) (value : List Char) : Prop where
  service_ne : service ≠ []
  service_le : service.length ≤ 32
  isService : ∀ c ∈ service, isWordChar ['_', '.', '-'] c = true
  attr_ne : attr ≠ []
  attr_le : attr.length ≤ 64
  isAttr : ∀ c ∈ attr, isWordChar ['_', '.', ':', '-'] c = true
  isSeparator : separator = '=' ∨ separator = '*'
  stripped : stripChars value = value
  printable : value.all (fun c => ' ' ≤ c ∧ c ≤ '~') = true

/-- The line as it is stored. -/
def storedLine (service attr : List Char) (separator : Char) (value : List Char) : List Char :=
  service ++ ':' :: ' ' :: (attr ++ separator :: value)

/-! ### Words of a line -/

theorem wordChar_spec {others : List Char} (hothers : others ∈ [['_', '.', '-'], ['_', '.', ':', '-']])
    {c : Char} (h : isWordChar others c = true) : isSpace c = false ∧ isPairSeparator c = false := by
  have hrange : c.toNat < 128 := by
    rw [isWordChar, Bool.or_eq_true] at h
    rcases h with h | h
    · change ((decide (65 ≤ c.val ∧ c.val ≤ 90) || (decide (97 ≤ c.val) && decide (c.val ≤ 122))) ||
        (decide (48 ≤ c.val) && decide (c.val ≤ 57))) = true at h
      simp only [Bool.or_eq_true, Bool.and_eq_true, decide_eq_true_eq, UInt32.le_iff_toNat_le] at h
      change ((65 ≤ c.toNat ∧ c.toNat ≤ 90) ∨ (97 ≤ c.toNat ∧ c.toNat ≤ 122)) ∨
        (48 ≤ c.toNat ∧ c.toNat ≤ 57) at h
      omega
    · have hall : ∀ others ∈ [['_', '.', '-'], ['_', '.', ':', '-']],
          (others.all fun c => decide (c.toNat < 128)) = true := by
        decide
      exact forall_mem_of_all (hall others hothers) c (of_decide_eq_true h)
  have hall : ∀ others ∈ [['_', '.', '-'], ['_', '.', ':', '-']], ∀ n < 128,
      isWordChar others (Char.ofNat n) = true →
        isSpace (Char.ofNat n) = false ∧ isPairSeparator (Char.ofNat n) = false := by
    decide
  have hc := hall others hothers c.toNat hrange
  rw [Char.ofNat_toNat] at hc
  exact hc h

theorem takeWord_eq_some {others : List Char} {most : Nat} {cs word rest : List Char}
    (h : takeWord others most cs = some (word, rest)) :
    word ≠ [] ∧ word.length ≤ most ∧ ∀ c ∈ word, isWordChar others c = true := by
  simp only [takeWord] at h
  split at h
  · cases h
  · next hbounds =>
      obtain ⟨rfl, -⟩ := Prod.mk.inj (Option.some.inj h)
      rw [not_or, not_lt] at hbounds
      exact ⟨hbounds.1, hbounds.2, fun c hc => List.mem_takeWhile_imp hc⟩

theorem takeWord_append {others : List Char} {most : Nat} {word rest : List Char} {c : Char}
    (hword : ∀ c ∈ word, isWordChar others c = true) (hne : word ≠ []) (hle : word.length ≤ most)
    (hc : isWordChar others c = false) (hspace : isSpace c = false) :
    takeWord others most (word ++ c :: rest) = some (word, c :: rest) := by
  have htake : (word ++ c :: rest).takeWhile (isWordChar others) = word := by
    rw [List.takeWhile_append_of_pos hword, List.takeWhile_cons_of_neg (by simp [hc]), List.append_nil]
  simp only [takeWord, htake]
  rw [if_neg (by simp [hne, hle]), List.drop_left, List.dropWhile_cons_of_neg (by simp [hspace])]

theorem matchServiceAttribute_eq_some {line service attr value : String} {separator : Char}
    (h : matchServiceAttribute line = some (service, attr, separator, value)) :
    IsServiceLine service.toList attr.toList separator value.toList := by
  simp only [matchServiceAttribute] at h
  obtain ⟨⟨word, rest⟩, hservice, h⟩ := Option.bind_eq_some_iff.mp h
  obtain ⟨hword, hwordLe, hwordChars⟩ := takeWord_eq_some hservice
  dsimp only at h
  split at h
  case h_2 => cases h
  obtain ⟨⟨name, rest'⟩, hattr, h⟩ := Option.bind_eq_some_iff.mp h
  have hname := takeWord_eq_some hattr
  dsimp only at h
  split at h
  · cases h
  · next found tail =>
      split at h
      · next hvalid =>
          obtain ⟨rfl, rfl, rfl, rfl⟩ : service = String.ofList word ∧ attr = String.ofList name ∧
              separator = found ∧ value = String.ofList (stripChars tail) := by
            simpa [eq_comm] using h
          simp only [String.toList_ofList]
          exact ⟨hword, hwordLe, hwordChars, hname.1, hname.2.1, hname.2.2, hvalid.1, stripChars_stripChars tail,
            hvalid.2⟩
      · cases h

theorem dropWhile_of_word {others : List Char} (hothers : others ∈ [['_', '.', '-'], ['_', '.', ':', '-']])
    {word : List Char} (hne : word ≠ []) (hword : ∀ c ∈ word, isWordChar others c = true) (rest : List Char) :
    (word ++ rest).dropWhile isSpace = word ++ rest := by
  rw [dropWhile_eq_self_iff_head?, List.head?_append_of_ne_nil _ hne]
  exact fun c hc => (wordChar_spec hothers (hword c (List.mem_of_head? hc))).1

/-- The stored line is read as the same groups. -/
theorem matchServiceAttribute_stored {service attr value : List Char} {separator : Char}
    (h : IsServiceLine service attr separator value) :
    matchServiceAttribute (String.ofList (storedLine service attr separator value)) =
      some (String.ofList service, String.ofList attr, separator, String.ofList value) := by
  have hseparator : isWordChar ['_', '.', ':', '-'] separator = false ∧ isSpace separator = false := by
    rcases h.isSeparator with rfl | rfl <;> decide
  have hservice := @takeWord_append ['_', '.', '-'] 32 service (' ' :: (attr ++ separator :: value)) ':'
    h.isService h.service_ne h.service_le (by decide) (by decide)
  have hattr := @takeWord_append ['_', '.', ':', '-'] 64 attr value separator h.isAttr h.attr_ne h.attr_le
    hseparator.1 hseparator.2
  rw [matchServiceAttribute, String.toList_ofList, storedLine,
    dropWhile_of_word (by simp) h.service_ne h.isService, hservice]
  simp only [Option.bind_eq_bind, Option.bind_some]
  rw [List.dropWhile_cons_of_pos (by decide), dropWhile_of_word (by simp) h.attr_ne h.isAttr, hattr]
  simp only [Option.bind_some, h.stripped]
  rw [if_pos ⟨h.isSeparator, h.printable⟩]

/-! ### Lines -/

theorem parseServiceAttribute_eq_ok_iff {line service pair : String} :
    parseServiceAttribute line = .ok (service, pair) ↔
      ∃ attr separator value, matchServiceAttribute line = some (service, attr, separator, value) ∧
        pair = attr ++ String.singleton separator ++ value ∧ value ≠ "" ∧
        ¬(lower service = "shell" ∧ lower attr = "priv-lvl") ∧ encodedLength pair ≤ 255 := by
  rw [parseServiceAttribute]
  constructor
  · intro h
    split at h
    · cases h
    · next found attr separator value hmatch =>
        split at h
        · cases h
        · next hvalue =>
            split at h
            · cases h
            · next hlevel =>
                dsimp only at h
                split at h
                · cases h
                · next hlength =>
                    obtain ⟨rfl, rfl⟩ := Prod.mk.inj (Except.ok.inj h)
                    exact ⟨attr, separator, value, hmatch, rfl, hvalue, hlevel, not_lt.mp hlength⟩
  · rintro ⟨attr, separator, value, hmatch, rfl, hvalue, hlevel, hlength⟩
    simp only [hmatch]
    rw [if_neg hvalue, if_neg hlevel, if_neg (not_lt.mpr hlength)]

/-- A stored line gives what the submitted line gave. -/
theorem parseServiceAttribute_stored {line service pair : String}
    (h : parseServiceAttribute line = .ok (service, pair)) :
    parseServiceAttribute s!"{service}: {pair}" = .ok (service, pair) := by
  obtain ⟨attr, separator, value, hmatch, rfl, hvalue, hlevel, hlength⟩ :=
    parseServiceAttribute_eq_ok_iff.mp h
  refine parseServiceAttribute_eq_ok_iff.mpr ⟨attr, separator, value, ?_, rfl, hvalue, hlevel, hlength⟩
  have hstored := matchServiceAttribute_stored (matchServiceAttribute_eq_some hmatch)
  simp only [String.ofList_toList] at hstored
  rw [← hstored]
  refine congrArg matchServiceAttribute (String.toList_inj.mp ?_)
  rw [String.toList_ofList, storedLine]
  change (service ++ ": " ++ (attr ++ String.singleton separator ++ value)).toList = _
  simp [String.toList_append]

/-- The name of a pair is the attribute, as it was checked. -/
theorem valueOf_pair {line service pair : String} (h : parseServiceAttribute line = .ok (service, pair))
    (hshell : lower service = "shell") : valueOf "priv-lvl" pair = none := by
  obtain ⟨attr, separator, value, hmatch, rfl, -, hlevel, -⟩ := parseServiceAttribute_eq_ok_iff.mp h
  have hline := matchServiceAttribute_eq_some hmatch
  have hchars : ∀ c ∈ attr.toList, isSpace c = false ∧ isPairSeparator c = false :=
    fun c hc => wordChar_spec (by simp) (hline.isAttr c hc)
  have hseparator : isPairSeparator separator = true := by
    rcases hline.isSeparator with rfl | rfl <;> decide
  rw [@valueOf_of_name "priv-lvl" _ attr.toList value.toList separator
    (by simp [String.toList_append]) (fun c hc => (hchars c hc).2) hseparator, String.ofList_toList,
    strip_of_forall fun c hc => (hchars c hc).1, if_neg fun hattr => hlevel ⟨hshell, hattr⟩]

/-! ### Groups -/

theorem mapM_eq_ok {lines : List String} {pairs : List (String × String)}
    (h : lines.mapM parseServiceAttribute = .ok pairs) :
    (pairs.map fun (service, pair) => s!"{service}: {pair}").mapM parseServiceAttribute = .ok pairs ∧
      ∀ pair ∈ pairs, ∃ line, parseServiceAttribute line = .ok pair := by
  induction lines generalizing pairs with
  | nil =>
      cases h
      exact ⟨rfl, List.forall_mem_nil _⟩
  | cons line lines ih =>
      rw [List.mapM_cons] at h
      cases hline : parseServiceAttribute line with
      | error error =>
          rw [hline] at h
          cases h
      | ok pair =>
          cases hlines : lines.mapM parseServiceAttribute with
          | error error =>
              rw [hline, hlines] at h
              cases h
          | ok others =>
              rw [hline, hlines] at h
              cases h
              obtain ⟨hstored, hall⟩ := ih hlines
              refine ⟨?_, List.forall_mem_cons.mpr ⟨⟨line, hline⟩, hall⟩⟩
              rw [List.map_cons, List.mapM_cons, parseServiceAttribute_stored hline, hstored]
              rfl

theorem serviceAttributeLines_eq_ok {lines stored : List String}
    (h : serviceAttributeLines lines = .ok stored) :
    ∃ pairs, (lines.filter fun line => strip line ≠ "").mapM parseServiceAttribute = .ok pairs ∧
      stored = pairs.map fun (service, pair) => s!"{service}: {pair}" := by
  rw [serviceAttributeLines] at h
  cases hpairs : (lines.filter fun line => strip line ≠ "").mapM parseServiceAttribute with
  | error error =>
      rw [hpairs] at h
      cases h
  | ok pairs =>
      rw [hpairs] at h
      exact ⟨pairs, rfl, (Except.ok.inj h).symm⟩

theorem length_mapM {lines : List String} {pairs : List (String × String)}
    (h : lines.mapM parseServiceAttribute = .ok pairs) : pairs.length = lines.length := by
  induction lines generalizing pairs with
  | nil =>
      cases h
      rfl
  | cons line lines ih =>
      rw [List.mapM_cons] at h
      cases hline : parseServiceAttribute line with
      | error error =>
          rw [hline] at h
          cases h
      | ok pair =>
          cases hlines : lines.mapM parseServiceAttribute with
          | error error =>
              rw [hline, hlines] at h
              cases h
          | ok others =>
              rw [hline, hlines] at h
              cases h
              rw [List.length_cons, List.length_cons, ih hlines]

theorem serviceAttributes_stored {lines : List String} {pairs : List (String × String)}
    (h : lines.mapM parseServiceAttribute = .ok pairs) {user : UserInfo}
    (huser : user.deviceAdminAttributes = pairs.map fun (service, pair) => s!"{service}: {pair}")
    (service : String) :
    serviceAttributes user service =
      .ok ((pairs.filter fun pair => lower pair.1 = lower service).map (·.2)) := by
  rw [serviceAttributes, huser, (mapM_eq_ok h).1]
  rfl

/-- An author reply encodes if there are few arguments. -/
theorem exists_encode_author {args : List String} (h : args.length ≤ 255) :
    ∃ raw, Reply.encode (.author .passAdd args) = .ok raw := by
  have hlt : args.length < 256 := by omega
  obtain ⟨head, hpack⟩ : ∃ head, pack [(1, AuthorStatus.passAdd.code),
      (1, (args.map fun arg => (Py.encode arg).take 255).length), (2, 0), (2, 0)] = .ok head :=
    ⟨_, pack_eq_ok_iff.mpr ⟨by simp [AuthorStatus.code, hlt], rfl⟩⟩
  obtain ⟨lengths, hbytes⟩ : ∃ lengths,
      bytesOf ((args.map fun arg => (Py.encode arg).take 255).map List.length) = .ok lengths := by
    refine ⟨_, bytesOf_eq_ok_iff.mpr ⟨fun value hvalue => ?_, rfl⟩⟩
    obtain ⟨encoded, hencoded, rfl⟩ := List.mem_map.mp hvalue
    obtain ⟨arg, -, rfl⟩ := List.mem_map.mp hencoded
    have hle := List.length_take_le 255 (Py.encode arg)
    omega
  simp only [Reply.encode, hpack, hbytes]
  exact ⟨_, rfl⟩

/-! ### The start of a shell -/

theorem valueOf_level (level : Nat) : valueOf "priv-lvl" s!"priv-lvl={level}" = some (toString level) := by
  have hname : lower (strip (String.ofList "priv-lvl".toList)) = "priv-lvl" := by decide +kernel
  rw [@valueOf_of_name "priv-lvl" _ "priv-lvl".toList (toString level).toList '=' (by
    change ("priv-lvl=" ++ toString level).toList = _
    rw [String.toList_append]
    rfl) (forall_mem_of_all (by decide)) (by decide), if_pos hname, String.ofList_toList]

theorem encodedLength_level {level : Nat} (h : level ≤ 15) : encodedLength s!"priv-lvl={level}" ≤ 255 := by
  have hall : ∀ level < 16, encodedLength s!"priv-lvl={level}" ≤ 255 := by decide
  exact hall level (by omega)

/-- A group's lines are stored so that its members receive what was submitted, and the shell is told the
group's level and no other. -/
theorem service_attributes_survive (lines stored : List String) (hlength : lines.length ≤ 50)
    (haccepted : serviceAttributeLines lines = .ok stored) (row : User) (group : Group)
    (hstored : group.deviceAdminAttributes = stored)
    (hlevel : ∀ level ∈ group.deviceAdminPrivilege, 1 ≤ level ∧ level ≤ 15) :
    (∃ pairs, (lines.filter fun line => strip line ≠ "").mapM parseServiceAttribute = .ok pairs ∧
        ∀ service, serviceAttributes (UserInfo.ofRow row (some group)) service =
          .ok ((pairs.filter fun pair => lower pair.1 = lower service).map (·.2))) ∧
      ∀ level ∈ group.deviceAdminPrivilege, ∃ args,
        authorizeShell (UserInfo.ofRow row (some group)) =
            (do record; return .ok (.author .passAdd args)) ∧
          (∃ raw, Reply.encode (.author .passAdd args) = .ok raw) ∧ args.length ≤ 255 ∧
          (∀ arg ∈ args, encodedLength arg ≤ 255) ∧ valuesOf "priv-lvl" args = [toString level] := by
  obtain ⟨pairs, hpairs, rfl⟩ := serviceAttributeLines_eq_ok haccepted
  have hattributes := @serviceAttributes_stored _ _ hpairs (UserInfo.ofRow row (some group)) hstored
  refine ⟨⟨pairs, hpairs, hattributes⟩, fun level hgranted => ?_⟩
  have hshell : lower "shell" = "shell" := by decide +kernel
  have hcount : ((pairs.filter fun pair => lower pair.1 = lower "shell").map (·.2)).length ≤ 50 := by
    calc
      _ = (pairs.filter fun pair => lower pair.1 = lower "shell").length := List.length_map _
      _ ≤ pairs.length := List.length_filter_le _ _
      _ = (lines.filter fun line => strip line ≠ "").length := length_mapM hpairs
      _ ≤ lines.length := List.length_filter_le _ _
      _ ≤ 50 := hlength
  have hextra : ∀ arg ∈ (pairs.filter fun pair => lower pair.1 = lower "shell").map (·.2),
      encodedLength arg ≤ 255 ∧ valueOf "priv-lvl" arg = none := by
    intro arg harg
    obtain ⟨⟨service, pair⟩, hpair, rfl⟩ := List.mem_map.mp harg
    obtain ⟨hmem, hservice⟩ := List.mem_filter.mp hpair
    obtain ⟨line, hline⟩ := (mapM_eq_ok hpairs).2 _ hmem
    obtain ⟨-, -, -, -, -, -, -, hbytes⟩ := parseServiceAttribute_eq_ok_iff.mp hline
    exact ⟨hbytes, valueOf_pair hline ((of_decide_eq_true hservice).trans hshell)⟩
  refine ⟨s!"priv-lvl={level}" :: (pairs.filter fun pair => lower pair.1 = lower "shell").map (·.2), ?_,
    exists_encode_author ?_, ?_, ?_, ?_⟩
  · have hprivilege : (UserInfo.ofRow row (some group)).deviceAdminPrivilege = some level := hgranted
    rw [authorizeShell, hattributes "shell", hprivilege]
    rfl
  · rw [List.length_cons]
    omega
  · rw [List.length_cons]
    omega
  · exact List.forall_mem_cons.mpr ⟨encodedLength_level (hlevel level hgranted).2,
      fun arg harg => (hextra arg harg).1⟩
  · rw [valuesOf_cons, valueOf_level, valuesOf, List.filterMap_eq_nil_iff.mpr fun arg harg => (hextra arg harg).2]
    rfl

/-- A group with a line for Juniper and one for the shell. -/
theorem service_attributes_survive_junos :
    (∃ pairs, ([" Junos-Exec :local-user-name = ops ", "", "shell: roles*admin"].filter fun line =>
          strip line ≠ "").mapM parseServiceAttribute = .ok pairs ∧
        ∀ service, serviceAttributes (UserInfo.ofRow { id := 1, username := "ann" } (some
            { id := 1, name := "ops", deviceAdminPrivilege := some 15,
              deviceAdminAttributes := ["Junos-Exec: local-user-name=ops", "shell: roles*admin"] })) service =
          .ok ((pairs.filter fun pair => lower pair.1 = lower service).map (·.2))) ∧
      ∀ level ∈ some 15, ∃ args,
        authorizeShell (UserInfo.ofRow { id := 1, username := "ann" } (some
            { id := 1, name := "ops", deviceAdminPrivilege := some 15,
              deviceAdminAttributes := ["Junos-Exec: local-user-name=ops", "shell: roles*admin"] })) =
            (do record; return .ok (.author .passAdd args)) ∧
          (∃ raw, Reply.encode (.author .passAdd args) = .ok raw) ∧ args.length ≤ 255 ∧
          (∀ arg ∈ args, encodedLength arg ≤ 255) ∧ valuesOf "priv-lvl" args = [toString level] :=
  service_attributes_survive [" Junos-Exec :local-user-name = ops ", "", "shell: roles*admin"]
    ["Junos-Exec: local-user-name=ops", "shell: roles*admin"] (by decide) (by decide +kernel) _
    { id := 1, name := "ops", deviceAdminPrivilege := some 15,
      deviceAdminAttributes := ["Junos-Exec: local-user-name=ops", "shell: roles*admin"] } rfl
    (by simp)

end Naco.Tacacs
