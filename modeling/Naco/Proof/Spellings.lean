import Naco.Proof.Attributes
import Naco.Routes.Policies

/-!
# Names that the dictionary respells

The dictionary knows a name in any mixture of cases, and the result has it in one spelling. Of the names
of a mapping that are respelled alike only the last has an entry in the result, so what the others gave
is there only if that one gives it again.
-/

namespace Naco

open Py

def ReplyEntry.values : ReplyEntry → List ReplyValue
  | .one value => [value]
  | .many values => values

/-- The values given under a name: the items of a list, or the one value. -/
def givenValues : Json → List Json
  | .arr items => items
  | value => [value]

theorem toJson_of_checkValue {name : String} {raw : Json} {value : ReplyValue}
    (h : checkValue name raw = .ok value) : value.toJson = raw := by
  cases raw with
  | int n =>
      simp only [checkValue] at h
      split at h
      · next hrange =>
          cases h
          rw [ReplyValue.toJson, Int.toNat_of_nonneg hrange.1]
      · cases h
  | str s =>
      simp only [checkValue] at h
      split at h
      · cases h
      split at h
      · cases h
      split at h
      · cases h
      cases h
      rfl
  | _ => cases h

theorem map_toJson_of_mapM {name : String} {raws : List Json} {values : List ReplyValue}
    (h : raws.mapM (checkValue name) = .ok values) : values.map (·.toJson) = raws := by
  have hpairs := mapM_eq_ok_iff.mp h
  clear h
  induction hpairs with
  | nil => rfl
  | cons hhead _ ih => rw [List.map_cons, toJson_of_checkValue hhead, ih]

theorem values_of_checkEntry {name : String} {value : Json} {entry : ReplyEntry}
    (h : checkEntry name value = .ok entry) : entry.values.map (·.toJson) = givenValues value := by
  cases value with
  | arr items =>
      simp only [checkEntry] at h
      split at h
      · obtain ⟨values, hvalues, h⟩ := bind_eq_ok_iff.mp h
        cases h
        exact map_toJson_of_mapM hvalues
      · cases h
  | _ =>
      simp only [checkEntry] at h
      obtain ⟨checked, hchecked, h⟩ := bind_eq_ok_iff.mp h
      cases h
      rw [ReplyEntry.values, List.map_singleton, toJson_of_checkValue hchecked]
      rfl

/-- The result has, under the dictionary's spelling of the names, exactly the values of the mapping. -/
def KeepsAll (dictionary : RadiusDictionary) (members : List (String × Json))
    (attributes : ReplyAttributes) : Prop :=
  ∀ name value,
    (∃ kept ∈ attributes, kept.1 = name ∧ value ∈ kept.2.values.map (·.toJson)) ↔
      ∃ entry ∈ Json.entries members, dictionary.spelling (lower entry.1) = some name ∧
        value ∈ givenValues entry.2

/-- What a name gives is given again by the last name that differs from it in case only. -/
def LastGivesAll (members : List (String × Json)) : Prop :=
  ∀ before last after, Json.entries members = before ++ last :: after →
    (∀ later ∈ after, lower later.1 ≠ lower last.1) →
    ∀ entry ∈ before, lower entry.1 = lower last.1 → givenValues entry.2 ⊆ givenValues last.2

section

variable {dictionary : RadiusDictionary}

/-- What became of one entry of the mapping. -/
structure Respelled (dictionary : RadiusDictionary) (entry : String × Json)
    (kept : String × ReplyEntry) : Prop where
  spelling : dictionary.spelling (lower entry.1) = some kept.1
  values : kept.2.values.map (·.toJson) = givenValues entry.2

theorem respelled_of_checkAttribute {entry : String × Json} {kept : String × ReplyEntry}
    (h : checkAttribute (some dictionary) entry.1 entry.2 = .ok kept) :
    Respelled dictionary entry kept := by
  obtain ⟨-, -, hnamed, hvalue⟩ := checkAttribute_eq_ok_iff.mp h
  refine ⟨?_, values_of_checkEntry hvalue⟩
  simp only [keptName, known] at hnamed
  split at hnamed
  · next spelled hspelled => rw [hspelled, Except.ok.inj hnamed]
  · cases hnamed

/-- Two names are respelled alike exactly when they differ in case only. -/
theorem Respelled.name_eq_iff (hfile : dictionary.OfFile) {entry other : String × Json}
    {kept kept' : String × ReplyEntry} (h : Respelled dictionary entry kept)
    (h' : Respelled dictionary other kept') : kept.1 = kept'.1 ↔ lower entry.1 = lower other.1 := by
  constructor
  · intro heq
    rw [← (spelling_of_ofFile hfile h.spelling).1, ← (spelling_of_ofFile hfile h'.spelling).1, heq]
  · intro heq
    have hsame := h.spelling
    rw [heq, h'.spelling] at hsame
    exact (Option.some.inj hsame).symm

variable {entries : List (String × Json)} {checked : List (String × ReplyEntry)}

/-- An entry of the result is what became of the last name that is respelled so. -/
theorem exists_last_of_mem (hfile : dictionary.OfFile)
    (h : List.Forall₂ (Respelled dictionary) entries checked) {kept : String × ReplyEntry}
    (hkept : kept ∈ (updateWith Dict.empty checked).items) :
    ∃ before last after, entries = before ++ last :: after ∧ Respelled dictionary last kept ∧
      ∀ later ∈ after, lower later.1 ≠ lower last.1 := by
  obtain ⟨checkedBefore, checkedAfter, rfl, hlast⟩ := Dict.mem_items_foldl_set_iff.mp hkept
  obtain ⟨before, last, after, rfl, -, hrespelled, hafter⟩ := forall₂_split h
  refine ⟨before, last, after, rfl, hrespelled, fun later hmem heq => ?_⟩
  obtain ⟨result, hresult, hlater⟩ := forall₂_mem_left hafter hmem
  exact hlast result hresult ((hlater.name_eq_iff hfile hrespelled).mpr heq)

/-- The last of the names that are respelled alike has its entry in the result. -/
theorem exists_mem_of_last (hfile : dictionary.OfFile) {before after : List (String × Json)}
    {last : String × Json}
    (h : List.Forall₂ (Respelled dictionary) (before ++ last :: after) checked)
    (hlast : ∀ later ∈ after, lower later.1 ≠ lower last.1) :
    ∃ kept ∈ (updateWith Dict.empty checked).items, Respelled dictionary last kept := by
  obtain ⟨checkedBefore, kept, checkedAfter, rfl, -, hrespelled, hafter⟩ := forall₂_split h.flip
  refine ⟨kept, Dict.mem_items_foldl_set_iff.mpr ⟨checkedBefore, checkedAfter, rfl, ?_⟩, hrespelled⟩
  intro result hresult heq
  obtain ⟨later, hmem, hlater⟩ := forall₂_mem_left hafter hresult
  exact hlast later hmem ((Respelled.name_eq_iff hfile hlater hrespelled).mp heq)

end

/-- Everything that is given is kept exactly when the last of the names that differ in case only gives
all that the others give. -/
theorem attributes_kept_iff {members : List (String × Json)} {dictionary : RadiusDictionary}
    {attributes : ReplyAttributes} (hfile : dictionary.OfFile)
    (h : validateReplyAttributes (.obj members) (some dictionary) = .ok attributes) :
    KeepsAll dictionary members attributes ↔ LastGivesAll members := by
  obtain ⟨-, checked, hchecked, rfl⟩ := validateReplyAttributes_obj_iff.mp h
  have hrespelled : List.Forall₂ (Respelled dictionary) (Json.entries members) checked :=
    hchecked.imp fun _ _ => respelled_of_checkAttribute
  constructor
  · intro hkeeps before last after hsplit hlast entry hentry hlower value hvalue
    rw [hsplit] at hrespelled
    obtain ⟨kept, hkept, hof⟩ := exists_mem_of_last hfile hrespelled hlast
    have hspelling : dictionary.spelling (lower entry.1) = some kept.1 := hlower ▸ hof.spelling
    obtain ⟨found, hfound, hname, hmem⟩ := (hkeeps kept.1 value).mpr
      ⟨entry, by rw [hsplit]; exact List.mem_append_left _ hentry, hspelling, hvalue⟩
    have hsame : found.2 = kept.2 := by
      have hget := Dict.get?_eq_some_iff.mpr hfound
      rw [hname, Dict.get?_eq_some_iff.mpr hkept] at hget
      exact (Option.some.inj hget).symm
    rw [← hof.values, ← hsame]
    exact hmem
  · intro hlast name value
    constructor
    · rintro ⟨kept, hkept, rfl, hvalue⟩
      obtain ⟨before, last, after, hsplit, hof, -⟩ := exists_last_of_mem hfile hrespelled hkept
      exact ⟨last, by rw [hsplit]; simp, hof.spelling, hof.values ▸ hvalue⟩
    · rintro ⟨entry, hentry, hspelling, hvalue⟩
      obtain ⟨result, hresult, hof⟩ := forall₂_mem_left hrespelled hentry
      obtain ⟨carried, hcarried⟩ := exists_mem_updateWith hresult
      have hname : result.1 = name := by
        rw [hof.spelling] at hspelling
        exact Option.some.inj hspelling
      obtain ⟨before, last, after, hsplit, hlastOf, hnone⟩ :=
        exists_last_of_mem hfile hrespelled hcarried
      have hlower : lower entry.1 = lower last.1 := (hof.name_eq_iff hfile hlastOf).mp rfl
      refine ⟨_, hcarried, hname, ?_⟩
      rw [hlastOf.values]
      rw [hsplit] at hentry
      rcases List.mem_append.mp hentry with hbefore | hentry
      · exact hlast before last after hsplit hnone entry hbefore hlower hvalue
      · rcases List.mem_cons.mp hentry with rfl | hafter
        · exact hvalue
        · exact absurd hlower (hnone entry hafter)

/-- A dictionary of two names. -/
def filterDictionary : RadiusDictionary :=
  .ofNames ["Filter-Id", "Reply-Message"] fun _ => none

theorem ofFile_filterDictionary : filterDictionary.OfFile :=
  ⟨_, _, rfl, by decide +kernel⟩

def filterAndMessage : List (String × Json) :=
  [("filter-id", .str "staff"), ("REPLY-MESSAGE", .arr [.str "welcome", .str "bye"])]

theorem attributes_kept_filterAndMessage :
    KeepsAll filterDictionary filterAndMessage
      [("Filter-Id", .one (.text "staff")),
        ("Reply-Message", .many [.text "welcome", .text "bye"])] := by
  refine (attributes_kept_iff ofFile_filterDictionary ?_).mpr ?_
  · decide +kernel
  · intro before last after hsplit hlast entry hentry hlower
    rw [show Json.entries filterAndMessage = filterAndMessage from rfl] at hsplit
    cases before with
    | nil => cases hentry
    | cons first before =>
        cases before with
        | nil =>
            obtain ⟨rfl, hrest⟩ := List.cons.inj hsplit
            obtain ⟨rfl, -⟩ := List.cons.inj hrest
            rw [List.mem_singleton.mp hentry] at hlower
            exact absurd hlower (by decide +kernel)
        | cons second before => simp [filterAndMessage] at hsplit

/-- Of two names that differ in case only, the first is forgotten. -/
theorem attribute_lost :
    ¬ ∀ (members : List (String × Json)) (dictionary : RadiusDictionary)
        (attributes : ReplyAttributes), dictionary.OfFile →
      validateReplyAttributes (.obj members) (some dictionary) = .ok attributes →
        KeepsAll dictionary members attributes := by
  intro hall
  let members : List (String × Json) := [("Filter-Id", .str "staff"), ("filter-id", .str "guests")]
  have hkeeps := hall members filterDictionary [("Filter-Id", .one (.text "guests"))]
    ofFile_filterDictionary (by decide +kernel)
  obtain ⟨kept, hkept, -, hvalue⟩ := (hkeeps "Filter-Id" (.str "staff")).mpr
    ⟨("Filter-Id", .str "staff"), List.mem_cons_self, by decide +kernel, List.mem_singleton.mpr rfl⟩
  rw [List.mem_singleton.mp hkept] at hvalue
  simp [ReplyEntry.values, ReplyValue.toJson] at hvalue

end Naco
