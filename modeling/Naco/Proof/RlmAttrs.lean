import Naco.Proof.Rlm

/-!
# The texts of a request's attributes

What `Attrs.parse` keeps of a body, told on its document: under each name the texts of the last entry
with that name, each of them the UTF-8 of its bytes with U+FFFD in the place of what is not.
-/

namespace Naco.Rlm

open Py

/-! ### Attributes of a document -/

def Items.toList : Items → List Doc
  | .one _ item _ => [item]
  | .more _ item _ later => item :: later.toList

/-- The members of an object, in the order they are written. -/
def Members.toList : Members → List (CodePoints × Doc)
  | .one _ name _ _ value _ => [(nameOf name, value)]
  | .more _ name _ _ value _ later => (nameOf name, value) :: later.toList

/-- The member of a name that counts: the last one. -/
def lastMember (members : List (CodePoints × Doc)) (name : CodePoints) : Option Doc :=
  (members.reverse.find? fun member => member.1 = name).map (·.2)

/-- The bytes of a string, decoded with U+FFFD for what is not UTF-8. -/
def Doc.text? : Doc → Option String
  | .str text => some (decodeReplace (bytesOf text))
  | _ => none

def Doc.isOctets : Doc → Bool
  | .str kind => bytesOf kind = encode "octets"
  | _ => false

/-- What an attribute holds, unless it is one of octets or holds nothing. -/
def Doc.content : Doc → Option Doc
  | .emptyObj _ => none
  | .obj members =>
      if (lastMember members.toList (codePoints "type")).any Doc.isOctets then none
      else lastMember members.toList (codePoints "value")
  | entry => some entry

/-- A list, or one value by itself. -/
def Doc.items : Doc → List Doc
  | .arr items => items.toList
  | .emptyArr _ => []
  | content => [content]

/-- The texts of an attribute that is not one of octets. -/
def Doc.texts (entry : Doc) : Option (List String) :=
  entry.content.map fun content => content.items.filterMap Doc.text?

/-! ### The members that count -/

def meaningOf (member : CodePoints × Doc) : CodePoints × Value :=
  (member.1, member.2.value meanRaw)

/-- The members as a dictionary keeps them. -/
def Members.entries (members : Members) : List (CodePoints × Doc) :=
  members.toList.foldl (fun read member => JsonReader.setMember read member.1 member.2) []

theorem addTo_eq_map (members : Members) (read : List (CodePoints × Doc)) :
    members.addTo meanRaw (read.map meaningOf) =
      (members.toList.foldl (fun read member => JsonReader.setMember read member.1 member.2) read).map
        meaningOf := by
  cases members with
  | one before name colon space value after =>
      rw [Members.addTo, Members.toList, List.foldl_cons, List.foldl_nil]
      exact (JsonReader.map_setMember (fun doc => doc.value meanRaw) read (nameOf name) value).symm
  | more before name colon space value after later =>
      have hset := JsonReader.map_setMember (fun doc => doc.value meanRaw) read (nameOf name) value
      rw [Members.addTo, Members.toList, List.foldl_cons, ← addTo_eq_map later]
      exact congrArg (later.addTo meanRaw) hset.symm

theorem value_obj (members : Members) :
    (Doc.obj members).value meanRaw = .obj (members.entries.map meaningOf) := by
  rw [Doc.value, Members.entries, ← addTo_eq_map]
  rfl

section

variable {list : List (CodePoints × Doc)} {member : CodePoints × Doc} {name : CodePoints} {doc : Doc}

theorem lastMember_concat :
    lastMember (list ++ [member]) name =
      if name = member.1 then some member.2 else lastMember list name := by
  rw [lastMember, List.reverse_append, List.reverse_singleton, List.singleton_append, List.find?_cons]
  by_cases h : member.1 = name
  · simp [h]
  · simp [h, Ne.symm h, lastMember]

theorem nodup_entries (members : Members) : (members.entries.map Prod.fst).Nodup := by
  rw [Members.entries]
  induction members.toList using List.reverseRecOn with
  | nil => exact List.nodup_nil
  | append_singleton list member ih =>
      rw [List.foldl_append]
      exact JsonReader.nodup_setMember ih

theorem mem_entries_iff (members : Members) :
    (name, doc) ∈ members.entries ↔ lastMember members.toList name = some doc := by
  rw [Members.entries]
  induction members.toList using List.reverseRecOn with
  | nil => simp [lastMember]
  | append_singleton list member ih =>
      rw [List.foldl_append, List.foldl_cons, List.foldl_nil, JsonReader.mem_setMember, ih,
        lastMember_concat]
      by_cases hname : name = member.1
      · simp [hname, eq_comm]
      · simp [hname]

end

theorem getMember_entries (members : Members) (name : CodePoints) :
    JsonReader.getMember (members.entries.map meaningOf) name =
      (lastMember members.toList name).map fun doc => doc.value meanRaw := by
  have hkeys : ((members.entries.map meaningOf).map Prod.fst).Nodup := by
    rw [List.map_map]
    exact nodup_entries members
  ext value
  rw [JsonReader.getMember_eq_some_iff hkeys, List.mem_map, Option.map_eq_some_iff]
  constructor
  · rintro ⟨⟨found, doc⟩, hmem, hsame⟩
    obtain ⟨rfl, rfl⟩ := Prod.mk.inj hsame
    exact ⟨doc, (mem_entries_iff members).mp hmem, rfl⟩
  · rintro ⟨doc, hdoc, rfl⟩
    exact ⟨(name, doc), (mem_entries_iff members).mpr hdoc, rfl⟩

/-! ### Entries -/

section

variable (floatRepr : CodePoints → String)

theorem text_meanRaw (pieces : List Piece) :
    text (meanRaw pieces) = .ok (decodeReplace (bytesOf pieces)) := by
  rw [text, meanRaw, encodeEscaping_decodeEscaping]
  rfl

theorem meanRaw_eq_codePoints_iff (pieces : List Piece) :
    meanRaw pieces = codePoints "octets" ↔ bytesOf pieces = encode "octets" := by
  have hoctets : decodeEscaping (encode "octets") = codePoints "octets" := by decide +kernel
  rw [meanRaw, ← hoctets]
  exact decodeEscaping_injective.eq_iff

theorem texts_values (docs : List Doc) :
    texts floatRepr (docs.map fun doc => doc.value meanRaw) = .ok (docs.filterMap Doc.text?) := by
  induction docs with
  | nil => rfl
  | cons doc docs ih =>
      rw [texts] at ih ⊢
      cases doc with
      | str pieces =>
          have hstr : str? floatRepr ((Doc.str pieces).value meanRaw) = some (meanRaw pieces) := rfl
          have htext : (Doc.str pieces).text? = some (decodeReplace (bytesOf pieces)) := rfl
          rw [List.map_cons, List.filterMap_cons_some hstr, List.mapM_cons, text_meanRaw, ih,
            List.filterMap_cons_some htext]
          rfl
      | emptyArr gap => exact ih
      | arr items => exact ih
      | emptyObj gap => exact ih
      | obj members => exact ih

theorem values_eq_map (items : Items) :
    items.values meanRaw = items.toList.map fun doc => doc.value meanRaw := by
  cases items with
  | one before item after => rfl
  | more before item after later => rw [Items.values, values_eq_map later, Items.toList, List.map_cons]

theorem rawValue_value (entry : Doc) :
    rawValue (entry.value meanRaw) = entry.content.map fun doc => doc.value meanRaw := by
  cases entry with
  | str pieces => rfl
  | emptyArr gap => rfl
  | arr items => rfl
  | emptyObj gap => rfl
  | obj members =>
      rw [value_obj, rawValue, getMember_entries, getMember_entries, Doc.content]
      cases lastMember members.toList (codePoints "type") with
      | none => rfl
      | some kind =>
          cases kind with
          | str pieces =>
              by_cases hoctets : bytesOf pieces = encode "octets"
              · have hkind := (meanRaw_eq_codePoints_iff pieces).mpr hoctets
                simp [Doc.value, Doc.isOctets, hkind, hoctets]
              · have hkind := mt (meanRaw_eq_codePoints_iff pieces).mp hoctets
                simp [Doc.value, Doc.isOctets, hkind, hoctets]
          | emptyArr gap => rfl
          | arr items => rfl
          | emptyObj gap => rfl
          | obj members => rfl

theorem rawValues_value (entry : Doc) :
    rawValues (entry.value meanRaw) =
      entry.content.map fun content => content.items.map fun doc => doc.value meanRaw := by
  rw [rawValues, rawValue_value]
  cases entry.content with
  | none => rfl
  | some content =>
      cases content with
      | str pieces => rfl
      | emptyArr gap => rfl
      | arr items =>
          simp only [Option.map_some, Doc.value, Doc.items, values_eq_map]
      | emptyObj gap => rfl
      | obj members => rfl

theorem parseEntry_meaningOf (values : Dict CodePoints (List String)) (member : CodePoints × Doc) :
    parseEntry floatRepr values (meaningOf member) = .ok (match member.2.texts with
      | none => values
      | some texts => values.set member.1 texts) := by
  rw [parseEntry, meaningOf, rawValues_value, Doc.texts]
  cases member.2.content with
  | none => rfl
  | some content =>
      simp only [Option.map_some, texts_values]
      rfl

/-- The attributes that are kept, in order. -/
def kept (entries : List (CodePoints × Doc)) : List (CodePoints × List String) :=
  entries.filterMap fun member => member.2.texts.map fun texts => (member.1, texts)

theorem kept_cons (member : CodePoints × Doc) (entries : List (CodePoints × Doc)) :
    kept (member :: entries) =
      (member.2.texts.map fun texts => (member.1, texts)).toList ++ kept entries := by
  rw [kept, List.filterMap_cons]
  cases member.2.texts <;> rfl

theorem nodup_kept {entries : List (CodePoints × Doc)} (h : (entries.map Prod.fst).Nodup) :
    ((kept entries).map Prod.fst).Nodup := by
  have hsublist : ∀ entries, ((kept entries).map Prod.fst).Sublist (entries.map Prod.fst) := by
    intro entries
    induction entries with
    | nil => exact .slnil
    | cons member entries ih =>
        rw [kept_cons]
        cases member.2.texts with
        | none => exact .cons _ ih
        | some texts => exact .cons_cons _ ih
  exact h.sublist (hsublist entries)

theorem foldlM_parseEntry (entries : List (CodePoints × Doc)) (values : Dict CodePoints (List String)) :
    (entries.map meaningOf).foldlM (parseEntry floatRepr) values =
      .ok ((kept entries).foldl (fun values item => values.set item.1 item.2) values) := by
  induction entries generalizing values with
  | nil => rfl
  | cons member entries ih =>
      rw [List.map_cons, List.foldlM_cons, parseEntry_meaningOf]
      change (entries.map meaningOf).foldlM (parseEntry floatRepr) _ = _
      rw [ih, kept_cons]
      cases member.2.texts <;> rfl

/-- A JSON object is parsed into the kept texts, by lower-case names. -/
theorem parse_value_obj (members : Members) :
    ∃ attrs, Attrs.parse floatRepr ((Doc.obj members).value meanRaw) = .ok attrs ∧
      attrs.values = Dict.ofRows (fun item => lowerName item.1) (·.2) (kept members.entries) := by
  have hitems := @Dict.items_foldl_set _ _ _ (kept members.entries) .empty (nodup_kept (nodup_entries members))
  rw [value_obj, Attrs.parse, foldlM_parseEntry]
  refine ⟨_, rfl, ?_⟩
  rw [Attrs.ofValues, hitems]
  rfl

end

/-- On every CPU a body is read as one value, and the texts of its attributes are the UTF-8 of their
bytes. -/
theorem rlm_bodies_agree (floatRepr : CodePoints → String) (body : Body) :
    ∃ value, loads (body.written Piece.raw) = .ok value ∧
      loads (body.written Piece.escaped) = .ok value ∧
      ∀ members, body.doc = .obj members → ∃ attrs, Attrs.parse floatRepr value = .ok attrs ∧
        (∀ name texts, attrs.values.get? name = some texts →
          ∃ written entry, lastMember members.toList written = some entry ∧ lowerName written = name ∧
            entry.texts = some texts) ∧
        ∀ written entry texts, lastMember members.toList written = some entry →
          entry.texts = some texts → (attrs.values.get? (lowerName written)).isSome = true := by
  refine ⟨_, loads_raw body, loads_escaped body, fun members hdoc => ?_⟩
  obtain ⟨attrs, hparse, hvalues⟩ := parse_value_obj floatRepr members
  refine ⟨attrs, hdoc ▸ hparse, fun name texts hget => ?_, fun written entry texts hentry htexts => ?_⟩
  · rw [hvalues, Dict.get?_eq_some_iff] at hget
    rcases Dict.mem_items_of_foldl_set hget with hempty | ⟨item, hitem, hsame⟩
    · cases hempty
    · obtain ⟨rfl, rfl⟩ := Prod.mk.inj hsame
      obtain ⟨⟨written, entry⟩, hentry, hkept⟩ := List.mem_filterMap.mp hitem
      obtain ⟨texts, htexts, rfl⟩ := Option.map_eq_some_iff.mp hkept
      exact ⟨written, entry, (mem_entries_iff members).mp hentry, rfl, htexts⟩
  · have hitem : (written, texts) ∈ kept members.entries := List.mem_filterMap.mpr
      ⟨(written, entry), (mem_entries_iff members).mpr hentry, by rw [htexts]; rfl⟩
    rw [hvalues]
    exact Dict.mem_keys_foldl_set (.inr ⟨_, hitem, rfl⟩)

end Naco.Rlm
