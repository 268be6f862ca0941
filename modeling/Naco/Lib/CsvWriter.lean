import Naco.Lib.Csv
import Naco.Lib.Text

/-!
# Python's `csv` writer

The writer of the default dialect: a field is quoted when it holds a comma, a quote or a line break,
and quotes are doubled inside. What is written is read back field by field, for every text.
-/

namespace Py.Csv

def needsQuotes (field : List Char) : Bool :=
  field.any (· ∈ [',', '"', '\r', '\n'])

/-- A character between quotes. -/
def quoted (c : Char) : List Char :=
  if c = '"' then ['"', '"'] else [c]

/-- `join_append`. -/
def writeField (field : String) : List Char :=
  if needsQuotes field.toList then '"' :: field.toList.flatMap quoted ++ ['"'] else field.toList

/-- `writer.writerow(fields)`; one empty field is quoted, or the row would read as no fields. -/
def writeRow : List String → List Char
  | [] => ['\r', '\n']
  | field :: fields =>
      (if field = "" ∧ fields = [] then ['"', '"'] else writeField field) ++
        (fields.flatMap fun field => ',' :: writeField field) ++ ['\r', '\n']

/-- `writer.writerows(rows)`. -/
def writeRows (rows : List (List String)) : List Char :=
  rows.flatMap writeRow

/-- A field that the reader does not refuse for its length. -/
def Readable (field : String) : Prop :=
  field.toList.length ≤ fieldLimit

instance (field : String) : Decidable (Readable field) :=
  inferInstanceAs (Decidable (_ ≤ _))

/-! ### Character by character -/

section

variable {r r' r'' : Reader} {c : Char} {rest : List Char}

theorem exists_lines (hrest : rest ≠ []) : ∃ line later, lines rest = line :: later := by
  cases rest with
  | nil => exact absurd rfl hrest
  | cons c rest =>
      rw [lines]
      split
      · exact ⟨_, _, rfl⟩
      · split
        · exact ⟨_, _, rfl⟩
        · exact ⟨_, _, rfl⟩

theorem records_of_step (hc : c ≠ '\n') (hrest : rest ≠ []) (h : r.step (some c) = .ok r') :
    r.records (lines (c :: rest)) = r'.records (lines rest) := by
  obtain ⟨line, later, hlines⟩ := exists_lines hrest
  have hline : r.readLine (c :: line) = r'.readLine line := by
    rw [Reader.readLine, List.foldlM_cons, h]
    rfl
  rw [lines, if_neg hc, hlines, Reader.records, Reader.records, hline]

/-- A line feed inside of a record. -/
theorem records_of_more (h : r.step (some '\n') = .ok r') (hend : r'.step none = .ok r'')
    (hstate : r''.state ≠ .startRecord) :
    r.records (lines ('\n' :: rest)) = r''.records (lines rest) := by
  have hline : r.readLine ['\n'] = .ok r'' := by
    rw [Reader.readLine, List.foldlM_cons, h]
    exact hend
  rw [lines, if_pos rfl, Reader.records, hline]
  exact if_neg hstate

/-- The line feed that ends a record. -/
theorem records_of_end (h : r.step (some '\n') = .ok r') (hend : r'.step none = .ok r'')
    (hstate : r''.state = .startRecord) :
    r.records (lines ('\n' :: rest)) =
      (Reader.records {} (lines rest)).map (r''.fields :: ·) := by
  have hline : r.readLine ['\n'] = .ok r'' := by
    rw [Reader.readLine, List.foldlM_cons, h]
    exact hend
  rw [lines, if_pos rfl, Reader.records, hline]
  refine (if_pos hstate).trans ?_
  cases Reader.records {} (lines rest) <;> rfl

end

/-! ### Fields -/

/-- A character that a field can hold without quotes. -/
def IsPlain (c : Char) : Prop :=
  c ∉ [',', '"', '\r', '\n']

section

variable {fields : List String} {before after rest : List Char} {c : Char}

theorem addChar_of_lt {state next : State} (h : before.length < fieldLimit) :
    Reader.addChar ⟨state, before, fields⟩ c next = .ok ⟨next, before ++ [c], fields⟩ :=
  if_neg (Nat.not_le.mpr h)

theorem step_inQuotedField (hquote : c ≠ '"') (h : before.length < fieldLimit) :
    Reader.step ⟨.inQuotedField, before, fields⟩ (some c) =
      .ok ⟨.inQuotedField, before ++ [c], fields⟩ := by
  simp only [Reader.step]
  exact addChar_of_lt h

theorem step_inField (hplain : IsPlain c) (h : before.length < fieldLimit) :
    Reader.step ⟨.inField, before, fields⟩ (some c) = .ok ⟨.inField, before ++ [c], fields⟩ := by
  simp only [IsPlain, List.mem_cons, List.not_mem_nil, or_false, not_or] at hplain
  obtain ⟨hcomma, -, hreturn, hfeed⟩ := hplain
  simp only [Reader.step]
  exact addChar_of_lt h

/-- A field starts at its first character, after a comma or with the record. -/
theorem step_start {state : State} (hstate : state = .startRecord ∨ state = .startField)
    (hplain : IsPlain c) :
    Reader.step ⟨state, [], fields⟩ (some c) = .ok ⟨.inField, [c], fields⟩ := by
  simp only [IsPlain, List.mem_cons, List.not_mem_nil, or_false, not_or] at hplain
  obtain ⟨hcomma, hquote, hreturn, hfeed⟩ := hplain
  have hfield : Reader.startField ⟨state, [], fields⟩ (some c) = .ok ⟨.inField, [c], fields⟩ := by
    simp only [Reader.startField]
    exact addChar_of_lt (by decide)
  rcases hstate with rfl | rfl
  · simp only [Reader.step]
    exact hfield
  · exact hfield

/-- The characters between quotes; a doubled quote is read as one. -/
theorem records_quoted (hrest : rest ≠ []) (h : (before ++ after).length ≤ fieldLimit) :
    Reader.records ⟨.inQuotedField, before, fields⟩ (lines (after.flatMap quoted ++ rest)) =
      Reader.records ⟨.inQuotedField, before ++ after, fields⟩ (lines rest) := by
  induction after generalizing before with
  | nil => rw [List.flatMap_nil, List.nil_append, List.append_nil]
  | cons c after ih =>
      have hlt : before.length < fieldLimit := by
        rw [List.length_append, List.length_cons] at h
        omega
      have hmore : after.flatMap quoted ++ rest ≠ [] := List.append_ne_nil_of_right_ne_nil _ hrest
      rw [List.append_cons] at h ⊢
      rw [List.flatMap_cons, List.append_assoc, ← ih h]
      by_cases hquote : c = '"'
      · subst hquote
        rw [quoted, if_pos rfl, List.cons_append, List.singleton_append,
          records_of_step (by decide) (List.cons_ne_nil _ _) rfl]
        exact records_of_step (by decide) hmore (addChar_of_lt hlt)
      · rw [quoted, if_neg hquote, List.singleton_append]
        by_cases hfeed : c = '\n'
        · subst hfeed
          exact records_of_more (step_inQuotedField hquote hlt) rfl State.noConfusion
        · exact records_of_step hfeed hmore (step_inQuotedField hquote hlt)

theorem records_unquoted (hrest : rest ≠ []) (hplain : ∀ c ∈ after, IsPlain c)
    (h : (before ++ after).length ≤ fieldLimit) :
    Reader.records ⟨.inField, before, fields⟩ (lines (after ++ rest)) =
      Reader.records ⟨.inField, before ++ after, fields⟩ (lines rest) := by
  induction after generalizing before with
  | nil => rw [List.nil_append, List.append_nil]
  | cons c after ih =>
      obtain ⟨hc, hafter⟩ := List.forall_mem_cons.mp hplain
      have hlt : before.length < fieldLimit := by
        rw [List.length_append, List.length_cons] at h
        omega
      have hmore : after ++ rest ≠ [] := List.append_ne_nil_of_right_ne_nil _ hrest
      have hfeed : c ≠ '\n' := by
        rintro rfl
        exact hc (by decide)
      rw [List.append_cons before] at h ⊢
      rw [← ih hafter h, List.cons_append]
      exact records_of_step hfeed hmore (step_inField hc hlt)

/-- Where a field can end: the comma before the next one, or the line break after the last. -/
def afterField (c : Char) : State :=
  if c = ',' then .startField else .eatCrnl

/-- A field is read up to what ends it. Only a field that is empty and alone in its row, written
without quotes, would be taken for no field. -/
theorem records_writeField {state : State} {field : String}
    (hstate : state = .startRecord ∨ state = .startField) (hc : c = ',' ∨ c = '\r')
    (halone : state = .startRecord → field = "" → c = ',') (hfield : Readable field)
    (hrest : rest ≠ []) :
    Reader.records ⟨state, [], fields⟩ (lines (writeField field ++ c :: rest)) =
      Reader.records ⟨afterField c, [], fields ++ [field]⟩ (lines rest) := by
  have hfeed : c ≠ '\n' := by
    rcases hc with rfl | rfl <;> decide
  have hend : String.ofList field.toList = field := String.ofList_toList
  rw [writeField]
  cases hneeds : needsQuotes field.toList with
  | true =>
      have hquote : Reader.step ⟨state, [], fields⟩ (some '"') = .ok ⟨.inQuotedField, [], fields⟩ := by
        rcases hstate with rfl | rfl <;> rfl
      have hlast : Reader.step ⟨.quoteInQuotedField, field.toList, fields⟩ (some c) =
          .ok ⟨afterField c, [], fields ++ [field]⟩ := by
        rcases hc with rfl | rfl
        · exact congrArg (fun s => Except.ok (Reader.mk State.startField [] (fields ++ [s]))) hend
        · exact congrArg (fun s => Except.ok (Reader.mk State.eatCrnl [] (fields ++ [s]))) hend
      rw [if_pos rfl, List.cons_append, List.cons_append, List.append_assoc,
        records_of_step (by decide) (by simp) hquote,
        @records_quoted _ [] field.toList _ (by simp) hfield, List.nil_append, List.singleton_append,
        records_of_step (by decide) (List.cons_ne_nil _ _) rfl]
      exact records_of_step hfeed hrest hlast
  | false =>
      rw [if_neg Bool.false_ne_true]
      have hplain : ∀ c ∈ field.toList, IsPlain c := by
        simpa [needsQuotes, IsPlain] using hneeds
      cases hchars : field.toList with
      | nil =>
          obtain rfl : field = "" := String.toList_eq_nil_iff.mp hchars
          have hstep : Reader.step ⟨state, [], fields⟩ (some c) =
              .ok ⟨afterField c, [], fields ++ [""]⟩ := by
            rcases hstate with rfl | rfl
            · obtain rfl := halone rfl rfl
              rfl
            · rcases hc with rfl | rfl <;> rfl
          exact records_of_step hfeed hrest hstep
      | cons first chars =>
          rw [hchars] at hplain hend
          rw [Readable, hchars] at hfield
          obtain ⟨hfirst, hrestPlain⟩ := List.forall_mem_cons.mp hplain
          have hfirstFeed : first ≠ '\n' := by
            rintro rfl
            exact hfirst (by decide)
          have hlast : Reader.step ⟨.inField, first :: chars, fields⟩ (some c) =
              .ok ⟨afterField c, [], fields ++ [field]⟩ := by
            rcases hc with rfl | rfl
            · exact congrArg (fun s => Except.ok (Reader.mk State.startField [] (fields ++ [s]))) hend
            · exact congrArg (fun s => Except.ok (Reader.mk State.eatCrnl [] (fields ++ [s]))) hend
          rw [List.cons_append, records_of_step hfirstFeed (by simp) (step_start hstate hfirst),
            records_unquoted (List.cons_ne_nil _ _) hrestPlain hfield]
          exact records_of_step hfeed hrest hlast

end

/-! ### Rows -/

section

variable {fields : List String} {rest : List Char}

/-- The line break that the writer puts after a row. -/
theorem records_lineEnd :
    Reader.records ⟨.eatCrnl, [], fields⟩ (lines ('\n' :: rest)) =
      (Reader.records {} (lines rest)).map (fields :: ·) :=
  @records_of_end ⟨.eatCrnl, [], fields⟩ _ ⟨.startRecord, [], fields⟩ rest rfl rfl rfl

/-- The fields of a row after its first one. -/
theorem records_fields {later : List String} {before : List String} {field : String} {state : State}
    (hstate : state = .startRecord ∨ state = .startField)
    (halone : state = .startRecord → field = "" → later ≠ [])
    (hfield : ∀ f ∈ field :: later, Readable f) :
    Reader.records ⟨state, [], before⟩
        (lines (writeField field ++ (later.flatMap (fun f => ',' :: writeField f) ++
          '\r' :: '\n' :: rest))) =
      (Reader.records {} (lines rest)).map ((before ++ field :: later) :: ·) := by
  induction later generalizing before field state with
  | nil =>
      rw [List.flatMap_nil, List.nil_append,
        records_writeField hstate (.inr rfl) (fun hs he => absurd rfl (halone hs he))
          (hfield field List.mem_cons_self) (List.cons_ne_nil _ _)]
      exact records_lineEnd
  | cons next later ih =>
      obtain ⟨hfirst, hlater⟩ := List.forall_mem_cons.mp hfield
      rw [List.flatMap_cons, List.cons_append, List.cons_append, List.append_assoc,
        records_writeField hstate (.inl rfl) (fun _ _ => rfl) hfirst (by simp)]
      have hnext := @ih (before ++ [field]) next .startField (.inr rfl)
        (fun hs => State.noConfusion hs) hlater
      rw [List.append_assoc, List.singleton_append] at hnext
      exact hnext

theorem records_writeRow {row : List String} (hrow : ∀ field ∈ row, Readable field) :
    Reader.records {} (lines (writeRow row ++ rest)) =
      (Reader.records {} (lines rest)).map (row :: ·) := by
  cases row with
  | nil =>
      rw [writeRow, List.cons_append, List.singleton_append,
        records_of_step (by decide) (List.cons_ne_nil _ _) rfl]
      exact records_lineEnd
  | cons field later =>
      rw [writeRow, List.append_assoc, List.append_assoc]
      by_cases halone : field = "" ∧ later = []
      · obtain ⟨rfl, rfl⟩ := halone
        rw [if_pos ⟨rfl, rfl⟩, List.flatMap_nil, List.nil_append]
        simp only [List.cons_append, List.nil_append]
        rw [records_of_step (by decide) (List.cons_ne_nil _ _) rfl,
          records_of_step (by decide) (List.cons_ne_nil _ _) rfl,
          records_of_step (by decide) (List.cons_ne_nil _ _) rfl]
        exact records_lineEnd
      · rw [if_neg halone]
        exact records_fields (.inl rfl) (fun _ hempty hlater => halone ⟨hempty, hlater⟩) hrow

end

/-- What the writer writes is read back, for every text that the reader does not refuse. -/
theorem records_writeRows {rows : List (List String)} (h : ∀ row ∈ rows, ∀ field ∈ row, Readable field) :
    Reader.records {} (lines (writeRows rows)) = .ok rows := by
  induction rows with
  | nil => rfl
  | cons row rows ih =>
      obtain ⟨hrow, hrows⟩ := List.forall_mem_cons.mp h
      rw [writeRows, List.flatMap_cons, records_writeRow hrow, ← writeRows, ih hrows]
      rfl

end Py.Csv
