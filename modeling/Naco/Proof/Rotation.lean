import Naco.Cli
import Naco.Lib.Rows

/-!
# No secret is lost in a rotation

The columns that the command goes through are those of the schema that hold an `EncryptedString`. A step
of the loop rewrites one value of one row; the rows of a table are mapped one by one, so a whole run is
described by what happens to each row.
-/

namespace Naco

open Py

/-- A value that decrypted with the old key, and what it is with the new one. -/
inductive Reencrypted (aead : Aead) (oldKey newKey : Key) (aad : String) : SqlValue → SqlValue → Prop
  | null : Reencrypted aead oldKey newKey aad .null .null
  | secret {value value' : SqlValue} {plain : String}
      (before : decryptValue aead value aad oldKey = .ok plain)
      (after : decryptValue aead value' aad newKey = .ok plain) :
      Reencrypted aead oldKey newKey aad value value'

/-- A row before and after: the secrets of these columns are those of the new key, and everything else
is as it was. -/
structure RowRotated (aead : Aead) (oldKey newKey : Key) (columns : List (String × String × String))
    (table : String) (row row' : SqlRow) : Prop where
  id : row'.id = row.id
  secrets : ∀ column aad, (table, column, aad) ∈ columns →
    Reencrypted aead oldKey newKey aad (row.values column) (row'.values column)
  others : ∀ column, (∀ aad, (table, column, aad) ∉ columns) →
    row'.values column = row.values column

/-- Every value of the column that is not null decrypts with its associated data. -/
def ColumnDecrypts (aead : Aead) (key : Key) (db : SqlDatabase) (column : String × String × String) :
    Prop :=
  ∀ row ∈ db.rows column.1, row.values column.2.1 ≠ .null →
    Returns (decryptValue aead (row.values column.2.1) column.2.2 key)

def AllDecrypt (aead : Aead) (key : Key) (db : SqlDatabase) : Prop :=
  ∀ column ∈ encryptedStrings, ColumnDecrypts aead key db column

/-- A column as the command knows it, with the associated data that it uses. -/
def withAad (column : String × String) : String × String × String :=
  (column.1, column.2, columnAad column)

/-- The list of the command is that of the schema. -/
theorem map_withAad_encryptedColumns : encryptedColumns.map withAad = encryptedStrings := by
  decide +kernel

theorem hasColumn_encryptedColumns : ∀ column ∈ encryptedColumns, hasColumn column.1 column.2 = true := by
  decide +kernel

variable {shell : Shell} {newKey : Key} {column : String × String}

/-! ### The rows of a column -/

/-- What the entries of the inner loop do to a row. -/
structure RowWritten (shell : Shell) (newKey : Key) (column : String × String)
    (entries : List (Nat × SqlValue)) (row row' : SqlRow) : Prop where
  id : row'.id = row.id
  others : ∀ other, other ≠ column.2 → row'.values other = row.values other
  skipped : (∀ entry ∈ entries, entry.1 ≠ row.id) → row'.values column.2 = row.values column.2
  written : ∀ entry ∈ entries, entry.1 = row.id → ∃ plain,
    decryptValue shell.aead entry.2 (columnAad column) shell.masterKey = .ok plain ∧
    decryptValue shell.aead (row'.values column.2) (columnAad column) newKey = .ok plain

theorem reencryptRow_of_decrypts (hcolumn : hasColumn column.1 column.2 = true)
    {entry : Nat × SqlValue} {plain : String}
    (hplain : decryptValue shell.aead entry.2 (columnAad column) shell.masterKey = .ok plain)
    (db : SqlDatabase) (count : Nat) :
    reencryptRow shell newKey column (db, count) entry =
      .ok (db.setRows column.1 _ (db.nodup_update column.1 column.2 (.text (Secrets.encrypt shell.aead
        (shell.urandom count) plain (columnAad column) newKey)) entry.1), count + 1) := by
  simp only [reencryptRow, hplain, SqlDatabase.update, hcolumn, if_true]
  rfl

theorem reencryptRow_of_error {entry : Nat × SqlValue} {fault : SecretFault}
    (h : decryptValue shell.aead entry.2 (columnAad column) shell.masterKey = .error fault)
    (state : SqlDatabase × Nat) :
    reencryptRow shell newKey column state entry = .error (.secret fault) := by
  simp only [reencryptRow, h]
  rfl

/-- A row that is written first by one entry, or not, and then by the others. -/
theorem RowWritten.cons {entry : Nat × SqlValue} {entries : List (Nat × SqlValue)}
    (hnew : entry.1 ∉ entries.map (·.1)) {plain token : String}
    (hplain : decryptValue shell.aead entry.2 (columnAad column) shell.masterKey = .ok plain)
    (htoken : decryptValue shell.aead (.text token) (columnAad column) newKey = .ok plain)
    {row row' : SqlRow} (hrow : RowWritten shell newKey column entries
      (if row.id = entry.1 then row.set column.2 (.text token) else row) row') :
    RowWritten shell newKey column (entry :: entries) row row' := by
  by_cases hid : row.id = entry.1
  · rw [if_pos hid] at hrow
    have hkept : row'.values column.2 = .text token := by
      rw [hrow.skipped, SqlRow.values_set]
      intro other hmem heq
      exact hnew (List.mem_map.mpr ⟨other, hmem, heq.trans hid⟩)
    refine ⟨hrow.id, fun other hne => ?_, fun hskipped => ?_, fun other hmem hother => ?_⟩
    · rw [hrow.others other hne, SqlRow.values_set_of_ne row hne]
    · exact absurd hid.symm (hskipped entry (by simp))
    · rcases List.mem_cons.mp hmem with rfl | hmem
      · exact ⟨plain, hplain, hkept ▸ htoken⟩
      · exact hrow.written other hmem hother
  · rw [if_neg hid] at hrow
    refine ⟨hrow.id, hrow.others, fun hskipped => ?_, fun other hmem hother => ?_⟩
    · exact hrow.skipped fun other hmem => hskipped other (List.mem_cons_of_mem _ hmem)
    · rcases List.mem_cons.mp hmem with rfl | hmem
      · exact absurd hother.symm hid
      · exact hrow.written other hmem hother

/-- The inner loop, by induction on the entries that are left. -/
theorem reencryptRows_ok (h : shell.aead.Lawful) (hcolumn : hasColumn column.1 column.2 = true)
    {entries : List (Nat × SqlValue)} (hnodup : (entries.map (·.1)).Nodup)
    (hentries : ∀ entry ∈ entries,
      Returns (decryptValue shell.aead entry.2 (columnAad column) shell.masterKey))
    (db : SqlDatabase) (count : Nat) :
    ∃ db' count' f, entries.foldlM (reencryptRow shell newKey column) (db, count) = .ok (db', count') ∧
      (∀ table, table ≠ column.1 → db'.rows table = db.rows table) ∧
      db'.rows column.1 = (db.rows column.1).map f ∧
      ∀ row, RowWritten shell newKey column entries row (f row) := by
  induction entries generalizing db count with
  | nil =>
      refine ⟨db, count, fun row => row, rfl, fun _ _ => rfl, (List.map_id' _).symm, fun row => ?_⟩
      exact ⟨rfl, fun _ _ => rfl, fun _ => rfl, by simp⟩
  | cons entry entries ih =>
      obtain ⟨hnew, hrest⟩ := List.nodup_cons.mp hnodup
      obtain ⟨plain, hplain⟩ := hentries entry (by simp)
      let token := Secrets.encrypt shell.aead (shell.urandom count) plain (columnAad column) newKey
      have htoken : decryptValue shell.aead (.text token) (columnAad column) newKey = .ok plain :=
        Secrets.decrypt_encrypt h (shell.urandom count) plain (columnAad column) newKey
      obtain ⟨db', count', f, hfold, hothers, hrows, hwritten⟩ :=
        ih hrest (fun other hmem => hentries other (List.mem_cons_of_mem _ hmem))
          (db.setRows column.1 _ (db.nodup_update column.1 column.2 (.text token) entry.1)) (count + 1)
      refine ⟨db', count', fun row => f (if row.id = entry.1 then row.set column.2 (.text token) else row),
        ?_, fun table hne => ?_, ?_, fun row => (hwritten _).cons hnew hplain htoken⟩
      · rw [List.foldlM_cons, reencryptRow_of_decrypts hcolumn hplain, ← hfold]
        rfl
      · rw [hothers table hne, SqlDatabase.rows_setRows_of_ne _ hne]
      · rw [hrows, SqlDatabase.rows_setRows, List.map_map]
        rfl

theorem reencryptRows_error {entries : List (Nat × SqlValue)}
    (hentry : ∃ entry ∈ entries,
      ¬ Returns (decryptValue shell.aead entry.2 (columnAad column) shell.masterKey))
    (state : SqlDatabase × Nat) :
    ∃ error, entries.foldlM (reencryptRow shell newKey column) state = .error error := by
  induction entries generalizing state with
  | nil =>
      obtain ⟨entry, hmem, -⟩ := hentry
      cases hmem
  | cons entry entries ih =>
      rw [List.foldlM_cons]
      cases hplain : decryptValue shell.aead entry.2 (columnAad column) shell.masterKey with
      | error fault =>
          rw [reencryptRow_of_error hplain]
          exact ⟨_, rfl⟩
      | ok plain =>
          obtain ⟨other, hmem, hfails⟩ := hentry
          rcases List.mem_cons.mp hmem with rfl | hmem
          · exact absurd ⟨plain, hplain⟩ hfails
          cases hstep : reencryptRow shell newKey column state entry with
          | error error => exact ⟨error, rfl⟩
          | ok next => exact ih ⟨other, hmem, hfails⟩ next

/-! ### The columns -/

/-- The tables are mapped row by row, and each row is rotated in these columns. -/
def TablesRotated (shell : Shell) (newKey : Key) (columns : List (String × String × String))
    (db db' : SqlDatabase) : Prop :=
  ∀ table, ∃ f : SqlRow → SqlRow, db'.rows table = (db.rows table).map f ∧
    ∀ row ∈ db.rows table, RowRotated shell.aead shell.masterKey newKey columns table row (f row)

/-- A row that the inner loop wrote is rotated in the column. -/
theorem RowWritten.rotated {db : SqlDatabase} {row row' : SqlRow} (hrow : row ∈ db.rows column.1)
    (h : RowWritten shell newKey column (db.notNull column.1 column.2) row row') :
    RowRotated shell.aead shell.masterKey newKey [withAad column] column.1 row row' := by
  refine ⟨h.id, fun other aad hmem => ?_, fun other hnone => ?_⟩
  · obtain ⟨rfl, rfl⟩ : other = column.2 ∧ aad = columnAad column := by
      simpa [withAad] using hmem
    by_cases hnull : row.values column.2 = .null
    · have hkept := h.skipped fun entry hentry hid => by
        obtain ⟨found, hfound, hvalue, rfl⟩ := SqlDatabase.mem_notNull_iff.mp hentry
        exact hvalue ((Rows.eq_of_key (db.ids column.1) hfound hrow hid) ▸ hnull)
      rw [hkept, hnull]
      exact .null
    · obtain ⟨plain, hplain, hnew⟩ :=
        h.written _ (SqlDatabase.mem_notNull_iff.mpr ⟨row, hrow, hnull, rfl⟩) rfl
      exact .secret hplain hnew
  · refine h.others other fun heq => hnone (columnAad column) ?_
    rw [heq, List.mem_singleton]
    rfl

theorem rowRotated_of_other_table {table : String} (hne : table ≠ column.1) (row : SqlRow) :
    RowRotated shell.aead shell.masterKey newKey [withAad column] table row row :=
  ⟨rfl, fun other aad hmem => by simp [withAad, hne] at hmem, fun _ _ => rfl⟩

theorem reencryptColumn_eq (hcolumn : hasColumn column.1 column.2 = true) (db : SqlDatabase)
    (count : Nat) : reencryptColumn shell newKey (db, count) column =
      (db.notNull column.1 column.2).foldlM (reencryptRow shell newKey column) (db, count) := by
  rw [reencryptColumn, SqlDatabase.select, if_pos hcolumn]
  rfl

variable (newKey) in
theorem reencryptColumn_ok (h : shell.aead.Lawful) (hcolumn : hasColumn column.1 column.2 = true)
    {db : SqlDatabase} (hdecrypts : ColumnDecrypts shell.aead shell.masterKey db (withAad column))
    (count : Nat) :
    ∃ db' count', reencryptColumn shell newKey (db, count) column = .ok (db', count') ∧
      TablesRotated shell newKey [withAad column] db db' := by
  have hentries : ∀ entry ∈ db.notNull column.1 column.2,
      Returns (decryptValue shell.aead entry.2 (columnAad column) shell.masterKey) := by
    intro entry hentry
    obtain ⟨row, hrow, hvalue, rfl⟩ := SqlDatabase.mem_notNull_iff.mp hentry
    exact hdecrypts row hrow hvalue
  obtain ⟨db', count', f, hfold, hothers, hrows, hwritten⟩ :=
    reencryptRows_ok h hcolumn (db.nodup_notNull column.1 column.2) hentries db count
  refine ⟨db', count', (reencryptColumn_eq hcolumn db count).trans hfold, fun table => ?_⟩
  by_cases htable : table = column.1
  · subst htable
    exact ⟨f, hrows, fun row hrow => (hwritten row).rotated hrow⟩
  · refine ⟨fun row => row, ?_, fun row _ => rowRotated_of_other_table htable row⟩
    rw [hothers table htable, List.map_id']

theorem reencryptColumn_error {db : SqlDatabase} (hcolumn : hasColumn column.1 column.2 = true)
    (hdecrypts : ¬ ColumnDecrypts shell.aead shell.masterKey db (withAad column)) (count : Nat) :
    ∃ error, reencryptColumn shell newKey (db, count) column = .error error := by
  rw [reencryptColumn_eq hcolumn]
  unfold ColumnDecrypts at hdecrypts
  push Not at hdecrypts
  obtain ⟨row, hrow, hvalue, hfails⟩ := hdecrypts
  exact reencryptRows_error ⟨_, SqlDatabase.mem_notNull_iff.mpr ⟨row, hrow, hvalue, rfl⟩, hfails⟩
    (db, count)

/-! ### The whole loop -/

section

variable {columns columns' : List (String × String × String)} {db db' db'' : SqlDatabase}

/-- A column that was not rewritten decrypts as before. -/
theorem TablesRotated.columnDecrypts_iff (h : TablesRotated shell newKey columns db db')
    {column : String × String × String} (hcolumn : ∀ aad, (column.1, column.2.1, aad) ∉ columns) :
    ColumnDecrypts shell.aead shell.masterKey db' column ↔
      ColumnDecrypts shell.aead shell.masterKey db column := by
  obtain ⟨f, hrows, hrotated⟩ := h column.1
  unfold ColumnDecrypts
  rw [hrows, List.forall_mem_map]
  refine forall₂_congr fun row hrow => ?_
  rw [(hrotated row hrow).others column.2.1 hcolumn]

theorem RowRotated.trans {aead : Aead} {oldKey : Key} {table : String} {row row' row'' : SqlRow}
    (h : RowRotated aead oldKey newKey columns table row row')
    (h' : RowRotated aead oldKey newKey columns' table row' row'')
    (hdisjoint : ∀ column aad aad', (table, column, aad) ∈ columns →
      (table, column, aad') ∉ columns') :
    RowRotated aead oldKey newKey (columns ++ columns') table row row'' := by
  refine ⟨h'.id.trans h.id, fun column aad hmem => ?_, fun column hnone => ?_⟩
  · rcases List.mem_append.mp hmem with hmem | hmem
    · rw [h'.others column fun aad' => hdisjoint column aad aad' hmem]
      exact h.secrets column aad hmem
    · rw [← h.others column fun aad' hmem' => hdisjoint column aad' aad hmem' hmem]
      exact h'.secrets column aad hmem
  · rw [h'.others column fun aad hmem => hnone aad (List.mem_append_right _ hmem),
      h.others column fun aad hmem => hnone aad (List.mem_append_left _ hmem)]

theorem TablesRotated.trans (h : TablesRotated shell newKey columns db db')
    (h' : TablesRotated shell newKey columns' db' db'')
    (hdisjoint : ∀ table column aad aad', (table, column, aad) ∈ columns →
      (table, column, aad') ∉ columns') :
    TablesRotated shell newKey (columns ++ columns') db db'' := by
  intro table
  obtain ⟨f, hrows, hrotated⟩ := h table
  obtain ⟨g, hrows', hrotated'⟩ := h' table
  refine ⟨fun row => g (f row), ?_, fun row hrow => ?_⟩
  · rw [hrows', hrows, List.map_map]
    rfl
  · refine (hrotated row hrow).trans (hrotated' (f row) ?_) (hdisjoint table)
    rw [hrows]
    exact List.mem_map_of_mem hrow

theorem tablesRotated_refl (db : SqlDatabase) : TablesRotated shell newKey [] db db := fun table =>
  ⟨fun row => row, (List.map_id' _).symm, fun row _ => ⟨rfl, by simp, fun _ _ => rfl⟩⟩

end

theorem not_mem_withAad {columns : List (String × String)} (hnew : column ∉ columns)
    (aad : String) : (column.1, column.2, aad) ∉ columns.map withAad := by
  intro hmem
  obtain ⟨found, hfound, heq⟩ := List.mem_map.mp hmem
  simp only [withAad, Prod.mk.injEq] at heq
  exact hnew (Prod.ext heq.1 heq.2.1 ▸ hfound)

variable (newKey) in
/-- The outer loop, by induction on the columns that are left. -/
theorem reencryptColumns_ok (h : shell.aead.Lawful) {columns : List (String × String)}
    (hnodup : columns.Nodup) (hcolumns : ∀ column ∈ columns, hasColumn column.1 column.2 = true)
    {db : SqlDatabase} (hdecrypts : ∀ column ∈ columns,
      ColumnDecrypts shell.aead shell.masterKey db (withAad column)) (count : Nat) :
    ∃ db' count', columns.foldlM (reencryptColumn shell newKey) (db, count) = .ok (db', count') ∧
      TablesRotated shell newKey (columns.map withAad) db db' := by
  induction columns generalizing db count with
  | nil => exact ⟨db, count, rfl, tablesRotated_refl db⟩
  | cons column columns ih =>
      obtain ⟨hnew, hrest⟩ := List.nodup_cons.mp hnodup
      obtain ⟨middle, count', hcolumn, hrotated⟩ := reencryptColumn_ok newKey h
        (hcolumns column (by simp)) (hdecrypts column (by simp)) count
      have hleft : ∀ other ∈ columns,
          ColumnDecrypts shell.aead shell.masterKey middle (withAad other) := by
        intro other hmem
        refine (hrotated.columnDecrypts_iff fun aad hsame => ?_).mpr
          (hdecrypts other (List.mem_cons_of_mem _ hmem))
        simp only [withAad, List.mem_singleton, Prod.mk.injEq] at hsame
        exact hnew (Prod.ext hsame.1 hsame.2.1 ▸ hmem)
      obtain ⟨db', count'', hfold, hrotated'⟩ :=
        ih hrest (fun other hmem => hcolumns other (List.mem_cons_of_mem _ hmem)) hleft count'
      refine ⟨db', count'', ?_, hrotated.trans hrotated' ?_⟩
      · rw [List.foldlM_cons, hcolumn]
        exact hfold
      · intro table other aad aad' hmem
        simp only [withAad, List.mem_singleton, Prod.mk.injEq] at hmem
        obtain ⟨rfl, rfl, -⟩ := hmem
        exact not_mem_withAad hnew aad'

variable (newKey) in
theorem reencryptColumns_error (h : shell.aead.Lawful) {columns : List (String × String)}
    (hnodup : columns.Nodup) (hcolumns : ∀ column ∈ columns, hasColumn column.1 column.2 = true)
    {db : SqlDatabase} (hfails : ∃ column ∈ columns,
      ¬ ColumnDecrypts shell.aead shell.masterKey db (withAad column)) (count : Nat) :
    ∃ error, columns.foldlM (reencryptColumn shell newKey) (db, count) = .error error := by
  induction columns generalizing db count with
  | nil =>
      obtain ⟨column, hmem, -⟩ := hfails
      cases hmem
  | cons column columns ih =>
      obtain ⟨hnew, hrest⟩ := List.nodup_cons.mp hnodup
      have hcolumn := hcolumns column (by simp)
      rw [List.foldlM_cons]
      by_cases hfirst : ColumnDecrypts shell.aead shell.masterKey db (withAad column)
      · obtain ⟨middle, count', hok, hrotated⟩ := reencryptColumn_ok newKey h hcolumn hfirst count
        obtain ⟨other, hmem, hother⟩ := hfails
        have hmem : other ∈ columns := by
          rcases List.mem_cons.mp hmem with rfl | hmem
          · exact absurd hfirst hother
          · exact hmem
        rw [hok]
        refine ih hrest (fun other hmem => hcolumns other (List.mem_cons_of_mem _ hmem))
          ⟨other, hmem, fun hdecrypts => hother ?_⟩ count'
        refine (hrotated.columnDecrypts_iff fun aad hsame => ?_).mp hdecrypts
        simp only [withAad, List.mem_singleton, Prod.mk.injEq] at hsame
        exact hnew (Prod.ext hsame.1 hsame.2.1 ▸ hmem)
      · obtain ⟨error, herror⟩ := reencryptColumn_error hcolumn hfirst count
        rw [herror]
        exact ⟨error, rfl⟩

theorem forall_columnDecrypts_iff {db : SqlDatabase} :
    (∀ column ∈ encryptedColumns, ColumnDecrypts shell.aead shell.masterKey db (withAad column)) ↔
      AllDecrypt shell.aead shell.masterKey db := by
  rw [AllDecrypt, ← map_withAad_encryptedColumns, List.forall_mem_map]

/-- The rows of a table before and after the command: each is rotated, and one is added to the audit
log. -/
def TableAfter (shell : Shell) (newKey : Key) (db db' : SqlDatabase) (table : String) : Prop :=
  ∃ rows added, db'.rows table = rows ++ added ∧
    List.Forall₂ (RowRotated shell.aead shell.masterKey newKey encryptedStrings table)
      (db.rows table) rows ∧
    added.length = if table = "audit_logs" then 1 else 0

theorem tableAfter_insert {db db' : SqlDatabase}
    (h : TablesRotated shell newKey encryptedStrings db db') (values : String → SqlValue)
    (table : String) : TableAfter shell newKey db (db'.insert "audit_logs" values) table := by
  obtain ⟨f, hrows, hrotated⟩ := h table
  have hforall : List.Forall₂ (RowRotated shell.aead shell.masterKey newKey encryptedStrings table)
      (db.rows table) (db'.rows table) := by
    rw [hrows, List.forall₂_map_right_iff, List.forall₂_same]
    exact hrotated
  by_cases haudit : table = "audit_logs"
  · subst haudit
    exact ⟨db'.rows "audit_logs", _, SqlDatabase.rows_setRows _ _ _ _, hforall, rfl⟩
  · refine ⟨db'.rows table, [], ?_, hforall, by simp [haudit]⟩
    rw [SqlDatabase.insert, SqlDatabase.rows_setRows_of_ne _ haudit, List.append_nil]

theorem rotateMasterKey_eq {material : String} (hkey : parseMasterKey material = .ok newKey)
    (db : SqlDatabase) :
    rotateMasterKey shell material db =
      if newKey = shell.masterKey then (.error (.failed "the new key is the current key"), db)
      else match encryptedColumns.foldlM (reencryptColumn shell newKey) (db, 0) with
        | .error error => (.error error, db)
        | .ok (changed, count) =>
            (.ok count, changed.insert "audit_logs" (rotationAudit shell count)) := by
  unfold rotateMasterKey
  generalize parseMasterKey material = parsed at hkey ⊢
  subst hkey
  rfl

/-- If every secret decrypts, the command rotates them all; if one does not, it changes nothing. -/
theorem rotation_loses_no_secret (h : shell.aead.Lawful) {material : String}
    (hkey : parseMasterKey material = .ok newKey) (db : SqlDatabase) :
    (AllDecrypt shell.aead shell.masterKey db → newKey ≠ shell.masterKey →
      ∃ count db', rotateMasterKey shell material db = (.ok count, db') ∧
        ∀ table, TableAfter shell newKey db db' table) ∧
    (¬ AllDecrypt shell.aead shell.masterKey db ∨ newKey = shell.masterKey →
      ∃ error, rotateMasterKey shell material db = (.error error, db)) := by
  have hnodup : encryptedColumns.Nodup := by decide +kernel
  rw [rotateMasterKey_eq hkey]
  constructor
  · intro hall hnew
    obtain ⟨db', count, hfold, hrotated⟩ := reencryptColumns_ok newKey h hnodup
      hasColumn_encryptedColumns (forall_columnDecrypts_iff.mpr hall) 0
    rw [map_withAad_encryptedColumns] at hrotated
    rw [if_neg hnew, hfold]
    exact ⟨count, _, rfl, tableAfter_insert hrotated _⟩
  · intro hfails
    by_cases hnew : newKey = shell.masterKey
    · rw [if_pos hnew]
      exact ⟨_, rfl⟩
    · have hfails := hfails.resolve_right hnew
      rw [← forall_columnDecrypts_iff] at hfails
      push Not at hfails
      obtain ⟨error, herror⟩ :=
        reencryptColumns_error newKey h hnodup hasColumn_encryptedColumns hfails 0
      rw [if_neg hnew, herror]
      exact ⟨error, rfl⟩

/-- What AES-256-GCM gives for "s3cret" with a key and a nonce of zeros. -/
def oldBlob (aad : Bytes) : Bytes :=
  [189, 148, 35, 79, 40, 20] ++
    if aad = encode "nas_clients.secret" then
      [54, 138, 26, 217, 136, 8, 20, 7, 217, 17, 243, 50, 18, 229, 219, 162]
    else [64, 112, 230, 187, 253, 174, 177, 64, 153, 38, 217, 190, 44, 153, 40, 111]

/-- What it gives with a key of ones and a nonce of sevens. -/
def newBlob (aad : Bytes) : Bytes :=
  [254, 192, 137, 214, 106, 218] ++
    if aad = encode "nas_clients.secret" then
      [47, 96, 243, 236, 185, 59, 147, 73, 202, 170, 47, 36, 5, 136, 162, 89]
    else [4, 126, 15, 196, 129, 76, 176, 204, 64, 129, 109, 143, 87, 248, 229, 108]

/-- AES-256-GCM on these inputs, and on the others a tag of zeros. -/
def gcmSample : Aead where
  encrypt key nonce plain aad :=
    if key.val = List.replicate 32 1 ∧ nonce = List.replicate 12 7 ∧ plain = encode "s3cret" ∧
        (aad = encode "nas_clients.secret" ∨ aad = encode "tacacs_clients.key") then newBlob aad
    else plain ++ List.replicate 16 0
  decrypt key nonce blob aad :=
    if (aad = encode "nas_clients.secret" ∨ aad = encode "tacacs_clients.key") ∧
        (key.val = List.replicate 32 0 ∧ nonce = List.replicate 12 0 ∧ blob = oldBlob aad ∨
          key.val = List.replicate 32 1 ∧ nonce = List.replicate 12 7 ∧ blob = newBlob aad) then
      some (encode "s3cret")
    else if blob.drop (blob.length - 16) = List.replicate 16 0 then some (blob.take (blob.length - 16))
    else none

theorem lawful_gcmSample : gcmSample.Lawful where
  decrypt_encrypt key nonce plain aad := by
    dsimp only [gcmSample]
    split
    · next h =>
        obtain ⟨hkey, hnonce, hplain, haad⟩ := h
        rw [if_pos ⟨haad, .inr ⟨hkey, hnonce, rfl⟩⟩, hplain]
    · have hlength : (plain ++ List.replicate 16 (0 : UInt8)).length - 16 = plain.length := by simp
      rw [if_neg, hlength, List.drop_left, if_pos rfl, List.take_left]
      -- no tag of the samples is all zeros
      rintro ⟨haad, ⟨-, -, hblob⟩ | ⟨-, -, hblob⟩⟩
      all_goals
        have htag := congrArg (fun blob => blob.drop (blob.length - 16)) hblob
        rw [hlength, List.drop_left] at htag
        rcases haad with rfl | rfl <;> exact absurd htag (by decide +kernel)
  length_encrypt key nonce plain aad := by
    dsimp only [gcmSample]
    split
    · next h =>
        obtain ⟨-, -, rfl, rfl | rfl⟩ := h <;> decide +kernel
    · simp

def sampleShell : Shell where
  aead := gcmSample
  masterKey := ⟨List.replicate 32 0, by decide⟩
  urandom _ := ⟨List.replicate 12 7, by decide⟩
  user := none
  timestamp := "2026-01-01 00:00:00.000000"

/-- A secret in two columns, and an administrator without a second factor. -/
def sampleDatabase : SqlDatabase where
  rows
    | "admin_users" => [⟨1, fun
        | "totp_secret" | "totp_pending_secret" => .null
        | _ => .text ""⟩]
    | "nas_clients" => [⟨1, fun
        | "secret" => .text "enc:v2:AAAAAAAAAAAAAAAAvZQjTygUNooa2YgIFAfZEfMyEuXbog=="
        | _ => .text ""⟩]
    | "tacacs_clients" => [⟨1, fun
        | "key" => .text "enc:v2:AAAAAAAAAAAAAAAAvZQjTygUQHDmu/2usUCZJtm+LJkobw=="
        | _ => .text ""⟩]
    | _ => []
  ids table := by
    split <;> simp

theorem rotation_loses_no_secret_sample :
    ∃ db', rotateMasterKey sampleShell "AQEBAQEBAQEBAQEBAQEBAQEBAQEBAQEBAQEBAQEBAQE=" sampleDatabase =
        (.ok 2, db') ∧
      ∀ table, TableAfter sampleShell ⟨List.replicate 32 1, by decide⟩ sampleDatabase db' table := by
  have hkey : parseMasterKey "AQEBAQEBAQEBAQEBAQEBAQEBAQEBAQEBAQEBAQEBAQE=" =
      .ok ⟨List.replicate 32 1, by decide⟩ := by
    decide +kernel
  have hall : AllDecrypt sampleShell.aead sampleShell.masterKey sampleDatabase := by
    unfold AllDecrypt ColumnDecrypts
    decide +kernel
  obtain ⟨count, db', hrun, htables⟩ :=
    (rotation_loses_no_secret lawful_gcmSample hkey sampleDatabase).1 hall (by decide +kernel)
  have hcount : (rotateMasterKey sampleShell "AQEBAQEBAQEBAQEBAQEBAQEBAQEBAQEBAQEBAQEBAQE="
      sampleDatabase).1 = .ok 2 := by
    decide +kernel
  rw [hrun] at hcount
  obtain rfl : count = 2 := Except.ok.inj hcount
  exact ⟨db', hrun, htables⟩

end Naco
