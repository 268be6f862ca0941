import Naco.Proof.Operators
import Naco.Proof.Policies
import Naco.Proof.Routes
import Naco.Routes.Transfer

/-!
# What an import of a file adds

Each new key of the file gets one entry, from its first valid row, and every other row is skipped or
is an error of the import. This holds as soon as the file is read and its entries can be written: the
`csv` reader must not raise, and a commit must not refuse the entries. Only network devices have a
second unique column, and the loop does not compare the names of the rows among themselves.
-/

namespace Naco

open Py

/-- What the three imports differ in. -/
structure Import (α : Type) where
  kind : ImportKind
  build : Dict String String → Except RowError α
  key : α → String
  taken : List String
  added : List α → Tables

section

variable {α : Type} {imp : Import α} {rows : List CsvRow} {row : CsvRow} {item : α}

/-- A row that does not build, with its line and why. -/
def Import.failure? (imp : Import α) (row : CsvRow) : Option (Nat × RowError) :=
  match imp.build row.2 with
  | .error error => some (row.1, error)
  | .ok _ => none

def Import.failures (imp : Import α) (rows : List CsvRow) : List (Nat × RowError) :=
  rows.filterMap imp.failure?

/-- The item of the first valid row with its key, which is new. -/
def Import.FirstOfNewKey (imp : Import α) (rows : List CsvRow) (item : α) : Prop :=
  ∃ before row after, rows = before ++ row :: after ∧ imp.build row.2 = .ok item ∧
    imp.key item ∉ imp.taken ∧
    ∀ earlier ∈ before, ∀ other, imp.build earlier.2 = .ok other → imp.key other ≠ imp.key item

/-- The keys of the valid rows. -/
def Import.Seen (imp : Import α) (rows : List CsvRow) (key : String) : Prop :=
  ∃ row ∈ rows, ∃ item, imp.build row.2 = .ok item ∧ imp.key item = key

/-! ### The loop -/

theorem seen_concat {key : String} :
    imp.Seen (rows ++ [row]) key ↔
      imp.Seen rows key ∨ ∃ item, imp.build row.2 = .ok item ∧ imp.key item = key := by
  simp [Import.Seen, or_and_right, exists_or]

theorem firstOfNewKey_concat :
    imp.FirstOfNewKey (rows ++ [row]) item ↔ imp.FirstOfNewKey rows item ∨
      imp.build row.2 = .ok item ∧ imp.key item ∉ imp.taken ∧ ¬ imp.Seen rows (imp.key item) := by
  constructor
  · rintro ⟨before, found, after, hsplit, hbuild, hnew, hbefore⟩
    rcases List.eq_nil_or_concat after with rfl | ⟨later, last, rfl⟩
    · obtain ⟨rfl, hrow⟩ := List.append_inj' hsplit rfl
      obtain rfl := List.head_eq_of_cons_eq hrow
      refine .inr ⟨hbuild, hnew, ?_⟩
      rintro ⟨earlier, hearlier, other, hother, hkey⟩
      exact hbefore earlier hearlier other hother hkey
    · rw [List.concat_eq_append, ← List.cons_append, ← List.append_assoc] at hsplit
      exact .inl ⟨before, found, later, List.append_inj_left' hsplit rfl, hbuild, hnew, hbefore⟩
  · rintro (⟨before, found, after, rfl, hbuild, hnew, hbefore⟩ | ⟨hbuild, hnew, hseen⟩)
    · exact ⟨before, found, after ++ [row], by simp, hbuild, hnew, hbefore⟩
    · refine ⟨rows, row, [], rfl, hbuild, hnew, fun earlier hearlier other hother hkey => ?_⟩
      exact hseen ⟨earlier, hearlier, other, hother, hkey⟩

theorem failures_concat :
    imp.failures (rows ++ [row]) = imp.failures rows ++ (imp.failure? row).toList := by
  rw [Import.failures, List.filterMap_append]
  cases h : imp.failure? row <;> simp [Import.failures, h]

/-- The loop after some rows: what is taken are the keys of the table and of the valid rows. -/
structure Import.Loop (imp : Import α) (rows : List CsvRow) (progress : Imported α × List String) :
    Prop where
  taken : ∀ key, key ∈ progress.2 ↔ key ∈ imp.taken ∨ imp.Seen rows key
  created : ∀ item, item ∈ progress.1.created ↔ imp.FirstOfNewKey rows item
  distinct : (progress.1.created.map imp.key).Nodup
  counted : progress.1.created.length + progress.1.skipped + (imp.failures rows).length = rows.length
  errors : progress.1.errors = imp.failures rows

theorem loop_start : imp.Loop [] ({}, imp.taken) where
  taken := by simp [Import.Seen]
  created := by simp [Import.FirstOfNewKey]
  distinct := List.nodup_nil
  counted := rfl
  errors := rfl

theorem seen_of_created {progress : Imported α × List String} (h : imp.Loop rows progress)
    (hitem : item ∈ progress.1.created) : imp.Seen rows (imp.key item) := by
  obtain ⟨before, row, after, rfl, hbuild, -⟩ := (h.created item).mp hitem
  exact ⟨row, by simp, item, hbuild, rfl⟩

theorem loop_row {progress : Imported α × List String} (h : imp.Loop rows progress) :
    imp.Loop (rows ++ [row]) (importRow imp.build imp.key progress row) := by
  obtain ⟨done, taken⟩ := progress
  have hcounted := h.counted
  dsimp only at hcounted
  cases hbuild : imp.build row.2 with
  | error error =>
      have hfailure : imp.failure? row = some (row.1, error) := by
        simp [Import.failure?, hbuild]
      rw [importRow, hbuild]
      refine ⟨fun key => ?_, fun other => ?_, h.distinct, ?_, ?_⟩
      · simpa [seen_concat, hbuild] using h.taken key
      · simpa [firstOfNewKey_concat, hbuild] using h.created other
      · rw [failures_concat, hfailure, List.length_append, List.length_append]
        simp only [Option.toList_some, List.length_singleton]
        omega
      · rw [failures_concat, hfailure, ← h.errors]
        rfl
  | ok item =>
      have hfailure : imp.failure? row = none := by
        simp [Import.failure?, hbuild]
      have hfailures : imp.failures (rows ++ [row]) = imp.failures rows := by
        rw [failures_concat, hfailure, Option.toList_none, List.append_nil]
      have hbuilds (other : α) : imp.build row.2 = .ok other ↔ item = other := by
        rw [hbuild, Except.ok.injEq]
      have htaken := h.taken (imp.key item)
      rw [importRow, hbuild]
      simp only
      by_cases hkey : imp.key item ∈ taken
      · rw [if_pos hkey]
        refine ⟨fun key => ?_, fun other => ?_, h.distinct, ?_, ?_⟩
        · have hold : imp.key item = key → key ∈ imp.taken ∨ imp.Seen rows key := by
            rintro rfl
            exact htaken.mp hkey
          simp only [seen_concat, hbuilds, exists_eq_left', h.taken key]
          tauto
        · have hnot : ¬ (item = other ∧ imp.key other ∉ imp.taken ∧
              ¬ imp.Seen rows (imp.key other)) := by
            rintro ⟨rfl, hnew, hseen⟩
            exact (htaken.mp hkey).elim hnew hseen
          rw [firstOfNewKey_concat, hbuilds, or_iff_left hnot]
          exact h.created other
        · rw [hfailures, List.length_append, List.length_singleton]
          dsimp only
          omega
        · rw [hfailures]
          exact h.errors
      · rw [if_neg hkey]
        have hfresh : imp.key item ∉ imp.taken ∧ ¬ imp.Seen rows (imp.key item) :=
          not_or.mp fun hold => hkey (htaken.mpr hold)
        refine ⟨fun key => ?_, fun other => ?_, ?_, ?_, ?_⟩
        · simp only [seen_concat, hbuilds, exists_eq_left', List.mem_append, List.mem_singleton,
            h.taken key, or_assoc, eq_comm]
        · rw [firstOfNewKey_concat, hbuilds, List.mem_append, List.mem_singleton, ← h.created other]
          refine or_congr_right ⟨?_, fun hother => hother.1.symm⟩
          rintro rfl
          exact ⟨rfl, hfresh⟩
        · refine Rows.nodup_concat h.distinct fun found hfound hsame => ?_
          exact hfresh.2 (hsame ▸ seen_of_created h hfound)
        · rw [hfailures, List.length_append, List.length_singleton]
          dsimp only
          rw [List.length_append, List.length_singleton]
          omega
        · rw [hfailures]
          exact h.errors

theorem loop_run (imp : Import α) (rows : List CsvRow) :
    imp.Loop rows (rows.foldl (importRow imp.build imp.key) ({}, imp.taken)) := by
  induction rows using List.reverseRecOn with
  | nil => exact loop_start
  | append_singleton rows row ih =>
      rw [List.foldl_append]
      exact loop_row ih

/-! ### A file that is imported -/

/-- A file within the limits of an import, whose header has the columns that the import needs. -/
structure Upload (kind : ImportKind) (data : Bytes) (header : List String) (rest : List (List Char)) :
    Prop where
  size : data.length ≤ maxBytes
  read : ∃ text, decodeUtf8Sig data = .ok text ∧
    Csv.Reader.next {} (Csv.lines text.toList) = .ok (some header, rest)
  columns : ∀ name ∈ kind.required, name ∈ header.map strip
  rows : ∀ records, Csv.Reader.records {} rest = .ok records →
    (numberRows header records).length ≤ kind.rowLimit

/-- What the rows of a file became: entries, skipped rows and errors. -/
structure Import.Adds (imp : Import α) (rows : List CsvRow) (items : List α) (result : ImportResult) :
    Prop where
  first : ∀ item, item ∈ items ↔ imp.FirstOfNewKey rows item
  once : (items.map imp.key).Nodup
  created : result.created = items.length
  accounted : result.created + result.skipped + (imp.failures rows).length = rows.length
  reported : result.errors = (imp.failures rows).take maxErrors

/-- The import completes, and each new key of the rows has an entry from its first valid row. -/
def Import.Tolerates (imp : Import α) (header : List String) (rest : List (List Char))
    (response : Except RouteError (Outcome × ImportResult)) : Prop :=
  ∃ outcome result, response = .ok (outcome, result) ∧
    ∀ records, Csv.Reader.records {} rest = .ok records →
      ∃ items, outcome.db.val = imp.added items ∧
        imp.Adds (numberRows header records) items result

/-- It also lists every row that failed, not only the first hundred. -/
def Import.ToleratesListingAll (imp : Import α) (header : List String) (rest : List (List Char))
    (response : Except RouteError (Outcome × ImportResult)) : Prop :=
  imp.Tolerates header rest response ∧ ∀ outcome result, response = .ok (outcome, result) →
    ∀ records, Csv.Reader.records {} rest = .ok records →
      result.errors = imp.failures (numberRows header records)

theorem errors_eq_failures_iff {items : List α} {result : ImportResult}
    (h : imp.Adds rows items result) :
    result.errors = imp.failures rows ↔ (imp.failures rows).length ≤ maxErrors := by
  rw [h.reported, List.take_eq_self_iff]

def Import.items (imp : Import α) (rows : List CsvRow) : List α :=
  (importRows imp.build imp.key imp.taken rows).created

theorem adds_importRows (imp : Import α) (rows : List CsvRow) :
    imp.Adds rows (imp.items rows) (importRows imp.build imp.key imp.taken rows).result := by
  have h := loop_run imp rows
  exact ⟨h.created, h.distinct, rfl, h.counted, congrArg _ h.errors⟩

/-- What the three imports share. -/
def Import.run (imp : Import α) (message : String) (scheduled : List α → List String) (data : Bytes) :
    Except RouteError (Outcome × ImportResult) := do
  let rows ← csvRows imp.kind data
  let done := importRows imp.build imp.key imp.taken rows
  let outcome ← commitOrConflict message (imp.added done.created) (scheduled done.created)
  return (outcome, done.result)

section

variable {kind : ImportKind} {data : Bytes} {header : List String} {rest : List (List Char)}

theorem csvRows_eq_ok_iff (h : Upload kind data header rest) {rows : List CsvRow} :
    csvRows kind data = .ok rows ↔
      ∃ records, Csv.Reader.records {} rest = .ok records ∧ rows = numberRows header records := by
  obtain ⟨text, htext, hnext⟩ := h.read
  have hmissing : kind.required.filter (· ∉ header.map strip) = [] := by
    rw [List.filter_eq_nil_iff]
    exact fun name hname => by simpa using h.columns name hname
  rw [csvRows, if_neg (Nat.not_lt.mpr h.size), htext]
  simp only [bind_eq_ok_iff, mapError_eq_ok_iff, hnext, Except.ok.injEq, exists_eq_left',
    Option.getD_some, hmissing, ne_eq, not_true, if_false]
  refine exists_congr fun records => and_congr_right fun hrecords => ?_
  rw [if_neg (Nat.not_lt.mpr (h.rows records hrecords))]
  exact ⟨fun hpure => (Except.ok.inj hpure).symm, fun hsame => hsame ▸ rfl⟩

/-- An import goes through when the file is read and what it adds is consistent. -/
theorem tolerates_run_iff {message : String} {scheduled : List α → List String}
    (h : Upload imp.kind data header rest) :
    imp.Tolerates header rest (imp.run message scheduled data) ↔
      ∃ records, Csv.Reader.records {} rest = .ok records ∧
        (imp.added (imp.items (numberRows header records))).Consistent := by
  constructor
  · rintro ⟨outcome, result, hresponse, -⟩
    simp only [Import.run, bind_eq_ok_iff, csvRows_eq_ok_iff h] at hresponse
    obtain ⟨_, ⟨records, hrecords, rfl⟩, committed, hcommit, -⟩ := hresponse
    exact ⟨records, hrecords, (commitOrConflict_eq_ok_iff.mp hcommit).1⟩
  · rintro ⟨records, hrecords, hconsistent⟩
    have hrows := (csvRows_eq_ok_iff h).mpr ⟨records, hrecords, rfl⟩
    have hcommit : commitOrConflict message (imp.added (imp.items (numberRows header records)))
        (scheduled (imp.items (numberRows header records))) = .ok ⟨⟨_, hconsistent⟩, _⟩ :=
      commitOrConflict_eq_ok_iff.mpr ⟨hconsistent, rfl⟩
    refine ⟨_, (importRows imp.build imp.key imp.taken (numberRows header records)).result,
      bind_eq_ok_iff.mpr ⟨_, hrows, bind_eq_ok_iff.mpr ⟨_, hcommit, rfl⟩⟩, fun read hread => ?_⟩
    obtain rfl := Except.ok.inj (hrecords.symm.trans hread)
    exact ⟨_, rfl, adds_importRows imp _⟩

/-- One entry that cannot be written discards the whole file. -/
theorem run_eq_conflict {message : String} {scheduled : List α → List String}
    (h : Upload imp.kind data header rest) {records : List (List String)}
    (hrecords : Csv.Reader.records {} rest = .ok records)
    (hnot : ¬ (imp.added (imp.items (numberRows header records))).Consistent) :
    imp.run message scheduled data = apiError 409 message := by
  have hrows := (csvRows_eq_ok_iff h).mpr ⟨records, hrecords, rfl⟩
  have hcommit : commitOrConflict message (imp.added (imp.items (numberRows header records)))
      (scheduled (imp.items (numberRows header records))) = apiError 409 message := by
    rw [commitOrConflict, commit, dif_neg hnot]
  rw [Import.items] at hcommit
  rw [Import.run, hrows]
  change (commitOrConflict message _ _ >>= _) = _
  rw [hcommit]
  rfl

theorem toleratesListingAll_run_iff {message : String} {scheduled : List α → List String}
    (h : Upload imp.kind data header rest) :
    imp.ToleratesListingAll header rest (imp.run message scheduled data) ↔
      ∃ records, Csv.Reader.records {} rest = .ok records ∧
        (imp.added (imp.items (numberRows header records))).Consistent ∧
        (imp.failures (numberRows header records)).length ≤ maxErrors := by
  constructor
  · rintro ⟨htolerates, hall⟩
    obtain ⟨records, hrecords, hconsistent⟩ := (tolerates_run_iff h).mp htolerates
    obtain ⟨outcome, result, hresponse, hread⟩ := htolerates
    obtain ⟨items, -, hadds⟩ := hread records hrecords
    have herrors := hall outcome result hresponse records hrecords
    exact ⟨records, hrecords, hconsistent, (errors_eq_failures_iff hadds).mp herrors⟩
  · rintro ⟨records, hrecords, hconsistent, hfew⟩
    have htolerates : imp.Tolerates header rest (imp.run message scheduled data) :=
      (tolerates_run_iff h).mpr ⟨records, hrecords, hconsistent⟩
    refine ⟨htolerates, fun outcome result hresponse read hread => ?_⟩
    obtain ⟨_, _, hsame, hadds⟩ := htolerates
    obtain ⟨-, rfl⟩ := Prod.mk.inj (Except.ok.inj (hresponse.symm.trans hsame))
    obtain rfl := Except.ok.inj (hrecords.symm.trans hread)
    obtain ⟨items, -, hadds⟩ := hadds records hrecords
    exact (errors_eq_failures_iff hadds).mpr hfew

end

end

/-! ### What the entries make of the tables -/

section

variable {α β κ : Type} {rows : List β} {key : β → Nat} {make : Nat → Nat → α → β} {items : List α}

theorem map_addRows {column : β → κ} {field : α → κ}
    (h : ∀ i id item, column (make i id item) = field item) :
    (addRows rows key make items).map column = rows.map column ++ items.map field := by
  rw [addRows, List.map_append]
  congr 1
  exact List.ext_getElem (by simp) fun i _ _ => by simp [h]

theorem nodup_ids_addRows (h : ∀ i id item, key (make i id item) = id) (hids : (rows.map key).Nodup) :
    ((addRows rows key make items).map key).Nodup := by
  have hnew : (items.mapIdx fun i item => make i (nextId (rows.map key) + i) item).map key =
      (List.range items.length).map (nextId (rows.map key) + ·) :=
    List.ext_getElem (by simp) fun i _ _ => by simp [h]
  rw [addRows, List.map_append, hnew]
  refine hids.append (List.nodup_range.map (add_right_injective _)) ?_
  intro id hold hid
  obtain ⟨i, -, rfl⟩ := List.mem_map.mp hid
  have := lt_nextId_of_mem hold
  omega

/-- A row of the larger table is an old one or one that was made. -/
theorem forall_mem_addRows {P : β → Prop} (hold : ∀ row ∈ rows, P row)
    (hnew : ∀ i id, ∀ item ∈ items, P (make i id item)) :
    ∀ row ∈ addRows rows key make items, P row := by
  intro row hrow
  rcases List.mem_append.mp hrow with hrow | hrow
  · exact hold row hrow
  · obtain ⟨i, hi, rfl⟩ := List.mem_mapIdx.mp hrow
    exact hnew _ _ _ (List.getElem_mem hi)

end

/-! ### The three imports -/

def usersImport (digest : Nat → String) (role : AdminRole) (db : Database) : Import UserCreate where
  kind := .users
  build := buildUser db.val role
  key := (·.username)
  taken := db.val.users.map (·.username)
  added items := { db.val with
    users := addRows db.val.users (·.id) (fun i id body => body.row id (digest i)) items }

def devicesImport (platform : Platform) (now : Int) (db : Database) : Import DeviceCreate where
  kind := .devices
  build := buildDevice
  key := (·.macAddress)
  taken := db.val.devices.map (·.macAddress)
  added items := { db.val with
    devices := addRows db.val.devices (·.id) (fun _ id body => body.row platform id now) items }

def nasImport (rules : NasRules) (db : Database) : Import NasIn where
  kind := .nas
  build := buildNas rules db.val
  key := (·.ipAddress)
  taken := db.val.nasClients.map (·.ipAddress)
  added items := { db.val with
    nasClients := addRows db.val.nasClients (·.id) (fun _ id body => body.row id) items }

section

variable {α : Type} {imp : Import α} {rows : List CsvRow} {item : α}

/-- The keys of what is added are new and distinct, so the column of the keys stays unique. -/
theorem nodup_keys_items (htaken : imp.taken.Nodup) :
    (imp.taken ++ (imp.items rows).map imp.key).Nodup := by
  have hadds := adds_importRows imp rows
  refine htaken.append hadds.once fun key hold hnew => ?_
  obtain ⟨item, hitem, rfl⟩ := List.mem_map.mp hnew
  obtain ⟨before, row, after, -, -, hfresh, -⟩ := (hadds.first item).mp hitem
  exact hfresh hold

theorem build_of_mem_items (h : item ∈ imp.items rows) : ∃ row, imp.build row = .ok item := by
  obtain ⟨before, row, after, -, hbuild, -⟩ := ((adds_importRows imp rows).first item).mp h
  exact ⟨row.2, hbuild⟩

end

section

variable {digest : Nat → String} {role : AdminRole} {platform : Platform} {now : Int}
  {rules : NasRules} {db : Database} {data : Bytes} {rows : List CsvRow}

theorem consistent_usersImport :
    ((usersImport digest role db).added ((usersImport digest role db).items rows)).Consistent := by
  generalize himp : usersImport digest role db = imp
  have hkeys := @nodup_keys_items _ imp rows
  have hitems := @build_of_mem_items _ imp rows
  subst himp
  generalize (usersImport digest role db).items rows = items at hkeys hitems ⊢
  have hdb := db.property
  let make i id (body : UserCreate) := body.row id (digest i)
  have hids : ((addRows db.val.users (·.id) make items).map (·.id)).Nodup :=
    nodup_ids_addRows (fun _ _ _ => rfl) hdb.userIds
  have hname : ∀ i id body, (make i id body).username = body.username := fun _ _ _ => rfl
  have hnames : ((addRows db.val.users (·.id) make items).map (·.username)).Nodup := by
    rw [map_addRows hname]
    exact hkeys hdb.usernames
  have hgroups : ∀ user ∈ addRows db.val.users (·.id) make items, ∀ id ∈ user.groupId,
      ∃ group ∈ db.val.groups, group.id = id := by
    refine forall_mem_addRows hdb.userGroups fun i _ item hitem id hid => ?_
    obtain ⟨row, hbuild⟩ := hitems hitem
    obtain ⟨group, hgroup, hsame, -⟩ := group_of_buildUser hbuild hid
    exact ⟨group, hgroup, hsame⟩
  exact { hdb with userIds := hids, usernames := hnames, userGroups := hgroups }

theorem consistent_devicesImport :
    ((devicesImport platform now db).added
      ((devicesImport platform now db).items rows)).Consistent := by
  have hkeys := @nodup_keys_items _ (devicesImport platform now db) rows db.property.deviceMacs
  generalize (devicesImport platform now db).items rows = items at hkeys ⊢
  have hdb := db.property
  let make (_ id : Nat) (body : DeviceCreate) := body.row platform id now
  have hids : ((addRows db.val.devices (·.id) make items).map (·.id)).Nodup :=
    nodup_ids_addRows (fun _ _ _ => rfl) hdb.deviceIds
  have hmac : ∀ i id body, (make i id body).macAddress = body.macAddress := fun _ _ _ => rfl
  have hmacs : ((addRows db.val.devices (·.id) make items).map (·.macAddress)).Nodup := by
    rw [map_addRows hmac]
    exact hkeys
  exact { hdb with deviceIds := hids, deviceMacs := hmacs }

/-! ### Network devices -/

theorem checkPort_range {port : String} {value : Option Nat} (h : checkPort rules port = .ok value) :
    ∀ port ∈ value, 1 ≤ port ∧ port ≤ 65535 := by
  unfold checkPort at h
  split at h
  · cases h
    nofun
  · split at h
    · cases h
    · split at h
      · cases h
      · split at h
        · cases h
        · cases h
          intro port hport
          cases hport
          omega

theorem vendorPort_range {key : String} (h : (vendors.lookup key).isSome = true) :
    1 ≤ vendorPort key ∧ vendorPort key ≤ 65535 := by
  obtain ⟨found, hfound⟩ := Option.isSome_iff_exists.mp h
  have hall : ∀ entry ∈ vendors, 1 ≤ entry.2.coaPort ∧ entry.2.coaPort ≤ 65535 := by decide
  obtain ⟨before, after, hsplit, -⟩ := List.lookup_eq_some_iff.mp hfound
  rw [vendorPort, vendor, hfound]
  exact hall (key, found) (by rw [hsplit]; simp)

theorem port_of_validate {name address secret vendor port authenticator description enabled : String}
    {body : NasIn}
    (h : NasIn.validate rules name address secret vendor port authenticator description enabled =
      .ok body) (id : Nat) : 1 ≤ (body.row id).coaPort ∧ (body.row id).coaPort ≤ 65535 := by
  simp only [NasIn.validate, bind_eq_ok_iff] at h
  obtain ⟨name', -, name, -, h⟩ := h
  split at h
  · cases h
  · simp only [bind_eq_ok_iff] at h
    obtain ⟨address', -, address, -, secret', -, secret, -, secret'', -, h⟩ := h
    generalize (if vendor = "" then defaultVendor else vendor) = vendor at h
    split at h
    · cases h
    · next hvendor =>
        simp only [bind_eq_ok_iff] at h
        obtain ⟨coaPort, hport, description, -, h⟩ := h
        cases h
        cases coaPort with
        | none =>
            rw [Option.isNone_iff_eq_none, ← Option.not_isSome_iff_eq_none, not_not] at hvendor
            exact vendorPort_range hvendor
        | some port => exact checkPort_range hport port rfl

theorem buildNas_eq_ok {t : Tables} {row : Dict String String} {body : NasIn}
    (h : buildNas rules t row = .ok body) (id : Nat) :
    (∀ nas ∈ t.nasClients, nas.name ≠ body.name) ∧
      1 ≤ (body.row id).coaPort ∧ (body.row id).coaPort ≤ 65535 := by
  rw [buildNas, bind_eq_ok_iff] at h
  obtain ⟨validated, hvalidate, h⟩ := h
  split at h
  · cases h
  · next hname =>
      cases h
      exact ⟨by simpa using hname, port_of_validate hvalidate id⟩

/-- No two of the entries that a file is to add have one name. -/
def NamesApart (rules : NasRules) (db : Database) (rows : List CsvRow) : Prop :=
  ∀ a b, (nasImport rules db).FirstOfNewKey rows a → (nasImport rules db).FirstOfNewKey rows b →
    a.name = b.name → a.ipAddress = b.ipAddress

theorem consistent_nasImport_iff :
    ((nasImport rules db).added ((nasImport rules db).items rows)).Consistent ↔
      NamesApart rules db rows := by
  have hkeys := @nodup_keys_items _ (nasImport rules db) rows db.property.nasAddresses
  have hadds := adds_importRows (nasImport rules db) rows
  have hitems := @build_of_mem_items _ (nasImport rules db) rows
  simp only [NamesApart, ← hadds.first]
  have honce : ((nasImport rules db).items rows |>.map (·.ipAddress)).Nodup := hadds.once
  generalize (nasImport rules db).items rows = items at hkeys hitems honce ⊢
  have hdb := db.property
  let make (_ id : Nat) (body : NasIn) := body.row id
  have hname : ∀ i id body, (make i id body).name = body.name := fun _ _ _ => rfl
  have haddress : ∀ i id body, (make i id body).ipAddress = body.ipAddress := fun _ _ _ => rfl
  constructor
  · intro h a b ha hb hsame
    have hnames : ((addRows db.val.nasClients (·.id) make items).map (·.name)).Nodup := h.nasNames
    rw [map_addRows hname] at hnames
    exact congrArg _ (Rows.eq_of_key hnames.of_append_right ha hb hsame)
  · intro h
    have hids : ((addRows db.val.nasClients (·.id) make items).map (·.id)).Nodup :=
      nodup_ids_addRows (fun _ _ _ => rfl) hdb.nasIds
    have hnames : ((addRows db.val.nasClients (·.id) make items).map (·.name)).Nodup := by
      rw [map_addRows hname]
      refine hdb.nasNames.append (honce.of_map.map_on fun a ha b hb hsame => ?_) ?_
      · exact Rows.eq_of_key honce ha hb (h a b ha hb hsame)
      · intro name hold hnew
        obtain ⟨nas, hnas, rfl⟩ := List.mem_map.mp hold
        obtain ⟨item, hitem, hsame⟩ := List.mem_map.mp hnew
        obtain ⟨row, hbuild⟩ := hitems hitem
        exact (buildNas_eq_ok hbuild 0).1 nas hnas hsame.symm
    have haddresses : ((addRows db.val.nasClients (·.id) make items).map (·.ipAddress)).Nodup := by
      rw [map_addRows haddress]
      exact hkeys
    have hports : ∀ nas ∈ addRows db.val.nasClients (·.id) make items,
        1 ≤ nas.coaPort ∧ nas.coaPort ≤ 65535 := by
      refine forall_mem_addRows hdb.nasPorts fun _ id item hitem => ?_
      obtain ⟨row, hbuild⟩ := hitems hitem
      exact (buildNas_eq_ok hbuild id).2
    exact { hdb with
      nasIds := hids, nasNames := hnames, nasAddresses := haddresses, nasPorts := hports }

/-! ### The routes -/

theorem importUsersFile_eq_run (h : role.allows .operator = true) :
    importUsersFile digest role data db =
      (usersImport digest role db).run "users changed while importing — run the import again"
        (fun _ => []) data := by
  have hrole := require_eq_ok_iff.mpr h
  simp only [importUsersFile, importUsers, writeUsers, hrole]
  rfl

theorem importDevicesFile_eq_run (h : role.allows .operator = true) :
    importDevicesFile platform now role data db =
      (devicesImport platform now db).run "devices changed while importing — run the import again"
        (fun items => if items = [] then [] else ["devices imported"]) data := by
  have hrole := require_eq_ok_iff.mpr h
  simp only [importDevicesFile, importDevices, hrole]
  rfl

theorem importNasFile_eq_run (h : role.allows .superuser = true) :
    importNasFile rules role data db =
      (nasImport rules db).run "NAS clients changed while importing — run the import again"
        (fun _ => []) data := by
  have hrole := require_eq_ok_iff.mpr h
  simp only [importNasFile, importNas, hrole]
  rfl

end

/-- Imports of users and of devices go through when the `csv` reader does not raise; one of network
devices also needs the names of what it adds to be distinct. All errors are listed when there are at most
a hundred. -/
theorem imports_tolerate_iff (digest : Nat → String) (platform : Platform) (now : Int) (rules : NasRules)
    (role : AdminRole) (db : Database) (data : Bytes) (header : List String)
    (rest : List (List Char)) :
    (Upload .users data header rest → role.allows .operator = true →
      ((usersImport digest role db).Tolerates header rest (importUsersFile digest role data db) ↔
        Returns (Csv.Reader.records {} rest)) ∧
      ((usersImport digest role db).ToleratesListingAll header rest
          (importUsersFile digest role data db) ↔
        ∃ records, Csv.Reader.records {} rest = .ok records ∧
          ((usersImport digest role db).failures (numberRows header records)).length ≤ maxErrors)) ∧
    (Upload .devices data header rest → role.allows .operator = true →
      ((devicesImport platform now db).Tolerates header rest
          (importDevicesFile platform now role data db) ↔
        Returns (Csv.Reader.records {} rest)) ∧
      ((devicesImport platform now db).ToleratesListingAll header rest
          (importDevicesFile platform now role data db) ↔
        ∃ records, Csv.Reader.records {} rest = .ok records ∧
          ((devicesImport platform now db).failures (numberRows header records)).length ≤ maxErrors)) ∧
    (Upload .nas data header rest → role.allows .superuser = true →
      ((nasImport rules db).Tolerates header rest (importNasFile rules role data db) ↔
        ∃ records, Csv.Reader.records {} rest = .ok records ∧
          NamesApart rules db (numberRows header records)) ∧
      ((nasImport rules db).ToleratesListingAll header rest (importNasFile rules role data db) ↔
        ∃ records, Csv.Reader.records {} rest = .ok records ∧
          NamesApart rules db (numberRows header records) ∧
          ((nasImport rules db).failures (numberRows header records)).length ≤ maxErrors)) := by
  refine ⟨fun hupload hrole => ?_, fun hupload hrole => ?_, fun hupload hrole => ?_⟩
  · rw [importUsersFile_eq_run hrole, tolerates_run_iff hupload, toleratesListingAll_run_iff hupload]
    simp only [consistent_usersImport, and_true, true_and, Returns, and_self]
  · rw [importDevicesFile_eq_run hrole, tolerates_run_iff hupload, toleratesListingAll_run_iff hupload]
    simp only [consistent_devicesImport, and_true, true_and, Returns, and_self]
  · rw [importNasFile_eq_run hrole, tolerates_run_iff hupload, toleratesListingAll_run_iff hupload]
    simp only [consistent_nasImport_iff, and_self]

/-! ### Two switches of one name -/

/-- A text that does not start with a byte order mark, as a file. -/
theorem upload_encode {kind : ImportKind} {text : String} {header : List String}
    {rest : List (List Char)} {records : List (List String)}
    (h : (encode text).length ≤ maxBytes ∧ (encode text).take 3 ≠ [0xef, 0xbb, 0xbf] ∧
      Csv.Reader.next {} (Csv.lines text.toList) = .ok (some header, rest) ∧
      (∀ name ∈ kind.required, name ∈ header.map strip) ∧
      Csv.Reader.records {} rest = .ok records ∧ records.length ≤ kind.rowLimit) :
    Upload kind (encode text) header rest := by
  obtain ⟨hsize, hmark, hnext, hcolumns, hrecords, hlimit⟩ := h
  refine ⟨hsize, ⟨text, ?_, hnext⟩, hcolumns, fun read hread => ?_⟩
  · rw [decodeUtf8Sig, if_neg hmark, decodeStrict_encode]
  · obtain rfl := Except.ok.inj (hrecords.symm.trans hread)
    rw [numberRows, List.length_mapIdx]
    exact (List.length_filter_le _ _).trans hlimit

/-- The lines of a file after its header. -/
def linesAfterHeader (text : String) : List (List Char) :=
  (Csv.lines text.toList).drop 1

def twinsFile : String :=
  "name,ip_address,secret\nsw1,10.0.0.1,one-shared-secret\nsw1,10.0.0.2,two-shared-secret\n"

def twins : List (List String) :=
  [["sw1", "10.0.0.1", "one-shared-secret"], ["sw1", "10.0.0.2", "two-shared-secret"]]

def sixteenCharacters : NasRules where
  secretMinLength := 16
  intOfString := fun _ => none

theorem upload_twinsFile :
    Upload .nas (encode twinsFile) ["name", "ip_address", "secret"] (linesAfterHeader twinsFile) :=
  @upload_encode _ _ _ _ twins (by decide +kernel)

/-- A file with two new addresses under one new name is discarded as a whole. -/
theorem import_discards_twins :
    ¬ ∀ (rules : NasRules) (db : Database) (data : Bytes) (header : List String)
      (rest : List (List Char)), Upload .nas data header rest →
        (nasImport rules db).Tolerates header rest (importNasFile rules .superuser data db) := by
  intro hall
  obtain ⟨outcome, result, hresponse, -⟩ := hall sixteenCharacters ⟨{}, by decide⟩ _ _ _ upload_twinsFile
  have hconflict : ¬ ((nasImport sixteenCharacters ⟨{}, by decide⟩).added
      ((nasImport sixteenCharacters ⟨{}, by decide⟩).items
        (numberRows ["name", "ip_address", "secret"] twins))).Consistent := by decide +kernel
  rw [importNasFile_eq_run rfl, run_eq_conflict upload_twinsFile (by decide +kernel) hconflict] at hresponse
  cases hresponse

/-- A user, one whose password is too short, and the first once more. -/
def usersFile : String :=
  "username,password\nann,correct-horse\nbob,short\nANN,another-horse\n"

def devicesFile : String :=
  "mac_address\naa-bb-cc-00-00-01\nprinter\nAABB.CC00.0001\n"

theorem upload_usersFile :
    Upload .users (encode usersFile) ["username", "password"] (linesAfterHeader usersFile) :=
  @upload_encode _ _ _ _ [["ann", "correct-horse"], ["bob", "short"], ["ANN", "another-horse"]]
    (by decide +kernel)

theorem upload_devicesFile :
    Upload .devices (encode devicesFile) ["mac_address"] (linesAfterHeader devicesFile) :=
  @upload_encode _ _ _ _ [["aa-bb-cc-00-00-01"], ["printer"], ["AABB.CC00.0001"]] (by decide +kernel)

theorem imports_tolerate_iff_plain :
    (usersImport Nat.repr .operator ⟨{}, by decide⟩).Tolerates ["username", "password"]
        (linesAfterHeader usersFile)
        (importUsersFile Nat.repr .operator (encode usersFile) ⟨{}, by decide⟩) ∧
      (devicesImport utcPlatform 0 ⟨{}, by decide⟩).ToleratesListingAll ["mac_address"]
        (linesAfterHeader devicesFile)
        (importDevicesFile utcPlatform 0 .operator (encode devicesFile) ⟨{}, by decide⟩) ∧
      ((nasImport sixteenCharacters ⟨{}, by decide⟩).Tolerates ["name", "ip_address", "secret"]
          (linesAfterHeader twinsFile)
          (importNasFile sixteenCharacters .superuser (encode twinsFile) ⟨{}, by decide⟩) ↔
        ∃ records, Csv.Reader.records {} (linesAfterHeader twinsFile) = .ok records ∧
          NamesApart sixteenCharacters ⟨{}, by decide⟩
            (numberRows ["name", "ip_address", "secret"] records)) := by
  refine ⟨?_, ?_, ?_⟩
  · refine ((imports_tolerate_iff Nat.repr utcPlatform 0 sixteenCharacters .operator ⟨{}, by decide⟩ _ _
      _).1 upload_usersFile rfl).1.mpr
        ⟨[["ann", "correct-horse"], ["bob", "short"], ["ANN", "another-horse"]], by decide +kernel⟩
  · refine ((imports_tolerate_iff Nat.repr utcPlatform 0 sixteenCharacters .operator ⟨{}, by decide⟩ _ _
      _).2.1 upload_devicesFile rfl).2.mpr
        ⟨[["aa-bb-cc-00-00-01"], ["printer"], ["AABB.CC00.0001"]], by decide +kernel⟩
  · exact ((imports_tolerate_iff Nat.repr utcPlatform 0 sixteenCharacters .superuser ⟨{}, by decide⟩ _ _
      _).2.2 upload_twinsFile rfl).1

end Naco
