import Naco.Proof.Imports
import Naco.Proof.Netutils
import Naco.Routes.Export

/-!
# What is read from an export

Exports hold texts that come from outside: descriptions, user names, what a device told of itself. A
reader of the file finds one record for each row, with the cells of that row, whatever the texts are,
and no cell that a spreadsheet would take for a formula.

The quote in front of a formula is there for spreadsheets. An import does not take it off again, so a
device comes back as it was exactly when none of its texts needed one and none is padded with spaces.
-/

namespace Naco

open Py

/-! ### Cells -/

theorem startsFormula_safeCell (value : CellValue) : startsFormula (safeCell value) = false := by
  rw [safeCell]
  cases h : startsFormula value.str with
  | true =>
      rw [if_pos rfl, startsFormula, String.toList_append]
      rfl
  | false => rwa [if_neg Bool.false_ne_true]

/-- The characters of a file with these rows. -/
theorem toList_csvText (headers : List String) (rows : List (List CellValue)) :
    (csvText headers rows).toList = Csv.writeRows (headers :: rows.map (·.map safeCell)) := by
  rw [csvText, String.toList_ofList]

/-! ### Tables -/

/-- The columns of an export. -/
def ImportKind.columns : ImportKind → List String
  | .users => userColumns
  | .devices => deviceColumns
  | .nas => nasColumns

/-- The rows of an export. -/
def exportRows (kind : ImportKind) (t : Tables) : List (List CellValue) :=
  match kind with
  | .users => (orderBy (·.username) t.users).map (userCells t)
  | .devices => (orderBy (·.macAddress) t.devices).map deviceCells
  | .nas => (orderBy (·.name) t.nasClients).map nasCells

theorem exportTables_eq (kind : ImportKind) (t : Tables) :
    exportTables kind t = csvText kind.columns (exportRows kind t) := by
  cases kind <;> rfl

/-- The reader takes every cell of the export. -/
def CellsReadable (kind : ImportKind) (t : Tables) : Prop :=
  ∀ row ∈ exportRows kind t, ∀ value ∈ row, Csv.Readable (safeCell value)

theorem records_exportTables {kind : ImportKind} {t : Tables} (h : CellsReadable kind t) :
    Csv.Reader.records {} (Csv.lines (exportTables kind t).toList) =
      .ok (kind.columns :: (exportRows kind t).map (·.map safeCell)) := by
  have hcolumns : ∀ name ∈ kind.columns, Csv.Readable name := by
    cases kind <;> decide
  rw [exportTables_eq, toList_csvText]
  refine Csv.records_writeRows (List.forall_mem_cons.mpr ⟨hcolumns, ?_⟩)
  intro row hrow cell hcell
  obtain ⟨values, hvalues, rfl⟩ := List.mem_map.mp hrow
  obtain ⟨value, hvalue, rfl⟩ := List.mem_map.mp hcell
  exact h values hvalues value hvalue

/-- An export is read as its columns and one record for each row, and no cell starts a formula: it is
the value, or the value behind a quote. -/
theorem exports_read_back (kind : ImportKind) (t : Tables) (h : CellsReadable kind t) :
    ∃ records, Csv.Reader.records {} (Csv.lines (exportTables kind t).toList) =
        .ok (kind.columns :: records) ∧
      List.Forall₂ (List.Forall₂ fun cell (value : CellValue) => startsFormula cell = false ∧
        (cell = value.str ∨ startsFormula value.str = true ∧ cell = "'" ++ value.str))
        records (exportRows kind t) := by
  refine ⟨_, records_exportTables h, ?_⟩
  rw [List.forall₂_map_left_iff, List.forall₂_same]
  intro row _
  rw [List.forall₂_map_left_iff, List.forall₂_same]
  intro value _
  refine ⟨startsFormula_safeCell value, ?_⟩
  rw [safeCell]
  split
  · exact .inr ⟨by assumption, rfl⟩
  · exact .inl rfl

/-! ### Devices -/

/-- A text that an import reads as it was exported. -/
def PlainText (text : String) : Prop :=
  startsFormula text = false ∧ strip text = text

instance (text : String) : Decidable (PlainText text) :=
  inferInstanceAs (Decidable (_ ∧ _))

theorem head?_strip_quote (text : String) : (strip ("'" ++ text)).toList.head? = some '\'' := by
  rw [strip, String.toList_ofList, String.toList_append]
  exact head?_dropEnds_cons (by decide) _

theorem strip_safeCell_eq_iff {text : String} :
    strip (safeCell (.text text)) = text ↔ PlainText text := by
  rw [safeCell, CellValue.str, PlainText]
  cases h : startsFormula text with
  | false => simp
  | true =>
      rw [if_pos rfl]
      refine iff_of_false (fun hsame => ?_) fun hplain => Bool.noConfusion hplain.1
      -- the quote stays in front, and no formula starts with one
      have hhead := head?_strip_quote text
      rw [hsame] at hhead
      rw [startsFormula, hhead] at h
      cases h

/-- What every writer of devices sees to: the address in normal form, and texts within their limits. -/
structure Device.Stored (device : Device) : Prop where
  mac : normalizeMac (some device.macAddress) = some device.macAddress
  deviceType : device.deviceType.toList.length ≤ 64
  vendor : device.vendor.toList.length ≤ 128
  description : device.description.toList.length ≤ 255
  notes : device.notes.toList.length ≤ 4000
  lastSeen : Representable device.lastSeen

/-- The texts of a device that an import reads. -/
def Device.Plain (device : Device) : Prop :=
  PlainText device.deviceType ∧ PlainText device.description ∧ PlainText device.notes

/-- The item that an import makes of an exported device. -/
def Device.reimported (device : Device) : DeviceCreate where
  macAddress := device.macAddress
  status := device.status
  deviceType := strip (safeCell (.text device.deviceType))
  description := strip (safeCell (.text device.description))
  notes := strip (safeCell (.text device.notes))

/-- The quote makes a text longer, and it may then be too long. -/
def Device.Fits (device : Device) : Prop :=
  device.reimported.deviceType.toList.length ≤ 64 ∧
    device.reimported.description.toList.length ≤ 255 ∧ device.reimported.notes.toList.length ≤ 4000

/-- The row that an import reads of an exported device; `cell_csvRow` says what is in it. -/
@[irreducible]
def Device.csvRow (device : Device) : Dict String String :=
  stripRow (dictRow deviceColumns ((deviceCells device).map safeCell))

/-- The cell of a column, when the columns are distinct and written without spaces around. -/
theorem cell_stripRow {header record : List String} {name value : String} (hnodup : header.Nodup)
    (hnames : ∀ name ∈ header, name ≠ "" ∧ strip name = name) (hlength : record.length = header.length)
    {i : Nat} (hname : header[i]? = some name) (hvalue : record[i]? = some value) :
    cell (stripRow (dictRow header record)) name = strip value := by
  have hmem : (name, value) ∈ header.zip record :=
    List.mem_of_getElem? (List.getElem?_zip_eq_some.mpr ⟨hname, hvalue⟩)
  have hkeys : (header.zip record).map Prod.fst = header := List.map_fst_zip hlength.ge
  have hread : (dictRow header record).items = header.zip record := by
    rw [dictRow, hlength, Nat.sub_self, List.replicate_zero, List.append_nil]
    refine Dict.items_foldl_set ?_
    rw [Dict.empty, List.nil_append, hkeys]
    exact hnodup
  have hfilter : (header.zip record).filter (·.1 ≠ "") = header.zip record := by
    refine List.filter_eq_self.mpr fun item hitem => ?_
    exact decide_eq_true (hnames item.1 (List.of_mem_zip hitem).1).1
  have hnodup' : ((header.zip record).map fun item => strip item.1).Nodup := by
    have hsame : (header.zip record).map (fun item => strip item.1) = header := by
      calc
        (header.zip record).map (fun item => strip item.1) = (header.zip record).map Prod.fst :=
          List.map_congr_left fun item hitem => (hnames item.1 (List.of_mem_zip hitem).1).2
        _ = header := hkeys
    rw [hsame]
    exact hnodup
  have hfound : (header.zip record).find? (fun item => strip item.1 = name) = some (name, value) := by
    refine (Rows.find?_eq_some_iff hnodup').mpr ⟨hmem, ?_⟩
    exact (hnames name (List.of_mem_zip hmem).1).2
  have hget := @Dict.get?_foldl_set String String _ (String × String) _ (fun item => strip item.2) _
    hnodup' Dict.empty name
  rw [cell, stripRow, hread, hfilter, hget, hfound]
  rfl

theorem cell_csvRow (device : Device) :
    cell device.csvRow "mac_address" = strip (safeCell (.text device.macAddress)) ∧
      cell device.csvRow "status" = strip (safeCell (.text device.status.value)) ∧
      cell device.csvRow "device_type" = strip (safeCell (.text device.deviceType)) ∧
      cell device.csvRow "description" = strip (safeCell (.text device.description)) ∧
      cell device.csvRow "notes" = strip (safeCell (.text device.notes)) := by
  have hnodup : deviceColumns.Nodup := by
    simp [deviceColumns]
  have hnames : ∀ name ∈ deviceColumns, name ≠ "" ∧ strip name = name :=
    forall_mem_of_all (by decide)
  have hcell {name value : String} (i : Nat) (hname : deviceColumns[i]? = some name)
      (hvalue : ((deviceCells device).map safeCell)[i]? = some value) :
      cell device.csvRow name = strip value := by
    unfold Device.csvRow
    exact cell_stripRow hnodup hnames (List.length_map _) hname hvalue
  exact ⟨hcell 0 rfl rfl, hcell 1 rfl rfl, hcell 2 rfl rfl, hcell 4 rfl rfl, hcell 5 rfl rfl⟩

theorem strip_safeCell_mac {mac : String} (h : normalizeMac (some mac) = some mac) :
    strip (safeCell (.text mac)) = mac := by
  refine strip_safeCell_eq_iff.mpr ⟨?_, (normalizeMac_of_eq_some h).2.2⟩
  rw [startsFormula, Option.any_eq_false]
  intro c hc
  refine decide_eq_false fun hformula => ?_
  have hstart : ∀ c ∈ formulaStarts, c ≠ ':' ∧ isHexDigit c = false :=
    forall_mem_of_all (by decide)
  obtain ⟨hcolon, hhex⟩ := hstart c hformula
  rcases plain_of_normalizeMac h c (List.mem_of_head? hc) with hc | hc
  · exact hcolon hc
  · exact Bool.false_ne_true (hhex.symm.trans hc.1)

theorem atMost_eq_ok_iff {field value value' : String} {limit : Nat} :
    atMost field limit value = .ok value' ↔ value.toList.length ≤ limit ∧ value' = value := by
  rw [atMost]
  split
  · next h => simp [h, eq_comm]
  · next h => simp [h, invalid]

theorem status_of_cell (status : DeviceStatus) :
    strip (safeCell (.text status.value)) = status.value ∧ status.value ≠ "" ∧
      deviceStatuses.find? (·.value = upper status.value) = some status := by
  cases status <;> decide

theorem buildDevice_csvRow {device : Device} (h : device.Stored) {body : DeviceCreate} :
    buildDevice device.csvRow = .ok body ↔ device.Fits ∧ body = device.reimported := by
  obtain ⟨hmac, hstatus, htype, hdescription, hnotes⟩ := cell_csvRow device
  obtain ⟨hcell, hgiven, hfound⟩ := status_of_cell device.status
  have hnonempty : device.macAddress ≠ "" := by
    intro hempty
    have hlength := (normalizeMac_of_eq_some h.mac).2.1
    rw [hempty] at hlength
    cases hlength
  rw [buildDevice, hmac, hstatus, htype, hdescription, hnotes, strip_safeCell_mac h.mac, hcell,
    DeviceCreate.validate, required, if_neg hnonempty]
  simp only [bind_eq_ok_iff, Except.ok.injEq, exists_eq_left', h.mac, if_neg hgiven, hfound,
    atMost_eq_ok_iff, Device.Fits, Device.reimported]
  constructor
  · rintro ⟨_, ⟨htype, rfl⟩, _, ⟨hdescription, rfl⟩, _, ⟨hnotes, rfl⟩, hbody⟩
    exact ⟨⟨htype, hdescription, hnotes⟩, (Except.ok.inj hbody).symm⟩
  · rintro ⟨⟨htype, hdescription, hnotes⟩, rfl⟩
    exact ⟨_, ⟨htype, rfl⟩, _, ⟨hdescription, rfl⟩, _, ⟨hnotes, rfl⟩, rfl⟩

theorem fits_of_plain {device : Device} (h : device.Stored) (hplain : device.Plain) : device.Fits := by
  obtain ⟨htype, hdescription, hnotes⟩ := hplain
  rw [Device.Fits, Device.reimported, strip_safeCell_eq_iff.mpr htype,
    strip_safeCell_eq_iff.mpr hdescription, strip_safeCell_eq_iff.mpr hnotes]
  exact ⟨h.deviceType, h.description, h.notes⟩

/-! ### The file -/

/-- The rows that an import reads of an export of devices. -/
def exportedRows (t : Tables) : List CsvRow :=
  (orderBy (·.macAddress) t.devices).mapIdx fun i device => (i + 2, device.csvRow)

theorem mem_orderBy {α : Type} {column : α → String} {rows : List α} {row : α} :
    row ∈ orderBy column rows ↔ row ∈ rows :=
  List.mem_insertionSort _

theorem exists_device_of_mem {t : Tables} {row : CsvRow} (h : row ∈ exportedRows t) :
    ∃ device ∈ t.devices, row.2 = device.csvRow := by
  obtain ⟨i, hi, rfl⟩ := List.mem_mapIdx.mp h
  exact ⟨_, mem_orderBy.mp (List.getElem_mem hi), rfl⟩

theorem exists_row_of_mem {t : Tables} {device : Device} (h : device ∈ t.devices) :
    ∃ row ∈ exportedRows t, row.2 = device.csvRow := by
  obtain ⟨i, hi, hget⟩ := List.mem_iff_getElem.mp (mem_orderBy.mpr h)
  exact ⟨_, List.mem_mapIdx.mpr ⟨i, hi, rfl⟩, congrArg Device.csvRow hget⟩

theorem numberRows_export (t : Tables) :
    numberRows deviceColumns ((exportRows .devices t).map (·.map safeCell)) = exportedRows t := by
  have hfilter : ((exportRows .devices t).map (·.map safeCell)).filter (· ≠ []) =
      (exportRows .devices t).map (·.map safeCell) := by
    refine List.filter_eq_self.mpr fun record hrecord => ?_
    obtain ⟨values, hvalues, rfl⟩ := List.mem_map.mp hrecord
    obtain ⟨device, -, rfl⟩ := List.mem_map.mp hvalues
    exact decide_eq_true (List.cons_ne_nil _ _)
  unfold numberRows exportedRows
  rw [hfilter]
  refine List.ext_getElem (by simp [exportRows]) fun i _ _ => ?_
  rw [List.getElem_mapIdx, List.getElem_mapIdx, List.getElem_map]
  unfold Device.csvRow exportRows
  rw [List.getElem_map]

theorem readable_safeCell {value : CellValue} (h : value.str.toList.length < Csv.fieldLimit) :
    Csv.Readable (safeCell value) := by
  rw [safeCell]
  split
  · rw [Csv.Readable, String.toList_append, List.length_append]
    exact (Nat.add_comm 1 _).trans_le h
  · exact h.le

theorem cellsReadable_devices {t : Tables} (h : ∀ device ∈ t.devices, device.Stored) :
    CellsReadable .devices t := by
  intro row hrow value hvalue
  obtain ⟨device, hdevice, rfl⟩ := List.mem_map.mp hrow
  have hstored := h device (mem_orderBy.mp hdevice)
  refine readable_safeCell ?_
  have hlimit : Csv.fieldLimit = 131072 := rfl
  rw [hlimit]
  have hmac := (normalizeMac_of_eq_some hstored.mac).2.1
  have htype := hstored.deviceType
  have hvendor := hstored.vendor
  have hdescription := hstored.description
  have hnotes := hstored.notes
  have hseen := length_isoformatUtc_le hstored.lastSeen
  have hstatus : device.status.value.toList.length ≤ 8 := by
    cases device.status <;> decide
  simp only [deviceCells, List.mem_cons, List.not_mem_nil, or_false] at hvalue
  rcases hvalue with rfl | rfl | rfl | rfl | rfl | rfl | rfl <;> rw [CellValue.str] <;> omega

/-- The header of an export is read first. -/
theorem exists_next_of_records {r : Csv.Reader} {lines : List (List Char)} {header : List String}
    {records : List (List String)} (h : r.records lines = .ok (header :: records)) :
    ∃ rest, r.next lines = .ok (some header, rest) ∧ Csv.Reader.records {} rest = .ok records := by
  induction lines generalizing r with
  | nil =>
      have hfinish : r.finish.toList = header :: records := Except.ok.inj h
      cases hr : r.finish with
      | none =>
          rw [hr] at hfinish
          cases hfinish
      | some found =>
          rw [hr] at hfinish
          obtain ⟨rfl, rfl⟩ := List.cons.inj hfinish
          exact ⟨[], congrArg (fun row => Except.ok (row, [])) hr, rfl⟩
  | cons line lines ih =>
      rw [Csv.Reader.records, bind_eq_ok_iff] at h
      obtain ⟨read, hread, h⟩ := h
      rw [Csv.Reader.next, hread]
      by_cases hstate : read.state = .startRecord
      · rw [if_pos hstate, bind_eq_ok_iff] at h
        obtain ⟨later, hlater, hrows⟩ := h
        obtain ⟨rfl, rfl⟩ := List.cons.inj (Except.ok.inj hrows)
        exact ⟨lines, if_pos hstate, hlater⟩
      · rw [if_neg hstate] at h
        obtain ⟨rest, hnext, hrest⟩ := ih h
        exact ⟨rest, (if_neg hstate).trans hnext, hrest⟩

/-- The file starts with a letter and not with a byte order mark. -/
theorem not_mark_export (t : Tables) :
    (encode (exportTables .devices t)).take 3 ≠ [0xef, 0xbb, 0xbf] := by
  obtain ⟨rest, hrest⟩ : ∃ rest, (exportTables .devices t).toList = 'm' :: rest := by
    rw [exportTables_eq, toList_csvText]
    exact ⟨_, rfl⟩
  rw [encode, hrest, List.flatMap_cons]
  intro h
  have hbyte : (0x6d : UInt8) = 0xef := (List.cons.inj h).1
  exact absurd hbyte (by decide)

theorem exists_upload_export {t : Tables} (hstored : ∀ device ∈ t.devices, device.Stored)
    (hsize : (encode (exportTables .devices t)).length ≤ maxBytes)
    (hcount : t.devices.length ≤ ImportKind.devices.rowLimit) :
    ∃ rest, Upload .devices (encode (exportTables .devices t)) deviceColumns rest ∧
      Csv.Reader.records {} rest = .ok ((exportRows .devices t).map (·.map safeCell)) := by
  obtain ⟨rest, hnext, hrest⟩ :=
    exists_next_of_records (records_exportTables (cellsReadable_devices hstored))
  refine ⟨rest, upload_encode ⟨hsize, not_mark_export t, hnext, ?_, hrest, ?_⟩, hrest⟩
  · intro name hname
    obtain rfl := List.mem_singleton.mp hname
    exact List.mem_map.mpr ⟨"mac_address", List.mem_cons_self, by decide⟩
  · rw [List.length_map, exportRows, List.length_map, orderBy, List.length_insertionSort]
    exact hcount

/-! ### The import of an export -/

/-- When a key determines the item, the first row of a new key is any row of it. -/
theorem Import.firstOfNewKey_iff {α : Type} {imp : Import α} {rows : List CsvRow} {item : α}
    (hkeys : ∀ row ∈ rows, ∀ other, imp.build row.2 = .ok other → imp.key other = imp.key item →
      other = item) :
    imp.FirstOfNewKey rows item ↔
      (∃ row ∈ rows, imp.build row.2 = .ok item) ∧ imp.key item ∉ imp.taken := by
  classical
  constructor
  · rintro ⟨before, row, after, rfl, hbuild, hnew, -⟩
    exact ⟨⟨row, by simp, hbuild⟩, hnew⟩
  · rintro ⟨⟨row, hrow, hbuild⟩, hnew⟩
    cases hfirst : rows.find? fun row => decide (imp.build row.2 = .ok item) with
    | none =>
        have hnot := List.find?_eq_none.mp hfirst row hrow
        exact absurd (decide_eq_true hbuild) hnot
    | some found =>
        obtain ⟨hfound, before, after, hsplit, hbefore⟩ := List.find?_eq_some_iff_append.mp hfirst
        refine ⟨before, found, after, hsplit, of_decide_eq_true hfound, hnew, ?_⟩
        intro earlier hearlier other hother hkey
        have hsame := hkeys earlier (hsplit ▸ List.mem_append_left _ hearlier) other hother hkey
        have hskipped := hbefore earlier hearlier
        rw [hother, hsame] at hskipped
        simp at hskipped

section

variable {platform : Platform} {now : Int} {source target : Database}

theorem firstOfNewKey_export (hstored : ∀ device ∈ source.val.devices, device.Stored)
    {item : DeviceCreate} :
    (devicesImport platform now target).FirstOfNewKey (exportedRows source.val) item ↔
      (∃ device ∈ source.val.devices, device.Fits ∧ item = device.reimported) ∧
        item.macAddress ∉ target.val.devices.map (·.macAddress) := by
  have hbuilt {row : CsvRow} {body : DeviceCreate} (hrow : row ∈ exportedRows source.val)
      (hbuild : buildDevice row.2 = .ok body) :
      ∃ device ∈ source.val.devices, device.Fits ∧ body = device.reimported := by
    obtain ⟨device, hdevice, hcells⟩ := exists_device_of_mem hrow
    rw [hcells] at hbuild
    exact ⟨device, hdevice, (buildDevice_csvRow (hstored device hdevice)).mp hbuild⟩
  constructor
  · rintro ⟨before, row, after, hsplit, hbuild, hnew, -⟩
    exact ⟨hbuilt (hsplit ▸ by simp) hbuild, hnew⟩
  · rintro ⟨⟨device, hdevice, hfits, rfl⟩, hnew⟩
    refine (Import.firstOfNewKey_iff fun row hrow other hother hkey => ?_).mpr ⟨?_, hnew⟩
    · obtain ⟨twin, htwin, -, rfl⟩ := hbuilt hrow hother
      rw [Rows.eq_of_key source.property.deviceMacs htwin hdevice hkey]
    · obtain ⟨row, hrow, hcells⟩ := exists_row_of_mem hdevice
      refine ⟨row, hrow, ?_⟩
      rw [hcells]
      exact (buildDevice_csvRow (hstored device hdevice)).mpr ⟨hfits, rfl⟩

end

/-- The row tells of the device what exports and imports carry. -/
structure Device.Restores (row device : Device) : Prop where
  mac : row.macAddress = device.macAddress
  status : row.status = device.status
  deviceType : row.deviceType = device.deviceType
  description : row.description = device.description
  notes : row.notes = device.notes

theorem restores_row_iff {device : Device} (platform : Platform) (id : Nat) (now : Int) :
    (device.reimported.row platform id now).Restores device ↔ device.Plain := by
  rw [Device.Plain, ← strip_safeCell_eq_iff, ← strip_safeCell_eq_iff, ← strip_safeCell_eq_iff]
  exact ⟨fun h => ⟨h.deviceType, h.description, h.notes⟩, fun h => ⟨rfl, rfl, h.1, h.2.1, h.2.2⟩⟩

theorem mem_addRows_iff {α β : Type} {rows : List β} {key : β → Nat} {make : Nat → Nat → α → β}
    {items : List α} {row : β} :
    row ∈ addRows rows key make items ↔
      row ∈ rows ∨ ∃ i, ∃ h : i < items.length, make i (nextId (rows.map key) + i) items[i] = row := by
  rw [addRows, List.mem_append, List.mem_mapIdx]

/-- An export of devices can be imported. What the importing side has it keeps, and a device that is
new to it comes back as it was exactly when none of its texts starts like a formula or has spaces around
it. -/
theorem exported_devices_restored_iff (platform : Platform) (now : Int) (role : AdminRole)
    (source target : Database) (hrole : role.allows .operator = true)
    (hstored : ∀ device ∈ source.val.devices, device.Stored)
    (hsize : (encode (exportTables .devices source.val)).length ≤ maxBytes)
    (hcount : source.val.devices.length ≤ ImportKind.devices.rowLimit) :
    ∃ outcome result, importDevicesFile platform now role
        (encode (exportTables .devices source.val)) target = .ok (outcome, result) ∧
      target.val.devices <+: outcome.db.val.devices ∧
      (∀ row ∈ outcome.db.val.devices, row ∈ target.val.devices ∨
        ∃ device ∈ source.val.devices, row.macAddress = device.macAddress) ∧
      ∀ device ∈ source.val.devices, (∀ row ∈ target.val.devices, row.macAddress ≠ device.macAddress) →
        ((∃ row ∈ outcome.db.val.devices, row.Restores device) ↔ device.Plain) := by
  obtain ⟨rest, hupload, hrecords⟩ := exists_upload_export hstored hsize hcount
  have htolerates : (devicesImport platform now target).Tolerates deviceColumns rest
      (importDevicesFile platform now role (encode (exportTables .devices source.val)) target) := by
    rw [importDevicesFile_eq_run hrole]
    exact (tolerates_run_iff hupload).mpr ⟨_, hrecords, consistent_devicesImport⟩
  obtain ⟨outcome, result, hresponse, hread⟩ := htolerates
  obtain ⟨items, hadded, hadds⟩ := hread _ hrecords
  rw [numberRows_export] at hadds
  have hitems (item : DeviceCreate) := (hadds.first item).trans (firstOfNewKey_export hstored)
  have hdevices : outcome.db.val.devices = addRows target.val.devices (·.id)
      (fun _ id body => body.row platform id now) items := by
    rw [hadded]
    rfl
  refine ⟨outcome, result, hresponse, ?_, ?_, ?_⟩
  · rw [hdevices, addRows]
    exact List.prefix_append _ _
  · intro row hrow
    rw [hdevices, mem_addRows_iff] at hrow
    rcases hrow with hrow | ⟨i, hi, rfl⟩
    · exact .inl hrow
    · obtain ⟨⟨device, hdevice, -, hsame⟩, -⟩ := (hitems _).mp (List.getElem_mem hi)
      exact .inr ⟨device, hdevice, by rw [hsame]; rfl⟩
  · intro device hdevice hnew
    rw [hdevices]
    constructor
    · rintro ⟨row, hrow, hrestores⟩
      rcases mem_addRows_iff.mp hrow with hrow | ⟨i, hi, rfl⟩
      · exact absurd hrestores.mac (hnew row hrow)
      · obtain ⟨⟨twin, htwin, -, hsame⟩, -⟩ := (hitems _).mp (List.getElem_mem hi)
        rw [hsame] at hrestores
        obtain rfl := Rows.eq_of_key source.property.deviceMacs htwin hdevice hrestores.mac
        exact (restores_row_iff platform _ now).mp hrestores
    · intro hplain
      have hfits := fits_of_plain (hstored device hdevice) hplain
      have hfresh : device.reimported.macAddress ∉ target.val.devices.map (·.macAddress) := by
        intro hmem
        obtain ⟨row, hrow, hsame⟩ := List.mem_map.mp hmem
        exact hnew row hrow hsame
      have hitem := (hitems device.reimported).mpr ⟨⟨device, hdevice, hfits, rfl⟩, hfresh⟩
      obtain ⟨i, hi, hget⟩ := List.mem_iff_getElem.mp hitem
      refine ⟨_, mem_addRows_iff.mpr (.inr ⟨i, hi, rfl⟩), ?_⟩
      rw [hget]
      exact (restores_row_iff platform _ now).mpr hplain

def printer : Device where
  id := 1
  macAddress := "02:00:00:00:00:01"
  status := .approved
  description := "printer, \"west\" wing"
  notes := "first line\r\nsecond line"

/-- A description that a spreadsheet would run. -/
def formulaBadge : Device where
  id := 2
  macAddress := "02:00:00:00:00:02"
  description := "=1+1"

def twoDevices : Database :=
  ⟨{ devices := [formulaBadge, printer] }, by decide⟩

theorem stored_twoDevices : ∀ device ∈ twoDevices.val.devices, device.Stored := by
  intro device hdevice
  rcases List.mem_pair.mp hdevice with rfl | rfl
  · exact ⟨by decide, by decide, by decide, by decide, by decide, by decide⟩
  · exact ⟨by decide, by decide, by decide, by decide, by decide, by decide⟩

theorem exports_read_back_twoDevices :
    ∃ records, Csv.Reader.records {} (Csv.lines (exportTables .devices twoDevices.val).toList) =
        .ok (deviceColumns :: records) ∧
      List.Forall₂ (List.Forall₂ fun cell (value : CellValue) => startsFormula cell = false ∧
        (cell = value.str ∨ startsFormula value.str = true ∧ cell = "'" ++ value.str))
        records (exportRows .devices twoDevices.val) :=
  exports_read_back .devices twoDevices.val (cellsReadable_devices stored_twoDevices)

theorem exported_devices_restored_twoDevices :
    ∃ outcome result, importDevicesFile utcPlatform 0 .operator
        (encode (exportTables .devices twoDevices.val)) ⟨{}, Tables.consistent_empty⟩ =
          .ok (outcome, result) ∧
      (∃ row ∈ outcome.db.val.devices, row.Restores printer) ∧
      ¬ ∃ row ∈ outcome.db.val.devices, row.Restores formulaBadge := by
  have hsize : (encode (exportTables .devices twoDevices.val)).length ≤ maxBytes := by
    rw [exportTables, csvText, encode, String.toList_ofList]
    decide +kernel
  obtain ⟨outcome, result, hresponse, -, -, hrestored⟩ :=
    exported_devices_restored_iff utcPlatform 0 .operator twoDevices ⟨{}, Tables.consistent_empty⟩ rfl
      stored_twoDevices hsize (by decide)
  refine ⟨outcome, result, hresponse, ?_, ?_⟩
  · refine (hrestored printer (by simp [twoDevices]) fun row hrow => ?_).mpr
      ⟨by decide, by decide, by decide⟩
    cases hrow
  · refine fun hrow => absurd ((hrestored formulaBadge (by simp [twoDevices]) fun row hrow => ?_).mp
      hrow).2.1 (by decide)
    cases hrow

end Naco
