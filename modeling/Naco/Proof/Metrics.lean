import Naco.Metrics
import Naco.Lib.JsonText
import Mathlib.Tactic.NormNum

/-!
# What a sample says

The labels of a sample tell it apart from every other, as a quote within a value is always escaped. Its
number has six significant digits, and a float counts up to `2 ** 53`.
-/

namespace Naco

open Py

/-! ### Labels -/

def escapeLabelChar (c : Char) : List Char :=
  if c = '\\' then ['\\', '\\'] else if c = '"' then ['\\', '"'] else if c = '\n' then ['\\', 'n'] else [c]

/-- No replacement touches what another has written. -/
theorem escapeLabel_toList (value : String) :
    (escapeLabel value).toList = value.toList.flatMap escapeLabelChar := by
  simp only [escapeLabel, replaceChar, String.toList_ofList, List.flatMap_assoc]
  congr 1
  funext c
  unfold escapeLabelChar
  split
  · next h => subst h; rfl
  · split
    · next h => subst h; rfl
    · next hquote => simp [hquote]

/-- A character of a value, as a reader takes it. -/
def readLabelChar : List Char → Option (Char × List Char)
  | [] => none
  | c :: rest =>
      if c = '\\' then
        match rest with
        | [] => none
        | escaped :: rest => some (if escaped = 'n' then '\n' else escaped, rest)
      else some (c, rest)

theorem readLabelChar_escape (c : Char) (rest : List Char) :
    readLabelChar (escapeLabelChar c ++ rest) = some (c, rest) := by
  unfold escapeLabelChar
  split
  · next h => rw [h]; rfl
  · next hbackslash =>
      split
      · next h => rw [h]; rfl
      · split
        · next h => rw [h]; rfl
        · exact if_neg hbackslash

theorem escapeLabelChar_append {c c' : Char} {rest rest' : List Char}
    (h : escapeLabelChar c ++ rest = escapeLabelChar c' ++ rest') : c = c' ∧ rest = rest' := by
  have hread := congrArg readLabelChar h
  rw [readLabelChar_escape, readLabelChar_escape] at hread
  exact Prod.mk.inj (Option.some_inj.mp hread)

theorem escapeLabelChar_ne_quote (c : Char) (rest rest' : List Char) :
    escapeLabelChar c ++ rest ≠ '"' :: rest' := by
  unfold escapeLabelChar
  split
  · nofun
  · split
    · nofun
    · next hquote =>
        split
        · nofun
        · exact fun h => hquote (List.cons.inj h).1

/-- A value ends at the first quote that is not escaped. -/
theorem flatMap_escapeLabelChar_append {value value' rest rest' : List Char}
    (h : value.flatMap escapeLabelChar ++ '"' :: rest = value'.flatMap escapeLabelChar ++ '"' :: rest') :
    value = value' ∧ rest = rest' := by
  induction value generalizing value' with
  | nil =>
      cases value' with
      | nil => exact ⟨rfl, (List.cons.inj h).2⟩
      | cons c value' =>
          rw [List.flatMap_cons, List.append_assoc] at h
          exact absurd h.symm (escapeLabelChar_ne_quote c _ _)
  | cons c value ih =>
      cases value' with
      | nil =>
          rw [List.flatMap_cons, List.append_assoc] at h
          exact absurd h (escapeLabelChar_ne_quote c _ _)
      | cons c' value' =>
          rw [List.flatMap_cons, List.flatMap_cons, List.append_assoc, List.append_assoc] at h
          obtain ⟨rfl, htail⟩ := escapeLabelChar_append h
          obtain ⟨rfl, hrest⟩ := ih htail
          exact ⟨rfl, hrest⟩

/-- One name with its value. -/
def labelPart (item : String × String) : String :=
  item.1 ++ "=\"" ++ escapeLabel item.2 ++ "\""

theorem labelPart_append {name value value' : String} {rest rest' : List Char}
    (h : (labelPart (name, value)).toList ++ rest = (labelPart (name, value')).toList ++ rest') :
    value = value' ∧ rest = rest' := by
  simp only [labelPart, String.toList_append, List.append_assoc, escapeLabel_toList] at h
  have hvalues := List.append_cancel_left (List.append_cancel_left h)
  obtain ⟨hvalue, hrest⟩ := flatMap_escapeLabelChar_append hvalues
  exact ⟨String.toList_inj.mp hvalue, hrest⟩

theorem labelParts_append {names values values' : List String} {rest rest' : List Char}
    (hlength : values.length = names.length) (hlength' : values'.length = names.length)
    (h : (join "," ((names.zip values).map labelPart)).toList ++ '\x7d' :: rest =
      (join "," ((names.zip values').map labelPart)).toList ++ '\x7d' :: rest') :
    values = values' ∧ rest = rest' := by
  induction names generalizing values values' with
  | nil =>
      obtain rfl := List.eq_nil_of_length_eq_zero hlength
      obtain rfl := List.eq_nil_of_length_eq_zero hlength'
      exact ⟨rfl, (List.cons.inj (List.append_cancel_left h)).2⟩
  | cons name names ih =>
      obtain ⟨value, values, rfl⟩ := List.exists_cons_of_length_eq_add_one hlength
      obtain ⟨value', values', rfl⟩ := List.exists_cons_of_length_eq_add_one hlength'
      rw [List.length_cons, List.length_cons] at hlength hlength'
      rw [List.zip_cons_cons, List.zip_cons_cons, join_map_cons, join_map_cons] at h
      obtain ⟨rfl, hafter⟩ := labelPart_append h
      have hempty : (names.zip values = []) ↔ (names.zip values' = []) := by
        simp only [← List.length_eq_zero_iff, List.length_zip]
        omega
      unfold afterFirst at hafter
      by_cases hnil : names.zip values = []
      · rw [if_pos hnil, if_pos (hempty.mp hnil)] at hafter
        obtain rfl : names = [] := by
          rw [← List.length_eq_zero_iff, List.length_zip] at hnil
          rw [← List.length_eq_zero_iff]
          omega
        obtain rfl := List.eq_nil_of_length_eq_zero (Nat.succ_injective hlength)
        obtain rfl := List.eq_nil_of_length_eq_zero (Nat.succ_injective hlength')
        exact ⟨rfl, (List.cons.inj hafter).2⟩
      · rw [if_neg hnil, if_neg (mt hempty.mpr hnil)] at hafter
        obtain ⟨rfl, hrest⟩ := ih (Nat.succ_injective hlength) (Nat.succ_injective hlength')
          (List.cons.inj hafter).2
        exact ⟨rfl, hrest⟩

theorem labelText_eq (names values : List String) : labelText names values =
    if names.zip values = [] then "" else
      "\x7b" ++ join "," ((names.zip values).map labelPart) ++ "\x7d" := by
  rw [labelText, if_pos rfl]
  exact if_congr List.map_eq_nil_iff rfl rfl

/-- Labels are told apart from each other, and from what follows them. -/
theorem labelText_append {names values values' : List String} {rest rest' : List Char}
    (hlength : values.length = names.length) (hlength' : values'.length = names.length)
    (h : (labelText names values).toList ++ rest = (labelText names values').toList ++ rest') :
    values = values' ∧ rest = rest' := by
  rw [labelText_eq, labelText_eq] at h
  cases names with
  | nil =>
      obtain rfl := List.eq_nil_of_length_eq_zero hlength
      obtain rfl := List.eq_nil_of_length_eq_zero hlength'
      exact ⟨rfl, List.append_cancel_left h⟩
  | cons name names =>
      have hne {values : List String} (hvalues : values.length = (name :: names).length) :
          ¬ (name :: names).zip values = [] := by
        obtain ⟨value, values, rfl⟩ := List.exists_cons_of_length_eq_add_one hvalues
        nofun
      rw [if_neg (hne hlength), if_neg (hne hlength')] at h
      simp only [String.toList_append, List.append_assoc] at h
      exact labelParts_append hlength hlength' (List.append_cancel_left h)

/-! ### Counts -/

/-- Six digits and zeros write the count, and the float has counted that far; or the count is the number
that is printed from there on. -/
def CountFits (count : Nat) : Prop :=
  SixDigits count ∧ (count ≤ 2 ^ 53 ∨ count = 9007200000000000)

theorem sixSignificant_limit : sixSignificant (2 ^ 53) = 9007200000000000 := by
  have hlog : Nat.log 10 (2 ^ 53) = 15 := Nat.log_eq_of_pow_le_of_lt_pow (by norm_num) (by norm_num)
  have hround : roundHalfEven (2 ^ 53) (10 ^ 10) = 900720 := by decide
  rw [sixSignificant, if_neg (by norm_num), sixDigits_value, hlog, hround]
  norm_num

/-- What is printed for a count is the count if and only if the count fits. -/
theorem readDecimal_count_iff (count : Nat) :
    readDecimal (formatG (min count (2 ^ 53) : Nat)) = some (count : ℚ) ↔ CountFits count := by
  have hpos : ¬ ((min count (2 ^ 53) : Nat) : ℤ) < 0 := Int.not_lt.mpr (Int.natCast_nonneg _)
  rw [readDecimal_formatG, if_neg hpos, one_mul, Int.natAbs_natCast, Option.some_inj, Nat.cast_inj,
    CountFits]
  rcases Nat.lt_or_ge (2 ^ 53) count with hlt | hle
  · rw [Nat.min_eq_right hlt.le, sixSignificant_limit]
    constructor
    · rintro rfl
      exact ⟨⟨900720, 10, by norm_num, by norm_num⟩, .inr rfl⟩
    · rintro ⟨-, hle | heq⟩
      · omega
      · exact heq.symm
  · rw [Nat.min_eq_left hle, sixSignificant_eq_iff]
    exact (and_iff_left (.inl hle)).symm

namespace Metric

variable {metric : Metric}

/-- A counter after increments by one. One with the wrong labels raises and counts nothing. -/
def afterIncs (metric : Metric) (calls : List (Dict String String)) : Metric :=
  calls.foldl (fun metric labels => (metric.inc labels).toOption.getD metric) metric

/-- A gauge after it was set. -/
def afterSets (metric : Metric) (calls : List (ℤ × Dict String String)) : Metric :=
  calls.foldl (fun metric call => (metric.set call.1 call.2).toOption.getD metric) metric

/-- How often the labels were counted. -/
def countOf (metric : Metric) (calls : List (Dict String String)) (key : List String) : Nat :=
  calls.countP fun labels => (metric.key labels).toOption = some key

/-- What the labels were set to last. -/
def lastSet (metric : Metric) (calls : List (ℤ × Dict String String)) (key : List String) : Option ℤ :=
  calls.foldl (fun last call =>
    if (metric.key call.2).toOption = some key then some call.1 else last) none

/-- There is a sample for the labels, and it denotes the number. -/
structure Shows (metric : Metric) (key : List String) (number : ℚ) : Prop where
  printed : ∃ text, metric.sample key text ∈ metric.render
  denotes : ∀ text, metric.sample key text ∈ metric.render → readDecimal text = some number

theorem length_of_key {labels : Dict String String} {key : List String}
    (h : metric.key labels = .ok key) : key.length = metric.labelnames.length := by
  unfold Metric.key at h
  dsimp only at h
  split at h
  · rw [← Except.ok.inj h, List.length_map]
  · cases h

/-- The samples of some labels are those of their value. -/
theorem sample_mem_render_iff {key : List String} {text : String}
    (hkeys : ∀ item ∈ metric.values.items, item.1.length = metric.labelnames.length)
    (hkey : key.length = metric.labelnames.length) :
    metric.sample key text ∈ metric.render ↔
      ∃ value, metric.values.get? key = some value ∧ text = formatG value := by
  rw [render, List.mem_map]
  constructor
  · rintro ⟨⟨other, value⟩, hitem, hsample⟩
    have hmem : (other, value) ∈ metric.values.items := (List.mem_insertionSort _).mp hitem
    have hlist := congrArg String.toList hsample
    simp only [sample, String.toList_append, List.append_assoc] at hlist
    obtain ⟨rfl, hrest⟩ := labelText_append (hkeys _ hmem) hkey (List.append_cancel_left hlist)
    refine ⟨value, Dict.get?_eq_some_iff.mpr hmem, ?_⟩
    exact (String.toList_inj.mp (List.append_cancel_left hrest)).symm
  · rintro ⟨value, hvalue, rfl⟩
    exact ⟨(key, value), (List.mem_insertionSort _).mpr (Dict.get?_eq_some_iff.mp hvalue), rfl⟩

/-- The labels that have a value show it, and only six significant digits of it. -/
theorem shows_iff {key : List String} {value : ℤ}
    (hkeys : ∀ item ∈ metric.values.items, item.1.length = metric.labelnames.length)
    (hvalue : metric.values.get? key = some value) (number : ℚ) :
    metric.Shows key number ↔ readDecimal (formatG value) = some number := by
  have hkey := hkeys _ (Dict.get?_eq_some_iff.mp hvalue)
  have hmem (text : String) : metric.sample key text ∈ metric.render ↔ text = formatG value := by
    rw [sample_mem_render_iff hkeys hkey, hvalue]
    constructor
    · rintro ⟨found, hfound, rfl⟩
      rw [Option.some_inj.mp hfound]
    · exact fun htext => ⟨value, rfl, htext⟩
  constructor
  · exact fun h => h.denotes _ ((hmem _).mpr rfl)
  · intro h
    refine ⟨⟨formatG value, (hmem _).mpr rfl⟩, fun text htext => ?_⟩
    rw [(hmem text).mp htext]
    exact h

/-- What a run keeps: the names, and keys with a value for each name. -/
structure Keeps (start metric : Metric) : Prop where
  name : metric.name = start.name
  labelnames : metric.labelnames = start.labelnames
  keys : ∀ item ∈ metric.values.items, item.1.length = metric.labelnames.length

theorem Keeps.key {start : Metric} (h : Keeps start metric) (labels : Dict String String) :
    metric.key labels = start.key labels := by
  rw [Metric.key, Metric.key, h.name, h.labelnames]

theorem Keeps.write {start : Metric} (h : Keeps start metric) {labels : Dict String String}
    {key : List String} (hkey : metric.key labels = .ok key) (value : ℤ) :
    Keeps start { metric with values := metric.values.set key value } where
  name := h.name
  labelnames := h.labelnames
  keys := fun item hitem => by
    obtain ⟨other, found⟩ := item
    have hset := Dict.mem_items_set.mp hitem
    split at hset
    · next heq =>
        rw [heq]
        exact length_of_key hkey
    · exact h.keys _ hset

theorem oneMore_min (count : Nat) :
    oneMore ((min count (2 ^ 53) : Nat) : ℤ) = ((min (count + 1) (2 ^ 53) : Nat) : ℤ) := by
  unfold oneMore
  split <;> omega

/-- A counter holds its counts, as far as a float counts. -/
theorem counter_spec {start : Metric} (hempty : start.values = Dict.empty)
    (calls : List (Dict String String)) :
    Keeps start (start.afterIncs calls) ∧ ∀ key, (start.afterIncs calls).values.get? key =
      if start.countOf calls key = 0 then none
      else some ((min (start.countOf calls key) (2 ^ 53) : Nat) : ℤ) := by
  induction calls using List.reverseRecOn with
  | nil =>
      refine ⟨⟨rfl, rfl, ?_⟩, fun key => ?_⟩
      · change ∀ item ∈ start.values.items, _
        rw [hempty]
        nofun
      · change start.values.get? key = _
        rw [hempty]
        rfl
  | append_singleton calls labels ih =>
      obtain ⟨hkeeps, hvalues⟩ := ih
      have hlater : start.afterIncs (calls ++ [labels]) =
          ((start.afterIncs calls).inc labels).toOption.getD (start.afterIncs calls) :=
        List.foldl_append
      have hcount (key : List String) : start.countOf (calls ++ [labels]) key =
          start.countOf calls key + if (start.key labels).toOption = some key then 1 else 0 := by
        rw [countOf, countOf, List.countP_append, List.countP_singleton]
        simp only [decide_eq_true_eq]
      cases hkey : start.key labels with
      | error error =>
          have hraise : (start.afterIncs calls).inc labels = .error error := by
            rw [inc, hkeeps.key, hkey]
            rfl
          rw [hlater, hraise]
          refine ⟨hkeeps, fun key => ?_⟩
          rw [hcount, hkey]
          exact hvalues key
      | ok written =>
          have hkey' := (hkeeps.key labels).trans hkey
          have hinc : (start.afterIncs calls).inc labels = .ok { start.afterIncs calls with
              values := (start.afterIncs calls).values.set written
                (oneMore (((start.afterIncs calls).values.get? written).getD 0)) } := by
            rw [inc, hkey']
            rfl
          rw [hlater, hinc]
          refine ⟨hkeeps.write hkey' _, fun key => ?_⟩
          change Dict.get? (Dict.set _ _ _) key = _
          have hcounted : start.countOf (calls ++ [labels]) key =
              start.countOf calls key + if written = key then 1 else 0 := by
            rw [hcount, hkey]
            exact congrArg _ (if_congr Option.some_inj rfl rfl)
          rw [Dict.get?_set, hvalues, hvalues, hcounted]
          by_cases hsame : key = written
          · subst hsame
            have hold : ((if start.countOf calls key = 0 then none
                else some ((min (start.countOf calls key) (2 ^ 53) : Nat) : ℤ)) : Option ℤ).getD 0 =
                ((min (start.countOf calls key) (2 ^ 53) : Nat) : ℤ) := by
              split
              · next hzero => rw [hzero]; rfl
              · rfl
            rw [if_pos rfl, hold, oneMore_min, if_pos rfl, if_neg (Nat.succ_ne_zero _)]
          · rw [if_neg hsame, if_neg (Ne.symm hsame), Nat.add_zero]

/-- A gauge holds what it was set to last. -/
theorem gauge_spec {start : Metric} (hempty : start.values = Dict.empty)
    (calls : List (ℤ × Dict String String)) :
    Keeps start (start.afterSets calls) ∧
      ∀ key, (start.afterSets calls).values.get? key = start.lastSet calls key := by
  induction calls using List.reverseRecOn with
  | nil =>
      refine ⟨⟨rfl, rfl, ?_⟩, fun key => ?_⟩
      · change ∀ item ∈ start.values.items, _
        rw [hempty]
        nofun
      · change start.values.get? key = _
        rw [hempty]
        rfl
  | append_singleton calls call ih =>
      obtain ⟨hkeeps, hvalues⟩ := ih
      obtain ⟨value, labels⟩ := call
      have hlater : start.afterSets (calls ++ [(value, labels)]) =
          ((start.afterSets calls).set value labels).toOption.getD (start.afterSets calls) :=
        List.foldl_append
      have hlast (key : List String) : start.lastSet (calls ++ [(value, labels)]) key =
          if (start.key labels).toOption = some key then some value else start.lastSet calls key :=
        List.foldl_append
      cases hkey : start.key labels with
      | error error =>
          have hraise : (start.afterSets calls).set value labels = .error error := by
            rw [set, hkeeps.key, hkey]
            rfl
          rw [hlater, hraise]
          refine ⟨hkeeps, fun key => ?_⟩
          rw [hlast, hkey]
          exact hvalues key
      | ok written =>
          have hkey' := (hkeeps.key labels).trans hkey
          have hset : (start.afterSets calls).set value labels = .ok { start.afterSets calls with
              values := (start.afterSets calls).values.set written value } := by
            rw [set, hkey']
            rfl
          rw [hlater, hset]
          refine ⟨hkeeps.write hkey' _, fun key => ?_⟩
          change Dict.get? (Dict.set _ _ _) key = _
          rw [Dict.get?_set, hvalues, hlast, hkey]
          exact if_congr ⟨fun h => congrArg some h.symm, fun h => (Option.some_inj.mp h).symm⟩ rfl rfl

/-- In every run the samples of a counter say how often it counted their labels, and those of a gauge what
it was set to, if and only if these numbers fit; and the labels of a sample tell it apart. -/
theorem samples_exact_iff (name help : String) (labelnames : List String) :
    (∀ calls : List (Dict String String), let counter := { name, help, labelnames : Metric }
      (∀ key, 0 < counter.countOf calls key →
        (counter.afterIncs calls).Shows key (counter.countOf calls key)) ↔
      ∀ key, 0 < counter.countOf calls key → CountFits (counter.countOf calls key)) ∧
    (∀ calls : List (ℤ × Dict String String), let gauge := { name, help, labelnames : Metric }
      (∀ call ∈ calls, call.1.natAbs < 2 ^ 53) →
      ((∀ key value, gauge.lastSet calls key = some value → (gauge.afterSets calls).Shows key value) ↔
        ∀ key value, gauge.lastSet calls key = some value → SixDigits value.natAbs)) ∧
    (∀ values values' : List String, values.length = labelnames.length →
      values'.length = labelnames.length → labelText labelnames values = labelText labelnames values' →
        values = values') := by
  refine ⟨fun calls => ?_, fun calls => ?_, fun values values' hlength hlength' h => ?_⟩
  · intro counter
    obtain ⟨hkeeps, hvalues⟩ := @counter_spec counter rfl calls
    refine forall_congr' fun key => forall_congr' fun hcount => ?_
    have hvalue := hvalues key
    rw [if_neg (Nat.pos_iff_ne_zero.mp hcount)] at hvalue
    rw [shows_iff hkeeps.keys hvalue, readDecimal_count_iff]
  · intro gauge _
    obtain ⟨hkeeps, hvalues⟩ := @gauge_spec gauge rfl calls
    refine forall_congr' fun key => forall_congr' fun value => forall_congr' fun hlast => ?_
    rw [shows_iff hkeeps.keys ((hvalues key).trans hlast), readDecimal_formatG_iff]
  · exact (@labelText_append labelnames values values' [] [] hlength hlength' (by rw [h])).1

/-- Labels that were counted so often that the count does not fit. -/
theorem not_shows_of_not_fits {start : Metric} (hempty : start.values = Dict.empty)
    {calls : List (Dict String String)} {key : List String} {count : Nat}
    (hcount : start.countOf calls key = count) (hpos : 0 < count) (hfits : ¬ CountFits count) :
    ¬ (start.afterIncs calls).Shows key count := by
  obtain ⟨hkeeps, hvalues⟩ := counter_spec hempty calls
  have hvalue := hvalues key
  rw [hcount, if_neg (Nat.pos_iff_ne_zero.mp hpos)] at hvalue
  rwa [shows_iff hkeeps.keys hvalue, readDecimal_count_iff]

theorem countOf_replicate {start : Metric} {labels : Dict String String} {key : List String}
    (h : (start.key labels).toOption = some key) (count : Nat) :
    start.countOf (List.replicate count labels) key = count := by
  rw [countOf, List.countP_replicate, if_pos (decide_eq_true h)]

/-- The accounting requests of a busy site: after one more than a million updates the sample still says a
million. -/
theorem million_and_one_lost :
    let counter : Metric :=
      { name := "naco_radius_accounting_total", help := "Accounting requests", labelnames := ["status"] }
    let calls := List.replicate 1000001 (Dict.single "status" "Interim-Update")
    counter.countOf calls ["Interim-Update"] = 1000001 ∧
      ¬ (counter.afterIncs calls).Shows ["Interim-Update"] (1000001 : Nat) := by
  intro counter calls
  have hcount : counter.countOf calls ["Interim-Update"] = 1000001 :=
    countOf_replicate (by decide) 1000001
  refine ⟨hcount, not_shows_of_not_fits rfl hcount (by norm_num) fun hfits => ?_⟩
  exact not_sixDigits (by norm_num) (by norm_num) hfits.1

end Metric

end Naco
