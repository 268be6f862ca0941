import Mathlib.Data.List.Lex
import Mathlib.Data.List.Sort
import Mathlib.Data.String.Basic
import Naco.Lib.Like
import Naco.Routes.Lists

/-!
# What a search finds

The escapes keep the wildcards of a searched text from meaning anything, so a search finds the users with
the text in one of three columns; and the pages of a list share them out.
-/

namespace Naco

open Py

/-! ### The pattern of a search -/

/-- No replacement touches what another has written. -/
theorem toList_like (term : String) :
    (like term).toList = '%' :: (term.toList.flatMap (Like.escapeChar '\\') ++ ['%']) := by
  have hpercent : "%".toList = ['%'] := by decide
  have hescaped : (replaceChar '_' "\\_" (replaceChar '%' "\\%" (replaceChar '\\' "\\\\" term))).toList =
      term.toList.flatMap (Like.escapeChar '\\') := by
    simp only [replaceChar, String.toList_ofList, List.flatMap_assoc]
    congr 1
    funext c
    unfold Like.escapeChar
    by_cases hbackslash : c = '\\'
    · subst hbackslash
      rfl
    · by_cases hwild : c = '%'
      · subst hwild
        rfl
      · by_cases hone : c = '_'
        · subst hone
          rfl
        · simp [hbackslash, hwild, hone]
  rw [like, String.toList_append, String.toList_append, hpercent, hescaped]
  rfl

/-- A text of the database that C reads to its end. -/
def NoNul (text : String) : Prop :=
  '\x00' ∉ text.toList

instance (text : String) : Decidable (NoNul text) :=
  inferInstanceAs (Decidable (¬ _))

/-- What SQLite documents of `LIKE … ESCAPE '\\'`, for texts without U+0000 and patterns that surely have no
more than its 50000 octets. The `lower` around both sides changes nothing that it compares. -/
def MatchesLike (ilike : String → String → Bool) : Prop :=
  ∀ text pattern, NoNul text → NoNul pattern → pattern.length ≤ 12500 →
    ilike text pattern = Like.matchesPattern '\\' pattern.toList text.toList

/-- No escape is longer than two characters, or adds a U+0000. -/
theorem escaped_like (term : String) : (like term).length ≤ 2 * term.length + 2 ∧
    (NoNul term → NoNul (like term)) := by
  have hchar (c : Char) : (Like.escapeChar '\\' c).length ≤ 2 ∧
      ('\x00' ∈ Like.escapeChar '\\' c → c = '\x00') := by
    unfold Like.escapeChar
    split <;> simp [eq_comm]
  have hlength (cs : List Char) : (cs.flatMap (Like.escapeChar '\\')).length ≤ 2 * cs.length := by
    induction cs with
    | nil => exact le_rfl
    | cons c cs ih =>
        have hfirst := (hchar c).1
        rw [List.flatMap_cons, List.length_append, List.length_cons]
        omega
  constructor
  · have hterm := hlength term.toList
    rw [← String.length_toList, toList_like, List.length_cons, List.length_append, ← String.length_toList]
    simp only [List.length_cons, List.length_nil]
    omega
  · intro hnul hmem
    rw [toList_like] at hmem
    simp only [List.mem_cons, List.mem_append, List.mem_flatMap, List.not_mem_nil, or_false] at hmem
    rcases hmem with hmem | ⟨c, hc, hmem⟩ | hmem
    · exact absurd hmem (by decide)
    · rw [(hchar c).2 hmem] at hc
      exact hnul hc
    · exact absurd hmem (by decide)

/-- The text occurs in the other, whatever the case of its ASCII letters. -/
def Contains (term text : String) : Prop :=
  Like.Occurs term.toList text.toList

section

variable {ilike : String → String → Bool}

theorem ilike_like_iff (hilike : MatchesLike ilike) {term text : String} (hterm : NoNul term)
    (hshort : term.length ≤ 64) (htext : NoNul text) : ilike text (like term) = true ↔ Contains term text := by
  obtain ⟨hlength, hnul⟩ := escaped_like term
  rw [hilike text _ htext (hnul hterm) (by omega), toList_like]
  exact Like.matches_escaped_iff (by decide) term.toList text.toList

/-- What a query asks of a user. -/
structure Wanted (query : UserQuery) (user : User) : Prop where
  found : query.q = "" ∨ Contains query.q user.username ∨ Contains query.q user.fullName ∨
    Contains query.q user.email
  group : ∀ id, query.groupId = some id → user.groupId = some id
  enabled : ∀ enabled, query.enabled = some enabled → user.enabled = enabled

/-- The texts in which a search looks. -/
def User.NoNul (user : User) : Prop :=
  Naco.NoNul user.username ∧ Naco.NoNul user.fullName ∧ Naco.NoNul user.email

instance (user : User) : Decidable user.NoNul :=
  inferInstanceAs (Decidable (_ ∧ _))

theorem selects_iff (hilike : MatchesLike ilike) {query : UserQuery} (hquery : NoNul query.q) {user : User}
    (huser : user.NoNul) : query.selects ilike user = true ↔ Wanted query user := by
  have hlike {text : String} (htext : NoNul text) := ilike_like_iff hilike hquery query.qBound htext
  simp only [UserQuery.selects, Bool.and_eq_true, Bool.or_eq_true, decide_eq_true_eq, hlike huser.1,
    hlike huser.2.1, hlike huser.2.2, Option.all_eq_true, or_assoc]
  constructor
  · rintro ⟨⟨hfound, hgroup⟩, henabled⟩
    exact ⟨hfound, hgroup, henabled⟩
  · rintro ⟨hfound, hgroup, henabled⟩
    exact ⟨⟨hfound, hgroup⟩, henabled⟩

end

/-! ### Pages -/

section

variable {α : Type} {rows : List α}

theorem getElem?_fetch (paging : Paging) (rows : List α) (i : Nat) :
    (paging.fetch rows).1[i]? =
      if i < paging.perPage then rows[(paging.page - 1) * paging.perPage + i]? else none := by
  rw [Paging.fetch, List.getElem?_take, List.getElem?_drop]

/-- The row at an index is on the page of that index. -/
theorem mem_fetch_iff (paging : Paging) {row : α} : row ∈ (paging.fetch rows).1 ↔
    ∃ index, rows[index]? = some row ∧ index / paging.perPage + 1 = paging.page := by
  have hpage := paging.pageBounds
  have hper := paging.perPageBounds
  rw [List.mem_iff_getElem?]
  constructor
  · rintro ⟨i, hi⟩
    rw [getElem?_fetch] at hi
    split at hi
    · next hlt =>
        refine ⟨_, hi, ?_⟩
        rw [Nat.mul_comm, Nat.mul_add_div (by omega), Nat.div_eq_of_lt hlt]
        omega
    · cases hi
  · rintro ⟨index, hrow, hindex⟩
    refine ⟨index % paging.perPage, ?_⟩
    rw [getElem?_fetch, if_pos (Nat.mod_lt _ (by omega)), ← hindex, Nat.add_sub_cancel, Nat.div_add_mod']
    exact hrow

/-- Every row is on just one page of its list. -/
theorem existsUnique_page (hnodup : rows.Nodup) {perPage : Nat} (hper : 1 ≤ perPage ∧ perPage ≤ 500)
    (hreach : rows.length ≤ 100000 * perPage) {row : α} (hrow : row ∈ rows) :
    ∃! paging : Paging, paging.perPage = perPage ∧ row ∈ (paging.fetch rows).1 := by
  obtain ⟨index, hindex⟩ := List.mem_iff_getElem?.mp hrow
  have hlt : index < rows.length := (List.getElem?_eq_some_iff.mp hindex).1
  have hpage : index / perPage < 100000 := by
    rw [Nat.div_lt_iff_lt_mul (by omega)]
    omega
  refine ⟨⟨index / perPage + 1, perPage, ⟨Nat.le_add_left 1 _, hpage⟩, hper⟩,
    ⟨rfl, (mem_fetch_iff _).mpr ⟨index, hindex, rfl⟩⟩, ?_⟩
  rintro ⟨page, perPage', hbounds, hbounds'⟩ ⟨rfl, hmem⟩
  obtain ⟨other, hother, hon⟩ := (mem_fetch_iff _).mp hmem
  obtain rfl : other / perPage' + 1 = page := hon
  have hsame : other = index := by
    obtain ⟨hlt', rfl⟩ := List.getElem?_eq_some_iff.mp hother
    obtain ⟨_, heq⟩ := List.getElem?_eq_some_iff.mp hindex
    exact (hnodup.getElem_inj_iff.mp heq).symm
  subst hsame
  rfl

end

/-! ### The list of users -/

theorem pairwise_orderBy {α : Type} (column : α → String) (rows : List α) :
    (orderBy column rows).Pairwise fun a b => column a ≤ column b := by
  have htotal : Std.Total fun a b : α => column a ≤ column b := ⟨fun a b => le_total (column a) (column b)⟩
  have htrans : IsTrans α fun a b => column a ≤ column b := ⟨fun a b c hab hbc => le_trans hab hbc⟩
  exact List.pairwise_insertionSort _ _

/-- The pages share out a list of users: in order of the usernames, just those that the query asks for. Each
page has its part of it with the groups, and the number of all; and every one of them is on just one page,
as long as there are pages for all. -/
structure SharesOut (t : Tables) (query : UserQuery) (pages : Paging → Page (User × Option Group))
    (rows : List User) : Prop where
  wanted : ∀ user, user ∈ rows ↔ user ∈ t.users ∧ Wanted query user
  nodup : rows.Nodup
  sorted : rows.Pairwise fun a b => a.username ≤ b.username
  total : ∀ paging, (pages paging).total = rows.length
  items : ∀ paging, (pages paging).items =
    ((rows.drop ((paging.page - 1) * paging.perPage)).take paging.perPage).map fun user =>
      (user, groupOf t user)
  once : ∀ perPage, 1 ≤ perPage ∧ perPage ≤ 500 → rows.length ≤ 100000 * perPage → ∀ user ∈ rows,
    ∃! paging : Paging, paging.perPage = perPage ∧ (user, groupOf t user) ∈ (pages paging).items

/-- The list of users is searched and shared out. -/
theorem user_search_pages (ilike : String → String → Bool) (hilike : MatchesLike ilike) (db : Database)
    (query : UserQuery) (hquery : NoNul query.q) (husers : ∀ user ∈ db.val.users, user.NoNul) :
    ∃ rows : List User, SharesOut db.val query (listUsers ilike db.val query) rows := by
  have hnodup :
      (orderBy (fun user : User => user.username) (db.val.users.filter (query.selects ilike))).Nodup := by
    have hids : db.val.users.Nodup := db.property.userIds.of_map
    exact (List.perm_insertionSort _ _).nodup_iff.mpr (hids.sublist List.filter_sublist)
  have hitems (paging : Paging) : (listUsers ilike db.val query paging).items =
      ((((orderBy (·.username) (db.val.users.filter (query.selects ilike))).drop
        ((paging.page - 1) * paging.perPage)).take paging.perPage).map
          fun user => (user, groupOf db.val user)) := by
    rw [List.map_take, List.map_drop]
    rfl
  refine ⟨orderBy (·.username) (db.val.users.filter (query.selects ilike)), fun user => ?_, hnodup,
    pairwise_orderBy _ _, fun paging => ?_, hitems, fun perPage hper hreach user huser => ?_⟩
  · rw [orderBy, List.mem_insertionSort, List.mem_filter]
    exact and_congr_right fun hmem => selects_iff hilike hquery (husers user hmem)
  · exact List.length_map _
  · obtain ⟨paging, ⟨hperPage, hmem⟩, hunique⟩ := existsUnique_page hnodup hper hreach huser
    have hinjective : Function.Injective fun user => (user, groupOf db.val user) := by
      intro a b h
      exact (Prod.mk.inj h).1
    refine ⟨paging, ⟨hperPage, ?_⟩, fun other hother => hunique other ⟨hother.1, ?_⟩⟩
    · rw [hitems]
      exact List.mem_map_of_mem hmem
    · have hmem' := hother.2
      rw [hitems] at hmem'
      exact (List.mem_map_of_injective hinjective).mp hmem'

/-- Four users: the underscore is in a username, in an email and in no text of the third. -/
def underscoreDb : Database :=
  ⟨{ groups := [{ id := 1, name := "staff" }]
     users := [{ id := 1, username := "zoe", email := "ZOE_W@example.org", groupId := some 1 },
       { id := 2, username := "ann_w", groupId := some 1 },
       { id := 3, username := "annaw", groupId := some 1 }, { id := 4, username := "zoe_w" }] },
    by decide +kernel⟩

/-- `GET /users?q=_w&group_id=1`, in pages of one user. -/
theorem user_search_pages_underscore :
    let query : UserQuery := { q := "_w", groupId := some 1, qBound := by decide }
    let pages := listUsers (fun text pattern => Like.matchesPattern '\\' pattern.toList text.toList)
      underscoreDb.val query
    (∃ rows, SharesOut underscoreDb.val query pages rows) ∧
      (pages ⟨1, 1, by decide, by decide⟩).items.map (·.1.username) = ["ann_w"] ∧
      (pages ⟨2, 1, by decide, by decide⟩).items.map (·.1.username) = ["zoe"] ∧
      (pages ⟨3, 1, by decide, by decide⟩).items.map (·.1.username) = [] := by
  intro query pages
  refine ⟨user_search_pages _ (fun _ _ _ _ _ => rfl) underscoreDb query (by decide +kernel)
    (by decide +kernel), ?_⟩
  decide +kernel

end Naco
