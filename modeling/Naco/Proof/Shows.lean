import Naco.Proof.Edits
import Naco.Routes.Mutation

/-!
# The edits that can show

New users, a group with another name, and another table of NAS clients: for each of them, in which
live sessions it shows. Where it does not, re-evaluation sees the session alike before and after; where
it does, a policy table tells the two states apart.
-/

namespace Naco

open Py

/-! ### Sessions that a quiet edit touches -/

/-- The session's device is blocked. -/
def SessionBlocked (t : Tables) (session : RadiusSession) : Prop :=
  ∃ device ∈ t.devices, orNone session.macAddress = some device.macAddress ∧ device.status = .blocked

/-- A new user shows: a session that spoke for nobody speaks for an enabled user, or a MAB session has
the name of a user in a group that conditions can name. -/
def NewUserShows (t : Tables) (session : RadiusSession) (body : UserCreate) : Prop :=
  session.username = body.username ∧ session.username ≠ "" ∧ ¬ SessionBlocked t session ∧
  ∃ (method : AuthMethod) (nas : NasClient), session.authMethod = method.name ∧
    Resolves t.nasClients session.nasIp nas ∧
    if method = .mab then ∃ group ∈ t.groups, body.groupId = some group.id ∧ Nameable group.name
    else body.enabled = true

/-- The new name of a group shows: some list holds one of its two names. -/
def RenameShows (t : Tables) (session : RadiusSession) (id : Nat) (body : GroupUpdate) : Prop :=
  ∃ user ∈ t.users, user.username = session.username ∧ session.username ≠ "" ∧
    user.groupId = some id ∧
  ∃ group ∈ t.groups, group.id = id ∧
  ∃ (method : AuthMethod) (nas : NasClient), session.authMethod = method.name ∧
    Resolves t.nasClients session.nasIp nas ∧
    ¬ HardRefused t method session.username (orNone session.macAddress) ∧
    ¬ NamedAlike (some group.name) (some (body.apply group).name)

/-- Another table of NAS clients shows: the session's address belongs to an entry with another name,
and some list holds one of the two names. -/
def NasShows (t : Tables) (session : RadiusSession) (clients : List NasClient) : Prop :=
  ∃ (method : AuthMethod) (nas nas' : NasClient), session.authMethod = method.name ∧
    Resolves t.nasClients session.nasIp nas ∧ Resolves clients session.nasIp nas' ∧
    ¬ HardRefused t method session.username (orNone session.macAddress) ∧
    ¬ NamedAlike (orNone nas.name) (orNone nas'.name)

theorem Resolves.unique {clients : List NasClient} {ip : String} {nas nas' : NasClient}
    (h : Resolves clients ip nas) (h' : Resolves clients ip nas') : nas = nas' := by
  obtain ⟨directory, hdirectory, hfind⟩ := h
  obtain ⟨directory', hdirectory', hfind'⟩ := h'
  cases hdirectory.symm.trans hdirectory'
  exact Option.some.inj (hfind.symm.trans hfind')

theorem NamedAlike.refl (value : Option String) : NamedAlike value value :=
  fun _ => Iff.rfl

/-! ### New users -/

theorem sessionGroup_eq (t : Tables) {name : String} (hname : name ≠ "") :
    sessionGroup t name =
      ((t.users.find? (·.username = name)).bind (groupOf t)).map (·.name) := by
  unfold sessionGroup sessionUser loadUser
  rw [if_neg hname]
  cases t.users.find? (·.username = name) <;> simp [UserInfo.ofRow]

theorem groupOf_eq_some_iff {t : Tables} (ht : t.Consistent) {user : User} {group : Group} :
    groupOf t user = some group ↔ group ∈ t.groups ∧ user.groupId = some group.id := by
  unfold groupOf
  rw [Option.bind_eq_some_iff]
  constructor
  · rintro ⟨id, hid, hfind⟩
    obtain ⟨hmem, rfl⟩ := (Rows.find?_eq_some_iff ht.groupIds).mp hfind
    exact ⟨hmem, hid⟩
  · rintro ⟨hmem, hid⟩
    exact ⟨group.id, hid, (Rows.find?_eq_some_iff ht.groupIds).mpr ⟨hmem, rfl⟩⟩

/-- The user part of the hard rules, by the row that is found. -/
theorem hardRefused_iff_find? {t : Tables} (ht : t.Consistent) {method : AuthMethod} {name : String}
    {mac : Option String} :
    HardRefused t method name mac ↔
      (method ≠ .mab ∧ ¬ (name ≠ "" ∧
        ((t.users.find? (·.username = name)).any (·.enabled)) = true)) ∨
      ∃ device ∈ t.devices, mac = some device.macAddress ∧ device.status = .blocked := by
  unfold HardRefused
  refine or_congr_left (and_congr_right fun _ => not_congr (and_congr_right fun _ => ?_))
  constructor
  · rintro ⟨user, hmem, hname, henabled⟩
    rw [(Rows.find?_eq_some_iff ht.usernames).mpr ⟨hmem, hname⟩]
    exact henabled
  · intro h
    obtain ⟨user, hfind, henabled⟩ := (Option.any_eq_true _ _).mp h
    obtain ⟨hmem, hname⟩ := (Rows.find?_eq_some_iff ht.usernames).mp hfind
    exact ⟨user, hmem, hname, henabled⟩

section NewUsers

variable {t : Tables} {news : List User} {session : RadiusSession} {method : AuthMethod}

/-- The tables with new users. -/
def Tables.withUsers (t : Tables) (news : List User) : Tables :=
  { t with users := t.users ++ news }

/-- One of the new users shows in the session. -/
def UserShows (t : Tables) (session : RadiusSession) (method : AuthMethod) (user : User) : Prop :=
  session.username = user.username ∧ session.username ≠ "" ∧ ¬ SessionBlocked t session ∧
    if method = .mab then ∃ group ∈ t.groups, user.groupId = some group.id ∧ Nameable group.name
    else user.enabled = true

theorem find?_new (ht' : (t.withUsers news).Consistent) {user : User} (hnew : user ∈ news) :
    t.users.find? (·.username = user.username) = none ∧
      (t.withUsers news).users.find? (·.username = user.username) = some user := by
  have hfind : (t.withUsers news).users.find? (·.username = user.username) = some user :=
    (Rows.find?_eq_some_iff ht'.usernames).mpr ⟨List.mem_append_right _ hnew, rfl⟩
  refine ⟨?_, hfind⟩
  have hnodup : ((t.users ++ news).map (·.username)).Nodup := ht'.usernames
  rw [List.map_append, List.nodup_append] at hnodup
  rw [Rows.find?_eq_none_iff]
  intro row hrow heq
  exact hnodup.2.2 _ (List.mem_map_of_mem hrow) _ (List.mem_map_of_mem hnew) heq

theorem find?_other {name : String} (hother : ∀ user ∈ news, user.username ≠ name) :
    (t.withUsers news).users.find? (·.username = name) = t.users.find? (·.username = name) := by
  have hnone : news.find? (·.username = name) = none := Rows.find?_eq_none_iff.mpr hother
  simp [Tables.withUsers, List.find?_append, hnone]

/-- A session in which no new user shows is seen alike. -/
theorem seenAlike_withUsers (ht : t.Consistent) (ht' : (t.withUsers news).Consistent)
    {now : ClockReading} {nas : NasClient} (hquiet : ∀ user ∈ news, ¬ UserShows t session method user) :
    SeenAlike t (t.withUsers news) now session method nas nas := by
  have hdevice : ((orNone session.macAddress).bind (knownDevice (t.withUsers news))).map Device.facts =
    ((orNone session.macAddress).bind (knownDevice t)).map Device.facts := rfl
  have hguest : ((orNone session.macAddress).any fun mac =>
      guestActive (t.withUsers news) mac now.utc) =
    (orNone session.macAddress).any fun mac => guestActive t mac now.utc := rfl
  by_cases hnew : session.username ≠ "" ∧ ∃ user ∈ news, user.username = session.username
  · obtain ⟨hname, user, hmem, huser⟩ := hnew
    obtain ⟨hbefore, hafter⟩ := find?_new ht' hmem
    rw [huser] at hbefore hafter
    have hshows := hquiet user hmem
    rw [UserShows, huser] at hshows
    have hrefused : HardRefused t method session.username (orNone session.macAddress) ↔
        HardRefused (t.withUsers news) method session.username (orNone session.macAddress) := by
      rw [hardRefused_iff_find? ht, hardRefused_iff_find? ht', hbefore, hafter]
      by_cases hmab : method = .mab
      · simp [hmab, Tables.withUsers]
      · by_cases hblocked : SessionBlocked t session
        · exact iff_of_true (.inr hblocked) (.inr hblocked)
        · have hdisabled : user.enabled = false := by simpa [hmab, hname, hblocked] using hshows
          simp [hmab, hdisabled]
    refine ⟨hrefused, hdevice, hguest, fun hfree => ?_, fun _ => NamedAlike.refl _⟩
    rw [sessionGroup_eq _ hname, sessionGroup_eq _ hname, hbefore, hafter]
    intro text
    refine iff_of_false (by simp [Named]) ?_
    rintro ⟨name, hgroup, htext⟩
    obtain ⟨group, hfound, rfl⟩ := Option.map_eq_some_iff.mp hgroup
    obtain ⟨hrow, hid⟩ := (groupOf_eq_some_iff ht').mp hfound
    have hmab : method = .mab := by
      by_contra hmab
      rw [hardRefused_iff_find? ht, hbefore] at hfree
      simp [hmab] at hfree
    have hblocked : ¬ SessionBlocked t session := fun hblocked => hfree (.inr hblocked)
    rw [if_pos hmab] at hshows
    exact hshows ⟨rfl, hname, hblocked, group, hrow, hid, text, htext⟩
  · have hother : session.username ≠ "" → ∀ user ∈ news, user.username ≠ session.username :=
      fun hname user hmem huser => hnew ⟨hname, user, hmem, huser⟩
    refine ⟨?_, hdevice, hguest, fun _ => ?_, fun _ => NamedAlike.refl _⟩
    · rw [hardRefused_iff_find? ht, hardRefused_iff_find? ht']
      by_cases hname : session.username = ""
      · simp [hname, Tables.withUsers]
      · rw [find?_other (hother hname)]
        rfl
    · by_cases hname : session.username = ""
      · rw [hname]
        exact NamedAlike.refl _
      · rw [sessionGroup_eq _ hname, sessionGroup_eq _ hname, find?_other (hother hname)]
        exact NamedAlike.refl _

/-- A session in which a new user shows is redecided by some policy table. -/
theorem redecided_withUsers (platform : Platform) (ht : t.Consistent)
    (ht' : (t.withUsers news).Consistent) (hmem : session ∈ digestSessions t)
    (hmethod : session.authMethod = method.name) {nas : NasClient}
    (hnas : Resolves t.nasClients session.nasIp nas) {user : User} (hnew : user ∈ news)
    (hshows : UserShows t session method user) :
    ∃ raw, Redecided platform (t.withProbe raw) ((t.withUsers news).withProbe raw) := by
  obtain ⟨hbefore, hafter⟩ := find?_new ht' hnew
  obtain ⟨huser, hname, hblocked, hshows⟩ := hshows
  rw [← huser] at hbefore hafter
  by_cases hmab : method = .mab
  · subst hmab
    rw [if_pos rfl] at hshows
    obtain ⟨group, hrow, hid, text, htext⟩ := hshows
    have hfree : ¬ HardRefused t .mab session.username (orNone session.macAddress) := by
      rintro (⟨h, -⟩ | hrefused)
      · exact h rfl
      · exact hblocked hrefused
    have hfree' : ¬ HardRefused (t.withUsers news) .mab session.username
        (orNone session.macAddress) := by
      rintro (⟨h, -⟩ | hrefused)
      · exact h rfl
      · exact hblocked hrefused
    refine ⟨_, redecided_of_named .group ht ht' rfl hmem hmethod hnas hnas hfree hfree'
      text.property.1 ?_⟩
    have hgroup : sessionGroup t session.username = none := by
      rw [sessionGroup_eq _ hname, hbefore]
      rfl
    have hgroup' : sessionGroup (t.withUsers news) session.username = some group.name := by
      rw [sessionGroup_eq _ hname, hafter]
      exact congrArg _ ((groupOf_eq_some_iff ht').mpr ⟨hrow, hid⟩)
    rintro hiff
    obtain ⟨_, hnone, -⟩ := hiff.mpr ⟨group.name, hgroup', htext⟩
    exact absurd (hgroup.symm.trans hnone) (by simp)
  · rw [if_neg hmab] at hshows
    refine ⟨_, redecided_of_freed ht ht' rfl hmem hmethod hnas hnas ?_ ?_⟩
    · rw [hardRefused_iff_find? ht, hbefore]
      simp [hmab]
    · rw [hardRefused_iff_find? ht', hafter]
      rintro (⟨-, hnot⟩ | hrefused)
      · exact hnot ⟨hname, hshows⟩
      · exact hblocked hrefused

end NewUsers

/-! ### Renamed groups -/

/-- The tables with one group replaced. -/
def Tables.withGroup (t : Tables) (group : Group) : Tables :=
  { t with groups := replaceRow t.groups (·.id) group }

section Rename

variable {t : Tables} {group new : Group} {session : RadiusSession} {method : AuthMethod}

theorem find?_replaceRow {α : Type} {rows : List α} {key : α → Nat} {new : α} {id : Nat}
    (hmem : ∃ row ∈ rows, key row = key new) :
    (replaceRow rows key new).find? (fun row => key row = id) =
      if id = key new then some new else rows.find? fun row => key row = id := by
  induction rows with
  | nil => simp at hmem
  | cons head rows ih =>
      rw [replaceRow, List.map_cons, ← replaceRow, List.find?_cons, List.find?_cons]
      by_cases hhead : key head = key new
      · by_cases hid : id = key new
        · simp [hhead, hid]
        · have hne : key new ≠ id := Ne.symm hid
          simp only [hhead, if_true, hne, decide_false, hid, if_false]
          by_cases hrest : ∃ row ∈ rows, key row = key new
          · rw [ih hrest, if_neg hid]
          · congr 1
            rw [replaceRow]
            refine (List.map_congr_left fun row hrow => ?_).trans (List.map_id rows)
            exact if_neg fun h => hrest ⟨row, hrow, h⟩
      · have hrest : ∃ row ∈ rows, key row = key new := by
          obtain ⟨row, hrow, hkey⟩ := hmem
          rcases List.mem_cons.mp hrow with rfl | hrow
          · exact absurd hkey hhead
          · exact ⟨row, hrow, hkey⟩
        simp only [hhead, if_false, ih hrest]
        by_cases hid : key head = id
        · have hne : id ≠ key new := fun h => hhead (hid.trans h)
          simp [hid, hne]
        · simp [hid]

/-- The group that a user is in after the change. -/
theorem groupOf_withGroup (hmem : ∃ row ∈ t.groups, row.id = new.id) (user : User) :
    groupOf (t.withGroup new) user = if user.groupId = some new.id then some new else groupOf t user := by
  unfold groupOf Tables.withGroup
  cases user.groupId with
  | none => simp
  | some id =>
      simp only [Option.bind_some, Option.some.injEq]
      exact find?_replaceRow hmem

/-- The new name shows in the session. -/
def GroupShows (t : Tables) (session : RadiusSession) (method : AuthMethod) (group new : Group) :
    Prop :=
  (∃ user ∈ t.users, user.username = session.username ∧ session.username ≠ "" ∧
    user.groupId = some group.id) ∧
  ¬ HardRefused t method session.username (orNone session.macAddress) ∧
  ¬ NamedAlike (some group.name) (some new.name)

theorem seenAlike_withGroup (ht : t.Consistent) (hmem : group ∈ t.groups) (hid : new.id = group.id)
    {now : ClockReading} {nas : NasClient} (hquiet : ¬ GroupShows t session method group new) :
    SeenAlike t (t.withGroup new) now session method nas nas := by
  refine ⟨Iff.rfl, rfl, rfl, fun hfree => ?_, fun _ => NamedAlike.refl _⟩
  by_cases hname : session.username = ""
  · rw [hname]
    exact NamedAlike.refl _
  · rw [sessionGroup_eq _ hname, sessionGroup_eq _ hname,
      show (t.withGroup new).users = t.users from rfl]
    cases hfind : t.users.find? (·.username = session.username) with
    | none => exact NamedAlike.refl _
    | some user =>
        obtain ⟨huser, hsame⟩ := (Rows.find?_eq_some_iff ht.usernames).mp hfind
        rw [Option.bind_some, Option.bind_some, groupOf_withGroup ⟨group, hmem, hid.symm⟩]
        by_cases hgroup : user.groupId = some new.id
        · rw [if_pos hgroup, (groupOf_eq_some_iff ht).mpr ⟨hmem, hid ▸ hgroup⟩]
          by_contra halike
          exact hquiet ⟨⟨user, huser, hsame, hname, hid ▸ hgroup⟩, hfree, halike⟩
        · rw [if_neg hgroup]
          exact NamedAlike.refl _

theorem strip_space (s : String) : strip (" " ++ s) = strip s := by
  have hchars : (" " ++ s).toList = ' ' :: s.toList := by simp
  rw [strip, hchars, strip, stripChars, List.dropWhile_cons_of_pos (by decide)]
  rfl

theorem casefold_space (s : String) : (casefold (" " ++ s)).toList = ' ' :: (casefold s).toList := by
  have hchars : (" " ++ s).toList = ' ' :: s.toList := by simp
  rw [casefold, String.toList_ofList, hchars, List.flatMap_cons, casefold, String.toList_ofList]
  rfl

/-- A probe that does not spell the group's name leaves it free to be renamed. -/
theorem checkUnreferenced_probe (str : StrOf) (t : Tables) {name : String} (raw : String)
    (h : casefold name ≠ casefold raw) :
    checkUnreferenced str (t.withProbe (listProbe .group raw)) name = .ok () := by
  have hnames : namesGroup str name (listProbe .group raw) = .ok false := by
    have htype : Json.member [("type", .str "group"), ("op", .str "in"), ("value", .arr [.str raw])]
        "type" = some (.str "group") := rfl
    have hvalue : Json.member [("type", .str "group"), ("op", .str "in"), ("value", .arr [.str raw])]
        "value" = some (.arr [.str raw]) := rfl
    rw [listProbe, show TextField.group.cond.type = "group" from rfl, namesGroup, htype,
      hvalue, foldedValues]
    simp [bind, Except.bind, pure, Except.pure, h]
  have hrefs : referencingPolicies str name [probePolicy (listProbe .group raw)] = .ok [] := by
    rw [referencingPolicies, probePolicy]
    simp only [storedConditions, Json.isFalsy, List.isEmpty_cons, Bool.false_eq_true, if_false,
      anyNamesGroup, hnames, referencingPolicies, bind, Except.bind, pure, Except.pure]
  rw [checkUnreferenced, Tables.withProbe]
  dsimp only
  rw [hrefs]

/-- A session in which the new name shows is redecided by a policy table that does not keep the group
from being renamed. -/
theorem redecided_withGroup (platform : Platform) (str : StrOf) (ht : t.Consistent)
    (ht' : (t.withGroup new).Consistent) (hgroup : group ∈ t.groups) (hid : new.id = group.id)
    (hmem : session ∈ digestSessions t) (hmethod : session.authMethod = method.name)
    {nas : NasClient} (hnas : Resolves t.nasClients session.nasIp nas)
    (hshows : GroupShows t session method group new) :
    ∃ raw, checkUnreferenced str (t.withProbe raw) group.name = .ok () ∧
      Redecided platform (t.withProbe raw) ((t.withGroup new).withProbe raw) := by
  obtain ⟨⟨user, huser, hsame, hname, hmember⟩, hfree, hnot⟩ := hshows
  have hfind : t.users.find? (·.username = session.username) = some user :=
    (Rows.find?_eq_some_iff ht.usernames).mpr ⟨huser, hsame⟩
  have hbefore : sessionGroup t session.username = some group.name := by
    rw [sessionGroup_eq _ hname, hfind]
    exact congrArg _ ((groupOf_eq_some_iff ht).mpr ⟨hgroup, hmember⟩)
  have hafter : sessionGroup (t.withGroup new) session.username = some new.name := by
    rw [sessionGroup_eq _ hname, show (t.withGroup new).users = t.users from rfl, hfind,
      Option.bind_some, groupOf_withGroup ⟨group, hgroup, hid.symm⟩, if_pos (hid ▸ hmember)]
    rfl
  obtain ⟨text, htext⟩ := not_forall.mp hnot
  have hshow : ∀ raw, strip raw = text.val →
      Redecided platform (t.withProbe (listProbe .group raw))
        ((t.withGroup new).withProbe (listProbe .group raw)) := by
    intro raw hraw
    refine redecided_of_named .group ht ht' rfl hmem hmethod hnas hnas hfree hfree hraw ?_
    rwa [show TextField.group.cond.actual (storedSubject t session method nas someInstant).context =
        some group.name from hbefore,
      show TextField.group.cond.actual
        (storedSubject (t.withGroup new) session method nas someInstant).context = some new.name
        from hafter]
  by_cases hold : Named text (some group.name)
  · -- the text spells the old name: written with a space before it, it is not recognised
    refine ⟨_, checkUnreferenced_probe str t (" " ++ text.val) ?_,
      hshow _ ((strip_space _).trans text.property.1)⟩
    obtain ⟨_, hsome, hfold⟩ := hold
    cases hsome
    intro heq
    have hlength := congrArg (fun s => s.toList.length) heq
    simp only [casefold_space, List.length_cons, hfold] at hlength
    omega
  · refine ⟨_, checkUnreferenced_probe str t text.val fun heq => hold ⟨_, rfl, heq.symm⟩,
      hshow _ text.property.1⟩

end Rename

/-! ### Other NAS clients -/

/-- The tables with other NAS clients. -/
def Tables.withNas (t : Tables) (nasClients : List NasClient) : Tables :=
  { t with nasClients }

theorem seenAlike_withNas {t : Tables} {clients : List NasClient} {session : RadiusSession}
    {method : AuthMethod} {now : ClockReading} {nas nas' : NasClient}
    (hmethod : session.authMethod = method.name) (hnas : Resolves t.nasClients session.nasIp nas)
    (hnas' : Resolves clients session.nasIp nas') (hquiet : ¬ NasShows t session clients) :
    SeenAlike t (t.withNas clients) now session method nas nas' := by
  refine ⟨Iff.rfl, rfl, rfl, fun _ => NamedAlike.refl _, fun hfree => ?_⟩
  by_contra halike
  exact hquiet ⟨method, nas, nas', hmethod, hnas, hnas', hfree, halike⟩

theorem redecided_withNas (platform : Platform) {t : Tables} (ht : t.Consistent)
    {clients : List NasClient} (ht' : (t.withNas clients).Consistent) {session : RadiusSession}
    (hmem : session ∈ digestSessions t) (hshows : NasShows t session clients) :
    ∃ raw, Redecided platform (t.withProbe raw) ((t.withNas clients).withProbe raw) := by
  obtain ⟨method, nas, nas', hmethod, hnas, hnas', hfree, hnot⟩ := hshows
  obtain ⟨text, htext⟩ := not_forall.mp hnot
  exact ⟨_, redecided_of_named .nas ht ht' rfl hmem hmethod hnas hnas' hfree hfree text.property.1
    htext⟩

end Naco
