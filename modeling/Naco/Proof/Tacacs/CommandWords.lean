import Naco.Lib.Words
import Naco.Tacacs.Server

/-!
# A command is its words

How a device cuts a command into arguments does not matter: only the first `service` and `cmd` count, the
`cmd-arg` values are taken in order, and the words of all of them are what the rules see.
-/

namespace Naco.Tacacs

open Py

/-- `=` or `*`. -/
def isPairSeparator (c : Char) : Bool :=
  c = '=' || c = '*'

/-- The value of an argument that names the attribute, in any case, before its first separator. -/
def valueOf (attr arg : String) : Option String :=
  let name := arg.toList.takeWhile fun c => !isPairSeparator c
  match arg.toList.drop name.length with
  | [] => none
  | _ :: value => if lower (strip (String.ofList name)) = attr then some (String.ofList value) else none

/-- The values of an attribute, in order. -/
def valuesOf (attr : String) (args : List String) : List String :=
  args.filterMap (valueOf attr)

/-- The arguments ask to run a command in a shell. -/
def AsksCommand (args : List String) : Prop :=
  (∃ service ∈ (valuesOf "service" args).head?, lower service = "shell") ∧
    ∃ cmd ∈ (valuesOf "cmd" args).head?, cmd ≠ ""

/-- The words of the first command and of its arguments but for the ends of line. -/
def commandWords (args : List String) : List String :=
  words ((valuesOf "cmd" args).headD "") ++
    ((valuesOf "cmd-arg" args).filter (· ≠ "<cr>")).flatMap words

/-- The rule covers the words. -/
def Covers (found : List String) (rule : CommandAction × String) : Prop :=
  Fnmatch.fnmatchcase (casefold (join " " found)) (casefold (join " " (words rule.2))) = true

/-! ### Pairs -/

theorem mem_stripChars {c : Char} {cs : List Char} (hc : isSpace c = false) (h : c ∈ cs) :
    c ∈ stripChars cs := by
  have hdrop : ∀ cs : List Char, c ∈ cs → c ∈ cs.dropWhile isSpace := by
    intro cs h
    rw [← List.takeWhile_append_dropWhile (p := isSpace) (l := cs)] at h
    rcases List.mem_append.mp h with h | h
    · rw [List.mem_takeWhile_imp h] at hc
      cases hc
    · exact h
  rw [stripChars, List.mem_reverse]
  exact hdrop _ (List.mem_reverse.mpr (hdrop cs h))

theorem mem_lowerAfter {c : Char} {cs : List Char} (hc : isPairSeparator c = true) (h : c ∈ cs)
    (before : List Char) : c ∈ lowerAfter before cs := by
  induction cs generalizing before with
  | nil => cases h
  | cons d cs ih =>
      rw [lowerAfter, List.mem_append]
      rcases List.mem_cons.mp h with rfl | h
      · left
        rw [isPairSeparator, Bool.or_eq_true, decide_eq_true_eq, decide_eq_true_eq] at hc
        rcases hc with rfl | rfl
        · rw [if_neg (by decide)]
          decide
        · rw [if_neg (by decide)]
          decide
      · exact .inr (ih h _)

/-- A name that was cut after a separator keeps it. -/
theorem lower_strip_ne {attr : String} (hattr : ∀ c ∈ attr.toList, isPairSeparator c = false)
    {name : List Char} {c : Char} (hc : isPairSeparator c = true) (hmem : c ∈ name) :
    lower (strip (String.ofList name)) ≠ attr := by
  rintro rfl
  have hspace : isSpace c = false := by
    have hcases := hc
    rw [isPairSeparator, Bool.or_eq_true, decide_eq_true_eq, decide_eq_true_eq] at hcases
    rcases hcases with rfl | rfl <;> decide
  have hkept : c ∈ (lower (strip (String.ofList name))).toList := by
    rw [lower, strip, String.toList_ofList, String.toList_ofList, String.toList_ofList]
    exact mem_lowerAfter hc (mem_stripChars hspace hmem) []
  rw [hattr c hkept] at hc
  cases hc

theorem findIdx_of_forall {p : Char → Bool} {cs : List Char} (h : ∀ c ∈ cs, p c = false) (rest : List Char) :
    (cs ++ rest).findIdx p = cs.length + rest.findIdx p := by
  induction cs with
  | nil => simp
  | cons c cs ih =>
      obtain ⟨hc, hcs⟩ := List.forall_mem_cons.mp h
      rw [List.cons_append, List.findIdx_cons, hc, cond_false, ih hcs, List.length_cons]
      omega

theorem min?_filter {first second length : Nat} (hpos : 0 < first) (hlt : first < length)
    (hle : first ≤ second) :
    ([first, second].filter fun index => 0 < index && index < length).min? = some first ∧
      ([second, first].filter fun index => 0 < index && index < length).min? = some first := by
  by_cases hsecond : second < length
  · have hpos' : 0 < second := by omega
    simp [hpos, hlt, hpos', hsecond, hle]
  · simp [hpos, hlt, hsecond]

/-- The first separator is where a name without one ends. -/
theorem separatorIndex_of_name {name : List Char} (hname : ∀ c ∈ name, isPairSeparator c = false)
    (hne : name ≠ []) {c : Char} (hc : isPairSeparator c = true) (value : List Char) :
    separatorIndex (name ++ c :: value) = some name.length := by
  have hpos := List.length_pos_of_ne_nil hne
  have hlt : name.length < (name ++ c :: value).length := by simp
  have hindex (separator : Char) (h : isPairSeparator separator = true) :
      (name ++ c :: value).findIdx (· = separator) =
        name.length + (c :: value).findIdx (· = separator) := by
    refine findIdx_of_forall (fun d hd => ?_) _
    rw [decide_eq_false_iff_not]
    rintro rfl
    rw [hname d hd] at h
    cases h
  simp only [separatorIndex, List.map_cons, List.map_nil]
  rw [hindex '=' (by decide), hindex '*' (by decide)]
  rw [isPairSeparator, Bool.or_eq_true, decide_eq_true_eq, decide_eq_true_eq] at hc
  rcases hc with rfl | rfl
  · have hzero : ('=' :: value).findIdx (· = '=') = 0 := by simp [List.findIdx_cons]
    rw [hzero]
    exact (min?_filter hpos hlt (Nat.le_add_right _ _)).1
  · have hzero : ('*' :: value).findIdx (· = '*') = 0 := by simp [List.findIdx_cons]
    rw [hzero]
    exact (min?_filter hpos hlt (Nat.le_add_right _ _)).2

theorem separatorIndex_of_forall {cs : List Char} (h : ∀ c ∈ cs, isPairSeparator c = false) :
    separatorIndex cs = none := by
  have hindex (separator : Char) (hs : isPairSeparator separator = true) :
      cs.findIdx (· = separator) = cs.length := by
    refine List.findIdx_eq_length.mpr fun d hd => ?_
    rw [decide_eq_false_iff_not]
    rintro rfl
    rw [h d hd] at hs
    cases hs
  simp only [separatorIndex, List.map_cons, List.map_nil]
  rw [hindex '=' (by decide), hindex '*' (by decide)]
  simp

theorem lt_of_separatorIndex {cs : List Char} {index : Nat} (h : separatorIndex cs = some index) :
    0 < index := by
  have hmem := List.min?_mem h
  rw [List.mem_filter, Bool.and_eq_true, decide_eq_true_eq] at hmem
  exact hmem.2.1

/-- A text has no separator, or a first one. -/
theorem exists_first_separator (cs : List Char) :
    (∀ c ∈ cs, isPairSeparator c = false) ∨
      ∃ name c value, cs = name ++ c :: value ∧ (∀ d ∈ name, isPairSeparator d = false) ∧
        isPairSeparator c = true := by
  induction cs with
  | nil => exact .inl (List.forall_mem_nil _)
  | cons c cs ih =>
      cases hc : isPairSeparator c with
      | true => exact .inr ⟨[], c, cs, rfl, List.forall_mem_nil _, hc⟩
      | false =>
          rcases ih with hnone | ⟨name, d, value, rfl, hname, hd⟩
          · exact .inl (List.forall_mem_cons.mpr ⟨hc, hnone⟩)
          · exact .inr ⟨c :: name, d, value, rfl, List.forall_mem_cons.mpr ⟨hc, hname⟩, hd⟩

theorem valueOf_of_forall {attr arg : String} (h : ∀ c ∈ arg.toList, isPairSeparator c = false) :
    valueOf attr arg = none := by
  have hall : (arg.toList.takeWhile fun c => !isPairSeparator c) = arg.toList :=
    List.takeWhile_eq_self_iff.mpr fun c hc => by simp [h c hc]
  simp only [valueOf]
  rw [hall, List.drop_length]

theorem valueOf_of_name {attr arg : String} {name value : List Char} {c : Char}
    (harg : arg.toList = name ++ c :: value) (hname : ∀ d ∈ name, isPairSeparator d = false)
    (hc : isPairSeparator c = true) :
    valueOf attr arg =
      if lower (strip (String.ofList name)) = attr then some (String.ofList value) else none := by
  have hall : (arg.toList.takeWhile fun c => !isPairSeparator c) = name := by
    rw [harg, List.takeWhile_append_of_pos fun d hd => by simp [hname d hd],
      List.takeWhile_cons_of_neg (by simp [hc]), List.append_nil]
  simp only [valueOf]
  rw [hall, harg, List.drop_left]

/-- What an argument adds to an attribute whose name has no separator. -/
theorem valueOf_eq {attr : String} (hattr : ∀ c ∈ attr.toList, isPairSeparator c = false)
    (hne : attr ≠ "") (arg : String) :
    valueOf attr arg = (separatorIndex arg.toList).bind fun index =>
      if lower (strip (truncate index arg)) = attr then
        some (String.ofList (arg.toList.drop (index + 1)))
      else none := by
  rcases exists_first_separator arg.toList with hnone | ⟨name, c, value, harg, hname, hc⟩
  · rw [valueOf_of_forall hnone, separatorIndex_of_forall hnone]
    rfl
  · rw [valueOf_of_name harg hname hc]
    by_cases hempty : name = []
    · -- the separator at the start is part of whatever name is read
      subst hempty
      have hblank : lower (strip (String.ofList [])) = "" := by
        simp [lower, strip, stripChars, lowerAfter]
      rw [hblank, if_neg (Ne.symm hne)]
      cases hindex : separatorIndex arg.toList with
      | none => rfl
      | some index =>
          have hpos := lt_of_separatorIndex hindex
          have hmem : c ∈ arg.toList.take index := by
            rw [harg, List.nil_append]
            cases index with
            | zero => omega
            | succ index => exact List.mem_cons_self
          rw [Option.bind_some, truncate, if_neg (lower_strip_ne hattr hc hmem)]
    · have hdrop : (name ++ c :: value).drop (name.length + 1) = value := by
        rw [← List.drop_drop, List.drop_left]
        rfl
      rw [harg, separatorIndex_of_name hname hempty hc, Option.bind_some, truncate, harg, List.take_left,
        hdrop]

/-! ### What the arguments say -/

theorem get_add {attr : String} (hattr : ∀ c ∈ attr.toList, isPairSeparator c = false)
    (hne : attr ≠ "") (hcmd : attr ≠ "cmd-arg") (parsed : ParsedArgs) (arg : String) :
    (parsed.add arg).get attr = (parsed.get attr).or (valueOf attr arg) := by
  rw [valueOf_eq hattr hne, ParsedArgs.add]
  cases separatorIndex arg.toList with
  | none => exact (Option.or_none).symm
  | some index =>
      simp only [Option.bind_some]
      generalize lower (strip (truncate index arg)) = key
      by_cases harg : key = "cmd-arg"
      · rw [if_pos harg, if_neg fun h => hcmd (h.symm.trans harg), Option.or_none]
        rfl
      · rw [if_neg harg]
        by_cases hsome : (parsed.get key).isSome = true
        · rw [if_pos hsome]
          by_cases hkey : key = attr
          · subst hkey
            exact (Option.or_of_isSome hsome).symm
          · rw [if_neg hkey, Option.or_none]
        · rw [if_neg hsome]
          have hnone : parsed.attrs.lookup key = none := by
            rw [Bool.not_eq_true, Option.isSome_eq_false_iff, Option.isNone_iff_eq_none] at hsome
            exact hsome
          by_cases hkey : key = attr
          · subst hkey
            simp [ParsedArgs.get, List.lookup_append, hnone]
          · have hne' : (attr == key) = false := by simpa using Ne.symm hkey
            simp [ParsedArgs.get, List.lookup_append, List.lookup_cons, hkey, hne']

theorem cmdArgs_add (parsed : ParsedArgs) (arg : String) :
    (parsed.add arg).cmdArgs = parsed.cmdArgs ++ (valueOf "cmd-arg" arg).toList := by
  rw [valueOf_eq (forall_mem_of_all (by decide)) (by decide), ParsedArgs.add]
  cases separatorIndex arg.toList with
  | none => exact (List.append_nil _).symm
  | some index =>
      simp only [Option.bind_some]
      generalize lower (strip (truncate index arg)) = key
      by_cases hkey : key = "cmd-arg"
      · rw [if_pos hkey, if_pos hkey]
        rfl
      · rw [if_neg hkey, if_neg hkey, Option.toList_none, List.append_nil]
        split <;> rfl

theorem valuesOf_cons (attr arg : String) (args : List String) :
    valuesOf attr (arg :: args) = (valueOf attr arg).toList ++ valuesOf attr args := by
  rw [valuesOf, List.filterMap_cons]
  cases valueOf attr arg <;> rfl

theorem get_parseArgs {attr : String} (hattr : ∀ c ∈ attr.toList, isPairSeparator c = false)
    (hne : attr ≠ "") (hcmd : attr ≠ "cmd-arg") (args : List String) :
    (parseArgs args).get attr = (valuesOf attr args).head? := by
  have hfold : ∀ parsed : ParsedArgs, (args.foldl ParsedArgs.add parsed).get attr =
      (parsed.get attr).or (valuesOf attr args).head? := by
    induction args with
    | nil => exact fun parsed => (Option.or_none).symm
    | cons arg args ih =>
        intro parsed
        rw [List.foldl_cons, ih, get_add hattr hne hcmd, Option.or_assoc, valuesOf_cons, List.head?_append,
          Option.head?_toList]
  exact hfold {}

theorem cmdArgs_parseArgs (args : List String) : (parseArgs args).cmdArgs = valuesOf "cmd-arg" args := by
  have hfold : ∀ parsed : ParsedArgs, (args.foldl ParsedArgs.add parsed).cmdArgs =
      parsed.cmdArgs ++ valuesOf "cmd-arg" args := by
    induction args with
    | nil => exact fun parsed => (List.append_nil _).symm
    | cons arg args ih =>
        intro parsed
        rw [List.foldl_cons, ih, cmdArgs_add, List.append_assoc, valuesOf_cons]
  exact hfold {}

/-- The line that the rules see. -/
theorem commandLine_eq {args : List String} {cmd : String} (h : (valuesOf "cmd" args).head? = some cmd) :
    commandLine cmd (parseArgs args).cmdArgs = join " " (commandWords args) := by
  rw [commandLine, words_join, List.flatMap_cons, cmdArgs_parseArgs, commandWords, List.headD_eq_head?_getD,
    h, Option.getD_some]

/-! ### The verdict -/

/-- The verdict is that of the first rule that covers the words, or the default. -/
def IsVerdict (set : CommandSet) (found : List String) (verdict : Verdict) : Prop :=
  (∃ before rule after, set.rules = before ++ rule :: after ∧ (∀ earlier ∈ before, ¬Covers found earlier) ∧
      Covers found rule ∧
      verdict = ⟨rule.1 = .permit, CommandAction.lowerValue rule.1 ++ " by rule '" ++ rule.2 ++ "'"⟩) ∨
    (∀ rule ∈ set.rules, ¬Covers found rule) ∧
      verdict = ⟨set.defaultAction = .permit,
        CommandAction.lowerValue set.defaultAction ++ " by default of " ++ set.name⟩

theorem isVerdict_commandAllowed (set : CommandSet) (found : List String) :
    IsVerdict set found (commandAllowed (join " " found) (some set)) := by
  simp only [commandAllowed]
  split
  · next action pattern hfind =>
      obtain ⟨hcovers, before, after, hrules, hbefore⟩ := List.find?_eq_some_iff_append.mp hfind
      refine .inl ⟨before, (action, pattern), after, hrules, fun earlier hmem hcovered => ?_, hcovers, rfl⟩
      have hnot := hbefore earlier hmem
      rw [Covers] at hcovered
      rw [hcovered] at hnot
      cases hnot
  · next hfind => exact .inr ⟨List.find?_eq_none.mp hfind, rfl⟩

/-- The verdict on the arguments of a request. -/
def verdictOf (set : CommandSet) (args : List String) : Option Verdict :=
  ((parseArgs args).get "cmd").map fun cmd =>
    commandAllowed (commandLine cmd (parseArgs args).cmdArgs) (some set)

theorem verdictOf_eq (set : CommandSet) {args : List String} (h : AsksCommand args) :
    verdictOf set args = some (commandAllowed (join " " (commandWords args)) (some set)) := by
  obtain ⟨-, cmd, hcmd, -⟩ := h
  rw [verdictOf, get_parseArgs (forall_mem_of_all (by decide)) (by decide) (by decide), hcmd, Option.map_some, commandLine_eq hcmd]

/-- What the server answers to a user who may log in. -/
theorem authorizeUser_of_asksCommand {args : List String} (h : AsksCommand args) (user : Option UserInfo) :
    authorizeUser (parseArgs args) user =
      match user.filter fun user => (adminRights (some user)).allowed with
      | none => authorFail
      | some user => authorizeCommand user (join " " (commandWords args)) := by
  obtain ⟨⟨service, hservice, hshell⟩, cmd, hcmd, hne⟩ := h
  rw [authorizeUser]
  cases user.filter fun user => (adminRights (some user)).allowed with
  | none => rfl
  | some user =>
      have hget : (parseArgs args).get "service" = some service := by
        rw [get_parseArgs (forall_mem_of_all (by decide)) (by decide) (by decide), hservice]
      have hgetCmd : (parseArgs args).get "cmd" = some cmd := by
        rw [get_parseArgs (forall_mem_of_all (by decide)) (by decide) (by decide), hcmd]
      simp only [hget, hgetCmd, Option.getD_some, hshell, ne_eq, not_true_eq_false, if_false,
        Option.bind_some, orNone, if_neg hne, commandLine_eq hcmd]

/-- Two requests with the same words get the same verdict, that of the first rule that covers the words. -/
theorem verdict_of_words (set : CommandSet) (args args' : List String) (h : AsksCommand args)
    (h' : AsksCommand args') (hwords : commandWords args = commandWords args') :
    verdictOf set args = verdictOf set args' ∧
      (∃ verdict, verdictOf set args = some verdict ∧ IsVerdict set (commandWords args) verdict) ∧
      ∀ req : Request, authorize { req with args } = authorize { req with args := args' } := by
  refine ⟨?_, ⟨_, verdictOf_eq set h, isVerdict_commandAllowed set (commandWords args)⟩, fun req => ?_⟩
  · rw [verdictOf_eq set h, verdictOf_eq set h', hwords]
  · have huser : ∀ user, authorizeUser (parseArgs args) user = authorizeUser (parseArgs args') user := by
      intro user
      rw [authorizeUser_of_asksCommand h, authorizeUser_of_asksCommand h', hwords]
    simp only [authorize, huser]

/-- One command, whole and in pieces. -/
theorem verdict_of_words_show :
    verdictOf { id := 1, name := "ops", description := "", rules := [(.permit, "show *")] }
        ["service=shell", "cmd=show  version"] =
      verdictOf { id := 1, name := "ops", description := "", rules := [(.permit, "show *")] }
        [" Service *SHELL", "cmd*show", "x=1", "CMD-ARG=version", "cmd-arg=<cr>", "cmd=reload"] ∧
    (∃ verdict,
      verdictOf { id := 1, name := "ops", description := "", rules := [(.permit, "show *")] }
        ["service=shell", "cmd=show  version"] = some verdict ∧
      IsVerdict { id := 1, name := "ops", description := "", rules := [(.permit, "show *")] }
        (commandWords ["service=shell", "cmd=show  version"]) verdict) ∧
    ∀ req : Request, authorize { req with args := ["service=shell", "cmd=show  version"] } =
      authorize { req with args :=
        [" Service *SHELL", "cmd*show", "x=1", "CMD-ARG=version", "cmd-arg=<cr>", "cmd=reload"] } :=
  verdict_of_words _ _ _ (by unfold AsksCommand; decide +kernel) (by unfold AsksCommand; decide +kernel)
    (by decide +kernel)

end Naco.Tacacs
