import ForkCensus.Plan
import ForkCensus.Proofs.Session.Settings
import ForkCensus.Proofs.Text.Cutting

/-
# Whom a run speaks for

Credentials are written as `user:password`, or as a user alone.  Where
nothing stands before the first colon they name nobody (`Nameless`), and a
settings file with such credentials is refused.

The command line comes before the settings, and what it says of
credentials is not looked at.  So a plan has credentials without a user
exactly where they were given so on the command line
(`Plan.nameless_iff`).
-/

namespace ForkCensus

/-- Nothing stands before the first colon. -/
def Nameless (auth : String) : Prop :=
  ∀ c ∈ auth.toList.head?, c = ':'

instance (auth : String) : Decidable (Nameless auth) :=
  inferInstanceAs (Decidable (∀ c ∈ auth.toList.head?, c = ':'))

namespace Credentials

/-- The user is what stands before the first colon, or everything. -/
theorem toList_user_ofText (auth : String) :
    (ofText auth).user.toList = auth.toList.takeWhile (· != ':') := by
  rw [← Text.takeWhile_of_cut, ofText]
  cases Text.cut ':' auth.toList with
  | none => rfl
  | some parts => exact String.toList_ofList

theorem user_eq_empty_iff {auth : String} : (ofText auth).user = "" ↔ Nameless auth := by
  rw [← String.toList_inj, toList_user_ofText, Nameless]
  cases auth.toList with
  | nil => simp
  | cons c cs =>
      by_cases hc : c = ':' <;> simp [hc]

end Credentials

namespace Settings

theorem checkAuth_eq_ok_iff {auth : String} : checkAuth auth = .ok () ↔ ¬Nameless auth := by
  have hempty : auth.isEmpty = auth.toList.isEmpty := by
    rw [Bool.eq_iff_iff, String.isEmpty_iff, List.isEmpty_iff, String.toList_eq_nil_iff]
  rw [checkAuth, hempty, Text.begins, Nameless]
  cases auth.toList with
  | nil => simp
  | cons c cs =>
      by_cases hc : c = ':'
      · simp [hc]
      · simp [hc, Ne.symm hc]

/-- **Settings that can be used** have an address for requests and credentials with a user, where
they have any. -/
theorem check_eq_ok_iff {s : Settings} : s.check = .ok () ↔
    (∀ base ∈ s.apiBase, isBase base = true) ∧ ∀ auth ∈ s.auth, ¬Nameless auth := by
  obtain ⟨_ | base, _ | auth, recursive⟩ := s
  · exact ⟨fun _ => ⟨nofun, nofun⟩, fun _ => rfl⟩
  · simpa [check] using checkAuth_eq_ok_iff
  · simpa [check] using checkBase_eq_ok_iff
  · simp only [check, Option.mem_def, Option.some.injEq, forall_eq']
    rw [← checkBase_eq_ok_iff, ← checkAuth_eq_ok_iff]
    cases checkBase base with
    | error e => exact ⟨nofun, nofun⟩
    | ok done => exact ⟨fun h => ⟨rfl, h⟩, And.right⟩

/-- Settings that were read from a file name a user wherever they have credentials. -/
theorem named_of_load {env : Environment} {t : FileTree} {loaded : Loaded}
    (h : load env t = .ok loaded) : ∀ auth ∈ loaded.values.auth, ¬Nameless auth := by
  rcases load_eq_ok_iff.mp h with ⟨_, _, -, ⟨_, -, -, hcheck⟩, -⟩ | ⟨-, rfl⟩
  · exact (check_eq_ok_iff.mp hcheck).2
  · nofun

end Settings

namespace Plan

/-- The credentials that are used are those of the command line, if it has any. -/
theorem given_eq (c : CommandLine) (s : Settings) :
    given c s = (c.auth.or s.auth).map Credentials.ofText := by
  rw [given, Settings.credentials]
  cases c.auth <;> rfl

/-- Asking for a password does not change the user. -/
theorem complete_user {c : CommandLine} {s : Settings} {ask : String → Except String String}
    {who : Credentials} (h : complete c s ask = .ok (some who)) :
    ∃ auth, c.auth.or s.auth = some auth ∧ who.user = (Credentials.ofText auth).user := by
  rw [complete, completeAsking, given_eq] at h
  cases hauth : c.auth.or s.auth with
  | none =>
      rw [hauth] at h
      cases h
  | some auth =>
      refine ⟨auth, rfl, ?_⟩
      rw [hauth, Option.map_some] at h
      generalize Credentials.ofText auth = given at h ⊢
      rcases given with ⟨user, _ | password⟩
      · cases hask : ask user with
        | error reason =>
            simp only [Prompt.known, hask] at h
            cases h
        | ok password =>
            simp only [Prompt.known, hask] at h
            cases h
            rfl
      · cases h
        rfl

/-- What a plan has of the command line, the settings, and the credentials that came of them. -/
theorem parts_of_conclude {c : CommandLine} {s : Settings} {credentials : Option Credentials}
    {plan : Plan} (h : conclude c s credentials = .ok plan) : plan.credentials = credentials ∧
      plan.base = baseOf c s ∧ plan.recursive = (c.recursive || s.isRecursive) := by
  unfold conclude at h
  split at h
  · cases h
  · cases h
    exact ⟨rfl, rfl, rfl⟩

theorem complete_of_make {c : CommandLine} {s : Settings} {ask : String → Except String String}
    {plan : Plan} (h : make c s ask = .ok plan) : complete c s ask = .ok plan.credentials := by
  obtain ⟨credentials, hcomplete, hconclude⟩ := make_eq_ok_iff.mp h
  rw [hcomplete, (parts_of_conclude hconclude).1]

/-- **Whom a plan is for.**  The user of its credentials is what stands before the first colon of the
text on the command line or, without one there, of that in the settings.  It is empty exactly if the
text is on the command line and names nobody: settings that were loaded name a user. -/
theorem nameless_iff {env : Environment} {tree : FileTree} {loaded : Settings.Loaded}
    {c : CommandLine} {ask : String → Except String String} {plan : Plan} {who : Credentials}
    (hload : Settings.load env tree = .ok loaded) (hplan : make c loaded.values ask = .ok plan)
    (hwho : plan.credentials = some who) :
    ∃ auth, c.auth.or loaded.values.auth = some auth ∧
      who.user.toList = auth.toList.takeWhile (· != ':') ∧
      (who.user = "" ↔ c.auth = some auth ∧ Nameless auth) := by
  have hcomplete := complete_of_make hplan
  rw [hwho] at hcomplete
  obtain ⟨auth, hauth, huser⟩ := complete_user hcomplete
  refine ⟨auth, hauth, ?_, ?_⟩
  · rw [huser, Credentials.toList_user_ofText]
  · rw [huser, Credentials.user_eq_empty_iff]
    cases hgiven : c.auth with
    | some given =>
        rw [hgiven] at hauth
        cases hauth
        exact ⟨fun h => ⟨rfl, h⟩, And.right⟩
    | none =>
        rw [hgiven] at hauth
        have hnamed := Settings.named_of_load hload auth hauth
        exact ⟨fun h => absurd h hnamed, nofun⟩

/-- A settings file with credentials in it, and nothing else. -/
def signed (line : String) : FileTree :=
  ⟨[(["own.toml"], .file (Text.utf8 line))], []⟩

/-- Credentials from a file; the password is what follows the first colon, a second one with it. -/
theorem nameless_iff_file :
    let tree := signed "auth = \"me:p:w\""
    let env : Environment := ⟨some "own.toml", none, none, none⟩
    let c : CommandLine := ⟨"out", "idx", ["a/r"], none, none, false, false, false, false⟩
    let loaded : Settings.Loaded := ⟨⟨none, some "me:p:w", none⟩, some "own.toml"⟩
    ∃ plan, Settings.load env tree = .ok loaded ∧
      make c loaded.values .error = .ok plan ∧ plan.credentials = some ⟨"me", some "p:w"⟩ ∧
      ∃ auth, c.auth.or loaded.values.auth = some auth ∧
        "me".toList = auth.toList.takeWhile (· != ':') ∧
        ("me" = "" ↔ c.auth = some auth ∧ Nameless auth) := by
  intro tree env c loaded
  have hload : Settings.load env tree = .ok loaded := by decide +kernel
  have hplan : make c loaded.values .error = .ok ⟨"out", "idx", ["a/r"],
      some ⟨"me", some "p:w"⟩, Settings.publicBase, false, .normal⟩ := by
    decide +kernel
  exact ⟨_, hload, hplan, rfl, nameless_iff hload hplan rfl⟩

/-- The same credentials without a user make a plan if they are on the command line, and are refused
in a file. -/
theorem nameless_given :
    ∃ c plan, CommandLine.ofArguments ["--auth", ":secret", "out", "idx", "a/r"] = .ok c ∧
      Settings.load ⟨none, none, none, none⟩ .empty = .ok ⟨.empty, none⟩ ∧
      make c .empty .error = .ok plan ∧ plan.credentials = some ⟨"", some "secret"⟩ ∧
      Settings.load ⟨some "own.toml", none, none, none⟩ (signed "auth = \":secret\"") =
        .error .namelessAuth := by
  refine ⟨⟨"out", "idx", ["a/r"], some ":secret", none, false, false, false, false⟩,
    ⟨"out", "idx", ["a/r"], some ⟨"", some "secret"⟩, Settings.publicBase, false, .normal⟩,
    ?_, ?_, ?_, rfl, ?_⟩
  all_goals decide +kernel

end Plan

end ForkCensus
