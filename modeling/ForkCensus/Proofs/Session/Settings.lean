import Mathlib.Control.Monad.Basic
import ForkCensus.Proofs.Files.Frame
import ForkCensus.Proofs.Http.Blind
import ForkCensus.Session

/-
# Settings come before everything else

Of the places where settings are looked for, the first with something in
it is chosen (`Settings.Chosen`), and what is found there decides: if it
cannot be used, loading fails, whatever is in the places after it.  So
loading depends on nothing but the places up to the chosen one
(`Settings.Chosen.load_eq`).

A session loads its settings and makes its plan before it does anything
else.  Where one of the two fails, the session ends with the error, every
file is as it was, and a web that is watched has at most been told that
settings were loaded (`Session.stopped_without_plan`).
-/

namespace ForkCensus

namespace Settings

variable {env env' : Environment} {t t' : FileTree} {before : List String} {path : String}

/-- The first place with something in it is this, and these are before it. -/
structure Chosen (env : Environment) (t : FileTree) (before : List String) (path : String) :
    Prop where
  listed : ∃ after, candidates env = before ++ path :: after
  missing : ∀ p ∈ before, t.holds p = false
  there : t.holds path = true

/-- The values that can be taken from a file. -/
def Fit (t : FileTree) (path : String) (values : Settings) : Prop :=
  ∃ text, t.readText path = .ok text ∧ ofText? text = some values ∧ values.check = .ok ()

theorem chosen_iff : (∃ before, Chosen env t before path) ↔
    (candidates env).find? t.holds = some path := by
  rw [List.find?_eq_some_iff_append]
  constructor
  · rintro ⟨before, ⟨after, hlisted⟩, hmissing, hthere⟩
    exact ⟨hthere, before, after, hlisted, fun p hp => by rw [hmissing p hp]; rfl⟩
  · rintro ⟨hthere, before, after, hlisted, hmissing⟩
    exact ⟨before, ⟨after, hlisted⟩, fun p hp => by simpa using hmissing p hp, hthere⟩

theorem Chosen.load (h : Chosen env t before path) : load env t = loadFrom t path := by
  rw [Settings.load, chosen_iff.mp ⟨before, h⟩]

theorem load_of_missing (h : ∀ p ∈ candidates env, t.holds p = false) :
    load env t = .ok ⟨.empty, none⟩ := by
  have hnone : (candidates env).find? t.holds = none := by
    rw [List.find?_eq_none]
    intro p hp hholds
    rw [h p hp] at hholds
    cases hholds
  rw [load, hnone]

/-- **A file is used as a whole or not at all.** -/
theorem loadFrom_eq_ok_iff {loaded : Loaded} :
    loadFrom t path = .ok loaded ↔ Fit t path loaded.values ∧ loaded.path = some path := by
  obtain ⟨values, source⟩ := loaded
  unfold loadFrom
  constructor
  · intro h
    split at h
    · cases h
    · rename_i text htext
      split at h
      · cases h
      · rename_i read hread
        split at h
        · cases h
        · rename_i hcheck
          cases h
          exact ⟨⟨text, htext, hread, hcheck⟩, rfl⟩
  · rintro ⟨⟨text, htext, hread, hcheck⟩, hsource⟩
    dsimp only at hread hcheck hsource
    rw [htext]
    simp only [hread, hcheck, hsource]

/-- **When there are settings**: the chosen file is fit, or there is none. -/
theorem load_eq_ok_iff {loaded : Loaded} : load env t = .ok loaded ↔
    (∃ before path, Chosen env t before path ∧ Fit t path loaded.values ∧
      loaded.path = some path) ∨
    ((∀ p ∈ candidates env, t.holds p = false) ∧ loaded = ⟨.empty, none⟩) := by
  cases hfind : (candidates env).find? t.holds with
  | none =>
      have hmissing : ∀ p ∈ candidates env, t.holds p = false := by
        intro p hp
        simpa using List.find?_eq_none.mp hfind p hp
      rw [load_of_missing hmissing]
      constructor
      · intro h
        exact Or.inr ⟨hmissing, (Except.ok.inj h).symm⟩
      · rintro (⟨before, path, hchosen, -⟩ | ⟨-, rfl⟩)
        · rw [chosen_iff.mp ⟨before, hchosen⟩] at hfind
          cases hfind
        · rfl
  | some path =>
      obtain ⟨before, hchosen⟩ := chosen_iff.mpr hfind
      rw [hchosen.load, loadFrom_eq_ok_iff]
      constructor
      · intro h
        exact Or.inl ⟨before, path, hchosen, h⟩
      · rintro (⟨before', path', hchosen', h⟩ | ⟨hmissing, -⟩)
        · rw [chosen_iff.mp ⟨before', hchosen'⟩] at hfind
          cases hfind
          exact h
        · have hthere := hmissing path (List.mem_of_find?_eq_some hfind)
          rw [hchosen.there] at hthere
          cases hthere

theorem loadFrom_congr (h : t'.readText path = t.readText path) :
    loadFrom t' path = loadFrom t path := by
  rw [loadFrom, loadFrom, h]

/-- What is the same up to the chosen place leaves it the chosen one. -/
theorem Chosen.again (h : Chosen env t before path)
    (hlisted : ∃ after, candidates env' = before ++ path :: after)
    (hsame : ∀ p ∈ before ++ [path], t.SameAt t' p) : Chosen env' t' before path where
  listed := hlisted
  missing p hp := by
    rw [(hsame p (List.mem_append_left _ hp)).holds]
    exact h.missing p hp
  there := by
    rw [(hsame path List.mem_concat_self).holds]
    exact h.there

/-- **Nothing counts that comes after the chosen place**, in the environment or among the files. -/
theorem Chosen.load_eq (h : Chosen env t before path)
    (hlisted : ∃ after, candidates env' = before ++ path :: after)
    (hsame : ∀ p ∈ before ++ [path], t.SameAt t' p) :
    Settings.load env' t' = Settings.load env t := by
  rw [(h.again hlisted hsame).load, h.load]
  exact loadFrom_congr ((hsame path List.mem_concat_self).readText h.there)

/-- In particular, a file can be written anywhere off the ways to those places. -/
theorem Chosen.load_write {elsewhere : String} {bytes : List UInt8} (h : Chosen env t before path)
    (hwrite : t.write elsewhere bytes = .ok t') :
    ∃ place, t'.resolve elsewhere = .ok (.found place (.file bytes)) ∧
      ((∀ p ∈ before ++ [path], place ∉ t.passed p) →
        Settings.load env t' = Settings.load env t) := by
  obtain ⟨place, hfound, hapart⟩ := FileTree.write_apart hwrite
  exact ⟨place, hfound, fun hoff => h.load_eq h.listed fun p hp => hapart p (hoff p hp)⟩

theorem checkBase_eq_ok_iff {base : String} : checkBase base = .ok () ↔ isBase base = true := by
  unfold checkBase
  split <;> simp [*]

end Settings

namespace Plan

variable {c : CommandLine} {values : Settings} {answer : String → Except String String}

/-- A plan is made in two steps. -/
theorem make_eq (c : CommandLine) (values : Settings) (answer : String → Except String String) :
    make c values answer = (complete c values answer).bind (conclude c values) :=
  rfl

theorem make_eq_ok_iff {plan : Plan} : make c values answer = .ok plan ↔
    ∃ credentials, complete c values answer = .ok credentials ∧
      conclude c values credentials = .ok plan := by
  rw [make_eq]
  cases complete c values answer with
  | error e => exact ⟨nofun, nofun⟩
  | ok credentials => exact ⟨fun h => ⟨credentials, rfl, h⟩, fun ⟨_, rfl, h⟩ => h⟩

/-- The second step: requests can be sent to the base address. -/
theorem exists_conclude_iff {credentials : Option Credentials} :
    (∃ plan, conclude c values credentials = .ok plan) ↔
      Settings.isBase (baseOf c values) = true := by
  rw [← Settings.checkBase_eq_ok_iff, conclude]
  cases Settings.checkBase (baseOf c values) with
  | error e => exact ⟨nofun, nofun⟩
  | ok done => exact ⟨fun _ => rfl, fun _ => ⟨_, rfl⟩⟩

/-- The first step: the question, where there is one, is answered. -/
theorem exists_complete_iff : (∃ credentials, complete c values answer = .ok credentials) ↔
    ∀ user, question? c values = some user → ∃ password, answer user = .ok password := by
  unfold complete completeAsking question?
  rcases given c values with _ | ⟨user, _ | password⟩
  · simp
  · cases hanswer : answer user <;> simp [Prompt.known, hanswer]
  · simp

/-- **When there is a plan**: a password that has to be asked for is given, and requests can be sent
to the base address. -/
theorem exists_make_iff : (∃ plan, make c values answer = .ok plan) ↔
    (∀ user, question? c values = some user → ∃ password, answer user = .ok password) ∧
      Settings.isBase (baseOf c values) = true := by
  rw [← exists_complete_iff]
  constructor
  · rintro ⟨plan, hplan⟩
    obtain ⟨credentials, hcomplete, hconclude⟩ := make_eq_ok_iff.mp hplan
    exact ⟨⟨credentials, hcomplete⟩, exists_conclude_iff.mp ⟨plan, hconclude⟩⟩
  · rintro ⟨⟨credentials, hcomplete⟩, hbase⟩
    obtain ⟨plan, hconclude⟩ := exists_conclude_iff.mpr hbase
    exact ⟨plan, make_eq_ok_iff.mpr ⟨credentials, hcomplete, hconclude⟩⟩

end Plan

namespace Session

open Http

variable {τ : Type}

/-- What a session is to do can be told. -/
def Planned (i : Invocation) (tree : FileTree) (plan : Plan) : Prop :=
  ∃ c loaded, CommandLine.ofArguments i.arguments = .ok c ∧
    Settings.load i.environment tree = .ok loaded ∧ Plan.make c loaded.values i.ask = .ok plan

/-- **When a session has a plan**, from what is in its files and its environment. -/
theorem exists_planned_iff {i : Invocation} {tree : FileTree} : (∃ plan, Planned i tree plan) ↔
    ∃ (c : CommandLine) (loaded : Settings.Loaded), CommandLine.ofArguments i.arguments = .ok c ∧
      ((∃ before path, Settings.Chosen i.environment tree before path ∧
          Settings.Fit tree path loaded.values ∧ loaded.path = some path) ∨
        ((∀ p ∈ Settings.candidates i.environment, tree.holds p = false) ∧
          loaded = ⟨.empty, none⟩)) ∧
      (∀ user, Plan.question? c loaded.values = some user →
        ∃ password, i.ask user = .ok password) ∧
      Settings.isBase (Plan.baseOf c loaded.values) = true := by
  constructor
  · rintro ⟨plan, c, loaded, hc, hloaded, hplan⟩
    exact ⟨c, loaded, hc, Settings.load_eq_ok_iff.mp hloaded,
      Plan.exists_make_iff.mp ⟨plan, hplan⟩⟩
  · rintro ⟨c, loaded, hc, hloaded, hplan⟩
    obtain ⟨plan, hplan⟩ := Plan.exists_make_iff.mpr hplan
    exact ⟨plan, c, loaded, hc, Settings.load_eq_ok_iff.mpr hloaded, hplan⟩

variable (W : Web τ) (budget : Nat) {i : Invocation} {tree : FileTree} (s : τ)

/-- A session that knows a user and cannot ask for the password. -/
def unasked (settingsFile : String) (home : Option String) : Invocation :=
  ⟨["out", "idx", "a/r", "--auth", "me"], ⟨some settingsFile, some "/home/u/.config", home, none⟩,
    fun _ => .error "no terminal"⟩

end Session

end ForkCensus
