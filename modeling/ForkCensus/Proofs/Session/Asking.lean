import ForkCensus.Proofs.Client.Destination
import ForkCensus.Proofs.Session.Users

/-
# What a plan takes from where

A plan is made from two sources, and for each setting that has a value one
of the two is looked at: the command line or, where it says nothing, the
settings.  Only following forks of forks can be asked for in either.

Whether anybody is asked for a password is told by the state of the
`Prompt`, which is of an arbitrary type: one that is not asked stays in
the state that it was in.  The plan is the one that its answers make,
known beforehand (`Plan.makeAsking_fst`), and at most one question has
been put to it (`Plan.makeAsking_snd`).
-/

namespace ForkCensus

variable {σ : Type}

/-- The same prompt, with the users it was asked about beside its state, the first one first. -/
def Prompt.recorded (ask : Prompt σ) : Prompt (List String × σ) := fun user t =>
  let (answer, t') := ask user t.2
  (answer, t.1 ++ [user], t')

namespace Credentials

/-- What holds a colon is cut at the first one: the parts are the user and the password. -/
theorem ofText_of_colon {auth : String} (h : ':' ∈ auth.toList) :
    ∃ user password, ofText auth = ⟨user, some password⟩ ∧ ':' ∉ user.toList ∧
      user ++ ":" ++ password = auth := by
  obtain ⟨user, password, hauth, huser⟩ := List.eq_append_cons_of_mem h
  refine ⟨String.ofList user, String.ofList password, ?_, ?_, ?_⟩
  · rw [ofText, hauth, Text.cut_append huser]
  · rwa [String.toList_ofList]
  · rw [← String.toList_inj, hauth]
    simp

/-- What holds no colon is a user alone. -/
theorem ofText_of_not_colon {auth : String} (h : ':' ∉ auth.toList) :
    ofText auth = ⟨auth, none⟩ := by
  rw [ofText, Text.cut_eq_none h]

end Credentials

namespace Plan

/-! ## Asking -/

variable {c : CommandLine} {s : Settings}

theorem completeAsking_fst (ask : Prompt σ) (t : σ) :
    (completeAsking c s ask t).1 = complete c s fun user => (ask user t).1 := by
  unfold complete completeAsking
  rcases given c s with _ | ⟨user, _ | password⟩
  · rfl
  · rcases hask : ask user t with ⟨_ | _, t'⟩ <;> simp only [Prompt.known, hask]
  · rfl

/-- **A prompt makes the plan that its answers make.** -/
theorem makeAsking_fst (ask : Prompt σ) (t : σ) :
    (makeAsking c s ask t).1 = make c s fun user => (ask user t).1 := by
  rw [make_eq, ← completeAsking_fst]
  rfl

/-- **A prompt is asked the question, if there is one**, and nothing else. -/
theorem makeAsking_snd (ask : Prompt σ) (t : σ) :
    (makeAsking c s ask t).2 = (question? c s).elim t fun user => (ask user t).2 := by
  change (completeAsking c s ask t).2 = (question? c s).elim t fun user => (ask user t).2
  unfold completeAsking question?
  rcases given c s with _ | ⟨user, _ | password⟩
  · rfl
  · rcases hask : ask user t with ⟨_ | _, t'⟩ <;> simp [hask]
  · rfl

/-- There is a question where the text of the credentials holds no colon: then it is the user. -/
theorem question?_eq (c : CommandLine) (s : Settings) :
    question? c s = (c.auth.or s.auth).filter fun auth => ':' ∉ auth.toList := by
  rw [question?, given_eq]
  cases c.auth.or s.auth with
  | none => rfl
  | some auth =>
      rw [Option.filter_some, Option.map_some]
      by_cases h : ':' ∈ auth.toList
      · obtain ⟨user, password, hauth, -⟩ := Credentials.ofText_of_colon h
        simp [hauth, h]
      · simp [Credentials.ofText_of_not_colon h, h]

/-! ## What is made -/

variable {answer : String → Except String String}

theorem complete_of_none (h : c.auth.or s.auth = none) : complete c s answer = .ok none := by
  rw [complete, completeAsking, given_eq, h]
  rfl

theorem complete_of_answered {auth password : String} (h : c.auth.or s.auth = some auth)
    (hcolon : ':' ∉ auth.toList) (hanswer : answer auth = .ok password) :
    complete c s answer = .ok (some ⟨auth, some password⟩) := by
  simp only [complete, completeAsking, Prompt.known, given_eq, h, Option.map_some,
    Credentials.ofText_of_not_colon hcolon, hanswer]

theorem complete_of_unanswered {auth reason : String} (h : c.auth.or s.auth = some auth)
    (hcolon : ':' ∉ auth.toList) (hanswer : answer auth = .error reason) :
    complete c s answer = .error (.password reason) := by
  simp only [complete, completeAsking, Prompt.known, given_eq, h, Option.map_some,
    Credentials.ofText_of_not_colon hcolon, hanswer]

/-- Credentials that are used have a password, which was in their text or was answered. -/
theorem complete_of_some {auth : String} (h : c.auth.or s.auth = some auth)
    {credentials : Option Credentials} (hcomplete : complete c s answer = .ok credentials) :
    ∃ user password, credentials = some ⟨user, some password⟩ ∧
      (':' ∈ auth.toList → user ++ ":" ++ password = auth) ∧
      (':' ∉ auth.toList → user = auth ∧ answer auth = .ok password) := by
  by_cases hcolon : ':' ∈ auth.toList
  · obtain ⟨user, password, hauth, -, hjoined⟩ := Credentials.ofText_of_colon hcolon
    rw [complete, completeAsking, given_eq, h, Option.map_some, hauth] at hcomplete
    exact ⟨user, password, (Except.ok.inj hcomplete).symm, fun _ => hjoined,
      fun hnone => absurd hcolon hnone⟩
  · cases hanswer : answer auth with
    | error reason =>
        rw [complete_of_unanswered h hcolon hanswer] at hcomplete
        cases hcomplete
    | ok password =>
        rw [complete_of_answered h hcolon hanswer] at hcomplete
        exact ⟨auth, password, (Except.ok.inj hcomplete).symm, fun hsome => absurd hsome hcolon,
          fun _ => ⟨rfl, rfl⟩⟩

/-- What a plan has that is no credentials. -/
theorem base_of_make {plan : Plan} (h : make c s answer = .ok plan) :
    plan.base = baseOf c s ∧ plan.recursive = (c.recursive || s.isRecursive) := by
  obtain ⟨credentials, -, hconclude⟩ := make_eq_ok_iff.mp h
  exact (parts_of_conclude hconclude).2

/-- The credentials of a plan: there are some where the command line or the settings have some, and
they have a password, their own or the one that was answered. -/
theorem credentials_of_make {plan : Plan} (h : make c s answer = .ok plan) :
    (plan.credentials = none ↔ c.auth.or s.auth = none) ∧
      ∀ who ∈ plan.credentials, ∃ password, who.password = some password ∧
        ∀ auth, c.auth.or s.auth = some auth →
          (':' ∈ auth.toList → who.user ++ ":" ++ password = auth) ∧
            (':' ∉ auth.toList → who.user = auth ∧ answer auth = .ok password) := by
  have hcomplete := complete_of_make h
  cases hauth : c.auth.or s.auth with
  | none =>
      have hnone : plan.credentials = none := by
        rw [complete_of_none hauth] at hcomplete
        exact (Except.ok.inj hcomplete).symm
      rw [hnone]
      exact ⟨iff_of_true rfl rfl, nofun⟩
  | some auth =>
      obtain ⟨user, password, hcredentials, hparts⟩ := complete_of_some hauth hcomplete
      rw [hcredentials]
      refine ⟨iff_of_false nofun nofun, fun who hwho => ?_⟩
      cases hwho
      refine ⟨password, rfl, fun auth' hauth' => ?_⟩
      cases hauth'
      exact hparts

/-- **What a plan takes from where.**  What the settings say of credentials, or of the base address,
is not looked at where the command line says something of them, neither for the plan nor for the
question.  The question is asked exactly where the text of the credentials holds no colon, once and
with this text for the user; where it is not answered, there is no plan.  The credentials of a plan
have a password, and are the text cut at a colon that it holds; forks of forks are followed where
either source asks for it.  There is a plan exactly if the question, where there is one, is
answered, and the base address is one of the web. -/
theorem make_sources (c : CommandLine) (s : Settings) (ask : Prompt σ) (t : σ) :
    let auth := c.auth.or s.auth
    let asked := auth.filter fun text => ':' ∉ text.toList
    let base := c.apiBase.getD (s.apiBase.getD Settings.publicBase)
    let result := (makeAsking c s ask t).1
    result = make c s (fun user => (ask user t).1) ∧
      (∀ given other, c.auth = some given →
        makeAsking c { s with auth := other } ask t = makeAsking c s ask t) ∧
      (∀ given other, c.apiBase = some given →
        makeAsking c { s with apiBase := other } ask t = makeAsking c s ask t) ∧
      makeAsking c s ask.recorded ([], t) =
        (result, asked.toList, asked.elim t fun user => (ask user t).2) ∧
      (∀ user reason, asked = some user → (ask user t).1 = .error reason →
        result = .error (.password reason)) ∧
      (∀ plan, result = .ok plan →
        (plan.credentials = none ↔ auth = none) ∧
          (∀ who ∈ plan.credentials, ∃ password, who.password = some password ∧
            ∀ text, auth = some text →
              (':' ∈ text.toList → who.user ++ ":" ++ password = text) ∧
                (':' ∉ text.toList → who.user = text ∧ (ask text t).1 = .ok password)) ∧
          plan.base = base ∧ plan.recursive = (c.recursive || s.recursive.getD false)) ∧
      ((∃ plan, result = .ok plan) ↔
        (∀ user, asked = some user → ∃ password, (ask user t).1 = .ok password) ∧
          ∃ scheme rest,
            (scheme = "http" ∨ scheme = "https") ∧ base = scheme ++ "://" ++ rest) := by
  intro auth asked base result
  have hresult : result = make c s fun user => (ask user t).1 := makeAsking_fst ask t
  have hasked : question? c s = asked := question?_eq c s
  refine ⟨hresult, ?_, ?_, ?_, ?_, ?_, ?_⟩
  · intro given other hgiven
    simp only [makeAsking, completeAsking, Plan.given, hgiven]
    rfl
  · intro given other hgiven
    have hconclude : conclude c { s with apiBase := other } = conclude c s := by
      funext credentials
      simp only [conclude, baseOf, hgiven]
      rfl
    rw [makeAsking, hconclude]
    rfl
  · refine Prod.ext ?_ ?_
    · rw [makeAsking_fst]
      exact hresult.symm
    · rw [makeAsking_snd, hasked]
      cases asked <;> rfl
  · intro user reason huser hreason
    have hauth : auth = some user ∧ ':' ∉ user.toList := by
      simpa using Option.filter_eq_some_iff.mp huser
    rw [hresult, make_eq, complete_of_unanswered hauth.1 hauth.2 hreason]
    rfl
  · intro plan hplan
    rw [hresult] at hplan
    obtain ⟨hnone, hwho⟩ := credentials_of_make hplan
    exact ⟨hnone, hwho, base_of_make hplan⟩
  · rw [hresult, exists_make_iff, hasked, Settings.isBase_iff]
    rfl

/-- A user on the command line goes before credentials in the settings, which would not have needed
a question; the base address is from the settings. -/
theorem make_sources_asked :
    let c : CommandLine := ⟨"out", "idx", ["a/r"], some "me", none, false, false, false, false⟩
    let s : Settings := ⟨some "http://localhost", some "you:p:w", some true⟩
    let ask : Prompt Nat := fun _ n => (.ok "secret", n + 1)
    ∃ plan, makeAsking c s ask.recorded ([], 6) = (.ok plan, ["me"], 7) ∧
      plan.credentials = some ⟨"me", some "secret"⟩ ∧ plan.base = "http://localhost" ∧
      plan.recursive = true ∧
      makeAsking c { s with auth := some "you" } ask 6 = makeAsking c s ask 6 := by
  intro c s ask
  obtain ⟨hresult, hauth, -, hrecorded, -, hplan, hends⟩ := make_sources c s ask 6
  obtain ⟨plan, hok⟩ := hends.mpr ⟨fun _ _ => ⟨"secret", rfl⟩, "http", "localhost", .inl rfl, rfl⟩
  obtain ⟨-, -, hbase, hrecursive⟩ := hplan plan hok
  have hasked : (c.auth.or s.auth).filter (fun text => ':' ∉ text.toList) = some "me" := by
    decide
  rw [hok, hasked] at hrecorded
  refine ⟨plan, hrecorded, ?_, hbase, hrecursive, hauth "me" _ rfl⟩
  rw [hresult] at hok
  have hcomplete := complete_of_make hok
  exact (Except.ok.inj hcomplete).symm

end Plan

end ForkCensus
