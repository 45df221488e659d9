import ForkCensus.Http.Script
import ForkCensus.Proofs.Forge.Simulation

/-
# Servers that do not look who asks

`masked` takes from a request the headers that say who asks.  A web is
blind when its answers do not depend on those: requests that are the same
once masked get the same answer, in states that are related, and leave
related states behind (`Web.Blind`).  The states may differ, since a
server may well write down who asked.

What a web is made to do is written down by `Web.watched`: requests,
pauses and entries in the journal.  Watching a blind web leaves the same
list behind, but for who asked (`Web.Blind.watched`).  And a blind server
stays blind when its redirections are followed (`Exchange.Blind.web`),
although following them may take a header away.
-/

namespace ForkCensus.Http

/-- The headers that do not say who asks. -/
def masked (headers : List Header) : List Header :=
  headers.filter fun h => !Text.Ascii.same h.name "authorization"

/-- The request without those that say who asks. -/
def Request.masked (r : Request) : Request :=
  { r with headers := Http.masked r.headers }

theorem masked_append (headers more : List Header) :
    masked (headers ++ more) = masked headers ++ masked more :=
  List.filter_append ..

theorem masked_masked (headers : List Header) : masked (masked headers) = masked headers := by
  rw [masked, masked, List.filter_filter]
  simp only [Bool.and_self]

/-- The header for a user and a password is one of them. -/
theorem masked_basicAuth (user : String) (password : Option String) :
    masked [basicAuth user password] = [] := by
  simp [masked, basicAuth, Header.ofText, Text.Ascii.same]

/-! ## Webs -/

/-- Something that a web is made to do. -/
inductive Deed where
  | sent (r : Request)
  | paused (seconds : UInt64)
  | noted (e : Event)
deriving DecidableEq

/-- The same, but for who asked. -/
def Deed.masked : Deed → Deed
  | sent r => sent r.masked
  | paused seconds => paused seconds
  | noted e => noted e

namespace Web

variable {τ : Type}

/-- The same web, with all that it was made to do beside its state, the oldest first. -/
def watched (W : Web τ) : Web (List Deed × τ) where
  get r s :=
    let (reply, t) := W.get r s.2
    (reply, s.1 ++ [.sent r], t)
  pause seconds s := (s.1 ++ [.paused seconds], W.pause seconds s.2)
  now s := W.now s.2
  note e s := (s.1 ++ [.noted e], W.note e s.2)

/-- A web that does not see who asks, its states taken up to `R`. -/
structure Blind (W : Web τ) (R : τ → τ → Prop) : Prop where
  get : ∀ {r r' s t}, r.masked = r'.masked → R s t → Agree R (W.get r s) (W.get r' t)
  pause : ∀ {s t} (seconds : UInt64), R s t → R (W.pause seconds s) (W.pause seconds t)
  now : ∀ {s t}, R s t → W.now s = W.now t
  note : ∀ {s t} (e : Event), R s t → R (W.note e s) (W.note e t)

/-- The same was done, but for who asked, and the states are related. -/
def SameDeeds (R : τ → τ → Prop) (s t : List Deed × τ) : Prop :=
  s.1.map Deed.masked = t.1.map Deed.masked ∧ R s.2 t.2

/-- Watching a blind web shows the same, but for who asked. -/
theorem Blind.watched {W : Web τ} {R : τ → τ → Prop} (h : W.Blind R) :
    W.watched.Blind (SameDeeds R) where
  get {r r' s t} hr hst := by
    obtain ⟨reply, u, v, hget, hget', huv⟩ := (h.get hr hst.2).split
    simp only [Web.watched, hget, hget']
    refine ⟨rfl, ?_, huv⟩
    rw [List.map_append, List.map_append, hst.1]
    exact congrArg (fun r => t.1.map Deed.masked ++ [Deed.sent r]) hr
  pause seconds hst :=
    ⟨by simp only [Web.watched, List.map_append, hst.1, List.map_singleton], h.pause seconds hst.2⟩
  now hst := h.now hst.2
  note e hst :=
    ⟨by simp only [Web.watched, List.map_append, hst.1, List.map_singleton], h.note e hst.2⟩

end Web

/-! ## Servers -/

namespace Exchange

variable {τ : Type}

/-- A server that does not see who asks, its states taken up to `R`. -/
def Blind (x : Exchange τ) (R : τ → τ → Prop) : Prop :=
  ∀ u headers headers' s t, masked headers = masked headers' → R s t →
    Agree R (x u headers s) (x u headers' t)

/-- Being sent elsewhere keeps what is the same once masked. -/
theorem masked_passedHeaders {here there : Url} {headers headers' : List Header}
    (h : masked headers = masked headers') :
    masked (passedHeaders here there headers) = masked (passedHeaders here there headers') := by
  have hother (headers : List Header) : (headers.filter fun h =>
      !Text.Ascii.same h.name "authorization") = masked headers := rfl
  unfold passedHeaders
  split
  · exact h
  · rw [hother, hother, masked_masked, masked_masked, h]

/-- By recursion on how many redirections may still be followed. -/
theorem Blind.follow {x : Exchange τ} {R : τ → τ → Prop} (hx : x.Blind R) (left : Nat) (u : Url)
    {headers headers' : List Header} {s t : τ} (hheaders : masked headers = masked headers')
    (hst : R s t) : Agree R (x.follow left u headers s) (x.follow left u headers' t) := by
  obtain ⟨reply, s', t', hs, ht, hst'⟩ := (hx u _ _ _ _ hheaders hst).split
  unfold Exchange.follow
  split
  · exact ⟨rfl, hst⟩
  · simp only [hs, ht]
    cases reply with
    | error reason => exact ⟨rfl, hst'⟩
    | ok r =>
        dsimp only
        cases r.redirect? u with
        | none => exact ⟨rfl, hst'⟩
        | some next =>
            cases left with
            | zero => exact ⟨rfl, hst'⟩
            | succ left => exact hx.follow left next (masked_passedHeaders hheaders) hst'

theorem Blind.get {x : Exchange τ} {R : τ → τ → Prop} (hx : x.Blind R) {r r' : Request} {s t : τ}
    (hr : r.masked = r'.masked) (hst : R s t) : Agree R (x.get r s) (x.get r' t) := by
  obtain ⟨url, headers⟩ := r
  obtain ⟨url', headers'⟩ := r'
  obtain ⟨rfl, hheaders⟩ := Request.mk.inj hr
  unfold Exchange.get
  cases Url.ofText? url with
  | none => exact ⟨rfl, hst⟩
  | some u =>
      refine hx.follow _ _ ?_ hst
      rw [masked_append, masked_append]
      exact congrArg _ hheaders

/-- **Following redirections does not show who asks.** -/
theorem Blind.web {x : Exchange τ} {R : τ → τ → Prop} (hx : x.Blind R) (time : Int64) :
    (x.web time).Blind R where
  get := hx.get
  pause _ hst := hst
  now _ := rfl
  note _ hst := hst

end Exchange

/-! ## A server that goes by a script -/

/-- The request as a server sees it, but for who asks. -/
def Asked.masked (a : Asked) : Asked :=
  { a with headers := Http.masked a.headers }

namespace Script

/-- The same server and the same requests, but for who asked. -/
def SameLog (s t : Script) : Prop :=
  s.address = t.address ∧ s.routes = t.routes ∧ s.log.map Asked.masked = t.log.map Asked.masked

theorem serve_blind {headers headers' : List Header} {s t : Script} (target : String)
    (hheaders : masked headers = masked headers') (hst : SameLog s t) :
    Agree SameLog (serve target headers s) (serve target headers' t) := by
  obtain ⟨haddress, hroutes, hlog⟩ := hst
  have hlog' : (s.log ++ [Asked.mk target headers]).map Asked.masked =
      (t.log ++ [Asked.mk target headers']).map Asked.masked := by
    rw [List.map_append, List.map_append, hlog]
    exact congrArg (fun h => t.log.map Asked.masked ++ [Asked.mk target h]) hheaders
  simp only [serve, hroutes]
  cases take? target t.routes with
  | none => exact ⟨rfl, haddress, rfl, hlog'⟩
  | some taken => exact ⟨rfl, haddress, rfl, hlog'⟩

/-- A script does not look who asks, although the server writes it down. -/
theorem exchange_blind : Exchange.Blind exchange SameLog := by
  intro u headers headers' s t hheaders hst
  have hat : s.isAt u = t.isAt u := by rw [isAt, isAt, hst.1]
  unfold exchange
  rw [hat]
  split
  · obtain ⟨reply, s', t', hs, ht, hst'⟩ := (serve_blind u.target hheaders hst).split
    simp only [hs, ht]
    cases reply <;> exact ⟨rfl, hst'⟩
  · exact ⟨rfl, hst⟩

end Script

end ForkCensus.Http
