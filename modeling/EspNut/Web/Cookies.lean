import EspNut.Web.Access
import EspNut.WebAuth.SessionLife

/-!
# The cookie of a login

The cookie that a login sets is found again among the cookies a browser sends, and its session opens every page behind the guard for as long as it is used.
-/

namespace EspNut

open Lib

namespace AuthPolicy

/-! ### The cookies of a browser -/

/-- What a browser keeps of a Set-Cookie header: the name and the value, without the attributes. -/
def cookiePair (header : String) : List Char := header.toList.takeWhile (· ≠ ';')

def cookieHeader (pairs : List (List Char)) : List Char := List.intercalate [';', ' '] pairs

theorem cookie_space (pair : List Char) : cookie (' ' :: pair) = cookie pair := by
  unfold cookie trimSpaces
  simp

theorem filterMap_cookie_space (text : List Char) :
    ((' ' :: text).splitOn ';').filterMap cookie = (text.splitOn ';').filterMap cookie := by
  obtain ⟨more, hmore⟩ := splitOn_eq_cons ';' text
  rw [List.splitOn_cons_eq_if_modifyHead, if_neg (by decide), hmore, List.modifyHead_cons, List.filterMap_cons,
    List.filterMap_cons, cookie_space]

/-- The cookies that are read are those that were sent. -/
theorem cookies_cookieHeader {pairs : List (List Char)} (hpairs : pairs ≠ []) (hplain : ∀ pair ∈ pairs, ';' ∉ pair) :
    cookies (cookieHeader pairs) = pairs.filterMap cookie := by
  induction pairs with
  | nil => exact absurd rfl hpairs
  | cons pair rest ih =>
      have hpair := hplain pair List.mem_cons_self
      cases rest with
      | nil =>
          unfold cookies cookieHeader
          rw [List.intercalate_singleton, List.splitOn_eq_singleton hpair]
      | cons next rest =>
          have hrest := ih (List.cons_ne_nil next rest) fun other hother => hplain other (List.mem_cons_of_mem pair hother)
          have hheader : cookieHeader (pair :: next :: rest) = pair ++ ';' :: ' ' :: cookieHeader (next :: rest) := by
            unfold cookieHeader
            rw [List.intercalate_cons_cons, List.append_assoc]
            rfl
          unfold cookies at hrest ⊢
          rw [hheader, List.splitOn_append_cons_self_of_not_mem hpair, List.filterMap_cons, List.filterMap_cons,
            filterMap_cookie_space, hrest]

/-- A cookie of the header is read back, when none before it has its name. -/
theorem extractCookie_cookieHeader {header : String} {name value : List Char} {before after : List (List Char)}
    (hheader : header.toList = cookieHeader (before ++ (name ++ '=' :: value) :: after))
    (hplain : ∀ pair ∈ before ++ (name ++ '=' :: value) :: after, ';' ∉ pair)
    (hother : ∀ pair ∈ before, ∀ c, cookie pair = some c → c.1 ≠ name)
    (hname : '=' ∉ name ∧ trimSpaces name = name) (hvalue : trimSpaces value = value) :
    extractCookie header (some (String.ofList name)) = String.ofList value := by
  have hcookie : cookie (name ++ '=' :: value) = some (name, value) := by
    have hstays : ∀ c ∈ name, Decidable.decide (c ≠ '=') = true := fun c hc => decide_eq_true fun heq => hname.1 (heq ▸ hc)
    unfold cookie
    rw [List.dropWhile_append_of_pos hstays, List.takeWhile_append_of_pos hstays]
    simp [hname.2, hvalue]
  have hlookup : ((before ++ (name ++ '=' :: value) :: after).filterMap cookie).lookup name = some value := by
    rw [List.filterMap_append, List.lookup_append, List.filterMap_cons, hcookie]
    have hnone : (before.filterMap cookie).lookup name = none := by
      refine List.lookup_eq_none_iff.mpr fun c hc => ?_
      obtain ⟨pair, hpair, hc⟩ := List.mem_filterMap.mp hc
      simpa using Ne.symm (hother pair hpair c hc)
    rw [hnone]
    simp
  have hread : extractCookieFrom header.toList (String.ofList name).toList 0 = value := by
    rw [extractCookieFrom_eq, List.drop_zero, hheader, cookies_cookieHeader (by simp) hplain, String.toList_ofList, hlookup]
    rfl
  exact congrArg String.ofList hread

end AuthPolicy

namespace SessionTable

/-! ### The characters of a token -/

theorem mem_hexToken {raw : Fin kTokenBytes → Byte} {c : Char} (hc : c ∈ (hexToken raw).toList) : c ≠ ' ' ∧ c ≠ ';' := by
  have hdigits : (kHex.all fun c => c != ' ' && c != ';') = true := by decide
  have hdigit (n : Nat) : kHex.getD n '0' ∈ kHex := by
    rw [List.getD_eq_getElem?_getD]
    cases hget : kHex[n]? with
    | none => exact (by decide : '0' ∈ kHex)
    | some d => exact List.mem_of_getElem? hget
  have hmem : c ∈ kHex := by
    unfold hexToken at hc
    rw [String.toList_ofList] at hc
    obtain ⟨i, -, hi⟩ := List.mem_flatMap.mp hc
    rcases List.mem_pair.mp hi with rfl | rfl
    · exact hdigit _
    · exact hdigit _
  have hplain := List.all_eq_true.mp hdigits c hmem
  rw [Bool.and_eq_true, bne_iff_ne, bne_iff_ne] at hplain
  exact hplain

theorem trimSpaces_hexToken (raw : Fin kTokenBytes → Byte) :
    AuthPolicy.trimSpaces (hexToken raw).toList = (hexToken raw).toList := by
  have hkept (text : List Char) (hplain : ∀ c ∈ text, c ≠ ' ') : text.dropWhile (· = ' ') = text := by
    cases text with
    | nil => rfl
    | cons c rest => exact List.dropWhile_cons_of_neg (by simpa using hplain c List.mem_cons_self)
  have hplain : ∀ c ∈ (hexToken raw).toList, c ≠ ' ' := fun c hc => (mem_hexToken hc).1
  unfold AuthPolicy.trimSpaces List.rdropWhile
  rw [hkept _ hplain, hkept _ fun c hc => hplain c (List.mem_reverse.mp hc), List.reverse_reverse]

end SessionTable

namespace WebConfigServer

/-! ### A login and what follows -/

/-- The route is behind the guard, and has a handler of its own. -/
def IsOwnRoute (r : WebRequest) : Prop :=
  AuthPolicy.isPublicRoute r.uri (r.method == .get) = false
    ∧ ¬ (r.method = .post ∧ (r.uri = "/api/auth/logout-all" ∨ r.uri = "/update"))

/-- The request is for such a route, from a browser that has the cookie besides those of other names. -/
structure Sends (pair : List Char) (r : WebRequest) : Prop where
  route : IsOwnRoute r
  header : ∃ before after, r.cookie.toList = AuthPolicy.cookieHeader (before ++ pair :: after)
    ∧ (∀ other ∈ before ++ after, ';' ∉ other)
    ∧ ∀ other ∈ before, ∀ c, AuthPolicy.cookie other = some c → c.1 ≠ kSessionCookie.toList

def times (r : WebRequest) : List Nat := r.uploads.map Prod.fst ++ [r.guardAt, r.handledAt]

/-- The requests come one after the other; unless the session is remembered, the browser that sends its cookie does not pause for half an hour. -/
def InUse (pair : List Char) (remember : Bool) : Nat → Nat → List Iteration → Prop
  | _, _, [] => True
  | usedAt, now, ⟨none, _⟩ :: rest => InUse pair remember usedAt now rest
  | usedAt, now, ⟨some r, _⟩ :: rest =>
      (now :: times r).Pairwise (· ≤ ·) ∧ (remember = true ∨ ∀ time ∈ times r, time < usedAt + 1800000)
        ∧ (Sends pair r → InUse pair remember r.guardAt r.handledAt rest)
        ∧ (¬ Sends pair r → InUse pair remember usedAt r.handledAt rest)

/-- The request does not close the session of the digest, nor all sessions, and no session it is given takes the place of that one. -/
def Leaves (deserialize : List String → String → Option JsonBody) (sha256 : String → Digest) (hash : Digest)
    (s : WebConfigServer) (i : Iteration) : Prop :=
  ∀ r, i.request = some r → ∀ event outcome, (handleRequest deserialize sha256 r s).auth = some (event, outcome) →
    AuthService.Undisturbed sha256 hash (evaluateRequest sha256 r r.guardAt s).2.auth event outcome

/-- A page behind the guard that is asked for with the cookie reaches its handler. -/
def Opens (deserialize : List String → String → Option JsonBody) (sha256 : String → Digest) (pair : List Char)
    (s : WebConfigServer) (i : Iteration) : Prop :=
  ∀ r, i.request = some r → Sends pair r → (s.loop deserialize sha256 i).effects = s.effects ++ [.handler r.uri]

/-- A station with credentials, where the session of a digest lives. -/
structure Going (remember : Bool) (hash : Digest) (usedAt now : Nat) (s : WebConfigServer) : Prop where
  station : s.isApMode = false
  configured : s.auth.credentials.configured = true
  lives : SessionTable.Lives remember s.auth.sessions.table hash usedAt now

variable {deserialize : List String → String → Option JsonBody} {sha256 : String → Digest} {r : WebRequest}
  {s s' : WebConfigServer} {hash : Digest} {remember : Bool} {usedAt now : Nat}

/-- A login that gives out a session has made it, and sets its cookie. -/
theorem login_spec (hstation : s.isApMode = false) (hroute : r.method = .post ∧ r.uri = "/api/auth/login")
    (hgiven : given (handleRequest deserialize sha256 r s) ≠ []) :
    ∃ req before throttle username, AuthService.parseCredentials deserialize r.body = some req ∧ Passive sha256 r [r.guardAt] s before
      ∧ before.effects = s.effects ∧ before.auth.credentials.configured = true
      ∧ (handleRequest deserialize sha256 r s).server = { before with auth := { before.auth with
          sessions := (SessionTable.create sha256 (Clock.millis r.handledAt) req.remember r.platform.randomToken
            r.platform.sessionsSaved before.auth.sessions).2
          throttle } }
      ∧ (handleRequest deserialize sha256 r s).reply = some (sendAuth
          ⟨200, AuthService.successBody username, .session (SessionTable.hexToken r.platform.randomToken) req.remember, 0⟩)
      ∧ given (handleRequest deserialize sha256 r s) = [SessionTable.hexToken r.platform.randomToken] := by
  obtain ⟨hpassive, heffects, -⟩ := evaluateRequest_spec sha256 r r.guardAt s hstation
  have hallowed : (evaluateRequest sha256 r r.guardAt s).1 = .allow := by
    unfold evaluateRequest
    rw [hstation, if_neg Bool.false_ne_true]
    refine (decide_eq_allow_iff _ _ _ _).mpr (Or.inl ?_)
    rw [hroute.1, hroute.2]
    decide
  have hrequest : handleRequest deserialize sha256 r s = handleAuthLogin deserialize sha256 r (evaluateRequest sha256 r r.guardAt s).2 := by
    unfold handleRequest
    rw [if_neg fun hupdate => absurd (hroute.2.symm.trans hupdate.2.1) (by decide)]
    unfold guarded
    split
    · rename_i looked heq
      rw [heq]
      exact if_pos hroute
    · rename_i decision looked hdenied heq
      rw [heq] at hallowed
      exact absurd hallowed hdenied
  rw [hrequest] at hgiven ⊢
  generalize (evaluateRequest sha256 r r.guardAt s).2 = before at hpassive heffects hgiven ⊢
  unfold handleAuthLogin at hgiven ⊢
  split at hgiven
  · exact absurd rfl hgiven
  · rename_i hjson
    rw [if_neg hjson]
    have hturn : AuthService.Turn deserialize sha256 before.auth ⟨r.handledAt, r.platform, .login r.body⟩ _ :=
      AuthService.login_turn rfl
    have hissued : AuthService.issued
        (AuthService.login deserialize sha256 r.platform r.body (Clock.millis r.handledAt) before.auth) ≠ [] := hgiven
    unfold answer given AuthService.handle
    dsimp only at hturn ⊢
    generalize AuthService.login deserialize sha256 r.platform r.body (Clock.millis r.handledAt) before.auth = outcome
      at hturn hissued ⊢
    cases hturn with
    | silent response sessions hsilent hheld =>
        refine absurd ?_ hissued
        unfold AuthService.issued
        split
        · rename_i token remember hcookie
          exact absurd hcookie (AuthService.cookie_of_silent hsilent _ _ token remember)
        · rfl
    | failed code sessions verified hcode hverified hopen hheld => exact absurd rfl hissued
    | loggedIn body req hcall hparse hopen hverify =>
        obtain rfl := AuthCall.login.inj hcall
        have hconfigured := ((CredentialStore.verify_iff _ _ _ _).mp hverify).1
        exact ⟨req, before, _, _, hparse, hpassive, heffects, hconfigured, rfl, rfl, rfl⟩
    | changed body token apMode recovery req current sessions hcall hparse hcurrent hvalid hopen hverify hheld =>
        exact nomatch hcall

/-- The handler of such a route runs, and changes nothing else here. -/
theorem dispatch_own (hroute : IsOwnRoute r) :
    dispatch deserialize sha256 r s = ⟨{ s with effects := s.effects ++ [.handler r.uri] }, some .own, none⟩ := by
  have hother (method : HttpMethod) (uri : String)
      (hpublic : AuthPolicy.isPublicRoute uri (method == .get) = true) : ¬ (r.method = method ∧ r.uri = uri) := by
    rintro ⟨rfl, rfl⟩
    exact nomatch hroute.1.symm.trans hpublic
  unfold dispatch
  rw [if_neg (hother .post "/api/auth/login" (by decide)), if_neg (hother .get "/api/auth/status" (by decide)),
    if_neg (hother .post "/api/auth/credentials" (by decide)), if_neg (hother .post "/api/auth/logout" (by decide)),
    if_neg fun h => hroute.2 ⟨h.1, Or.inl h.2⟩, if_neg fun h => hroute.2 ⟨h.1, Or.inr h.2⟩]
  unfold handleOwn
  rw [hroute.1]
  rfl

variable (deserialize) in
/-- A page that a browser asks for with the cookie of a session that lives. -/
theorem page_spec {raw : Fin SessionTable.kTokenBytes → Byte}
    (hsends : Sends (kSessionCookie.toList ++ '=' :: (SessionTable.hexToken raw).toList) r)
    (h : Going remember (sha256 (SessionTable.hexToken raw)) usedAt now s) (hpast : now ≤ r.guardAt)
    (hbusy : remember = true ∨ r.guardAt < usedAt + 1800000) :
    (handleRequest deserialize sha256 r s).server.effects = s.effects ++ [.handler r.uri]
      ∧ Going remember (sha256 (SessionTable.hexToken raw)) r.guardAt r.guardAt (handleRequest deserialize sha256 r s).server := by
  obtain ⟨hstation, hconfigured, hlives⟩ := h
  have htoken : sessionToken r = SessionTable.hexToken raw := by
    obtain ⟨before, after, hheader, hplain, hother⟩ := hsends.header
    have hread := AuthPolicy.extractCookie_cookieHeader hheader (fun pair hpair => ?_) hother ⟨by decide, by decide⟩
      (SessionTable.trimSpaces_hexToken raw)
    · rw [String.ofList_toList, String.ofList_toList] at hread
      exact hread
    · rcases List.mem_append.mp hpair with hbefore | hrest
      · exact hplain pair (List.mem_append_left _ hbefore)
      · rcases List.mem_cons.mp hrest with rfl | hafter
        · intro hmem
          rcases List.mem_append.mp hmem with hname | hvalue
          · exact absurd hname (by decide)
          · rcases List.mem_cons.mp hvalue with heq | htoken
            · exact absurd heq (by decide)
            · exact (SessionTable.mem_hexToken htoken).2 rfl
        · exact hplain pair (List.mem_append_right _ hafter)
  have hvalid := hlives.used (SessionTable.length_hexToken raw) hpast hbusy
  have hauthenticated : s.auth.isAuthenticated sha256 (sessionToken r) (Clock.millis r.guardAt)
      = (true, { s.auth with sessions := { s.auth.sessions with
          table := (SessionTable.validate sha256 (SessionTable.hexToken raw) (Clock.millis r.guardAt) s.auth.sessions.table).2 } }) := by
    unfold AuthService.isAuthenticated
    rw [htoken, if_neg]
    · exact Prod.ext hvalid.1 rfl
    · rintro (hnone | hempty)
      · exact nomatch hnone.symm.trans hconfigured
      · exact SessionTable.hexToken_ne_empty raw hempty
  have hallowed : evaluateRequest sha256 r r.guardAt s = (.allow, { s with auth := { s.auth with sessions := { s.auth.sessions with
      table := (SessionTable.validate sha256 (SessionTable.hexToken raw) (Clock.millis r.guardAt) s.auth.sessions.table).2 } } }) := by
    unfold evaluateRequest
    rw [hstation, if_neg Bool.false_ne_true, hauthenticated]
    refine Prod.ext ((decide_eq_allow_iff _ _ _ _).mpr (Or.inr rfl)) ?_
    rw [← hstation]
  have hrequest : handleRequest deserialize sha256 r s = dispatch deserialize sha256 r (evaluateRequest sha256 r r.guardAt s).2 := by
    unfold handleRequest
    rw [if_neg fun hupdate => hsends.route.2 ⟨hupdate.1, Or.inr hupdate.2.1⟩]
    unfold guarded
    rw [hallowed]
  have hafter : (handleRequest deserialize sha256 r s).server = { s with
      auth := { s.auth with sessions := { s.auth.sessions with
        table := (SessionTable.validate sha256 (SessionTable.hexToken raw) (Clock.millis r.guardAt) s.auth.sessions.table).2 } }
      effects := s.effects ++ [.handler r.uri] } := by
    rw [hrequest, hallowed, dispatch_own hsends.route]
  rw [hafter]
  exact ⟨rfl, hstation, hconfigured, hvalid.2⟩

theorem Going.mono {time : Nat} (h : Going remember hash usedAt now s) (hpast : now ≤ time) :
    Going remember hash usedAt time s :=
  ⟨h.station, h.configured, h.lives.mono hpast⟩

theorem going_passive {checked : List Nat} (hpassive : Passive sha256 r checked s s')
    (hsorted : (now :: checked).Pairwise (· ≤ ·)) (hbusy : remember = true ∨ ∀ time ∈ checked, time < usedAt + 1800000)
    (h : Going remember hash usedAt now s) : ∃ later ∈ now :: checked, Going remember hash usedAt later s' := by
  obtain ⟨checks, hsublist, hsessions⟩ := hpassive.checks
  have hlives (checks : List Nat) (now : Nat) (sessions : Sessions) (hsorted : (now :: checks).Pairwise (· ≤ ·))
      (hbusy : remember = true ∨ ∀ time ∈ checks, time < usedAt + 1800000)
      (hbefore : SessionTable.Lives remember sessions.table hash usedAt now) : ∃ later ∈ now :: checks,
        SessionTable.Lives remember (run (SessionTable.step sha256) sessions (checks.map (.validate (sessionToken r)))).table
          hash usedAt later := by
    induction checks generalizing now sessions with
    | nil => exact ⟨now, List.mem_cons_self, hbefore⟩
    | cons time rest ih =>
        obtain ⟨hpast, hrest⟩ := List.pairwise_cons.mp hsorted
        have hchecked := hbefore.validate sha256 (hpast time List.mem_cons_self)
          (hbusy.imp_right fun hbusy => hbusy time List.mem_cons_self) (sessionToken r)
        obtain ⟨later, hlater, hlives⟩ := ih time (SessionTable.step sha256 sessions (.validate (sessionToken r) time)) hrest
          (hbusy.imp_right fun hbusy other hother => hbusy other (List.mem_cons_of_mem time hother)) hchecked
        exact ⟨later, List.mem_cons_of_mem now hlater, hlives⟩
  obtain ⟨later, hlater, hlives⟩ := hlives checks now s.auth.sessions (hsorted.sublist (hsublist.cons_cons now))
    (hbusy.imp_right fun hbusy time htime => hbusy time (hsublist.subset htime)) h.lives
  refine ⟨later, ?_, hpassive.apMode.trans h.station, (congrArg _ hpassive.credentials).trans h.configured, ?_⟩
  · exact (hsublist.cons_cons now).subset hlater
  · rw [hsessions]
    exact hlives

theorem going_guarded (hpast : now ≤ r.guardAt) (hhandled : r.guardAt ≤ r.handledAt)
    (hbusy : remember = true ∨ ∀ time ∈ [r.guardAt, r.handledAt], time < usedAt + 1800000)
    (h : Going remember hash usedAt now s)
    (hleaves : ∀ event outcome, (guarded deserialize sha256 r s).auth = some (event, outcome) →
      AuthService.Undisturbed sha256 hash (evaluateRequest sha256 r r.guardAt s).2.auth event outcome) :
    Going remember hash usedAt r.handledAt (guarded deserialize sha256 r s).server := by
  have hlooked := (evaluateRequest_spec sha256 r r.guardAt s h.station).1
  obtain ⟨later, hlater, hgoing⟩ := going_passive hlooked (by simpa using hpast)
    (hbusy.imp_right fun hbusy time htime => hbusy time (List.mem_cons.mpr (Or.inl (List.mem_singleton.mp htime)))) h
  have htime : later ≤ r.handledAt := by
    rcases List.mem_cons.mp hlater with rfl | hguard
    · exact hpast.trans hhandled
    · exact (List.mem_singleton.mp hguard).trans_le hhandled
  unfold guarded at hleaves ⊢
  split
  · rename_i looked heq
    rw [heq] at hgoing hleaves
    have hdispatched : Dispatched deserialize sha256 looked r (dispatch deserialize sha256 r looked) := dispatched
    rcases hdispatched.called with ⟨call, hcall, hauth, hafter⟩ | ⟨-, hafter⟩
    · have hcalled := station_of_mayCall hcall hgoing.station r.handledAt r.platform
      refine ⟨hdispatched.apMode.trans hgoing.station, ?_, ?_⟩
      · rw [hafter]
        exact AuthService.configured_handle hcalled hgoing.configured
      · rw [hafter]
        exact AuthService.lives_handle hcalled hgoing.lives htime
          (hbusy.imp_right fun hbusy => hbusy r.handledAt (by simp)) (hleaves _ _ hauth)
    · refine Going.mono ⟨hdispatched.apMode.trans hgoing.station, ?_, ?_⟩ htime
      · rw [hafter]
        exact hgoing.configured
      · rw [hafter]
        exact hgoing.lives
  · rename_i decision looked _ heq
    rw [heq] at hgoing
    exact hgoing.mono htime

/-- The firmware upload makes no call of the login. -/
theorem auth_guarded_update (huri : r.method = .post ∧ r.uri = "/update") :
    (guarded deserialize sha256 r s).auth = none := by
  unfold guarded
  split
  · unfold dispatch
    rw [huri.1, huri.2, if_neg (by decide), if_neg (by decide), if_neg (by decide), if_neg (by decide), if_neg (by decide),
      if_pos ⟨rfl, rfl⟩]
    unfold handleOTAFinal
    split
    · rfl
    · dsimp only
      split
      · rfl
      · rfl
  · rfl

/-- A request of another leaves the session alive. -/
theorem going_request (hsorted : (now :: times r).Pairwise (· ≤ ·))
    (hbusy : remember = true ∨ ∀ time ∈ times r, time < usedAt + 1800000) (h : Going remember hash usedAt now s)
    (hleaves : ∀ event outcome, (handleRequest deserialize sha256 r s).auth = some (event, outcome) →
      AuthService.Undisturbed sha256 hash (evaluateRequest sha256 r r.guardAt s).2.auth event outcome) :
    Going remember hash usedAt r.handledAt (handleRequest deserialize sha256 r s).server := by
  have hsplit : ((now :: r.uploads.map Prod.fst) ++ [r.guardAt, r.handledAt]).Pairwise (· ≤ ·) := hsorted
  obtain ⟨huploads, hchecks, hbefore⟩ := List.pairwise_append.mp hsplit
  have hhandled : r.guardAt ≤ r.handledAt := (List.pairwise_cons.mp hchecks).1 _ (List.mem_singleton_self _)
  have hlast : remember = true ∨ ∀ time ∈ [r.guardAt, r.handledAt], time < usedAt + 1800000 :=
    hbusy.imp_right fun hbusy time htime => hbusy time (List.mem_append_right _ htime)
  unfold handleRequest at hleaves ⊢
  split
  · rename_i hupload
    obtain ⟨later, hlater, hgoing⟩ := going_passive (receive_spec r.uploads h.station) huploads
      (hbusy.imp_right fun hbusy time htime => hbusy time (List.mem_append_left _ htime)) h
    dsimp only
    split
    · exact hgoing.mono (hbefore later hlater r.handledAt (by simp))
    · refine going_guarded (hbefore later hlater r.guardAt (by simp)) hhandled hlast hgoing fun event outcome hauth => ?_
      exact nomatch (auth_guarded_update ⟨hupload.1, hupload.2.1⟩).symm.trans hauth
  · rename_i hupload
    rw [if_neg hupload] at hleaves
    exact going_guarded (hbefore now List.mem_cons_self r.guardAt (by simp)) hhandled hlast h hleaves

/-- A browser keeps of the cookie its name and the token. -/
theorem cookiePair_session (raw : Fin SessionTable.kTokenBytes → Byte) (remember : Bool) :
    AuthPolicy.cookiePair (Cookie.session (SessionTable.hexToken raw) remember).header
      = kSessionCookie.toList ++ '=' :: (SessionTable.hexToken raw).toList := by
  have hkept : ∀ c ∈ kSessionCookie.toList ++ '=' :: (SessionTable.hexToken raw).toList, Decidable.decide (c ≠ ';') = true := by
    intro c hc
    refine decide_eq_true ?_
    rcases List.mem_append.mp hc with hname | hvalue
    · exact fun heq => absurd (heq ▸ hname) (by decide)
    · rcases List.mem_cons.mp hvalue with rfl | htoken
      · decide
      · exact (SessionTable.mem_hexToken htoken).2
  have hheader : ∃ attributes, (Cookie.session (SessionTable.hexToken raw) remember).header.toList
      = (kSessionCookie.toList ++ '=' :: (SessionTable.hexToken raw).toList) ++ ';' :: attributes := by
    unfold Cookie.header
    simp only [String.toList_append, List.append_assoc]
    exact ⟨_, rfl⟩
  obtain ⟨attributes, hheader⟩ := hheader
  unfold AuthPolicy.cookiePair
  rw [hheader, List.takeWhile_append_of_pos hkept]
  exact List.append_nil _

theorem header_session_ne_empty (raw : Fin SessionTable.kTokenBytes → Byte) (remember : Bool) :
    (Cookie.session (SessionTable.hexToken raw) remember).header ≠ "" := by
  intro hempty
  have hpair := cookiePair_session raw remember
  rw [hempty] at hpair
  exact absurd (congrArg List.length hpair) (by simp [AuthPolicy.cookiePair])

theorem opens_run {raw : Fin SessionTable.kTokenBytes → Byte} (iterations : List Iteration)
    (huse : InUse (kSessionCookie.toList ++ '=' :: (SessionTable.hexToken raw).toList) remember usedAt now iterations)
    (h : Going remember (sha256 (SessionTable.hexToken raw)) usedAt now s)
    (hleaves : Along (Leaves deserialize sha256 (sha256 (SessionTable.hexToken raw))) (loop deserialize sha256) s iterations) :
    Along (Opens deserialize sha256 (kSessionCookie.toList ++ '=' :: (SessionTable.hexToken raw).toList))
      (loop deserialize sha256) s iterations := by
  induction iterations generalizing s usedAt now with
  | nil => exact trivial
  | cons i rest ih =>
      obtain ⟨request, updatedAt⟩ := i
      obtain ⟨hleaves, hrest⟩ := hleaves
      have hlooped {usedAt now : Nat} {s' : WebConfigServer} (h : Going remember (sha256 (SessionTable.hexToken raw)) usedAt now s') :
          Going remember (sha256 (SessionTable.hexToken raw)) usedAt now
            { s' with recovery := s'.recovery.update (Clock.millis updatedAt) } := ⟨h.station, h.configured, h.lives⟩
      cases request with
      | none => exact ⟨fun _ hr => (nomatch hr), ih huse (hlooped h) hrest⟩
      | some r =>
          obtain ⟨hsorted, hbusy, hpage, hother⟩ := huse
          by_cases hsends : Sends (kSessionCookie.toList ++ '=' :: (SessionTable.hexToken raw).toList) r
          · have hpast : now ≤ r.guardAt := (List.pairwise_cons.mp hsorted).1 _ (List.mem_append_right _ (by simp))
            have hhandled : r.guardAt ≤ r.handledAt :=
              (List.pairwise_cons.mp ((List.pairwise_append.mp (List.pairwise_cons.mp hsorted).2).2.1)).1 _ (List.mem_singleton_self _)
            obtain ⟨heffects, hgoing⟩ := page_spec deserialize hsends h hpast
              (hbusy.imp_right fun hbusy => hbusy r.guardAt (List.mem_append_right _ (by simp)))
            refine ⟨fun other hr _ => ?_, ih (hpage hsends) (hlooped (hgoing.mono hhandled)) hrest⟩
            obtain rfl := Option.some.inj hr
            exact heffects
          · have hgoing := going_request hsorted hbusy h (hleaves r rfl)
            refine ⟨fun other hr hsent => ?_, ih (hother hsends) (hlooped hgoing) hrest⟩
            obtain rfl := Option.some.inj hr
            exact absurd hsent hsends

/-- The cookie of a login opens every page behind the guard for as long as it is used, or for good when it is remembered, until its session or all sessions are closed or a new session takes its place. -/
theorem login_opens_pages (deserialize : List String → String → Option JsonBody) (sha256 : String → Digest) (s : WebConfigServer)
    (hstation : s.isApMode = false) (login : WebRequest) (hroute : login.method = .post ∧ login.uri = "/api/auth/login")
    (hgiven : given (handleRequest deserialize sha256 login s) ≠ [])
    (hfresh : ∀ token ∈ given (handleRequest deserialize sha256 login s), ¬ SessionTable.Held s.auth.sessions.table (sha256 token)) :
    ∃ header body req token, (handleRequest deserialize sha256 login s).reply
        = some (.json 200 [("Set-Cookie", header), ("Cache-Control", "no-store")] body)
      ∧ AuthService.parseCredentials deserialize login.body = some req
      ∧ given (handleRequest deserialize sha256 login s) = [token]
      ∧ ∀ updatedAt iterations, InUse (AuthPolicy.cookiePair header) req.remember login.handledAt login.handledAt iterations →
        Along (Leaves deserialize sha256 (sha256 token)) (loop deserialize sha256)
          (s.loop deserialize sha256 ⟨some login, updatedAt⟩) iterations →
        Along (Opens deserialize sha256 (AuthPolicy.cookiePair header)) (loop deserialize sha256)
          (s.loop deserialize sha256 ⟨some login, updatedAt⟩) iterations := by
  obtain ⟨req, before, throttle, username, hparse, hpassive, heffects, hconfigured, hserver, hreply, htokens⟩ :=
    login_spec hstation hroute hgiven
  have hunheld : ¬ SessionTable.Held before.auth.sessions.table (sha256 (SessionTable.hexToken login.platform.randomToken)) :=
    fun hheld => hfresh _ (htokens ▸ List.mem_singleton_self _) (hpassive.held hheld)
  have hlives := SessionTable.lives_created sha256 login.handledAt req.remember login.platform.randomToken
    login.platform.sessionsSaved before.auth.sessions hunheld
  refine ⟨(Cookie.session (SessionTable.hexToken login.platform.randomToken) req.remember).header, AuthService.successBody username,
    req, SessionTable.hexToken login.platform.randomToken, hreply.trans ?_, hparse, htokens,
    fun updatedAt iterations huse hleaves => ?_⟩
  · unfold sendAuth
    rw [if_pos (header_session_ne_empty _ _)]
    rfl
  · rw [cookiePair_session] at huse ⊢
    refine opens_run iterations huse ?_ hleaves
    have hgoing : Going req.remember (sha256 (SessionTable.hexToken login.platform.randomToken)) login.handledAt login.handledAt
        (handleRequest deserialize sha256 login s).server := by
      rw [hserver]
      exact ⟨hpassive.apMode.trans hstation, hconfigured, hlives⟩
    exact ⟨hgoing.station, hgoing.configured, hgoing.lives⟩

def stationLogin : WebRequest :=
  ⟨0, 0, .post, "/api/auth/login", "application/json", "", AuthService.loginBody, [], false, AuthService.givingToken 1⟩

/-- Another browser logs in a minute later. -/
def otherLogin : WebRequest :=
  ⟨60000, 60000, .post, "/api/auth/login", "application/json", "", AuthService.loginBody, [], false, AuthService.givingToken 2⟩

/-- The configuration, two minutes later, from a browser that has another cookie too. -/
def configLater : WebRequest :=
  ⟨120000, 120000, .get, "/api/config", "", "theme=dark; sid=01010101010101010101010101010101", "", [], false, AuthService.givingToken 1⟩

theorem sends_configLater : Sends "sid=01010101010101010101010101010101".toList configLater := by
  refine ⟨⟨by decide, by decide⟩, ["theme=dark".toList], [], by decide, by decide, ?_⟩
  intro other hother c hc
  obtain rfl := List.mem_singleton.mp hother
  obtain rfl := Option.some.inj ((by decide : AuthPolicy.cookie "theme=dark".toList = some ("theme".toList, "dark".toList)).symm.trans hc)
  decide

def loggedIn : WebConfigServer := station.loop AuthService.requestJson SessionTable.textDigest ⟨some stationLogin, 1⟩

theorem leaves_otherLogin :
    Leaves AuthService.requestJson SessionTable.textDigest (SessionTable.textDigest "01010101010101010101010101010101") loggedIn
      ⟨some otherLogin, 60001⟩ := by
  intro r hr event outcome hauth
  obtain rfl := Option.some.inj hr
  have hkept : ((handleRequest AuthService.requestJson SessionTable.textDigest otherLogin loggedIn).auth.map fun a =>
      AuthService.remaining SessionTable.textDigest a.1 a.2 [SessionTable.textDigest "01010101010101010101010101010101"])
        = some [SessionTable.textDigest "01010101010101010101010101010101"] := by
    decide +kernel
  have hcookie : ((handleRequest AuthService.requestJson SessionTable.textDigest otherLogin loggedIn).auth.map fun a =>
      (AuthService.cookie a.2, a.1.time)) = some (.session "02020202020202020202020202020202" false, 60000) := by
    decide +kernel
  rw [hauth] at hkept hcookie
  refine ⟨Option.some.inj hkept, fun token persistent hgiven => ?_⟩
  obtain ⟨hsession, htime⟩ := Prod.mk.inj (Option.some.inj hcookie)
  obtain ⟨rfl, rfl⟩ := Cookie.session.inj (hgiven.symm.trans hsession)
  rw [htime]
  exact ⟨by decide +kernel, by decide +kernel⟩

theorem leaves_configLater (s : WebConfigServer)
    (hnone : (handleRequest AuthService.requestJson SessionTable.textDigest configLater s).auth.isNone = true) (hash : Digest) :
    Leaves AuthService.requestJson SessionTable.textDigest hash s ⟨some configLater, 120001⟩ := by
  intro r hr event outcome hauth
  obtain rfl := Option.some.inj hr
  rw [hauth] at hnone
  exact nomatch hnone

theorem login_opens_pages_stationLogin :
    (run (loop AuthService.requestJson SessionTable.textDigest) station
      [⟨some stationLogin, 1⟩, ⟨some otherLogin, 60001⟩, ⟨some configLater, 120001⟩]).effects = [.handler "/api/config"] := by
  have hunheld (token : String) : ¬ SessionTable.Held station.auth.sessions.table (SessionTable.textDigest token) := by
    have hnone : station.auth.sessions.table.digests = [] := by decide +kernel
    rw [SessionTable.held_iff, ← SessionTable.count_digests, hnone]
    exact lt_irrefl 0
  obtain ⟨header, body, req, token, hreply, hparse, hgiven, hpages⟩ := login_opens_pages AuthService.requestJson SessionTable.textDigest
    station rfl stationLogin ⟨rfl, rfl⟩ (by decide +kernel) fun token _ => hunheld token
  have hheader : header = "sid=01010101010101010101010101010101; Path=/; HttpOnly; SameSite=Strict" := by
    have hset : (handleRequest AuthService.requestJson SessionTable.textDigest stationLogin station).reply
        = some (.json 200 [("Set-Cookie", "sid=01010101010101010101010101010101; Path=/; HttpOnly; SameSite=Strict"),
          ("Cache-Control", "no-store")] (AuthService.successBody "admin")) := by
      decide +kernel
    injection hreply.symm.trans hset with hjson
    injection hjson with _ hheaders
    injection hheaders with hfirst
    exact congrArg Prod.snd hfirst
  have htoken : given (handleRequest AuthService.requestJson SessionTable.textDigest stationLogin station)
      = ["01010101010101010101010101010101"] := by
    decide +kernel
  obtain rfl := List.singleton_inj.mp (hgiven.symm.trans htoken)
  have huse : InUse (AuthPolicy.cookiePair header) req.remember 0 0 [⟨some otherLogin, 60001⟩, ⟨some configLater, 120001⟩] :=
    ⟨by decide, Or.inr (by decide), fun _ => ⟨by decide, Or.inr (by decide), fun _ => trivial, fun _ => trivial⟩,
      fun _ => ⟨by decide, Or.inr (by decide), fun _ => trivial, fun _ => trivial⟩⟩
  have hopens := (hpages 1 _ huse ⟨leaves_otherLogin, leaves_configLater _ (by decide +kernel) _, trivial⟩).2.1
  rw [hheader] at hopens
  have hbefore : (loggedIn.loop AuthService.requestJson SessionTable.textDigest ⟨some otherLogin, 60001⟩).effects = [] := by
    decide +kernel
  exact (hopens configLater rfl sends_configLater).trans (congrArg (· ++ _) hbefore)

end WebConfigServer

end EspNut
