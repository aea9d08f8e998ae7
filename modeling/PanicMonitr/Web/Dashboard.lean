import PanicMonitr.Control.AddPeer
import PanicMonitr.Control.Privileges
import PanicMonitr.Web.Login
import PanicMonitr.Wire.Responses

/-!
# The dashboard behind its guard

Every request goes through `_guard()` before it is routed: a foreign `Origin` or `Host` is
refused, and but for `/login` a session is needed.  A session is a cookie the server has
signed; no cookie is taken back, but each lasts only for a week.
-/

namespace PanicMonitr
namespace Web

open Foundation
open Trust
open Control (Engine Handled Response apiAddPeer reply attempt)
open Wire (isContainerRef)

/-!
## Requests
-/

inductive Verb where
  | get
  | head
  | post
  | delete
  | other
  deriving DecidableEq

/-- The methods of a route with `GET`. -/
def Verb.reads : Verb -> Bool
  | get => true
  | head => true
  | _ => false

/-- A signed cookie: the key, the second it was made, and `session["authed"]`. -/
structure SessionCookie where
  key : List UInt8
  issued : Int
  authed : Bool
  deriving DecidableEq

/-- `PERMANENT_SESSION_LIFETIME`, in seconds -/
def SESSION_LIFETIME : Int := 7 * 24 * 3600

/-- The signature is the one of the key, and not too old. -/
def SessionCookie.opens (cookie : SessionCookie) (key : List UInt8) (time : Int) : Bool :=
  decide (cookie.key = key) && decide (cookie.issued <= time) &&
    decide (time - cookie.issued <= SESSION_LIFETIME)

/--
What a browser sends: the path is split at its slashes, `json` is what `get_json` finds, and
`tail` is the value in the query.
-/
structure WebRequest where
  verb : Verb
  upgrade : Bool
  segments : List String
  origin : Option String
  host : Option String
  cookie : Option SessionCookie
  password : Option String
  json : Option Json
  tail : Option String

/-- What the application was made with; `lower` is `str.lower`, and `toInt` is `int(text)`. -/
structure Site where
  engine : Engine
  key : List UInt8
  port : Nat
  lower : String -> String
  toInt : String -> Option Int

/-- The work of a view behind the guard. -/
inductive Use where
  | index
  | dashboard
  | incidents (nid : String)
  | containerLogs (cid : String) (tail : Int)
  | nodeLogs (nid cid : String) (tail : Int)
  | localShell
  | peerShell (nid : String)

inductive Reply where
  | refused (status : Nat) (text : String)
  | redirect (endpoint : String)
  | login (status : Nat) (error : Option String)
  | used (use : Use)
  | changed (answer : Answer Response)
  | closed
  | missing
  | raised (e : PyError)

/-- Something behind the guard was reached. -/
def Reply.inside : Reply -> Bool
  | used _ => true
  | changed _ => true
  | _ => false

/--
The trust state, the clocks of the lock and of the cookies, and the guard of `/login`.
`issued` and `logins` are history variables: the cookies the server has signed, and when it
has accepted a password.
-/
structure Dashboard where
  trust : TrustState
  clock : Instant
  time : Int
  guard : LoginGuard
  issued : List SessionCookie
  logins : List Int

namespace Site

variable (site : Site)

def allowedOrigins : List String :=
  ["http://127.0.0.1:" ++ toString site.port, "http://localhost:" ++ toString site.port,
    "http://[::1]:" ++ toString site.port]

def allowedHosts : List String :=
  ["127.0.0.1:" ++ toString site.port, "localhost:" ++ toString site.port,
    "[::1]:" ++ toString site.port, "127.0.0.1", "localhost", "[::1]"]

/-- A request of the browser on the own pages, or of no browser. -/
def homeOrigin (r : WebRequest) : Bool :=
  r.origin.all (fun origin => site.allowedOrigins.contains origin)

def homeHost (r : WebRequest) : Bool :=
  r.host.all (fun host => host = "" || site.allowedHosts.contains host)

/-- `session.get("authed")` -/
def authed (s : Dashboard) (r : WebRequest) : Bool :=
  r.cookie.any (fun cookie => cookie.opens site.key s.time && cookie.authed)

/-- `_guard()`; `none` lets the request through. -/
def guard (s : Dashboard) (r : WebRequest) : Option Reply :=
  if !site.homeOrigin r then some (Reply.refused 403 "forbidden origin")
  else if !site.homeHost r then some (Reply.refused 403 "forbidden host")
  else if r.segments = ["login"] then none
  else if site.authed s r then none
  else
    match r.segments with
    | "api" :: _ :: _ => some (Reply.refused 401 "unauthorized")
    | _ => some (Reply.redirect "login")

def saveSession (s : Dashboard) (authed : Bool) : Dashboard :=
  if authed then
    { s with issued := s.issued ++ [{ key := site.key, issued := s.time, authed := true }] }
  else s

/-- `login()` -/
def login (s : Dashboard) (r : WebRequest) : Dashboard × Reply :=
  if site.authed s r then (site.saveSession s (site.authed s r), Reply.redirect "index")
  else if r.verb = Verb.post then
    match s.guard.refusal s.clock with
    | some error => (s, Reply.login 401 (some error))
    | none =>
        match site.engine.verifyIdentityPassword (Json.str (r.password.getD "")) with
        | Except.error e => (s, Reply.raised e)
        | Except.ok verified =>
            let (guard, error) := s.guard.update s.clock verified
            if verified then
              (site.saveSession { s with guard := guard, logins := s.logins ++ [s.time] } true,
                Reply.redirect "index")
            else ({ s with guard := guard }, Reply.login 401 error)
  else (s, Reply.login 200 none)

/-- `_NODE_ID_RE.match(nid)`; the `$` of the pattern lets one final newline pass. -/
def isNodeRef (nid : String) : Bool :=
  let body := if nid.toList.getLast? = some '\n' then nid.toList.dropLast else nid.toList
  8 <= body.length && body.length <= 64 &&
    body.all (fun c => c.isDigit || ('a' <= c && c <= 'f') || ('A' <= c && c <= 'F'))

/-- `max(1, min(tail, 200))`, 20 if there is no number. -/
def tailOf (r : WebRequest) : Int :=
  max 1 (min ((r.tail.elim (some 20) site.toInt).getD 20) 200)

/-- `api_remove_peer(nid)` -/
def apiRemovePeer (env : Surroundings) (nid : String) (s : TrustState) : Handled :=
  reply (site.engine.revokePeer env (site.lower (stripText nid)) s)

/-- `node_shell(ws, nid)`, which looks at origin and session once more. -/
def nodeShell (s : Dashboard) (r : WebRequest) (nid : String) : Reply :=
  if !site.homeOrigin r then Reply.closed
  else if !site.authed s r then Reply.closed
  else if !Control.validateNodeId nid then Reply.closed
  else if nid = site.engine.nodeIdStr then Reply.used Use.localShell
  else Reply.used (Use.peerShell nid)

/-- A mutation of the trust state, with the session saved. -/
def change (s : Dashboard) (r : WebRequest) (handled : Handled) : Dashboard × Reply :=
  (site.saveSession { s with trust := handled.1 } (site.authed s r), Reply.changed handled.2)

def viewOf (_ : Dashboard) (r : WebRequest) : Reply :=
  match r.segments with
  | [""] => if r.verb.reads then Reply.used Use.index else Reply.missing
  | ["api", "dashboard"] => if r.verb.reads then Reply.used Use.dashboard else Reply.missing
  | ["incidents", nid] =>
      if nid = "" || !r.verb.reads then Reply.missing
      else if isNodeRef nid then Reply.used (Use.incidents nid)
      else Reply.refused 400 "invalid node id"
  | ["api", "container", cid, "logs"] =>
      if cid = "" || !r.verb.reads then Reply.missing
      else if isContainerRef cid.toList then Reply.used (Use.containerLogs cid (site.tailOf r))
      else Reply.refused 400 "invalid container id"
  | ["api", "node", nid, "container", cid, "logs"] =>
      if nid = "" || cid = "" || !r.verb.reads then Reply.missing
      else if isContainerRef cid.toList then Reply.used (Use.nodeLogs nid cid (site.tailOf r))
      else Reply.refused 400 "invalid container id"
  | _ => Reply.missing

/-- The routes; only the one of the shell takes the handshake of a WebSocket. -/
def route (env : Surroundings) (s : Dashboard) (r : WebRequest) : Dashboard × Reply :=
  if r.upgrade then
    match r.segments with
    | ["api", "node", nid, "shell"] =>
        (site.saveSession s (site.authed s r),
          if nid = "" then Reply.missing else site.nodeShell s r nid)
    | _ => (site.saveSession s (site.authed s r), Reply.missing)
  else
    match r.segments, r.verb with
    | ["login"], Verb.get => site.login s r
    | ["login"], Verb.head => site.login s r
    | ["login"], Verb.post => site.login s r
    | ["logout"], Verb.get => (s, Reply.redirect "login")
    | ["logout"], Verb.head => (s, Reply.redirect "login")
    | ["api", "peers"], Verb.post =>
        site.change s r (apiAddPeer site.engine site.lower env (r.json.getD Json.null) s.trust)
    | ["api", "peers", nid], Verb.delete =>
        if nid = "" then (site.saveSession s (site.authed s r), Reply.missing)
        else site.change s r (site.apiRemovePeer env nid s.trust)
    | _, _ => (site.saveSession s (site.authed s r), site.viewOf s r)

def handle (env : Surroundings) (s : Dashboard) (r : WebRequest) : Dashboard × Reply :=
  match site.guard s r with
  | some reply => (site.saveSession s (site.authed s r), reply)
  | none => site.route env s r

end Site

/-!
## Runs
-/

inductive WebEvent where
  | request (env : Surroundings) (r : WebRequest)
  /-- Time goes by; the clock of the cookies may be set. -/
  | tick (micros : Nat) (time : Int)
  /-- The daemon stops and starts: the guard of `/login` forgets. -/
  | restart
  /-- Another part of the daemon changes the trust state. -/
  | elsewhere (trust : TrustState)

def Dashboard.step (site : Site) (s : Dashboard) : WebEvent -> Dashboard
  | WebEvent.request env r => (site.handle env s r).1
  | WebEvent.tick micros time => { s with clock := s.clock + micros, time := time }
  | WebEvent.restart => { s with guard := LoginGuard.init }
  | WebEvent.elsewhere trust => { s with trust := trust }

def dashboards (site : Site) : Machine Dashboard WebEvent where
  start s := s.guard = LoginGuard.init ∧ s.issued = [] ∧ s.logins = []
  step := Dashboard.step site

/-- Nobody else can sign with the key: a cookie that shows it was signed by the server. -/
def Unforged (site : Site) (s : Dashboard) : WebEvent -> Prop
  | WebEvent.request _ r =>
      forall cookie, r.cookie = some cookie -> cookie.key = site.key -> cookie ∈ s.issued
  | _ => True

/-- A cookie goes back to a login: each on the way was shown while the one before it lasted. -/
inductive Traced (logins : List Int) : SessionCookie -> Prop where
  | login {cookie : SessionCookie} : cookie.issued ∈ logins -> Traced logins cookie
  | refresh {cookie earlier : SessionCookie} : Traced logins earlier ->
      earlier.issued <= cookie.issued -> cookie.issued - earlier.issued <= SESSION_LIFETIME ->
      Traced logins cookie

/-- What the views check; the node id of a peer's container is left to the call that dials it. -/
def Use.Valid (site : Site) : Use -> Prop
  | Use.index => True
  | Use.dashboard => True
  | Use.incidents nid => Site.isNodeRef nid = true
  | Use.containerLogs cid tail => isContainerRef cid.toList = true ∧ 1 <= tail ∧ tail <= 200
  | Use.nodeLogs _ cid tail => isContainerRef cid.toList = true ∧ 1 <= tail ∧ tail <= 200
  | Use.localShell => True
  | Use.peerShell nid => Control.validateNodeId nid = true ∧ nid ≠ site.engine.nodeIdStr

/-!
## What a request does
-/

structure Admitted (site : Site) (s : Dashboard) (r : WebRequest) : Prop where
  origin : site.homeOrigin r = true
  host : site.homeHost r = true
  authed : site.authed s r = true

/-- All that a request can do. -/
inductive Did (site : Site) (s : Dashboard) (r : WebRequest) : Dashboard × Reply -> Prop where
  | nothing {reply : Reply} : reply.inside = false ->
      Did site s r (site.saveSession s (site.authed s r), reply)
  | loggedOut : Did site s r (s, Reply.redirect "login")
  | tried {guard : LoginGuard} {reply : Reply} : r.segments = ["login"] ->
      reply.inside = false -> Did site s r ({ s with guard := guard }, reply)
  | loggedIn {guard : LoginGuard} : r.segments = ["login"] -> site.homeOrigin r = true ->
      site.homeHost r = true -> s.guard.refusal s.clock = none ->
      site.engine.verifyIdentityPassword (Json.str (r.password.getD "")) = Except.ok true ->
      Did site s r
        (site.saveSession { s with guard := guard, logins := s.logins ++ [s.time] } true,
          Reply.redirect "index")
  | used {use : Use} : Admitted site s r -> r.segments ≠ ["login"] -> use.Valid site ->
      Did site s r (site.saveSession s (site.authed s r), Reply.used use)
  | changed {handled : Handled} : Admitted site s r -> r.segments ≠ ["login"] ->
      Did site s r (site.change s r handled)

section Steps

variable {site : Site} {env : Surroundings} {s : Dashboard} {r : WebRequest}

/-- The guard lets only the login page and sessions of the own pages through. -/
theorem guard_none (h : site.guard s r = none) :
    site.homeOrigin r = true ∧ site.homeHost r = true ∧
      (r.segments = ["login"] ∨ site.authed s r = true) := by
  unfold Site.guard at h
  split at h
  · cases h
  · rename_i horigin
    split at h
    · cases h
    · rename_i hhost
      refine ⟨by simpa using horigin, by simpa using hhost, ?_⟩
      split at h
      · rename_i hlogin
        exact Or.inl hlogin
      · split at h
        · rename_i hauthed
          exact Or.inr hauthed
        · split at h
          · cases h
          · cases h

theorem guard_some {reply : Reply} (h : site.guard s r = some reply) : reply.inside = false := by
  unfold Site.guard at h
  split at h
  · cases h
    rfl
  · split at h
    · cases h
      rfl
    · split at h
      · cases h
      · split at h
        · cases h
        · split at h
          · cases h
            rfl
          · cases h
            rfl

theorem did_login (horigin : site.homeOrigin r = true) (hhost : site.homeHost r = true)
    (hsegments : r.segments = ["login"]) : Did site s r (site.login s r) := by
  unfold Site.login
  split
  · exact Did.nothing rfl
  · split
    · cases hrefusal : s.guard.refusal s.clock with
      | some error => exact Did.tried hsegments rfl
      | none =>
          simp only
          cases hverify : site.engine.verifyIdentityPassword (Json.str (r.password.getD "")) with
          | error e => exact Did.tried hsegments rfl
          | ok verified =>
              cases verified with
              | true => exact Did.loggedIn hsegments horigin hhost hrefusal hverify
              | false => exact Did.tried hsegments rfl
    · exact Did.tried hsegments rfl

theorem tailOf_range (r : WebRequest) : 1 <= site.tailOf r ∧ site.tailOf r <= 200 := by
  unfold Site.tailOf
  omega

theorem viewOf_cases (hadmitted : Admitted site s r) (hlogin : r.segments ≠ ["login"]) :
    Did site s r (site.saveSession s (site.authed s r), site.viewOf s r) := by
  have htail : 1 <= site.tailOf r ∧ site.tailOf r <= 200 := tailOf_range r
  unfold Site.viewOf
  split
  · split
    · exact Did.used hadmitted hlogin trivial
    · exact Did.nothing rfl
  · split
    · exact Did.used hadmitted hlogin trivial
    · exact Did.nothing rfl
  · split
    · exact Did.nothing rfl
    · split
      · rename_i hnid
        exact Did.used hadmitted hlogin hnid
      · exact Did.nothing rfl
  · split
    · exact Did.nothing rfl
    · split
      · rename_i hcid
        exact Did.used hadmitted hlogin ⟨hcid, htail⟩
      · exact Did.nothing rfl
  · split
    · exact Did.nothing rfl
    · split
      · rename_i hcid
        exact Did.used hadmitted hlogin ⟨hcid, htail⟩
      · exact Did.nothing rfl
  · exact Did.nothing rfl

theorem nodeShell_cases (hadmitted : Admitted site s r) (hlogin : r.segments ≠ ["login"])
    (nid : String) :
    Did site s r (site.saveSession s (site.authed s r), site.nodeShell s r nid) := by
  unfold Site.nodeShell
  split
  · exact Did.nothing rfl
  · split
    · exact Did.nothing rfl
    · split
      · exact Did.nothing rfl
      · rename_i hnid
        split
        · exact Did.used hadmitted hlogin trivial
        · rename_i hother
          exact Did.used hadmitted hlogin ⟨by simpa using hnid, hother⟩

theorem did_route_login (horigin : site.homeOrigin r = true) (hhost : site.homeHost r = true)
    (hsegments : r.segments = ["login"]) : Did site s r (site.route env s r) := by
  have hview : site.viewOf s r = Reply.missing := by
    unfold Site.viewOf
    rw [hsegments]
    rfl
  unfold Site.route
  rw [hsegments]
  split
  · exact Did.nothing rfl
  · cases hverb : r.verb with
    | get => exact did_login horigin hhost hsegments
    | head => exact did_login horigin hhost hsegments
    | post => exact did_login horigin hhost hsegments
    | delete =>
        show Did site s r (site.saveSession s (site.authed s r), site.viewOf s r)
        rw [hview]
        exact Did.nothing rfl
    | other =>
        show Did site s r (site.saveSession s (site.authed s r), site.viewOf s r)
        rw [hview]
        exact Did.nothing rfl

theorem did_route (hadmitted : Admitted site s r) : Did site s r (site.route env s r) := by
  by_cases hlogin : r.segments = ["login"]
  · exact did_route_login hadmitted.origin hadmitted.host hlogin
  · unfold Site.route
    split
    · split
      · split
        · exact Did.nothing rfl
        · exact nodeShell_cases hadmitted hlogin _
      · exact Did.nothing rfl
    · split
      · rename_i hsegments _
        exact absurd hsegments hlogin
      · rename_i hsegments _
        exact absurd hsegments hlogin
      · rename_i hsegments _
        exact absurd hsegments hlogin
      · exact Did.loggedOut
      · exact Did.loggedOut
      · exact Did.changed hadmitted hlogin
      · split
        · exact Did.nothing rfl
        · exact Did.changed hadmitted hlogin
      · exact viewOf_cases hadmitted hlogin

theorem did_handle : Did site s r (site.handle env s r) := by
  unfold Site.handle
  cases hguard : site.guard s r with
  | some reply => exact Did.nothing (guard_some hguard)
  | none =>
      rcases guard_none hguard with ⟨horigin, hhost, hlogin | hauthed⟩
      · exact did_route_login horigin hhost hlogin
      · exact did_route ⟨horigin, hhost, hauthed⟩

end Steps

/-!
## Every session goes back to a login
-/

/-- The cookies the server has signed can be traced to the passwords it has accepted. -/
structure Signed (site : Site) (s : Dashboard) : Prop where
  traced : forall cookie, cookie ∈ s.issued -> Traced s.logins cookie
  key : forall cookie, cookie ∈ s.issued -> cookie.key = site.key

section Signed

variable {site : Site} {env : Surroundings} {s : Dashboard} {r : WebRequest}

theorem Traced.mono {logins logins' : List Int} {cookie : SessionCookie}
    (hsub : forall t, t ∈ logins -> t ∈ logins') (h : Traced logins cookie) :
    Traced logins' cookie := by
  induction h with
  | login hissued => exact Traced.login (hsub _ hissued)
  | refresh _ hbefore hlasts ih => exact Traced.refresh ih hbefore hlasts

theorem Traced.exists_login {logins : List Int} {cookie : SessionCookie}
    (h : Traced logins cookie) : exists t, t ∈ logins ∧ t <= cookie.issued := by
  induction h with
  | login hissued => exact ⟨_, hissued, Int.le_refl _⟩
  | refresh _ hbefore _ ih =>
      rcases ih with ⟨t, ht, hle⟩
      exact ⟨t, ht, Int.le_trans hle hbefore⟩

theorem Signed.session (h : Signed site s) (hauthed : site.authed s r = true)
    (hunforged : Unforged site s (WebEvent.request env r)) :
    exists cookie, r.cookie = some cookie ∧ cookie.opens site.key s.time = true ∧
      Traced s.logins cookie := by
  unfold Site.authed at hauthed
  cases hcookie : r.cookie with
  | none =>
      rw [hcookie] at hauthed
      cases hauthed
  | some cookie =>
      rw [hcookie] at hauthed
      have hopens : cookie.opens site.key s.time = true :=
        (Bool.and_eq_true_iff.mp hauthed).left
      have hkey : cookie.key = site.key := by
        unfold SessionCookie.opens at hopens
        simp only [Bool.and_eq_true, decide_eq_true_eq] at hopens
        exact hopens.left.left
      exact ⟨cookie, rfl, hopens, h.traced cookie (hunforged cookie hcookie hkey)⟩

theorem Signed.save (h : Signed site s) {t : Dashboard} (hissued : t.issued = s.issued)
    (hlogins : t.logins = s.logins) (htime : t.time = s.time)
    (hunforged : Unforged site s (WebEvent.request env r)) :
    Signed site (site.saveSession t (site.authed s r)) := by
  have ht : Signed site t := by
    constructor
    · rw [hissued, hlogins]
      exact h.traced
    · rw [hissued]
      exact h.key
  unfold Site.saveSession
  split
  · rename_i hauthed
    rcases h.session hauthed hunforged with ⟨cookie, _, hopens, htraced⟩
    unfold SessionCookie.opens at hopens
    simp only [Bool.and_eq_true, decide_eq_true_eq] at hopens
    constructor
    · intro signed hsigned
      rcases List.mem_append.mp hsigned with hold | hnew
      · exact ht.traced signed hold
      · rw [List.mem_singleton.mp hnew]
        refine Traced.refresh (hlogins ▸ htraced) ?_ ?_
        · rw [htime]
          exact hopens.left.right
        · rw [htime]
          exact hopens.right
    · intro signed hsigned
      rcases List.mem_append.mp hsigned with hold | hnew
      · exact ht.key signed hold
      · rw [List.mem_singleton.mp hnew]
  · exact ht

theorem Signed.did (h : Signed site s) (hunforged : Unforged site s (WebEvent.request env r))
    {after : Dashboard × Reply} (hdid : Did site s r after) : Signed site after.1 := by
  cases hdid with
  | nothing _ => exact h.save rfl rfl rfl hunforged
  | loggedOut => exact h
  | tried _ _ => exact ⟨h.traced, h.key⟩
  | loggedIn _ _ _ _ _ =>
      constructor
      · intro cookie hcookie
        rcases List.mem_append.mp hcookie with hold | hnew
        · exact (h.traced cookie hold).mono (fun t ht => List.mem_append_left _ ht)
        · rw [List.mem_singleton.mp hnew]
          exact Traced.login (List.mem_append_right _ (List.mem_cons_self ..))
      · intro cookie hcookie
        rcases List.mem_append.mp hcookie with hold | hnew
        · exact h.key cookie hold
        · rw [List.mem_singleton.mp hnew]
  | used _ _ _ => exact h.save rfl rfl rfl hunforged
  | changed _ _ => exact h.save rfl rfl rfl hunforged

theorem signed (hreach : (dashboards site).Reachable (Unforged site) s) : Signed site s := by
  apply hreach.invariant
  · intro s hstart
    rcases hstart with ⟨_, hissued, _⟩
    constructor
    · rw [hissued]
      exact fun _ hcookie => absurd hcookie List.not_mem_nil
    · rw [hissued]
      exact fun _ hcookie => absurd hcookie List.not_mem_nil
  · intro s e h hunforged
    cases e with
    | request env r => exact h.did hunforged did_handle
    | tick micros time => exact ⟨h.traced, h.key⟩
    | restart => exact ⟨h.traced, h.key⟩
    | elsewhere trust => exact ⟨h.traced, h.key⟩

end Signed

/-!
## The law of the guard
-/

/--
Nothing behind the guard is reached, and the trust state is not changed, but from the own pages
and with a cookie that goes back to a login.  Only `/login` makes logins, with the lock open
and the password of the identity.
-/
structure GuardLaw (site : Site) (s : Dashboard) (r : WebRequest) (after : Dashboard × Reply) :
    Prop where
  inside : after.2.inside = true ∨ after.1.trust ≠ s.trust ->
    site.homeOrigin r = true ∧ site.homeHost r = true ∧
      exists cookie, r.cookie = some cookie ∧ cookie.opens site.key s.time = true ∧
        Traced s.logins cookie
  valid : forall use, after.2 = Reply.used use -> use.Valid site
  login : after.1.logins ≠ s.logins ->
    r.segments = ["login"] ∧ site.homeOrigin r = true ∧ site.homeHost r = true ∧
      s.guard.refusal s.clock = none ∧
      site.engine.verifyIdentityPassword (Json.str (r.password.getD "")) = Except.ok true
  /-- Whatever is sent to `/login`, it changes the lock, the cookies and the logins at most. -/
  attempts : r.segments = ["login"] -> after.2.inside = false ∧
    after.1 = { s with
      guard := after.1.guard
      issued := after.1.issued
      logins := after.1.logins }
  /-- An attempt that fails gives no cookie. -/
  failed : r.segments = ["login"] -> site.authed s r = false -> after.1.logins = s.logins ->
    after.1.issued = s.issued
  guard : after.1.guard ≠ s.guard -> r.segments = ["login"]
  locked : s.logins = [] -> after.2.inside = false ∧ after.1.trust = s.trust
  kept : forall cookie, cookie ∈ s.issued -> cookie ∈ after.1.issued

section Law

variable {site : Site} {env : Surroundings} {s : Dashboard} {r : WebRequest}

@[simp] theorem saveSession_trust (s : Dashboard) (authed : Bool) :
    (site.saveSession s authed).trust = s.trust := by
  unfold Site.saveSession
  split
  · rfl
  · rfl

@[simp] theorem saveSession_logins (s : Dashboard) (authed : Bool) :
    (site.saveSession s authed).logins = s.logins := by
  unfold Site.saveSession
  split
  · rfl
  · rfl

@[simp] theorem saveSession_guard (s : Dashboard) (authed : Bool) :
    (site.saveSession s authed).guard = s.guard := by
  unfold Site.saveSession
  split
  · rfl
  · rfl

theorem saveSession_eq (s : Dashboard) (authed : Bool) :
    site.saveSession s authed = { s with issued := (site.saveSession s authed).issued } := by
  unfold Site.saveSession
  split
  · rfl
  · rfl

theorem mem_saveSession {cookie : SessionCookie} (authed : Bool) (h : cookie ∈ s.issued) :
    cookie ∈ (site.saveSession s authed).issued := by
  unfold Site.saveSession
  split
  · exact List.mem_append_left _ h
  · exact h

theorem Did.admitted {after : Dashboard × Reply} (hdid : Did site s r after)
    (hinside : after.2.inside = true ∨ after.1.trust ≠ s.trust) : Admitted site s r := by
  cases hdid with
  | nothing hreply =>
      rcases hinside with hinside | htrust
      · rw [hreply] at hinside
        cases hinside
      · exact absurd (saveSession_trust s _) htrust
  | loggedOut =>
      rcases hinside with hinside | htrust
      · cases hinside
      · exact absurd rfl htrust
  | tried _ hreply =>
      rcases hinside with hinside | htrust
      · rw [hreply] at hinside
        cases hinside
      · exact absurd rfl htrust
  | loggedIn _ _ _ _ _ =>
      rcases hinside with hinside | htrust
      · cases hinside
      · exact absurd (saveSession_trust _ _) htrust
  | used hadmitted _ _ => exact hadmitted
  | changed hadmitted _ => exact hadmitted

theorem Did.valid {after : Dashboard × Reply} (hdid : Did site s r after) {use : Use}
    (huse : after.2 = Reply.used use) : use.Valid site := by
  cases hdid with
  | nothing hreply =>
      subst huse
      cases hreply
  | loggedOut => cases huse
  | tried _ hreply =>
      subst huse
      cases hreply
  | loggedIn _ _ _ _ _ => cases huse
  | used _ _ hvalid =>
      cases huse
      exact hvalid
  | changed _ _ => cases huse

theorem Did.login {after : Dashboard × Reply} (hdid : Did site s r after)
    (hlogins : after.1.logins ≠ s.logins) :
    r.segments = ["login"] ∧ site.homeOrigin r = true ∧ site.homeHost r = true ∧
      s.guard.refusal s.clock = none ∧
      site.engine.verifyIdentityPassword (Json.str (r.password.getD "")) = Except.ok true := by
  cases hdid with
  | nothing _ => exact absurd (saveSession_logins s _) hlogins
  | loggedOut => exact absurd rfl hlogins
  | tried _ _ => exact absurd rfl hlogins
  | loggedIn hsegments horigin hhost hrefusal hverify =>
      exact ⟨hsegments, horigin, hhost, hrefusal, hverify⟩
  | used _ _ _ => exact absurd (saveSession_logins s _) hlogins
  | changed _ _ => exact absurd (saveSession_logins _ _) hlogins

theorem Did.attempts {after : Dashboard × Reply} (hdid : Did site s r after)
    (hsegments : r.segments = ["login"]) : after.2.inside = false ∧
      after.1 = { s with
        guard := after.1.guard
        issued := after.1.issued
        logins := after.1.logins } := by
  cases hdid with
  | nothing hreply =>
      refine ⟨hreply, ?_⟩
      show site.saveSession s _ = _
      rw [saveSession_guard, saveSession_logins]
      exact saveSession_eq s _
  | loggedOut => exact ⟨rfl, rfl⟩
  | tried _ hreply => exact ⟨hreply, rfl⟩
  | loggedIn _ _ _ _ _ => exact ⟨rfl, rfl⟩
  | used _ hlogin _ => exact absurd hsegments hlogin
  | changed _ hlogin => exact absurd hsegments hlogin

theorem Did.failed {after : Dashboard × Reply} (hdid : Did site s r after)
    (hsegments : r.segments = ["login"]) (hauthed : site.authed s r = false)
    (hlogins : after.1.logins = s.logins) : after.1.issued = s.issued := by
  cases hdid with
  | nothing _ =>
      rw [hauthed]
      rfl
  | loggedOut => rfl
  | tried _ _ => rfl
  | loggedIn _ _ _ _ _ => exact absurd hlogins (by simp)
  | used _ hlogin _ => exact absurd hsegments hlogin
  | changed _ hlogin => exact absurd hsegments hlogin

theorem Did.guard {after : Dashboard × Reply} (hdid : Did site s r after)
    (hguard : after.1.guard ≠ s.guard) : r.segments = ["login"] := by
  cases hdid with
  | nothing _ => exact absurd (saveSession_guard s _) hguard
  | loggedOut => exact absurd rfl hguard
  | tried hsegments _ => exact hsegments
  | loggedIn hsegments _ _ _ _ => exact hsegments
  | used _ _ _ => exact absurd (saveSession_guard s _) hguard
  | changed _ _ => exact absurd (saveSession_guard _ _) hguard

theorem Did.kept {after : Dashboard × Reply} (hdid : Did site s r after)
    {cookie : SessionCookie} (h : cookie ∈ s.issued) : cookie ∈ after.1.issued := by
  cases hdid with
  | nothing _ => exact mem_saveSession _ h
  | loggedOut => exact h
  | tried _ _ => exact h
  | loggedIn _ _ _ _ _ => exact mem_saveSession (s := { s with
      guard := _, logins := s.logins ++ [s.time] }) true h
  | used _ _ _ => exact mem_saveSession _ h
  | changed _ _ => exact mem_saveSession (s := { s with trust := _ }) _ h

/--
In every state of every run of requests, restarts and changes by others, each request keeps the
law, as long as nobody else can sign cookies.
-/
theorem dashboard_guarded (hreach : (dashboards site).Reachable (Unforged site) s)
    (hunforged : Unforged site s (WebEvent.request env r)) :
    GuardLaw site s r (site.handle env s r) := by
  have hsigned := signed hreach
  have hdid : Did site s r (site.handle env s r) := did_handle
  have hinside : (site.handle env s r).2.inside = true ∨
      (site.handle env s r).1.trust ≠ s.trust ->
      site.homeOrigin r = true ∧ site.homeHost r = true ∧
        exists cookie, r.cookie = some cookie ∧ cookie.opens site.key s.time = true ∧
          Traced s.logins cookie := by
    intro hreached
    have hadmitted := hdid.admitted hreached
    exact ⟨hadmitted.origin, hadmitted.host, hsigned.session hadmitted.authed hunforged⟩
  constructor
  · exact hinside
  · exact fun use => hdid.valid
  · exact hdid.login
  · exact hdid.attempts
  · exact hdid.failed
  · exact hdid.guard
  · intro hnone
    have hnever : ¬ ((site.handle env s r).2.inside = true ∨
        (site.handle env s r).1.trust ≠ s.trust) := by
      intro hreached
      rcases hinside hreached with ⟨_, _, cookie, _, _, htraced⟩
      rcases htraced.exists_login with ⟨t, ht, _⟩
      rw [hnone] at ht
      cases ht
    rw [not_or] at hnever
    exact ⟨(Bool.not_eq_true _).mp hnever.left, not_ne_iff.mp hnever.right⟩
  · exact fun cookie => hdid.kept

end Law

/-!
## A session
-/

def testSite : Site where
  engine := Control.testEngine
  key := [7, 7]
  port := 42069
  lower := id
  toInt := fun _ => none

/-- A request of the command line, which sends neither `Origin` nor `Host`. -/
def plainRequest (verb : Verb) (segments : List String) (cookie : Option SessionCookie)
    (password : Option String) : WebRequest where
  verb := verb
  upgrade := false
  segments := segments
  origin := none
  host := none
  cookie := cookie
  password := password
  json := none
  tail := none

def freshDashboard : Dashboard where
  trust := ⟨TrustLog.new, none, PeerTrustStore.empty⟩
  clock := 0
  time := 0
  guard := LoginGuard.init
  issued := []
  logins := []

def pollRequest : WebRequest :=
  plainRequest Verb.get ["api", "dashboard"] (some ⟨[7, 7], 0, true⟩) none

def signedIn : List WebEvent :=
  [WebEvent.request Control.calmServing.toSurroundings
      (plainRequest Verb.post ["login"] none (some "open sesame")),
    WebEvent.tick 7200000000 7200]

/-- The dashboard is served with the cookie of the login, also after a restart. -/
theorem dashboard_guarded_poll :
    let s := (dashboards testSite).exec freshDashboard (signedIn ++ [WebEvent.restart])
    let after := testSite.handle Control.calmServing.toSurroundings s pollRequest
    GuardLaw testSite s pollRequest after ∧ after.2 = Reply.used Use.dashboard := by
  have hstart : (dashboards testSite).Run (Unforged testSite) [] freshDashboard :=
    Machine.Run.start ⟨rfl, rfl, rfl⟩
  have hrun := hstart.exec (signedIn ++ [WebEvent.restart])
    ⟨(fun cookie hcookie => by cases hcookie), trivial, trivial, trivial⟩
  refine ⟨dashboard_guarded ⟨_, hrun⟩ ?_, rfl⟩
  intro cookie hcookie _
  cases hcookie
  exact List.mem_cons_self ..

end Web
end PanicMonitr
