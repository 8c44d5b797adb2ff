import Sahel.Library.Regex
import Sahel.Web.Session

/-!
# The web middleware: who may open the dashboard

What the web server does with a request before any page runs: `lib/admin/paths.ts` and
`middleware.ts`.

* `isDashboardPath` and `legacyDashboardTarget` classify a path;
* `signedIn` is the check of the session cookie, `verifySessionToken` of `lib/admin/session.ts`;
* `middleware` redirects or refuses, and `respond` runs it on the paths that `matcher` admits and
  lets every other request through to the app.

A path is a list of characters; both patterns look only at ASCII ones and at line ends.
-/

set_option autoImplicit false

namespace Sahel

namespace Web

/-! ### Paths -/

/-- The characters `.` stops at. -/
def lineEnd (c : Char) : Bool := c == '\n' || c == '\r' || c == '\u2028' || c == '\u2029'

/-- The pattern `.`. -/
def anyChar : Regex Char := .chars (fun c => !lineEnd c)

/-- `/^\/(ar|en)\/dashboard(?:\/|$)/`. -/
def dashboardPattern : Regex Char :=
  .seq (.text ['/'])
    (.seq (.alt (.text ['a', 'r']) (.text ['e', 'n']))
      (.seq (.text "/dashboard".toList) (.alt (.text ['/']) .atEnd)))

def isDashboardPath (pathname : List Char) : Prop := dashboardPattern.test pathname

instance (pathname : List Char) : Decidable (isDashboardPath pathname) :=
  inferInstanceAs (Decidable (Regex.test _ _))

/-- Old un-prefixed admin URLs land on the Arabic admin. -/
def legacyDashboardTarget (pathname : List Char) : Option (List Char) :=
  if pathname = "/dashboard".toList ∨ "/dashboard/".toList <+: pathname then
    some ("/ar".toList ++ pathname)
  else none

/-- `"/((?!api|_next|_vercel|.*\\..*).*)"`, the paths the middleware runs on. -/
def matcher : Regex Char :=
  .seq (.text ['/'])
    (.seq
      (.notAhead (.alt (.text "api".toList) (.alt (.text "_next".toList) (.alt (.text "_vercel".toList)
        (.seq (.star anyChar) (.seq (.text ['.']) (.star anyChar)))))))
      (.star anyChar))

/-! ### The middleware -/

/-- What the middleware reads of a request. -/
structure NextRequest where
  method : String
  pathname : List Char
  search : List Char
  session : Option Session.JsString

/-- What it knows of the server. -/
structure WebServer where
  hmac : Session.Hmac
  adminPassword : Option Session.JsString
  now : Session.TimeValue

/-- An answer, or the request handed on: `intl` to the language routing, `page` straight to the
app. -/
inductive Response where
  | redirect (status : ℕ) (path : List Char) (next : Option (List Char))
  | text (status : ℕ) (body : String)
  | intl
  | page
  deriving DecidableEq

def signedIn (srv : WebServer) (req : NextRequest) : Bool :=
  Session.verifySessionToken srv.hmac req.session srv.adminPassword srv.now

def middleware (srv : WebServer) (req : NextRequest) : Response :=
  match legacyDashboardTarget req.pathname with
  | some legacy => .redirect 307 (legacy ++ req.search) none
  | none =>
    -- Pages and the Server Action POSTs made from them need a signed-in session.
    if isDashboardPath req.pathname ∧ signedIn srv req = false then
      if req.method ≠ "GET" ∧ req.method ≠ "HEAD" then .text 401 "Sign in required"
      else .redirect 307 ('/' :: (req.pathname.drop 1).take 2 ++ "/login".toList)
        (some (req.pathname ++ req.search))
    else .intl

/-- A request as the web server handles it. -/
def respond (srv : WebServer) (req : NextRequest) : Response :=
  if matcher.admits req.pathname then middleware srv req else .page

example : isDashboardPath "/en/dashboard/units/x".toList ∧ ¬ isDashboardPath "/ar/dashboards".toList
    ∧ legacyDashboardTarget "/dashboard/units/1".toList = some "/ar/dashboard/units/1".toList
    ∧ legacyDashboardTarget "/dashboards".toList = none := by decide

end Web

end Sahel
