import ScenarioBrowser.Log
import ScenarioBrowser.Redirection

/-!
# The router: navigation with history

A router turns requests into committed navigations over one route table and keeps
the history of the paths that were committed. Two stacks hold it: `past` leads back
and `future` leads forward, each with the nearest path on top, so that
`past.reverse ++ [current] ++ future` reads like the time line of a browser.

* `navigate` follows a request. If it arrives at a path other than the current one,
  the current path goes onto `past` and `future` is forgotten.
* `back` and `forward` move along the time line. They go through the table like any
  other request.

A request that fails changes nothing but the number of the next navigation.

Every operation returns a *step*: its answer, the router afterwards and the notices
it gives. Notices about the course of single navigations are given only while
`Router.Options.tracing` is set; that a navigation was abandoned is always reported.

## Main results

* `Router.navigate_of_fails`, `Router.navigate_of_arrives` — the two outcomes of a
  request.
* `Router.back_of_past_nil`, `Router.forward_of_future_nil` — there is nothing to go
  to.
* `Router.length_past_remember_le` — history is bounded by `maxHistory`.
-/

namespace ScenarioBrowser

/-! ## Options, triggers and errors -/

/-- How a router works. -/
structure Router.Options where
  /-- Report every step of every navigation. -/
  tracing : Bool := false
  /-- How many paths `past` may hold; zero turns history off. -/
  maxHistory : Nat := 50
  /-- How many redirects a navigation may follow. -/
  maxRedirects : Nat := 8
deriving DecidableEq, Repr

/-- What started a navigation. -/
inductive Trigger where
  /-- An explicit request. -/
  | imperative
  /-- A move in the history. -/
  | popState
deriving DecidableEq, Repr

/-- The name of a trigger in a record. -/
def Trigger.name : Trigger → String
  | imperative => "imperative"
  | popState => "popstate"

/-- A navigation was abandoned: the path as it was requested, and the limit on
redirects that it exceeded. -/
structure RedirectLoop where
  path : String
  limit : Nat
deriving DecidableEq, Repr

/-- The wording of the error. -/
def RedirectLoop.message (loop : RedirectLoop) : String :=
  "Navigation to '" ++ loop.path ++ "' exceeded " ++ toString loop.limit ++ " redirects"

/-! ## Notices -/

/-- What a router reports. -/
inductive Router.Notice (H : Type) where
  /-- A table of so many routes was taken over. -/
  | registered (routes : Nat) (options : Router.Options)
  /-- A navigation began. -/
  | started (id : Nat) (path : String) (trigger : Trigger)
  /-- A redirect was taken. -/
  | redirected (id : Nat) (hop : Hop)
  /-- The table answered with a handler. -/
  | recognized (id : Nat) (path : String) (handler : H) (params : Params)
  /-- The table has no answer. -/
  | unmatched (id : Nat) (path : String)
  /-- A navigation was committed. -/
  | committed (id : Nat) (path : String) (found : Bool)
  /-- A navigation was given up after too many redirects. -/
  | abandoned (loop : RedirectLoop)
  /-- The traced end of a navigation that was given up. -/
  | failed (id : Nat) (loop : RedirectLoop)
deriving DecidableEq, Repr

namespace Router.Notice

variable {H : Type}

/-- The part of the program that reports the course of navigations. -/
def navigationTarget : String := "navi_nexus::navigation"

/-- The part of the program that reports about a router as a whole. -/
def engineTarget : String := "navi_nexus::router::engine"

/-- The record of a notice; `label` names the handlers. -/
def record (label : H → String) : Router.Notice H → Log.Record
  | registered routes options =>
    ⟨.debug, engineTarget, "routes registered",
      [("routes", .number routes), ("tracing", .flag options.tracing),
        ("max_history", .number options.maxHistory)]⟩
  | started id path trigger =>
    ⟨.info, navigationTarget, "navigation start",
      [("id", .number id), ("path", .text path), ("trigger", .text trigger.name)]⟩
  | redirected id hop =>
    ⟨.info, navigationTarget, "redirect",
      [("id", .number id), ("from", .text hop.origin), ("to", .text hop.target)]⟩
  | recognized id path handler params =>
    ⟨.info, navigationTarget, "route recognized",
      [("id", .number id), ("path", .text path), ("handler", .text (label handler)),
        ("params", .text params.text)]⟩
  | unmatched id path =>
    ⟨.info, navigationTarget, "no route matched", [("id", .number id), ("path", .text path)]⟩
  | committed id path found =>
    ⟨.info, navigationTarget, "navigation end",
      [("id", .number id), ("path", .text path), ("found", .flag found)]⟩
  | abandoned loop =>
    ⟨.warn, engineTarget, "navigation abandoned: redirect loop",
      [("path", .text loop.path), ("limit", .number loop.limit)]⟩
  | failed id loop =>
    ⟨.info, navigationTarget, "navigation end",
      [("id", .number id), ("path", .text loop.path), ("found", .flag false),
        ("error", .text loop.message)]⟩

/-- What is reported about the place where a navigation arrives. -/
def ofArrival (id : Nat) : Navigation H → Router.Notice H
  | .active path handler params => recognized id path handler params
  | .notFound path => unmatched id path

end Router.Notice

/-! ## Routers and their steps -/

/-- Navigation state over one route table. -/
structure Router (H : Type) where
  table : Table H
  options : Router.Options
  /-- The committed navigation; there is none before the first request. -/
  current : Option (Navigation H) := none
  /-- Paths to go back to, the nearest first. -/
  past : List String := []
  /-- Paths to go forward to, the nearest first. -/
  future : List String := []
  /-- The number of the next navigation. -/
  nextId : Nat := 1
deriving DecidableEq, Repr

/-- The answer of an operation, the router after it, and what it reports. -/
structure Router.Step (H α : Type) where
  answer : α
  router : Router H
  notices : List (Router.Notice H) := []

namespace Router

variable {H : Type}

/-- Takes over a route table. -/
def register (table : Table H) (options : Router.Options) : Step H Unit :=
  ⟨(), { table, options }, [.registered table.routes.length options]⟩

/-- The current path; empty before the first request. -/
def currentPath (router : Router H) : String :=
  (router.current.map Navigation.path).getD ""

/-- The time line: every path that can be reached without a request, oldest first. -/
def timeline (router : Router H) : List String :=
  match router.current with
  | some navigation => router.past.reverse ++ navigation.path :: router.future
  | none => []

def canGoBack (router : Router H) : Bool := !router.past.isEmpty

def canGoForward (router : Router H) : Bool := !router.future.isEmpty

/-- The notices of a traced step: all of them or none. -/
def traced (router : Router H) (notices : List (Notice H)) : List (Notice H) :=
  if router.options.tracing then notices else []

/-- A path put onto `past`, which keeps its `maxHistory` newest paths. -/
def remember (router : Router H) (path : String) : List String :=
  (path :: router.past).take router.options.maxHistory

/-- History is bounded. -/
theorem length_past_remember_le (router : Router H) (path : String) :
    (router.remember path).length ≤ router.options.maxHistory :=
  List.length_take_le _ _

/-! ### Following a request -/

/-- The trail of a request under the limit of the router. -/
def trail (router : Router H) (path : String) : Trail H :=
  router.table.follow router.options.maxRedirects (Path.canonical path)

/-- Where a request arrives, or the error with the path as it was requested. -/
def destination (router : Router H) (path : String) : Except RedirectLoop (Navigation H) :=
  match (router.trail path).arrival? with
  | some navigation => .ok navigation
  | none => .error ⟨path, router.options.maxRedirects⟩

/-- What is reported about a request, from its start to its end. -/
def account (router : Router H) (path : String) (trigger : Trigger) : List (Notice H) :=
  let id := router.nextId
  let course := router.traced
    (.started id path trigger :: (router.trail path).hops.map (.redirected id))
  let ending := match router.destination path with
    | .ok navigation =>
      router.traced [.ofArrival id navigation, .committed id navigation.path navigation.found]
    | .error loop => .abandoned loop :: router.traced [.failed id loop]
  course ++ ending

/-- The router after a request that failed: only a number is used up. -/
def skipped (router : Router H) : Router H := { router with nextId := router.nextId + 1 }

/-! ### The operations -/

/-- Follows a request and commits the place where it arrives. -/
def navigate (router : Router H) (path : String) : Step H (Except RedirectLoop (Navigation H)) :=
  let notices := router.account path .imperative
  match router.destination path with
  | .error loop => ⟨.error loop, router.skipped, notices⟩
  | .ok next =>
    let committed := { router.skipped with current := some next }
    match router.current with
    | none => ⟨.ok next, committed, notices⟩
    | some current =>
      if current.path = next.path then ⟨.ok next, committed, notices⟩
      else
        ⟨.ok next, { committed with past := router.remember current.path, future := [] }, notices⟩

/-- Goes one step back. The answer is `none` if there is nothing to go back to. -/
def back (router : Router H) : Step H (Except RedirectLoop (Option (Navigation H))) :=
  match router.past with
  | [] => ⟨.ok none, router, []⟩
  | path :: past =>
    let notices := router.account path .popState
    match router.destination path with
    | .error loop => ⟨.error loop, router.skipped, notices⟩
    | .ok next =>
      let future := (router.current.map Navigation.path).toList ++ router.future
      ⟨.ok (some next), { router.skipped with current := some next, past, future }, notices⟩

/-- Goes one step forward. The answer is `none` if nothing was undone. -/
def forward (router : Router H) : Step H (Except RedirectLoop (Option (Navigation H))) :=
  match router.future with
  | [] => ⟨.ok none, router, []⟩
  | path :: future =>
    let notices := router.account path .popState
    match router.destination path with
    | .error loop => ⟨.error loop, router.skipped, notices⟩
    | .ok next =>
      let past := match router.current with
        | some current => router.remember current.path
        | none => router.past
      ⟨.ok (some next), { router.skipped with current := some next, past, future }, notices⟩

/-! ### Outcomes -/

/-- A request that fails uses up a number and leaves everything else alone. -/
theorem navigate_of_fails {router : Router H} {path : String} {loop : RedirectLoop}
    (h : router.destination path = .error loop) :
    router.navigate path = ⟨.error loop, router.skipped, router.account path .imperative⟩ := by
  simp only [navigate, h]

/-- A request that arrives answers with the navigation and commits it. -/
theorem navigate_of_arrives {router : Router H} {path : String} {next : Navigation H}
    (h : router.destination path = .ok next) :
    (router.navigate path).answer = .ok next ∧
      (router.navigate path).router.current = some next := by
  simp only [navigate, h]
  cases router.current with
  | none => exact ⟨rfl, rfl⟩
  | some current => dsimp only; split <;> exact ⟨rfl, rfl⟩

/-- With nothing to go back to, nothing happens. -/
theorem back_of_past_nil {router : Router H} (h : router.past = []) :
    router.back = ⟨.ok none, router, []⟩ := by
  simp only [back, h]

/-- With nothing to go forward to, nothing happens. -/
theorem forward_of_future_nil {router : Router H} (h : router.future = []) :
    router.forward = ⟨.ok none, router, []⟩ := by
  simp only [forward, h]

end Router

end ScenarioBrowser
