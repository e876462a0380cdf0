import ScenarioBrowser.Proofs.Router.Coherent

/-!
# A router is a time line with a cursor

Two stacks and a current path are one list with a position in it. A `Timeline` is this
list, and its operations say what a browser does: step to the left, step to the right,
or visit a path, which forgets what lies to the right of the cursor and bounds what lies
to the left. A router refines it: each of its calls does to its time line what the
operation does.

For the step to the right this is not obvious. The path that is left is put onto `past`
by the operation that trims it, so an entry could fall off at the far end. What prevents
this is a bound that the two stacks have together: a path on `future` was on `past`
before, and so there is room for one more path as long as `future` holds one.

## Main results

* `bounded_after` — the two stacks together respect the bound on the history.
* `line_navigate`, `line_back`, `line_forward` — each call is one operation.
* `router_refines_timeline` — the refinement, and what follows from it.
-/

namespace ScenarioBrowser

/-! ## Time lines -/

/-- Paths, oldest first, and the position of the current one among them. -/
structure Timeline where
  entries : List String
  cursor : Nat
deriving DecidableEq, Repr

namespace Timeline

/-- The cursor one entry to the left, if there is one. -/
def left (line : Timeline) : Timeline :=
  { line with cursor := line.cursor - 1 }

/-- The cursor one entry to the right, if there is one. -/
def right (line : Timeline) : Timeline :=
  if line.cursor + 1 < line.entries.length then { line with cursor := line.cursor + 1 } else line

/-- The time line after a visit. Unless the path is the current entry, it comes right after
the newest `limit` of the entries up to the cursor. -/
def visit (limit : Nat) (path : String) (line : Timeline) : Timeline :=
  if line.entries[line.cursor]? = some path then line
  else
    let kept := (line.entries.take (line.cursor + 1)).rtake limit
    ⟨kept ++ [path], kept.length⟩

end Timeline

namespace Router

variable {H : Type} {router next : Router H} {path : String}

/-- The position of the current path on the time line. -/
def cursor (router : Router H) : Nat := router.past.length

/-- The time line of a router, with its cursor. -/
def line (router : Router H) : Timeline := ⟨router.timeline, router.cursor⟩

/-- The cursor stands at the current path. -/
theorem getElem?_timeline_cursor (router : Router H) :
    router.timeline[router.cursor]? = router.current.map Navigation.path := by
  cases hcurrent : router.current with
  | none => simp [timeline, hcurrent]
  | some current =>
      rw [timeline_of_current hcurrent, cursor, ← List.length_reverse,
        List.getElem?_append_right (Nat.le_refl _), Nat.sub_self]
      rfl

/-! ## The joint bound -/

/-- The two stacks together respect the bound on the history. -/
def Bounded (router : Router H) : Prop :=
  router.past.length + router.future.length ≤ router.options.maxHistory

theorem length_remember_le (router : Router H) (path : String) :
    (router.remember path).length ≤ router.past.length + 1 :=
  List.length_take_le' _ _

/-- A path is remembered in full as long as there is room for it. -/
theorem remember_of_lt (h : router.past.length < router.options.maxHistory) (path : String) :
    router.remember path = path :: router.past :=
  List.take_of_length_le h

/-- Every move keeps the joint bound. -/
theorem Bounded.of_moves (h : router.Bounded) (hmove : router.Moves next) : next.Bounded := by
  unfold Bounded at h ⊢
  cases hmove with
  | stays => exact h
  | fails => exact h
  | lands => exact h
  | @leaves current =>
      show (router.remember current.path).length + 0 ≤ router.options.maxHistory
      exact length_past_remember_le router current.path
  | @goesBack current nav rest _ hpast =>
      show rest.length + (router.future.length + 1) ≤ router.options.maxHistory
      rw [hpast, List.length_cons] at h
      omega
  | @goesForward current nav rest _ hfuture =>
      show (router.remember current.path).length + rest.length ≤ router.options.maxHistory
      have hlength := length_remember_le router current.path
      rw [hfuture, List.length_cons] at h
      omega

/-- Every reachable router is within the joint bound. -/
theorem bounded_after (table : Table H) (options : Options) (calls : List Call) :
    ((register table options).router.after calls).Bounded :=
  moves_induction (fun _ _ _ hmove h => h.of_moves hmove) (Nat.zero_le _) calls

/-- With a path to go forward to, there is room to remember the current one. -/
theorem Bounded.past_lt (h : router.Bounded) {rest : List String}
    (hfuture : router.future = path :: rest) :
    router.past.length < router.options.maxHistory := by
  unfold Bounded at h
  rw [hfuture, List.length_cons] at h
  omega

theorem Coherent.cursor_lt (h : router.Coherent) {rest : List String}
    (hfuture : router.future = path :: rest) : router.cursor + 1 < router.timeline.length := by
  obtain ⟨current, -, hcurrent, -⟩ := h.exists_forward hfuture
  simp [timeline_of_current hcurrent, cursor, hfuture]

/-! ## Each call is one operation -/

theorem take_timeline {current : Navigation H} (h : router.current = some current) :
    router.timeline.take (router.cursor + 1) = router.past.reverse ++ [current.path] := by
  rw [timeline_of_current h, cursor, List.append_cons, ← List.length_reverse,
    List.take_left' (by simp)]

/-- The first request that arrives begins the time line. -/
theorem line_navigate_of_none (h : router.Coherent) {nav : Navigation H}
    (hdest : router.destination path = .ok nav) (hcurrent : router.current = none) :
    (router.navigate path).router.line = ⟨[nav.path], 0⟩ := by
  have hpast := h.past_nil hcurrent
  have hfuture := h.future_nil hcurrent
  simp [navigate, hdest, hcurrent, line, cursor, timeline, skipped, hpast, hfuture]

/-- A request that arrives at the current path leaves the time line alone. -/
theorem line_navigate_of_eq {current nav : Navigation H} (hdest : router.destination path = .ok nav)
    (hcurrent : router.current = some current) (heq : current.path = nav.path) :
    (router.navigate path).router.line = router.line := by
  simp only [navigate, hdest, hcurrent, heq, if_true]
  show (⟨router.past.reverse ++ nav.path :: router.future, router.cursor⟩ : Timeline) = _
  rw [line, timeline_of_current hcurrent, heq]

/-- A request that arrives at another path keeps the newest entries of what led there. -/
theorem line_navigate_of_ne {current nav : Navigation H} (hdest : router.destination path = .ok nav)
    (hcurrent : router.current = some current) (hne : current.path ≠ nav.path) :
    (router.navigate path).router.line =
      ⟨(router.past.reverse ++ [current.path]).rtake router.options.maxHistory ++ [nav.path],
        ((router.past.reverse ++ [current.path]).rtake router.options.maxHistory).length⟩ := by
  rw [← reverse_remember, List.length_reverse]
  simp only [navigate, hdest, hcurrent, if_neg hne]
  rfl

/-- A request visits the place where it arrives, and does nothing if it fails. -/
theorem line_navigate (h : router.Coherent) (path : String) :
    (router.navigate path).router.line =
      match (router.navigate path).answer with
      | .ok nav => router.line.visit router.options.maxHistory nav.path
      | .error _ => router.line := by
  cases hdest : router.destination path with
  | error loop =>
      rw [navigate_of_fails hdest]
      rfl
  | ok nav =>
      rw [(navigate_of_arrives hdest).1]
      show _ = router.line.visit router.options.maxHistory nav.path
      have hcursor : router.line.entries[router.line.cursor]? =
          router.current.map Navigation.path := getElem?_timeline_cursor router
      rw [Timeline.visit, hcursor]
      cases hcurrent : router.current with
      | none =>
          rw [line_navigate_of_none h hdest hcurrent]
          simp [line, timeline, hcurrent]
      | some current =>
          by_cases heq : current.path = nav.path
          · rw [line_navigate_of_eq hdest hcurrent heq, Option.map_some, if_pos (congrArg some heq)]
          · have hne : ¬some current.path = some nav.path := by
              intro hsome
              exact heq (Option.some.inj hsome)
            rw [line_navigate_of_ne hdest hcurrent heq, Option.map_some, if_neg hne,
              ← take_timeline hcurrent]
            rfl

/-- Going back moves the cursor to the left. -/
theorem line_back (h : router.Coherent) : router.back.router.line = router.line.left := by
  cases hpast : router.past with
  | nil =>
      rw [back_of_past_nil hpast]
      simp [line, Timeline.left, cursor, hpast]
  | cons path rest =>
      obtain ⟨current, nav, hcurrent, -, hland, rfl⟩ := h.exists_back hpast
      rw [h.back_eq hcurrent hpast hland, line, line, timeline_of_current hcurrent, cursor,
        cursor, hpast]
      show (⟨rest.reverse ++ nav.path :: current.path :: router.future, rest.length⟩ : Timeline) = _
      simp [Timeline.left]

/-- Going forward moves the cursor to the right. -/
theorem line_forward (h : router.Coherent) (hbounded : router.Bounded) :
    router.forward.router.line = router.line.right := by
  cases hfuture : router.future with
  | nil =>
      rw [forward_of_future_nil hfuture]
      have hlast : ¬router.cursor + 1 < router.timeline.length := by
        cases hcurrent : router.current with
        | none => simp [timeline, hcurrent]
        | some current => simp [timeline_of_current hcurrent, cursor, hfuture]
      rw [Timeline.right, line, if_neg hlast]
  | cons path rest =>
      obtain ⟨current, nav, hcurrent, -, hland, rfl⟩ := h.exists_forward hfuture
      have hroom := hbounded.past_lt hfuture
      rw [h.forward_eq hcurrent hfuture hland, Timeline.right, line, line,
        if_pos (h.cursor_lt hfuture), timeline_of_current hcurrent, hfuture]
      show (⟨(router.remember current.path).reverse ++ nav.path :: rest,
        (router.remember current.path).length⟩ : Timeline) = _
      -- The path that is left comes onto `past` untrimmed, so no entry is lost.
      rw [remember_of_lt hroom]
      simp [cursor]

/-! ## There and back again -/

/-- Going forward undoes going back. -/
theorem forward_back (h : router.Coherent) (hbounded : router.Bounded) {rest : List String}
    (hpast : router.past = path :: rest) : router.back.router.forward.router.SamePlace router := by
  obtain ⟨current, nav, hcurrent, -, hland, rfl⟩ := h.exists_back hpast
  have hmiddle : router.back.router.Coherent := h.of_moves (h.moves .back)
  rw [h.back_eq hcurrent hpast hland] at hmiddle ⊢
  rw [hmiddle.forward_eq rfl rfl (h.dictated current hcurrent)]
  refine ⟨hcurrent.symm, ?_, rfl⟩
  -- The path comes back to the top of `past`, where it has just made room for itself.
  have hroom : rest.length < router.options.maxHistory := by
    unfold Bounded at hbounded
    rw [hpast, List.length_cons] at hbounded
    omega
  show (nav.path :: rest).take router.options.maxHistory = router.past
  rw [List.take_of_length_le hroom, hpast]

/-- Going back undoes going forward. -/
theorem back_forward (h : router.Coherent) (hbounded : router.Bounded) {rest : List String}
    (hfuture : router.future = path :: rest) :
    router.forward.router.back.router.SamePlace router := by
  obtain ⟨current, nav, hcurrent, -, hland, rfl⟩ := h.exists_forward hfuture
  have hmiddle : router.forward.router.Coherent := h.of_moves (h.moves .forward)
  rw [h.forward_eq hcurrent hfuture hland, remember_of_lt (hbounded.past_lt hfuture)] at hmiddle ⊢
  rw [hmiddle.back_eq rfl rfl (h.dictated current hcurrent)]
  exact ⟨hcurrent.symm, rfl, hfuture.symm⟩

/-- **A router refines a bounded time line with a cursor.** In every reachable state each
call does to the time line what the operation of `Timeline` does. A step back or forward
along a stack that is not empty succeeds, moves the cursor by one over an unchanged time
line, and is undone exactly by the opposite step. A request that arrives at another path
keeps the newest entries of what led there. The stacks respect the bound together. -/
theorem router_refines_timeline (table : Table H) (options : Options) (calls : List Call) :
    let router := (register table options).router.after calls
    ((∀ path, (router.navigate path).router.line =
        match (router.navigate path).answer with
        | .ok nav => router.line.visit options.maxHistory nav.path
        | .error _ => router.line) ∧
      router.back.router.line = router.line.left ∧
      router.forward.router.line = router.line.right) ∧
    (router.past ≠ [] →
      (∃ nav, router.back.answer = .ok (some nav)) ∧
      router.back.router.timeline = router.timeline ∧
      router.back.router.cursor + 1 = router.cursor ∧
      router.back.router.forward.router.SamePlace router) ∧
    (router.future ≠ [] →
      (∃ nav, router.forward.answer = .ok (some nav)) ∧
      router.forward.router.timeline = router.timeline ∧
      router.forward.router.cursor = router.cursor + 1 ∧
      router.forward.router.back.router.SamePlace router) ∧
    (∀ path current nav, router.current = some current →
      (router.navigate path).answer = .ok nav → nav.path ≠ current.path →
      (router.navigate path).router.timeline =
        (router.past.reverse ++ [current.path]).rtake options.maxHistory ++ [nav.path]) ∧
    router.past.length + router.future.length ≤ options.maxHistory ∧
    (options.maxHistory = 0 → router.past = [] ∧ router.future = []) := by
  intro router
  have hoptions : router.options = options := options_after _ calls
  have h : router.Coherent := coherent_after table options calls
  have hbounded : router.Bounded := bounded_after table options calls
  have hline := line_back h
  have hright := line_forward h hbounded
  refine ⟨⟨?_, hline, hright⟩, ?_, ?_, ?_, ?_, ?_⟩
  · intro path
    rw [← hoptions]
    exact line_navigate h path
  · intro hne
    obtain ⟨path, rest, hpast⟩ := List.exists_cons_of_ne_nil hne
    obtain ⟨current, nav, hcurrent, -, hland, -⟩ := h.exists_back hpast
    have hanswer : router.back.answer = .ok (some nav) := by
      rw [h.back_eq hcurrent hpast hland]
    have hpos : 0 < router.cursor := List.length_pos_iff.mpr hne
    have hcursor : router.back.router.cursor = router.cursor - 1 := congrArg Timeline.cursor hline
    exact ⟨⟨nav, hanswer⟩, congrArg Timeline.entries hline, by omega,
      forward_back h hbounded hpast⟩
  · intro hne
    obtain ⟨path, rest, hfuture⟩ := List.exists_cons_of_ne_nil hne
    obtain ⟨current, nav, hcurrent, -, hland, -⟩ := h.exists_forward hfuture
    have hanswer : router.forward.answer = .ok (some nav) := by
      rw [h.forward_eq hcurrent hfuture hland]
    have hmore : router.line.cursor + 1 < router.line.entries.length := h.cursor_lt hfuture
    rw [Timeline.right, if_pos hmore] at hright
    exact ⟨⟨nav, hanswer⟩, congrArg Timeline.entries hright,
      congrArg Timeline.cursor hright, back_forward h hbounded hfuture⟩
  · intro path current nav hcurrent hanswer hne
    rw [answer_navigate] at hanswer
    have hline := line_navigate_of_ne hanswer hcurrent hne.symm
    rw [← hoptions]
    exact congrArg Timeline.entries hline
  · rw [← hoptions]
    exact hbounded
  · intro hzero
    unfold Bounded at hbounded
    rw [hoptions, hzero] at hbounded
    exact ⟨List.eq_nil_of_length_eq_zero (by omega), List.eq_nil_of_length_eq_zero (by omega)⟩

/-- A run whose first place has been forgotten, one step from either end of its time line. -/
theorem router_refines_timeline_sample :
    let calls := [.navigate "old/7", .navigate "item/1", .navigate "item/2",
      .navigate "nowhere", .back]
    let router :=
      (register Table.sample { maxHistory := 2, maxRedirects := 2 }).router.after calls
    let bare := (register Table.sample { maxHistory := 0 }).router.after calls
    router.line = ⟨["/item/1", "/item/2", "/nowhere"], 1⟩ ∧
      router.back.router.timeline = router.timeline ∧
      router.back.router.forward.router.SamePlace router ∧
      router.forward.router.timeline = router.timeline ∧
      router.forward.router.back.router.SamePlace router ∧
      (router.navigate "home/").router.timeline = ["/item/1", "/item/2", "/home"] ∧
      bare.past = [] ∧ bare.future = [] := by
  intro calls router bare
  have hline : router.line = ⟨["/item/1", "/item/2", "/nowhere"], 1⟩ := by decide +kernel
  have hpast : router.past ≠ [] := by decide +kernel
  have hfuture : router.future ≠ [] := by decide +kernel
  have hcurrent : router.current = some (.active "/item/2" "Item" ⟨[("id", "2")]⟩) := by
    decide +kernel
  have hanswer : (router.navigate "home/").answer = .ok (.active "/home" "Home" ⟨[]⟩) := by
    decide +kernel
  have hkept : (router.past.reverse ++ ["/item/2"]).rtake 2 = ["/item/1", "/item/2"] := by
    decide +kernel
  obtain ⟨-, hback, hforward, hnavigate, -, -⟩ :=
    router_refines_timeline Table.sample { maxHistory := 2, maxRedirects := 2 } calls
  have hhome := hnavigate "home/" _ _ hcurrent hanswer (by decide)
  have hbare := router_refines_timeline Table.sample { maxHistory := 0 } calls
  exact ⟨hline, (hback hpast).2.1, (hback hpast).2.2.2, (hforward hfuture).2.1,
    (hforward hfuture).2.2.2, hhome.trans (congrArg (· ++ ["/home"]) hkept),
    hbare.2.2.2.2.2 rfl⟩

end Router

end ScenarioBrowser
