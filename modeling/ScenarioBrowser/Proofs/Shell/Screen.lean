import ScenarioBrowser.Proofs.Shell.Sound

/-!
# The edges of the screen

The last row of the screen belongs to the footer and the first one to the header, and whatever
page is in view, it draws between them. The header shows the address bar if it is open, and else
what is in view; the footer shows one thing only that differs between browsers, which is whether
navigation is traced, and this is settled when a browser begins. So nothing that a page holds can
be told from the edges of the screen, and nothing that a page draws can imitate them.

Two browsers are compared here. They may have begun differently, as long as both trace their
navigation or neither does, and their screens may differ in height.

The title in the header adds nothing to the path, since a reachable shell shows what its table
dictates for the path, and all browsers have the same table.

## Main results

* `Drawing.rows_between` — what stands between a header and a footer.
* `Sound.title_eq` — the path determines the title.
* `SameHeading.top_eq` — what the header shows.
* `edges_show_no_page` — the edges of any two reachable screens.
-/

namespace ScenarioBrowser

/-! ## Header, body and footer -/

namespace Drawing

/-- A drawing of one row. -/
theorem exists_rows_one (drawing : Drawing) (width : Nat) :
    ∃ row, drawing.rows width 1 = [row] :=
  List.length_eq_one_iff.mp (drawing.length_rows width 1)

/-- Between a header and a footer of one row each, the body has all rows. -/
theorem rows_between (header body footer : Drawing) (width height : Nat) :
    (withFooter (withHeader 1 header body) footer).rows width (height + 2) =
      header.rows width 1 ++ body.rows width height ++ footer.rows width 1 := by
  rw [rows_withFooter, Nat.add_comm height 1, rows_withHeader]

end Drawing

/-- An address bar shows what is typed in it. -/
theorem AddressBar.draw_eq_of_input_eq {bar other : AddressBar} (h : bar.input = other.input) :
    bar.draw = other.draw := by
  rw [draw, draw, h]

namespace Shell

variable {shell other : Shell} {loaded : LoadedConfiguration}

/-! ## What the header shows -/

/-- In sound shells, the path determines the title. -/
theorem Sound.title_eq (h : shell.Sound) (hother : other.Sound) (hpath : shell.path = other.path) :
    shell.title = other.title := by
  have hcurrent : shell.router.current = other.router.current := by
    rw [← h.dictated_path.2, ← hother.dictated_path.2, h.table, hother.table, hpath]
  rw [title, title, hcurrent]

/-- Two shells have the same in their headers: the text in their address bars if both are open, and
the path if both are closed. -/
def SameHeading (shell other : Shell) : Prop :=
  (shell.bar.isOpen = true ∧ other.bar.isOpen = true ∧ shell.bar.input = other.bar.input) ∨
  (shell.bar.isOpen = false ∧ other.bar.isOpen = false ∧ shell.path = other.path)

theorem SameHeading.top_eq (h : shell.SameHeading other) (hsound : shell.Sound)
    (hother : other.Sound) : shell.top = other.top := by
  rcases h with ⟨hopen, hotherOpen, hinput⟩ | ⟨hclosed, hotherClosed, hpath⟩
  · rw [top, top, if_pos hopen, if_pos hotherOpen, AddressBar.draw_eq_of_input_eq hinput]
  · rw [top, top, if_neg (by simp [hclosed]), if_neg (by simp [hotherClosed]),
      hsound.title_eq hother hpath, hpath]

/-! ## The screen -/

/-- The last row is one that the width and the tracing of the browser determine. -/
theorem getLast?_rows_draw {last : Row} {width : Nat}
    (hlast : (footer shell.router.options.tracing).rows width 1 = [last]) {height : Nat}
    (hheight : 1 ≤ height) : (shell.draw.rows width height).getLast? = some last := by
  obtain ⟨height, rfl⟩ := Nat.exists_eq_add_of_le' hheight
  rw [draw, Drawing.rows_withFooter, hlast, List.getLast?_concat]

/-- With two rows or more, the first one is the header's, the last one is the footer's, and the
page in view has the others. -/
theorem exists_rows_draw (shell : Shell) (width height : Nat) :
    ∃ first last, shell.top.rows width 1 = [first] ∧
      shell.draw.rows width (height + 2) = first :: (shell.body.rows width height ++ [last]) := by
  obtain ⟨first, hfirst⟩ := shell.top.exists_rows_one width
  obtain ⟨last, hlast⟩ := (footer shell.router.options.tracing).exists_rows_one width
  refine ⟨first, last, hfirst, ?_⟩
  rw [draw, Drawing.rows_between, hfirst, hlast, List.append_assoc, List.singleton_append]

/-- The first row is the header's. -/
theorem head?_rows_draw {first : Row} {width : Nat} (hfirst : shell.top.rows width 1 = [first])
    {height : Nat} (hheight : 2 ≤ height) :
    (shell.draw.rows width height).head? = some first := by
  obtain ⟨height, rfl⟩ := Nat.exists_eq_add_of_le' hheight
  obtain ⟨other, last, hother, hrows⟩ := exists_rows_draw shell width height
  rw [hrows, ← List.cons.inj (hfirst.symm.trans hother) |>.1, List.head?_cons]

/-- **The edges of the screen are out of the pages' reach.** Take any two reachable shells that
trace their navigation or both do not, and a width. There is one row that both have at the lower
edge of their screens, whatever the height and whatever they show. If both address bars are open
with the same text in them, or both are closed and the paths are the same, then there is also one
row that both have at the upper edge, on all screens of two rows or more. On such a screen, what
stands between the edges is the page in view as it is drawn with two rows less. -/
theorem edges_show_no_page {loaded' : LoadedConfiguration} {shell' : Shell}
    (h : (start loaded).1 = .ok shell) (h' : (start loaded').1 = .ok shell')
    (htracing : loaded.configuration.router.tracing = loaded'.configuration.router.tracing)
    (stimuli stimuli' : List Stimulus) (width : Nat) :
    let now := shell.after stimuli
    let other := shell'.after stimuli'
    (∃ last : Row, ∀ height, 1 ≤ height →
      (now.draw.rows width height).getLast? = some last ∧
      (other.draw.rows width height).getLast? = some last) ∧
    (now.SameHeading other → ∃ first : Row, ∀ height, 2 ≤ height →
      (now.draw.rows width height).head? = some first ∧
      (other.draw.rows width height).head? = some first) ∧
    ∀ name, now.page? = some name → ∀ height, 2 ≤ height →
      (now.draw.rows width height).tail.dropLast =
        (now.pages.draw name).rows width (height - 2) := by
  intro now other
  have hsame : now.router.options.tracing = other.router.options.tracing := by
    rw [options_after h, options_after h', htracing]
  refine ⟨?_, ?_, ?_⟩
  · obtain ⟨last, hlast⟩ := (footer now.router.options.tracing).exists_rows_one width
    refine ⟨last, fun height hheight => ⟨getLast?_rows_draw hlast hheight, ?_⟩⟩
    rw [hsame] at hlast
    exact getLast?_rows_draw hlast hheight
  · intro hheading
    have htop : now.top = other.top :=
      hheading.top_eq (sound_after h stimuli) (sound_after h' stimuli')
    obtain ⟨first, hfirst⟩ := now.top.exists_rows_one width
    refine ⟨first, fun height hheight => ⟨head?_rows_draw hfirst hheight, ?_⟩⟩
    rw [htop] at hfirst
    exact head?_rows_draw hfirst hheight
  · intro name hpage height hheight
    obtain ⟨height, rfl⟩ := Nat.exists_eq_add_of_le' hheight
    obtain ⟨first, last, -, hrows⟩ := exists_rows_draw now width height
    have hbody : now.body = now.pages.draw name := by rw [body, hpage]
    rw [hrows, hbody, List.tail_cons, List.dropLast_concat, Nat.add_sub_cancel]

/-- The page of a scenario, and in another browser the form with a name typed: in both the address
bar is open, and it has come to hold the same path in different ways. -/
theorem edges_show_no_page_sample :
    let formFirst : LoadedConfiguration :=
      { configuration := { startPath := "/scenario-new", router := { maxHistory := 0 } } }
    let openBar : Stimulus := .event (.key ⟨.char 'l', { ctrl := true }⟩)
    let stimuli : List Stimulus := [.init, openBar]
    let stimuli' : List Stimulus :=
      [.init, .event (.paste "世"), openBar] ++
      List.replicate 13 (.event (.key ⟨.backspace, {}⟩)) ++ [.event (.paste "/scenario/a")]
    ∃ shell shell', (start .sample).1 = .ok shell ∧ (start formFirst).1 = .ok shell' ∧
      LoadedConfiguration.sample.configuration.router.tracing =
        formFirst.configuration.router.tracing ∧
      let now := shell.after stimuli
      let other := shell'.after stimuli'
      now.SameHeading other ∧
      now.page? = some .scenarioDetail ∧ other.page? = some .newScenario ∧
      other.pages.newScenario.name = "世" ∧
      (now.draw.rows 9 1).getLast? = (other.draw.rows 9 1).getLast? ∧
      (now.draw.rows 9 5).getLast? = (other.draw.rows 9 5).getLast? ∧
      (now.draw.rows 9 5).head? = (other.draw.rows 9 2).head? ∧
      (now.draw.rows 9 5).tail.dropLast = (now.pages.draw .scenarioDetail).rows 9 3 := by
  intro formFirst openBar stimuli stimuli'
  obtain ⟨nav, hanswer⟩ : ∃ nav, (opening .sample).answer = .ok nav :=
    ⟨.active "/scenario/a" .scenarioDetail ⟨[(Scenario.idParam, "a")]⟩, by decide +kernel⟩
  obtain ⟨nav', hanswer'⟩ : ∃ nav, (opening formFirst).answer = .ok nav :=
    ⟨.active "/scenario-new" .scenarioNew {}, by decide +kernel⟩
  have hstart := start_of_answer hanswer
  have hstart' := start_of_answer hanswer'
  refine ⟨_, _, hstart, hstart', rfl, ?_⟩
  intro now other
  obtain ⟨hopen, hpage, hinput⟩ :
      now.bar.isOpen = true ∧ now.page? = some .scenarioDetail ∧
        now.bar.input = "/scenario/a" := by
    decide +kernel
  obtain ⟨hopen', hpage', hinput', hname⟩ :
      other.bar.isOpen = true ∧ other.page? = some .newScenario ∧
        other.bar.input = "/scenario/a" ∧ other.pages.newScenario.name = "世" := by
    decide +kernel
  have hheading : now.SameHeading other := .inl ⟨hopen, hopen', hinput.trans hinput'.symm⟩
  -- The abbreviations go, so that both sides agree as they stand and nothing is computed.
  subst now other
  obtain ⟨⟨last, hlast⟩, hfirst, hbetween⟩ :=
    edges_show_no_page hstart hstart' rfl stimuli stimuli' 9
  obtain ⟨first, hfirst⟩ := hfirst hheading
  refine ⟨hheading, hpage, hpage', hname, ?_, ?_, ?_, hbetween _ hpage 5 (by decide)⟩
  · obtain ⟨hnow, hother⟩ := hlast 1 (by decide)
    exact hnow.trans hother.symm
  · obtain ⟨hnow, hother⟩ := hlast 5 (by decide)
    exact hnow.trans hother.symm
  · exact (hfirst 5 (by decide)).1.trans (hfirst 2 (by decide)).2.symm

end Shell

end ScenarioBrowser
