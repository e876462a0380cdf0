import ScenarioBrowser.Proofs.Path.Joined
import ScenarioBrowser.Proofs.Pattern.Reading

/-!
# Matching is the inverse of filling in

A pattern is a path with gaps. Values for its parameters, in order, fill the gaps and give a list
of segments, and joined they are a path. Matching goes the other way: it looks at segments and
finds the values that they were filled in with, if there are any.

On segments this is one induction over the parts of a pattern, and it needs nothing of the
pattern. On paths two more things come in. The values must not fall apart or be cut off when the
path is read, so they are plain; and the literals must not fall apart either, which is where it
matters that a pattern was read. Literals may well have a character that ends the routed part of
a path. Then no path has their segments, and no path is spelt by filling in the pattern, so this
is no exception.

A value is found again under its name because no two parameters of a pattern that was read have
the same name.

## Main results

* `take?_eq_some_iff`, `match?_eq_some_iff` — matching segments is undoing `fillParts`.
* `segments_eq_fillParts_iff` — from segments to spellings.
* `match?_fill` — filled with plain values, a pattern is matched and the values are bound.
* `match?_inverts_fill` — matching paths is undoing `fill`, and the names lead to the values.
-/

namespace ScenarioBrowser

/-! ## Looking up bound values -/

namespace Params

variable {params : Params} {name value : String}

/-- Under different names every bound value is found. -/
theorem get?_of_mem (hnames : params.names.Nodup) (hmem : (name, value) ∈ params.bindings) :
    params.get? name = some value := by
  obtain ⟨bindings⟩ := params
  induction bindings with
  | nil => cases hmem
  | cons binding bindings ih =>
      obtain ⟨hfirst, hrest⟩ := List.nodup_cons.mp hnames
      rcases List.mem_cons.mp hmem with rfl | hlater
      · simp [get?]
      · have hne : binding.1 ≠ name := by
          rintro hsame
          have hagain : (name, value).1 ∈ bindings.map Prod.fst := List.mem_map_of_mem hlater
          exact hfirst (hsame ▸ hagain)
        have hfound := ih hrest hlater
        simpa [get?, hne] using hfound

/-- Under any other name there is none. -/
theorem get?_of_notMem (h : name ∉ params.names) : params.get? name = none := by
  rw [get?, Option.map_eq_none_iff, List.find?_eq_none]
  intro binding hbinding
  simp only [beq_iff_eq]
  rintro rfl
  exact h (List.mem_map_of_mem hbinding)

end Params

namespace Pattern

variable {pattern : Pattern} {parts : List Part} {coverage : Coverage} {params : Params}
  {segments rest values : List String} {bindings : List (String × String)} {path name : String}

/-! ## Filling in -/

/-- The segments that parts stand for when their parameters have the given values, in order. A
parameter without a value ends them. -/
def fillParts : List Part → List String → List String
  | [], _ => []
  | .literal text :: parts, values => text :: fillParts parts values
  | .param _ :: _, [] => []
  | .param _ :: parts, value :: values => value :: fillParts parts values

/-- The path that a pattern stands for when its parameters have the given values. -/
def fill (pattern : Pattern) (values : List String) : String :=
  Path.join (fillParts pattern.parts values)

/-- What is filled in are the literals and, if there are as many as parameters, the values. -/
theorem mem_fillParts_iff (hlength : values.length = (namesOf parts).length) {segment : String} :
    segment ∈ fillParts parts values ↔ .literal segment ∈ parts ∨ segment ∈ values := by
  induction parts generalizing values with
  | nil =>
      rw [List.length_eq_zero_iff.mp hlength]
      simp [fillParts]
  | cons part parts ih =>
      cases part with
      | literal text =>
          rw [fillParts, List.mem_cons, ih hlength, List.mem_cons, Part.literal.injEq, or_assoc]
      | param name =>
          cases values with
          | nil => cases hlength
          | cons value values =>
              have htail := ih (Nat.succ.inj hlength)
              rw [fillParts, List.mem_cons, htail, List.mem_cons, List.mem_cons]
              simp only [reduceCtorEq, false_or]
              rw [or_left_comm]

/-! ## Matching segments -/

/-- **Parts take segments exactly if these are the parts filled in, and then a rest.** The values
that are bound are those that were filled in, under the names of the parameters. -/
theorem take?_eq_some_iff :
    take? parts segments = some (bindings, rest) ↔
      bindings.map Prod.fst = namesOf parts ∧ (∀ value ∈ bindings.map Prod.snd, value ≠ "") ∧
        segments = fillParts parts (bindings.map Prod.snd) ++ rest := by
  induction parts generalizing segments bindings with
  | nil =>
      rw [take?_nil, Option.some.injEq, Prod.mk.injEq]
      constructor
      · rintro ⟨rfl, rfl⟩
        exact ⟨rfl, nofun, rfl⟩
      · rintro ⟨hnames, -, rfl⟩
        obtain rfl := List.map_eq_nil_iff.mp hnames
        exact ⟨rfl, rfl⟩
  | cons part parts ih =>
      cases part with
      | literal text =>
          cases segments with
          | nil => simp [fillParts]
          | cons segment segments =>
              rw [take?_literal, fillParts, List.cons_append, List.cons.injEq, names_cons_literal]
              split
              · rename_i hsame
                rw [ih, and_iff_right hsame]
              · rename_i hother
                simp [hother]
      | param name =>
          cases bindings with
          | nil => cases segments <;> simp
          | cons binding bindings =>
              cases segments with
              | nil => simp [fillParts]
              | cons segment segments =>
                  obtain ⟨bound, value⟩ := binding
                  have htail := @ih segments bindings
                  simp only [take?_param, names_cons_param, List.map_cons, fillParts,
                    List.cons_append, List.cons.injEq, List.forall_mem_cons]
                  split
                  · rename_i hempty
                    simp only [reduceCtorEq, false_iff]
                    rintro ⟨-, ⟨hvalue, -⟩, hsame, -⟩
                    exact hvalue (hsame ▸ hempty)
                  · rename_i hne
                    simp only [Option.map_eq_some_iff, Prod.mk.injEq, List.cons.injEq]
                    constructor
                    · rintro ⟨⟨found, left⟩, hfound, ⟨⟨rfl, rfl⟩, rfl⟩, rfl⟩
                      obtain ⟨hnames, hvalues, hsegments⟩ := htail.mp hfound
                      exact ⟨⟨rfl, hnames⟩, ⟨hne, hvalues⟩, rfl, hsegments⟩
                    · rintro ⟨⟨rfl, hnames⟩, ⟨-, hvalues⟩, rfl, hsegments⟩
                      exact ⟨(bindings, rest), htail.mpr ⟨hnames, hvalues, hsegments⟩,
                        ⟨⟨rfl, rfl⟩, rfl⟩, rfl⟩

/-- A pattern matches segments exactly if they begin with the pattern filled in, and nothing is
left of them unless leading segments are all that is asked for. -/
theorem match?_eq_some_iff :
    pattern.match? coverage segments = some params ↔
      params.names = pattern.names ∧ (∀ value ∈ params.values, value ≠ "") ∧
        ∃ rest, segments = fillParts pattern.parts params.values ++ rest ∧
          (coverage = .leading ∨ rest = []) := by
  have htake (rest : List String) := @take?_eq_some_iff pattern.parts segments rest params.bindings
  constructor
  · intro h
    rw [match?] at h
    split at h
    · rename_i bindings rest hfound
      split at h
      · rename_i hrest
        obtain rfl := Option.some.inj h
        obtain ⟨hnames, hvalues, hsegments⟩ := (htake rest).mp hfound
        exact ⟨hnames, hvalues, rest, hsegments, hrest⟩
      · cases h
    · cases h
  · rintro ⟨hnames, hvalues, rest, hsegments, hrest⟩
    have hfound := (htake rest).mpr ⟨hnames, hvalues, hsegments⟩
    rw [match?, hfound]
    exact if_pos hrest

/-- All segments are matched exactly if they are the pattern filled in. -/
theorem match?_full_eq_some_iff :
    pattern.match? .full segments = some params ↔
      params.names = pattern.names ∧ (∀ value ∈ params.values, value ≠ "") ∧
        segments = fillParts pattern.parts params.values := by
  rw [match?_eq_some_iff]
  simp

/-- Leading segments are matched exactly if they begin with segments that are matched. -/
theorem match?_leading_eq_some_iff :
    pattern.match? .leading segments = some params ↔
      ∃ front, front <+: segments ∧ pattern.match? .full front = some params := by
  rw [match?_eq_some_iff]
  simp only [match?_full_eq_some_iff, true_or, and_true]
  constructor
  · rintro ⟨hnames, hvalues, rest, rfl⟩
    exact ⟨_, List.prefix_append _ rest, hnames, hvalues, rfl⟩
  · rintro ⟨front, ⟨rest, rfl⟩, hnames, hvalues, rfl⟩
    exact ⟨hnames, hvalues, rest, rfl⟩

/-! ## Matching paths -/

theorem length_values (hnames : params.names = pattern.names) :
    params.values.length = (namesOf pattern.parts).length := by
  show (params.bindings.map Prod.snd).length = pattern.names.length
  rw [← hnames, Params.names, List.length_map, List.length_map]

/-- What is filled in is met in the path, and there it is a segment. -/
theorem isPlain_of_match? (h : pattern.match? coverage (Path.segments path) = some params)
    {segment : String} (hmem : segment ∈ fillParts pattern.parts params.values) :
    Path.isPlain segment = true := by
  obtain ⟨-, -, rest, hsegments, -⟩ := match?_eq_some_iff.mp h
  have hsegment : segment ∈ Path.segments path := by
    rw [hsegments]
    exact List.mem_append_left rest hmem
  exact Path.isPlain_iff.mpr fun c hc => Path.of_mem_segment hsegment hc

/-- A path has the segments of a pattern that is filled in exactly if it is spelt so. -/
theorem segments_eq_fillParts_iff (hpattern : pattern.WellFormed)
    (hlength : values.length = (namesOf pattern.parts).length)
    (hvalues : ∀ value ∈ values, value ≠ "" ∧ Path.isPlain value = true) :
    Path.segments path = fillParts pattern.parts values ↔
      Path.canonical path = pattern.fill values := by
  have hsegment : ∀ segment ∈ fillParts pattern.parts values,
      segment ≠ "" ∧ '/' ∉ segment.toList := by
    intro segment hmem
    rcases (mem_fillParts_iff hlength).mp hmem with hliteral | hvalue
    · exact ⟨hpattern.text_ne_empty _ hliteral, hpattern.slash_notMem _ hliteral⟩
    · obtain ⟨hne, hplain⟩ := hvalues segment hvalue
      exact ⟨hne, Path.slash_notMem_of_isPlain hplain⟩
  rw [fill, Path.canonical_eq_join_iff]
  · exact fun segment hmem => (hsegment segment hmem).2
  · intro hsingle
    exact (hsegment "" (by rw [hsingle]; exact List.mem_singleton_self _)).1 rfl

/-- Filled with plain values that are not empty, a pattern whose literals are plain is matched,
whatever it has to cover, and the values are bound. -/
theorem match?_fill (hpattern : pattern.WellFormed)
    (hliterals : ∀ text, .literal text ∈ pattern.parts → Path.isPlain text = true)
    (hlength : values.length = pattern.names.length)
    (hvalues : ∀ value ∈ values, value ≠ "" ∧ Path.isPlain value = true) :
    pattern.match? coverage (Path.segments (pattern.fill values)) =
      some ⟨pattern.names.zip values⟩ := by
  have hsegment : ∀ segment ∈ fillParts pattern.parts values,
      segment ≠ "" ∧ Path.isPlain segment = true := by
    intro segment hmem
    rcases (mem_fillParts_iff hlength).mp hmem with hliteral | hvalue
    · exact ⟨hpattern.text_ne_empty _ hliteral, hliterals segment hliteral⟩
    · exact hvalues segment hvalue
  have hjoinable : Path.Joinable (fillParts pattern.parts values) := .of_ne_empty hsegment
  have hbound : (pattern.names.zip values).map Prod.snd = values :=
    List.map_snd_zip (Nat.le_of_eq hlength)
  rw [fill, Path.segments_join hjoinable, match?_eq_some_iff]
  refine ⟨List.map_fst_zip (Nat.le_of_eq hlength.symm), ?_, [], ?_, .inr rfl⟩
  · rw [Params.values, hbound]
    exact fun value hvalue => (hvalues value hvalue).1
  · rw [Params.values, hbound, List.append_nil]

/-! ## Names and their values -/

/-- A parameter binds the segment in its place. -/
theorem exists_mem_bindings (hnames : bindings.map Prod.fst = namesOf parts) {i : Nat}
    (hpart : parts[i]? = some (.param name)) :
    ∃ value, (name, value) ∈ bindings ∧
      (fillParts parts (bindings.map Prod.snd))[i]? = some value := by
  induction parts generalizing bindings i with
  | nil => cases hpart
  | cons part parts ih =>
      cases part with
      | literal text =>
          cases i with
          | zero => cases hpart
          | succ i => exact ih hnames hpart
      | param first =>
          cases bindings with
          | nil => cases hnames
          | cons binding bindings =>
              obtain ⟨hfirst, hrest⟩ := List.cons.inj hnames
              cases i with
              | zero =>
                  obtain rfl : first = name := Part.param.inj (Option.some.inj hpart)
                  exact ⟨binding.2, by rw [← hfirst]; exact List.mem_cons_self, rfl⟩
              | succ i =>
                  obtain ⟨value, hmem, hplace⟩ := ih hrest hpart
                  exact ⟨value, List.mem_cons_of_mem binding hmem, hplace⟩

/-- Each name leads to the value in its place, among the values and among the segments. -/
theorem get?_of_match? (hpattern : pattern.WellFormed)
    (h : pattern.match? coverage segments = some params) :
    (∀ (i : Nat) (name : String), pattern.names[i]? = some name →
      ∃ value, params.values[i]? = some value ∧ params.get? name = some value) ∧
    (∀ (i : Nat) (name : String), pattern.parts[i]? = some (.param name) →
      ∃ value, segments[i]? = some value ∧ params.get? name = some value) ∧
    ∀ name, name ∉ pattern.names → params.get? name = none := by
  obtain ⟨hnames, -, rest, hsegments, -⟩ := match?_eq_some_iff.mp h
  have hnodup : params.names.Nodup := hnames ▸ hpattern.names_nodup
  refine ⟨?_, ?_, ?_⟩
  · intro i name hname
    rw [← hnames, Params.names, List.getElem?_map, Option.map_eq_some_iff] at hname
    obtain ⟨binding, hbinding, rfl⟩ := hname
    refine ⟨binding.2, ?_, Params.get?_of_mem hnodup (List.mem_of_getElem? hbinding)⟩
    rw [Params.values, List.getElem?_map, hbinding, Option.map_some]
  · intro i name hpart
    obtain ⟨value, hmem, hplace⟩ :
        ∃ value, (name, value) ∈ params.bindings ∧
          (fillParts pattern.parts params.values)[i]? = some value :=
      exists_mem_bindings hnames hpart
    refine ⟨value, ?_, Params.get?_of_mem hnodup hmem⟩
    -- The place is inside the part that is filled in.
    have hinside := (List.getElem?_eq_some_iff.mp hplace).1
    rw [hsegments, List.getElem?_append_left hinside, hplace]
  · intro name hname
    exact Params.get?_of_notMem (hnames ▸ hname)

/-- **Matching is the inverse of filling in.** A pattern matches all of a path with given
parameters exactly if these have the names of the pattern, in order, and plain values that are
not empty, and the path is spelt by filling the values in. It matches leading segments exactly if
it matches all of some front of them. And whatever it matches, each of its names leads to the
value in its own place, and no other name leads to any. -/
theorem match?_inverts_fill {source : String} (h : parse? source = .ok pattern) :
    (∀ path params, pattern.match? .full (Path.segments path) = some params ↔
      params.names = pattern.names ∧
      (∀ value ∈ params.values, value ≠ "" ∧ ∀ c ∈ value.toList, c ≠ '/' ∧ c ≠ '?' ∧ c ≠ '#') ∧
      Path.canonical path = pattern.fill params.values) ∧
    (∀ segments params, pattern.match? .leading segments = some params ↔
      ∃ front, front <+: segments ∧ pattern.match? .full front = some params) ∧
    ∀ coverage segments params, pattern.match? coverage segments = some params →
      (∀ (i : Nat) (name : String), pattern.names[i]? = some name →
        ∃ value, params.values[i]? = some value ∧ params.get? name = some value) ∧
      (∀ (i : Nat) (name : String), pattern.parts[i]? = some (.param name) →
        ∃ value, segments[i]? = some value ∧ params.get? name = some value) ∧
      ∀ name, name ∉ pattern.names → params.get? name = none := by
  have hpattern := wellFormed_of_parse? h
  simp only [← Path.isPlain_iff_ne]
  refine ⟨fun path params => ?_, fun segments params => match?_leading_eq_some_iff,
    fun coverage segments params => get?_of_match? hpattern⟩
  constructor
  · intro hmatch
    obtain ⟨hnames, hnonempty, hsegments⟩ := match?_full_eq_some_iff.mp hmatch
    have hvalues : ∀ value ∈ params.values, value ≠ "" ∧ Path.isPlain value = true := by
      intro value hvalue
      refine ⟨hnonempty value hvalue, isPlain_of_match? hmatch ?_⟩
      exact (mem_fillParts_iff (length_values hnames)).mpr (.inr hvalue)
    exact ⟨hnames, hvalues,
      (segments_eq_fillParts_iff hpattern (length_values hnames) hvalues).mp hsegments⟩
  · rintro ⟨hnames, hvalues, hspelt⟩
    refine match?_full_eq_some_iff.mpr ⟨hnames, fun value hvalue => (hvalues value hvalue).1, ?_⟩
    exact (segments_eq_fillParts_iff hpattern (length_values hnames) hvalues).mpr hspelt

/-- Two parameters, a blank in one of the values, and a path with a slash too many and a query. -/
theorem match?_inverts_fill_sample :
    let pattern : Pattern := ⟨[.literal "scenario", .param "id", .literal "run", .param "step"]⟩
    let params : Params := ⟨[("id", "a b"), ("step", "7")]⟩
    let path := "scenario/a b/run/7/?tab=/1"
    parse? "/scenario/:id/run/:step/" = .ok pattern ∧
      pattern.match? .full (Path.segments path) = some params ∧
      Path.canonical path = pattern.fill ["a b", "7"] ∧
      pattern.match? .leading ["scenario", "a b", "run", "7", ""] = some params ∧
      params.get? "step" = some "7" ∧ params.get? "run" = none := by
  intro pattern params path
  have hparse : parse? "/scenario/:id/run/:step/" = .ok pattern := by decide +kernel
  have hmatch : pattern.match? .full (Path.segments path) = some params := by decide +kernel
  obtain ⟨hfull, hleading, hnames⟩ := match?_inverts_fill hparse
  obtain ⟨hplaces, -, hother⟩ := hnames _ _ _ hmatch
  obtain ⟨step, hstep, hfound⟩ := hplaces 1 "step" rfl
  obtain rfl : "7" = step := Option.some.inj hstep
  refine ⟨hparse, hmatch, ((hfull path params).mp hmatch).2.2, ?_, hfound, hother "run" (by decide)⟩
  exact (hleading _ params).mpr ⟨["scenario", "a b", "run", "7"], by decide, by decide +kernel⟩

end Pattern

end ScenarioBrowser
