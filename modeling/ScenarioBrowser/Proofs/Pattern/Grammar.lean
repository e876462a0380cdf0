import ScenarioBrowser.Proofs.Path.Joined
import ScenarioBrowser.Proofs.Pattern.Reading
import ScenarioBrowser.Table

/-!
# The grammar of patterns

A text is read as a pattern piece by piece, and the first piece that is of no use ends the reading.
Said without an order, the texts that are read are a grammar: without the slashes around it the text
is empty, or its pieces are not empty, none is a colon and nothing else, and no two begin with a
colon and go on alike. Said with the order, the first piece that is in the way decides on the error.
It can be in the way by itself, or by its name, which a piece before it has taken already.

The two say the same, because what is read stays read: a list of pieces that is not readable has a
longest beginning that is, and the piece behind this beginning is the one in the way. So it is
enough to say what reading does with either.

Nothing is lost on the way. Each piece is one part, and a part keeps the text of its piece, so
writing the parts back gives the text without the slashes around it. This text is all that reading
looks at, and therefore a pattern is read again from what it is shown as.

## Main results

* `readable_or_offence` — pieces are readable, or there is a first one in the way.
* `readParts_of_readable`, `readParts_of_offence` — what reading does with either.
* `map_text_partOf` — what is read is written back.
* `parse?_reads_grammar` — which texts are read, as what, and why the others are not.
-/

namespace ScenarioBrowser.Pattern

open ScenarioBrowser.Text

variable {seen taken before after texts : List String} {piece name source other : String}
  {raw : List Char} {rest : List (List Char)} {part : Part} {defect : PatternDefect}
  {pattern : Pattern}

/-! ## Pieces -/

/-- A text without the slashes around it. -/
def stripped (source : String) : String := String.ofList (dropEndsWhile isSlash source.toList)

/-- The pieces of a text between the slashes that do not stand around it. If nothing else is left,
there are none. -/
def pieces (source : String) : List String := Path.pieces (stripped source).toList

/-- The name that a piece binds: what stands behind its colon, if it begins with one. -/
def nameOf? (piece : String) : Option String :=
  match piece.toList with
  | ':' :: name => some (String.ofList name)
  | _ => none

/-- One text is another one without all the slashes around it. -/
structure Strips (source kept : String) : Prop where
  around : ∃ before after : List Char, source.toList = before ++ kept.toList ++ after ∧
    ∀ c ∈ before ++ after, c = '/'
  first : kept.toList.head? ≠ some '/'
  last : kept.toList.getLast? ≠ some '/'

/-- The names that some pieces bind, in order. -/
def namesIn (pieces : List String) : List String := pieces.filterMap nameOf?

/-- The part that a piece stands for. -/
def partOf (piece : String) : Part :=
  match nameOf? piece with
  | some name => .param name
  | none => .literal piece

@[simp] theorem toList_stripped (source : String) :
    (stripped source).toList = dropEndsWhile isSlash source.toList := by
  simp [stripped]

theorem strips_stripped (source : String) : Strips source (stripped source) where
  around := by
    obtain ⟨before, after, hsource, haround⟩ := exists_append_dropEndsWhile isSlash source.toList
    refine ⟨before, after, ?_, ?_⟩
    · rw [toList_stripped]
      exact hsource
    · intro c hc
      simpa [isSlash] using haround c hc
  first := by
    intro hfirst
    rw [toList_stripped] at hfirst
    exact absurd (of_mem_head?_dropEndsWhile hfirst) (by decide)
  last := by
    intro hlast
    rw [toList_stripped] at hlast
    exact absurd (of_mem_getLast?_dropEndsWhile hlast) (by decide)

theorem slash_notMem_of_mem_pieces (h : piece ∈ pieces source) : '/' ∉ piece.toList := by
  have hne : (stripped source).toList ≠ [] := by
    intro hnil
    rw [pieces, hnil] at h
    cases h
  rw [pieces, Path.pieces_of_ne_nil hne] at h
  obtain ⟨raw, hraw, rfl⟩ := List.mem_map.mp h
  intro hslash
  rw [String.toList_ofList] at hslash
  exact (Path.of_mem_splitOn hraw hslash).2 rfl

/-- The pieces that begin with a colon are those with a name behind it. -/
theorem nameOf?_eq_some_iff : nameOf? piece = some name ↔ piece = ":" ++ name := by
  rw [← String.toList_inj, String.toList_append]
  unfold nameOf?
  split
  · rename_i rest hpiece
    rw [hpiece, Option.some.injEq, ← String.toList_inj, String.toList_ofList]
    simp
  · rename_i hother
    simp only [reduceCtorEq, false_iff]
    intro hpiece
    exact hother _ hpiece

theorem mem_namesIn_iff : name ∈ namesIn texts ↔ ":" ++ name ∈ texts := by
  simp [namesIn, List.mem_filterMap, nameOf?_eq_some_iff]

theorem namesIn_append (before after : List String) :
    namesIn (before ++ after) = namesIn before ++ namesIn after :=
  List.filterMap_append

/-- A part is written as its piece. -/
theorem text_partOf (piece : String) : (partOf piece).text = piece := by
  unfold partOf
  cases hname : nameOf? piece with
  | none => rfl
  | some name => exact (nameOf?_eq_some_iff.mp hname).symm

/-- What is read is written back. -/
theorem map_text_partOf (texts : List String) : (texts.map partOf).map Part.text = texts := by
  rw [List.map_map]
  exact List.map_id'' text_partOf texts

/-- Parts bind the names of their pieces. -/
theorem namesOf_map_partOf (texts : List String) : namesOf (texts.map partOf) = namesIn texts := by
  rw [namesOf, namesIn, List.filterMap_map]
  refine List.filterMap_congr fun piece _ => ?_
  unfold Function.comp partOf
  cases nameOf? piece <;> rfl

/-! ## Readable pieces -/

/-- The grammar of patterns: no piece is empty or a colon and nothing else, and the names that the
pieces bind are different. -/
structure Readable (texts : List String) : Prop where
  nonempty : ∀ piece ∈ texts, piece ≠ ""
  named : ∀ piece ∈ texts, piece ≠ ":"
  distinct : (namesIn texts).Nodup

/-- What is wrong with a piece where some names are taken. -/
inductive Offence (taken : List String) : String → PatternDefect → Prop where
  /-- There is nothing between two slashes. -/
  | empty : Offence taken "" .emptySegment
  /-- There is no name behind the colon. -/
  | nameless : Offence taken ":" .namelessParam
  /-- The name is taken. -/
  | repeated {name : String} (hne : name ≠ "") (htaken : name ∈ taken) :
      Offence taken (":" ++ name) (.repeatedParam name)

/-- The first piece that is in the way, and what is wrong with it. -/
def FirstOffence (texts : List String) (defect : PatternDefect) : Prop :=
  ∃ before piece after, texts = before ++ piece :: after ∧ Readable before ∧
    Offence (namesIn before) piece defect

theorem readable_nil : Readable [] := ⟨nofun, nofun, List.nodup_nil⟩

/-- A single piece can only be in the way by itself. -/
theorem readable_singleton_iff : Readable [piece] ↔ piece ≠ "" ∧ piece ≠ ":" := by
  constructor
  · intro h
    exact ⟨h.nonempty piece List.mem_cons_self, h.named piece List.mem_cons_self⟩
  · rintro ⟨hempty, hcolon⟩
    refine ⟨by simpa using hempty, by simpa using hcolon, ?_⟩
    unfold namesIn
    cases hname : nameOf? piece <;> simp [hname]

/-- Pieces behind others are readable exactly if both are, and no name is bound by both. -/
theorem readable_append_iff :
    Readable (before ++ after) ↔
      Readable before ∧ Readable after ∧ (namesIn before).Disjoint (namesIn after) := by
  constructor
  · intro h
    have hempty := List.forall_mem_append.mp h.nonempty
    have hcolon := List.forall_mem_append.mp h.named
    have hdistinct := h.distinct
    rw [namesIn_append, List.nodup_append'] at hdistinct
    exact ⟨⟨hempty.1, hcolon.1, hdistinct.1⟩, ⟨hempty.2, hcolon.2, hdistinct.2.1⟩, hdistinct.2.2⟩
  · rintro ⟨hbefore, hafter, hfree⟩
    refine ⟨List.forall_mem_append.mpr ⟨hbefore.nonempty, hafter.nonempty⟩,
      List.forall_mem_append.mpr ⟨hbefore.named, hafter.named⟩, ?_⟩
    rw [namesIn_append, List.nodup_append']
    exact ⟨hbefore.distinct, hafter.distinct, hfree⟩

/-- A piece is in the way, or it can be put behind readable ones. -/
theorem Readable.append_or_offence (h : Readable before) (piece : String) :
    Readable (before ++ [piece]) ∨ ∃ defect, Offence (namesIn before) piece defect := by
  by_cases hempty : piece = ""
  · subst hempty
    exact .inr ⟨_, .empty⟩
  by_cases hcolon : piece = ":"
  · subst hcolon
    exact .inr ⟨_, .nameless⟩
  by_cases htaken : ∃ name ∈ namesIn before, piece = ":" ++ name
  · obtain ⟨name, hmem, rfl⟩ := htaken
    have hne : name ≠ "" := by
      rintro rfl
      exact hcolon rfl
    exact .inr ⟨_, .repeated hne hmem⟩
  · left
    rw [readable_append_iff, readable_singleton_iff]
    refine ⟨h, ⟨hempty, hcolon⟩, ?_⟩
    intro name hmem hagain
    exact htaken ⟨name, hmem, (List.mem_singleton.mp (mem_namesIn_iff.mp hagain)).symm⟩

/-- Pieces are readable, or there is a first one in the way. -/
theorem readable_or_offence (texts : List String) :
    Readable texts ∨ ∃ defect, FirstOffence texts defect := by
  induction texts using List.reverseRecOn with
  | nil => exact .inl readable_nil
  | append_singleton texts piece ih =>
      rcases ih with hreadable | ⟨defect, before, first, after, rfl, hbefore, hoffence⟩
      · obtain hmore | ⟨defect, hoffence⟩ := hreadable.append_or_offence piece
        · exact .inl hmore
        · exact .inr ⟨defect, texts, piece, [], rfl, hreadable, hoffence⟩
      · refine .inr ⟨defect, before, first, after ++ [piece], ?_, hbefore, hoffence⟩
        rw [List.append_assoc, List.cons_append]

/-! ## What reading does with them -/

/-- A piece that is not in the way by itself can be read. -/
theorem ofText?_toList (hempty : piece ≠ "") (hcolon : piece ≠ ":") :
    Part.ofText? piece.toList = .ok (partOf piece) := by
  rw [← String.toList_inj.ne] at hempty hcolon
  unfold Part.ofText? partOf nameOf?
  split
  · contradiction
  · contradiction
  · rename_i hname
    rw [hname]
    rfl
  · rename_i hother
    rw [String.ofList_toList]
    split
    · rename_i hname
      split at hname <;> simp_all
    · rfl

/-- A text is read by its pieces. -/
theorem parse?_eq_readParts (source : String) :
    parse? source = Pattern.mk <$> readParts [] ((pieces source).map String.toList) := by
  unfold parse? pieces
  rw [toList_stripped]
  by_cases hnil : dropEndsWhile isSlash source.toList = []
  · rw [hnil]
    rfl
  · rw [Path.pieces_of_ne_nil hnil, List.map_map]
    simp [hnil, Function.comp_def]

/-- Readable pieces whose names are not taken are read, each as its part. -/
theorem readParts_of_readable (h : Readable texts) (hfree : (namesIn texts).Disjoint seen) :
    readParts seen (texts.map String.toList) = .ok (texts.map partOf) := by
  rw [readParts_eq_ok_iff, namesOf_map_partOf]
  refine ⟨?_, h.distinct, hfree⟩
  rw [List.forall₂_map_left_iff, List.forall₂_map_right_iff, List.forall₂_same]
  exact fun piece hpiece => ofText?_toList (h.nonempty piece hpiece) (h.named piece hpiece)

/-- Behind a part whose name is not taken, reading goes on, and the name is taken then. -/
theorem readParts_cons_of_ok (hpart : Part.ofText? raw = .ok part)
    (hnew : ∀ name ∈ namesOf [part], name ∉ seen) :
    readParts seen (raw :: rest) =
      (part :: ·) <$> readParts (namesOf [part] ++ seen) rest := by
  rw [readParts, hpart]
  cases part with
  | literal text => rfl
  | param name =>
      have hfree : name ∉ seen := hnew name List.mem_cons_self
      simp only [bind, Except.bind, if_neg hfree]
      rfl

/-- A piece in the way ends the reading. -/
theorem readParts_cons_of_offence (h : Offence seen piece defect) :
    readParts seen (piece.toList :: rest) = .error defect := by
  cases h with
  | empty => rfl
  | nameless => rfl
  | @repeated name hne htaken =>
      have hcolon : ":" ++ name ≠ ":" := by
        intro hsame
        rw [← String.toList_inj, String.toList_append] at hsame
        exact hne (String.toList_eq_nil_iff.mp (List.append_right_eq_self.mp hsame))
      have hpart : Part.ofText? (":" ++ name).toList = .ok (.param name) := by
        rw [ofText?_toList (by simp) hcolon, partOf, nameOf?_eq_some_iff.mpr rfl]
      rw [readParts, hpart]
      simp only [bind, Except.bind, if_pos htaken]
      rfl

/-- More names that are taken do not clear the way. -/
theorem Offence.mono (h : Offence seen piece defect) (hsub : seen ⊆ taken) :
    Offence taken piece defect := by
  cases h with
  | empty => exact .empty
  | nameless => exact .nameless
  | repeated hne htaken => exact .repeated hne (hsub htaken)

/-- The first piece in the way ends the reading. -/
theorem readParts_of_offence (hbefore : Readable before)
    (hfree : (namesIn before).Disjoint seen)
    (hoffence : Offence (namesIn before ++ seen) piece defect) :
    readParts seen ((before ++ piece :: after).map String.toList) = .error defect := by
  induction before generalizing seen with
  | nil => exact readParts_cons_of_offence hoffence
  | cons first before ih =>
      have hnames := namesIn_append [first] before
      rw [List.singleton_append] at hnames
      rw [← List.singleton_append, readable_append_iff, readable_singleton_iff] at hbefore
      obtain ⟨⟨hempty, hcolon⟩, hbefore, hdistinct⟩ := hbefore
      rw [hnames, List.disjoint_append_left] at hfree
      have hfirst : namesOf [partOf first] = namesIn [first] := namesOf_map_partOf [first]
      -- The first piece hands its name over to those that are taken.
      have hlater : readParts (namesOf [partOf first] ++ seen)
          ((before ++ piece :: after).map String.toList) = .error defect := by
        refine ih hbefore ?_ (hoffence.mono ?_)
        · rw [hfirst, List.disjoint_append_right]
          exact ⟨List.disjoint_symm hdistinct, hfree.2⟩
        · rw [hfirst, hnames]
          simp
      rw [List.cons_append, List.map_cons, readParts_cons_of_ok (ofText?_toList hempty hcolon),
        hlater]
      · rfl
      · rw [hfirst]
        exact hfree.1

/-! ## Reading a text -/

theorem parse?_of_readable (h : Readable (pieces source)) :
    parse? source = .ok ⟨(pieces source).map partOf⟩ := by
  rw [parse?_eq_readParts, readParts_of_readable h (List.disjoint_nil_right _)]
  rfl

theorem parse?_of_offence (h : FirstOffence (pieces source) defect) :
    parse? source = .error defect := by
  obtain ⟨before, piece, after, hpieces, hbefore, hoffence⟩ := h
  have hread : readParts [] ((pieces source).map String.toList) = .error defect := by
    rw [hpieces]
    refine readParts_of_offence hbefore (List.disjoint_nil_right _) ?_
    rwa [List.append_nil]
  rw [parse?_eq_readParts, hread]
  rfl

/-- The texts that are read are those with readable pieces, and each piece is one part. -/
theorem parse?_eq_ok_iff :
    parse? source = .ok pattern ↔
      Readable (pieces source) ∧ pattern = ⟨(pieces source).map partOf⟩ := by
  constructor
  · intro h
    rcases readable_or_offence (pieces source) with hreadable | ⟨defect, hfirst⟩
    · exact ⟨hreadable, Except.ok.inj (h.symm.trans (parse?_of_readable hreadable))⟩
    · rw [parse?_of_offence hfirst] at h
      cases h
  · rintro ⟨hreadable, rfl⟩
    exact parse?_of_readable hreadable

/-- The error is decided by the first piece in the way. -/
theorem parse?_eq_error_iff :
    parse? source = .error defect ↔ FirstOffence (pieces source) defect := by
  constructor
  · intro h
    rcases readable_or_offence (pieces source) with hreadable | ⟨other, hfirst⟩
    · rw [parse?_of_readable hreadable] at h
      cases h
    · obtain rfl := Except.error.inj ((parse?_of_offence hfirst).symm.trans h)
      exact hfirst
  · exact parse?_of_offence

/-! ## Writing a text -/

/-- Joining the pieces of a text gives all of it but the slashes around it. -/
theorem intercalate_pieces (source : String) :
    "/".intercalate (pieces source) = stripped source := by
  have hjoined : (Path.join (pieces source)).toList = '/' :: (stripped source).toList :=
    Path.toList_join_pieces _
  rw [← String.toList_inj]
  simpa [Path.join] using hjoined

/-- There are no pieces exactly if there is nothing but slashes. -/
theorem pieces_eq_nil_iff : pieces source = [] ↔ stripped source = "" := by
  rw [pieces, Path.pieces_eq_nil_iff, String.toList_eq_nil_iff]

/-- Slashes in front of a text, and around it, are all the same. -/
theorem stripped_slash_append_stripped (source : String) :
    stripped ("/" ++ stripped source) = stripped source := by
  rw [← String.toList_inj, toList_stripped, String.toList_append, toList_stripped]
  show dropEndsWhile isSlash ('/' :: dropEndsWhile isSlash source.toList) = _
  rw [dropEndsWhile_cons_of_pos rfl, dropEndsWhile_dropEndsWhile]

theorem stripped_stripped (source : String) : stripped (stripped source) = stripped source := by
  rw [← String.toList_inj, toList_stripped, toList_stripped, dropEndsWhile_dropEndsWhile]

/-- Only what stands between the slashes around it matters to the reading of a text. -/
theorem parse?_congr (h : stripped source = stripped other) : parse? source = parse? other := by
  rw [parse?_eq_readParts, parse?_eq_readParts, pieces, pieces, h]

theorem parts_of_parse? (h : parse? source = .ok pattern) :
    pattern.parts = (pieces source).map partOf := by
  obtain ⟨-, hpattern⟩ := parse?_eq_ok_iff.mp h
  rw [hpattern]

theorem map_text_of_parse? (h : parse? source = .ok pattern) :
    pattern.parts.map Part.text = pieces source := by
  rw [parts_of_parse? h, map_text_partOf]

/-- A pattern has the text that it was read from, without the slashes around it. -/
theorem text_of_parse? (h : parse? source = .ok pattern) : pattern.text = stripped source := by
  rw [text, map_text_of_parse? h, intercalate_pieces]

theorem names_of_parse? (h : parse? source = .ok pattern) :
    pattern.names = namesIn (pieces source) := by
  rw [names, parts_of_parse? h, namesOf_map_partOf]

theorem isEmpty_iff_of_parse? (h : parse? source = .ok pattern) :
    pattern.isEmpty = true ↔ stripped source = "" := by
  rw [isEmpty, List.isEmpty_iff, parts_of_parse? h, List.map_eq_nil_iff, pieces_eq_nil_iff]

/-- The error that a declaration is rejected with holds the text as it was declared. -/
theorem pattern?_of_parse?_eq_error {H : Type} (declaration : Declaration H)
    (h : parse? declaration.pattern = .error defect) :
    declaration.pattern? = .error (.invalidPattern declaration.pattern defect) := by
  rw [Declaration.pattern?, h]

/-- **Reading accepts exactly the texts of its grammar and loses nothing.** The grammar is about a
text without the slashes around it and about its pieces, which have no slash in them and are this
text if they are joined. The first piece in the way decides on the error, and a declaration is
rejected with this error and the text as it was declared. A text that is read is kept but for the
slashes around it, its parts are its pieces, it is read again from what it is shown as, and two
such texts are one pattern exactly if they are the same between the slashes. -/
theorem parse?_reads_grammar (source : String) :
    Strips source (stripped source) ∧ "/".intercalate (pieces source) = stripped source ∧
    (∀ piece ∈ pieces source, '/' ∉ piece.toList) ∧ (pieces source = [] ↔ stripped source = "") ∧
    ((∃ pattern, parse? source = .ok pattern) ↔ Readable (pieces source)) ∧
    (∀ defect, parse? source = .error defect ↔ FirstOffence (pieces source) defect) ∧
    (∀ (H : Type) (declaration : Declaration H) (defect : PatternDefect),
      declaration.pattern = source → parse? source = .error defect →
        declaration.pattern? = .error (.invalidPattern source defect)) ∧
    ∀ pattern, parse? source = .ok pattern →
      pattern.text = stripped source ∧ pattern.shown = "/" ++ stripped source ∧
      pattern.names = namesIn (pieces source) ∧
      (pattern.isEmpty = true ↔ stripped source = "") ∧
      pattern.parts.map Part.text = pieces source ∧
      "/".intercalate (pattern.parts.map Part.text) = stripped source ∧
      parse? pattern.shown = .ok pattern ∧ parse? pattern.text = .ok pattern ∧
      ∀ other second, parse? other = .ok second →
        (pattern = second ↔ stripped source = stripped other) := by
  refine ⟨strips_stripped source, intercalate_pieces source,
    fun _ => slash_notMem_of_mem_pieces, pieces_eq_nil_iff, ?_,
    fun defect => parse?_eq_error_iff, ?_, ?_⟩
  · constructor
    · rintro ⟨pattern, h⟩
      exact (parse?_eq_ok_iff.mp h).1
    · intro hreadable
      exact ⟨_, parse?_of_readable hreadable⟩
  · rintro H declaration defect rfl h
    exact pattern?_of_parse?_eq_error declaration h
  intro pattern h
  have htext : pattern.text = stripped source := text_of_parse? h
  have hparts : pattern.parts.map Part.text = pieces source := map_text_of_parse? h
  have hshown : pattern.shown = "/" ++ stripped source := by rw [shown, htext]
  refine ⟨htext, hshown, names_of_parse? h, isEmpty_iff_of_parse? h, hparts, htext, ?_, ?_, ?_⟩
  · rw [hshown, parse?_congr (stripped_slash_append_stripped source), h]
  · rw [htext, parse?_congr (stripped_stripped source), h]
  · intro other second hother
    constructor
    · rintro rfl
      rw [← htext, text_of_parse? hother]
    · intro hsame
      rw [parse?_congr hsame, hother] at h
      exact (Except.ok.inj h).symm

/-- Names may hold colons, and one that is bound twice is in the way before an empty piece is. -/
theorem parse?_reads_grammar_sample :
    (∃ pattern, parse? "//:a:b/x/::/" = .ok pattern ∧
      pattern.parts = [.param "a:b", .literal "x", .param ":"] ∧ pattern.text = ":a:b/x/::" ∧
      parse? pattern.shown = .ok pattern) ∧
    FirstOffence (pieces "a/:x/b/:x//c") (.repeatedParam "x") ∧
    (Declaration.route "a/:x/b/:x//c" ()).pattern? =
      .error (.invalidPattern "a/:x/b/:x//c" (.repeatedParam "x")) := by
  obtain ⟨-, -, -, -, -, -, -, hread⟩ := parse?_reads_grammar "//:a:b/x/::/"
  obtain ⟨-, -, -, -, -, hfirst, hrejected, -⟩ := parse?_reads_grammar "a/:x/b/:x//c"
  have hpattern : parse? "//:a:b/x/::/" =
      .ok ⟨[.param "a:b", .literal "x", .param ":"]⟩ := by decide +kernel
  have herror : parse? "a/:x/b/:x//c" = .error (.repeatedParam "x") := by decide +kernel
  obtain ⟨htext, -, -, -, -, -, hshown, -⟩ := hread _ hpattern
  refine ⟨⟨_, hpattern, rfl, ?_, hshown⟩, (hfirst _).mp herror,
    hrejected Unit (Declaration.route "a/:x/b/:x//c" ()) _ rfl herror⟩
  rw [htext]
  decide +kernel

end ScenarioBrowser.Pattern
