import ScenarioBrowser.Text.ClusterKind

/-!
# Grapheme clusters

What a reader takes for one character is often several: a letter with its accents, a
Hangul syllable spelt in jamo, a flag, a family of pictographs. Such a *cluster* is
drawn as a whole, so texts are cut into clusters before they are drawn.

The cut follows the extended grapheme clusters of the Unicode standard. Whether a
character joins the cluster before it depends on that cluster only through a few facts,
its *progress*: the kind of its last character, whether it ends like a picture that waits
for another, whether a flag is half done, and whether a consonant waits for its partner.

## Main results

* `flatten_clusters` — cutting loses nothing.
* `ne_nil_of_mem_clusters` — no cluster is empty.
-/

namespace ScenarioBrowser.Text

/-! ## Progress of a cluster -/

/-- A cluster that may go on to a second picture or a second consonant. -/
inductive Waiting where
  /-- It does not wait for anything. -/
  | nothing
  /-- It ends in a picture or a consonant, with extending characters after it. -/
  | begun
  /-- A joiner or a linker has been read as well. -/
  | joined
deriving DecidableEq, Repr

/-- The facts about a cluster that decide what joins it. -/
structure ClusterProgress where
  /-- The kind of the last character. -/
  last : ClusterKind
  /-- Progress towards a second picture. -/
  picture : Waiting
  /-- Progress towards a second consonant. -/
  consonant : Waiting
  /-- True if a flag is half done. -/
  halfFlag : Bool
deriving DecidableEq, Repr

namespace ClusterProgress

/-- Progress towards a second picture, one character on. -/
def nextPicture (waiting : Waiting) (c : Char) (kind : ClusterKind) : Waiting :=
  if isPictograph c then .begun
  else match waiting, kind with
    | .begun, .extend => .begun
    | .begun, .joiner => .joined
    | _, _ => .nothing

/-- Progress towards a second consonant, one character on. The non-joiner ends it. -/
def nextConsonant (waiting : Waiting) (c : Char) (kind : ClusterKind) : Waiting :=
  if isConsonant c then .begun
  else if waiting = .nothing then .nothing
  else if isLinker c then .joined
  else match kind with
    | .extend => if c = nonJoinerChar then .nothing else waiting
    | .joiner => waiting
    | _ => .nothing

/-- The progress of a cluster of one character. -/
def start (c : Char) : ClusterProgress :=
  let kind := ClusterKind.of c
  ⟨kind, nextPicture .nothing c kind, nextConsonant .nothing c kind, kind = .regional⟩

/-- The progress of a cluster with one more character. -/
def next (progress : ClusterProgress) (c : Char) : ClusterProgress :=
  let kind := ClusterKind.of c
  ⟨kind, nextPicture progress.picture c kind, nextConsonant progress.consonant c kind,
    kind = .regional && !progress.halfFlag⟩

/-- True if a character joins the cluster. -/
def admits (progress : ClusterProgress) (c : Char) : Bool :=
  match progress.last, ClusterKind.of c with
  | .carriageReturn, .lineFeed => true
  | .carriageReturn, _ | .lineFeed, _ | .control, _ => false
  | _, .carriageReturn | _, .lineFeed | _, .control => false
  | _, .extend | _, .joiner | _, .spacing => true
  | .opener, _ => true
  | .leadingJamo, .leadingJamo | .leadingJamo, .vowelJamo
  | .leadingJamo, .openSyllable | .leadingJamo, .closedSyllable => true
  | .openSyllable, .vowelJamo | .openSyllable, .trailingJamo => true
  | .vowelJamo, .vowelJamo | .vowelJamo, .trailingJamo => true
  | .closedSyllable, .trailingJamo | .trailingJamo, .trailingJamo => true
  | .regional, .regional => progress.halfFlag
  | _, _ =>
    (progress.picture = .joined && isPictograph c)
      || (progress.consonant = .joined && isConsonant c)

end ClusterProgress

/-! ## Cutting a text -/

/-- Cuts what follows a cluster; `current` is that cluster, its last character first. -/
def clustersFrom (progress : ClusterProgress) (current : List Char) : List Char → List (List Char)
  | [] => [current.reverse]
  | c :: rest =>
    if progress.admits c then clustersFrom (progress.next c) (c :: current) rest
    else current.reverse :: clustersFrom (.start c) [c] rest

/-- The grapheme clusters of a text. -/
def clusters : List Char → List (List Char)
  | [] => []
  | c :: rest => clustersFrom (.start c) [c] rest

theorem flatten_clustersFrom (progress : ClusterProgress) (current rest : List Char) :
    (clustersFrom progress current rest).flatten = current.reverse ++ rest := by
  induction rest generalizing progress current with
  | nil => simp [clustersFrom]
  | cons c rest ih =>
    rw [clustersFrom]
    split
    · rw [ih]; simp
    · rw [List.flatten_cons, ih]; simp

/-- Cutting loses nothing. -/
@[simp] theorem flatten_clusters (text : List Char) : (clusters text).flatten = text := by
  cases text with
  | nil => rfl
  | cons c rest => rw [clusters, flatten_clustersFrom]; simp

theorem ne_nil_of_mem_clustersFrom {progress : ClusterProgress} {current rest cluster : List Char}
    (hcurrent : current ≠ []) (h : cluster ∈ clustersFrom progress current rest) :
    cluster ≠ [] := by
  induction rest generalizing progress current with
  | nil =>
    rw [clustersFrom, List.mem_singleton] at h
    rw [h]; simpa using hcurrent
  | cons c rest ih =>
    rw [clustersFrom] at h
    split at h
    · exact ih (by simp) h
    · rcases List.mem_cons.mp h with rfl | h
      · simpa using hcurrent
      · exact ih (by simp) h

/-- No cluster is empty. -/
theorem ne_nil_of_mem_clusters {text cluster : List Char} (h : cluster ∈ clusters text) :
    cluster ≠ [] := by
  cases text with
  | nil => simp [clusters] at h
  | cons c rest => exact ne_nil_of_mem_clustersFrom (by simp) h

end ScenarioBrowser.Text
