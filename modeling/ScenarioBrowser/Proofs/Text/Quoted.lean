import Mathlib.Data.List.Basic
import ScenarioBrowser.Text.Quoted

/-!
# A quoted text can be read back

Two texts that look the same between quotes are the same. The reason is that no way of writing
one character begins another one: a character either stands for itself, and then it is no
backslash, or what is behind the backslash tells which kind of escape it is. A code point could
run into the character behind it, but its digits end at a closing brace, and no digit is one.

So from the front, a text comes off character by character, and in only one way.

## Main results

* `ofHexDigits_hexDigits` — the digits of a number can be read back.
* `quoteChar_append_inj` — the first character comes off in one way.
* `quote_injective`, `quoteOption_injective` — what is quoted alike is the same.
-/

namespace ScenarioBrowser.Text

variable {c d : Char} {rest other : List Char}

/-! ## Digits -/

theorem hexDigits_of_lt {n : Nat} (h : n < 16) : hexDigits n = [n.digitChar] :=
  Nat.toDigits_of_lt_base h

/-- The last digit stands behind the digits of what is left. -/
theorem hexDigits_of_le {n : Nat} (h : 16 ≤ n) :
    hexDigits n = hexDigits (n / 16) ++ [(n % 16).digitChar] := by
  have hif : hexDigits n =
      if n < 16 then [n.digitChar] else hexDigits (n / 16) ++ [(n % 16).digitChar] :=
    Nat.toDigits_eq_if (by decide)
  rw [hif, if_neg (Nat.not_lt.mpr h)]

/-- The value of a digit in base sixteen. -/
def hexValue (c : Char) : Nat := if c ≤ '9' then c.toNat - '0'.toNat else c.toNat - 'a'.toNat + 10

/-- The number that some digits in base sixteen stand for. -/
def ofHexDigits (digits : List Char) : Nat := digits.foldl (fun n c => 16 * n + hexValue c) 0

private theorem hexValue_digitChar : ∀ n < 16, hexValue n.digitChar = n := by decide

private theorem digitChar_ne_brace : ∀ n < 16, n.digitChar ≠ '\x7d' := by decide

theorem ofHexDigits_hexDigits (n : Nat) : ofHexDigits (hexDigits n) = n := by
  induction n using Nat.strongRecOn with
  | ind n ih =>
      rcases Nat.lt_or_ge n 16 with hlt | hle
      · rw [hexDigits_of_lt hlt, ofHexDigits, List.foldl_cons, List.foldl_nil,
          hexValue_digitChar n hlt, Nat.mul_zero, Nat.zero_add]
      · have hfront : ofHexDigits (hexDigits (n / 16)) = n / 16 := ih (n / 16) (by omega)
        rw [ofHexDigits] at hfront
        rw [hexDigits_of_le hle, ofHexDigits, List.foldl_append, hfront, List.foldl_cons,
          List.foldl_nil, hexValue_digitChar _ (Nat.mod_lt n (by decide)), Nat.div_add_mod]

theorem hexDigits_injective : Function.Injective hexDigits :=
  Function.LeftInverse.injective ofHexDigits_hexDigits

theorem brace_notMem_hexDigits (n : Nat) : '\x7d' ∉ hexDigits n := by
  induction n using Nat.strongRecOn with
  | ind n ih =>
      rcases Nat.lt_or_ge n 16 with hlt | hle
      · rw [hexDigits_of_lt hlt, List.mem_singleton]
        exact (digitChar_ne_brace n hlt).symm
      · rw [hexDigits_of_le hle, List.mem_append, List.mem_singleton, not_or]
        exact ⟨ih (n / 16) (by omega),
          (digitChar_ne_brace (n % 16) (Nat.mod_lt n (by decide))).symm⟩

/-! ## Characters -/

/-- The characters that are written as a letter behind a backslash, with this letter. -/
private def letters : List (Char × Char) :=
  [('\x00', '0'), ('\t', 't'), ('\r', 'r'), ('\n', 'n'), ('"', '"'), ('\\', '\\')]

private theorem letters_inj :
    ∀ one ∈ letters, ∀ another ∈ letters, one.2 = another.2 → one.1 = another.1 := by
  decide

private theorem letters_ne_u : ∀ one ∈ letters, one.2 ≠ 'u' := by decide

/-- The ways to write a character. -/
private inductive Written (c : Char) : List Char → Prop where
  | plain (hne : c ≠ '\\') : Written c [c]
  | letter {letter : Char} (hmem : (c, letter) ∈ letters) : Written c ['\\', letter]
  | codePoint : Written c ('\\' :: 'u' :: '\x7b' :: (hexDigits c.toNat ++ ['\x7d']))

private theorem written_quoteChar (c : Char) : Written c (quoteChar c) := by
  unfold quoteChar
  split_ifs with hnull htab hreturn hline hquote hslash hhidden
  · exact hnull ▸ .letter (by decide)
  · exact htab ▸ .letter (by decide)
  · exact hreturn ▸ .letter (by decide)
  · exact hline ▸ .letter (by decide)
  · exact hquote ▸ .letter (by decide)
  · exact hslash ▸ .letter (by decide)
  · exact .codePoint
  · exact .plain hslash

/-- Nothing without a brace can stand between a brace and the same brace. -/
private theorem eq_nil_of_brace {more : List Char} (hmore : '\x7d' ∉ more)
    (h : '\x7d' :: rest = more ++ '\x7d' :: other) : more = [] ∧ rest = other := by
  cases more with
  | nil => exact ⟨rfl, (List.cons.inj h).2⟩
  | cons c more =>
      obtain ⟨rfl, -⟩ := List.cons.inj h
      exact absurd List.mem_cons_self hmore

/-- Texts without a brace end where the first brace stands. -/
private theorem append_brace_inj {front first : List Char} (hfront : '\x7d' ∉ front)
    (hfirst : '\x7d' ∉ first) (h : front ++ '\x7d' :: rest = first ++ '\x7d' :: other) :
    front = first ∧ rest = other := by
  obtain ⟨more, rfl, hmore⟩ | ⟨more, rfl, hmore⟩ := List.append_eq_append_iff.mp h
  · obtain ⟨rfl, hrest⟩ := eq_nil_of_brace (fun hmem => hfirst (List.mem_append_right _ hmem)) hmore
    exact ⟨(List.append_nil front).symm, hrest⟩
  · obtain ⟨rfl, hrest⟩ := eq_nil_of_brace (fun hmem => hfront (List.mem_append_right _ hmem)) hmore
    exact ⟨List.append_nil first, hrest.symm⟩

/-- What begins with a character, in one of the ways to write it, begins with no other one. -/
private theorem Written.append_inj {first second : List Char} (hc : Written c first)
    (hd : Written d second) (h : first ++ rest = second ++ other) : c = d ∧ rest = other := by
  cases hc with
  | plain hne =>
      cases hd with
      | plain _ => exact List.cons.inj h
      | letter _ => exact absurd (List.cons.inj h).1 hne
      | codePoint => exact absurd (List.cons.inj h).1 hne
  | letter hmem =>
      cases hd with
      | plain hne => exact absurd (List.cons.inj h).1.symm hne
      | letter hmem' =>
          obtain ⟨hletter, hrest⟩ := List.cons.inj (List.cons.inj h).2
          exact ⟨letters_inj _ hmem _ hmem' hletter, hrest⟩
      | codePoint => exact absurd (List.cons.inj (List.cons.inj h).2).1 (letters_ne_u _ hmem)
  | codePoint =>
      cases hd with
      | plain hne => exact absurd (List.cons.inj h).1.symm hne
      | letter hmem =>
          exact absurd (List.cons.inj (List.cons.inj h).2).1.symm (letters_ne_u _ hmem)
      | codePoint =>
          simp only [List.cons_append, List.append_assoc, List.nil_append, List.cons.injEq,
            true_and] at h
          obtain ⟨hdigits, hrest⟩ :=
            append_brace_inj (brace_notMem_hexDigits c.toNat) (brace_notMem_hexDigits d.toNat) h
          exact ⟨Char.toNat_inj.mp (hexDigits_injective hdigits), hrest⟩

/-- The first character comes off in one way. -/
theorem quoteChar_append_inj (h : quoteChar c ++ rest = quoteChar d ++ other) :
    c = d ∧ rest = other :=
  (written_quoteChar c).append_inj (written_quoteChar d) h

theorem quoteChar_ne_nil (c : Char) : quoteChar c ≠ [] := by
  intro h
  cases h ▸ written_quoteChar c

/-! ## Texts -/

theorem flatMap_quoteChar_injective :
    Function.Injective fun chars : List Char => chars.flatMap quoteChar := by
  intro chars
  induction chars with
  | nil =>
      rintro (_ | ⟨d, others⟩) h
      · rfl
      · exact absurd (List.append_eq_nil_iff.mp h.symm).1 (quoteChar_ne_nil d)
  | cons c chars ih =>
      rintro (_ | ⟨d, others⟩) h
      · exact absurd (List.append_eq_nil_iff.mp h).1 (quoteChar_ne_nil c)
      · obtain ⟨rfl, hrest⟩ := quoteChar_append_inj h
        rw [ih hrest]

theorem quote_injective : Function.Injective quote := by
  intro text other h
  have hchars := (List.append_left_inj _).mp (String.ofList_inj.mp h)
  exact String.toList_inj.mp (flatMap_quoteChar_injective (List.cons.inj hchars).2)

/-- A value that may be missing is told by how it is quoted, and so is that it is missing. -/
theorem quoteOption_injective : Function.Injective quoteOption := by
  have hsome (text : String) : quoteOption (some text) ≠ quoteOption none := by
    intro h
    have hlists := congrArg String.toList h
    simp [quoteOption] at hlists
  rintro (_ | text) (_ | other) h
  · rfl
  · exact absurd h.symm (hsome other)
  · exact absurd h (hsome text)
  · rw [quote_injective ((String.append_right_inj _).mp ((String.append_left_inj _).mp h))]

end ScenarioBrowser.Text
