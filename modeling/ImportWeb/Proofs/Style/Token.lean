import ImportWeb.Proofs.Text.Word
import ImportWeb.Style

/-!
Module tokens. Whatever rule finds a token, it stands on the line as it is, with something in it and
without blanks at its ends.
-/

namespace ImportWeb

namespace Text

variable {s text word : List Char}

/-- There is something in a text, and no blanks stand at its ends. -/
structure IsTrimmed (text : List Char) : Prop where
  ne_nil : text ≠ []
  first : ∀ c ∈ text.head?, isBlank c = false
  last : ∀ c ∈ text.getLast?, isBlank c = false

theorem isTrimmed_of_unbroken (hne : text ≠ []) (h : ∀ c ∈ text, isBlank c = false) :
    IsTrimmed text where
  ne_nil := hne
  first c hc := h c (List.mem_of_mem_head? hc)
  last c hc := h c (List.mem_of_mem_getLast? hc)

theorem prefix_trimEnd (s : List Char) : trimEnd s <+: s := by
  have h := List.dropWhile_suffix isBlank (l := s.reverse)
  rwa [← List.reverse_prefix, List.reverse_reverse] at h

theorem infix_trim (s : List Char) : trim s <:+: s :=
  (prefix_trimEnd _).isInfix.trans (List.dropWhile_suffix isBlank).isInfix

theorem isTrimmed_trim (hne : trim s ≠ []) : IsTrimmed (trim s) where
  ne_nil := hne
  first c hc := by
    have hstart : (trimStart s).head? = some c := by
      obtain ⟨rest, hrest⟩ := prefix_trimEnd (trimStart s)
      have hc : (trimEnd (trimStart s)).head? = some c := hc
      rw [← hrest, List.head?_append, hc]
      rfl
    have hfirst := List.head?_dropWhile_not isBlank s
    rw [← trimStart, hstart] at hfirst
    exact hfirst
  last c hc := by
    have hlast := List.head?_dropWhile_not isBlank (trimStart s).reverse
    rw [Option.mem_def, trim, trimEnd, List.getLast?_reverse] at hc
    rw [hc] at hlast
    exact hlast

/-- There is nothing to be trimmed. -/
theorem IsTrimmed.trim_eq (h : IsTrimmed text) : trim text = text := by
  have hstay : ∀ s : List Char, (∀ c ∈ s.head?, isBlank c = false) → s.dropWhile isBlank = s := by
    rintro (_ | ⟨c, s⟩) hs
    · rfl
    · rw [List.dropWhile_cons_of_neg (by simp [hs c rfl])]
  rw [trim, trimStart, hstay text h.first, trimEnd, hstay, List.reverse_reverse]
  intro c hc
  rw [List.head?_reverse] at hc
  exact h.last c hc

/-- A word is a run of characters that are not blank. -/
theorem unbroken_of_mem_wordsFrom (start : List Char) (hstart : ∀ c ∈ start, isBlank c = false)
    (h : word ∈ wordsFrom start s) :
    word ≠ [] ∧ (∀ c ∈ word, isBlank c = false) ∧ word <:+: start.reverse ++ s := by
  induction s generalizing start with
  | nil =>
    rw [wordsFrom] at h
    split at h
    · cases h
    · rename_i hne
      obtain rfl := List.mem_singleton.1 h
      exact ⟨by simpa using hne, by simpa using hstart, List.infix_append' [] _ _⟩
  | cons c rest ih =>
    have hskip : ∀ before : List Char, word <:+: [] ++ rest → word <:+: before ++ c :: rest :=
      fun before hword =>
        hword.trans (List.suffix_append_of_suffix (List.suffix_cons c rest)).isInfix
    rw [wordsFrom] at h
    split at h
    case isTrue =>
      split at h
      case isTrue =>
        obtain ⟨hne, hunbroken, hword⟩ := ih [] (by simp) h
        exact ⟨hne, hunbroken, hskip _ hword⟩
      case isFalse hne =>
        rcases List.mem_cons.1 h with rfl | h
        · exact ⟨by simpa using hne, by simpa using hstart, List.infix_append' [] _ _⟩
        · obtain ⟨hne, hunbroken, hword⟩ := ih [] (by simp) h
          exact ⟨hne, hunbroken, hskip _ hword⟩
    case isFalse hc =>
      have hmore : ∀ d ∈ c :: start, isBlank d = false :=
        List.forall_mem_cons.2 ⟨by simpa using hc, hstart⟩
      simpa using ih (c :: start) hmore h

theorem unbroken_of_mem_words (h : word ∈ words s) :
    word ≠ [] ∧ (∀ c ∈ word, isBlank c = false) ∧ word <:+: s :=
  unbroken_of_mem_wordsFrom [] (by simp) h

theorem infix_joinWith {sep piece : List Char} {pieces : List (List Char)} (h : piece ∈ pieces) :
    piece <:+: joinWith sep pieces := by
  induction pieces with
  | nil => cases h
  | cons first rest ih =>
    cases rest with
    | nil =>
      obtain rfl := List.mem_singleton.1 h
      exact List.infix_rfl
    | cons next rest =>
      change piece <:+: first ++ sep ++ joinWith sep (next :: rest)
      rcases List.mem_cons.1 h with rfl | h
      · exact (List.prefix_append_of_prefix (List.prefix_append ..)).isInfix
      · exact (ih h).trans (List.suffix_append ..).isInfix

/-- The pieces of a text stand in it. -/
theorem infix_of_mem_splitAtChar {sep : Char} {piece : List Char} (h : piece ∈ splitAtChar sep s) :
    piece <:+: s := by
  rw [← joinWith_splitAtChar sep s]
  exact infix_joinWith h

theorem suffix_of_dropPrefix? {start rest : List Char} (h : dropPrefix? start s = some rest) :
    rest <:+ s := by
  unfold dropPrefix? at h
  split at h
  · exact Option.some.inj h ▸ List.drop_suffix ..
  · cases h

/-- A text that stands on a line as it is. -/
structure StandsOn (line text : List Char) : Prop extends IsTrimmed text where
  within : text <:+: line

theorem standsOn_of_mem_words {line : List Char} (hs : s <:+: line) (h : word ∈ words s) :
    StandsOn line word := by
  obtain ⟨hne, hunbroken, hword⟩ := unbroken_of_mem_words h
  exact ⟨isTrimmed_of_unbroken hne hunbroken, hword.trans hs⟩

end Text

open Text

namespace Python

variable {line token : List Char}

theorem infix_importBody (line : List Char) : importBody line <:+: line := by
  have hcode : before '#' line <:+: line := (List.takeWhile_prefix _).isInfix
  rw [importBody]
  cases hrest : dropPrefix? "import".toList (trimStart (before '#' line)) with
  | none => exact hcode
  | some rest =>
    have hstart : trimStart (before '#' line) <:+: before '#' line :=
      (List.dropWhile_suffix _).isInfix
    exact (suffix_of_dropPrefix? hrest).isInfix.trans (hstart.trans hcode)

theorem standsOn_of_mem_importTokens (h : token ∈ importTokens line) : StandsOn line token := by
  obtain ⟨item, hitem, hword⟩ := List.mem_filterMap.1 h
  exact standsOn_of_mem_words ((infix_of_mem_splitAtChar hitem).trans (infix_importBody line))
    (List.mem_of_mem_head? hword)

theorem standsOn_of_mem_fromTokens (h : token ∈ fromTokens line) : StandsOn line token := by
  rw [fromTokens, Option.mem_toList] at h
  exact standsOn_of_mem_words (List.takeWhile_prefix _).isInfix (List.mem_of_getElem? h)

end Python

namespace Style

theorem standsOn_of_mem_captureTokens {p : Pattern} {line token : List Char}
    (h : token ∈ captureTokens p line) : StandsOn line token := by
  rw [captureTokens, List.mem_filter, Option.mem_toList, Option.map_eq_some_iff] at h
  obtain ⟨⟨text, htext, rfl⟩, hne⟩ := h
  have hwithin : text <:+: line := by
    simp only [Pattern.captured?, Option.bind_eq_bind, Option.bind_eq_some_iff] at htext
    obtain ⟨marks, -, opened, -, closed, -, heq⟩ := htext
    rw [← Option.some.inj heq]
    exact (List.take_prefix ..).isInfix.trans (List.drop_suffix ..).isInfix
  exact ⟨isTrimmed_trim (by simpa using hne), (infix_trim text).trans hwithin⟩

/-- A token of a line stands on it. -/
theorem standsOn_of_mem_tokens {s : Style} {line token : String} (h : token ∈ s.tokens line) :
    StandsOn line.toList token.toList := by
  obtain ⟨text, htext, rfl⟩ := List.mem_map.1 h
  rw [String.toList_ofList]
  split at htext
  · exact Python.standsOn_of_mem_importTokens htext
  · exact Python.standsOn_of_mem_fromTokens htext
  · exact standsOn_of_mem_captureTokens htext

end Style

end ImportWeb
