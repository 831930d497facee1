import ImportWeb.Proofs.Json.Mark
import ImportWeb.Proofs.Render.ScriptData

/-!
The page's inline script. No graph closes it early. It ends at the page's own closing tag unless a
label or an identifier starts a comment and one has a script tag: the closing tag then only ends
the double escape, and the script goes on to the end of the page.
-/

namespace ImportWeb.Render

open Json

variable {w t : List Char} {c : Char}

/-! ### The marks that a tokenizer looks for -/

theorem mark_closing : Mark "</".toList := ⟨⟨['/'], rfl⟩, by simp [breaks]⟩

theorem mark_comment : Mark "<!--".toList := ⟨⟨['!', '-', '-'], rfl⟩, by simp [breaks]⟩

theorem eq_less_of_toLower (h : c.toLower = '<') : c = '<' := by
  unfold Char.toLower at h
  split at h
  case isTrue hupper =>
    obtain ⟨hlow, hhigh⟩ := hupper
    have hlow' : 65 ≤ c.val.toNat := hlow
    have hhigh' : c.val.toNat ≤ 90 := hhigh
    have hval : c.val + ('a'.val - 'A'.val) = '<'.val := congrArg Char.val h
    have hnat := congrArg UInt32.toNat hval
    rw [UInt32.toNat_add] at hnat
    change (c.val.toNat + 32) % 2 ^ 32 = 60 at hnat
    omega
  case isFalse => exact h

/-- A script tag is a mark in whatever case its letters are. -/
theorem mark_of_lower (h : ScriptData.State.lower w = "<script".toList) : Mark w := by
  constructor
  case less =>
    cases w with
    | nil => cases h
    | cons d w =>
      obtain ⟨hd, -⟩ := List.cons.inj h
      exact ⟨w, by rw [eq_less_of_toLower hd]⟩
  case unbroken =>
    intro d hd hmem
    have hlower : d.toLower ∈ "<script".toList := h ▸ List.mem_map_of_mem hmem
    have hnone : ∀ d ∈ breaks, d.toLower ∉ "<script".toList := by simp [breaks]
    exact hnone d hd hlower

theorem exists_infix_of_tagged (h : ScriptData.State.Tagged t) :
    ∃ w, w <:+: t ∧ ScriptData.State.lower w = "<script".toList := by
  obtain ⟨before, after, h⟩ := h
  obtain ⟨x, z, rfl, hx, -⟩ := List.map_eq_append_iff.1 h.symm
  obtain ⟨y, w, rfl, -, hw⟩ := List.map_eq_append_iff.1 hx
  exact ⟨w, ⟨y, z, rfl⟩, hw⟩

/-! ### Guarded text -/

namespace Page

theorem prefix_of_prefix_guard (hw : '\\' ∉ w) (h : w <+: guard t) : w <+: t := by
  fun_induction guard t generalizing w with
  | case1 rest ih =>
    rcases w with _ | ⟨c, _ | ⟨d, w⟩⟩
    · exact List.nil_prefix
    · obtain ⟨rfl, -⟩ := List.cons_prefix_cons.1 h
      exact List.prefix_append ['<'] ('/' :: rest)
    · obtain ⟨rfl, -⟩ := List.cons_prefix_cons.1 (List.cons_prefix_cons.1 h).2
      exact absurd (by simp) hw
  | case2 c rest hne ih =>
    cases w with
    | nil => exact List.nil_prefix
    | cons d w =>
      obtain ⟨rfl, hrest⟩ := List.cons_prefix_cons.1 h
      exact List.cons_prefix_cons.2 ⟨rfl, ih (fun hmem => hw (List.mem_cons_of_mem _ hmem)) hrest⟩
  | case3 => exact h

/-- The guard makes no marks. -/
theorem infix_of_infix_guard (hw : Mark w) (h : w <:+: guard t) : w <:+: t := by
  have hslash : '\\' ∉ w := hw.unbroken '\\' (by decide)
  fun_induction guard t with
  | case1 rest ih =>
    rcases hw.infix_append (a := ['<']) (by decide) h with h | h
    · exact h.trans (List.prefix_append ['<'] ('/' :: rest)).isInfix
    · have hrest := hw.infix_of_cons (by decide) (hw.infix_of_cons (by decide) h)
      exact (ih hrest).trans (List.suffix_append ['<', '/'] rest).isInfix
  | case2 c rest hne ih =>
    rcases List.infix_cons_iff.1 h with h | h
    · have hguard : c :: guard rest = guard (c :: rest) := by rw [guard]; exact hne
      exact (prefix_of_prefix_guard hslash (hguard ▸ h)).isInfix
    · exact (ih h).trans (List.suffix_cons c rest).isInfix
  | case3 => exact h

/-- Nothing in guarded text closes a tag. -/
theorem not_closed_guard (t : List Char) : ¬ "</".toList <:+: guard t := by
  intro h
  fun_induction guard t with
  | case1 rest ih =>
    rcases mark_closing.infix_append (a := ['<']) (by decide) h with h | h
    · exact absurd h (by decide)
    · exact ih (mark_closing.infix_of_cons (by decide) (mark_closing.infix_of_cons (by decide) h))
  | case2 c rest hne ih =>
    rcases List.infix_cons_iff.1 h with h | h
    · obtain ⟨rfl, hslash⟩ := List.cons_prefix_cons.1 (show '<' :: ['/'] <+: c :: guard rest from h)
      obtain ⟨rest, rfl⟩ := prefix_of_prefix_guard (by decide) hslash
      exact hne rest rfl rfl
    · exact ih h
  | case3 => exact absurd h (by decide)

end Page

/-! ### Marks in the data -/

/-- The texts of a graph: the identifiers and labels of its nodes, and the ends of its edges. -/
def texts (l : Listing) : List String :=
  l.nodes.flatMap (fun n => [n.id, n.label]) ++ l.edges.flatMap fun e => [e.source, e.target]

theorem mem_textsOfItems {text : String} {items : List Json} (h : text ∈ textsOfItems items) :
    ∃ j ∈ items, text ∈ j.texts := by
  induction items with
  | nil => cases h
  | cons j rest ih =>
    rcases List.mem_append.1 h with h | h
    · exact ⟨j, List.mem_cons_self, h⟩
    · obtain ⟨k, hk, h⟩ := ih h
      exact ⟨k, List.mem_cons_of_mem _ hk, h⟩

namespace Page

/-- What a title adds to a label has no marks. -/
theorem infix_of_title (hw : Mark w) {n : ListedNode} (h : w <:+: (title n).toList) :
    w <:+: n.label.toList := by
  unfold title at h
  cases hlines : n.lines with
  | none =>
    rw [hlines, String.toList_append] at h
    rcases hw.infix_append (by decide) h with h | h
    · exact h
    · exact absurd h (hw.not_infix (by decide))
  | some lines =>
    have hsuffix : '<' ∉ " (".toList ++ (Text.decimal lines ++ " lines)".toList) := by
      simp [less_not_mem_decimal]
    rw [hlines] at h
    simp only [String.toList_append, String.toList_ofList, List.append_assoc] at h
    rcases hw.infix_append (by decide) h with h | h
    · exact h
    · exact absurd h (hw.not_infix hsuffix)

theorem infix_of_nodeJson (hw : Mark w) {n : ListedNode} {text : String}
    (htext : text ∈ (nodeJson n).texts) (h : w <:+: text.toList) :
    w <:+: n.id.toList ∨ w <:+: n.label.toList := by
  have hcases : text = "id" ∨ text = n.id ∨ text = "label" ∨ text = n.label ∨ text = "shape" ∨
      text = n.shape.name ∨ text = "size" ∨ text = "title" ∨ text = title n := by
    simpa [nodeJson, Json.texts, textsOfFields] using htext
  rcases hcases with rfl | rfl | rfl | rfl | rfl | rfl | rfl | rfl | rfl
  · exact absurd h (hw.not_infix (by decide))
  · exact .inl h
  · exact absurd h (hw.not_infix (by decide))
  · exact .inr h
  · exact absurd h (hw.not_infix (by decide))
  · cases hshape : n.shape <;> rw [hshape] at h <;> exact absurd h (hw.not_infix (by decide))
  · exact absurd h (hw.not_infix (by decide))
  · exact absurd h (hw.not_infix (by decide))
  · exact .inr (infix_of_title hw h)

theorem infix_of_edgeJson (hw : Mark w) {e : ListedEdge} {text : String}
    (htext : text ∈ (edgeJson e).texts) (h : w <:+: text.toList) :
    w <:+: e.source.toList ∨ w <:+: e.target.toList := by
  have hcases : text = "from" ∨ text = e.source ∨ text = "to" ∨ text = e.target ∨
      text = "value" := by
    simpa [edgeJson, Json.texts, textsOfFields] using htext
  rcases hcases with rfl | rfl | rfl | rfl | rfl
  · exact absurd h (hw.not_infix (by decide))
  · exact .inl h
  · exact absurd h (hw.not_infix (by decide))
  · exact .inr h
  · exact absurd h (hw.not_infix (by decide))

theorem less_not_mem_optionsJson (p : Physics) :
    ∀ text ∈ (optionsJson p).texts, '<' ∉ text.toList := by
  have htexts : (optionsJson p).texts = ["edges", "arrows", "to", "enabled", "physics",
    "repulsion", "centralGravity", "damping", "nodeDistance", "springConstant", "springLength",
    "solver", "repulsion"] := rfl
  rw [htexts]
  decide +kernel

theorem infix_of_script (hw : Mark w) {l : Listing} {p : Physics} (h : w <:+: script l p) :
    w <:+: scriptText (.array (l.nodes.map nodeJson)) ∨
      w <:+: scriptText (.array (l.edges.map edgeJson)) ∨ w <:+: scriptText (optionsJson p) := by
  unfold script at h
  simp only [List.append_assoc] at h
  replace h := hw.infix_of_append (by decide +kernel) h
  rcases hw.infix_append (by decide) h with h | h
  · exact .inl h
  replace h := hw.infix_of_append (a := edgesOpen) (by decide +kernel) h
  rcases hw.infix_append (by decide) h with h | h
  · exact .inr (.inl h)
  replace h := hw.infix_of_append (a := optionsOpen) (by decide +kernel) h
  rcases hw.infix_append (by decide) h with h | h
  · exact .inr (.inr h)
  · exact absurd h (hw.not_infix (by decide +kernel))

theorem exists_text_of_script (hw : Mark w) {l : Listing} {p : Physics} (h : w <:+: script l p) :
    ∃ text ∈ texts l, w <:+: text.toList := by
  rcases infix_of_script hw h with h | h | h
  · obtain ⟨text, htext, h⟩ := hw.infix_of_compact _ (infix_of_infix_guard hw h)
    obtain ⟨j, hj, htext⟩ := mem_textsOfItems htext
    obtain ⟨n, hn, rfl⟩ := List.mem_map.1 hj
    have hmem : n.id ∈ texts l ∧ n.label ∈ texts l := by
      constructor <;> exact List.mem_append_left _ (List.mem_flatMap.2 ⟨n, hn, by simp⟩)
    rcases infix_of_nodeJson hw htext h with h | h
    · exact ⟨n.id, hmem.1, h⟩
    · exact ⟨n.label, hmem.2, h⟩
  · obtain ⟨text, htext, h⟩ := hw.infix_of_compact _ (infix_of_infix_guard hw h)
    obtain ⟨j, hj, htext⟩ := mem_textsOfItems htext
    obtain ⟨e, he, rfl⟩ := List.mem_map.1 hj
    have hmem : e.source ∈ texts l ∧ e.target ∈ texts l := by
      constructor <;> exact List.mem_append_right _ (List.mem_flatMap.2 ⟨e, he, by simp⟩)
    rcases infix_of_edgeJson hw htext h with h | h
    · exact ⟨e.source, hmem.1, h⟩
    · exact ⟨e.target, hmem.2, h⟩
  · obtain ⟨text, htext, h⟩ := hw.infix_of_compact _ (infix_of_infix_guard hw h)
    exact absurd h (hw.not_infix (less_not_mem_optionsJson p text htext))

theorem not_closed_script (l : Listing) (p : Physics) : ¬ ScriptData.State.Closed (script l p) := by
  intro h
  rcases infix_of_script mark_closing h with h | h | h
  · exact not_closed_guard _ h
  · exact not_closed_guard _ h
  · exact not_closed_guard _ h

open ScriptData.State

/-- At the script's end the tokenizer is in one of three states. -/
theorem run_script (l : Listing) (p : Physics) :
    run data (script l p) = data ∨ run data (script l p) = escaped ∨
      run data (script l p) = doubled ∧ (∃ text ∈ texts l, Commented text.toList) ∧
        ∃ text ∈ texts l, Tagged text.toList := by
  obtain ⟨inner, hinner⟩ : ∃ inner, script l p = inner ++ ['\n'] := ⟨_, rfl⟩
  have hwithin : inner <:+: script l p := hinner ▸ (List.prefix_append inner ['\n']).isInfix
  have hclosed : ¬ Closed inner := fun h => not_closed_script l p (h.trans hwithin)
  rw [hinner]
  rcases run_newline hclosed with h | h | ⟨h, hcomment, htag⟩
  · exact .inl h
  · exact .inr (.inl h)
  · refine .inr (.inr ⟨h, exists_text_of_script mark_comment (hcomment.trans hwithin), ?_⟩)
    obtain ⟨w, hw, hlower⟩ := exists_infix_of_tagged htag
    obtain ⟨text, htext, hw⟩ := exists_text_of_script (mark_of_lower hlower) (hw.trans hwithin)
    refine ⟨text, htext, ?_⟩
    rw [Tagged, ← hlower]
    exact hw.map Char.toLower

/-- No graph closes the script early, and its own closing tag closes it unless it is double escaped
before that, for which one text of the graph has to start a comment and one has to have a script
tag; then nothing on the page closes it. -/
theorem script_closes (l : Listing) (p : Physics) :
    render l p = head ++ script l p ++ foot ∧ "<script>".toList <:+ head ∧
    "</script>".toList <+: foot ∧
    (∀ t, t <+: script l p ++ "</script".toList → run data t ≠ left) ∧
    (run data (script l p ++ "</script>".toList) = left ↔ run data (script l p) ≠ doubled) ∧
    (run data (script l p) = doubled → run data (script l p ++ foot) ≠ left ∧
      (∃ text ∈ texts l, Commented text.toList) ∧ ∃ text ∈ texts l, Tagged text.toList) := by
  refine ⟨rfl, List.suffix_append _ _, List.prefix_append _ _, ?_, ?_, ?_⟩
  · rintro t ⟨more, ht⟩ hleft
    have hwhole : run data (script l p ++ "</script".toList) = left := by
      rw [← ht, run_append, hleft, run_left]
    rw [run_append] at hwhole
    rcases run_script l p with h | h | ⟨h, -⟩ <;> rw [h] at hwhole <;> cases hwhole
  · rw [run_append]
    rcases run_script l p with h | h | ⟨h, -⟩ <;> rw [h] <;> decide +kernel
  · intro hdoubled
    rw [run_append, hdoubled]
    rcases run_script l p with h | h | ⟨-, hcomment, htag⟩
    · rw [hdoubled] at h
      cases h
    · rw [hdoubled] at h
      cases h
    · exact ⟨by decide +kernel, hcomment, htag⟩

/-- The name of one file can have both. -/
theorem script_closes_doubled :
    let l : Listing := ⟨[⟨"<!--<script>", "<!--<script>", 5, .dot, false, some 0⟩], []⟩
    run data (script l .default) = doubled ∧ ∃ text ∈ texts l, Tagged text.toList := by
  have hdoubled : run data (script ⟨[⟨"<!--<script>", "<!--<script>", 5, .dot, false, some 0⟩], []⟩
      .default) = doubled := by decide +kernel
  exact ⟨hdoubled, ((script_closes _ _).2.2.2.2.2 hdoubled).2.2⟩

/-- A graph with one file, named so that the page's own closing tag does not close the script. -/
theorem script_open :
    let l : Listing := ⟨[⟨"<!--<script>.py", "<!--<script>.py", 5, .dot, false, some 0⟩], []⟩
    run data (script l .default ++ foot) ≠ left := by
  decide +kernel

end Page

end ImportWeb.Render
