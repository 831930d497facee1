import ImportWeb.Proofs.Graph.Identifier
import ImportWeb.Proofs.Render.Mermaid.Entity

/-!
The lines of a flowchart: a header, a line for each node and a line for each edge whose ends are
both listed. The escaper leaves line breaks as they are, so a label that has some is written on several
lines.
-/

namespace ImportWeb.Render.Mermaid

open Text

/-- A node's line. -/
def nodeText (i : Nat) (n : ListedNode) : List Char :=
  "    n".toList ++ decimal i ++ (if n.external then '\x7b' else '[') :: '"' ::
    (escape n.label.toList ++ ['"', if n.external then '\x7d' else ']'])

/-- An edge's line. -/
def edgeText (e : Nat × Nat × Nat) : List Char :=
  "    n".toList ++ decimal e.1 ++
    (if e.2.2 > 1 then " -->|".toList ++ decimal e.2.2 ++ "| n".toList else " --> n".toList) ++
    decimal e.2.1

def edgeTexts (l : Listing) : List (List Char) :=
  l.edges.filterMap fun e => do
    return edgeText (← l.lastIndex? e.source, ← l.lastIndex? e.target, e.count)

variable {c : Char} {s t w : List Char} {e : Nat × Nat × Nat}

theorem nodeLine_eq (i : Nat) (n : ListedNode) : nodeLine i n = nodeText i n ++ ['\n'] := by
  unfold nodeLine nodeText
  cases n.external <;> simp

theorem edgeLine_eq : edgeLine = fun e => edgeText e ++ ['\n'] := rfl

theorem nodeLines_eq (i : Nat) (nodes : List ListedNode) :
    nodeLines i nodes = (nodes.zipIdx i).flatMap fun p => nodeText p.2 p.1 ++ ['\n'] := by
  induction nodes generalizing i with
  | nil => rfl
  | cons n nodes ih => rw [nodeLines, ih, nodeLine_eq, List.zipIdx_cons, List.flatMap_cons]

theorem edgeTexts_eq (l : Listing) : edgeTexts l = l.joined.map edgeText := by
  rw [edgeTexts, Listing.joined_eq, List.map_filterMap]
  congr 1
  funext e
  cases l.lastIndex? e.source <;> cases l.lastIndex? e.target <;> rfl

theorem render_eq (l : Listing) :
    render l = "flowchart LR".toList ++ '\n' ::
      (l.nodes.zipIdx.flatMap (fun p => nodeText p.2 p.1 ++ ['\n']) ++
        l.joined.flatMap fun e => edgeText e ++ ['\n']) := by
  have hheader (s t : List Char) : "flowchart LR\n".toList ++ s ++ t =
      "flowchart LR".toList ++ '\n' :: (s ++ t) := by
    rw [List.append_assoc]
    rfl
  rw [← nodeLines_eq, ← edgeLine_eq]
  exact hheader _ _

/-- A character of an edge's line. -/
theorem mem_edgeText (h : c ∈ edgeText e) : c.isDigit = true ∨ c ∈ " n-->|".toList := by
  have hdecimal {n : Nat} (h : c ∈ decimal n) : c.isDigit = true ∨ c ∈ " n-->|".toList :=
    .inl (isDigit_of_mem_decimal h)
  have hconst {s : List Char} (hs : ∀ c ∈ s, c ∈ " n-->|".toList) (h : c ∈ s) :
      c.isDigit = true ∨ c ∈ " n-->|".toList := .inr (hs c h)
  unfold edgeText at h
  rcases List.mem_append.1 h with h | h
  · rcases List.mem_append.1 h with h | h
    · rcases List.mem_append.1 h with h | h
      · exact hconst (by simp) h
      · exact hdecimal h
    · split at h
      · rcases List.mem_append.1 h with h | h
        · rcases List.mem_append.1 h with h | h
          · exact hconst (by simp) h
          · exact hdecimal h
        · exact hconst (by simp) h
      · exact hconst (by simp) h
  · exact hdecimal h

theorem not_mem_edgeText (hdigit : c.isDigit = false) (hconst : c ∉ " n-->|".toList)
    (e : Nat × Nat × Nat) : c ∉ edgeText e := by
  intro h
  rcases mem_edgeText h with h | h
  · rw [hdigit] at h
    cases h
  · exact hconst h

theorem splitAtChar_edgeTexts (es : List (Nat × Nat × Nat)) :
    splitAtChar '\n' (es.flatMap fun e => edgeText e ++ ['\n']) = es.map edgeText ++ [[]] := by
  have hedge (e : Nat × Nat × Nat) : splitAtChar '\n' (edgeText e) = [edgeText e] :=
    splitAtChar_of_not_mem (not_mem_edgeText (by decide) (by decide) e)
  have hall := splitAtChar_flatMap '\n' edgeText es []
  simpa only [hedge, List.append_nil, ← List.map_eq_flatMap, splitAtChar_nil] using hall

/-- A label with line breaks is written on several lines; all other lines are whole. -/
theorem splitAtChar_render (l : Listing) :
    splitAtChar '\n' (render l) = "flowchart LR".toList ::
      (l.nodes.zipIdx.flatMap fun p => splitAtChar '\n' (nodeText p.2 p.1)) ++
      edgeTexts l ++ [[]] := by
  rw [render_eq, splitAtChar_append (by decide), splitAtChar_flatMap '\n', splitAtChar_edgeTexts,
    edgeTexts_eq]
  simp only [List.cons_append, List.append_assoc]

theorem mem_escape_of_mem (h : c ∈ s) (hc : ∀ e ∈ entities, e.2 ≠ c) : c ∈ escape s := by
  refine List.mem_flatMap.2 ⟨c, h, ?_⟩
  rcases escapeChar_cases c with ⟨e, he, hec, -⟩ | ⟨-, hchar⟩
  · exact absurd hec (hc e he)
  · rw [hchar]
    exact List.mem_singleton_self c

/-- Only escaped characters of a label are missing from it, and only entities are new. -/
theorem mem_escape (h : c ∈ escape s) :
    (∃ e ∈ entities, c ∈ e.1) ∨ c ∈ s ∧ ∀ e ∈ entities, e.2 ≠ c := by
  obtain ⟨d, hd, hc⟩ := List.mem_flatMap.1 h
  rcases escapeChar_cases d with ⟨e, he, -, hchar⟩ | ⟨hother, hchar⟩
  · exact .inl ⟨e, he, hchar ▸ hc⟩
  · rw [hchar, List.mem_singleton] at hc
    subst hc
    exact .inr ⟨hd, hother⟩

theorem newline_mem_escape : '\n' ∈ escape s ↔ '\n' ∈ s := by
  constructor
  · intro h
    rcases mem_escape h with ⟨e, he, hmem⟩ | ⟨hmem, -⟩
    · exact absurd hmem ((by decide : ∀ e ∈ entities, '\n' ∉ e.1) e he)
    · exact hmem
  · intro h
    exact mem_escape_of_mem h (by decide)

theorem quote_not_mem_escape (s : List Char) : '"' ∉ escape s := by
  intro h
  rcases mem_escape h with ⟨e, he, hmem⟩ | ⟨-, hother⟩
  · exact absurd hmem ((by decide : ∀ e ∈ entities, '"' ∉ e.1) e he)
  · exact hother ("&quot;".toList, '"') (by decide) rfl

/-- A node is written on one line exactly when its label has no line break. -/
theorem newline_mem_nodeText (i : Nat) (n : ListedNode) :
    '\n' ∈ nodeText i n ↔ '\n' ∈ n.label.toList := by
  have hdecimal : '\n' ∉ decimal i := not_mem_decimal (by decide) i
  unfold nodeText
  cases n.external <;> simp [hdecimal, newline_mem_escape]

theorem splitAtChar_render_iff (l : Listing) :
    splitAtChar '\n' (render l) = "flowchart LR".toList ::
        (l.nodes.zipIdx.map fun p => nodeText p.2 p.1) ++ edgeTexts l ++ [[]] ↔
      ∀ n ∈ l.nodes, '\n' ∉ n.label.toList := by
  constructor
  · intro h n hn
    obtain ⟨i, hi⟩ : ∃ i, (n, i) ∈ l.nodes.zipIdx := by
      obtain ⟨i, hi, hni⟩ := List.mem_iff_getElem.1 hn
      exact ⟨i, List.mem_zipIdx_iff_getElem?.2 (List.getElem?_eq_some_iff.2 ⟨hi, hni⟩)⟩
    have hpiece : nodeText i n ∈ splitAtChar '\n' (render l) := by
      have hline : nodeText i n ∈ l.nodes.zipIdx.map fun p => nodeText p.2 p.1 :=
        List.mem_map.2 ⟨(n, i), hi, rfl⟩
      rw [h]
      simp only [List.mem_append, List.mem_cons]
      exact .inl (.inl (.inr hline))
    rw [← newline_mem_nodeText i n]
    exact not_mem_of_mem_splitAtChar hpiece
  · intro h
    have hwhole : ∀ p ∈ l.nodes.zipIdx,
        splitAtChar '\n' (nodeText p.2 p.1) = [nodeText p.2 p.1] := by
      intro p hp
      refine splitAtChar_of_not_mem fun hmem => ?_
      exact h p.1 (List.fst_mem_of_mem_zipIdx hp) ((newline_mem_nodeText p.2 p.1).1 hmem)
    rw [splitAtChar_render, List.flatMap_congr hwhole, List.map_eq_flatMap]

end ImportWeb.Render.Mermaid
