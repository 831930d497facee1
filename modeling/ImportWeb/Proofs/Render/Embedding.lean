import ImportWeb.Proofs.Json.Written
import ImportWeb.Proofs.Render.Literal
import ImportWeb.Proofs.Render.Script

/-!
The data in the page. What stands between the two calls of the script and their ends is JSON that
is read back as the nodes and edges of the listing: the guard against closing tags changes the
spelling of the data and not its value.
-/

namespace ImportWeb.Render.Page

open Json Literal

variable {c : Char} {s t : List Char}

/-! ### Guarded spellings -/

theorem guard_cons (h : c ≠ '<' ∨ t.head? ≠ some '/') : guard (c :: t) = c :: guard t := by
  rw [guard]
  rintro rest rfl rfl
  simp at h

theorem guard_append (h : '<' ∉ s ∨ t.head? ≠ some '/') : guard (s ++ t) = guard s ++ guard t := by
  fun_induction guard s with
  | case1 rest ih =>
    have htail : '<' ∉ rest ∨ t.head? ≠ some '/' := h.imp (fun h hmem => h (by simp [hmem])) id
    simp [guard, ih htail]
  | case2 c rest hne ih =>
    have htail : '<' ∉ rest ∨ t.head? ≠ some '/' := h.imp (fun h hmem => h (by simp [hmem])) id
    rw [List.cons_append, guard_cons, ih htail, List.cons_append]
    cases rest with
    | nil => exact h.imp (fun h heq => h (by simp [heq])) id
    | cons d rest =>
      by_cases hc : c = '<'
      · exact .inr fun hd => hne rest hc (by simpa using hd)
      · exact .inl hc
  | case3 => rfl

theorem guard_of_not_mem (h : '<' ∉ s) : guard s = s := by
  induction s with
  | nil => rfl
  | cons c s ih =>
    rw [List.mem_cons, not_or] at h
    rw [guard_cons (.inl (Ne.symm h.1)), ih h.2]

theorem less_not_mem_blank {w : List Char} (hw : Blank w) : '<' ∉ w := fun h =>
  absurd (hw '<' h) (by decide)

/-- An escape has no less-than sign. -/
theorem letter_cases {w : List Char} (h : Letter c w) :
    w = [c] ∧ c ≠ '\\' ∨ '<' ∉ w ∧ w.head? = some '\\' := by
  cases h with
  | plain _ slash => exact .inl ⟨rfl, slash⟩
  | @short d h =>
    refine .inr ⟨?_, rfl⟩
    simp only [List.mem_cons, List.not_mem_nil, or_false, not_or]
    exact ⟨by decide, by rintro rfl; cases h⟩
  | @code i j k l h =>
    refine .inr ⟨fun hmem => ?_, rfl⟩
    have hmem : '<' ∈ [i, j, k, l] := by simpa using hmem
    exact absurd (isSome_hexValue? h '<' hmem) (by decide)

/-- Only a slash itself is written with a slash in front. -/
theorem letters_slash (h : Letters s ('/' :: t)) : ∃ r, s = '/' :: r ∧ Letters r t := by
  generalize htext : '/' :: t = text at h
  cases h with
  | nil => cases htext
  | @cons c s w u h hs =>
    rcases letter_cases h with ⟨rfl, -⟩ | ⟨-, hhead⟩
    · obtain ⟨rfl, rfl⟩ := List.cons.inj htext
      exact ⟨s, rfl, hs⟩
    · cases w with
      | nil => cases hhead
      | cons d w =>
        obtain ⟨rfl, -⟩ := List.cons.inj htext
        cases hhead

theorem letters_guard (h : Letters s t) : Letters s (guard t) := by
  induction h with
  | nil => exact .nil
  | @cons c s w t h hs ih =>
    by_cases hcut : '<' ∉ w ∨ t.head? ≠ some '/'
    · rw [guard_append hcut]
      refine .cons ?_ ih
      rcases letter_cases h with ⟨rfl, -⟩ | ⟨hless, -⟩
      · rwa [guard_cons (.inr (by decide))]
      · rwa [guard_of_not_mem hless]
    · rw [not_or, not_not, not_not] at hcut
      obtain ⟨hmem, hhead⟩ := hcut
      obtain ⟨rest, rfl⟩ : ∃ rest, t = '/' :: rest := by
        cases t with
        | nil => cases hhead
        | cons d rest => exact ⟨rest, by simpa using hhead⟩
      rw [guard_cons (.inl (by decide))] at ih
      obtain ⟨r, rfl, hr⟩ := letters_slash ih
      rcases letter_cases h with ⟨rfl, -⟩ | ⟨hless, -⟩
      · obtain rfl : '<' = c := by simpa using hmem
        exact .cons h (.cons (.short rfl) hr)
      · exact absurd hmem hless

theorem guard_blank {w : List Char} (hw : Blank w) (s : List Char) :
    guard (w ++ s) = w ++ guard s := by
  rw [guard_append (.inl (less_not_mem_blank hw)), guard_of_not_mem (less_not_mem_blank hw)]

theorem head?_blank {w : List Char} (hw : Blank w) (h : s.head? ≠ some '/') :
    (w ++ s).head? ≠ some '/' := by
  cases w with
  | nil => exact h
  | cons c w =>
    intro hc
    obtain rfl : c = '/' := by simpa using hc
    exact absurd (hw '/' List.mem_cons_self) (by decide)

theorem head?_spells {p : Part} (h : Spells p t) (s : List Char) : (t ++ s).head? ≠ some '/' := by
  obtain ⟨c, t, rfl, hc⟩ := h.exists_cons
  intro hhead
  obtain rfl : c = '/' := by simpa using hhead
  exact hc (by decide)

theorem guard_literal (t s : List Char) :
    guard ('"' :: (t ++ '"' :: s)) = '"' :: (guard t ++ '"' :: guard s) := by
  rw [guard_cons (.inl (by decide)), guard_append (.inr (by simp)), guard_cons (.inl (by decide))]

theorem named_guard {key : String} {k : List Char} (hk : Named key k) : Named key (guard k) := by
  cases hk with
  | @mk k v w h hv hw =>
    have hw' : guard w = w := guard_of_not_mem (less_not_mem_blank hw)
    rw [guard_literal, guard_blank hv, guard_cons (.inl (by decide)), hw']
    exact .mk (letters_guard h) hv hw

/-- Guarded JSON is a spelling of the same value: the sign and the slash of a closing tag stand in
one string, where the slash may be escaped. -/
theorem spells_guard {p : Part} (h : Spells p t) : Spells p (guard t) := by
  induction h with
  | null => exact .null
  | bool b => cases b <;> exact .bool _
  | integer n =>
    rw [guard_of_not_mem (less_not_mem_integerChars n)]
    exact .integer n
  | string h =>
    rw [guard_literal]
    exact .string (letters_guard h)
  | noItems hw =>
    rw [guard_cons (.inl (by decide)), guard_blank hw]
    exact .noItems hw
  | array hw _ ih =>
    rw [guard_cons (.inl (by decide)), guard_blank hw]
    exact .array hw ih
  | noFields hw =>
    rw [guard_cons (.inl (by decide)), guard_blank hw]
    exact .noFields hw
  | object hw _ ih =>
    rw [guard_cons (.inl (by decide)), guard_blank hw]
    exact .object hw ih
  | lastItem _ hw ih =>
    rw [guard_append (.inr (head?_blank hw (by decide))), guard_blank hw]
    exact .lastItem ih hw
  | item _ hv hw _ ih ihl =>
    rw [guard_append (.inr (head?_blank hv (by simp))), guard_blank hv,
      guard_cons (.inl (by decide)), guard_blank hw]
    exact .item ih hv hw ihl
  | lastField hk h hw ih =>
    rw [guard_append (.inr (head?_spells h _)), guard_append (.inr (head?_blank hw (by decide))),
      guard_blank hw]
    exact .lastField (named_guard hk) ih hw
  | field hk h hv hw _ ih ihl =>
    rw [guard_append (.inr (head?_spells h _)), guard_append (.inr (head?_blank hv (by simp))),
      guard_blank hv, guard_cons (.inl (by decide)), guard_blank hw]
    exact .field (named_guard hk) ih hv hw ihl

/-! ### The data -/

theorem exact_nodeJson (n : ListedNode) : Exact (nodeJson n) := by
  refine .object fun f hf => ?_
  simp only [List.mem_cons, List.not_mem_nil, or_false] at hf
  rcases hf with rfl | rfl | rfl | rfl | rfl
  · exact .string _
  · exact .string _
  · exact .string _
  · exact .integer _
  · exact .string _

theorem exact_edgeJson (e : ListedEdge) : Exact (edgeJson e) := by
  refine .object fun f hf => ?_
  simp only [List.mem_cons, List.not_mem_nil, or_false] at hf
  rcases hf with rfl | rfl | rfl
  · exact .string _
  · exact .string _
  · exact .integer _

theorem spells_scriptText {j : Json} (h : Exact j) : Spells (.value j) (scriptText j) :=
  spells_guard (spells_compact h)

/-- What a script hands to the data set of a name. -/
def dataSet? (name : String) (script : List Char) : Option (List Char) :=
  argument? ("var " ++ name ++ " = new vis.DataSet(").toList script

theorem foreign_edges : Foreign "var edges = new vis.DataSet(".toList :=
  .of_head (c := 'v') (by decide) (by decide) (by decide)

theorem foreign_end : Foreign ");".toList :=
  .of_head (c := ')') (by decide) (by decide) (by decide)

theorem nodesOpen_eq : nodesOpen = "\n  ".toList ++ "var nodes = new vis.DataSet(".toList := rfl

theorem edgesOpen_eq :
    edgesOpen = ");".toList ++ ("\n  ".toList ++ "var edges = new vis.DataSet(".toList) := rfl

theorem optionsOpen_eq : optionsOpen = ");".toList ++ "\n  var options = ".toList := rfl

/-- Before its script the page has neither call. The text is read in pieces because a long one is
slow to decode. -/
theorem crosses_head :
    Crosses "var nodes = new vis.DataSet(".toList .code head .code ∧
      Crosses "var edges = new vis.DataSet(".toList .code head .code := by
  unfold head
  iterate 5 rw [String.toList_append]
  decide +kernel

theorem crosses_to_nodes :
    Crosses "var nodes = new vis.DataSet(".toList .code (head ++ "\n  ".toList) .code :=
  crosses_head.1.append ⟨rfl, rfl⟩

theorem crosses_to_data :
    Crosses "var edges = new vis.DataSet(".toList .code (head ++ nodesOpen) .code :=
  crosses_head.2.append ⟨rfl, rfl⟩

theorem crosses_to_edges :
    Crosses "var edges = new vis.DataSet(".toList .code (");".toList ++ "\n  ".toList) .code :=
  ⟨rfl, rfl⟩

variable {l : Listing} {p : Physics}

theorem exact_nodes (l : Listing) : Exact (.array (l.nodes.map nodeJson)) := by
  refine .array fun j hj => ?_
  obtain ⟨n, -, rfl⟩ := List.mem_map.1 hj
  exact exact_nodeJson n

theorem exact_edges (l : Listing) : Exact (.array (l.edges.map edgeJson)) := by
  refine .array fun j hj => ?_
  obtain ⟨e, -, rfl⟩ := List.mem_map.1 hj
  exact exact_edgeJson e

theorem dataSet?_nodes (l : Listing) (p : Physics) :
    dataSet? "nodes" (render l p) = some (scriptText (.array (l.nodes.map nodeJson))) := by
  have hargument := foreign_end.crosses (spells_scriptText (exact_nodes l))
  have hcut := argument?_eq (by decide) crosses_to_nodes hargument
  obtain ⟨after, hrender⟩ : ∃ after, render l p = (head ++ "\n  ".toList) ++
      ("var nodes = new vis.DataSet(".toList ++
        (scriptText (.array (l.nodes.map nodeJson)) ++ (");".toList ++ after))) := by
    rw [render, script, nodesOpen_eq, edgesOpen_eq]
    simp only [List.append_assoc]
    exact ⟨_, rfl⟩
  rw [hrender]
  exact hcut after

theorem dataSet?_edges (l : Listing) (p : Physics) :
    dataSet? "edges" (render l p) = some (scriptText (.array (l.edges.map edgeJson))) := by
  have hnodes := foreign_edges.crosses (spells_scriptText (exact_nodes l))
  have hargument := foreign_end.crosses (spells_scriptText (exact_edges l))
  have hbefore := (crosses_to_data.append hnodes).append crosses_to_edges
  have hcut := argument?_eq (by decide) hbefore hargument
  obtain ⟨after, hrender⟩ : ∃ after, render l p =
      (((head ++ nodesOpen) ++ scriptText (.array (l.nodes.map nodeJson))) ++
        (");".toList ++ "\n  ".toList)) ++
        ("var edges = new vis.DataSet(".toList ++
          (scriptText (.array (l.edges.map edgeJson)) ++ (");".toList ++ after))) := by
    rw [render, script, edgesOpen_eq, optionsOpen_eq]
    simp only [List.append_assoc]
    exact ⟨_, rfl⟩
  rw [hrender]
  exact hcut after

/-- The script's two data sets are cut out of the page whole, are read back as the nodes and edges
with the value they had before the guard, and close no tag. -/
theorem data_lossless (l : Listing) (p : Physics) :
    let nodes : Json := .array (l.nodes.map fun n => .object [("id", .string n.id),
      ("label", .string n.label), ("shape", .string n.shape.name), ("size", .integer n.size),
      ("title", .string (title n))])
    let edges : Json := .array (l.edges.map fun e => .object [("from", .string e.source),
      ("to", .string e.target), ("value", .integer e.count)])
    dataSet? "nodes" (render l p) = some (guard nodes.compact) ∧
      parse? (guard nodes.compact) = some nodes ∧ parse? nodes.compact = some nodes ∧
      ¬ "</".toList <:+: guard nodes.compact ∧
      dataSet? "edges" (render l p) = some (guard edges.compact) ∧
      parse? (guard edges.compact) = some edges ∧ parse? edges.compact = some edges ∧
      ¬ "</".toList <:+: guard edges.compact := by
  have hnodes := spells_compact (exact_nodes l)
  have hedges := spells_compact (exact_edges l)
  exact ⟨dataSet?_nodes l p, parse?_of_spells (spells_guard hnodes), parse?_of_spells hnodes,
    not_closed_guard _, dataSet?_edges l p, parse?_of_spells (spells_guard hedges),
    parse?_of_spells hedges, not_closed_guard _⟩

end ImportWeb.Render.Page
