import ImportWeb.Proofs.Render.Mermaid.Line

/-!
What can be read off a flowchart. A label is the only text in quotes and has none itself, so the
text determines the labels up to their entities, the shapes of the nodes, and the edges.
-/

namespace ImportWeb.Render.Mermaid

open Text

variable {s t w : List Char}

/-! ### Labels -/

/-- Every other element, from the second one on. -/
def seconds {α : Type} : List α → List α
  | _ :: x :: rest => x :: seconds rest
  | _ => []

/-- The texts that stand in quotes. -/
def quoted (s : List Char) : List (List Char) := seconds (splitAtChar '"' s)

theorem quoted_append (hs : '"' ∉ s) (t : List Char) : quoted (s ++ t) = quoted t := by
  induction s with
  | nil => rfl
  | cons c s ih =>
    rw [List.mem_cons, not_or] at hs
    obtain ⟨head, tail, h₁, h₂⟩ := splitAtChar_cons (Ne.symm hs.1) (s ++ t)
    rw [← ih hs.2, quoted, quoted, List.cons_append, h₂, h₁]
    cases tail <;> rfl

theorem quoted_quote (hw : '"' ∉ w) (s : List Char) :
    quoted ('"' :: (w ++ '"' :: s)) = w :: quoted s := by
  rw [quoted, splitAtChar_cons_self, splitAtChar_append hw]
  rfl

theorem quoted_nodeText (i : Nat) (n : ListedNode) (s : List Char) :
    quoted (nodeText i n ++ ['\n'] ++ s) = escape n.label.toList :: quoted s := by
  have hdecimal : '"' ∉ decimal i := not_mem_decimal (by decide) i
  have hfront (bracket : Char) (h : bracket ≠ '"') :
      '"' ∉ "    n".toList ++ decimal i ++ [bracket] := by
    simp [hdecimal, h.symm]
  have hback (bracket : Char) (h : bracket ≠ '"') : quoted ([bracket, '\n'] ++ s) = quoted s :=
    quoted_append (by simp [h.symm]) s
  have hshape (front back : Char) (hf : front ≠ '"') (hb : back ≠ '"') :
      quoted ("    n".toList ++ decimal i ++ [front] ++ '"' ::
        (escape n.label.toList ++ '"' :: ([back, '\n'] ++ s))) =
        escape n.label.toList :: quoted s := by
    rw [quoted_append (hfront front hf), quoted_quote (quote_not_mem_escape _), hback back hb]
  unfold nodeText
  cases n.external with
  | true => simpa using hshape '\x7b' '\x7d' (by decide) (by decide)
  | false => simpa using hshape '[' ']' (by decide) (by decide)

/-- The texts in quotes are the labels as they are written, in order. -/
theorem quoted_render (l : Listing) :
    quoted (render l) = l.nodes.map fun n => escape n.label.toList := by
  have hnodes (ps : List (ListedNode × Nat)) (s : List Char) :
      quoted (ps.flatMap (fun p => nodeText p.2 p.1 ++ ['\n']) ++ s) =
        (ps.map Prod.fst).map (fun n => escape n.label.toList) ++ quoted s := by
    induction ps with
    | nil => rfl
    | cons p ps ih =>
      rw [List.flatMap_cons, List.append_assoc, quoted_nodeText, ih, List.map_cons, List.map_cons,
        List.cons_append]
  have hedges : '"' ∉ l.joined.flatMap fun e => edgeText e ++ ['\n'] := by
    intro h
    obtain ⟨e, -, he⟩ := List.mem_flatMap.1 h
    rcases List.mem_append.1 he with he | he
    · exact not_mem_edgeText (by decide) (by decide) e he
    · exact absurd he (by decide)
  have hend : quoted (l.joined.flatMap fun e => edgeText e ++ ['\n']) = [] := by
    rw [← List.append_nil (l.joined.flatMap _), quoted_append hedges]
    rfl
  rw [render_eq, List.append_cons, quoted_append (by decide), hnodes, hend, List.append_nil,
    List.zipIdx_map_fst]

/-! ### Equal texts -/

theorem map_eq_map_iff_of_iff {α β γ : Type} {f : α → β} {g : α → γ}
    (h : ∀ a b, f a = f b ↔ g a = g b) (as bs : List α) :
    as.map f = bs.map f ↔ as.map g = bs.map g := by
  induction as generalizing bs with
  | nil => cases bs <;> simp
  | cons a as ih =>
    cases bs with
    | nil => simp
    | cons b bs => simp only [List.map_cons, List.cons.injEq, h a b, ih bs]

/-- The arrow of an edge that counts. -/
def arrow (count : Nat) : List Char :=
  if count > 1 then "-->|".toList ++ decimal count ++ ['|'] else "-->".toList

theorem arrow_eq_iff (a b : Nat) : arrow a = arrow b ↔ max 1 a = max 1 b := by
  have hlonger (n : Nat) : "-->|".toList ++ decimal n ++ ['|'] ≠ "-->".toList := by
    intro h
    have hlength := congrArg List.length h
    simp at hlength
  unfold arrow
  by_cases ha : a > 1 <;> by_cases hb : b > 1
  · rw [if_pos ha, if_pos hb, List.append_left_inj, List.append_right_inj, decimal_inj]
    omega
  · rw [if_pos ha, if_neg hb]
    exact ⟨fun h => absurd h (hlonger a), fun h => by omega⟩
  · rw [if_neg ha, if_pos hb]
    exact ⟨fun h => absurd h.symm (hlonger b), fun h => by omega⟩
  · rw [if_neg ha, if_neg hb]
    exact ⟨fun _ => by omega, fun _ => rfl⟩

theorem splitAtChar_edgeText (e : Nat × Nat × Nat) :
    splitAtChar ' ' (edgeText e) =
      [[], [], [], [], 'n' :: decimal e.1, arrow e.2.2, 'n' :: decimal e.2.1] := by
  have hdecimal (n : Nat) : ' ' ∉ decimal n := not_mem_decimal (by decide) n
  have hname (n : Nat) : ' ' ∉ 'n' :: decimal n := by simp [hdecimal]
  have harrow : ' ' ∉ arrow e.2.2 := by
    unfold arrow
    split <;> simp [hdecimal]
  have hshape : edgeText e = ' ' :: ' ' :: ' ' :: ' ' :: (('n' :: decimal e.1) ++ ' ' ::
      (arrow e.2.2 ++ ' ' :: 'n' :: decimal e.2.1)) := by
    unfold edgeText arrow
    split <;> simp
  rw [hshape, splitAtChar_cons_self, splitAtChar_cons_self, splitAtChar_cons_self,
    splitAtChar_cons_self, splitAtChar_append (hname e.1), splitAtChar_append harrow,
    splitAtChar_of_not_mem (hname e.2.1)]

/-- An edge's line tells its ends and its count, where no count is a count of one. -/
theorem edgeText_eq_iff (e e' : Nat × Nat × Nat) :
    edgeText e = edgeText e' ↔ (e.1, e.2.1, max 1 e.2.2) = (e'.1, e'.2.1, max 1 e'.2.2) := by
  have hsplit : edgeText e = edgeText e' ↔
      splitAtChar ' ' (edgeText e) = splitAtChar ' ' (edgeText e') := by
    refine ⟨congrArg _, fun h => ?_⟩
    rw [← joinWith_splitAtChar ' ' (edgeText e), h, joinWith_splitAtChar]
  rw [hsplit, splitAtChar_edgeText, splitAtChar_edgeText]
  simp only [List.cons.injEq, Prod.mk.injEq, decimal_inj, arrow_eq_iff, true_and, and_true]
  exact and_congr_right fun _ => and_comm

/-- What is written of a node apart from its number. -/
def written (n : ListedNode) : Bool × List Char := (n.external, escape n.label.toList)

theorem written_eq_iff (n m : ListedNode) :
    written n = written m ↔
      (n.external, undo n.label.toList) = (m.external, undo m.label.toList) := by
  simp only [written, Prod.mk.injEq, escape_eq_iff]

theorem nodeText_congr {n m : ListedNode} (h : written n = written m) (i : Nat) :
    nodeText i n = nodeText i m := by
  obtain ⟨hexternal, hlabel⟩ := Prod.mk.inj h
  unfold nodeText
  rw [hexternal, hlabel]

/-- A node's line tells what was written of the node and where the line ends. -/
theorem nodeText_append_inj {i : Nat} {n m : ListedNode}
    (h : nodeText i n ++ '\n' :: s = nodeText i m ++ '\n' :: t) :
    written n = written m ∧ s = t := by
  unfold nodeText at h
  simp only [List.append_assoc, List.cons_append, List.append_cancel_left_eq] at h
  obtain ⟨hfront, hquote⟩ := List.cons.inj h
  have hlabel := (List.cons.inj hquote).2
  have hexternal : n.external = m.external := by
    cases hn : n.external <;> cases hm : m.external <;> simp [hn, hm] at hfront ⊢
  have hescape : escape n.label.toList = escape m.label.toList := by
    have hpieces := congrArg (splitAtChar '"') hlabel
    rw [splitAtChar_append (quote_not_mem_escape _), splitAtChar_append (quote_not_mem_escape _)]
      at hpieces
    exact (List.cons.inj hpieces).1
  rw [hescape, List.append_cancel_left_eq] at hlabel
  have hrest := (List.cons.inj (List.cons.inj hlabel).2).2
  exact ⟨Prod.ext hexternal hescape, (List.cons.inj hrest).2⟩

theorem nodeTexts_append_inj {ns ms : List ListedNode} {i : Nat} (hlength : ns.length = ms.length)
    (h : (ns.zipIdx i).flatMap (fun p => nodeText p.2 p.1 ++ ['\n']) ++ s =
      (ms.zipIdx i).flatMap (fun p => nodeText p.2 p.1 ++ ['\n']) ++ t) :
    ns.map written = ms.map written ∧ s = t := by
  induction ns generalizing ms i with
  | nil =>
    obtain rfl := List.length_eq_zero_iff.1 hlength.symm
    exact ⟨rfl, h⟩
  | cons n ns ih =>
    cases ms with
    | nil => cases hlength
    | cons m ms =>
      simp only [List.zipIdx_cons, List.flatMap_cons, List.append_assoc, List.singleton_append] at h
      obtain ⟨hn, hrest⟩ := nodeText_append_inj h
      obtain ⟨hns, hst⟩ := ih (Nat.succ.inj hlength) hrest
      exact ⟨by rw [List.map_cons, List.map_cons, hn, hns], hst⟩

theorem nodeTexts_congr {ns ms : List ListedNode} (i : Nat) (h : ns.map written = ms.map written) :
    (ns.zipIdx i).flatMap (fun p => nodeText p.2 p.1 ++ ['\n']) =
      (ms.zipIdx i).flatMap fun p => nodeText p.2 p.1 ++ ['\n'] := by
  induction ns generalizing ms i with
  | nil =>
    obtain rfl := List.map_eq_nil_iff.1 h.symm
    rfl
  | cons n ns ih =>
    cases ms with
    | nil => cases h
    | cons m ms =>
      obtain ⟨hn, hns⟩ := List.cons.inj h
      rw [List.zipIdx_cons, List.zipIdx_cons, List.flatMap_cons, List.flatMap_cons,
        nodeText_congr hn, ih (i + 1) hns]

theorem edgeTexts_inj {as bs : List (Nat × Nat × Nat)}
    (h : as.flatMap (fun e => edgeText e ++ ['\n']) = bs.flatMap fun e => edgeText e ++ ['\n']) :
    as.map edgeText = bs.map edgeText := by
  have hpieces := congrArg (splitAtChar '\n') h
  rwa [splitAtChar_edgeTexts, splitAtChar_edgeTexts, List.append_left_inj] at hpieces

/-- Two listings are written alike exactly when their nodes have the same shapes and, after undoing
entities, the same labels, and their drawn edges have the same ends and counts. -/
theorem render_eq_render_iff (l m : Listing) :
    render l = render m ↔
      l.nodes.map (fun n => (n.external, undo n.label.toList)) =
        m.nodes.map (fun n => (n.external, undo n.label.toList)) ∧
      l.joined.map (fun e => (e.1, e.2.1, max 1 e.2.2)) =
        m.joined.map (fun e => (e.1, e.2.1, max 1 e.2.2)) := by
  rw [← map_eq_map_iff_of_iff written_eq_iff, ← map_eq_map_iff_of_iff edgeText_eq_iff]
  constructor
  · intro h
    have hlength : l.nodes.length = m.nodes.length := by
      have hquoted := congrArg (fun s => (quoted s).length) h
      simpa only [quoted_render, List.length_map] using hquoted
    rw [render_eq, render_eq, List.append_cancel_left_eq] at h
    obtain ⟨hnodes, hedges⟩ := nodeTexts_append_inj hlength (List.cons.inj h).2
    exact ⟨hnodes, edgeTexts_inj hedges⟩
  · rintro ⟨hnodes, hedges⟩
    have hflat : (l.joined.flatMap fun e => edgeText e ++ ['\n']) =
        m.joined.flatMap fun e => edgeText e ++ ['\n'] := by
      rw [← List.flatMap_map edgeText (· ++ ['\n']), hedges, List.flatMap_map]
    rw [render_eq, render_eq, nodeTexts_congr 0 hnodes, hflat]

/-! ### Reading back -/

/-- A flowchart is a header, the nodes in order and the drawn edges in order. Each node has one line
exactly if no label has a line break, undoing the entities in quotes gives the labels exactly if
they have no entity of their own, and the text determines all that is drawn up to such entities. -/
theorem reads_back (l : Listing) :
    splitAtChar '\n' (render l) = "flowchart LR".toList ::
        (l.nodes.zipIdx.flatMap fun p => splitAtChar '\n' (nodeText p.2 p.1)) ++
        edgeTexts l ++ [[]] ∧
      (splitAtChar '\n' (render l) = "flowchart LR".toList ::
          (l.nodes.zipIdx.map fun p => nodeText p.2 p.1) ++ edgeTexts l ++ [[]] ↔
        ∀ n ∈ l.nodes, '\n' ∉ n.label.toList) ∧
      (quoted (render l)).map undo = l.nodes.map (fun n => undo n.label.toList) ∧
      ((quoted (render l)).map undo = l.nodes.map (fun n => n.label.toList) ↔
        ∀ n ∈ l.nodes, Plain n.label.toList) ∧
      ∀ m : Listing, render l = render m ↔
        l.nodes.map (fun n => (n.external, undo n.label.toList)) =
          m.nodes.map (fun n => (n.external, undo n.label.toList)) ∧
        l.joined.map (fun e => (e.1, e.2.1, max 1 e.2.2)) =
          m.joined.map (fun e => (e.1, e.2.1, max 1 e.2.2)) := by
  have hquoted : (quoted (render l)).map undo = l.nodes.map fun n => undo n.label.toList := by
    rw [quoted_render, List.map_map]
    exact List.map_congr_left fun n _ => undo_escape n.label.toList
  refine ⟨splitAtChar_render l, splitAtChar_render_iff l, hquoted, ?_, render_eq_render_iff l⟩
  rw [hquoted, List.map_inj_left]
  exact forall₂_congr fun n _ => undo_eq_self_iff

/-- A label with an entity is written as the label that the entity stands for and is read back as
that one, and a label with a line break opens a line of its own. -/
theorem labels_lost :
    render ⟨[⟨"a", "&lt;.py", 5, .dot, false, some 0⟩], []⟩ =
        render ⟨[⟨"a", "<.py", 5, .dot, false, some 0⟩], []⟩ ∧
      "&lt;.py" ≠ "<.py" ∧
      (quoted (render ⟨[⟨"a", "&lt;.py", 5, .dot, false, some 0⟩], []⟩)).map undo =
        ["<.py".toList] ∧
      splitAtChar '\n' (render ⟨[⟨"a", "b\nc", 5, .dot, false, some 0⟩], []⟩) =
        ["flowchart LR".toList, "    n0[\"b".toList, "c\"]".toList, []] := by
  decide +kernel

end ImportWeb.Render.Mermaid
