import ImportWeb.Web
import ImportWeb.Proofs.Graph.History

/-!
Drawing a list of links. Once the importers and the imported files have their nodes, every edge
that a link asks for is accepted, so the graph in the end can be counted off the list: an edge
for every link that has ends, and a node for every new external module.
-/

namespace ImportWeb

namespace Link

/-- The ends of the edge that a link asks for, if it does. -/
def ends? (includeExternal : Bool) (importer : String) : Link → Option (Key × Key)
  | file key => some (.file key, .file importer)
  | external specifier =>
    if includeExternal then some (.external specifier, .file importer) else none
  | self => none
  | outside => none

/-- The external module of a link that is drawn. -/
def drawnExternal? (includeExternal : Bool) : Link → Option String
  | external specifier => if includeExternal then some specifier else none
  | _ => none

/-- The answer to the edge that a link asks for, if it does. -/
def answer? (includeExternal : Bool) (importer : String) (g : Graph) : Link → Option Bool
  | file key => some (g.addEdge (.file key) (.file importer)).2
  | external specifier =>
    if includeExternal then
      some ((g.addNode (.external specifier)).addEdge (.external specifier) (.file importer)).2
    else none
  | self => none
  | outside => none

/-- The graph that a link asks for its edge: an external module has got its node. -/
def ready (includeExternal : Bool) (g : Graph) : Link → Graph
  | external specifier => if includeExternal then g.addNode (.external specifier) else g
  | _ => g

/-- The calls that draw a link. -/
def calls (includeExternal : Bool) (importer : String) : Link → List Call
  | file key => [.edge (.file key) (.file importer)]
  | external specifier =>
    if includeExternal then
      [.node (.external specifier), .edge (.external specifier) (.file importer)]
    else []
  | self => []
  | outside => []

/-- Whether the files that a link joins have their nodes. -/
structure Fits (g : Graph) (importer : String) (link : Link) : Prop where
  importer_mem : .file importer ∈ g.keys
  file_mem : ∀ key, link = file key → .file key ∈ g.keys

variable {g : Graph} {includeExternal : Bool} {importer : String} {link : Link}

@[simp] theorem ends?_eq_file_iff {a b : String} :
    link.ends? includeExternal b = some (.file a, .file b) ↔ link = file a := by
  cases link <;> cases includeExternal <;> simp [ends?]

@[simp] theorem ends?_eq_external_iff {t b : String} :
    link.ends? includeExternal b = some (.external t, .file b) ↔
      includeExternal = true ∧ link = external t := by
  cases link <;> cases includeExternal <;> simp [ends?]

@[simp] theorem drawnExternal?_eq_some_iff {t : String} :
    link.drawnExternal? includeExternal = some t ↔ includeExternal = true ∧ link = external t := by
  cases link <;> cases includeExternal <;> simp [drawnExternal?]

/-- Whatever edge a link asks for, it leads to the importer. -/
theorem target_of_ends? {p : Key × Key} (h : link.ends? includeExternal importer = some p) :
    p.2 = .file importer := by
  cases link <;> cases includeExternal <;> simp [ends?] at h <;> rw [← h]

theorem Fits.mono {g' : Graph} (h : link.Fits g importer) (hsub : ∀ k ∈ g.keys, k ∈ g'.keys) :
    link.Fits g' importer :=
  ⟨hsub _ h.importer_mem, fun key hk => hsub _ (h.file_mem key hk)⟩

theorem draw_eq (includeExternal : Bool) (importer : String) (g : Graph) (link : Link) :
    link.draw includeExternal importer g =
      match link.ends? includeExternal importer with
      | some (a, b) => ((link.ready includeExternal g).addEdge a b).1
      | none => link.ready includeExternal g := by
  cases link <;> cases includeExternal <;> rfl

theorem draw_eq_foldl (includeExternal : Bool) (importer : String) (g : Graph) (link : Link) :
    link.draw includeExternal importer g =
      (link.calls includeExternal importer).foldl Graph.call g := by
  cases link <;> cases includeExternal <;> rfl

theorem answer?_eq (includeExternal : Bool) (importer : String) (g : Graph) (link : Link) :
    link.answer? includeExternal importer g =
      (link.ends? includeExternal importer).map fun p =>
        ((link.ready includeExternal g).addEdge p.1 p.2).2 := by
  cases link <;> cases includeExternal <;> rfl

theorem ready_eq (includeExternal : Bool) (g : Graph) (link : Link) :
    link.ready includeExternal g =
      ((link.drawnExternal? includeExternal).map Node.external).elim g g.addNode := by
  cases link <;> cases includeExternal <;> rfl

theorem inStep_ready (h : g.InStep) : (link.ready includeExternal g).InStep := by
  rw [ready_eq]
  cases (link.drawnExternal? includeExternal).map Node.external with
  | none => exact h
  | some n => exact h.addNode n

theorem countOf_ready (h : g.InStep) (a b : Key) :
    (link.ready includeExternal g).countOf a b = g.countOf a b := by
  rw [ready_eq]
  cases (link.drawnExternal? includeExternal).map Node.external with
  | none => rfl
  | some n => exact Graph.countOf_addNode h n a b

theorem total_ready : (link.ready includeExternal g).total = g.total := by
  rw [ready_eq]
  cases (link.drawnExternal? includeExternal).map Node.external with
  | none => rfl
  | some n => exact Graph.total_addNode g n

/-- The ends of a link that fits are there when it asks for its edge. -/
theorem ends_mem_ready (h : g.InStep) (hf : link.Fits g importer) {a b : Key}
    (hab : link.ends? includeExternal importer = some (a, b)) :
    a ∈ (link.ready includeExternal g).keys ∧ b ∈ (link.ready includeExternal g).keys := by
  cases link with
  | file key =>
    cases hab
    exact ⟨hf.file_mem key rfl, hf.importer_mem⟩
  | external specifier =>
    cases includeExternal with
    | false => cases hab
    | true =>
      cases hab
      exact ⟨(Graph.mem_keys_addNode h).2 (.inl rfl),
        (Graph.mem_keys_addNode h).2 (.inr hf.importer_mem)⟩
  | self => cases hab
  | outside => cases hab

theorem inStep_draw (h : g.InStep) : (link.draw includeExternal importer g).InStep := by
  rw [draw_eq]
  split
  · exact (inStep_ready h).addEdge _ _
  · exact inStep_ready h

theorem nodes_draw (h : g.InStep) :
    (link.draw includeExternal importer g).nodes = g.nodes ++
      ((link.drawnExternal? includeExternal).toList.filter (.external · ∉ g.keys)).map
        Node.external := by
  have hready : (link.draw includeExternal importer g).nodes =
      (link.ready includeExternal g).nodes := by
    rw [draw_eq]
    split
    · exact Graph.nodes_addEdge _ _ _
    · rfl
  rw [hready, ready_eq]
  cases link.drawnExternal? includeExternal with
  | none => simp
  | some specifier =>
    have hkey : (Node.external specifier).key = .external specifier := rfl
    rw [Option.map_some, Option.elim_some]
    by_cases hk : Key.external specifier ∈ g.keys
    · rw [Graph.addNode_of_mem h (hkey ▸ hk)]
      simp [hk]
    · rw [Graph.addNode, hkey, if_neg (mt h.contains_iff.1 hk)]
      simp [hk]

theorem mem_keys_draw (h : g.InStep) {k : Key} (hk : k ∈ g.keys) :
    k ∈ (link.draw includeExternal importer g).keys := by
  rw [Graph.keys, nodes_draw h, List.map_append]
  exact List.mem_append_left _ hk

/-- A link that fits draws the one edge that it asks for. -/
theorem countOf_draw (h : g.InStep) (hf : link.Fits g importer) (a b : Key) :
    (link.draw includeExternal importer g).countOf a b =
      g.countOf a b + if link.ends? includeExternal importer = some (a, b) then 1 else 0 := by
  rw [draw_eq]
  cases hends : link.ends? includeExternal importer with
  | none => simp [countOf_ready h]
  | some p =>
    obtain ⟨ha, hb⟩ := ends_mem_ready h hf hends
    rw [Graph.countOf_addEdge (inStep_ready h) ha hb, countOf_ready h]
    simp only [Option.some.injEq]

theorem total_draw (h : g.InStep) (hf : link.Fits g importer) :
    (link.draw includeExternal importer g).total =
      g.total + (link.ends? includeExternal importer).toList.length := by
  rw [draw_eq]
  cases hends : link.ends? includeExternal importer with
  | none => exact total_ready
  | some p =>
    obtain ⟨ha, hb⟩ := ends_mem_ready h hf hends
    exact (Graph.total_addEdge (inStep_ready h) ha hb).trans (congrArg (· + 1) total_ready)

/-- Every edge that a link asks for is accepted if the link fits. -/
theorem answer?_of_fits (h : g.InStep) (hf : link.Fits g importer) :
    link.answer? includeExternal importer g =
      (link.ends? includeExternal importer).map fun _ => true := by
  rw [answer?_eq]
  cases hends : link.ends? includeExternal importer with
  | none => rfl
  | some p =>
    have hmem := ends_mem_ready h hf hends
    exact congrArg some ((Graph.addEdge_snd (inStep_ready h)).2 hmem)

end Link

/-! ### A list of links -/

/-- Links with the keys of their importers. -/
abbrev Links := List (String × Link)

namespace Links

/-- Draws all links in their order. -/
def draw (includeExternal : Bool) (g : Graph) (links : Links) : Graph :=
  links.foldl (fun g l => l.2.draw includeExternal l.1 g) g

/-- The edges that are asked for, in order. -/
def ends (includeExternal : Bool) (links : Links) : List (Key × Key) :=
  links.filterMap fun l => l.2.ends? includeExternal l.1

/-- The external modules that are drawn, with repetitions. -/
def externals (includeExternal : Bool) (links : Links) : List String :=
  links.filterMap fun l => l.2.drawnExternal? includeExternal

def Fits (g : Graph) (links : Links) : Prop := ∀ l ∈ links, l.2.Fits g l.1

variable {g : Graph} {includeExternal : Bool}

theorem draw_concat (links : Links) (l : String × Link) :
    draw includeExternal g (links ++ [l]) =
      l.2.draw includeExternal l.1 (draw includeExternal g links) := List.foldl_concat ..

theorem ends_append (includeExternal : Bool) (links more : Links) :
    ends includeExternal (links ++ more) =
      ends includeExternal links ++ ends includeExternal more := List.filterMap_append

@[simp] theorem ends_concat (includeExternal : Bool) (links : Links) (l : String × Link) :
    ends includeExternal (links ++ [l]) =
      ends includeExternal links ++ (l.2.ends? includeExternal l.1).toList := by
  rw [ends_append]
  cases h : l.2.ends? includeExternal l.1 <;> simp [ends, h]

@[simp] theorem externals_concat (includeExternal : Bool) (links : Links) (l : String × Link) :
    externals includeExternal (links ++ [l]) =
      externals includeExternal links ++ (l.2.drawnExternal? includeExternal).toList := by
  unfold externals
  rw [List.filterMap_append]
  cases h : l.2.drawnExternal? includeExternal <;> simp [h]

theorem draw_eq_foldl (includeExternal : Bool) (g : Graph) (links : Links) :
    draw includeExternal g links =
      (links.flatMap fun l => l.2.calls includeExternal l.1).foldl Graph.call g := by
  induction links using List.reverseRecOn with
  | nil => rfl
  | append_singleton links l ih =>
    rw [draw_concat, Link.draw_eq_foldl, ih, List.flatMap_append, List.foldl_append,
      List.flatMap_singleton]

theorem inStep_draw (h : g.InStep) (links : Links) : (draw includeExternal g links).InStep := by
  induction links using List.reverseRecOn with
  | nil => exact h
  | append_singleton links l ih =>
    rw [draw_concat]
    exact Link.inStep_draw ih

theorem mem_keys_draw (includeExternal : Bool) (h : g.InStep) (links : Links) :
    ∀ k ∈ g.keys, k ∈ (draw includeExternal g links).keys := by
  induction links using List.reverseRecOn with
  | nil => exact fun _ hk => hk
  | append_singleton links l ih =>
    rw [draw_concat]
    exact fun k hk => Link.mem_keys_draw (inStep_draw h links) (ih k hk)

theorem Fits.split {links : Links} {l : String × Link} (hf : Fits g (links ++ [l])) :
    Fits g links ∧ l.2.Fits g l.1 :=
  ⟨fun m hm => hf m (List.mem_append_left _ hm), hf l (by simp)⟩

/-- Each edge counts the links that ask for it. -/
theorem countOf_draw (h : g.InStep) {links : Links} (hf : Fits g links) (a b : Key) :
    (draw includeExternal g links).countOf a b =
      g.countOf a b + (ends includeExternal links).count (a, b) := by
  induction links using List.reverseRecOn with
  | nil => rfl
  | append_singleton links l ih =>
    obtain ⟨hlinks, hl⟩ := hf.split
    have hfit := hl.mono (mem_keys_draw includeExternal h links)
    rw [draw_concat, Link.countOf_draw (inStep_draw h links) hfit, ih hlinks, ends_concat,
      List.count_append, Nat.add_assoc]
    congr 2
    cases l.2.ends? includeExternal l.1 with
    | none => simp
    | some p => simp [List.count_singleton]

theorem total_draw (h : g.InStep) {links : Links} (hf : Fits g links) :
    (draw includeExternal g links).total = g.total + (ends includeExternal links).length := by
  induction links using List.reverseRecOn with
  | nil => rfl
  | append_singleton links l ih =>
    obtain ⟨hlinks, hl⟩ := hf.split
    have hfit := hl.mono (mem_keys_draw includeExternal h links)
    rw [draw_concat, Link.total_draw (inStep_draw h links) hfit, ih hlinks, ends_concat,
      List.length_append, Nat.add_assoc]

/-- An external module that is drawn asks for an edge. -/
theorem exists_mem_ends {links : Links} {s : String} (hs : s ∈ externals includeExternal links) :
    ∃ importer, (.external s, .file importer) ∈ ends includeExternal links := by
  obtain ⟨⟨importer, link⟩, hl, hdrawn⟩ := List.mem_filterMap.1 hs
  exact ⟨importer, List.mem_filterMap.2 ⟨_, hl,
    Link.ends?_eq_external_iff.2 (Link.drawnExternal?_eq_some_iff.1 hdrawn)⟩⟩

theorem externals_false (links : Links) : externals false links = [] :=
  List.filterMap_eq_nil_iff.2 fun l _ => by cases l.2 <;> rfl

/-- The external modules follow the files, each one where it first comes. -/
theorem nodes_draw (h : g.InStep) (hfiles : ∀ s, .external s ∉ g.keys) (links : Links) :
    (draw includeExternal g links).nodes =
      g.nodes ++ (externals includeExternal links).eraseDups.map Node.external := by
  induction links using List.reverseRecOn with
  | nil => exact (List.append_nil _).symm
  | append_singleton links l ih =>
    have hkeys : ∀ s, Key.external s ∈ (draw includeExternal g links).keys ↔
        s ∈ externals includeExternal links := by
      intro s
      rw [Graph.keys, ih, List.map_append, List.mem_append, ← Graph.keys, or_iff_right (hfiles s)]
      simp [Node.key, List.mem_eraseDups]
    rw [draw_concat, Link.nodes_draw (inStep_draw h links), ih, externals_concat]
    cases l.2.drawnExternal? includeExternal with
    | none => simp
    | some s =>
      rw [Option.toList_some, eraseDups_concat]
      by_cases hmem : s ∈ externals includeExternal links
      · simp [hmem, hkeys]
      · simp [hmem, hkeys]

end Links

end ImportWeb
