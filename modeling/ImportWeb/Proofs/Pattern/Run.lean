import Mathlib.Data.Finset.Card
import Mathlib.Data.Finset.Range
import ImportWeb.Pattern.Search

/-!
Runs of a program. A run follows one thread from its place up to an accepting instruction. The
search finds something exactly if some run starts at a place of the text, and the marks that it
answers with are those of such a run.
-/

namespace ImportWeb.Pattern

variable {program : Program} {p q : Place} {t u : Thread} {m : Marks} {n : Nat}
  {visited : List Nat}

/-! ### Steps and runs -/

namespace Program

/-- The threads with which an instruction goes on at the same place. -/
def quiet (program : Program) (p : Place) (t : Thread) : List Thread :=
  match program.inst? t.address with
  | some (.look l next) => if l.holds p then [⟨next, t.marks⟩] else []
  | some (.opening next) => [⟨next, { t.marks with opened := some p.index }⟩]
  | some (.closing next) => [⟨next, { t.marks with closed := some p.index }⟩]
  | some (.jump next) => [⟨next, t.marks⟩]
  | some (.split first second) => [⟨first, t.marks⟩, ⟨second, t.marks⟩]
  | _ => []

/-- Whether a thread needs a character to go on, or has accepted. -/
def waits (program : Program) (t : Thread) : Bool :=
  match program.inst? t.address with
  | some (.chars _ _) => true
  | some .accept => true
  | _ => false

theorem map_address_quiet (program : Program) (p : Place) (h : t.address = u.address) :
    (program.quiet p t).map Thread.address = (program.quiet p u).map Thread.address := by
  unfold quiet
  rw [h]
  split <;> try rfl
  split <;> rfl

/-- A thread that waits takes no quiet step. -/
theorem quiet_of_waits (h : program.waits t = true) : program.quiet p t = [] := by
  unfold waits at h
  unfold quiet
  split at h
  case h_1 hchars => rw [hchars]
  case h_2 haccept => rw [haccept]
  case h_3 => cases h

theorem quiet_eq_nil (h : program.inst? t.address = none) : program.quiet p t = [] := by
  rw [quiet, h]

theorem length_quiet_le (program : Program) (p : Place) (t : Thread) :
    (program.quiet p t).length ≤ 2 := by
  unfold quiet
  split <;> try simp
  split <;> simp

end Program

/-- A run of `n` steps from a thread at a place to acceptance at another place. -/
inductive Run (program : Program) : Nat → Place → Thread → Place → Marks → Prop
  | accept {p : Place} {t : Thread} (h : program.inst? t.address = some .accept) :
    Run program 0 p t p t.marks
  | quiet {n : Nat} {p q : Place} {t u : Thread} {m : Marks} (h : u ∈ program.quiet p t)
    (run : Run program n p u q m) : Run program (n + 1) p t q m
  | take {n i : Nat} {previous : Option Char} {c : Char} {rest : List Char} {q : Place}
    {t : Thread} {m : Marks} {set : CharSet} {next : Nat}
    (h : program.inst? t.address = some (.chars set next)) (hc : set.mem c = true)
    (run : Run program n ⟨i + 1, some c, rest⟩ ⟨next, t.marks⟩ q m) :
    Run program (n + 1) ⟨i, previous, c :: rest⟩ t q m

/-- Marks do not decide where a run leads. -/
theorem Run.congr_address (run : Run program n p t q m) (h : t.address = u.address) :
    ∃ m, Run program n p u q m := by
  induction run generalizing u with
  | accept haccept => exact ⟨_, .accept (h ▸ haccept)⟩
  | quiet hquiet _ ih =>
    have hmem := List.mem_map_of_mem hquiet (f := Thread.address)
    rw [Program.map_address_quiet program _ h] at hmem
    obtain ⟨v, hv, hsame⟩ := List.mem_map.1 hmem
    obtain ⟨m, hrun⟩ := ih hsame.symm
    exact ⟨m, .quiet hv hrun⟩
  | take hchars hc _ ih =>
    obtain ⟨m, hrun⟩ := ih (u := ⟨_, u.marks⟩) rfl
    exact ⟨m, .take (h ▸ hchars) hc hrun⟩

/-! ### Settling -/

theorem settle_cons (program : Program) (p : Place) (fuel : Nat) (t : Thread)
    (todo : List Thread) (visited : List Nat) (done : List Thread) :
    settle program p (fuel + 1) (t :: todo) visited done =
      if visited.contains t.address then settle program p fuel todo visited done
      else settle program p fuel (program.quiet p t ++ todo) (t.address :: visited)
        (if program.waits t then t :: done else done) := by
  rw [settle]
  split
  · rfl
  · unfold Program.quiet Program.waits
    cases program.inst? t.address with
    | none => rfl
    | some inst =>
      cases inst <;> try rfl
      dsimp only
      split <;> rfl

/-- What holds of every thread, and goes from thread to thread, holds of those that wait. -/
theorem forall_mem_settle {good : Thread → Prop}
    (hquiet : ∀ t, good t → ∀ u ∈ program.quiet p t, good u) {fuel : Nat} {todo : List Thread}
    {visited : List Nat} {done : List Thread} (htodo : ∀ t ∈ todo, good t)
    (hdone : ∀ t ∈ done, good t) : ∀ t ∈ settle program p fuel todo visited done, good t := by
  induction fuel generalizing todo visited done with
  | zero => simpa [settle] using hdone
  | succ fuel ih =>
    cases todo with
    | nil => simpa [settle] using hdone
    | cons t todo =>
      obtain ⟨ht, htodo⟩ := List.forall_mem_cons.1 htodo
      rw [settle_cons]
      split
      · exact ih htodo hdone
      · refine ih (List.forall_mem_append.2 ⟨hquiet t ht, htodo⟩) ?_
        split
        · exact List.forall_mem_cons.2 ⟨ht, hdone⟩
        · exact hdone

/-- A set of addresses that quiet steps do not leave, and of which those that wait are settled. -/
structure Covers (program : Program) (p : Place) (covered : Nat → Prop) (settled : List Thread) :
    Prop where
  quiet : ∀ t, covered t.address → ∀ u ∈ program.quiet p t, covered u.address
  waits : ∀ t, covered t.address → program.waits t = true → ∃ u ∈ settled, u.address = t.address

/-- The addresses of a program that have not been visited. -/
def unvisited (program : Program) (visited : List Nat) : Finset Nat :=
  Finset.range program.size \ visited.toFinset

theorem card_unvisited_cons {a : Nat} {visited : List Nat} (ha : a < program.size)
    (hnew : a ∉ visited) :
    (unvisited program (a :: visited)).card + 1 = (unvisited program visited).card := by
  have hmem : a ∈ unvisited program visited := by simp [unvisited, ha, hnew]
  rw [unvisited, List.toFinset_cons, Finset.sdiff_insert, ← unvisited]
  exact Finset.card_erase_add_one hmem

theorem card_unvisited_cons_le (program : Program) (a : Nat) (visited : List Nat) :
    (unvisited program (a :: visited)).card ≤ (unvisited program visited).card := by
  refine Finset.card_le_card (Finset.sdiff_subset_sdiff Finset.Subset.rfl ?_)
  rw [List.toFinset_cons]
  exact Finset.subset_insert _ _

/-- Of the visited addresses, quiet steps lead to visited ones or to threads that are still to be
run, and those that wait are done. -/
structure Pending (program : Program) (p : Place) (todo : List Thread) (visited : List Nat)
    (done : List Thread) : Prop where
  quiet : ∀ t : Thread, t.address ∈ visited → ∀ u ∈ program.quiet p t,
    u.address ∈ visited ∨ u.address ∈ todo.map Thread.address
  waits : ∀ t : Thread, t.address ∈ visited → program.waits t = true →
    ∃ u ∈ done, u.address = t.address

namespace Pending

variable {todo : List Thread} {visited : List Nat} {done : List Thread}

theorem covers (h : Pending program p [] visited done) :
    Covers program p (· ∈ visited) done.reverse where
  quiet t ht u hu := by simpa using h.quiet t ht u hu
  waits t ht hwait := by simpa using h.waits t ht hwait

theorem skip (h : Pending program p (t :: todo) visited done) (hold : t.address ∈ visited) :
    Pending program p todo visited done where
  quiet s hs u hu := by
    rcases h.quiet s hs u hu with hu | hu
    · exact .inl hu
    · rw [List.map_cons, List.mem_cons] at hu
      rcases hu with hsame | hu
      · exact .inl (hsame ▸ hold)
      · exact .inr hu
  waits := h.waits

theorem visit (h : Pending program p (t :: todo) visited done) :
    Pending program p (program.quiet p t ++ todo) (t.address :: visited)
      (if program.waits t then t :: done else done) where
  quiet s hs u hu := by
    rw [List.map_append, List.mem_append]
    rcases List.mem_cons.1 hs with hs | hs
    · rw [← Program.map_address_quiet program p hs]
      exact .inr (.inl (List.mem_map_of_mem hu))
    · rcases h.quiet s hs u hu with hu | hu
      · exact .inl (List.mem_cons_of_mem _ hu)
      · rw [List.map_cons, List.mem_cons] at hu
        rcases hu with hsame | hu
        · exact .inl (hsame ▸ List.mem_cons_self)
        · exact .inr (.inr hu)
  waits s hs hwait := by
    rcases List.mem_cons.1 hs with hs | hs
    · have hwait : program.waits t = true := by
        rw [← hwait, Program.waits, Program.waits, hs]
      rw [if_pos hwait]
      exact ⟨t, List.mem_cons_self, hs.symm⟩
    · obtain ⟨u, hu, hsame⟩ := h.waits s hs hwait
      refine ⟨u, ?_, hsame⟩
      split
      · exact List.mem_cons_of_mem _ hu
      · exact hu

end Pending

/-- A visit costs what it adds: two threads at most, if the address is one of the program. -/
theorem length_quiet_add_card_le (program : Program) (p : Place) (hnew : t.address ∉ visited) :
    (program.quiet p t).length + 2 * (unvisited program (t.address :: visited)).card ≤
      2 * (unvisited program visited).card := by
  by_cases ha : t.address < program.size
  · have hcard := card_unvisited_cons ha hnew
    have htwo := program.length_quiet_le p t
    omega
  · have hcard := card_unvisited_cons_le program t.address visited
    have hnone : program.inst? t.address = none := Array.getElem?_eq_none (Nat.le_of_not_lt ha)
    rw [Program.quiet_eq_nil hnone, List.length_nil]
    omega

/-- With enough fuel everything that quiet steps reach is covered. -/
theorem exists_covers_settle {fuel : Nat} {todo : List Thread} {done : List Thread}
    (hfuel : todo.length + 2 * (unvisited program visited).card < fuel)
    (h : Pending program p todo visited done) :
    ∃ covered, Covers program p covered (settle program p fuel todo visited done) ∧
      (∀ a ∈ visited, covered a) ∧ ∀ t ∈ todo, covered t.address := by
  induction fuel generalizing todo visited done with
  | zero => omega
  | succ fuel ih =>
    cases todo with
    | nil => exact ⟨(· ∈ visited), h.covers, fun _ => id, by simp⟩
    | cons t todo =>
      rw [List.length_cons] at hfuel
      rw [settle_cons]
      split
      case isTrue hold =>
        have hold : t.address ∈ visited := by simpa using hold
        obtain ⟨covered, hcovers, hvisited, htodo⟩ := ih (by omega) (h.skip hold)
        exact ⟨covered, hcovers, hvisited, List.forall_mem_cons.2 ⟨hvisited _ hold, htodo⟩⟩
      case isFalse hnew =>
        have hnew : t.address ∉ visited := by simpa using hnew
        have hless := length_quiet_add_card_le program p hnew
        obtain ⟨covered, hcovers, hvisited, htodo⟩ :=
          ih (by rw [List.length_append]; omega) h.visit
        obtain ⟨ht, hvisited⟩ := List.forall_mem_cons.1 hvisited
        exact ⟨covered, hcovers, hvisited,
          List.forall_mem_cons.2 ⟨ht, (List.forall_mem_append.1 htodo).2⟩⟩

/-- A run from a covered address goes through a settled thread. -/
theorem Covers.exists_run {covered : Nat → Prop} {settled : List Thread}
    (h : Covers program p covered settled) (ht : covered t.address) (run : Run program n p t q m) :
    ∃ u ∈ settled, program.waits u = true ∧ ∃ n m, Run program n p u q m := by
  induction run with
  | @accept p t haccept =>
    obtain ⟨u, hu, hsame⟩ := h.waits t ht (by rw [Program.waits, haccept])
    rw [← hsame] at haccept
    exact ⟨u, hu, by rw [Program.waits, haccept], _, _, .accept haccept⟩
  | quiet hquiet _ ih => exact ih h (h.quiet _ ht _ hquiet)
  | @take _ _ _ _ _ _ t _ _ _ hchars hc run _ =>
    obtain ⟨u, hu, hsame⟩ := h.waits t ht (by rw [Program.waits, hchars])
    obtain ⟨m, hrun⟩ := (Run.take hchars hc run).congr_address hsame.symm
    rw [← hsame] at hchars
    exact ⟨u, hu, by rw [Program.waits, hchars], _, _, hrun⟩

/-! ### Searching -/

/-- The threads up to the first one that has accepted are kept, in order. -/
theorem cut_subset (program : Program) (threads : List Thread) :
    (cut program threads).1 ⊆ threads := by
  induction threads with
  | nil => exact List.nil_subset _
  | cons t rest ih =>
    rw [cut]
    split
    · exact List.nil_subset _
    · exact List.cons_subset_cons _ ih

theorem exists_accept_of_cut {threads : List Thread} (h : (cut program threads).2 = some m) :
    ∃ t ∈ threads, program.inst? t.address = some .accept ∧ t.marks = m := by
  induction threads with
  | nil => cases h
  | cons t rest ih =>
    rw [cut] at h
    split at h
    case h_1 haccept => exact ⟨t, List.mem_cons_self, haccept, Option.some.inj h⟩
    case h_2 =>
      obtain ⟨u, hu, haccept⟩ := ih h
      exact ⟨u, List.mem_cons_of_mem _ hu, haccept⟩

/-- Where nothing is cut off, nothing has accepted. -/
theorem not_accept_of_cut {threads : List Thread} (h : (cut program threads).2 = none) :
    (cut program threads).1 = threads ∧
      ∀ t ∈ threads, program.inst? t.address ≠ some .accept := by
  induction threads with
  | nil => exact ⟨rfl, by simp⟩
  | cons t rest ih =>
    rw [cut] at h ⊢
    split at h
    case h_1 => cases h
    case h_2 hne =>
      obtain ⟨hsame, hnone⟩ := ih h
      exact ⟨congrArg (t :: ·) hsame, List.forall_mem_cons.2 ⟨hne, hnone⟩⟩

theorem mem_step {c : Char} {threads : List Thread} :
    u ∈ step program c threads ↔ ∃ t ∈ threads, ∃ set next,
      program.inst? t.address = some (.chars set next) ∧ set.mem c = true ∧
        u = ⟨next, t.marks⟩ := by
  rw [step, List.mem_filterMap]
  refine exists_congr fun t => and_congr_right fun _ => ?_
  constructor
  · intro h
    split at h
    case h_1 set next hchars =>
      by_cases hc : set.mem c = true
      · rw [if_pos hc] at h
        exact ⟨set, next, hchars, hc, (Option.some.inj h).symm⟩
      · rw [if_neg hc] at h
        cases h
    case h_2 => cases h
  · rintro ⟨set, next, hchars, hc, rfl⟩
    simp only [hchars, hc, if_true]

/-- The place of a text between two parts of it. -/
def Place.between (before rest : List Char) : Place := ⟨before.length, before.getLast?, rest⟩

theorem Place.between_concat (before rest : List Char) (c : Char) :
    between (before ++ [c]) rest = ⟨before.length + 1, some c, rest⟩ := by
  simp [between]

/-- The threads that run at a place: a new one comes last unless something has been found. -/
def launched (found : Option Marks) (threads : List Thread) : List Thread :=
  if found.isNone then threads ++ [⟨0, ⟨none, none⟩⟩] else threads

theorem mem_launched {threads : List Thread} :
    t ∈ launched none threads ↔ t ∈ threads ∨ t = ⟨0, ⟨none, none⟩⟩ := by
  simp [launched]

/-- The threads that wait at a place. -/
def settled (program : Program) (p : Place) (threads : List Thread) : List Thread :=
  settle program p (threads.length + 2 * program.size + 1) threads [] []

theorem exists_run_settled {threads : List Thread} (ht : t ∈ threads)
    (run : Run program n p t q m) :
    ∃ u ∈ settled program p threads, program.waits u = true ∧ ∃ n m, Run program n p u q m := by
  have hcard : (unvisited program []).card = program.size := by simp [unvisited]
  have hfuel : threads.length + 2 * (unvisited program []).card <
      threads.length + 2 * program.size + 1 := by omega
  have hpending : Pending program p threads [] [] := ⟨by simp, by simp⟩
  obtain ⟨covered, hcovers, -, htodo⟩ := exists_covers_settle hfuel hpending
  exact hcovers.exists_run (htodo t ht) run

theorem searchFrom_nil (program : Program) (found : Option Marks) (threads : List Thread)
    (i : Nat) (previous : Option Char) :
    searchFrom program found threads i previous [] =
      (cut program (settled program ⟨i, previous, []⟩ (launched found threads))).2.or found := by
  rw [searchFrom]
  rfl

theorem searchFrom_cons (program : Program) (found : Option Marks) (threads : List Thread)
    (i : Nat) (previous : Option Char) (c : Char) (rest : List Char) :
    searchFrom program found threads i previous (c :: rest) =
      let here := cut program (settled program ⟨i, previous, c :: rest⟩ (launched found threads))
      if here.1.isEmpty && (here.2.or found).isSome then here.2.or found
      else searchFrom program (here.2.or found) (step program c here.1) (i + 1) (some c) rest := by
  rw [searchFrom]
  rfl

/-- What holds of the threads that start in a text and of all that come of them. -/
structure Followed (program : Program) (s : List Char) (good : Place → Thread → Prop) : Prop where
  start : ∀ before rest, s = before ++ rest → good (.between before rest) ⟨0, ⟨none, none⟩⟩
  quiet : ∀ p t, good p t → ∀ u ∈ program.quiet p t, good p u
  take : ∀ i previous c rest t set next, good ⟨i, previous, c :: rest⟩ t →
    program.inst? t.address = some (.chars set next) → set.mem c = true →
    good ⟨i + 1, some c, rest⟩ ⟨next, t.marks⟩

section

variable {s before rest : List Char} {found : Option Marks} {threads : List Thread}
  {good : Place → Thread → Prop}

theorem Followed.settled (h : Followed program s good) (found : Option Marks)
    (hs : s = before ++ rest) (hthreads : ∀ t ∈ threads, good (.between before rest) t) :
    ∀ t ∈ settled program (.between before rest) (launched found threads),
      good (.between before rest) t := by
  refine forall_mem_settle (h.quiet _) ?_ (by simp)
  rw [launched]
  split
  · exact List.forall_mem_append.2 ⟨hthreads, by simpa using h.start before rest hs⟩
  · exact hthreads

theorem Followed.step {c : Char} (h : Followed program s good)
    (hthreads : ∀ t ∈ threads, good (.between before (c :: rest)) t) :
    ∀ t ∈ step program c threads, good (.between (before ++ [c]) rest) t := by
  intro u hu
  obtain ⟨t, ht, set, next, hchars, hc, rfl⟩ := mem_step.1 hu
  rw [Place.between_concat]
  exact h.take _ _ _ _ _ _ _ (hthreads t ht) hchars hc

/-- What is found at a place was found before, or is the marks of a followed thread. -/
theorem Followed.found_here (h : Followed program s good) (hs : s = before ++ rest)
    (hthreads : ∀ t ∈ threads, good (.between before rest) t)
    (hm : (cut program (Pattern.settled program (.between before rest)
      (launched found threads))).2.or found = some m) :
    found = some m ∨
      ∃ p t, good p t ∧ program.inst? t.address = some .accept ∧ t.marks = m := by
  rcases Option.or_eq_some_iff.1 hm with hcut | ⟨-, hfound⟩
  · obtain ⟨t, ht, haccept⟩ := exists_accept_of_cut hcut
    exact .inr ⟨_, t, h.settled found hs hthreads t ht, haccept⟩
  · exact .inl hfound

/-- What the search finds on its way are marks of followed threads that have accepted. -/
theorem Followed.searchFrom (h : Followed program s good) (before : List Char)
    (hs : s = before ++ rest) (hthreads : ∀ t ∈ threads, good (.between before rest) t)
    (hsearch : searchFrom program found threads before.length before.getLast? rest = some m) :
    found = some m ∨
      ∃ p t, good p t ∧ program.inst? t.address = some .accept ∧ t.marks = m := by
  induction rest generalizing before found threads with
  | nil =>
    rw [searchFrom_nil] at hsearch
    exact h.found_here hs hthreads hsearch
  | cons c rest ih =>
    rw [searchFrom_cons, ← Place.between] at hsearch
    dsimp only at hsearch
    split at hsearch
    · exact h.found_here hs hthreads hsearch
    · have hlive := fun t ht => h.settled found hs hthreads t (cut_subset program _ ht)
      have hsearch := ih (before ++ [c]) (by simpa using hs) (h.step hlive) (by simpa using hsearch)
      rcases hsearch with hfound | hgood
      · exact h.found_here hs hthreads hfound
      · exact .inr hgood

/-- The marks that a search answers with are those of a run that starts in the text. -/
theorem exists_run_of_search (h : search program s = some m) :
    ∃ before rest, s = before ++ rest ∧
      ∃ n q, Run program n (.between before rest) ⟨0, ⟨none, none⟩⟩ q m := by
  -- A thread is followed if whatever it runs into is run into from a start in the text.
  let good (p : Place) (t : Thread) : Prop := ∀ n q m, Run program n p t q m →
    ∃ before rest, s = before ++ rest ∧
      ∃ n q, Run program n (.between before rest) ⟨0, ⟨none, none⟩⟩ q m
  have hfollowed : Followed program s good :=
    { start := fun before rest hs n q m run => ⟨before, rest, hs, n, q, run⟩
      quiet := fun p t ht u hu n q m run => ht _ q m (.quiet hu run)
      take := fun i previous c rest t set next ht hchars hc n q m run =>
        ht _ q m (.take hchars hc run) }
  rcases hfollowed.searchFrom [] rfl (List.forall_mem_nil _) h with hnone | hgood
  · cases hnone
  · obtain ⟨p, t, ht, haccept, rfl⟩ := hgood
    exact ht _ _ _ (.accept haccept)

theorem isSome_searchFrom_of_found (h : found.isSome) (i : Nat) (previous : Option Char) :
    (searchFrom program found threads i previous rest).isSome := by
  induction rest generalizing found threads i previous with
  | nil =>
    rw [searchFrom_nil]
    simp [Option.isSome_or, h]
  | cons c rest ih =>
    have hor : ∀ o : Option Marks, (o.or found).isSome := fun o => by simp [Option.isSome_or, h]
    rw [searchFrom_cons]
    dsimp only
    split
    · exact hor _
    · exact ih (hor _) _ _

/-- A thread that waits for a character and has a run moves on with it. -/
theorem exists_run_step {c : Char} (ht : t ∈ threads)
    (hne : program.inst? t.address ≠ some .accept) (hwait : program.waits t = true)
    (run : Run program n (.between before (c :: rest)) t q m) :
    ∃ u ∈ step program c threads, ∃ n, Run program n (.between (before ++ [c]) rest) u q m := by
  rw [Place.between] at run
  cases run with
  | accept haccept => exact absurd haccept hne
  | quiet hquiet _ => exact absurd hquiet (by simp [Program.quiet_of_waits hwait])
  | take hchars hc run =>
    rw [Place.between_concat]
    exact ⟨_, mem_step.2 ⟨t, ht, _, _, hchars, hc, rfl⟩, _, run⟩

/-- A run at the end of the text has accepted there. -/
theorem accept_of_run_nil (hwait : program.waits t = true)
    (run : Run program n (.between before []) t q m) :
    program.inst? t.address = some .accept := by
  rw [Place.between] at run
  cases run with
  | accept haccept => exact haccept
  | quiet hquiet _ => exact absurd hquiet (by simp [Program.quiet_of_waits hwait])

/-- Whether a thread at a place, or a new one there or further on, has a run. -/
inductive Ahead (program : Program) (threads : List Thread) (before rest : List Char) : Prop
  | here {t : Thread} {n : Nat} {q : Place} {m : Marks} (ht : t ∈ launched none threads)
    (run : Run program n (.between before rest) t q m)
  | later {c : Char} {taken left : List Char} {n : Nat} {q : Place} {m : Marks}
    (hrest : rest = c :: taken ++ left)
    (run : Run program n (.between (before ++ c :: taken) left) ⟨0, ⟨none, none⟩⟩ q m)

/-- What lies ahead of a place is found there or lies ahead of the next one. -/
theorem Ahead.next {c : Char} (h : Ahead program threads before (c :: rest))
    (hcut : (cut program (settled program (.between before (c :: rest))
      (launched none threads))).2 = none) :
    Ahead program (step program c (cut program (settled program (.between before (c :: rest))
      (launched none threads))).1) (before ++ [c]) rest := by
  cases h with
  | here ht run =>
    obtain ⟨u, hu, hwait, n, m, run⟩ := exists_run_settled ht run
    obtain ⟨hsame, hnone⟩ := not_accept_of_cut hcut
    obtain ⟨v, hv, n, run⟩ := exists_run_step hu (hnone u hu) hwait run
    rw [hsame]
    exact .here (mem_launched.2 (.inl hv)) run
  | @later _ taken left _ _ _ hrest run =>
    obtain ⟨rfl, rfl⟩ := List.cons.inj hrest
    cases taken with
    | nil => exact .here (mem_launched.2 (.inr rfl)) run
    | cons d taken => exact .later rfl (by simpa using run)

/-- A search with a run ahead of it comes to something. -/
theorem isSome_searchFrom (h : Ahead program threads before rest) :
    (searchFrom program none threads before.length before.getLast? rest).isSome := by
  induction rest generalizing before threads with
  | nil =>
    cases h with
    | here ht run =>
      obtain ⟨u, hu, hwait, n, m, run⟩ := exists_run_settled ht run
      rw [searchFrom_nil, Option.or_none]
      by_contra hnone
      rw [Option.not_isSome_iff_eq_none] at hnone
      exact (not_accept_of_cut hnone).2 u hu (accept_of_run_nil hwait run)
    | later hrest _ => cases hrest
  | cons c rest ih =>
    rw [searchFrom_cons, ← Place.between]
    dsimp only
    rw [Option.or_none]
    cases hcut : (cut program (settled program (.between before (c :: rest))
        (launched none threads))).2 with
    | some m =>
      split
      · rfl
      · exact isSome_searchFrom_of_found rfl _ _
    | none =>
      rw [if_neg (by simp)]
      simpa using ih (h.next hcut)

end

/-- A search comes to nothing only if no run starts in the text. -/
theorem isSome_search_iff {s : List Char} :
    (search program s).isSome ↔ ∃ before rest, s = before ++ rest ∧
      ∃ n q m, Run program n (.between before rest) ⟨0, ⟨none, none⟩⟩ q m := by
  constructor
  · intro h
    obtain ⟨m, hm⟩ := Option.isSome_iff_exists.1 h
    obtain ⟨before, rest, hs, n, q, run⟩ := exists_run_of_search hm
    exact ⟨before, rest, hs, n, q, m, run⟩
  · rintro ⟨before, rest, rfl, n, q, m, run⟩
    have hahead : Ahead program [] [] (before ++ rest) := by
      cases before with
      | nil => exact .here (mem_launched.2 (.inr rfl)) run
      | cons c before => exact .later rfl run
    exact isSome_searchFrom hahead

end ImportWeb.Pattern
