import ImportWeb.Pattern
import ImportWeb.Proofs.Pattern.Run

/-!
What a regular expression matches, said of the expression alone. The code of an expression runs
from its first instruction to its exit exactly along the matches, so a pattern matches a text
exactly if its expression matches somewhere in it, and what its group captures stands between
the marks of such a match.
-/

namespace ImportWeb.Pattern

/-- An expression matches from a place to another one; the marks are those before and after. -/
inductive Expr.Matches (marked : List Char) : Expr → Place → Marks → Place → Marks → Prop
  | empty {p : Place} {m : Marks} : Matches marked .empty p m p m
  | chars {set : CharSet} {i : Nat} {previous : Option Char} {c : Char} {rest : List Char}
    {m : Marks} (hc : set.mem c = true) :
    Matches marked (.chars set) ⟨i, previous, c :: rest⟩ m ⟨i + 1, some c, rest⟩ m
  | look {l : Look} {p : Place} {m : Marks} (h : l.holds p = true) :
    Matches marked (.look l) p m p m
  | marked {e : Expr} {p q : Place} {m m' : Marks}
    (h : Matches marked e p { m with opened := some p.index } q m') :
    Matches marked (.group (some marked) e) p m q { m' with closed := some q.index }
  | unmarked {name : Option (List Char)} {e : Expr} {p q : Place} {m m' : Marks}
    (hname : name ≠ some marked) (h : Matches marked e p m q m') :
    Matches marked (.group name e) p m q m'
  | cat {a b : Expr} {p q r : Place} {m m' m'' : Marks} (ha : Matches marked a p m q m')
    (hb : Matches marked b q m' r m'') : Matches marked (.cat a b) p m r m''
  | first {a b : Expr} {p q : Place} {m m' : Marks} (h : Matches marked a p m q m') :
    Matches marked (.alt a b) p m q m'
  | second {a b : Expr} {p q : Place} {m m' : Marks} (h : Matches marked b p m q m') :
    Matches marked (.alt a b) p m q m'
  | optNone {greedy : Bool} {e : Expr} {p : Place} {m : Marks} :
    Matches marked (.opt greedy e) p m p m
  | optSome {greedy : Bool} {e : Expr} {p q : Place} {m m' : Marks}
    (h : Matches marked e p m q m') : Matches marked (.opt greedy e) p m q m'
  | plusLast {greedy : Bool} {e : Expr} {p q : Place} {m m' : Marks}
    (h : Matches marked e p m q m') : Matches marked (.plus greedy e) p m q m'
  | plusMore {greedy : Bool} {e : Expr} {p q r : Place} {m m' m'' : Marks}
    (h : Matches marked e p m q m') (more : Matches marked (.plus greedy e) q m' r m'') :
    Matches marked (.plus greedy e) p m r m''
  | starNone {greedy : Bool} {e : Expr} {p : Place} {m : Marks} :
    Matches marked (.star greedy e) p m p m
  | starMore {greedy : Bool} {e : Expr} {p q r : Place} {m m' m'' : Marks}
    (h : Matches marked e p m q m') (more : Matches marked (.star greedy e) q m' r m'') :
    Matches marked (.star greedy e) p m r m''
  | timesNone {e : Expr} {p : Place} {m : Marks} : Matches marked (.times 0 e) p m p m
  | timesMore {n : Nat} {e : Expr} {p q r : Place} {m m' m'' : Marks}
    (h : Matches marked e p m q m') (more : Matches marked (.times n e) q m' r m'') :
    Matches marked (.times (n + 1) e) p m r m''
  | upToNone {greedy : Bool} {n : Nat} {e : Expr} {p : Place} {m : Marks} :
    Matches marked (.upTo greedy n e) p m p m
  | upToMore {greedy : Bool} {n : Nat} {e : Expr} {p q r : Place} {m m' m'' : Marks}
    (h : Matches marked e p m q m') (more : Matches marked (.upTo greedy n e) q m' r m'') :
    Matches marked (.upTo greedy (n + 1) e) p m r m''

/-! ### Code in its place -/

/-- A program has some code from an address on. -/
def Placed (program : Program) (start : Nat) (code : List Inst) : Prop :=
  ∀ i < code.length, program.inst? (start + i) = code[i]?

variable {program : Program} {marked : List Char} {start exit : Nat}

theorem placed_append {a b : List Inst} :
    Placed program start (a ++ b) ↔
      Placed program start a ∧ Placed program (start + a.length) b := by
  constructor
  · intro h
    constructor
    · intro i hi
      rw [h i (by rw [List.length_append]; omega), List.getElem?_append_left hi]
    · intro i hi
      rw [Nat.add_assoc, h _ (by rw [List.length_append]; omega),
        List.getElem?_append_right (by omega), Nat.add_sub_cancel_left]
  · rintro ⟨ha, hb⟩ i hi
    rw [List.length_append] at hi
    by_cases hlt : i < a.length
    · rw [ha i hlt, List.getElem?_append_left hlt]
    · have hb := hb (i - a.length) (by omega)
      rw [Nat.add_assoc, Nat.add_sub_cancel' (by omega)] at hb
      rw [hb, List.getElem?_append_right (by omega)]

theorem placed_singleton {inst : Inst} :
    Placed program start [inst] ↔ program.inst? start = some inst := by
  simp [Placed]

theorem placed_cons {inst : Inst} {code : List Inst} :
    Placed program start (inst :: code) ↔
      program.inst? start = some inst ∧ Placed program (start + 1) code := by
  rw [← List.singleton_append, placed_append, placed_singleton]
  rfl

namespace Expr

/-- The first of a number of turns comes before the code of the others. -/
theorem code_times_succ (marked : List Char) (n : Nat) (e : Expr) (start exit : Nat) :
    (times (n + 1) e).code marked start exit =
      e.code marked start (start + e.codeSize marked) ++
        (times n e).code marked (start + e.codeSize marked) exit := by
  have hturn (i : Nat) : start + (i + 1) * e.codeSize marked =
      start + e.codeSize marked + i * e.codeSize marked := by
    rw [Nat.add_mul, Nat.one_mul, Nat.add_assoc, Nat.add_comm (i * _)]
  simp only [code, List.range_succ_eq_map, List.flatMap_cons, List.flatMap_map, hturn,
    Nat.zero_mul, Nat.add_zero, List.append_assoc]

/-- The first of a limited number of turns comes before the code of the others. -/
theorem code_upTo_succ (marked : List Char) (greedy : Bool) (n : Nat) (e : Expr)
    (start exit : Nat) :
    (upTo greedy (n + 1) e).code marked start exit =
      choose greedy (start + 1) exit ::
        (e.code marked (start + 1) (start + (e.codeSize marked + 1)) ++
          (upTo greedy n e).code marked (start + (e.codeSize marked + 1)) exit) := by
  have hturn (i : Nat) : start + (i + 1) * (e.codeSize marked + 1) =
      start + (e.codeSize marked + 1) + i * (e.codeSize marked + 1) := by
    rw [Nat.add_mul i, Nat.one_mul, Nat.add_assoc, Nat.add_comm (i * _)]
  simp only [code, List.range_succ_eq_map, List.flatMap_cons, List.flatMap_map, hturn,
    Nat.zero_mul, Nat.add_zero, List.append_assoc, List.cons_append]

end Expr

/-! ### Runs through code -/

variable {n : Nat} {p q r : Place} {t : Thread} {m m' w : Marks} {a : Nat}

/-- A run from a thread that does not wait begins with a quiet step. -/
theorem Run.exists_quiet (h : program.waits t = false) (run : Run program n p t q m) :
    ∃ u ∈ program.quiet p t, ∃ k < n, Run program k p u q m := by
  cases run with
  | accept haccept => simp [Program.waits, haccept] at h
  | quiet hquiet run => exact ⟨_, hquiet, _, Nat.lt_succ_self _, run⟩
  | take hchars => simp [Program.waits, hchars] at h

theorem Run.of_jump {next : Nat} (h : program.inst? a = some (.jump next))
    (run : Run program n p ⟨a, m⟩ r w) : ∃ k < n, Run program k p ⟨next, m⟩ r w := by
  obtain ⟨u, hu, k, hk, run⟩ := run.exists_quiet (by simp [Program.waits, h])
  simp only [Program.quiet, h, List.mem_singleton] at hu
  exact ⟨k, hk, hu ▸ run⟩

theorem Run.of_choose {greedy : Bool} {inside outside : Nat}
    (h : program.inst? a = some (Expr.choose greedy inside outside))
    (run : Run program n p ⟨a, m⟩ r w) :
    ∃ k < n, Run program k p ⟨inside, m⟩ r w ∨ Run program k p ⟨outside, m⟩ r w := by
  cases greedy <;>
  · obtain ⟨u, hu, k, hk, run⟩ := run.exists_quiet (by simp [Program.waits, h, Expr.choose])
    simp only [Program.quiet, h, Expr.choose, if_true, if_false, List.mem_cons,
      List.not_mem_nil, or_false, Bool.false_eq_true] at hu
    refine ⟨k, hk, ?_⟩
    rcases hu with rfl | rfl
    · first | exact .inl run | exact .inr run
    · first | exact .inr run | exact .inl run

theorem Run.choose_inside {greedy : Bool} {inside outside : Nat}
    (h : program.inst? a = some (Expr.choose greedy inside outside))
    (run : Run program n p ⟨inside, m⟩ r w) : Run program (n + 1) p ⟨a, m⟩ r w := by
  refine .quiet ?_ run
  cases greedy <;> simp [Program.quiet, h, Expr.choose]

theorem Run.choose_outside {greedy : Bool} {inside outside : Nat}
    (h : program.inst? a = some (Expr.choose greedy inside outside))
    (run : Run program n p ⟨outside, m⟩ r w) : Run program (n + 1) p ⟨a, m⟩ r w := by
  refine .quiet ?_ run
  cases greedy <;> simp [Program.quiet, h, Expr.choose]

/-- A match followed by a run from the exit is a run from the start. -/
theorem Expr.Matches.exists_run {e : Expr} (h : e.Matches marked p m q m')
    (hplaced : Placed program start (e.code marked start exit))
    (run : Run program n q ⟨exit, m'⟩ r w) : ∃ n, Run program n p ⟨start, m⟩ r w := by
  induction h generalizing start exit n with
  | empty =>
    rw [code, placed_singleton] at hplaced
    exact ⟨_, .quiet (by simp [Program.quiet, hplaced]) run⟩
  | chars hc =>
    rw [code, placed_singleton] at hplaced
    exact ⟨_, .take hplaced hc run⟩
  | look hholds =>
    rw [code, placed_singleton] at hplaced
    exact ⟨_, .quiet (by simp [Program.quiet, hplaced, hholds]) run⟩
  | marked _ ih =>
    rw [code, if_pos rfl, placed_cons, placed_append, length_code, placed_singleton] at hplaced
    obtain ⟨hopening, hbody, hclosing⟩ := hplaced
    obtain ⟨n, run⟩ := ih hbody (.quiet (by simp [Program.quiet, hclosing]) run)
    exact ⟨_, .quiet (by simp [Program.quiet, hopening]) run⟩
  | unmarked hname _ ih =>
    rw [code, if_neg hname] at hplaced
    exact ih hplaced run
  | cat _ _ iha ihb =>
    rw [code, placed_append, length_code] at hplaced
    obtain ⟨n, run⟩ := ihb hplaced.2 run
    exact iha hplaced.1 run
  | first _ ih =>
    rw [code, placed_cons, placed_append] at hplaced
    obtain ⟨n, run⟩ := ih hplaced.2.1 run
    exact ⟨_, .quiet (by simp [Program.quiet, hplaced.1]) run⟩
  | second _ ih =>
    rw [code, placed_cons, placed_append, length_code] at hplaced
    obtain ⟨n, run⟩ := ih hplaced.2.2 run
    exact ⟨_, .quiet (by simp [Program.quiet, hplaced.1]) run⟩
  | optNone =>
    rw [code, placed_cons] at hplaced
    exact ⟨_, run.choose_outside hplaced.1⟩
  | optSome _ ih =>
    rw [code, placed_cons] at hplaced
    obtain ⟨n, run⟩ := ih hplaced.2 run
    exact ⟨_, run.choose_inside hplaced.1⟩
  | plusLast _ ih =>
    rw [code, placed_append, length_code, placed_singleton] at hplaced
    exact ih hplaced.1 (run.choose_outside hplaced.2)
  | plusMore _ _ ih ihmore =>
    obtain ⟨n, run⟩ := ihmore hplaced run
    rw [code, placed_append, length_code, placed_singleton] at hplaced
    exact ih hplaced.1 (run.choose_inside hplaced.2)
  | starNone =>
    rw [code, placed_cons] at hplaced
    exact ⟨_, run.choose_outside hplaced.1⟩
  | starMore _ _ ih ihmore =>
    obtain ⟨n, run⟩ := ihmore hplaced run
    rw [code, placed_cons] at hplaced
    obtain ⟨n, run⟩ := ih hplaced.2 run
    exact ⟨_, run.choose_inside hplaced.1⟩
  | timesNone =>
    rw [code] at hplaced
    have hjump := placed_singleton.1 hplaced
    exact ⟨_, .quiet (by simp [Program.quiet, hjump]) run⟩
  | timesMore _ _ ih ihmore =>
    rw [code_times_succ, placed_append, length_code] at hplaced
    obtain ⟨n, run⟩ := ihmore hplaced.2 run
    exact ih hplaced.1 run
  | @upToNone greedy k e _ _ =>
    cases k with
    | zero =>
      rw [code] at hplaced
      have hjump := placed_singleton.1 hplaced
      exact ⟨_, .quiet (by simp [Program.quiet, hjump]) run⟩
    | succ k =>
      rw [code_upTo_succ, placed_cons] at hplaced
      exact ⟨_, run.choose_outside hplaced.1⟩
  | upToMore _ _ ih ihmore =>
    rw [code_upTo_succ, placed_cons, placed_append, length_code, Nat.add_assoc start,
      Nat.add_comm 1] at hplaced
    obtain ⟨n, run⟩ := ihmore hplaced.2.2 run
    obtain ⟨n, run⟩ := ih hplaced.2.1 run
    exact ⟨_, run.choose_inside hplaced.1⟩

namespace Expr

/-- A run into the code of an expression goes along a match to the exit, and is shorter from there
on. -/
def Tracks (marked : List Char) (e : Expr) : Prop :=
  ∀ ⦃program : Program⦄ ⦃start exit n : Nat⦄ ⦃p r : Place⦄ ⦃m w : Marks⦄,
    Placed program start (e.code marked start exit) → Run program n p ⟨start, m⟩ r w →
      ∃ q m' k, k < n ∧ e.Matches marked p m q m' ∧ Run program k q ⟨exit, m'⟩ r w

variable {b e : Expr}

theorem tracks_empty : empty.Tracks marked := by
  intro program start exit n p r m w hplaced run
  rw [code, placed_singleton] at hplaced
  obtain ⟨k, hk, run⟩ := run.of_jump hplaced
  exact ⟨p, m, k, hk, .empty, run⟩

theorem tracks_chars (set : CharSet) : (chars set).Tracks marked := by
  intro program start exit n p r m w hplaced run
  rw [code, placed_singleton] at hplaced
  cases run with
  | accept haccept => simp [hplaced] at haccept
  | quiet hquiet => simp [Program.quiet, hplaced] at hquiet
  | take hchars hc run =>
    rw [hplaced] at hchars
    cases hchars
    exact ⟨_, _, _, Nat.lt_succ_self _, .chars hc, run⟩

theorem tracks_look (l : Look) : (look l).Tracks marked := by
  intro program start exit n p r m w hplaced run
  rw [code, placed_singleton] at hplaced
  obtain ⟨u, hu, k, hk, run⟩ := run.exists_quiet (by simp [Program.waits, hplaced])
  by_cases hholds : l.holds p = true
  · simp only [Program.quiet, hplaced, hholds, if_true, List.mem_singleton] at hu
    exact ⟨p, m, k, hk, .look hholds, hu ▸ run⟩
  · simp [Program.quiet, hplaced, hholds] at hu

theorem Tracks.group_marked (h : e.Tracks marked) : (group (some marked) e).Tracks marked := by
  intro program start exit n p r m w hplaced run
  rw [code, if_pos rfl, placed_cons, placed_append, length_code, placed_singleton] at hplaced
  obtain ⟨hopening, hbody, hclosing⟩ := hplaced
  obtain ⟨u, hu, k, hk, run⟩ := run.exists_quiet (by simp [Program.waits, hopening])
  simp only [Program.quiet, hopening, List.mem_singleton] at hu
  obtain ⟨q, m', j, hj, hmatch, run⟩ := h hbody (hu ▸ run)
  obtain ⟨u, hu, i, hi, run⟩ := run.exists_quiet (by simp [Program.waits, hclosing])
  simp only [Program.quiet, hclosing, List.mem_singleton] at hu
  exact ⟨q, _, i, by omega, .marked hmatch, hu ▸ run⟩

theorem Tracks.group_unmarked {name : Option (List Char)} (h : e.Tracks marked)
    (hname : name ≠ some marked) : (group name e).Tracks marked := by
  intro program start exit n p r m w hplaced run
  rw [code, if_neg hname] at hplaced
  obtain ⟨q, m', k, hk, hmatch, run⟩ := h hplaced run
  exact ⟨q, m', k, hk, .unmarked hname hmatch, run⟩

theorem Tracks.cat (h : e.Tracks marked) (hb : b.Tracks marked) : (cat e b).Tracks marked := by
  intro program start exit n p r m w hplaced run
  rw [code, placed_append, length_code] at hplaced
  obtain ⟨q, m', k, hk, hfirst, run⟩ := h hplaced.1 run
  obtain ⟨q', m'', j, hj, hsecond, run⟩ := hb hplaced.2 run
  exact ⟨q', m'', j, by omega, .cat hfirst hsecond, run⟩

theorem Tracks.alt (h : e.Tracks marked) (hb : b.Tracks marked) : (alt e b).Tracks marked := by
  intro program start exit n p r m w hplaced run
  rw [code, placed_cons, placed_append, length_code] at hplaced
  obtain ⟨hsplit, hfirst, hsecond⟩ := hplaced
  obtain ⟨u, hu, k, hk, run⟩ := run.exists_quiet (by simp [Program.waits, hsplit])
  simp only [Program.quiet, hsplit, List.mem_cons, List.not_mem_nil, or_false] at hu
  rcases hu with rfl | rfl
  · obtain ⟨q, m', j, hj, hmatch, run⟩ := h hfirst run
    exact ⟨q, m', j, by omega, .first hmatch, run⟩
  · obtain ⟨q, m', j, hj, hmatch, run⟩ := hb hsecond run
    exact ⟨q, m', j, by omega, .second hmatch, run⟩

theorem Tracks.opt (h : e.Tracks marked) (greedy : Bool) : (opt greedy e).Tracks marked := by
  intro program start exit n p r m w hplaced run
  rw [code, placed_cons] at hplaced
  obtain ⟨k, hk, run | run⟩ := run.of_choose hplaced.1
  · obtain ⟨q, m', j, hj, hmatch, run⟩ := h hplaced.2 run
    exact ⟨q, m', j, by omega, .optSome hmatch, run⟩
  · exact ⟨p, m, k, hk, .optNone, run⟩

theorem Tracks.plus (h : e.Tracks marked) (greedy : Bool) : (plus greedy e).Tracks marked := by
  intro program start exit n p r m w hplaced run
  have hcode := hplaced
  rw [code, placed_append, length_code, placed_singleton] at hcode
  -- Each turn makes the run shorter, so the number of turns is found by its length.
  induction n using Nat.strong_induction_on generalizing p m with
  | _ n ih =>
    obtain ⟨q, m', k, hk, hmatch, run⟩ := h hcode.1 run
    obtain ⟨j, hj, run | run⟩ := run.of_choose hcode.2
    · obtain ⟨q', m'', i, hi, hmore, run⟩ := ih j (by omega) run
      exact ⟨q', m'', i, by omega, .plusMore hmatch hmore, run⟩
    · exact ⟨q, m', j, by omega, .plusLast hmatch, run⟩

theorem Tracks.star (h : e.Tracks marked) (greedy : Bool) : (star greedy e).Tracks marked := by
  intro program start exit n p r m w hplaced run
  rw [code, placed_cons] at hplaced
  induction n using Nat.strong_induction_on generalizing p m with
  | _ n ih =>
    obtain ⟨k, hk, run | run⟩ := run.of_choose hplaced.1
    · obtain ⟨q, m', j, hj, hmatch, run⟩ := h hplaced.2 run
      obtain ⟨q', m'', i, hi, hmore, run⟩ := ih j (by omega) run
      exact ⟨q', m'', i, by omega, .starMore hmatch hmore, run⟩
    · exact ⟨p, m, k, hk, .starNone, run⟩

theorem Tracks.times (h : e.Tracks marked) (turns : Nat) : (times turns e).Tracks marked := by
  intro program start exit n p r m w hplaced run
  induction turns generalizing start n p m with
  | zero =>
    rw [code] at hplaced
    obtain ⟨j, hj, run⟩ := run.of_jump (placed_singleton.1 hplaced)
    exact ⟨p, m, j, hj, .timesNone, run⟩
  | succ turns ih =>
    rw [code_times_succ, placed_append, length_code] at hplaced
    obtain ⟨q, m', j, hj, hmatch, run⟩ := h hplaced.1 run
    obtain ⟨q', m'', i, hi, hmore, run⟩ := ih hplaced.2 run
    exact ⟨q', m'', i, by omega, .timesMore hmatch hmore, run⟩

theorem Tracks.upTo (h : e.Tracks marked) (greedy : Bool) (turns : Nat) :
    (upTo greedy turns e).Tracks marked := by
  intro program start exit n p r m w hplaced run
  induction turns generalizing start n p m with
  | zero =>
    rw [code] at hplaced
    obtain ⟨j, hj, run⟩ := run.of_jump (placed_singleton.1 hplaced)
    exact ⟨p, m, j, hj, .upToNone, run⟩
  | succ turns ih =>
    rw [code_upTo_succ, placed_cons, placed_append, length_code, Nat.add_assoc start,
      Nat.add_comm 1] at hplaced
    obtain ⟨j, hj, run | run⟩ := run.of_choose hplaced.1
    · obtain ⟨q, m', i, hi, hmatch, run⟩ := h hplaced.2.1 run
      obtain ⟨q', m'', k, hk, hmore, run⟩ := ih hplaced.2.2 run
      exact ⟨q', m'', k, by omega, .upToMore hmatch hmore, run⟩
    · exact ⟨p, m, j, hj, .upToNone, run⟩

theorem tracks (marked : List Char) (e : Expr) : e.Tracks marked := by
  induction e with
  | empty => exact tracks_empty
  | chars set => exact tracks_chars set
  | look l => exact tracks_look l
  | group name e ih =>
    by_cases hname : name = some marked
    · exact hname ▸ ih.group_marked
    · exact ih.group_unmarked hname
  | cat a b iha ihb => exact iha.cat ihb
  | alt a b iha ihb => exact iha.alt ihb
  | opt greedy e ih => exact ih.opt greedy
  | plus greedy e ih => exact ih.plus greedy
  | star greedy e ih => exact ih.star greedy
  | times n e ih => exact ih.times n
  | upTo greedy n e ih => exact ih.upTo greedy n

end Expr

/-! ### Whole programs -/

theorem placed_program (marked : List Char) (e : Expr) :
    Placed (e.program marked) 0 (e.code marked 0 (e.codeSize marked)) ∧
      (e.program marked).inst? (e.codeSize marked) = some .accept := by
  have hplaced :
      Placed (e.program marked) 0 (e.code marked 0 (e.codeSize marked) ++ [.accept]) := by
    intro i _
    rw [Nat.zero_add, Program.inst?, Expr.program, List.getElem?_toArray]
  rw [placed_append, Expr.length_code, Nat.zero_add, placed_singleton] at hplaced
  exact hplaced

/-- The runs of an expression's program are its matches. -/
theorem Expr.exists_run_program_iff {e : Expr} :
    (∃ n, Run (e.program marked) n p ⟨0, m⟩ q w) ↔ e.Matches marked p m q w := by
  obtain ⟨hcode, haccept⟩ := placed_program marked e
  constructor
  · rintro ⟨n, run⟩
    obtain ⟨q', m', k, -, hmatch, run⟩ := e.tracks marked hcode run
    cases run with
    | accept => exact hmatch
    | quiet hquiet => simp [Program.quiet, haccept] at hquiet
    | take hchars => simp [haccept] at hchars
  · intro h
    exact h.exists_run hcode (.accept (t := ⟨e.codeSize marked, w⟩) haccept)

/-- Some match starts between two parts of a text; nothing is marked before it. -/
def Expr.MatchesAt (marked : List Char) (e : Expr) (before rest : List Char) : Prop :=
  ∃ q m, e.Matches marked (.between before rest) ⟨none, none⟩ q m

theorem isSome_search_program_iff {e : Expr} {s : List Char} :
    (search (e.program marked) s).isSome ↔
      ∃ before rest, s = before ++ rest ∧ e.MatchesAt marked before rest := by
  rw [isSome_search_iff]
  constructor
  · rintro ⟨before, rest, hs, n, q, m, run⟩
    exact ⟨before, rest, hs, q, m, Expr.exists_run_program_iff.1 ⟨n, run⟩⟩
  · rintro ⟨before, rest, hs, q, m, hmatch⟩
    obtain ⟨n, run⟩ := Expr.exists_run_program_iff.2 hmatch
    exact ⟨before, rest, hs, n, q, m, run⟩

/-- The marks that a search answers with are those of a match in the text. -/
theorem exists_matches_of_search {e : Expr} {s : List Char}
    (h : search (e.program marked) s = some m) :
    ∃ before rest, s = before ++ rest ∧
      ∃ q, e.Matches marked (.between before rest) ⟨none, none⟩ q m := by
  obtain ⟨before, rest, hs, n, q, run⟩ := exists_run_of_search h
  exact ⟨before, rest, hs, q, Expr.exists_run_program_iff.1 ⟨n, run⟩⟩

end ImportWeb.Pattern
