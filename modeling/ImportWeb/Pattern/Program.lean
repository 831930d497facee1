import ImportWeb.Pattern.Expr

/-!
Programs for matching. An instruction takes a character, tests a place, notes where the group
of interest opens or closes, or goes on elsewhere; of two ways the first is preferred. The
code of an expression starts at its first instruction and leaves through one exit.
-/

namespace ImportWeb.Pattern

inductive Inst where
  | chars (set : CharSet) (next : Nat)
  | look (l : Look) (next : Nat)
  | opening (next : Nat)
  | closing (next : Nat)
  | jump (next : Nat)
  | split (first second : Nat)
  | accept
  deriving Repr, Inhabited

namespace Expr

/-- The number of instructions of an expression's code. -/
def codeSize (marked : List Char) : Expr → Nat
  | empty => 1
  | chars _ => 1
  | look _ => 1
  | group name e => if name = some marked then e.codeSize marked + 2 else e.codeSize marked
  | cat a b => a.codeSize marked + b.codeSize marked
  | alt a b => a.codeSize marked + b.codeSize marked + 1
  | opt _ e => e.codeSize marked + 1
  | plus _ e => e.codeSize marked + 1
  | star _ e => e.codeSize marked + 1
  | times n e => n * e.codeSize marked + 1
  | upTo _ n e => n * (e.codeSize marked + 1) + 1

/-- A choice between going on at `inside` and at `outside`. -/
def choose (greedy : Bool) (inside outside : Nat) : Inst :=
  if greedy then .split inside outside else .split outside inside

/-- The code of an expression from address `at` on, which leaves to `exit`. Only the group of
the marked name is noted. -/
def code (marked : List Char) : Expr → (start exit : Nat) → List Inst
  | empty, _, exit => [.jump exit]
  | chars set, _, exit => [.chars set exit]
  | look l, _, exit => [.look l exit]
  | group name e, start, exit =>
    if name = some marked then
      let close := start + 1 + e.codeSize marked
      .opening (start + 1) :: (e.code marked (start + 1) close ++ [.closing exit])
    else e.code marked start exit
  | cat a b, start, exit =>
    let middle := start + a.codeSize marked
    a.code marked start middle ++ b.code marked middle exit
  | alt a b, start, exit =>
    let other := start + 1 + a.codeSize marked
    .split (start + 1) other :: (a.code marked (start + 1) exit ++ b.code marked other exit)
  | opt greedy e, start, exit =>
    choose greedy (start + 1) exit :: e.code marked (start + 1) exit
  | plus greedy e, start, exit =>
    let turn := start + e.codeSize marked
    e.code marked start turn ++ [choose greedy start exit]
  | star greedy e, start, exit =>
    choose greedy (start + 1) exit :: e.code marked (start + 1) start
  | times n e, start, exit =>
    let size := e.codeSize marked
    (List.range n).flatMap (fun i => e.code marked (start + i * size) (start + (i + 1) * size)) ++
      [.jump exit]
  | upTo greedy n e, start, exit =>
    let size := e.codeSize marked + 1
    (List.range n).flatMap (fun i =>
      choose greedy (start + i * size + 1) exit ::
        e.code marked (start + i * size + 1) (start + (i + 1) * size)) ++ [.jump exit]

end Expr

/-- A program starts at its first instruction. -/
abbrev Program := Array Inst

def Program.inst? (program : Program) (address : Nat) : Option Inst := program[address]?

/-- The whole program of an expression: its code and an accepting exit. -/
def Expr.program (marked : List Char) (e : Expr) : Program :=
  (e.code marked 0 (e.codeSize marked) ++ [Inst.accept]).toArray

theorem Expr.length_code (marked : List Char) (e : Expr) (start exit : Nat) :
    (e.code marked start exit).length = e.codeSize marked := by
  induction e generalizing start exit with
  | empty => rfl
  | chars => rfl
  | look => rfl
  | group name e ih =>
    by_cases h : name = some marked <;> simp [code, codeSize, h, ih]
  | cat a b iha ihb => simp [code, codeSize, iha, ihb]
  | alt a b iha ihb => simp [code, codeSize, iha, ihb]
  | opt greedy e ih => simp [code, codeSize, ih]
  | plus greedy e ih => simp [code, codeSize, ih]
  | star greedy e ih => simp [code, codeSize, ih]
  | times n e ih => simp [code, codeSize, ih, List.length_flatMap, List.map_const']
  | upTo greedy n e ih => simp [code, codeSize, ih, List.length_flatMap, List.map_const']

end ImportWeb.Pattern
