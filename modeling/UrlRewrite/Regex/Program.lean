import UrlRewrite.Regex.Expr

/-!
# Programs

An expression is turned into a program, whose instructions read one character, ask for a condition,
note a position, or go on in several ways of which the earlier is preferred.

Programs are built from their end: `Expr.emit` gets the instruction that comes next and answers with
the instruction to start from. A loop needs an instruction that comes back to itself; it is reserved
first and filled in when the body is there (`Emitter.loop`).
-/

namespace UrlRewrite.Regex

/-- An instruction; `next` and `targets` are places in the program. -/
inductive Instruction where
  | char (c : Char) (next : Nat)
  | oneOf (set : CharSet) (next : Nat)
  | look (l : Look) (next : Nat)
  | note (slot next : Nat)
  | choice (targets : List Nat)
  | accept
deriving DecidableEq, Repr, Inhabited

/-- How many instructions may come next without reading. -/
def Instruction.branches : Instruction → Nat
  | .look _ _ => 1
  | .note _ _ => 1
  | .choice targets => targets.length
  | _ => 0

/-- Appends instructions to a program: from the instruction that comes next to the first one. -/
abbrev Emitter := Nat → Array Instruction → Nat × Array Instruction

namespace Emitter

/-- A single instruction. -/
def single (make : Nat → Instruction) : Emitter := fun next code =>
  (code.size, code.push (make next))

/-- Nothing at all. -/
def skip : Emitter := fun next code => (next, code)

/-- One after the other. -/
def andThen (first second : Emitter) : Emitter := fun next code =>
  let (start, code) := second next code
  first start code

/-- The same a number of times. -/
def times (body : Emitter) : Nat → Emitter
  | 0 => skip
  | n + 1 => body.andThen (times body n)

/-- A choice between two places, the first being preferred if `greedy`. -/
def twoWays (greedy : Bool) (inside outside : Nat) : Instruction :=
  .choice (if greedy then [inside, outside] else [outside, inside])

/-- The body and then, any number of times, the body again; `entry` picks the place to start from
out of the place of the choice and that of the body. -/
def loop (greedy : Bool) (body : Emitter) (entry : Nat → Nat → Nat) : Emitter := fun next code =>
  let here := code.size
  let (start, code) := body here (code.push (.choice []))
  (entry here start, code.set! here (twoWays greedy start next))

/-- The body at least once. -/
def plus (greedy : Bool) (body : Emitter) : Emitter := loop greedy body fun _ start => start

/-- The body any number of times, if it cannot be empty. -/
def star (greedy : Bool) (body : Emitter) : Emitter := loop greedy body fun here _ => here

/-- The body or nothing. -/
def option (greedy : Bool) (body : Emitter) : Emitter := fun next code =>
  let (start, code) := body next code
  (code.size, code.push (twoWays greedy start next))

/-- The body up to `n` times, where each repetition may also leave for the common end. -/
def upTo (greedy : Bool) (body : Emitter) : Nat → Emitter
  | 0 => skip
  | n + 1 => fun next code =>
    let (inner, code) := upTo greedy body n next code
    let (start, code) := body inner code
    (code.size, code.push (twoWays greedy start next))

/-- The body at least `least` times. A body that may be empty and need not occur is taken as an
optional loop, so that an empty repetition ends the loop. -/
def atLeast (least : Nat) (greedy mayBeEmpty : Bool) (body : Emitter) : Emitter :=
  match least with
  | 0 => if mayBeEmpty then option greedy (plus greedy body) else star greedy body
  | n + 1 => (times body n).andThen (plus greedy body)

end Emitter

namespace Expr

mutual

/-- The instructions for an expression. -/
def emit : Expr → Emitter
  | .empty => Emitter.skip
  | .literal chars =>
    chars.foldr (fun c rest => (Emitter.single (.char c)).andThen rest) Emitter.skip
  | .oneOf set _ => Emitter.single (.oneOf set)
  | .look l => Emitter.single (.look l)
  | .repeated least none greedy body =>
    Emitter.atLeast least greedy (!body.alwaysConsumes) body.emit
  | .repeated least (some most) greedy body =>
    (Emitter.times body.emit least).andThen (Emitter.upTo greedy body.emit (most - least))
  | .capture index body =>
    (Emitter.single (.note (2 * index))).andThen
      (body.emit.andThen (Emitter.single (.note (2 * index + 1))))
  | .concat parts => emitAll parts
  -- all branches go on at the same place, so the choice is pushed behind them
  | .alternate branches => fun next code =>
    let (starts, code) := emitEach branches next code
    (code.size, code.push (.choice starts))

/-- The instructions for parts that follow each other. -/
def emitAll : List Expr → Emitter
  | [] => Emitter.skip
  | e :: es => e.emit.andThen (emitAll es)

/-- The instructions for branches, and where each of them starts. -/
def emitEach : List Expr → Nat → Array Instruction → List Nat × Array Instruction
  | [], _, code => ([], code)
  | e :: es, next, code =>
    let (start, code) := e.emit next code
    let (starts, code) := emitEach es next code
    (start :: starts, code)

end

end Expr

/-- A program: its instructions, where it starts, and how many groups it notes, the whole match
being the first. -/
structure Program where
  code : Array Instruction
  start : Nat
  groups : Nat
deriving DecidableEq, Repr, Inhabited

namespace Program

/-- The program of an expression. -/
def ofExpr (e : Expr) : Program :=
  let (start, code) := e.emit 0 #[.accept]
  ⟨code, start, e.lastCapture + 1⟩

/-- How many steps without reading there are in the program. -/
def branches (p : Program) : Nat := p.code.foldl (fun n i => n + i.branches) 0

end Program

end UrlRewrite.Regex
