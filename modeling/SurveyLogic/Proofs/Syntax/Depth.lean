/-
# The limit on depth

A limit bounds two counts. The height of an expression is kept beside it and compared whenever a
node is made; the number of expressions and prefix operators that are open is compared whenever
another one opens. Parentheses count only as open, and a long chain of connectives counts only as
high.

The parser carries the second count as the levels that are left, so nothing has to be closed again.
`Counting` is the same parser with the count as a state: opening adds one, closing takes one away,
and the calls nest in a stack of frames. It could close what is not open or run out of frames, and a
slip in it would show in what it logs: of each call how much was open, and of each return the same
again with the nodes returned. It never halts in either way, logs only what it should, and makes of
any tokens what the parser makes of them (`Mirrors`, `mirrors_expr`); as many frames as the limit
and one more are enough.

| | checked | counted |
| --- | --- | --- |
| connective, check, call, list | the height of the new node | |
| prefix operator | the height of the new node | open until its operand ends |
| expression, also in brackets | | open until it ends |
-/

import SurveyLogic.Proofs.Syntax.Reading

namespace SurveyLogic
namespace Parser

variable {s : Setting}

/-! ### No node is too high -/

/-- A parser of expressions that returns no node above the limit. -/
def Bounded (s : Setting) (f : List Token → Result (Reading Node)) : Prop :=
  ∀ ts n rest, f ts = .ok (n, rest) → n.height ≤ s.limit

/-- A node that is made is within the limit. -/
theorem node_height_le {e : Expr} {height : Nat} {ts rest : List Token} {n : Node}
    (h : node s e height ts = .ok (n, rest)) : n.height ≤ s.limit := by
  obtain ⟨hle, rfl, -⟩ := node_eq_ok.1 h
  exact hle

/-- An operand without operators is within the limit if what it encloses is. -/
theorem bounded_primary (room : 1 ≤ s.limit) {inner : List Token → Result (Reading Node)}
    (h : Bounded s inner) : Bounded s (primary s inner) := by
  intro ts n rest heq
  simp only [primary] at heq
  split at heq
  · simp only [bind_eq_ok, pure_eq_ok, Prod.exists] at heq
    obtain ⟨n', mid, hn, _, -, heq⟩ := heq
    cases heq
    exact h _ _ _ hn
  · simp only [bind_eq_ok, Prod.exists] at heq
    obtain ⟨_, _, -, heq⟩ := heq
    exact node_height_le heq
  · simp only [bind_eq_ok, Prod.exists] at heq
    obtain ⟨_, -, _, _, -, heq⟩ := heq
    exact node_height_le heq
  · split at heq
    · cases heq
      exact room
    · cases heq

/-- An operand with operators in front is within the limit. -/
theorem bounded_unary (room : 1 ≤ s.limit) {behind inner : List Token → Result (Reading Node)}
    (h : Bounded s inner) : Bounded s (unary s behind inner) := by
  intro ts n rest heq
  unfold unary at heq
  split at heq
  · exact bounded_primary room h ts n rest heq
  · simp only [bind_eq_ok, Prod.exists] at heq
    obtain ⟨_, _, -, heq⟩ := heq
    exact node_height_le heq

/-- A climb from an operand within the limit stays within it. -/
theorem bounded_climb {operand : Nat → List Token → Result (Reading Node)} {least : Nat}
    (budget : Nat) {lhs : Node} (hlhs : lhs.height ≤ s.limit) :
    Bounded s (climb s operand least budget lhs) := by
  induction budget generalizing lhs with
  | zero =>
    intro ts n rest heq
    cases heq
    exact hlhs
  | succ budget ih =>
    intro ts n rest heq
    simp only [climb] at heq
    split at heq
    · cases heq
      exact hlhs
    · split at heq
      · cases heq
        exact hlhs
      · split at heq
        · simp only [bind_eq_ok, Prod.exists] at heq
          obtain ⟨n', mid, hn, heq⟩ := heq
          exact ih (node_height_le hn) mid n rest heq
        · simp only [bind_eq_ok, Prod.exists] at heq
          obtain ⟨_, _, -, n', mid, hn, heq⟩ := heq
          exact ih (node_height_le hn) mid n rest heq

/-- An expression is within the limit, however many levels are left. -/
theorem bounded_expr (levels : Nat) (room : 1 ≤ s.limit) (least : Nat) :
    Bounded s (expr s levels least) := by
  induction levels generalizing least with
  | zero =>
    intro ts n rest heq
    cases heq
  | succ levels ih =>
    intro ts n rest heq
    simp only [expr, bind_eq_ok, Prod.exists] at heq
    obtain ⟨lhs, mid, hlhs, heq⟩ := heq
    have hle : lhs.height ≤ s.limit := bounded_unary room (ih 0) ts lhs mid hlhs
    exact bounded_climb _ hle mid n rest heq

/-! ### The parser with its count as a state -/

/-- A sub-parse that returned: how much was open when it was called and when it returned, and the
nodes that it made. -/
structure Return where
  entry : Nat
  exit : Nat
  nodes : List Node

/-- Where a counting parser is. -/
structure Tally where
  rest : List Token
  /-- How many expressions and prefix operators are open. -/
  opened : Nat := 0
  /-- How many were open at each call so far. -/
  calls : List Nat := []
  /-- The calls that returned so far. -/
  returns : List Return := []

/-- Why a counting parser halts. -/
inductive Halt where
  | refused (e : ParseError)
  /-- Something is closed, and nothing is open. -/
  | underflow
  /-- The calls nest deeper than there are frames. -/
  | overflow

/-- A parser that keeps count. -/
abbrev Counting := ExceptT Halt (StateM Tally)

namespace Counting

variable {α β : Type}

/-- The next token. -/
def current (s : Setting) : Counting Token := do
  return next s (← get).rest

/-- Behind the next token. -/
def advance : Counting Unit :=
  modify fun t => { t with rest := t.rest.tail }

/-- The end of a parse whose limit is exceeded. -/
def tooDeep (s : Setting) : Counting α := do
  throw (.refused (Parser.tooDeep s (← get).rest))

/-- Behind a bracket, if it comes next. -/
def expect (s : Setting) (bracket : Token.Kind) : Counting Unit := do
  let t ← current s
  if t.kind = bracket then advance else throw (.refused (.expected bracket t))

/-- A new node, unless it is too high. -/
def node (s : Setting) (expr : Expr) (height : Nat) : Counting Node :=
  if s.limit < height then tooDeep s else return ⟨expr, height⟩

/-- The node of a single token, if it has one. -/
def leaf (t : Token) : Counting Node :=
  match Expr.ofToken? t with
  | some e => return ⟨e, 1⟩
  | none => throw (.refused (.unexpected t))

/-- With one more open, unless that is too many. -/
def enter (s : Setting) : Counting Unit := do
  modify fun t => { t with opened := t.opened + 1 }
  if s.limit < (← get).opened then tooDeep s

/-- With one less open. -/
def leave : Counting Unit := do
  match (← get).opened with
  | 0 => throw .underflow
  | opened + 1 => modify fun t => { t with opened }

/-- A parser inside something that opens before it and closes behind it. -/
def enclosed (s : Setting) (m : Counting α) : Counting α := do
  enter s
  let a ← m
  leave
  return a

/-- A parser whose call and return are logged. -/
def logged (nodes : α → List Node) (m : Counting α) : Counting α := do
  let entry := (← get).opened
  modify fun t => { t with calls := entry :: t.calls }
  let a ← m
  modify fun t => { t with returns := ⟨entry, t.opened, nodes a⟩ :: t.returns }
  return a

section
variable (s : Setting)

/-- Expressions with commas between them and the bracket that closes them. -/
def items (item : Counting Node) (close : Token.Kind) : (budget : Nat) → Counting (List Node)
  | 0 => do
    let first ← item
    expect s close
    return [first]
  | budget + 1 => do
    let first ← item
    let t ← current s
    if t.kind = .comma then
      advance
      let rest ← items item close budget
      return first :: rest
    else
      expect s close
      return [first]

/-- The inside of a pair of brackets up to the closing one. -/
def list (item : Counting Node) (close : Token.Kind) : Counting (List Node) :=
  logged id do
    let t ← current s
    if t.kind = close then
      advance
      return []
    else items s item close (← get).rest.length

/-- An operand without operators outside brackets. -/
def primary (inner : Counting Node) : Counting Node :=
  logged ([·]) do
    let t ← current s
    advance
    match t.kind, t.payload with
    | .leftParen, _ =>
      let n ← inner
      expect s .rightParen
      return n
    | .leftBracket, _ =>
      let nodes ← list s inner .rightBracket
      node s (.array (nodes.map (·.expr))) (heightAll nodes + 1)
    | .function, .text name =>
      expect s .leftParen
      let nodes ← list s inner .rightParen
      node s (.call name (nodes.map (·.expr))) (heightAll nodes + 1)
    | _, _ => leaf t

/-- An operand with the operators in front of it. -/
def unary (behind inner : Counting Node) : Counting Node :=
  logged ([·]) do
    let t ← current s
    match UnaryOp.ofToken? t with
    | none => primary s inner
    | some op =>
      advance
      let arg ← enclosed s behind
      node s (.unary op arg.expr) (arg.height + 1)

/-- The connectives of level `least` or tighter that follow `lhs`. -/
def climb (operand : Nat → Counting Node) (least : Nat) : (budget : Nat) → Node → Counting Node
  | 0, lhs => return lhs
  | budget + 1, lhs => do
    let t ← current s
    match Connective.ofToken? t with
    | none => return lhs
    | some c =>
      if c.precedence < least then return lhs
      else
        advance
        match c with
        | .check op =>
          let n ← node s (.unary op lhs.expr) (lhs.height + 1)
          climb operand least budget n
        | .binary op =>
          let rhs ← operand (op.precedence + 1)
          let n ← node s (.binary op lhs.expr rhs.expr) (max lhs.height rhs.height + 1)
          climb operand least budget n

mutual

/-- An operand with the operators in front of it, given the frames left. -/
def operand : (frames : Nat) → Counting Node
  | 0 => throw .overflow
  | frames + 1 => unary s (operand frames) (expr frames 0)

/-- An expression of connectives of level `least` or tighter, given the frames left. -/
def expr : (frames : Nat) → (least : Nat) → Counting Node
  | 0, _ => throw .overflow
  | frames + 1, least =>
    logged ([·]) <| enclosed s do
      let lhs ← unary s (operand frames) (expr frames 0)
      climb s (expr frames) least (← get).rest.length lhs

end

end

/-- What a counting parser makes of all tokens of a source, and where it is then. -/
def ofTokens (limit : Nat) (ts : List Token) : Except Halt Expr × Tally :=
  let s : Setting := .whole limit ts
  let whole : Counting Expr := do
    let n ← expr s (limit + 1) 0
    let t ← current s
    if t.kind = .eof then return n.expr else throw (.refused (.trailing t))
  whole.run.run { rest := ts }

/-- One counting parser behind another runs on from where the first one halts or ends. -/
theorem run_bind (m : Counting α) (k : α → Counting β) (before : Tally) :
    (m >>= k).run.run before =
      match m.run.run before with
      | (.ok a, after) => (k a).run.run after
      | (.error halt, after) => (.error halt, after) := by
  change (ExceptT.bindCont k (m.run.run before).1).run (m.run.run before).2 = _
  cases m.run.run before with
  | mk result after => cases result <;> rfl

/-- Whenever something was called, no more was open than the limit allows. Each call that returned
left open what it found open, and the height of each of its nodes is the one kept beside it. -/
structure Sound (limit : Nat) (t : Tally) : Prop where
  calls : ∀ opened ∈ t.calls, opened ≤ limit
  returns : ∀ r ∈ t.returns, r.exit = r.entry ∧ ∀ n ∈ r.nodes, n.height = n.expr.depth

/-- The result of a counting parser, and where it is then, correspond to what the parser gives. -/
def Corresponds (opened : Nat) : Result (Reading α) → Except Halt α × Tally → Prop
  | .ok (a, rest), (result, after) => result = .ok a ∧ after.rest = rest ∧ after.opened = opened
  | .error e, (result, _) => result = .error (.refused e)

/-- In front of `ts` and with so many open, a counting parser gives `r`: it closes what it opens and
keeps a sound log. -/
def Mirrors (s : Setting) (m : Counting α) (opened : Nat) (ts : List Token)
    (r : Result (Reading α)) : Prop :=
  ∀ before : Tally, before.rest = ts → before.opened = opened → Sound s.limit before →
    Sound s.limit (m.run.run before).2 ∧ Corresponds opened r (m.run.run before)

variable {m : Counting α} {g : α → Counting β} {opened : Nat} {ts : List Token}
  {r : Result (Reading α)}

/-- A value without a parse mirrors itself. -/
theorem Mirrors.pure (a : α) : Mirrors s (Pure.pure a) opened ts (.ok (a, ts)) :=
  fun _ hrest hopened sound => ⟨sound, rfl, hrest, hopened⟩

/-- A refusal mirrors the error of the parser. -/
theorem Mirrors.refuse (e : ParseError) :
    Mirrors s (throw (.refused e) : Counting α) opened ts (.error e) :=
  fun _ _ _ sound => ⟨sound, rfl⟩

/-- What mirrors step by step mirrors as a whole. -/
theorem Mirrors.bind {h : Reading α → Result (Reading β)} (hm : Mirrors s m opened ts r)
    (hg : ∀ a rest, r = .ok (a, rest) → Mirrors s (g a) opened rest (h (a, rest))) :
    Mirrors s (m >>= g) opened ts (r >>= h) := by
  intro before hrest hopened sound
  obtain ⟨sound, corresponds⟩ := hm before hrest hopened sound
  rw [run_bind]
  generalize m.run.run before = ran at sound corresponds ⊢
  obtain ⟨result, after⟩ := ran
  cases r with
  | ok reading =>
    obtain ⟨a, rest⟩ := reading
    obtain ⟨rfl, hrest, hopened⟩ := corresponds
    exact hg a rest rfl after hrest hopened sound
  | error e =>
    obtain rfl : result = _ := corresponds
    exact ⟨sound, rfl⟩

/-- To look at the next token changes nothing. -/
theorem Mirrors.current {g : Token → Counting α} (h : Mirrors s (g (next s ts)) opened ts r) :
    Mirrors s (Counting.current s >>= g) opened ts r := by
  intro before hrest hopened sound
  subst hrest
  exact h before rfl hopened sound

/-- To take up a token leaves those behind it. -/
theorem Mirrors.advance {g : Unit → Counting α} (h : Mirrors s (g ()) opened ts.tail r) :
    Mirrors s (Counting.advance >>= g) opened ts r := by
  intro before hrest hopened sound
  exact h { before with rest := before.rest.tail } (congrArg List.tail hrest) hopened
    ⟨sound.calls, sound.returns⟩

/-- The limit is exceeded at the same token. -/
theorem Mirrors.tooDeep : Mirrors s (Counting.tooDeep s : Counting α) opened ts
    (.error (Parser.tooDeep s ts)) := by
  intro before hrest _ sound
  subst hrest
  exact ⟨sound, rfl⟩

/-- A bracket is passed, or missed, at the same token. -/
theorem Mirrors.expect {bracket : Token.Kind} {g : Unit → Counting α}
    {h : List Token → Result (Reading α)} (hg : Mirrors s (g ()) opened ts.tail (h ts.tail)) :
    Mirrors s (Counting.expect s bracket >>= g) opened ts (Parser.expect s bracket ts >>= h) := by
  unfold Counting.expect Parser.expect
  rw [bind_assoc]
  refine .current ?_
  by_cases hk : (next s ts).kind = bracket
  · rw [if_pos hk, if_pos hk]
    exact hg.advance
  · rw [if_neg hk, if_neg hk]
    exact .refuse _

/-- A node is made, or found too high, in the same way. -/
theorem Mirrors.node (expr : Expr) (height : Nat) :
    Mirrors s (Counting.node s expr height) opened ts (Parser.node s expr height ts) := by
  unfold Counting.node Parser.node
  split
  · exact .tooDeep
  · exact .pure _

/-- To open counts one more, and then checks the count against the limit. -/
theorem run_enter (s : Setting) (before : Tally) :
    (enter s).run.run before =
      (if s.limit < before.opened + 1 then Counting.tooDeep s else Pure.pure ()).run.run
        { before with opened := before.opened + 1 } :=
  rfl

/-- To close where something is open counts one less and halts nothing. -/
theorem run_leave {after : Tally} {opened : Nat} (h : after.opened = opened + 1) :
    leave.run.run after = (.ok (), { after with opened }) := by
  obtain ⟨rest, _, calls, returns⟩ := after
  subst h
  rfl

/-- A token that stands alone gives the same node, or is refused in the same way. -/
theorem Mirrors.leaf (t : Token) :
    Mirrors s (leaf t) opened ts
      (match Expr.ofToken? t with
        | some e => Pure.pure (⟨e, 1⟩, ts)
        | none => throw (.unexpected t) : Result (Reading Node)) := by
  unfold Counting.leaf
  cases Expr.ofToken? t with
  | some e => exact .pure _
  | none => exact .refuse _

/-- Where there is room, what opens closes again. -/
theorem Mirrors.enclosed (room : opened < s.limit) (h : Mirrors s m (opened + 1) ts r) :
    Mirrors s (Counting.enclosed s m) opened ts r := by
  intro before hrest hopened sound
  subst hopened
  obtain ⟨sound, corresponds⟩ :=
    h { before with opened := before.opened + 1 } hrest rfl ⟨sound.calls, sound.returns⟩
  unfold Counting.enclosed
  rw [run_bind, run_enter, if_neg (Nat.not_lt.2 room)]
  change Sound _ ((m >>= _).run.run _).2 ∧ Corresponds _ _ ((m >>= _).run.run _)
  rw [run_bind]
  generalize m.run.run _ = ran at sound corresponds ⊢
  obtain ⟨result, after⟩ := ran
  cases r with
  | ok reading =>
    obtain ⟨a, rest⟩ := reading
    obtain ⟨rfl, hrest, hopened⟩ := corresponds
    dsimp only at hrest hopened sound ⊢
    rw [run_bind, run_leave hopened]
    exact ⟨⟨sound.calls, sound.returns⟩, rfl, hrest, rfl⟩
  | error e =>
    obtain rfl : result = _ := corresponds
    exact ⟨sound, rfl⟩

/-- Where there is no room, nothing opens. -/
theorem Mirrors.full (full : opened = s.limit) :
    Mirrors s (Counting.enclosed s m) opened ts (.error (Parser.tooDeep s ts)) := by
  intro before hrest hopened sound
  subst hrest
  have hlt : s.limit < before.opened + 1 := by omega
  unfold Counting.enclosed
  rw [run_bind, run_enter, if_pos hlt]
  exact ⟨⟨sound.calls, sound.returns⟩, rfl⟩

/-- A log of the call and of the return stays sound if the nodes have their heights. -/
theorem Mirrors.logged {nodes : α → List Node} (within : opened ≤ s.limit)
    (h : Mirrors s m opened ts r)
    (right : ∀ a rest, r = .ok (a, rest) → ∀ n ∈ nodes a, n.height = n.expr.depth) :
    Mirrors s (Counting.logged nodes m) opened ts r := by
  intro before hrest hopened sound
  subst hopened
  let called : Tally := { before with calls := before.opened :: before.calls }
  have hcalled : Sound s.limit called :=
    ⟨List.forall_mem_cons.2 ⟨within, sound.calls⟩, sound.returns⟩
  obtain ⟨sound, corresponds⟩ := h called hrest rfl hcalled
  unfold Counting.logged
  change Sound _ ((m >>= _).run.run called).2 ∧ Corresponds _ _ ((m >>= _).run.run called)
  rw [run_bind]
  generalize m.run.run called = ran at sound corresponds ⊢
  obtain ⟨result, after⟩ := ran
  cases r with
  | ok reading =>
    obtain ⟨a, rest⟩ := reading
    obtain ⟨rfl, hrest, hopened⟩ := corresponds
    refine ⟨⟨sound.calls, List.forall_mem_cons.2 ⟨⟨hopened, ?_⟩, sound.returns⟩⟩,
      rfl, hrest, hopened⟩
    exact right a rest rfl
  | error e =>
    obtain rfl : result = _ := corresponds
    exact ⟨sound, rfl⟩

/-! ### Each function of the parser -/

section

variable {item behind inner : Counting Node} {f fb : List Token → Result (Reading Node)}
  {close : Token.Kind}

/-- Items mirror the parser's items if each item does. -/
theorem mirrors_items (h : ∀ ts, Mirrors s item opened ts (f ts)) (budget : Nat) (ts : List Token) :
    Mirrors s (items s item close budget) opened ts (Parser.items s f close budget ts) := by
  induction budget generalizing ts with
  | zero => exact (h ts).bind fun first mid _ => .expect (.pure _)
  | succ budget ih =>
    refine (h ts).bind fun first mid _ => .current ?_
    dsimp only
    split
    · exact .advance ((ih mid.tail).bind fun rest last _ => .pure _)
    · exact .expect (.pure _)

/-- The inside of brackets mirrors the parser's if each item does. -/
theorem mirrors_list (hs : s.finish.kind = .eof) (hc : close ≠ .eof)
    (h : ∀ ts, Mirrors s item opened ts (f ts)) (hf : Returns f (.expr 0))
    (within : opened ≤ s.limit) (ts : List Token) :
    Mirrors s (list s item close) opened ts (Parser.list s f close ts) := by
  refine .logged within ?_ fun nodes rest hnodes => ?_
  · unfold Parser.list
    refine .current ?_
    split
    · exact .advance (.pure _)
    · intro before hrest
      subst hrest
      exact mirrors_items h before.rest.length before.rest before rfl
  · obtain ⟨es, rfl, -⟩ := returnsAll_list hs hc hf ts nodes rest hnodes
    intro n hn
    obtain ⟨e, -, rfl⟩ := List.mem_map.1 hn
    rfl

/-- An operand without operators mirrors the parser's if what it encloses does. -/
theorem mirrors_primary (hs : s.finish.kind = .eof)
    (h : ∀ ts, Mirrors s inner opened ts (f ts)) (hf : Returns f (.expr 0))
    (within : opened ≤ s.limit) (ts : List Token) :
    Mirrors s (primary s inner) opened ts (Parser.primary s f ts) := by
  refine .logged within ?_ fun n rest hn => ?_
  · refine .current (.advance ?_)
    dsimp only [Parser.primary]
    cases hk : (next s ts).kind with
    | leftParen => exact (h ts.tail).bind fun n mid _ => .expect (.pure _)
    | leftBracket =>
      have hbracket : Token.Kind.rightBracket ≠ .eof := by decide
      have hlist := mirrors_list hs hbracket h hf within ts.tail
      exact hlist.bind fun nodes mid _ => .node _ _
    | function =>
      cases hp : (next s ts).payload with
      | text name =>
        have hparen : Token.Kind.rightParen ≠ .eof := by decide
        have hlist := mirrors_list hs hparen h hf within ts.tail.tail
        exact .expect (hlist.bind fun nodes mid _ => .node _ _)
      | _ => exact .leaf _
    | _ => exact .leaf _
  · obtain ⟨e, rfl, -⟩ := returns_primary hs hf ts n rest hn
    simp [Node.of]

/-- An operand mirrors the parser's if the operand behind its operator does. -/
theorem mirrors_unary (hs : s.finish.kind = .eof)
    (hb : ∀ ts, Mirrors s (enclosed s behind) opened ts (fb ts)) (hfb : Returns fb .unary)
    (h : ∀ ts, Mirrors s inner opened ts (f ts)) (hf : Returns f (.expr 0))
    (within : opened ≤ s.limit) (ts : List Token) :
    Mirrors s (unary s behind inner) opened ts (Parser.unary s fb f ts) := by
  refine .logged within ?_ fun n rest hn => ?_
  · unfold Parser.unary
    refine .current ?_
    cases UnaryOp.ofToken? (next s ts) with
    | none => exact mirrors_primary hs h hf within ts
    | some op => exact .advance ((hb ts.tail).bind fun arg mid _ => .node _ _)
  · obtain ⟨e, rfl, -⟩ := returns_unary hs hfb hf ts n rest hn
    simp [Node.of]

/-- A climb mirrors the parser's if its right operands do. -/
theorem mirrors_climb {operand : Nat → Counting Node}
    {fo : Nat → List Token → Result (Reading Node)}
    (h : ∀ k ts, Mirrors s (operand k) opened ts (fo k ts)) (least budget : Nat) (lhs : Node)
    (ts : List Token) :
    Mirrors s (climb s operand least budget lhs) opened ts
      (Parser.climb s fo least budget lhs ts) := by
  induction budget generalizing lhs ts with
  | zero => exact .pure _
  | succ budget ih =>
    unfold Parser.climb
    refine .current ?_
    cases Connective.ofToken? (next s ts) with
    | none => exact .pure _
    | some c =>
      dsimp only
      split
      · exact .pure _
      · refine .advance ?_
        cases c with
        | check op => exact (Mirrors.node _ _).bind fun n mid _ => ih n mid
        | binary op =>
          refine (h _ ts.tail).bind fun rhs mid _ => ?_
          exact (Mirrors.node _ _).bind fun n last _ => ih n last

end

/-- **Counting makes no difference.** With so many levels left as are not open, and more frames than
that, the counting parser gives what the parser gives. The induction is on the frames. -/
theorem mirrors_expr (hs : s.finish.kind = .eof) (frames : Nat) :
    ∀ opened levels, opened + levels = s.limit →
      (levels + 1 < frames → ∀ ts, Mirrors s (operand s frames) opened ts
        (Parser.unary s (Parser.operand s levels) (Parser.expr s levels 0) ts)) ∧
      (levels < frames → ∀ least ts, Mirrors s (expr s frames least) opened ts
        (Parser.expr s levels least ts)) := by
  induction frames with
  | zero =>
    intro _ _ _
    exact ⟨fun h => absurd h (Nat.not_lt_zero _), fun h => absurd h (Nat.not_lt_zero _)⟩
  | succ frames ih =>
    -- Behind an operator in front one more is open, one level less is left, and a frame is used.
    have hbehind : ∀ opened levels, opened + levels = s.limit → levels < frames → ∀ ts,
        Mirrors s (enclosed s (operand s frames)) opened ts (Parser.operand s levels ts) := by
      intro opened levels hsum hframes ts
      cases levels with
      | zero => exact .full (by omega)
      | succ levels =>
        exact .enclosed (by omega) ((ih (opened + 1) levels (by omega)).1 hframes ts)
    intro opened levels hsum
    refine ⟨fun hframes ts => ?_, fun hframes least ts => ?_⟩
    · have hinner := (ih opened levels hsum).2 (by omega) 0
      exact mirrors_unary hs (hbehind opened levels hsum (by omega)) (returns_expr hs levels).1
        hinner ((returns_expr hs levels).2 0) (by omega) ts
    · refine .logged (by omega) ?_ fun n rest hn => ?_
      · cases levels with
        | zero => exact .full (by omega)
        | succ levels =>
          refine .enclosed (by omega) ?_
          have hsum' : opened + 1 + levels = s.limit := by omega
          have hinner := (ih (opened + 1) levels hsum').2 (by omega)
          have hunary := mirrors_unary hs (hbehind (opened + 1) levels hsum' (by omega))
            (returns_expr hs levels).1 (hinner 0) ((returns_expr hs levels).2 0) (by omega) ts
          refine hunary.bind fun lhs mid _ => ?_
          intro before hrest
          subst hrest
          exact mirrors_climb hinner least before.rest.length lhs before.rest before rfl
      · obtain ⟨e, rfl, -⟩ := (returns_expr hs levels).2 least ts n rest hn
        simp [Node.of]

/-- The same of a run on all tokens of a source, whose log is then sound. -/
theorem ofTokens_mirrors (limit : Nat) (ts : List Token) :
    (ofTokens limit ts).1 = (Expr.ofTokens limit ts).mapError .refused ∧
      Sound limit (ofTokens limit ts).2 := by
  have hexpr := (mirrors_expr (s := .whole limit ts) rfl (limit + 1) 0 limit (Nat.zero_add _)).2
    (Nat.lt_succ_self _) 0 ts
  have hwhole := hexpr.bind (g := fun n => do
      let t ← current (.whole limit ts)
      if t.kind = .eof then return n.expr else throw (.refused (.trailing t)))
    (h := fun reading =>
      if (next (.whole limit ts) reading.2).kind = .eof then .ok (reading.1.expr, reading.2)
      else .error (.trailing (next (.whole limit ts) reading.2))) fun n rest _ => by
    refine .current ?_
    dsimp only
    split
    · exact .pure _
    · exact .refuse _
  obtain ⟨sound, corresponds⟩ := hwhole { rest := ts } rfl rfl ⟨nofun, nofun⟩
  refine ⟨?_, sound⟩
  change ((_ : Counting Expr).run.run _).1 = _
  rw [ofTokens_eq]
  cases hn : Parser.expr (.whole limit ts) limit 0 ts with
  | error e =>
    rw [hn] at corresponds
    exact corresponds
  | ok reading =>
    obtain ⟨n, rest⟩ := reading
    rw [hn, ok_bind] at corresponds
    rw [ok_bind]
    dsimp only at corresponds ⊢
    split at corresponds
    · rename_i hend
      rw [if_pos hend]
      exact corresponds.1
    · rename_i hend
      rw [if_neg hend]
      exact corresponds

end Counting

/-- **The limit on depth holds,** whatever tokens there are. An expression that is accepted is at
least one and at most as many levels high as the limit says. On the way, with the count of what is
open as a state, each sub-parse that returns has made nodes with their heights beside them and left
open what it found open, each call finds no more open than the limit, and neither is anything closed
that is not open nor do the calls need more frames than the limit and one. -/
theorem depth_of_ofTokens (limit : Nat) (ts : List Token) :
    (∀ e, Expr.ofTokens limit ts = .ok e → 1 ≤ e.depth ∧ e.depth ≤ limit) ∧
      (Counting.ofTokens limit ts).1 = (Expr.ofTokens limit ts).mapError .refused ∧
      (∀ r ∈ (Counting.ofTokens limit ts).2.returns,
        r.exit = r.entry ∧ ∀ n ∈ r.nodes, n.height = n.expr.depth) ∧
      ∀ opened ∈ (Counting.ofTokens limit ts).2.calls, opened ≤ limit := by
  obtain ⟨same, sound⟩ := Counting.ofTokens_mirrors limit ts
  refine ⟨fun e he => ⟨e.one_le_depth, ?_⟩, same, sound.returns, sound.calls⟩
  rw [ofTokens_eq] at he
  obtain ⟨⟨n, rest⟩, hn, he⟩ := bind_eq_ok.1 he
  have room : 1 ≤ limit := by
    cases limit with
    | zero => cases hn
    | succ limit => omega
  have hle : n.height ≤ limit := bounded_expr limit room 0 ts n rest hn
  obtain ⟨e', rfl, -⟩ := (returns_expr rfl limit).2 0 ts n rest hn
  dsimp only at he
  split at he
  · cases he
    exact hle
  · cases he

/-- The calls on `-(x)`, the last one first: the operand behind the sign is parsed with two open,
the one in the parentheses with three. -/
example : (Counting.ofTokens 3 [⟨.operator, .text "-", 0⟩, ⟨.leftParen, .none, 1⟩,
    ⟨.reference, .text "x", 2⟩, ⟨.rightParen, .none, 3⟩]).2.calls = [3, 3, 2, 2, 2, 1, 0] := by
  decide

end Parser
end SurveyLogic
