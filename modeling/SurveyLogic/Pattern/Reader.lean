/-
# Reading patterns

```
choice     ::= sequence ( '|' sequence )*
sequence   ::= ( repeated | flags )*
repeated   ::= atom ( ( '?' | '*' | '+' | '{' N '}' | '{' N ',' [N] '}' ) ['?'] )*
atom       ::= char | '.' | '^' | '$' | escape | set | group
group      ::= '(' choice ')' | '(?' ['P'] '<' NAME '>' choice ')' | '(?' FLAGS ':' choice ')'
flags      ::= '(?' FLAGS ')'
```

Flags set inside a group hold up to its end. The text is read from left to right with the groups
that are open on a stack.
-/

import SurveyLogic.Number.Read
import SurveyLogic.Pattern.Class
import SurveyLogic.Text.Letter

namespace SurveyLogic
namespace Pattern

/-- A group that is open. Its parts stand in reverse order; one that only sets flags is `none`. -/
structure OpenGroup where
  /-- The number, if the group captures. -/
  number : Option Nat
  /-- The flags that hold after the group. -/
  outerFlags : Flags
  options : List Node := []
  parts : List (Option Node) := []

namespace OpenGroup

/-- The current sequence. -/
def sequence (g : OpenGroup) : Node :=
  match g.parts with
  | [] => .empty
  | [part] => part.getD .empty
  | parts => .sequence (parts.reverse.map (·.getD .empty))

/-- All read so far. -/
def choice (g : OpenGroup) : Node :=
  match g.options with
  | [] => g.sequence
  | options => .choice (options.reverse ++ [g.sequence])

/-- With a further part. -/
def add (g : OpenGroup) (n : Node) : OpenGroup :=
  { g with parts := some n :: g.parts }

/-- With its last part repeated. -/
def repeatLast (g : OpenGroup) (least : Nat) (most : Option Nat) (greedy : Bool) :
    Except Problem OpenGroup :=
  match g.parts with
  | some n :: parts => .ok { g with parts := some (.repeated n least most greedy) :: parts }
  | _ => .error .nothingToRepeat

end OpenGroup

/-- What is known while a pattern is read. -/
structure Progress where
  flags : Flags := {}
  /-- The number of capturing groups opened so far. -/
  groups : Nat := 0
  names : List (String × Nat) := []
  current : OpenGroup := ⟨none, {}, [], []⟩
  /-- The groups around the current one, from the innermost outward. -/
  outer : List OpenGroup := []

namespace Progress

/-- With a further part in the current group. -/
def add (p : Progress) (n : Node) : Progress :=
  { p with current := p.current.add n }

/-- Inside a new group. -/
def openGroup (p : Progress) (number : Option Nat) (flags : Flags) : Progress :=
  { p with flags, current := ⟨number, p.flags, [], []⟩, outer := p.current :: p.outer }

/-- Inside a new capturing group. -/
def openCapture (p : Progress) : Progress :=
  { p with groups := p.groups + 1 }.openGroup (some (p.groups + 1)) p.flags

/-- After the end of the current group. -/
def closeGroup (p : Progress) : Except Problem Progress :=
  match p.outer with
  | [] => .error .badGroup
  | next :: outer =>
    let n := Node.group p.current.number p.current.choice
    .ok { p with flags := p.current.outerFlags, current := next.add n, outer }

end Progress

/-- The set of the characters that equal a given one. -/
def characterSet (f : Flags) (c : Char) : CharSet :=
  withCase f (CharSet.single c)

/-- The set that a point stands for. -/
def pointSet (f : Flags) : Except Problem CharSet :=
  if !f.unicode then .error .notText
  else if f.dotAll then .ok CharSet.all
  else if f.crlf then .ok (CharSet.complement (CharSet.ofChars ['\n', '\r']))
  else .ok (CharSet.complement (CharSet.single '\n'))

/-- The part that an escape stands for. -/
def Escape.toNode (f : Flags) : Escape → Except Problem Node
  | .char c byte =>
    if !f.unicode && byte && 0x80 ≤ c.toNat then .error .notText
    else .ok (.set (characterSet f c) 0)
  | .set a => .ok (.set a 0)
  | .look a => .ok (.look a)

/-- The letters of flags, those behind a hyphen being switched off. -/
def applyFlag (f : Flags) (on : Bool) : Char → Option Flags
  | 'i' => some { f with ignoreCase := on }
  | 'm' => some { f with multiLine := on }
  | 's' => some { f with dotAll := on }
  | 'U' => some { f with swapGreed := on }
  | 'u' => some { f with unicode := on }
  | 'R' => some { f with crlf := on }
  | 'x' => some { f with ignoreSpace := on }
  | _ => none

/-- The flags that some letters make of given ones. No letter may stand twice, nor the hyphen, and
the hyphen not at the end. -/
def readFlags (f : Flags) (letters : List Char) : Except Problem Flags :=
  if letters.eraseDups.length < letters.length || letters.getLast? = some '-' then
    .error .badFlags
  else
    let on := letters.takeWhile (· ≠ '-')
    let off := letters.drop (on.length + 1)
    match on.foldlM (applyFlag · true) f >>= fun f => off.foldlM (applyFlag · false) f with
    | some f => .ok f
    | none => .error .badFlags

/-- Whether a name of a group may go on with a character, or start with it. -/
def isNameChar (first : Bool) (c : Char) : Bool :=
  if first then c = '_' || Text.isAlphabetic c
  else c = '_' || c = '.' || c = '[' || c = ']' || Text.isAlphanumeric c

/-- A new group with a name, `cs` being what follows its angle bracket. -/
def openNamed (p : Progress) (cs : List Char) : Except Problem (Progress × List Char) :=
  let name := cs.takeWhile (· ≠ '>')
  let key := String.ofList name
  match name, cs.drop name.length with
  | first :: others, '>' :: rest =>
    if isNameChar true first && others.all (isNameChar false) && !p.names.any (·.1 == key) then
      let p := p.openCapture
      .ok ({ p with names := p.names ++ [(key, p.groups)] }, rest)
    else .error .badGroupName
  | _, _ => .error .badGroupName

/-- A new group or new flags, `cs` being what follows the bracket and the question mark. -/
def openFlagged (p : Progress) (cs : List Char) : Except Problem (Progress × List Char) :=
  let letters := cs.takeWhile fun c => c ≠ ':' && c ≠ ')'
  match cs.drop letters.length with
  | ':' :: rest => do
    let f ← readFlags p.flags letters
    return (p.openGroup none f, rest)
  | ')' :: rest => do
    if letters.isEmpty then throw .nothingToRepeat
    let f ← readFlags p.flags letters
    return ({ p with flags := f, current := { p.current with parts := none :: p.current.parts } },
      rest)
  | _ => .error (if letters.isEmpty then .badGroup else .badFlags)

/-- A new group, `cs` being what follows the bracket. -/
def openAny (p : Progress) (cs : List Char) : Except Problem (Progress × List Char) :=
  match skip p.flags cs with
  | '?' :: '=' :: _ => .error .lookAround
  | '?' :: '!' :: _ => .error .lookAround
  | '?' :: '<' :: '=' :: _ => .error .lookAround
  | '?' :: '<' :: '!' :: _ => .error .lookAround
  | '?' :: 'P' :: '<' :: cs => openNamed p cs
  | '?' :: '<' :: cs => openNamed p cs
  | '?' :: cs => openFlagged p cs
  | cs => .ok (p.openCapture, cs)

/-- A repetition of the last part, lazy if a question mark follows. -/
def repeatLast (p : Progress) (least : Nat) (most : Option Nat) (cs : List Char) :
    Except Problem (Progress × List Char) := do
  let (isLazy, rest) :=
    match cs with
    | '?' :: cs => (true, cs)
    | cs => (false, cs)
  let current ← p.current.repeatLast least most (isLazy == p.flags.swapGreed)
  return ({ p with current }, rest)

/-- The digits in front, and what follows them. Blanks and comments are left out if they do not
count. -/
def digits (f : Flags) (comment : Bool) : List Char → List Char × List Char
  | [] => ([], [])
  | c :: cs =>
    if comment then digits f (c ≠ '\n') cs
    else if c.isDigit then
      let (ds, rest) := digits f false cs
      (c :: ds, rest)
    else if f.ignoreSpace && Text.isBlank c then digits f false cs
    else if f.ignoreSpace && c = '#' then digits f true cs
    else ([], c :: cs)

/-- A count in braces below `2^32` with blanks around it, and what follows it. -/
def readCount (f : Flags) (cs : List Char) : Except Problem (Nat × List Char) :=
  let (ds, rest) := digits f false (Text.trimLeft cs)
  let n := Number.digitsValue ds
  if ds.isEmpty || Nat.pow 2 32 ≤ n then .error .badRepetition
  else .ok (n, Text.trimLeft rest)

/-- A counted repetition of the last part, `cs` being what follows the brace. -/
def repeatCounted (p : Progress) (cs : List Char) : Except Problem (Progress × List Char) := do
  let f := p.flags
  if (p.current.parts.head?.join).isNone then throw .nothingToRepeat
  let (least, cs) ← readCount f (skip f cs)
  match cs with
  | '\x7d' :: rest => repeatLast p least (some least) (skip f rest)
  | ',' :: cs =>
    match skip f cs with
    | '\x7d' :: rest => repeatLast p least none (skip f rest)
    | cs =>
      let (most, cs) ← readCount f cs
      match cs with
      | '\x7d' :: rest =>
        if most < least then throw .badRepetition
        repeatLast p least (some most) (skip f rest)
      | _ => throw .badRepetition
  | _ => throw .badRepetition

/-- The condition that `^` stands for. -/
def lineStart (f : Flags) : Assertion :=
  if f.multiLine then .lineStart f.crlf else .textStart

/-- The condition that `$` stands for. -/
def lineEnd (f : Flags) : Assertion :=
  if f.multiLine then .lineEnd f.crlf else .textEnd

/-- The next part of a pattern, or the whole of it at its end. -/
def patternStep (p : Progress) (cs : List Char) :
    Except Problem ((Progress × List Char) ⊕ Parsed) := do
  let f := p.flags
  match skip f cs with
  | [] =>
    if p.outer.isEmpty then return .inr ⟨p.current.choice, p.groups, p.names⟩
    else throw .badGroup
  | '(' :: cs => return .inl (← openAny p cs)
  | ')' :: cs => return .inl (← p.closeGroup, cs)
  | '|' :: cs =>
    let g := p.current
    let current := { g with options := g.sequence :: g.options, parts := [] }
    return .inl ({ p with current }, cs)
  | '[' :: cs => do
    let (a, nesting, rest) ← readSet f cs
    return .inl (p.add (.set a nesting), rest)
  | '?' :: cs => return .inl (← repeatLast p 0 (some 1) cs)
  | '*' :: cs => return .inl (← repeatLast p 0 none cs)
  | '+' :: cs => return .inl (← repeatLast p 1 none cs)
  | '\x7b' :: cs => return .inl (← repeatCounted p cs)
  | '\\' :: cs => do
    let (e, rest) ← readEscape f cs
    return .inl (p.add (← e.toNode f), rest)
  | '.' :: cs => return .inl (p.add (.set (← pointSet f) 0), cs)
  | '^' :: cs => return .inl (p.add (.look (lineStart f)), cs)
  | '$' :: cs => return .inl (p.add (.look (lineEnd f)), cs)
  | c :: cs => return .inl (p.add (.set (characterSet f c) 0), cs)

/-- How deep a pattern may be nested. -/
def maxNesting : Nat := 250

/-- The pattern that a text writes. -/
def read (s : String) : Except Problem Parsed := do
  let parsed ← iterate patternStep {} s.toList
  if maxNesting < parsed.node.depth then throw .tooDeep
  return parsed

end Pattern
end SurveyLogic
