/-
# References found by two readers

The search for names (`References.names`) looks at the text alone, and the lexer knows where a
string starts and ends. Both take a reference from a brace to the next closing one, so they agree on
a reference unless the search comes to it inside an earlier one, behind a brace that is still open
(`LeavesOpen`). In a text with tokens only a string can leave one open.

They also differ in the name. The search cuts it at the first bracket and drops the blanks at its
ends; the evaluator looks up all that stands before the first dot.

| source | head | listed |
| --- | --- | --- |
| `{a.b} = 1` | `a` | `a` |
| `{a[0]}` | `a[0]` | `a` |
| `{a .b}` | `a` and a blank | `a` |
| `'{' = {a}` | `a` | the rest of the string |
-/

import SurveyLogic.Expr.Dependencies
import SurveyLogic.Proofs.Token.Separation
import SurveyLogic.Syntax.References

namespace SurveyLogic
namespace References

variable {cs ds : List Char} {c : Char}

/-! ### Open braces -/

def isBrace (c : Char) : Bool :=
  c = '\x7b' || c = '\x7d'

/-- The braces of a text from left to right. -/
def braces (cs : List Char) : List Char :=
  cs.filter isBrace

/-- Whether a text leaves a brace open: the last of its braces is an opening one. -/
def LeavesOpen (cs : List Char) : Prop :=
  (braces cs).getLast? = some '\x7b'

instance (cs : List Char) : Decidable (LeavesOpen cs) :=
  inferInstanceAs (Decidable ((braces cs).getLast? = some '\x7b'))

theorem braces_append (cs ds : List Char) : braces (cs ++ ds) = braces cs ++ braces ds :=
  List.filter_append cs ds

/-- A text of other characters has no braces. -/
theorem braces_eq_nil (plain : ∀ c ∈ cs, isBrace c = false) : braces cs = [] := by
  simpa [braces] using plain

/-- A class of characters without the two braces has none. -/
theorem isBrace_of_class {p : Char → Bool} (h : p c) (left : p '\x7b' = false)
    (right : p '\x7d' = false) : isBrace c = false := by
  simp [isBrace, Text.ne_of_class h left, Text.ne_of_class h right]

/-- The longest front within a class without braces has none. -/
theorem plain_take {p : Char → Bool} (left : p '\x7b' = false) (right : p '\x7d' = false)
    (cs : List Char) : ∀ c ∈ cs.take (cs.takeWhile p).length, isBrace c = false := by
  rw [← List.prefix_iff_eq_take.1 (List.takeWhile_prefix p)]
  intro c mem
  exact isBrace_of_class (List.mem_takeWhile_imp mem) left right

/-- A text without braces leaves none open. -/
theorem not_leavesOpen_of_plain (plain : ∀ c ∈ cs, isBrace c = false) : ¬ LeavesOpen cs := by
  simp [LeavesOpen, braces_eq_nil plain]

/-- What a text leaves open, its end leaves open, or the end has no brace. -/
theorem leavesOpen_append :
    LeavesOpen (cs ++ ds) ↔ LeavesOpen ds ∨ (braces ds = [] ∧ LeavesOpen cs) := by
  unfold LeavesOpen
  rw [braces_append, List.getLast?_append]
  cases braces ds with
  | nil => simp
  | cons d ds =>
    rw [List.getLast?_cons]
    simp

/-- A text leaves open what its end leaves open. -/
theorem LeavesOpen.of_suffix (h : LeavesOpen ds) (suffix : ds <:+ cs) : LeavesOpen cs := by
  obtain ⟨front, rfl⟩ := suffix
  exact leavesOpen_append.2 (.inl h)

/-- An opening brace that is not left open is closed. -/
theorem close_mem_of_not_leavesOpen (h : ¬ LeavesOpen ('\x7b' :: cs)) : '\x7d' ∈ cs := by
  by_contra none
  have alike : ∀ c ∈ braces ('\x7b' :: cs), c = '\x7b' := by
    intro c mem
    obtain ⟨mem, brace⟩ := List.mem_filter.1 mem
    rcases List.mem_cons.1 mem with rfl | mem
    · rfl
    · have other : c ≠ '\x7d' := fun close => none (close ▸ mem)
      simpa [isBrace, other] using brace
  have some : braces ('\x7b' :: cs) ≠ [] := List.cons_ne_nil _ _
  refine h ?_
  rw [LeavesOpen, List.getLast?_eq_some_getLast some]
  exact congrArg Option.some (alike _ (List.getLast_mem some))

/-! ### The search -/

/-- The front up to the first closing brace is the name in front of it. -/
theorem takeWhile_close {name : List Char} (ends : '\x7d' ∉ name) (rest : List Char) :
    (name ++ '\x7d' :: rest).takeWhile (· ≠ '\x7d') = name := by
  have inside : ∀ c ∈ name, decide (c ≠ '\x7d') = true := by
    intro c mem
    exact decide_eq_true fun close => ends (close ▸ mem)
  rw [List.takeWhile_append_of_pos inside]
  simp

/-- **The search finds each reference that does not stand behind an open brace.** The induction
follows the search, which may pass over earlier references on its way. -/
theorem mem_insides {front inside behind : List Char} (closed : ¬ LeavesOpen front)
    (full : inside ≠ []) (ends : '\x7d' ∉ inside) :
    inside ∈ insides (front ++ '\x7b' :: (inside ++ '\x7d' :: behind)) := by
  generalize whole : front ++ '\x7b' :: (inside ++ '\x7d' :: behind) = text
  fun_induction insides text generalizing front with
  | case1 => simp at whole
  | case2 c cs found starts =>
    rename_i ih
    cases front with
    | nil =>
      obtain ⟨-, rfl⟩ := List.cons.inj whole
      have here : found = inside := takeWhile_close ends behind
      exact here ▸ List.mem_cons_self
    | cons d front =>
      obtain ⟨rfl, rfl⟩ := List.cons.inj whole
      -- The search stops at an earlier brace. As `front` leaves none open, it is closed in there,
      -- and the search goes on in front of the reference.
      have brace : d = '\x7b' := by
        simp only [Bool.and_eq_true, decide_eq_true_eq] at starts
        exact starts.1.1
      subst brace
      obtain ⟨name, front, rfl, open'⟩ :=
        List.eq_append_cons_of_mem (close_mem_of_not_leavesOpen closed)
      have here : found = name := by
        have same := takeWhile_close open' (front ++ '\x7b' :: (inside ++ '\x7d' :: behind))
        rw [← List.cons_append, ← List.append_assoc] at same
        exact same
      have left : ¬ LeavesOpen front := by
        intro leaves
        have suffix : front <:+ '\x7b' :: (name ++ '\x7d' :: front) :=
          ⟨'\x7b' :: (name ++ ['\x7d']), by simp⟩
        exact closed (leaves.of_suffix suffix)
      have rest : (name ++ '\x7d' :: front ++ '\x7b' :: (inside ++ '\x7d' :: behind)).drop
          (name.length + 1) = front ++ '\x7b' :: (inside ++ '\x7d' :: behind) := by
        rw [List.append_assoc, List.drop_length_add_append]
        rfl
      exact List.mem_cons_of_mem _ (ih left (here ▸ rest.symm))
  | case3 c cs found misses =>
    rename_i ih
    cases front with
    | nil =>
      obtain ⟨rfl, rfl⟩ := List.cons.inj whole
      have here : found = inside := takeWhile_close ends behind
      -- At the brace of the reference itself the search does not fail.
      refine absurd ?_ misses
      simp [here, full]
    | cons d front =>
      obtain ⟨rfl, rfl⟩ := List.cons.inj whole
      have left : ¬ LeavesOpen front :=
        fun leaves => closed (leaves.of_suffix (List.suffix_cons d front))
      exact ih left rfl

/-! ### The lexer -/

/-- The braces of a string are those of its content: no escape takes one away. -/
theorem braces_quoted {quote : Char} (plain : isBrace quote = false) {content : List Char} {n : Nat}
    (read : Token.quotedContent? quote cs = some (content, n)) :
    braces (cs.take n) = braces content := by
  fun_induction Token.quotedContent? quote cs generalizing content n with
  | case1 => cases read
  | case2 => cases read
  | case3 c cs ih =>
    obtain ⟨⟨content, n⟩, inner, made⟩ := Option.map_eq_some_iff.1 read
    cases made
    have same := ih inner
    rw [List.take_succ_cons, List.take_succ_cons]
    simp only [braces] at same ⊢
    rw [List.filter_cons_of_neg (by decide), List.filter_cons, List.filter_cons, same]
  | case4 cs escaped last =>
    cases read
    simp [braces, plain]
  | case5 c cs escaped last other ih =>
    obtain ⟨⟨content, n⟩, inner, made⟩ := Option.map_eq_some_iff.1 read
    cases made
    have same := ih inner
    rw [List.take_succ_cons]
    simp only [braces] at same ⊢
    rw [List.filter_cons, List.filter_cons, same]

/-- **Only a string leaves a brace open,** and then its content does. -/
theorem string_of_leavesOpen {last : Option Token.Kind} {l : Token.Lexeme}
    (made : Token.lexeme last c cs = .ok l) (leaves : LeavesOpen (c :: cs.take l.more)) :
    ∃ text, l.kind = .string ∧ l.payload = .text text ∧ LeavesOpen text.toList := by
  have plain (none : ∀ d ∈ c :: cs.take l.more, isBrace d = false) :
      ∃ text, l.kind = .string ∧ l.payload = .text text ∧ LeavesOpen text.toList :=
    absurd leaves (not_leavesOpen_of_plain none)
  cases Token.lexes_of_lexeme made with
  | @reference name rest ends =>
    -- The last brace of a reference is the one that closes it.
    have text : (name ++ '\x7d' :: rest).take (name.length + 1) = name ++ ['\x7d'] := by
      rw [List.take_length_add_append]
      rfl
    dsimp only at leaves
    rw [text, ← List.cons_append, leavesOpen_append] at leaves
    rcases leaves with leaves | ⟨none, -⟩
    · exact absurd leaves (by decide)
    · exact absurd none (by decide)
  | @string _ _ content n quote read =>
    have none : isBrace c = false := by
      rcases quote with rfl | rfl <;> decide
    have same : braces (c :: cs.take n) = braces content := by
      rw [← braces_quoted none read, braces, List.filter_cons_of_neg (by simp [none])]
      rfl
    refine ⟨String.ofList content, rfl, rfl, ?_⟩
    rw [String.toList_ofList, LeavesOpen, ← same]
    exact leaves
  | number starts read =>
    refine plain (List.forall_mem_cons.2 ⟨?_, ?_⟩)
    · simp only [Token.startsNumber, Bool.or_eq_true, Bool.and_eq_true, decide_eq_true_eq] at starts
      rcases starts with digit | ⟨⟨rfl, -⟩, -⟩
      · exact isBrace_of_class digit (by decide) (by decide)
      · decide
    · exact plain_take (by decide) (by decide) cs
  | punctuation sign =>
    refine plain ?_
    rw [List.take_zero]
    refine List.forall_mem_singleton.2 ?_
    unfold Token.punctuation? at sign
    split at sign <;> first | decide | cases sign
  | @comparison _ _ sign found =>
    rw [Token.comparisonSign?] at found
    have starts := List.find?_some found
    have front : sign.toList <+: c :: cs := List.isPrefixOf_iff_prefix.1 starts
    have shape : ∀ s ∈ Token.comparisonSigns, 0 < s.length ∧ s.toList.all (!isBrace ·) := by
      decide
    obtain ⟨some, none⟩ := shape sign (List.mem_of_find?_eq_some found)
    have text : c :: cs.take (sign.length - 1) = sign.toList := by
      rw [List.prefix_iff_eq_take.1 front, String.length_toList, List.take_cons some]
    refine plain ?_
    rw [text]
    simpa using none
  | operator mem =>
    refine plain ?_
    rw [List.take_zero]
    refine List.forall_mem_singleton.2 ?_
    have none : Token.operatorSigns.all (!isBrace ·) := by decide
    simpa using List.all_eq_true.1 none c mem
  | word starts read =>
    refine plain (List.forall_mem_cons.2 ⟨?_, ?_⟩)
    · exact isBrace_of_class starts (by decide +kernel) (by decide +kernel)
    · exact plain_take (by decide +kernel) (by decide +kernel) cs

/-- Whether one of some tokens is a string whose content leaves a brace open. -/
def StringLeavesOpen (us : List Token) : Prop :=
  ∃ u ∈ us, ∃ text, u.kind = .string ∧ u.payload = .text text ∧ LeavesOpen text.toList

/-- **The text in front of a token.** The token stands right behind it, and it leaves a brace open
only if a string in it does. The induction follows the scan up to the token. -/
theorem exists_text_of_scan {last : Option Token.Kind} {position : Nat} {us vs : List Token}
    {t : Token} (scanned : Token.scan last position cs = .ok (us ++ t :: vs)) :
    ∃ front rest before, cs = front ++ rest ∧ t.position = position + front.length ∧
      Token.scan before t.position rest = .ok (t :: vs) ∧
      (LeavesOpen front → StringLeavesOpen us) := by
  have nothing : ¬ LeavesOpen [] := by decide
  fun_induction Token.scan last position cs generalizing us with
  | case1 last position =>
    have alone : [Token.atEnd position] = us ++ t :: vs := Except.ok.inj scanned
    cases us with
    | nil =>
      obtain ⟨rfl, rfl⟩ := List.cons.inj alone
      exact ⟨[], [], last, rfl, rfl, by rw [Token.scan]; rfl, fun leaves => absurd leaves nothing⟩
    | cons u us =>
      have more := (List.cons.inj alone).2
      exact absurd more.symm (by simp)
  | case2 last position c cs first ih =>
    obtain ⟨front, rest, before, rfl, place, goes, opens⟩ := ih scanned
    refine ⟨c :: front, rest, before, rfl, ?_, goes, fun leaves => ?_⟩
    · rw [place, List.length_cons]
      omega
    · rw [← List.singleton_append, leavesOpen_append] at leaves
      rcases leaves with leaves | ⟨-, leaves⟩
      · exact opens leaves
      · have plain : isBrace c = false := isBrace_of_class first (by decide) (by decide)
        exact absurd leaves (not_leavesOpen_of_plain (List.forall_mem_singleton.2 plain))
  | case3 last position c cs full fault failed => cases scanned
  | case4 last position c cs full l made ih =>
    obtain ⟨ts, behind, whole⟩ := Token.exists_of_scanned_cons scanned
    cases us with
    | nil =>
      have here : t.position = position := (congrArg Token.position (List.cons.inj whole).1).symm
      refine ⟨[], c :: cs, last, rfl, here, ?_, fun leaves => absurd leaves nothing⟩
      rw [Token.scan, if_neg full, made, here]
      exact scanned
    | cons u us =>
      obtain ⟨rfl, rfl⟩ := List.cons.inj whole
      obtain ⟨front, rest, before, split, place, goes, opens⟩ := ih behind
      have within := Token.more_le_length made
      have text : c :: cs = (c :: cs.take l.more ++ front) ++ rest := by
        rw [List.append_assoc, ← split, List.cons_append, List.take_append_drop]
      refine ⟨c :: cs.take l.more ++ front, rest, before, text, ?_, goes, fun leaves => ?_⟩
      · rw [place, List.length_append, List.length_cons, List.length_take, Nat.min_eq_left within]
        omega
      · -- The brace is open in what follows the first token, or in that token, which is then a
        -- string.
        rcases leavesOpen_append.1 leaves with leaves | ⟨-, leaves⟩
        · obtain ⟨u, mem, string⟩ := opens leaves
          exact ⟨u, List.mem_cons_of_mem _ mem, string⟩
        · exact ⟨_, List.mem_cons_self, string_of_leavesOpen made leaves⟩

/-- A token that starts with a brace is a reference up to the next closing one. -/
theorem exists_reference_of_scan {last : Option Token.Kind} {position : Nat} {t : Token}
    {vs : List Token} (scanned : Token.scan last position ('\x7b' :: cs) = .ok (t :: vs)) :
    ∃ name rest, '\x7d' ∉ name ∧ cs = name ++ '\x7d' :: rest ∧ t.kind = .reference ∧
      t.payload = .text (Text.trim (String.ofList name)) := by
  rw [Token.scan, if_neg (by decide), Token.lexeme_brace] at scanned
  cases found : Token.Lexeme.reference? cs with
  | none =>
    rw [found] at scanned
    cases scanned
  | some l =>
    obtain ⟨name, rest, ends, rfl, rfl⟩ := Token.reference?_eq_some found
    rw [found] at scanned
    obtain ⟨_, -, whole⟩ := Token.exists_of_scanned_cons scanned
    obtain ⟨rfl, -⟩ := List.cons.inj whole
    exact ⟨name, rest, ends, rfl, rfl, rfl⟩

/-! ### The names -/

/-- The name under which the search lists a reference with such a head. -/
def listedName (head : String) : String :=
  Text.trim (String.ofList (head.toList.takeWhile (· ≠ '[')))

/-- Where the search cuts a path: at a dot or a bracket, which is where the head is cut. -/
theorem baseName_eq (name : List Char) :
    baseName name = listedName (Expr.headOfPath (Text.trim (String.ofList name))) := by
  have cut (path : List Char) : path.takeWhile (fun c => c ≠ '.' && c ≠ '[') =
      (path.takeWhile (· ≠ '.')).takeWhile (· ≠ '[') := by
    rw [List.takeWhile_takeWhile]
    refine congrArg (path.takeWhile ·) (funext fun c => ?_)
    simp [and_comm]
  have path : (Text.trim (String.ofList name)).toList = Text.trimRight (Text.trimLeft name) := by
    rw [Text.trim, String.toList_ofList, String.toList_ofList]
  rw [listedName, Expr.headOfPath, String.toList_ofList, path, ← cut]
  rfl

/-- A head without a bracket and without blanks at its ends is listed as it is. -/
theorem listedName_eq_self {head : String} (plain : '[' ∉ head.toList)
    (bare : Text.trim head = head) : listedName head = head := by
  have whole : head.toList.takeWhile (· ≠ '[') = head.toList := by
    refine List.takeWhile_eq_self_iff.2 fun c mem => decide_eq_true ?_
    rintro rfl
    exact plain mem
  rw [listedName, whole, String.ofList_toList, bare]

/-- The search lists the base name of each text between braces that it finds. -/
theorem mem_names {inside : List Char} {source : String} (mem : inside ∈ insides source.toList)
    (full : baseName inside ≠ "") : baseName inside ∈ names source := by
  refine List.mem_eraseDups.2 (List.mem_filter.2 ⟨List.mem_map_of_mem mem, ?_⟩)
  exact decide_eq_true full

/-- **No reference is missed that does not stand behind an open brace.** Let a token of a source
start with a brace. It is a reference, and if the text in front of it leaves a brace open, a string
in front of it does. If not, the head of its path is listed, without what stands behind a bracket
and without the blanks at its ends; so the head itself is listed if it has neither. -/
theorem mem_names_of_tokenize {source : String} {us vs : List Token} {t : Token}
    (scanned : Token.tokenize source = .ok (us ++ t :: vs))
    (braced : source.toList[t.position]? = some '\x7b') :
    ∃ path, t.kind = .reference ∧ t.payload = .text path ∧
      (LeavesOpen (source.toList.take t.position) → StringLeavesOpen us) ∧
      (¬ LeavesOpen (source.toList.take t.position) →
        let head := Expr.headOfPath path
        (listedName head ≠ "" → listedName head ∈ names source) ∧
        (Text.isBlankText head = false → '[' ∉ head.toList → Text.trim head = head →
          head ∈ names source)) := by
  obtain ⟨front, rest, before, text, place, goes, opens⟩ := exists_text_of_scan scanned
  rw [Nat.zero_add] at place
  rw [text, place, List.getElem?_append_right le_rfl, Nat.sub_self] at braced
  cases rest with
  | nil => cases braced
  | cons c rest =>
    obtain rfl : c = '\x7b' := by simpa using braced
    obtain ⟨name, behind, ends, rfl, kind, payload⟩ := exists_reference_of_scan goes
    rw [text, place, List.take_left]
    refine ⟨Text.trim (String.ofList name), kind, payload, opens, fun closed => ?_⟩
    intro head
    have listed : listedName head ≠ "" → listedName head ∈ names source := by
      intro full
      have base : baseName name = listedName head := baseName_eq name
      rw [← base] at full ⊢
      have some : name ≠ [] := by
        rintro rfl
        exact absurd (by decide) full
      have mem : name ∈ insides source.toList := by
        rw [text]
        exact mem_insides closed some ends
      exact mem_names mem full
    refine ⟨listed, fun full plain bare => ?_⟩
    have same := listedName_eq_self plain bare
    rw [same] at listed
    refine listed fun none => ?_
    rw [none] at full
    cases full

/-- The hypotheses of `mem_names_of_tokenize` are satisfiable: the braces of the string in front of
the reference are closed. -/
theorem mem_names_of_tokenize_closed :
    let source := "'\x7b\x7d' = \x7bb.c\x7d"
    let string : Token := ⟨.string, .text "\x7b\x7d", 0⟩
    let reference : Token := ⟨.reference, .text "b.c", 7⟩
    Token.tokenize source = .ok ([string, ⟨.comparison, .text "=", 5⟩] ++
        reference :: [Token.atEnd 12]) ∧
      source.toList[reference.position]? = some '\x7b' ∧ "b" ∈ names source := by
  have scanned : Token.tokenize "'\x7b\x7d' = \x7bb.c\x7d" = .ok
      ([⟨.string, .text "\x7b\x7d", 0⟩, ⟨.comparison, .text "=", 5⟩] ++
        ⟨.reference, .text "b.c", 7⟩ :: [Token.atEnd 12]) := by
    with_unfolding_all rfl
  intro source string reference
  have braced : source.toList[reference.position]? = some '\x7b' := by decide
  obtain ⟨path, -, payload, -, listed⟩ := mem_names_of_tokenize scanned braced
  obtain rfl : "b.c" = path := Token.Payload.text.inj payload
  have head : Expr.headOfPath "b.c" = "b" := by decide
  have mem := (listed (by decide)).2
  rw [head] at mem
  exact ⟨scanned, braced, mem (by decide) (by decide) (by decide)⟩

/-- Whether a path stands in braces in a source, and the search does not list its head although it
is not blank. -/
def Misses (source path : String) : Prop :=
  (∃ us t vs, Token.tokenize source = .ok (us ++ t :: vs) ∧
    source.toList[t.position]? = some '\x7b' ∧ t.kind = .reference ∧ t.payload = .text path) ∧
  Text.isBlankText (Expr.headOfPath path) = false ∧ Expr.headOfPath path ∉ names source

/-- **References whose head the search does not list:** one with a bracket in its head, one with a
blank at its end, and one behind a string that leaves a brace open. -/
theorem head_not_mem_names :
    Misses "\x7ba[0]\x7d" "a[0]" ∧ Misses "\x7ba .b\x7d" "a .b" ∧
      Misses "'\x7b' = \x7ba\x7d" "a" := by
  refine ⟨?_, ?_, ?_⟩
  · refine ⟨⟨[], ⟨.reference, .text "a[0]", 0⟩, [Token.atEnd 6], ?_, by decide, rfl, rfl⟩,
      by decide, by decide +kernel⟩
    with_unfolding_all rfl
  · refine ⟨⟨[], ⟨.reference, .text "a .b", 0⟩, [Token.atEnd 6], ?_, by decide, rfl, rfl⟩,
      by decide, by decide +kernel⟩
    with_unfolding_all rfl
  · refine ⟨⟨[⟨.string, .text "\x7b", 0⟩, ⟨.comparison, .text "=", 4⟩], ⟨.reference, .text "a", 6⟩,
      [Token.atEnd 9], ?_, by decide, rfl, rfl⟩, by decide, by decide +kernel⟩
    with_unfolding_all rfl

end References
end SurveyLogic
