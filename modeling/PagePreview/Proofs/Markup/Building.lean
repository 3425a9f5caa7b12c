import PagePreview.Markup.Tree
import PagePreview.Proofs.Markup.Reading
import Mathlib.Data.List.Basic

/-!
# Building trees of divisions

What the nodes of a tree are after one of them is changed, after a new one is put at the end of a
parent, and after text is added there; and so what one round of the builder does in a body in which
nothing but divisions is open: a character goes to the text that stands last, a start tag opens a
division and an end tag closes one. The first division of a page opens its body.
-/

namespace PagePreview.Markup.Tree

variable {t : Tree} {id parent j : Nat} {f : Node → Node} {c : Content}

theorem node_eq (t : Tree) (id : Nat) : t.node id = (t.nodes[id]?).getD ⟨.comment, none, []⟩ :=
  Array.getD_eq_getD_getElem?

theorem size_modify : (t.modify id f).nodes.size = t.nodes.size := Array.size_modify

theorem node_modify_self (there : id < t.nodes.size) : (t.modify id f).node id = f (t.node id) := by
  rw [node_eq, node_eq, modify, Array.getElem?_modify, if_pos rfl, Array.getElem?_eq_getElem there]
  rfl

theorem node_modify_of_ne (other : j ≠ id) : (t.modify id f).node j = t.node j := by
  rw [node_eq, node_eq, modify, Array.getElem?_modify, if_neg (Ne.symm other)]

def grow (t : Tree) (parent : Nat) (c : Content) : Tree := (t.add c).2.append parent t.nodes.size

theorem size_add : (t.add c).2.nodes.size = t.nodes.size + 1 := Array.size_push _

theorem node_add_new : (t.add c).2.node t.nodes.size = ⟨c, none, []⟩ := by
  rw [node_eq, add, Array.getElem?_push_size]
  rfl

theorem node_add (there : id < t.nodes.size) : (t.add c).2.node id = t.node id := by
  rw [node_eq, node_eq, add, Array.getElem?_push_lt there, Array.getElem?_eq_getElem there]

theorem grow_eq : t.grow parent c = ((t.add c).2.modify parent fun n =>
    { n with children := n.children ++ [t.nodes.size] }).modify t.nodes.size
      fun n => { n with parent := some parent } := by
  have fresh : (t.add c).2.detach t.nodes.size = (t.add c).2 := by rw [detach, node_add_new]
  rw [grow, append, fresh]

section Grow

variable (there : parent < t.nodes.size)

theorem size_grow : (t.grow parent c).nodes.size = t.nodes.size + 1 := by
  rw [grow_eq, size_modify, size_modify, size_add]

include there

theorem node_grow_new : (t.grow parent c).node t.nodes.size = ⟨c, some parent, []⟩ := by
  rw [grow_eq, node_modify_self (by rw [size_modify, size_add]; omega), node_modify_of_ne (by omega),
    node_add_new]

theorem node_grow_parent : (t.grow parent c).node parent =
    { t.node parent with children := (t.node parent).children ++ [t.nodes.size] } := by
  rw [grow_eq, node_modify_of_ne (by omega), node_modify_self (by rw [size_add]; omega), node_add there]

omit there in
theorem node_grow_other (old : id < t.nodes.size) (other : id ≠ parent) :
    (t.grow parent c).node id = t.node id := by
  rw [grow_eq, node_modify_of_ne (by omega), node_modify_of_ne other, node_add old]

end Grow

theorem insertText_last {last : Nat} {old more : String}
    (ends : (t.node parent).children.getLast? = some last) (text : (t.node last).content = .text old) :
    t.insertText (.lastChild parent) more = t.modify last (appendText · more) := by
  have joins : ((t.node parent).children.getLast?).filter t.isText = some last := by
    rw [ends, Option.filter_some, isText, text]
    rfl
  rw [insertText]
  dsimp only
  rw [joins]

theorem insertText_new {more : String} (apart : ((t.node parent).children.getLast?).filter t.isText = none) :
    t.insertText (.lastChild parent) more = t.grow parent (.text more) := by
  rw [insertText]
  dsimp only
  rw [apart]
  rfl

theorem lt_of_name? {name : Name} (named : t.name? id = some name) : id < t.nodes.size := by
  by_contra outside
  rw [name?, node_eq, Array.getElem?_eq_none (by omega)] at named
  cases named

end PagePreview.Markup.Tree

namespace PagePreview.Markup.Build
open Text Lexer JsxTree

def inside (tree : Tree) (stack : List Nat) (ahead : List Char) (lastStart : String) (framesetOk : Bool) : Builder :=
  { tree, lexer := { ahead, lastStart }, phase := .inBody, stack, head := some 2, quirks := true, framesetOk }

def openNames : List String := ["html", "body", "div"]

def AreOpen (t : Tree) (stack : List Nat) : Prop :=
  ∀ id ∈ stack, ∃ label ∈ openNames, t.name? id = some ⟨.html, label⟩

def reading (token : Token) (b : Builder) : Builder :=
  match token with
  | .startTag tag => { b with lexer := { b.lexer with lastStart := tag.name } }
  | .endTag _ => { b with lexer := { b.lexer with mode := .data } }
  | _ => b

def isEnd (token : Token) : Bool := token matches .eof

theorem run_read {b b' : Builder} {token : Token} {lexer : Lexer}
    (read : b.lexer.next (inForeign b) = ([token], lexer))
    (taken : take token (reading token { b with lexer }) = ((), b')) (fuel : Nat) :
    run (fuel + 1) b = if isEnd token then ((), b') else run fuel b' := by
  have fed : feed [token] { b with lexer } =
      (isEnd token, (take token (reading token { b with lexer })).2) := by
    cases token <;> rfl
  rw [taken] at fed
  rw [run]
  simp only [bind, StateT.bind, get, getThe, MonadStateOf.get, StateT.get, pure, read]
  change (match feed [token] { b with lexer } with
    | (ended, b) => (if ended then pure () else run fuel : Build Unit) b) = _
  rw [fed]
  cases token <;> rfl

theorem settle_own {b : Builder} {token : Token} (own : isForeign token b = (false, b)) (fuel : Nat) :
    settle (fuel + 1) none token b = match rules b.phase token b with
      | (.done, b) => ((), b)
      | (.again, b) => settle fuel none token b
      | (.through phase, b) => settle fuel (some phase) token b := by
  rw [settle]
  simp only [bind, StateT.bind, get, getThe, MonadStateOf.get, StateT.get, pure, own,
    Bool.false_eq_true, if_false]
  rcases rules b.phase token b with ⟨_ | _ | _, b⟩ <;> rfl

theorem settle_again {b b' : Builder} {token : Token} (own : isForeign token b = (false, b))
    (ruled : rules b.phase token b = (.again, b')) (fuel : Nat) :
    settle (fuel + 1) none token b = settle fuel none token b' := by
  rw [settle_own own, ruled]

theorem take_eq {b : Builder} (whole : b.ignoreLineFeed = false) (token : Token) :
    take token b = settle (64 + 4 * b.stack.length) none token b := by
  have same : { b with ignoreLineFeed := false } = b := by rw [← whole]
  simp only [take, bind, StateT.bind, get, getThe, MonadStateOf.get, StateT.get, modify, modifyGet,
    MonadStateOf.modifyGet, StateT.modifyGet, pure, whole, same]

section Inside

variable {t : Tree} {current : Nat} {outer : List Nat} {ahead : List Char} {last : String} {ok : Bool}
  (names : AreOpen t (current :: outer))

include names

theorem isForeign_inside (token : Token) :
    isForeign token (inside t (current :: outer) ahead last ok) =
      (false, inside t (current :: outer) ahead last ok) := by
  obtain ⟨label, -, name⟩ := names current List.mem_cons_self
  cases token with
  | eof => rfl
  | _ =>
    simp only [isForeign, inside, bind, StateT.bind, get, getThe, MonadStateOf.get, StateT.get, pure, name]
    rfl

omit names in
theorem inBody_char (c : Char) (there : c ≠ '\x00') :
    inBody (.char c) (inside t (current :: outer) ahead last ok) =
      (.done, inside (t.insertText (.lastChild current) (String.singleton c)) (current :: outer) ahead last
        (isSpace c && ok)) := by
  have other : (c == '\x00') = false := by simpa using there
  rw [inBody, other]
  cases isSpace c <;> rfl

theorem nameInScope_p (limits : List Name) :
    nameInScope limits ["p"] (inside t (current :: outer) ahead last ok) =
      (false, inside t (current :: outer) ahead last ok) := by
  have none_there (b : Builder) (same : b.tree = t) (stack : List Nat) (names : AreOpen t stack) :
      inScope.go limits (fun _ name => name.space == .html && ["p"].contains name.label) b stack = false := by
    induction stack with
    | nil => rfl
    | cons id stack ih =>
      obtain ⟨⟨label, listed, name⟩, names⟩ := List.forall_mem_cons.mp names
      have other : ["p"].contains label = false := by
        simp only [openNames, List.mem_cons, List.not_mem_nil, or_false] at listed
        rcases listed with rfl | rfl | rfl <;> decide
      rw [inScope.go, same, name]
      simp only [other, ih names, Bool.and_false, Bool.or_false]
  exact congrArg (·, inside t (current :: outer) ahead last ok) (none_there _ rfl _ names)

theorem inBody_start (marks : List (Divs.Mark × String)) :
    inBody (.startTag (divTag marks)) (inside t (current :: outer) ahead last ok) =
      (.done, inside (t.grow current (.element ⟨.html, "div"⟩ (marks.map markAttribute)))
        (t.nodes.size :: current :: outer) ahead last ok) := by
  have closed : closeParagraph (inside t (current :: outer) ahead last ok) =
      ((), inside t (current :: outer) ahead last ok) := by
    unfold closeParagraph
    simp only [bind, StateT.bind, nameInScope_p names]
    rfl
  have opened : bodyStart (divTag marks) = (do
      closeParagraph
      insert (divTag marks)
      return .done) := rfl
  rw [inBody, opened]
  simp only [bind, StateT.bind, closed]
  rfl

omit names in
theorem inBody_end (div : t.name? current = some ⟨.html, "div"⟩) :
    inBody (.endTag "div") (inside t (current :: outer) ahead last ok) = (.done, inside t outer ahead last ok) := by
  have html : t.htmlName current = "div" := by rw [Tree.htmlName, div]
  have found : nameInScope baseScope ["div"] (inside t (current :: outer) ahead last ok) =
      (true, inside t (current :: outer) ahead last ok) := by
    refine congrArg (·, inside t (current :: outer) ahead last ok) ?_
    rw [inside, inScope.go]
    simp only [div]
    rfl
  have kept : closeImplied impliedEnd (inside t (current :: outer) ahead last ok) =
      ((), inside t (current :: outer) ahead last ok) := by
    refine congrArg (fun stack => ((), inside t stack ahead last ok)) (List.dropWhile_cons_of_neg ?_)
    simp only [inside, html]
    decide
  have popped : popUntil ["div"] (inside t (current :: outer) ahead last ok) = ((), inside t outer ahead last ok) := by
    refine congrArg (fun stack : List Nat => ((), inside t (stack.drop 1) ahead last ok))
      (List.dropWhile_cons_of_neg ?_)
    simp only [inside, html]
    decide
  have closes : bodyEnd "div" = (do
      if ← nameInScope baseScope ["div"] then
        closeImplied impliedEnd
        popUntil ["div"]
      return .done) := rfl
  rw [inBody, closes]
  simp only [bind, StateT.bind, found, kept, popped, if_true]
  rfl

theorem settle_inside {token : Token} {b : Builder}
    (ruled : inBody token (inside t (current :: outer) ahead last ok) = (.done, b)) (fuel : Nat) :
    settle (fuel + 1) none token (inside t (current :: outer) ahead last ok) = ((), b) := by
  have body : rules (inside t (current :: outer) ahead last ok).phase = inBody := rfl
  rw [settle_own (isForeign_inside names token), body, ruled]

theorem take_inside {token : Token} {b : Builder}
    (ruled : inBody token (inside t (current :: outer) ahead last ok) = (.done, b)) :
    take token (inside t (current :: outer) ahead last ok) = ((), b) := by
  rw [take_eq rfl, Nat.add_comm]
  exact settle_inside names ruled _

theorem inForeign_inside : inForeign (inside t (current :: outer) ahead last ok) = false := by
  obtain ⟨label, -, name⟩ := names current List.mem_cons_self
  simp only [inForeign, inside, name]
  rfl

def startName (last : String) : Token → String
  | .startTag tag => tag.name
  | _ => last

theorem run_inside {token : Token} {rest : List Char} {b : Builder}
    (read : next ⟨ahead, .data, last⟩ false = ([token], ⟨rest, .data, last⟩))
    (ruled : inBody token (inside t (current :: outer) rest (startName last token) ok) = (.done, b)) (fuel : Nat) :
    run (fuel + 1) (inside t (current :: outer) ahead last ok) = if isEnd token then ((), b) else run fuel b := by
  have own : inForeign (inside t (current :: outer) ahead last ok) = false := inForeign_inside names
  have entered : reading token (inside t (current :: outer) rest last ok) =
      inside t (current :: outer) rest (startName last token) ok := by
    cases token <;> rfl
  have taken := take_inside names ruled
  rw [← own] at read
  rw [← entered] at taken
  rw [run_read read taken]

theorem run_entity {c : Char} (there : c ≠ '\x00') (fuel : Nat) :
    run (fuel + 1) (inside t (current :: outer) (entity c ++ ahead) last ok) =
      run fuel (inside (t.insertText (.lastChild current) (String.singleton c)) (current :: outer) ahead last
        (isSpace c && ok)) :=
  run_inside names (next_entity c) (inBody_char c there) fuel

theorem run_start (marks : Divs.Marks) (held : ∀ m ∈ marks.list, Divs.IsHeld m.2) (fuel : Nat) :
    run (fuel + 1) (inside t (current :: outer) (Divs.startChars marks.list ++ ahead) last ok) =
      run fuel (inside (t.grow current (.element ⟨.html, "div"⟩ (marks.list.map markAttribute)))
        (t.nodes.size :: current :: outer) ahead "div" ok) :=
  run_inside names (next_start marks held) (inBody_start names marks.list) fuel

theorem run_end (div : t.name? current = some ⟨.html, "div"⟩) (fuel : Nat) :
    run (fuel + 1) (inside t (current :: outer) (Divs.endChars ++ ahead) last ok) =
      run fuel (inside t outer ahead last ok) :=
  run_inside names next_end (inBody_end div) fuel

theorem run_nil (fuel : Nat) : run (fuel + 1) (inside t (current :: outer) [] last ok) =
    ((), inside t (current :: outer) [] last ok) :=
  run_inside names next_nil rfl fuel

end Inside

def blank : Tree := ⟨#[
  ⟨.document, none, [1]⟩,
  ⟨.element ⟨.html, "html"⟩ [], some 0, [2, 3]⟩,
  ⟨.element ⟨.html, "head"⟩ [], some 1, []⟩,
  ⟨.element ⟨.html, "body"⟩ [], some 1, []⟩]⟩

section Opening

variable (marks : Divs.Marks) (ahead : List Char)

def opening (phase : Phase) (nodes : Array Node) (stack : List Nat) (head : Option Nat) : Builder :=
  { tree := ⟨nodes⟩, lexer := { ahead, lastStart := "div" }, phase, stack, head, quirks := true }

theorem settle_first (fuel : Nat) :
    settle (fuel + 5) none (.startTag (divTag marks.list)) { lexer := { ahead, lastStart := "div" } } =
      settle fuel none (.startTag (divTag marks.list)) (inside blank [3, 1] ahead "div" true) := by
  let token : Token := .startTag (divTag marks.list)
  let root : Array Node := #[⟨.document, none, [1]⟩, ⟨.element ⟨.html, "html"⟩ [], some 0, []⟩]
  let headed : Array Node := #[⟨.document, none, [1]⟩, ⟨.element ⟨.html, "html"⟩ [], some 0, [2]⟩,
    ⟨.element ⟨.html, "head"⟩ [], some 1, []⟩]
  calc settle (fuel + 5) none token { lexer := { ahead, lastStart := "div" } }
    _ = settle (fuel + 4) none token (opening ahead .beforeHtml #[⟨.document, none, []⟩] [] none) :=
      settle_again rfl rfl _
    _ = settle (fuel + 3) none token (opening ahead .beforeHead root [1] none) := settle_again rfl rfl _
    _ = settle (fuel + 2) none token (opening ahead .inHead headed [2, 1] (some 2)) := settle_again rfl rfl _
    _ = settle (fuel + 1) none token (opening ahead .afterHead headed [1] (some 2)) := settle_again rfl rfl _
    _ = settle fuel none token (inside blank [3, 1] ahead "div" true) := settle_again rfl rfl _

theorem areOpen_blank : AreOpen blank [3, 1] := by
  intro id mem
  rw [List.mem_cons, List.mem_singleton] at mem
  rcases mem with rfl | rfl
  · exact ⟨"body", by decide, rfl⟩
  · exact ⟨"html", by decide, rfl⟩

theorem run_first (held : ∀ m ∈ marks.list, Divs.IsHeld m.2) (fuel : Nat) :
    run (fuel + 1) { lexer := { ahead := Divs.startChars marks.list ++ ahead } } =
      run (fuel + 1) (inside blank [3, 1] (Divs.startChars marks.list ++ ahead) "" true) := by
  have settled : settle (58 + 1) none (.startTag (divTag marks.list)) (inside blank [3, 1] ahead "div" true) =
      ((), inside (blank.grow 3 (.element ⟨.html, "div"⟩ (marks.list.map markAttribute))) [4, 3, 1] ahead "div" true) :=
    settle_inside areOpen_blank (inBody_start areOpen_blank marks.list) 58
  have taken : take (.startTag (divTag marks.list)) { lexer := { ahead, lastStart := "div" } } = _ :=
    (take_eq rfl _).trans ((settle_first marks ahead 59).trans settled)
  have entered : { lexer := { ahead, lastStart := "div" } } =
    reading (.startTag (divTag marks.list)) { lexer := { ahead } } := rfl
  rw [entered] at taken
  have read : next ⟨Divs.startChars marks.list ++ ahead, .data, ""⟩ false =
    ([.startTag (divTag marks.list)], ⟨ahead, .data, ""⟩) := next_start marks held
  rw [run_start areOpen_blank marks held, run_read (b := { lexer := ⟨_, .data, ""⟩ }) read taken]
  rfl

end Opening

end PagePreview.Markup.Build
