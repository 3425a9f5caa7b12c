import PagePreview.Proofs.Markup.Building

/-!
# The nodes that stand for divisions

When the markup of divisions has been read inside an element, the children of that element end in
nodes that stand for the divisions, and all older nodes are as they were. The induction is on the
divisions, with the text that was read last and that more text would join.
-/

namespace PagePreview.Markup

/-- Nodes that stand for texts and divisions, all of them behind `floor`. -/
inductive Stands (t : Tree) (floor : Nat) : List Nat → Divs → Prop
  | nil : Stands t floor [] .nil
  | text {id : Nat} {ids : List Nat} {s : String} {rest : Divs} (after : floor < id) (there : id < t.nodes.size)
      (content : (t.node id).content = .text s) (more : Stands t floor ids rest) :
      Stands t floor (id :: ids) (.text s rest)
  | div {id : Nat} {ids : List Nat} {marks : Divs.Marks} {inner rest : Divs} (after : floor < id)
      (there : id < t.nodes.size)
      (content : (t.node id).content = .element ⟨.html, "div"⟩ (marks.list.map markAttribute))
      (within : Stands t floor (t.node id).children inner) (more : Stands t floor ids rest) :
      Stands t floor (id :: ids) (.div marks inner rest)

variable {t t' t'' : Tree} {current floor : Nat} {before : String} {old new next tail ids : List Nat} {f : Divs}

/-- What stands for divisions still does while the nodes behind the floor stay, and behind any lower
floor. -/
theorem Stands.frame {lower : Nat} (h : Stands t floor ids f) (le : lower ≤ floor)
    (grows : t.nodes.size ≤ t'.nodes.size)
    (same : ∀ id, floor < id → id < t.nodes.size → t'.node id = t.node id) : Stands t' lower ids f := by
  induction h with
  | nil => exact .nil
  | text after there content more ih =>
    exact .text (by omega) (by omega) (same _ after there ▸ content) ih
  | div after there content within more ihi ihr =>
    have kept := same _ after there
    exact .div (by omega) (by omega) (kept ▸ content) (kept ▸ ihi) ihr

structure Becomes (t : Tree) (current : Nat) (old : List Nat) (t' : Tree) (new : List Nat) : Prop where
  node : ∀ front, (t.node current).children = front ++ old →
    t'.node current = { t.node current with children := front ++ new }
  content : (t'.node current).content = (t.node current).content
  kept : ∀ id < t.nodes.size, id ≠ current → id ∉ old → t'.node id = t.node id
  fresh : ∀ id ∈ new, id ∈ old ∨ t.nodes.size ≤ id
  grows : t.nodes.size ≤ t'.nodes.size

namespace Becomes

theorem of_kept (self : t'.node current = t.node current)
    (kept : ∀ id < t.nodes.size, id ∉ old → t'.node id = t.node id) (grows : t.nodes.size ≤ t'.nodes.size) :
    Becomes t current old t' old where
  node front same := by rw [self, ← same]
  content := by rw [self]
  kept id there _ apart := kept id there apart
  fresh _ mem := .inl mem
  grows := grows

theorem refl (t : Tree) (current : Nat) (old : List Nat) : Becomes t current old t old :=
  .of_kept rfl (fun _ _ _ => rfl) (Nat.le_refl _)

theorem trans (h : Becomes t current old t' new) (h' : Becomes t' current new t'' next) :
    Becomes t current old t'' next where
  node front same := by
    have first := h.node front same
    rw [h'.node front (by rw [first]), first]
  content := h'.content.trans h.content
  kept id there other apart := by
    have still : id ∉ new := fun mem => (h.fresh id mem).elim apart fun late => by omega
    have := h.grows
    rw [h'.kept id (by omega) other still, h.kept id there other apart]
  fresh id mem := by
    have := h.grows
    rcases h'.fresh id mem with earlier | late
    · exact h.fresh id earlier
    · exact .inr (by omega)
  grows := Nat.le_trans h.grows h'.grows

theorem behind (h : Becomes t current old t' new) (more : List Nat) :
    Becomes t current (more ++ old) t' (more ++ new) where
  node front same := by
    rw [← List.append_assoc] at same ⊢
    exact h.node _ same
  content := h.content
  kept id there other apart := h.kept id there other fun mem => apart (List.mem_append_right more mem)
  fresh id mem := by
    rcases List.mem_append.mp mem with front | last
    · exact .inl (List.mem_append_left old front)
    · exact (h.fresh id last).imp_left (List.mem_append_right more)
  grows := h.grows

theorem name? (h : Becomes t current old t' new) {id : Nat} {name : Name} (named : t.name? id = some name)
    (apart : id ∉ old) : t'.name? id = some name := by
  by_cases same : id = current
  · subst same
    rwa [Tree.name?, h.content]
  · rwa [Tree.name?, h.kept id (Tree.lt_of_name? named) same apart]

theorem areOpen (h : Becomes t current old t' new) {stack : List Nat} (names : Build.AreOpen t stack)
    (apart : ∀ id ∈ stack, id ∉ old) : Build.AreOpen t' stack := fun id mem =>
  (names id mem).imp fun _ ⟨listed, named⟩ => ⟨listed, h.name? named (apart id mem)⟩

theorem grow (there : current < t.nodes.size) (c : Content) :
    Becomes t current old (t.grow current c) (old ++ [t.nodes.size]) where
  node front same := by rw [Tree.node_grow_parent there, same, List.append_assoc]
  content := by rw [Tree.node_grow_parent there]
  kept id old_there other _ := Tree.node_grow_other old_there other
  fresh id mem := (List.mem_append.mp mem).imp_right fun new => Nat.le_of_eq (List.mem_singleton.mp new).symm
  grows := by
    rw [Tree.size_grow]
    omega

end Becomes

inductive Pending (t : Tree) (current : Nat) : String → List Nat → Prop
  | none (apart : ((t.node current).children.getLast?).filter t.isText = none) : Pending t current "" []
  | text {id : Nat} {s : String} (last : (t.node current).children.getLast? = some id)
      (content : (t.node id).content = .text s) (after : current < id) (there : id < t.nodes.size)
      (some_there : s ≠ "") : Pending t current s [id]

namespace Pending

theorem notMem_of_name? (h : Pending t current before tail) {id : Nat} {name : Name}
    (named : t.name? id = some name) : id ∉ tail := by
  cases h with
  | none => exact List.not_mem_nil
  | text last content =>
    rintro mem
    rw [List.mem_singleton.mp mem, Tree.name?, content] at named
    cases named

theorem apart (h : Pending t current before tail) {stack : List Nat} (names : Build.AreOpen t stack) :
    ∀ id ∈ stack, id ∉ tail := fun id mem => by
  obtain ⟨_, -, named⟩ := names id mem
  exact h.notMem_of_name? named

theorem stands (h : Pending t current before tail) (kept : ∀ id ∈ tail, t'.node id = t.node id)
    (grows : t.nodes.size ≤ t'.nodes.size) (more : Stands t' current ids f) :
    Stands t' current (tail ++ ids) (Divs.withText before f) := by
  cases h with
  | none => exact more
  | text last content after there some_there =>
    rw [Divs.withText, if_neg (by rwa [String.isEmpty_iff])]
    exact .text after (by omega) (kept _ List.mem_cons_self ▸ content) more

theorem within (h : Pending t current before tail) : ∀ id ∈ tail, current < id ∧ id < t.nodes.size := by
  cases h with
  | none => exact fun _ mem => absurd mem List.not_mem_nil
  | text last content after there => exact fun id mem => List.mem_singleton.mp mem ▸ ⟨after, there⟩

theorem nodes (h : Pending t current before tail) (f : Divs) :
    (Divs.withText before f).nodes = tail.length + f.nodes := by
  cases h with
  | none => exact (Nat.zero_add _).symm
  | text last content after there some_there =>
    rw [Divs.withText, if_neg (by rwa [String.isEmpty_iff])]
    rfl

theorem insertText (h : Pending t current before tail) (there : current < t.nodes.size) (c : Char) :
    let t' := t.insertText (.lastChild current) (String.singleton c)
    ∃ tail', Pending t' current (before ++ String.singleton c) tail' ∧ Becomes t current tail t' tail' ∧
      t'.nodes.size + tail.length = t.nodes.size + tail'.length := by
  cases h with
  | none apart =>
    have grown : Becomes t current [] (t.grow current (.text (String.singleton c))) [t.nodes.size] :=
      .grow there _
    have children := Tree.node_grow_parent (c := .text (String.singleton c)) there
    rw [Tree.insertText_new apart]
    refine ⟨_, .text (s := "" ++ String.singleton c) ?_ ?_ there ?_ ?_, grown, ?_⟩
    · rw [children, List.getLast?_concat]
    · rw [Tree.node_grow_new there, String.empty_append]
    · rw [Tree.size_grow]
      omega
    · simp
    · rw [Tree.size_grow]
      rfl
  | text last content after there' some_there =>
    rename_i id
    rw [Tree.insertText_last last content]
    have self : (t.modify id (Tree.appendText · (String.singleton c))).node id =
        { t.node id with content := .text (before ++ String.singleton c) } := by
      rw [Tree.node_modify_self there', Tree.appendText, content]
    have parent : (t.modify id (Tree.appendText · (String.singleton c))).node current = t.node current :=
      Tree.node_modify_of_ne (by omega)
    refine ⟨[id], .text ?_ ?_ after ?_ ?_, ?_, ?_⟩
    · rw [parent, last]
    · rw [self]
    · rwa [Tree.size_modify]
    · simp
    · exact .of_kept parent (fun other _ apart => Tree.node_modify_of_ne fun same =>
        apart (List.mem_singleton.mpr same)) (Nat.le_of_eq Tree.size_modify.symm)
    · rw [Tree.size_modify]

end Pending

namespace Build
open JsxTree Lexer

variable {stack stack' stack'' outer : List Nat} {chars more : List Char}

/-- Reading a text in a body takes the builder from one tree with its open elements to another, in no
more rounds than there are characters. -/
def Reads (t : Tree) (stack : List Nat) (chars : List Char) (t' : Tree) (stack' : List Nat) : Prop :=
  ∃ rounds ≤ chars.length, ∀ ahead last ok, ∃ last' ok', ∀ fuel,
    run (rounds + fuel) (inside t stack (chars ++ ahead) last ok) = run fuel (inside t' stack' ahead last' ok')

namespace Reads

theorem refl (t : Tree) (stack : List Nat) : Reads t stack [] t stack :=
  ⟨0, Nat.le_refl 0, fun _ last ok => ⟨last, ok, fun fuel => by rw [Nat.zero_add]; rfl⟩⟩

theorem trans (h : Reads t stack chars t' stack') (h' : Reads t' stack' more t'' stack'') :
    Reads t stack (chars ++ more) t'' stack'' := by
  obtain ⟨rounds, few, reads⟩ := h
  obtain ⟨rounds', few', reads'⟩ := h'
  refine ⟨rounds + rounds', by rw [List.length_append]; omega, fun ahead last ok => ?_⟩
  obtain ⟨last₁, ok₁, first⟩ := reads (more ++ ahead) last ok
  obtain ⟨last', ok', second⟩ := reads' ahead last₁ ok₁
  refine ⟨last', ok', fun fuel => ?_⟩
  rw [List.append_assoc, Nat.add_assoc, first, second]

theorem round (some_there : chars ≠ []) (reads : ∀ ahead last ok, ∃ last' ok', ∀ fuel,
    run (fuel + 1) (inside t stack (chars ++ ahead) last ok) = run fuel (inside t' stack' ahead last' ok')) :
    Reads t stack chars t' stack' :=
  ⟨1, List.length_pos_iff.mpr some_there, fun ahead last ok =>
    (reads ahead last ok).imp fun _ => Exists.imp fun _ same fuel => by rw [Nat.add_comm, same]⟩

section Parts

variable (names : AreOpen t (current :: outer))

include names

theorem entity {c : Char} (there : c ≠ '\x00') : Reads t (current :: outer) (entity c)
    (t.insertText (.lastChild current) (String.singleton c)) (current :: outer) :=
  round (CharRef.entity_ne_nil c) fun _ last ok => ⟨last, isSpace c && ok, run_entity names there⟩

theorem start (marks : Divs.Marks) (held : ∀ m ∈ marks.list, Divs.IsHeld m.2) :
    Reads t (current :: outer) (Divs.startChars marks.list)
      (t.grow current (.element ⟨.html, "div"⟩ (marks.list.map markAttribute))) (t.nodes.size :: current :: outer) :=
  round (by simp [Divs.startChars]) fun _ _ ok => ⟨"div", ok, run_start names marks held⟩

theorem stop (div : t.name? current = some ⟨.html, "div"⟩) :
    Reads t (current :: outer) Divs.endChars t outer :=
  round (by simp [Divs.endChars]) fun _ last ok => ⟨last, ok, run_end names div⟩

end Parts
end Reads

theorem lt_of_areOpen (names : AreOpen t (current :: outer)) : current < t.nodes.size := by
  obtain ⟨_, -, named⟩ := names current List.mem_cons_self
  exact Tree.lt_of_name? named

theorem reads_text (s : List Char) (held : '\x00' ∉ s) (names : AreOpen t (current :: outer))
    (pending : Pending t current before tail) :
    ∃ t' tail', Reads t (current :: outer) (s.flatMap JsxTree.entity) t' (current :: outer) ∧
      Pending t' current (before ++ String.ofList s) tail' ∧ Becomes t current tail t' tail' ∧
      t'.nodes.size + tail.length = t.nodes.size + tail'.length := by
  induction s generalizing t before tail with
  | nil =>
    refine ⟨t, tail, .refl .., ?_, .refl .., rfl⟩
    simpa using pending
  | cons c s ih =>
    rw [List.mem_cons, not_or] at held
    obtain ⟨tail₁, pending₁, becomes₁, size₁⟩ := pending.insertText (lt_of_areOpen names) c
    have names₁ := becomes₁.areOpen names (pending.apart names)
    obtain ⟨t', tail', reads', pending', becomes', size'⟩ := ih held.2 names₁ pending₁
    refine ⟨t', tail', (Reads.entity names (Ne.symm held.1)).trans reads', ?_, becomes₁.trans becomes', by omega⟩
    rwa [String.append_assoc, ← String.ofList_cons] at pending'

/-- Divisions are read inside any element, whatever text stands last there: nodes that stand for them
take the place of that text, and all other nodes stay. -/
def AreRead (f : Divs) : Prop :=
  ∀ {t : Tree} {current : Nat} {outer tail front : List Nat} {before : String}, AreOpen t (current :: outer) →
    Pending t current before tail → (t.node current).children = front ++ tail →
    ∃ t' ids, Reads t (current :: outer) f.chars t' (current :: outer) ∧ Stands t' current ids (f.joined before) ∧
      Becomes t current tail t' ids ∧ t'.nodes.size + tail.length = t.nodes.size + (f.joined before).nodes

theorem areRead_nil : AreRead .nil := by
  intro t current outer tail front before names pending children
  refine ⟨t, tail, .refl .., ?_, .refl .., ?_⟩
  · rw [Divs.joined, ← List.append_nil tail]
    exact pending.stands (fun _ _ => rfl) (Nat.le_refl _) .nil
  · rw [Divs.joined, pending.nodes]
    rfl

theorem areRead_text {s : String} {rest : Divs} (held : Divs.IsHeld s) (read : AreRead rest) :
    AreRead (.text s rest) := by
  intro t current outer tail front before names pending children
  obtain ⟨t₁, tail₁, reads₁, pending₁, becomes₁, size₁⟩ := reads_text s.toList held.1 names pending
  have names₁ := becomes₁.areOpen names (pending.apart names)
  rw [String.ofList_toList] at pending₁
  have children₁ : (t₁.node current).children = front ++ tail₁ := by rw [becomes₁.node front children]
  obtain ⟨t', ids, reads', stands, becomes', size'⟩ := read names₁ pending₁ children₁
  exact ⟨t', ids, reads₁.trans reads', stands, becomes₁.trans becomes', by rw [Divs.joined]; omega⟩

theorem reads_div {marks : Divs.Marks} {inner : Divs} (held : ∀ m ∈ marks.list, Divs.IsHeld m.2) (read : AreRead inner)
    (names : AreOpen t (current :: outer)) :
    ∃ t' within,
      Reads t (current :: outer) (Divs.startChars marks.list ++ inner.chars ++ Divs.endChars) t' (current :: outer) ∧
      t'.node t.nodes.size = ⟨.element ⟨.html, "div"⟩ (marks.list.map markAttribute), some current, within⟩ ∧
      Stands t' t.nodes.size within (inner.joined "") ∧ Becomes t current [] t' [t.nodes.size] ∧
      t'.nodes.size = t.nodes.size + 1 + (inner.joined "").nodes := by
  have there := lt_of_areOpen names
  let new := t.nodes.size
  let content : Content := .element ⟨.html, "div"⟩ (marks.list.map markAttribute)
  let t₁ := t.grow current content
  have becomes₁ : Becomes t current [] t₁ [new] := .grow there content
  have node₁ : t₁.node new = ⟨content, some current, []⟩ := Tree.node_grow_new there
  have size₁ : t₁.nodes.size = new + 1 := Tree.size_grow
  have name₁ : t₁.name? new = some ⟨.html, "div"⟩ := by rw [Tree.name?, node₁]
  have names₁ : AreOpen t₁ (new :: current :: outer) := List.forall_mem_cons.mpr
    ⟨⟨"div", by decide, name₁⟩, becomes₁.areOpen names fun _ _ => List.not_mem_nil⟩
  have empty : (t₁.node new).children = [] ++ [] := by rw [node₁]; rfl
  obtain ⟨t', within, reads', stands, becomes', size'⟩ := read names₁ (.none (by rw [node₁]; rfl)) empty
  have names' : AreOpen t' (new :: current :: outer) := becomes'.areOpen names₁ fun _ _ => List.not_mem_nil
  have kept (id : Nat) (old : id < new) : t'.node id = t₁.node id :=
    becomes'.kept id (by omega) (by omega) List.not_mem_nil
  have stays : Becomes t₁ current [new] t' [new] := by
    refine .of_kept (kept current there) (fun id old other => kept id ?_) becomes'.grows
    rw [List.mem_singleton] at other
    omega
  rw [List.length_nil, Nat.add_zero, size₁] at size'
  refine ⟨t', within, ?_, ?_, stands, becomes₁.trans stays, size'⟩
  · exact ((Reads.start names marks held).trans reads').trans
      (Reads.stop names' (becomes'.name? name₁ List.not_mem_nil))
  · rw [becomes'.node [] empty, node₁]
    rfl

theorem areRead_div {marks : Divs.Marks} {inner rest : Divs} (held : ∀ m ∈ marks.list, Divs.IsHeld m.2)
    (read_inner : AreRead inner) (read_rest : AreRead rest) : AreRead (.div marks inner rest) := by
  intro t current outer tail front before names pending children
  have there := lt_of_areOpen names
  obtain ⟨t₁, within, reads₁, node₁, stands₁, becomes₁, size₁⟩ := reads_div held read_inner names
  have names₁ := becomes₁.areOpen names fun _ _ => List.not_mem_nil
  have children₁ : (t₁.node current).children = (front ++ tail ++ [t.nodes.size]) ++ [] := by
    rw [becomes₁.node (front ++ tail) (by rw [children, List.append_nil]), List.append_nil]
  -- The text before the division does not go on behind it.
  have pending₁ : Pending t₁ current "" [] := .none (by
    rw [children₁, List.append_nil, List.getLast?_concat, Option.filter_some, Tree.isText, node₁]
    rfl)
  obtain ⟨t', ids, reads', stands', becomes', size'⟩ := read_rest names₁ pending₁ children₁
  rw [List.length_nil, Nat.add_zero] at size'
  have kept (id : Nat) (old : id < t₁.nodes.size) (other : id ≠ current) : t'.node id = t₁.node id :=
    becomes'.kept id old other List.not_mem_nil
  have node' := kept t.nodes.size (by omega) (by omega)
  have stands_within : Stands t' current within (inner.joined "") :=
    stands₁.frame (Nat.le_of_lt there) becomes'.grows fun id after old => kept id old (by omega)
  refine ⟨t', tail ++ t.nodes.size :: ids, reads₁.trans reads', ?_, ?_, ?_⟩
  · refine pending.stands (fun id mem => ?_) (by omega) (.div there (by omega) ?_ ?_ stands')
    · obtain ⟨after, old⟩ := pending.within id mem
      rw [kept id (by omega) (by omega), becomes₁.kept id old (by omega) List.not_mem_nil]
    · rw [node', node₁]
    · rw [node', node₁]
      exact stands_within
  · have first := becomes₁.behind tail
    have last := becomes'.behind (tail ++ [t.nodes.size])
    rw [List.append_nil] at first
    rw [List.append_nil, List.append_assoc, List.singleton_append] at last
    exact first.trans last
  · rw [Divs.joined, pending.nodes, Divs.nodes]
    omega

theorem areRead (f : Divs) (held : f.AreHeld) : AreRead f := by
  induction f with
  | nil => exact areRead_nil
  | text s rest ih => exact areRead_text held.1 (ih held.2)
  | div marks inner rest ihi ihr => exact areRead_div held.1 (ihi held.2.1) (ihr held.2.2)

end Build

end PagePreview.Markup
