import PagePreview.Proofs.Machine.Evaluate
import PagePreview.Proofs.Machine.Realm
import PagePreview.Proofs.Render.Lowered
import PagePreview.Proofs.Render.Rendered

/-!
# Lowered markup, evaluated and rendered

Where the name of the handle holds the handle, the calls that a tree was lowered to make elements
that show the markup of the tree. Rendering them gives that markup.
-/

namespace PagePreview.JsxTree
open Script Machine Builtin Render Reference

variable {s t : State} {c : Context} {n m : Nat}

/-- The name of the handle is a variable that holds it. -/
def HoldsHandle (s : State) (c : Context) : Prop :=
  ∃ scope index x, s.locate runtimeHandle s.scopes.size c.scope = .variable scope index ∧
    s.variableAt? scope index = some x ∧ x.value = some Intrinsic.handle.value

theorem locate_eq (same : t.scopes = s.scopes) (name : String) (fuel id : Nat) :
    t.locate name fuel id = s.locate name fuel id := by
  induction fuel generalizing id with
  | zero => rfl
  | succ fuel ih =>
    rw [State.locate, State.locate, same]
    simp only [ih]

theorem HoldsHandle.step (h : HoldsHandle s c) (around : Around s t) : HoldsHandle t c := by
  obtain ⟨scope, index, x, found, at_, value⟩ := h
  refine ⟨scope, index, x, ?_, ?_, value⟩
  · rw [locate_eq around.scopes, around.scopes]
    exact found
  · rw [State.variableAt?, around.scopes]
    exact at_

theorem HoldsHandle.reads (h : HoldsHandle s c) :
    Reads s (expression c (.identifier "React")) Intrinsic.handle.value := by
  obtain ⟨scope, index, x, found, at_, value⟩ := h
  have place : Reads s (locate "React" c.scope) (.variable scope index) := by
    have within : ∀ fuel, Reads s (locateWithin (fuel + 1) "React" c.scope) (.variable scope index) := by
      intro fuel
      rw [locateWithin]
      refine reads_get.bind ?_
      rw [show s.locate "React" s.scopes.size c.scope = _ from found]
      exact reads_pure _
    exact within 999
  have held : Reads s (valueAt? "React" (.variable scope index)) (some Intrinsic.handle.value) := by
    refine reads_get.bind ?_
    rw [at_]
    obtain ⟨v, k, b⟩ := x
    cases value
    exact reads_pure _
  exact place.bind (held.bind (reads_pure _))

theorem gives_handleMember {name : String} {v : Value} (holds : HoldsHandle s c)
    (owns : Owns s.objects Intrinsic.handle.id (.named name) v) :
    Gives 1 (calleeOf c (ElementCall.handleMember name)) s fun both os =>
      both = (Intrinsic.handle.value, v) ∧ os = s.objects := by
  have base : Gives 1 (Run.evaluate c (.identifier "React")) s fun w os =>
      w = Intrinsic.handle.value ∧ os = s.objects :=
    gives_evaluate (n := 0) (holds.reads.gives ⟨rfl, rfl⟩)
  refine base.bind ?_
  rintro _ t _ ⟨rfl, same⟩
  have value : Reads t (getValue Intrinsic.handle.value (.named name)) v := (same ▸ owns).reads
  exact (reads_pure ()).gives_bind (value.gives_bind (gives_pure ⟨rfl, same⟩))

theorem yields_call {type : Value} {entries : List (String × Value)} {typeExpr propsExpr : Expr}
    {children : List Expr} {Qs : List (Array Object → Value → Prop)} (ready : Ready s) (holds : HoldsHandle s c)
    (simple : IsSimple type) (plain : ArePlain entries) (hType : Yields n s c typeExpr fun _ v => v = type)
    (hProps : Yields n s c propsExpr fun os v => Configures os v entries)
    (hChildren : List.Forall₂ (Yields n s c) children Qs) :
    Yields (n + children.length + 13) s c (ElementCall.call typeExpr propsExpr children) fun os v =>
      ∃ vs, IsMade os v type entries vs ∧ AllYield os Qs vs where
  single _ same := by cases same
  stable os os' v := by
    rintro ⟨vs, made, all⟩ more
    exact ⟨vs, made.extends more, all.extends hChildren more⟩
  gives t around grown := by
    have ready' : Ready t := ready.step around grown
    obtain ⟨create, owns, function⟩ := ready'.standard.createElement
    obtain ⟨f, o, captured, isConstructor, rfl, place, kind⟩ := function
    refine gives_evaluate (n := n + children.length + 12) ?_
    refine ((gives_handleMember (holds.step around) owns).more (by omega)).bind ?_
    rintro _ u kept ⟨rfl, same⟩
    have around' : Around s u := around.trans kept.around
    have grown' : Extends s.objects u.objects := same ▸ grown
    have yields : List.Forall₂ (Yields n u c) (typeExpr :: propsExpr :: children)
        ((fun _ v => v = type) :: (fun os v => Configures os v entries) :: Qs) :=
      .cons (hType.step around' grown') (.cons (hProps.step around' grown')
        (hChildren.imp fun _ _ h => h.step around' grown'))
    refine (reads_pure ()).gives_bind ?_
    refine ((gives_argumentsFrom (k := 2) yields).more (by simp; omega)).bind ?_
    rintro out w kept' ⟨got, more⟩
    obtain ⟨config, vs, values, config_at, all⟩ : ∃ config vs, out.toList = type :: config :: vs ∧
        Configures w.objects config entries ∧ AllYield w.objects Qs vs := by
      cases values : out.toList with
      | nil =>
        rw [values] at got
        cases got
      | cons first rest =>
        rw [values] at got
        obtain _ | ⟨rfl, got⟩ := got
        obtain _ | ⟨config_at, all⟩ := got
        exact ⟨_, _, rfl, config_at, all⟩
    have there : IsFunction w.objects (.object f) .page "createElement" :=
      ⟨f, o, captured, isConstructor, rfl, more f o (same ▸ place), kind⟩
    have ready'' : Ready w := ready.step (around'.trans kept'.around) (grown'.trans more)
    have count : vs.length = children.length := all.length_eq.symm.trans hChildren.length_eq.symm
    have args : out = (type :: config :: vs).toArray := by rw [← values]
    rw [args]
    refine (gives_elementCall ready'' simple plain there config_at vs).mono (by omega) ?_
    rintro v os ⟨made, more'⟩
    exact ⟨⟨vs, made, all.extends hChildren more'⟩, same ▸ more.trans more'⟩

theorem Attribute.assigns (a : Attribute) : Assigns 1 s c a.lowered a.name.text a.held where
  shape := by
    refine ⟨_, _, rfl, ?_, ?_⟩
    · unfold ElementCall.propertyKey
      split
      · exact .inl rfl
      · refine .inr ⟨String.ofList a.name.text.toList, ?_⟩
        rw [ElementCall.text, String.ofList_toList]
    · unfold Attribute.held
      cases a.value with
      | none => exact ⟨rfl, yields_bool true⟩
      | some raw => exact ⟨rfl, yields_string _ _⟩
  other same := a.uncommon (by rw [same]; decide)

theorem Attributes.yields (attributes : Attributes) :
    Yields 3 s c (ElementCall.properties (attributes.list.map Attribute.lowered)) fun os v =>
      Configures os v attributes.entries := by
  have assigns : List.Forall₂ (fun p entry => Assigns 1 s c p entry.1 entry.2)
      (attributes.list.map Attribute.lowered) attributes.entries := by
    rw [Attributes.entries, List.forall₂_map_left_iff, List.forall₂_map_right_iff]
    exact List.forall₂_same.mpr fun a _ => a.assigns
  unfold ElementCall.properties
  split
  · rename_i none_there
    have empty : attributes.entries = [] := by
      rw [List.isEmpty_iff, List.map_eq_nil_iff] at none_there
      rw [Attributes.entries, none_there, List.map_nil]
    refine yields_null.mono (by omega) ?_ fun _ _ _ h more => h.extends more
    rintro os _ rfl
    exact .inl ⟨rfl, empty⟩
  · exact (yields_object assigns).mono (by omega) (fun _ _ made => .inr made) fun _ _ _ h more => h.extends more

def Child.texts : Child → List Str
  | .tree t => [t.markup]
  | .text raw => ((JsxText.clean raw.toList).map fun text => escaped (.plain (String.ofList text))).toList
  | .braces l => [l.markup]
  | .comment _ => []

theorem concat_texts (children : List Child) :
    Str.concat (children.flatMap Child.texts) = Str.concat (childMarkups children) := by
  induction children with
  | nil => rfl
  | cons child children ih =>
    have first (rest : List Str) : Str.concat (child.texts ++ rest) = Str.concat (child.markup :: rest) := by
      have nothing : Str.concat rest = Str.concat (.empty :: rest) := (Str.concat_empty [] rest).symm
      cases child with
      | tree t => rw [Child.texts, Child.markup, List.singleton_append]
      | braces l => rw [Child.texts, Child.markup, List.singleton_append]
      | comment comments => rw [Child.texts, Child.markup, List.nil_append, nothing]
      | text raw =>
        rw [Child.texts, Child.markup]
        cases JsxText.clean raw.toList with
        | none => exact nothing
        | some text => rfl
    rw [List.flatMap_cons, first, childMarkups]
    have back := Str.concat_flatten [child.markup] (children.flatMap Child.texts) []
    have forth := Str.concat_flatten [child.markup] (childMarkups children) []
    rw [List.append_nil, List.singleton_append, List.singleton_append] at back forth
    rw [← back, ← forth, ih]

def showing (n : Nat) (text : Str) (os : Array Object) (v : Value) : Prop := Shows os n v text

theorem shows_of_allYield {os : Array Object} {texts : List Str} {vs : List Value}
    (h : AllYield os (texts.map (showing n)) vs) : texts.length = vs.length ∧
      ∀ (i : Nat) (w : Value) (text : Str), vs[i]? = some w → texts[i]? = some text → Shows os n w text := by
  rw [AllYield, List.forall₂_map_left_iff] at h
  refine ⟨h.length_eq, fun i w text hw ht => ?_⟩
  obtain ⟨hi, rfl⟩ := List.getElem?_eq_some_iff.mp hw
  obtain ⟨hi', rfl⟩ := List.getElem?_eq_some_iff.mp ht
  exact h.get hi' hi

mutual

def Tree.room : Tree → Nat
  | .element _ _ children _ => childrenRoom children + children.length + 20
  | .fragment children => childrenRoom children + children.length + 20

def Child.room : Child → Nat
  | .tree t => t.room
  | .text _ | .braces _ | .comment _ => 9

def childrenRoom : List Child → Nat
  | [] => 9
  | c :: cs => max c.room (childrenRoom cs)

end

theorem showing_extends {os os' : Array Object} {v : Value} {text : Str} (h : showing n text os v)
    (more : Extends os os') : showing n text os' v :=
  Shows.extends h more

theorem yields_text (text : Str) (raw : String) (room : 9 ≤ n) :
    Yields n s c (.string text raw) (showing n (escaped text)) := by
  refine (yields_string text raw).mono (by omega) ?_ fun _ _ _ h more => showing_extends h more
  rintro os _ rfl
  exact .text text room

theorem Literal.yields (l : Literal) (room : 9 ≤ n) : Yields n s c l.expr (showing n l.markup) := by
  cases l with
  | text value raw => exact yields_text value raw room
  | null =>
    refine yields_null.mono (by omega) ?_ fun _ _ _ h more => showing_extends h more
    rintro os _ rfl
    exact .null room
  | bool b =>
    refine (yields_bool b).mono (by omega) ?_ fun _ _ _ h more => showing_extends h more
    rintro os _ rfl
    exact .bool b room

theorem yields_fragment (ready : Ready s) (holds : HoldsHandle s c) :
    Yields 2 s c (ElementCall.handleMember "Fragment") fun _ v => v = markSymbol .fragment where
  single _ same := by cases same
  stable _ _ _ same _ := same
  gives t around grown := by
    have owns := (ready.step around grown).standard.fragment
    refine gives_evaluate (n := 1) ((gives_handleMember (holds.step around) owns).bind ?_)
    rintro _ u _ ⟨rfl, same⟩
    exact gives_pure ⟨rfl, same ▸ .refl _⟩

theorem childrenLowered_length (children : List Child) : (childrenLowered children).length ≤ children.length := by
  induction children with
  | nil => exact Nat.le_refl _
  | cons child children ih =>
    have one : child.lowered.length ≤ 1 := by
      cases child with
      | tree t => exact Nat.le_refl _
      | braces l => exact Nat.le_refl _
      | comment comments => exact Nat.zero_le _
      | text raw =>
        rw [Child.lowered]
        cases JsxText.clean raw.toList <;> simp
    rw [childrenLowered, List.length_append, List.length_cons]
    omega

theorem nine_le_childrenRoom (children : List Child) : 9 ≤ childrenRoom children := by
  induction children with
  | nil => exact Nat.le_refl 9
  | cons child children ih =>
    rw [childrenRoom]
    omega

theorem yields_tag (tag : Tag) :
    Yields 1 s c (ElementCall.text tag.name.text.toList) fun _ v => v = .string (.plain tag.name.text) := by
  rw [ElementCall.text, String.ofList_toList]
  exact yields_string _ _

mutual

theorem Tree.yields (t : Tree) {s : State} {c : Context} (ready : Ready s) (holds : HoldsHandle s c) :
    Yields t.room s c t.lowered (showing t.room t.markup) := by
  match t with
  | .element tag attributes children isEmpty =>
    have all := yields_children children ready holds (Nat.le_refl _)
    have count := childrenLowered_length children
    have least := nine_le_childrenRoom children
    have made := yields_call ready holds (.text (.plain tag.name.text)) attributes.arePlain
      ((yields_tag tag).more (by omega)) (attributes.yields.more (by omega)) all
    rw [Tree.room, Tree.lowered, Tree.markup, ← concat_texts]
    refine made.mono (by omega) ?_ fun _ _ _ h more => showing_extends h more
    rintro os v ⟨vs, element, values⟩
    obtain ⟨lengths, each⟩ := shows_of_allYield values
    exact .element tag attributes element lengths each (by omega)
  | .fragment children =>
    have all := yields_children children ready holds (Nat.le_refl _)
    have count := childrenLowered_length children
    have least := nine_le_childrenRoom children
    have plain : ArePlain [] := ⟨List.nodup_nil, fun _ mem => by cases mem⟩
    have none_given : Yields (childrenRoom children) s c .null fun os v => Configures os v [] := by
      refine yields_null.mono (by omega) ?_ fun _ _ _ h more => h.extends more
      rintro os _ rfl
      exact .inl ⟨rfl, rfl⟩
    have made := yields_call ready holds (.symbol _) plain ((yields_fragment ready holds).more (by omega))
      none_given all
    rw [Tree.room, Tree.lowered, Tree.markup, ← concat_texts]
    refine made.mono (by omega) ?_ fun _ _ _ h more => showing_extends h more
    rintro os v ⟨vs, element, values⟩
    obtain ⟨lengths, each⟩ := shows_of_allYield values
    exact .fragment element lengths each (by omega)

theorem Child.yields (child : Child) {s : State} {c : Context} {n : Nat} (ready : Ready s) (holds : HoldsHandle s c)
    (room : child.room ≤ n) (least : 9 ≤ n) :
    List.Forall₂ (Yields n s c) child.lowered (child.texts.map (showing n)) := by
  match child, room with
  | .tree t, room =>
    rw [Child.lowered, Child.texts]
    refine .cons ((t.yields ready holds).mono room ?_ fun _ _ _ h more => showing_extends h more) .nil
    exact fun os v shows => Shows.more shows room
  | .text raw, _ =>
    rw [Child.lowered, Child.texts]
    cases JsxText.clean raw.toList with
    | none => exact .nil
    | some text => exact .cons (yields_text _ _ least) .nil
  | .braces l, _ => exact .cons (l.yields least) .nil
  | .comment comments, _ => exact .nil

theorem yields_children (cs : List Child) {s : State} {c : Context} {n : Nat} (ready : Ready s)
    (holds : HoldsHandle s c) (room : childrenRoom cs ≤ n) :
    List.Forall₂ (Yields n s c) (childrenLowered cs) ((cs.flatMap Child.texts).map (showing n)) := by
  match cs, room with
  | [], _ => exact .nil
  | child :: cs, room =>
    have least := nine_le_childrenRoom cs
    rw [childrenRoom] at room
    rw [childrenLowered, List.flatMap_cons, List.map_append]
    exact List.rel_append (child.yields ready holds (by omega) (by omega))
      (yields_children cs ready holds (by omega))

end

theorem pageResult_renderToString (captured : List Value) (isConstructor : Bool) (this v : Value) :
    pageResult ⟨.page, "renderToString", captured, isConstructor⟩ this #[v] = (do
      modify fun s => { s with identifiers := 0 }
      return .string (← renderAgain v)) := by
  unfold pageResult
  rfl

/-- The value of an expression, rendered by the handle's own function. -/
def rendered (c : Context) (e : Expr) : Run Value := do
  let v ← Run.evaluate c e
  let render ← getOf Intrinsic.handle.id (.named "renderToString")
  Run.call render .undefined #[v]

theorem gives_rendered (t : Tree) (ready : Ready s) (holds : HoldsHandle s c) :
    Gives (t.room + 5) (rendered c t.lowered) s fun v _ => v = .string t.markup := by
  refine (((t.yields ready holds).gives s (.refl s) (.refl _)).more (by omega)).bind ?_
  rintro v u kept ⟨shows, grown⟩
  have ready' : Ready u := ready.step kept.around grown
  obtain ⟨render, owns, function⟩ := ready'.standard.renderToString
  have found : Reads u (getOf Intrinsic.handle.id (.named "renderToString")) render := owns.reads
  refine found.gives_bind ((gives_pageCall (n := t.room) function (by decide) fun captured isConstructor =>
    ?_).more (Nat.le_refl _))
  rw [pageResult_renderToString]
  have reset : Gives t.room (modify fun s => { s with identifiers := 0 } : Run Unit) (u.entered 3) fun _ os =>
      os = u.objects := gives_of_ok (fun _ => rfl) ⟨rfl, rfl, rfl, rfl, rfl⟩ rfl
  refine reset.bind fun _ w kept' same => ?_
  have more : Extends u.objects w.objects := same ▸ .refl _
  have ready'' : Ready w := ready'.step ((around_entered 3 u).trans kept'.around) more
  refine (Shows.gives shows ready'' more).bind ?_
  rintro _ x _ ⟨rfl, -⟩
  exact gives_pure rfl

/-- Lowering a tree, evaluating the calls and rendering their value gives the markup that the tree
stands for. Only a limit of the machine can be in the way, and only where there is not the room that
the tree takes. -/
theorem rendered_markup (t : Tree) {depth : Nat} (deep : t.depth ≤ depth) (count : Nat) (ready : Ready s)
    (holds : HoldsHandle s c) (fuel : Nat) :
    let run := rendered c ((ElementCall.expr depth t.expr).run count).1 (engine builtins fuel) s
    (∃ s', run = .ok (.string t.markup) s') ∨
      ∃ message s', run = .error (.limit message) s' ∧ ¬Room (t.room + 5) fuel s := by
  intro run
  obtain ⟨count', lowered⟩ := t.lowers deep count
  have same : run = rendered c t.lowered (engine builtins fuel) s := by
    change rendered c ((ElementCall.expr depth t.expr).run count).1 (engine builtins fuel) s = _
    rw [lowered]
  rw [same]
  obtain ⟨_, s', ended, -, rfl⟩ | limited := (gives_rendered t ready holds).ends fuel
  · exact .inl ⟨s', ended⟩
  · exact .inr limited

def handleScope : Machine.Scope where
  vars := #[(runtimeHandle, { value := some Intrinsic.handle.value, isMutable := false })]
  outer := some globalScope

def withHandle (s : State) : State := { s with scopes := s.scopes.push handleScope }

theorem ready_withHandle (ready : Ready s) : Ready (withHandle s) where
  standard := ready.standard
  globals name mem := by
    obtain ⟨sc, at_, rest⟩ := ready.globals name mem
    refine ⟨sc, ?_, rest⟩
    obtain ⟨bound, same⟩ := Array.getElem?_eq_some_iff.mp at_
    rw [withHandle, Array.getElem?_push_lt bound, same]
  joining := ready.joining

theorem holdsHandle_withHandle (s : State) (frame : Nat) (isStrict : Bool) :
    HoldsHandle (withHandle s) ⟨s.scopes.size, frame, isStrict⟩ := by
  have last : (withHandle s).scopes[s.scopes.size]? = some handleScope := Array.getElem?_push_size
  have size : (withHandle s).scopes.size = s.scopes.size + 1 := Array.size_push _
  refine ⟨s.scopes.size, 0, { value := some Intrinsic.handle.value, isMutable := false }, ?_, ?_, rfl⟩
  · have found : findVariable handleScope.vars runtimeHandle 0 = some 0 := by
      rw [findVariable]
      rfl
    rw [size, State.locate, last]
    dsimp only
    rw [found]
  · rw [State.variableAt?, last]
    rfl

/-- A paragraph with attributes, texts, a void element, and a fragment around a literal and a remark. -/
def card : Tree :=
  .element ⟨.plain "p", by decide, by decide⟩
    ⟨[⟨.plain "class", some "a &amp; b", by decide, by decide⟩, ⟨.plain "hidden", none, by decide, by decide⟩,
      ⟨.plain "data-on", none, by decide, by decide⟩], by decide⟩
    [.text "\n  Salt &amp; ", .tree (.element ⟨.plain "br", by decide, by decide⟩ ⟨[], by decide⟩ [] true),
      .tree (.fragment [.braces (.text (.plain "<") "'<'"), .braces .null, .comment []])] false

theorem rendered_markup_card :
    ∃ s', rendered ⟨1, 0, true⟩ ((ElementCall.expr 2 card.expr).run 0).1 (engine builtins 200)
        (withHandle (State.initial { loops := 100, calls := 200 })) =
      .ok (.string (.plain "<p class=\"a &amp; b\" hidden=\"\" data-on=\"true\">Salt &amp; <br/>&lt;</p>")) s' := by
  have markup : card.markup =
      .plain "<p class=\"a &amp; b\" hidden=\"\" data-on=\"true\">Salt &amp; <br/>&lt;</p>" := by
    decide +kernel
  have room : Room (card.room + 5) 200 (withHandle (State.initial { loops := 100, calls := 200 })) :=
    ⟨by decide, by decide, by decide⟩
  obtain ⟨s', run⟩ | ⟨_, _, _, small⟩ := rendered_markup card (Nat.le_refl 2) 0
    (ready_withHandle (ready_initial { loops := 100, calls := 200 })) (holdsHandle_withHandle _ 0 true) 200
  · exact ⟨s', markup ▸ run⟩
  · exact absurd room small

end PagePreview.JsxTree
