import PagePreview.Proofs.Seams
import PagePreview.Proofs.Render.Markup
import PagePreview.Script.ElementCall

/-!
# Typed markup as calls

A tree is lowered to nested calls: the tag as a text, the attributes as an object of decoded texts,
the children that show something as further arguments.
-/

namespace PagePreview.JsxTree
open Script Text Matcher ElementCall

def Attribute.lowered (a : Attribute) : Expr :=
  .property (propertyKey a.name.text) false false
    (match a.value with
      | some raw => ElementCall.text (JsxText.decode raw.toList)
      | none => .bool true)

mutual

def Tree.lowered : Tree → Expr
  | .element tag attributes children _ =>
    call (ElementCall.text tag.name.text.toList) (properties (attributes.list.map Attribute.lowered))
      (childrenLowered children)
  | .fragment children => call (handleMember "Fragment") .null (childrenLowered children)

def Child.lowered : Child → List Expr
  | .tree t => [t.lowered]
  | .text raw => ((JsxText.clean raw.toList).map ElementCall.text).toList
  | .braces l => [l.expr]
  | .comment _ => []

def childrenLowered : List Child → List Expr
  | [] => []
  | c :: cs => c.lowered ++ childrenLowered cs

end

mutual

def Tree.depth : Tree → Nat
  | .element _ _ children _ => childrenDepth children + 1
  | .fragment children => childrenDepth children + 1

def Child.depth : Child → Nat
  | .tree t => t.depth
  | .text _ | .braces _ | .comment _ => 0

def childrenDepth : List Child → Nat
  | [] => 0
  | c :: cs => max c.depth (childrenDepth cs)

end

def Lowers {α : Type} (x : Lower α) (a : α) : Prop := ∀ n, ∃ n', x.run n = (a, n')

variable {α β : Type} {x : Lower α} {f : α → Lower β} {a : α} {b : β} {fuel : Nat}

theorem lowers_pure (a : α) : Lowers (pure a) a := fun n => ⟨n, rfl⟩

theorem Lowers.bind (hx : Lowers x a) (hf : Lowers (f a) b) : Lowers (x >>= f) b := by
  intro n
  obtain ⟨n', first⟩ := hx n
  obtain ⟨n'', second⟩ := hf n'
  refine ⟨n'', ?_⟩
  have whole : (x >>= f).run n = (f (x.run n).1).run (x.run n).2 := rfl
  rw [whole, first]
  exact second

theorem lowers_modify (g : Nat → Nat) : Lowers (modify g) () := fun n => ⟨g n, rfl⟩

theorem decode_eq_self {s : List Char} (none_there : '&' ∉ s) : JsxText.decode s = s := by
  have unread : Unread JsxText.charRef s := by
    rintro before after rfl ref q way
    obtain ⟨_, r, start, -⟩ := mem_bind.mp way
    obtain ⟨rest, ahead, -⟩ := mem_text.mp start
    have here : after = '&' :: rest := ahead
    exact none_there (by simp [here])
  exact unread.rewrite _

theorem attributeText_eq (raw : String) :
    attributeText raw = ElementCall.text (JsxText.decode raw.toList) := by
  unfold attributeText
  split
  · rfl
  · rename_i plain
    have none_there : '&' ∉ raw.toList := by simpa using plain
    rw [decode_eq_self none_there]

theorem attributeName_expr (name : Name) : ElementCall.attributeName name.expr = name.text := by
  cases name <;> rfl

theorem Attribute.lowers (a : Attribute) (value : Expr → Lower Expr) :
    Lowers (propertyOf value a.expr) a.lowered := by
  cases given : a.value with
  | none =>
    rw [Attribute.expr, Attribute.lowered, given, ← attributeName_expr]
    exact lowers_pure _
  | some raw =>
    rw [Attribute.expr, Attribute.lowered, given, ← attributeName_expr]
    dsimp only
    rw [← attributeText_eq]
    exact lowers_pure _

theorem lowers_list {as : List Attribute} (value : Expr → Lower Expr) :
    Lowers (Visit.list (propertyOf value) (as.map Attribute.expr)) (as.map Attribute.lowered) := by
  induction as with
  | nil => exact lowers_pure _
  | cons a as ih => exact (a.lowers value).bind (ih.bind (lowers_pure _))

theorem typeOf_expr (name : Name) : typeOf name.expr = ElementCall.text name.text.toList := by
  cases name <;> rfl

theorem Literal.lowers (l : Literal) : Lowers (ElementCall.expr fuel l.expr) l.expr := by
  cases fuel with
  | zero => exact lowers_pure _
  | succ fuel => cases l <;> exact lowers_pure _

mutual

theorem Tree.lowers (t : Tree) {fuel : Nat} (deep : t.depth ≤ fuel) :
    Lowers (ElementCall.expr fuel t.expr) t.lowered := by
  match t, deep with
  | .element tag attributes children isEmpty, deep =>
    rw [Tree.depth] at deep
    obtain ⟨fuel, rfl⟩ : ∃ inner, fuel = inner + 1 := ⟨fuel - 1, by omega⟩
    rw [Tree.expr, ElementCall.expr, Tree.lowered, ← typeOf_expr]
    exact (lowers_list _).bind ((lowers_modify _).bind
      ((lowers_children children (Nat.le_of_succ_le_succ deep)).bind (lowers_pure _)))
  | .fragment children, deep =>
    rw [Tree.depth] at deep
    obtain ⟨fuel, rfl⟩ : ∃ inner, fuel = inner + 1 := ⟨fuel - 1, by omega⟩
    rw [Tree.expr, ElementCall.expr, Tree.lowered]
    exact (lowers_modify _).bind
      ((lowers_children children (Nat.le_of_succ_le_succ deep)).bind (lowers_pure _))

theorem Child.lowers (c : Child) {fuel : Nat} (deep : c.depth ≤ fuel) :
    Lowers (argumentsOf (ElementCall.expr fuel) c.expr) c.lowered := by
  match c, deep with
  | .tree t, deep =>
    have lowers := t.lowers deep
    have whole : argumentsOf (ElementCall.expr fuel) t.expr = (do return [← ElementCall.expr fuel t.expr]) := by
      cases t with
      | element tag attributes children isEmpty =>
        rw [Tree.expr]
        rfl
      | fragment children =>
        rw [Tree.expr]
        rfl
    rw [Child.expr, Child.lowered, whole]
    exact lowers.bind (lowers_pure _)
  | .text raw, _ => exact lowers_pure _
  | .braces l, _ => exact l.lowers.bind (lowers_pure _)
  | .comment comments, _ => exact lowers_pure _

theorem lowers_children (cs : List Child) {fuel : Nat} (deep : childrenDepth cs ≤ fuel) :
    Lowers (collect (argumentsOf (ElementCall.expr fuel)) (childExprs cs)) (childrenLowered cs) := by
  match cs, deep with
  | [], _ => exact lowers_pure _
  | c :: cs, deep =>
    rw [childrenDepth] at deep
    rw [childExprs, childrenLowered, collect]
    exact (c.lowers (by omega)).bind ((lowers_children cs (by omega)).bind (lowers_pure _))

end

end PagePreview.JsxTree
