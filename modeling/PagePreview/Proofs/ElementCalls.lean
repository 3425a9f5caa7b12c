import PagePreview.Proofs.Script.Walk
import PagePreview.Script.ElementCall

/-!
# Every element becomes one call

In a program whose markup stands where markup can stand, lowering puts one call of `createElement` in
the place of each element and each fragment that is shown, leaves no part of markup anywhere, counts
the calls it makes, and changes nothing else that is shown. What stands in the type arguments of an
element goes with these.
-/

namespace PagePreview.Script

namespace Node

def isMarkup : Node → Bool
  | .expr (.element ..) | .expr (.fragment _) => true
  | _ => false

/-- A part of markup that stands in an element or a fragment only. -/
def isPart : Node → Bool
  | .expr (.jsxText _) | .expr (.jsxHole _) | .expr (.jsxContainer _) | .expr (.jsxSpread _)
  | .expr (.jsxAttribute ..) | .expr (.jsxSpreadAttribute _) | .expr (.jsxName _)
  | .expr (.jsxNamespaced ..) | .expr (.jsxMember ..) | .expr (.jsxString _) => true
  | _ => false

def isJsx (n : Node) : Bool := n.isMarkup || n.isPart

def isHandle : Expr → Bool
  | .identifier name => name == "React"
  | _ => false

def isMaker : Expr → Bool
  | .member object false name => isHandle object && name == "createElement"
  | _ => false

/-- A call of the runtime handle's `createElement`. -/
def isElementCall : Node → Bool
  | .expr (.call callee _ _ _ _) => isMaker callee
  | _ => false

def isTag : Expr → Bool
  | .identifier _ | .this | .jsxName _ | .jsxNamespaced .. => true
  | .jsxMember object _ => isTag object
  | _ => false

def isAttributeName : Expr → Bool
  | .jsxName _ | .jsxNamespaced .. => true
  | _ => false

def isAttributeValue : Expr → Bool
  | .jsxString _ | .jsxContainer _ | .jsxHole _ | .element .. | .fragment _ => true
  | _ => false

def isAttribute : Expr → Bool
  | .jsxAttribute .. | .jsxSpreadAttribute _ => true
  | _ => false

def isChild : Expr → Bool
  | .jsxText _ | .jsxHole _ | .jsxContainer _ | .jsxSpread _ | .element .. | .fragment _ => true
  | _ => false

/-- Whether a node holds what it cannot hold; the members of a tag are judged with the tag. -/
def isMisplaced : Node → Bool
  | .expr (.element tag _ attributes children _) =>
    !(isTag tag && attributes.all isAttribute && children.all isChild)
  | .expr (.fragment children) => !children.all isChild
  | .expr (.jsxAttribute name value) => !(isAttributeName name && value.all isAttributeValue)
  | .expr (.jsxMember ..) => false
  | n => n.below.any isPart || n.names.any fun name => name.count isJsx .whole != 0

end Node

namespace ElementCall
open Node

/-- Elements and fragments become calls of their lowered attributes and children; every other node
stays what it is, with what stands below it lowered. -/
structure IsLowering (v : Visit Id) : Prop where
  element : ∀ tag types attributes children isEmpty, v.expr (.element tag types attributes children isEmpty) =
    call (typeOf tag) (properties (attributes.map (propertyOf v.expr))) (children.flatMap (argumentsOf v.expr))
  fragment : ∀ children, v.expr (.fragment children) =
    call (handleMember "Fragment") .null (children.flatMap (argumentsOf v.expr))
  other : ∀ n, isMarkup n = false → v.node n = n.descend v

def lowered : Visit Id where
  expr e := (expr (size (.expr e)) e 0).1
  stmt s := (stmt (size (.stmt s)) s 0).1
  type t := (type (size (.type t)) t 0).1

def made : Node → Nat
  | .expr e => (expr (size (.expr e)) e 0).2
  | .stmt s => (stmt (size (.stmt s)) s 0).2
  | .type t => (type (size (.type t)) t 0).2

def visit (fuel : Nat) : Visit Lower where
  expr := expr fuel
  stmt := stmt fuel
  type := type fuel

def Settled (n : Node) : Prop := ∀ fuel, size n ≤ fuel → AddsAt (visit fuel) lowered made n

section Parts

variable {m₁ m₂ : Type → Type} [Monad m₁] [Monad m₂]
  {P : ∀ α : Type, m₁ α → m₂ α → StateM (List Node) α → Prop} {f₁ : Expr → m₁ Expr} {f₂ : Expr → m₂ Expr}
  {f₃ : Expr → StateM (List Node) Expr} (abreast : Abreast P) (h : ∀ e, P Expr (f₁ e) (f₂ e) (f₃ e))

include abreast h

theorem propertyOf_abreast (a : Expr) : P Expr (propertyOf f₁ a) (propertyOf f₂ a) (propertyOf f₃ a) := by
  unfold propertyOf
  split
  · exact abreast.bind (h _) fun _ _ => abreast.pure _ _
  · exact abreast.pure _ _
  · dsimp only
    split
    · exact abreast.bind (abreast.pure _ _) fun _ _ => abreast.pure _ _
    · exact abreast.bind (h _) fun _ _ => abreast.pure _ _
    · exact abreast.bind (abreast.pure _ _) fun _ _ => abreast.pure _ _
    · exact abreast.bind (h _) fun _ _ => abreast.pure _ _
  · exact abreast.pure _ _

theorem argumentsOf_abreast (c : Expr) :
    P (List Expr) (argumentsOf f₁ c) (argumentsOf f₂ c) (argumentsOf f₃ c) := by
  unfold argumentsOf
  split
  · exact abreast.pure _ _
  · exact abreast.pure _ _
  · exact abreast.bind (h _) fun _ _ => abreast.pure _ _
  · exact abreast.bind (h _) fun _ _ => abreast.pure _ _
  · exact abreast.bind (h _) fun _ _ => abreast.pure _ _

theorem collect_abreast (cs : List Expr) : P (List Expr) (collect (argumentsOf f₁) cs)
    (collect (argumentsOf f₂) cs) (collect (argumentsOf f₃) cs) := by
  induction cs with
  | nil => exact abreast.pure _ _
  | cons c cs ih =>
    exact abreast.bind (argumentsOf_abreast abreast h c) fun _ _ => abreast.bind ih fun _ _ => abreast.pure _ _

end Parts

def attributeParts : Expr → List Node
  | .jsxSpreadAttribute e => [.expr e]
  | .jsxAttribute _ (some (.jsxString _)) | .jsxAttribute _ (some (.jsxHole _)) => []
  | .jsxAttribute _ (some (.jsxContainer e)) => [.expr e]
  | .jsxAttribute _ (some e) => [.expr e]
  | _ => []

def childParts : Expr → List Node
  | .jsxText _ | .jsxHole _ => []
  | .jsxContainer e | .jsxSpread e => [.expr e]
  | e => [.expr e]

theorem noting_propertyOf (a : Expr) (met : List Node) :
    (propertyOf noting.expr a met).2 = met ++ attributeParts a := by
  cases a
  case jsxAttribute name value =>
    cases value with
    | none => exact (List.append_nil met).symm
    | some v => cases v <;> first | rfl | exact (List.append_nil met).symm
  all_goals first | rfl | exact (List.append_nil met).symm

theorem noting_argumentsOf (c : Expr) (met : List Node) :
    (argumentsOf noting.expr c met).2 = met ++ childParts c := by
  cases c <;> first | rfl | exact (List.append_nil met).symm

theorem noting_attributes (attributes : List Expr) (met : List Node) :
    (Visit.list (propertyOf noting.expr) attributes met).2 = met ++ attributes.flatMap attributeParts := by
  induction attributes generalizing met with
  | nil => exact (List.append_nil met).symm
  | cons a as ih =>
    change (Visit.list (propertyOf noting.expr) as (propertyOf noting.expr a met).2).2 = _
    rw [ih, noting_propertyOf, List.flatMap_cons, List.append_assoc]

theorem noting_children (children : List Expr) (met : List Node) :
    (collect (argumentsOf noting.expr) children met).2 = met ++ children.flatMap childParts := by
  induction children generalizing met with
  | nil => exact (List.append_nil met).symm
  | cons c cs ih =>
    change (collect (argumentsOf noting.expr) cs (argumentsOf noting.expr c met).2).2 = _
    rw [ih, noting_argumentsOf, List.flatMap_cons, List.append_assoc]

theorem noted_attributes (attributes : List Expr) :
    noted (Visit.list (propertyOf noting.expr) attributes) = attributes.flatMap attributeParts :=
  noting_attributes attributes []

theorem noted_children (children : List Expr) :
    noted (collect (argumentsOf noting.expr) children) = children.flatMap childParts :=
  noting_children children []

theorem list_id {α : Type} (f : α → α) (as : List α) : Visit.list (m := Id) f as = as.map f := by
  induction as with
  | nil => rfl
  | cons a as ih => exact congrArg (f a :: ·) ih

theorem collect_id (f : Expr → List Expr) (cs : List Expr) : collect (m := Id) f cs = cs.flatMap f := by
  induction cs with
  | nil => rfl
  | cons c cs ih =>
    exact congrArg (f c ++ ·) ih

/-- What is given and counted with any sufficient fuel is what is given and counted from nothing. -/
theorem settle {α : Type} {f : Nat → StateM Nat α} {x : α} {bound c : Nat}
    (h : ∀ fuel, bound ≤ fuel → ∀ k, f fuel k = (x, k + c)) :
    (∀ fuel, bound ≤ fuel → ∀ k, f fuel k = ((f bound 0).1, k + (f bound 0).2)) ∧
      (f bound 0).1 = x ∧ (f bound 0).2 = c := by
  have start := h _ (Nat.le_refl _) 0
  rw [start, Nat.zero_add]
  exact ⟨h, rfl, rfl⟩

variable {n : Node} {fuel : Nat}

theorem expr_succ {e : Expr} (other : isMarkup (.expr e) = false) :
    expr (fuel + 1) e = e.descend (visit fuel) := by
  cases e
  case element => cases other
  case fragment => cases other
  all_goals rfl

theorem exists_eq_add_one (enough : size n ≤ fuel) : ∃ less, fuel = less + 1 := by
  have pos : 0 < size n := size_pos n
  exact ⟨fuel - 1, by omega⟩

theorem Settled.after {child : Node} (settled : Settled child) (less : size child < size n)
    (enough : size n ≤ fuel + 1) : AddsAt (visit fuel) lowered made child :=
  settled fuel (by omega)

theorem settled_other (other : isMarkup n = false) (each : ∀ child ∈ n.below, Settled child) :
    Settled n ∧ lowered.node n = n.descend lowered ∧ made n = (n.below.map made).sum := by
  have ready {fuel : Nat} (enough : size n ≤ fuel + 1) :
      ∀ child ∈ n.below, AddsAt (visit fuel) lowered made child := fun child mem =>
    (each child mem).after (size_lt_of_below mem) enough
  cases n with
  | expr e =>
    obtain ⟨settled, gives, makes⟩ := settle (f := (expr · e)) fun fuel enough k => by
      obtain ⟨fuel, rfl⟩ := exists_eq_add_one enough
      refine (congrFun (expr_succ other) k).trans ?_
      exact (adds_abreast.descend_expr adds_expr adds_stmt adds_type e).run (ready enough) k
    exact ⟨settled, congrArg Node.expr gives, makes⟩
  | stmt s =>
    obtain ⟨settled, gives, makes⟩ := settle (f := (stmt · s)) fun fuel enough k => by
      obtain ⟨fuel, rfl⟩ := exists_eq_add_one enough
      exact (adds_abreast.descend_stmt adds_expr adds_stmt adds_type s).run (ready enough) k
    exact ⟨settled, congrArg Node.stmt gives, makes⟩
  | type t =>
    obtain ⟨settled, gives, makes⟩ := settle (f := (type · t)) fun fuel enough k => by
      obtain ⟨fuel, rfl⟩ := exists_eq_add_one enough
      exact (adds_abreast.descend_type adds_expr adds_type t).run (ready enough) k
    exact ⟨settled, congrArg Node.type gives, makes⟩

theorem settled_element {tag : Expr} {types : List TypeNode} {attributes children : List Expr} {isEmpty : Bool}
    {parts : List Node} (whole : parts = attributes.flatMap attributeParts ++ children.flatMap childParts)
    (smaller : ∀ part ∈ parts,
      Settled part ∧ size part < size (.expr (.element tag types attributes children isEmpty))) :
    let e := Expr.element tag types attributes children isEmpty
    Settled (.expr e) ∧
      lowered.expr e = call (typeOf tag) (properties (attributes.map (propertyOf lowered.expr)))
        (children.flatMap (argumentsOf lowered.expr)) ∧
      made (.expr e) = 1 + (parts.map made).sum := by
  intro e
  refine settle (f := (expr · e)) fun fuel enough k => ?_
  obtain ⟨fuel, rfl⟩ := exists_eq_add_one enough
  have ready (part) (mem : part ∈ parts) : AddsAt (visit fuel) lowered made part :=
    (smaller part mem).1.after (smaller part mem).2 enough
  subst whole
  have first := (adds_abreast.list (propertyOf_abreast adds_abreast adds_expr) attributes).run fun part mem =>
    ready part (List.mem_append_left _ (noted_attributes attributes ▸ mem))
  have second := (collect_abreast adds_abreast adds_expr children).run fun part mem =>
    ready part (List.mem_append_right _ (noted_children children ▸ mem))
  rw [noted_attributes, list_id] at first
  rw [noted_children, collect_id] at second
  change (call (typeOf tag) (properties (Visit.list (propertyOf (visit fuel).expr) attributes k).1)
      (collect (argumentsOf (visit fuel).expr) children
        ((Visit.list (propertyOf (visit fuel).expr) attributes k).2 + 1)).1,
    (collect (argumentsOf (visit fuel).expr) children
        ((Visit.list (propertyOf (visit fuel).expr) attributes k).2 + 1)).2) = _
  rw [first, second, List.map_append, List.sum_append]
  refine congrArg (Prod.mk _) ?_
  dsimp only
  omega

theorem settled_fragment {children : List Expr}
    (smaller : ∀ part ∈ children.flatMap childParts, Settled part ∧ size part < size (.expr (.fragment children))) :
    let e := Expr.fragment children
    Settled (.expr e) ∧
      lowered.expr e = call (handleMember "Fragment") .null (children.flatMap (argumentsOf lowered.expr)) ∧
      made (.expr e) = 1 + ((children.flatMap childParts).map made).sum := by
  intro e
  refine settle (f := (expr · e)) fun fuel enough k => ?_
  obtain ⟨fuel, rfl⟩ := exists_eq_add_one enough
  rw [← noted_children] at smaller
  have arguments := (collect_abreast adds_abreast adds_expr children).run
    fun part mem => (smaller part mem).1.after (smaller part mem).2 enough
  rw [noted_children, collect_id] at arguments
  change (call (handleMember "Fragment") .null (collect (argumentsOf (visit fuel).expr) children (k + 1)).1,
    (collect (argumentsOf (visit fuel).expr) children (k + 1)).2) = _
  rw [arguments]
  exact congrArg (Prod.mk _) (Nat.add_assoc ..)

variable {p : Node → Bool} {x : Extent}

theorem count_le_of_attributePart {a : Expr} {part : Node} (mem : part ∈ attributeParts a) :
    part.count p x ≤ a.count p x := by
  cases a
  case jsxSpreadAttribute e =>
    rcases List.mem_singleton.mp mem with rfl
    exact Nat.le_add_left ..
  case jsxAttribute name value =>
    rcases value with _ | v
    · cases mem
    · have small : part.count p x ≤ v.count p x := by
        cases v
        case jsxString => cases mem
        case jsxHole => cases mem
        case jsxContainer e =>
          rcases List.mem_singleton.mp mem with rfl
          exact Nat.le_add_left ..
        all_goals
          rcases List.mem_singleton.mp mem with rfl
          exact Nat.le_refl _
      have whole : (Expr.jsxAttribute name (some v)).count p x =
          (p (.expr (.jsxAttribute name (some v)))).toNat + (name.count p x + v.count p x) := rfl
      omega
  all_goals cases mem

theorem count_le_of_childPart {c : Expr} {part : Node} (mem : part ∈ childParts c) : part.count p x ≤ c.count p x := by
  cases c
  case jsxText => cases mem
  case jsxHole => cases mem
  case jsxContainer e =>
    rcases List.mem_singleton.mp mem with rfl
    exact Nat.le_add_left ..
  case jsxSpread e =>
    rcases List.mem_singleton.mp mem with rfl
    exact Nat.le_add_left ..
  all_goals
    rcases List.mem_singleton.mp mem with rfl
    exact Nat.le_refl _

/-- A kind of nodes that are markup or calls of `createElement`. -/
def Shows (q : Node → Bool) : Prop := ∀ n, isJsx n = false → isElementCall n = false → q n = false

variable {q : Node → Bool} {v : Visit Id}

theorem count_of_not {e : Expr} {n : Nat} (other : q (.expr e) = false)
    (sum : e.count q x = (q (.expr e)).toNat + n) : e.count q x = n := by
  rw [sum, other]
  exact Nat.zero_add n

theorem count_text (shows : Shows q) (s : List Char) : (text s).count q x = 0 :=
  count_of_not (shows _ rfl rfl) rfl

theorem count_identifier (shows : Shows q) (name : String) : (Expr.identifier name).count q x = 0 :=
  count_of_not (shows _ rfl rfl) rfl

theorem count_null (shows : Shows q) : Expr.null.count q x = 0 := count_of_not (shows _ rfl rfl) rfl

theorem count_this (shows : Shows q) : Expr.this.count q x = 0 := count_of_not (shows _ rfl rfl) rfl

theorem count_spread (shows : Shows q) (e : Expr) : (Expr.spread e).count q x = e.count q x :=
  count_of_not (shows _ rfl rfl) rfl

theorem count_handleMember (shows : Shows q) (name : String) : (handleMember name).count q x = 0 := by
  have sum : (handleMember name).count q x = (Expr.identifier "React").count q x :=
    count_of_not (shows _ rfl rfl) rfl
  rw [sum, count_identifier shows]

theorem count_propertyKey (shows : Shows q) (name : String) : (propertyKey name).count q x = 0 := by
  unfold propertyKey
  split
  · exact count_identifier shows name
  · exact count_text shows _

theorem count_property (shows : Shows q) (name : String) (value : Expr) :
    (Expr.property (propertyKey name) false false value).count q x = value.count q x := by
  have sum : (Expr.property (propertyKey name) false false value).count q x =
      (propertyKey name).count q x + value.count q x := count_of_not (shows _ rfl rfl) rfl
  rw [sum, count_propertyKey shows, Nat.zero_add]

theorem count_attributeText (shows : Shows q) (raw : String) : (attributeText raw).count q x = 0 := by
  unfold attributeText
  split <;> exact count_text shows _

theorem count_typeOf (shows : Shows q) (tag : Expr) (h : isTag tag = true) : (typeOf tag).count q x = 0 := by
  cases tag
  case jsxName name => exact count_text shows _
  case jsxNamespaced => exact count_text shows _
  case jsxMember object name =>
    have sum : (typeOf (.jsxMember object name)).count q x = (typeOf object).count q x :=
      count_of_not (shows _ rfl rfl) rfl
    rw [sum]
    exact count_typeOf shows object h
  case identifier name => exact count_identifier shows name
  case this => exact count_this shows
  all_goals cases h

theorem attribute_placed {name : Expr} {value : Option Expr}
    (well : isMisplaced (.expr (.jsxAttribute name value)) = false) :
    isAttributeName name = true ∧ ∀ v, value = some v → isAttributeValue v = true := by
  have both : isAttributeName name = true ∧ value.all isAttributeValue = true := by
    simpa [isMisplaced] using well
  refine ⟨both.1, ?_⟩
  rintro v rfl
  exact both.2

theorem count_propertyOf (shows : Shows q) {a : Expr} (form : isAttribute a = true)
    (well : isMisplaced (.expr a) = false) :
    (propertyOf (m := Id) v.expr a).count q x = tally q x v (attributeParts a) := by
  cases a
  case jsxSpreadAttribute e =>
    exact count_spread shows (v.expr e)
  case jsxAttribute name value =>
    rcases value with _ | value
    · change (Expr.property _ false false (.bool true)).count q x = _
      rw [count_property shows]
      change (q (.expr (.bool true))).toNat + 0 = 0
      rw [shows _ rfl rfl]
      rfl
    · have kind : isAttributeValue value = true := (attribute_placed well).2 _ rfl
      cases value
      case jsxString raw => exact (count_property shows _ _).trans (count_attributeText shows raw)
      case jsxHole => exact (count_property shows _ _).trans (count_identifier shows "undefined")
      case jsxContainer e => exact count_property shows _ _
      case element => exact count_property shows _ _
      case fragment => exact count_property shows _ _
      all_goals cases kind
  all_goals cases form

theorem count_argumentsOf (shows : Shows q) {c : Expr} (form : isChild c = true) :
    countExprs q x (argumentsOf (m := Id) v.expr c) = tally q x v (childParts c) := by
  cases c
  case jsxText raw =>
    change countExprs q x ((JsxText.clean raw.toList).map text).toList = 0
    cases JsxText.clean raw.toList with
    | none => rfl
    | some s => exact (Nat.add_zero _).trans (count_text shows s)
  case jsxHole => rfl
  case jsxContainer e => rfl
  case jsxSpread e =>
    exact count_spread shows (v.expr e)
  case element => rfl
  case fragment => rfl
  all_goals cases form

def Whole (q : Node → Bool) : Prop := ∀ n, isPart n = true → q n = false

theorem count_attribute (whole : Whole q) {a : Expr} (form : isAttribute a = true)
    (well : isMisplaced (.expr a) = false) : a.count q x = ((attributeParts a).map (Node.count q x)).sum := by
  cases a
  case jsxSpreadAttribute e => exact count_of_not (whole _ rfl) rfl
  case jsxAttribute name value =>
    have named : name.count q x = 0 := by
      have plain : isAttributeName name = true := (attribute_placed well).1
      cases name
      case jsxName => exact count_of_not (whole _ rfl) rfl
      case jsxNamespaced => exact count_of_not (whole _ rfl) rfl
      all_goals cases plain
    have sum : (Expr.jsxAttribute name value).count q x = name.count q x + countExpr? q x value :=
      count_of_not (whole _ rfl) rfl
    rw [sum, named, Nat.zero_add]
    rcases value with _ | value
    · rfl
    · have kind : isAttributeValue value = true := (attribute_placed well).2 _ rfl
      change value.count q x = _
      cases value
      case jsxString raw => exact count_of_not (whole _ rfl) rfl
      case jsxHole => exact count_of_not (whole _ rfl) rfl
      case jsxContainer e => exact count_of_not (whole _ rfl) rfl
      case element => rfl
      case fragment => rfl
      all_goals cases kind
  all_goals cases form

theorem count_child (whole : Whole q) {c : Expr} (form : isChild c = true) :
    c.count q x = ((childParts c).map (Node.count q x)).sum := by
  cases c
  case jsxText raw => exact count_of_not (whole _ rfl) rfl
  case jsxHole => exact count_of_not (whole _ rfl) rfl
  case jsxContainer e => exact count_of_not (whole _ rfl) rfl
  case jsxSpread e => exact count_of_not (whole _ rfl) rfl
  case element => rfl
  case fragment => rfl
  all_goals cases form

theorem not_of_count_eq_zero {n : Node} (none : n.count p x = 0) : p n = false := by
  rw [count_eq n] at none
  cases h : p n with
  | false => rfl
  | true =>
    rw [h] at none
    exact absurd none (by simp)

theorem isPart_braced {e : Expr} (placed : (Expr.jsxContainer e).count isMisplaced .whole = 0) :
    isPart (.expr e) = false := by
  have well : (isPart (.expr e) || false || false) = false :=
    not_of_count_eq_zero (n := .expr (.jsxContainer e)) placed
  simpa using well

theorem placed_attributePart {a : Expr} {part : Node} (placed : a.count isMisplaced .whole = 0)
    (mem : part ∈ attributeParts a) : isPart part = false := by
  have well : isMisplaced (.expr a) = false := not_of_count_eq_zero (n := .expr a) placed
  cases a
  case jsxSpreadAttribute e =>
    rcases List.mem_singleton.mp mem with rfl
    exact isPart_braced placed
  case jsxAttribute name value =>
    rcases value with _ | value
    · cases mem
    · have kind : isAttributeValue value = true := (attribute_placed well).2 _ rfl
      cases value
      case jsxString => cases mem
      case jsxHole => cases mem
      case jsxContainer e =>
        rcases List.mem_singleton.mp mem with rfl
        have inside : (Expr.jsxContainer e).count isMisplaced .whole ≤ (Expr.jsxAttribute name (some (.jsxContainer e))).count isMisplaced .whole :=
          Nat.le_trans (Nat.le_add_left _ (name.count isMisplaced .whole)) (Nat.le_add_left ..)
        exact isPart_braced (by omega)
      case element =>
        rcases List.mem_singleton.mp mem with rfl
        rfl
      case fragment =>
        rcases List.mem_singleton.mp mem with rfl
        rfl
      all_goals cases kind
  all_goals cases mem

theorem placed_childPart {c : Expr} {part : Node} (form : isChild c = true) (placed : c.count isMisplaced .whole = 0)
    (mem : part ∈ childParts c) : isPart part = false := by
  cases c
  case jsxText => cases mem
  case jsxHole => cases mem
  case jsxContainer e =>
    rcases List.mem_singleton.mp mem with rfl
    exact isPart_braced placed
  case jsxSpread e =>
    rcases List.mem_singleton.mp mem with rfl
    exact isPart_braced placed
  case element =>
    rcases List.mem_singleton.mp mem with rfl
    rfl
  case fragment =>
    rcases List.mem_singleton.mp mem with rfl
    rfl
  all_goals cases form

structure Told (n : Node) : Prop where
  bare : (lowered.node n).count isJsx .shown = 0
  counts : made n = n.count isMarkup .shown
  calls : (lowered.node n).count isElementCall .shown = n.count isElementCall .shown + n.count isMarkup .shown

theorem tally_bare {parts : List Node} (each : ∀ part ∈ parts, Told part) : tally isJsx .shown lowered parts = 0 := by
  induction parts with
  | nil => rfl
  | cons part parts ih =>
    rw [List.forall_mem_cons] at each
    exact congrArg₂ (· + ·) each.1.bare (ih each.2)

theorem sum_made {parts : List Node} (each : ∀ part ∈ parts, Told part) :
    (parts.map made).sum = (parts.map (Node.count isMarkup .shown)).sum := by
  rw [List.map_congr_left fun part mem => (each part mem).counts]

theorem tally_calls {parts : List Node} (each : ∀ part ∈ parts, Told part) :
    tally isElementCall .shown lowered parts =
      (parts.map (Node.count isElementCall .shown)).sum + (parts.map (Node.count isMarkup .shown)).sum := by
  rw [tally, List.map_congr_left fun part mem => (each part mem).calls, List.sum_map_add]

theorem shows_jsx : Shows isJsx := fun _ plain _ => plain

theorem shows_elementCall : Shows isElementCall := fun _ _ plain => plain

theorem whole_markup : Whole isMarkup := by
  intro n part
  cases n with
  | expr e => cases e <;> first | rfl | cases part
  | stmt s => rfl
  | type t => rfl

theorem whole_elementCall : Whole isElementCall := by
  intro n part
  cases n with
  | expr e => cases e <;> first | rfl | cases part
  | stmt s => rfl
  | type t => rfl

variable {tag : Expr} {types : List TypeNode} {attributes children : List Expr} {isEmpty : Bool} {part : Node}

theorem count_le_countExprs {e : Expr} {es : List Expr} (mem : e ∈ es) : e.count p x ≤ countExprs p x es := by
  induction mem with
  | head => exact Nat.le_add_right ..
  | tail _ _ ih => exact Nat.le_trans ih (Nat.le_add_left ..)

theorem count_le_countStmts {s : Stmt} {ss : List Stmt} (mem : s ∈ ss) : s.count p x ≤ countStmts p x ss := by
  induction mem with
  | head => exact Nat.le_add_right ..
  | tail _ _ ih => exact Nat.le_trans ih (Nat.le_add_left ..)

def argumentParts (attributes children : List Expr) : List Node :=
  attributes.flatMap attributeParts ++ children.flatMap childParts

theorem count_le_of_argumentPart (mem : part ∈ argumentParts attributes children) :
    part.count p x ≤ countExprs p x attributes + countExprs p x children := by
  rcases List.mem_append.mp mem with mem | mem
  · obtain ⟨a, among, mem⟩ := List.mem_flatMap.mp mem
    exact Nat.le_trans (count_le_of_attributePart mem)
      (Nat.le_trans (count_le_countExprs among) (Nat.le_add_right ..))
  · obtain ⟨c, among, mem⟩ := List.mem_flatMap.mp mem
    exact Nat.le_trans (count_le_of_childPart mem)
      (Nat.le_trans (count_le_countExprs among) (Nat.le_add_left ..))

theorem size_lt_element (mem : part ∈ argumentParts attributes children) :
    size part < size (.expr (.element tag types attributes children isEmpty)) := by
  have small : size part ≤ _ := count_le_of_argumentPart mem
  have whole : size (.expr (.element tag types attributes children isEmpty)) =
    1 + (tag.count _ .whole + countExprs _ .whole attributes + countExprs _ .whole children +
      countTypes _ .whole types) := rfl
  omega

theorem size_lt_fragment (mem : part ∈ argumentParts [] children) : size part < size (.expr (.fragment children)) := by
  have small : size part ≤ 0 + countExprs _ .whole children := count_le_of_argumentPart mem
  have whole : size (.expr (.fragment children)) = 1 + countExprs _ .whole children := rfl
  omega

theorem settled (n : Node) : Settled n := by
  by_cases other : isMarkup n = false
  · exact (settled_other other fun child mem =>
      have : size child < size n := size_lt_of_below mem
      settled child).1
  · cases n with
    | expr e =>
      cases e
      case element tag types attributes children isEmpty =>
        exact (settled_element rfl fun part mem =>
          have less := size_lt_element mem
          ⟨settled part, less⟩).1
      case fragment children =>
        exact (settled_fragment fun part mem =>
          have less := size_lt_fragment mem
          ⟨settled part, less⟩).1
      all_goals exact absurd rfl other
    | stmt s => exact absurd rfl other
    | type t => exact absurd rfl other
termination_by size n

theorem lowered_other {n : Node} (other : isMarkup n = false) :
    lowered.node n = n.descend lowered ∧ made n = (n.below.map made).sum :=
  (settled_other other fun child _ => settled child).2

variable (tag types attributes children isEmpty)

theorem lowered_element : lowered.expr (.element tag types attributes children isEmpty) =
      call (typeOf tag) (properties (attributes.map (propertyOf lowered.expr)))
        (children.flatMap (argumentsOf lowered.expr)) ∧
    made (.expr (.element tag types attributes children isEmpty)) =
      1 + ((argumentParts attributes children).map made).sum :=
  (settled_element rfl fun part mem => ⟨settled part, size_lt_element mem⟩).2

theorem lowered_fragment : lowered.expr (.fragment children) =
      call (handleMember "Fragment") .null (children.flatMap (argumentsOf lowered.expr)) ∧
    made (.expr (.fragment children)) = 1 + ((argumentParts [] children).map made).sum :=
  (settled_fragment fun part mem => ⟨settled part, size_lt_fragment mem⟩).2

variable {tag types attributes children isEmpty}

theorem isLowering_lowered : IsLowering lowered where
  element _ _ _ _ _ := (lowered_element ..).1
  fragment _ := (lowered_fragment _).1
  other _ other := (lowered_other other).1

theorem isHandle_lowered (e : Expr) : isHandle (lowered.expr e) = isHandle e := by
  by_cases other : isMarkup (.expr e) = false
  · have gives : lowered.expr e = e.descend lowered := Node.expr.inj (lowered_other other).1
    rw [gives]
    cases e <;> rfl
  · cases e
    case element => rw [(lowered_element ..).1]; rfl
    case fragment => rw [(lowered_fragment _).1]; rfl
    all_goals exact absurd rfl other

theorem isMaker_lowered (e : Expr) : isMaker (lowered.expr e) = isMaker e := by
  by_cases other : isMarkup (.expr e) = false
  · have gives : lowered.expr e = e.descend lowered := Node.expr.inj (lowered_other other).1
    rw [gives]
    cases e
    case member object isOptional name =>
      cases isOptional with
      | true => rfl
      | false => exact congrArg (· && name == "createElement") (isHandle_lowered object)
    all_goals rfl
  · cases e
    case element => rw [(lowered_element ..).1]; rfl
    case fragment => rw [(lowered_fragment _).1]; rfl
    all_goals exact absurd rfl other

theorem isElementCall_descend (n : Node) : isElementCall (n.descend lowered) = isElementCall n := by
  cases n with
  | expr e =>
    cases e
    case call callee _ _ _ _ => exact isMaker_lowered callee
    all_goals rfl
  | stmt s => rfl
  | type t => rfl

theorem isJsx_descend (n : Node) : isJsx (n.descend lowered) = isJsx n := by
  cases n with
  | expr e => cases e <;> rfl
  | stmt s => rfl
  | type t => rfl

theorem isMisplaced_other {n : Node} (other : isMarkup n = false) (inside : isPart n = false) :
    isMisplaced n = (n.below.any isPart || n.names.any fun name => name.count isJsx .whole != 0) := by
  cases n with
  | expr e =>
    cases e
    case element => cases other
    case fragment => cases other
    case jsxAttribute => cases inside
    case jsxMember => cases inside
    all_goals rfl
  | stmt s => rfl
  | type t => rfl

theorem nameTally_eq_zero {names : List Expr} (h : ∀ name ∈ names, name.count p x = 0) : nameTally p x names = 0 := by
  induction names with
  | nil => rfl
  | cons name names ih =>
    rw [List.forall_mem_cons] at h
    exact congrArg₂ (· + ·) h.1 (ih h.2)

theorem size_lt_of_name {n : Node} {name : Expr} (mem : name ∈ n.names) : size (.expr name) < size n := by
  have part : name.count (fun _ => true) .whole ≤ nameTally (fun _ => true) .whole n.names :=
    List.le_sum_of_mem (List.mem_map_of_mem mem)
  rw [size, size, count_eq n]
  simp only [Node.count, Bool.toNat_true]
  omega

theorem count_shown_le (wider : ∀ n, p n = true → q n = true) (n : Node) : n.count p .shown ≤ n.count q .whole := by
  rw [count_eq n, count_eq n]
  have here : (p n).toNat ≤ (q n).toNat := by
    cases hp : p n with
    | false => exact Nat.zero_le _
    | true => rw [wider n hp]
  have below : (n.below.map (Node.count p .shown)).sum ≤ (n.below.map (Node.count q .whole)).sum :=
    List.sum_le_sum fun child mem =>
      have less : size child < size n := size_lt_of_below mem
      count_shown_le wider child
  have names : nameTally p .shown n.names ≤ nameTally q .whole n.names := List.sum_le_sum fun name mem =>
    have less := size_lt_of_name mem
    count_shown_le wider (.expr name)
  rw [hidden_shown]
  omega
termination_by size n

theorem count_whole_of_bare {n : Node} (bare : n.count isJsx .shown = 0) : n.count q .whole = n.count q .shown := by
  rw [count_eq n] at bare
  have plain : isJsx n = false := by
    cases h : isJsx n with
    | false => rfl
    | true =>
      rw [h, Bool.toNat_true] at bare
      omega
  have untyped : n.typeArgs = [] := by
    cases n with
    | expr e => cases e <;> first | rfl | cases plain
    | stmt s => rfl
    | type t => rfl
  have below : (n.below.map (Node.count q .whole)).sum = (n.below.map (Node.count q .shown)).sum := by
    rw [List.map_congr_left]
    intro child mem
    have less : size child < size n := size_lt_of_below mem
    have part : child.count isJsx .shown ≤ _ := le_sum_of_mem mem
    exact count_whole_of_bare (by omega)
  have names : nameTally q .whole n.names = nameTally q .shown n.names := by
    unfold nameTally
    rw [List.map_congr_left]
    intro name mem
    have less := size_lt_of_name mem
    have part : name.count isJsx .shown ≤ nameTally isJsx .shown n.names := List.le_sum_of_mem (List.mem_map_of_mem mem)
    exact count_whole_of_bare (n := .expr name) (by simp only [Node.count]; omega)
  rw [count_eq n, count_eq n, below, names, untyped, hidden_nil, hidden_nil]
termination_by size n

theorem told_other {n : Node} (other : isMarkup n = false) (inside : isPart n = false)
    (well : isMisplaced n = false) (each : ∀ child ∈ n.below, isPart child = false → Told child) : Told n := by
  obtain ⟨gives, makes⟩ := lowered_other other
  rw [isMisplaced_other other inside, Bool.or_eq_false_iff] at well
  have each' : ∀ child ∈ n.below, Told child := fun child mem =>
    each child mem (by simpa using List.any_eq_false.mp well.1 child mem)
  have unmarked {q : Node → Bool} (narrow : ∀ n, q n = true → isJsx n = true) :
      ∀ name ∈ n.names, name.count q .shown = 0 := by
    intro name mem
    have none : name.count isJsx .whole = 0 := by simpa using List.any_eq_false.mp well.2 name mem
    exact Nat.le_zero.mp (none ▸ count_shown_le narrow (.expr name))
  have bareNames := unmarked (q := isJsx) fun _ jsx => jsx
  have markupNames := unmarked (q := isMarkup) fun n markup => by rw [isJsx, markup]; rfl
  have plain : isJsx n = false := by rw [isJsx, other, inside]; rfl
  constructor
  · rw [gives, count_descend, isJsx_descend, plain, tally_bare each', nameTally_eq_zero bareNames]
    rfl
  · rw [makes, sum_made each', count_eq n, other, nameTally_eq_zero markupNames, hidden_shown]
    simp
  · rw [gives, count_descend, isElementCall_descend, tally_calls each', count_eq n, count_eq n, other,
      nameTally_eq_zero markupNames]
    simp only [Bool.toNat_false, hidden_shown]
    omega

theorem countExprs_eq {parts : Expr → List Node} {es : List Expr}
    (h : ∀ e ∈ es, e.count q x = ((parts e).map (Node.count q x)).sum) :
    countExprs q x es = ((es.flatMap parts).map (Node.count q x)).sum := by
  induction es with
  | nil => rfl
  | cons e es ih =>
    rw [List.forall_mem_cons] at h
    rw [countExprs, h.1, ih h.2, List.flatMap_cons, List.map_append, List.sum_append]

theorem countExprs_append (a b : List Expr) : countExprs q x (a ++ b) = countExprs q x a + countExprs q x b := by
  induction a with
  | nil => exact (Nat.zero_add _).symm
  | cons e es ih => rw [List.cons_append, countExprs, countExprs, ih, Nat.add_assoc]

/-- What is made of a list of attributes or children counts with what is made of the parts. -/
theorem countExprs_made {parts : Expr → List Node} {made : Expr → List Expr} {es : List Expr}
    (h : ∀ e ∈ es, countExprs q x (made e) = tally q x v (parts e)) :
    countExprs q x (es.flatMap made) = tally q x v (es.flatMap parts) := by
  induction es with
  | nil => rfl
  | cons e es ih =>
    rw [List.forall_mem_cons] at h
    rw [List.flatMap_cons, countExprs_append, h.1, ih h.2, List.flatMap_cons, tally_append]

theorem count_properties (shows : Shows q) (list : List Expr) : (properties list).count q x = countExprs q x list := by
  unfold properties
  split
  · rename_i empty
    rw [List.isEmpty_iff.mp empty, count_null shows]
    rfl
  · exact count_of_not (shows _ rfl rfl) rfl

theorem count_call (shows : Shows q) (type props : Expr) (arguments : List Expr) :
    (call type props arguments).count q x = (q (.expr (call type props arguments))).toNat +
      (type.count q x + (props.count q x + countExprs q x arguments)) := by
  have maker : (handleMember "createElement").count q x = 0 := count_handleMember shows _
  have whole : (call type props arguments).count q x = (q (.expr (call type props arguments))).toNat +
      ((handleMember "createElement").count q x + 0 + (type.count q x + (props.count q x + countExprs q x arguments))) := rfl
  omega

theorem count_tag (shows : Shows q) (whole : Whole q) (tag : Expr) (h : isTag tag = true) : tag.count q x = 0 := by
  cases tag
  case identifier name => exact count_identifier shows name
  case this => exact count_this shows
  case jsxName => exact count_of_not (whole _ rfl) rfl
  case jsxNamespaced => exact count_of_not (whole _ rfl) rfl
  case jsxMember object name =>
    have sum : (Expr.jsxMember object name).count q x = object.count q x := count_of_not (whole _ rfl) rfl
    rw [sum]
    exact count_tag shows whole object h
  all_goals cases h

structure Fits (attributes children : List Expr) : Prop where
  attributes : ∀ a ∈ attributes, isAttribute a = true ∧ isMisplaced (.expr a) = false
  children : ∀ c ∈ children, isChild c = true

namespace Fits

variable (fits : Fits attributes children)

include fits

theorem count_made (shows : Shows q) : countExprs q x (attributes.map (propertyOf (m := Id) v.expr)) +
    countExprs q x (children.flatMap (argumentsOf (m := Id) v.expr)) = tally q x v (argumentParts attributes children) := by
  rw [argumentParts, tally_append, List.map_eq_flatMap]
  refine congrArg₂ (· + ·) ?_ ?_
  · exact countExprs_made fun a mem => count_propertyOf shows (fits.attributes a mem).1 (fits.attributes a mem).2
  · exact countExprs_made fun c mem => count_argumentsOf shows (fits.children c mem)

theorem count_eq (whole : Whole q) : countExprs q x attributes + countExprs q x children =
    ((argumentParts attributes children).map (Node.count q x)).sum := by
  rw [argumentParts, List.map_append, List.sum_append]
  refine congrArg₂ (· + ·) ?_ ?_
  · exact countExprs_eq fun a mem => count_attribute whole (fits.attributes a mem).1 (fits.attributes a mem).2
  · exact countExprs_eq fun c mem => count_child whole (fits.children c mem)

end Fits

theorem shows_markup : Shows isMarkup := fun _ plain _ => (Bool.or_eq_false_iff.mp plain).1

theorem told_markup {e type props : Expr} {arguments : List Expr} {parts : List Node}
    (markup : isMarkup (.expr e) = true) (gives : lowered.expr e = call type props arguments)
    (makes : made (.expr e) = 1 + (parts.map made).sum)
    (before : ∀ {q}, Shows q → Whole q →
      e.count q .shown = (q (.expr e)).toNat + (parts.map (Node.count q .shown)).sum)
    (after : ∀ {q}, Shows q →
      type.count q .shown + (props.count q .shown + countExprs q .shown arguments) = tally q .shown lowered parts)
    (each : ∀ part ∈ parts, Told part) : Told (.expr e) := by
  have unmade : isElementCall (.expr e) = false := by
    cases e <;> first | rfl | cases markup
  have result {q : Node → Bool} (shows : Shows q) : (lowered.node (.expr e)).count q .shown =
      (q (.expr (call type props arguments))).toNat + tally q .shown lowered parts := by
    change (lowered.expr e).count q .shown = _
    rw [gives, count_call shows, after shows]
  constructor
  · rw [result shows_jsx, tally_bare each]
    rfl
  · rw [makes, sum_made each, Node.count, before shows_markup whole_markup, markup]
    rfl
  · have one : isElementCall (.expr (call type props arguments)) = true := rfl
    rw [result shows_elementCall, tally_calls each, Node.count, Node.count, before shows_markup whole_markup,
      before shows_elementCall whole_elementCall, one, markup, unmade]
    simp only [Bool.toNat_true, Bool.toNat_false]
    omega

theorem told_element (tagged : isTag tag = true) (fits : Fits attributes children)
    (each : ∀ part ∈ argumentParts attributes children, Told part) :
    Told (.expr (.element tag types attributes children isEmpty)) := by
  obtain ⟨gives, makes⟩ := lowered_element tag types attributes children isEmpty
  refine told_markup rfl gives makes (fun {q} shows whole => ?_) (fun shows => ?_) each
  · have sum : (Expr.element tag types attributes children isEmpty).count q .shown =
        (q (.expr (.element tag types attributes children isEmpty))).toNat + (tag.count q .shown +
          countExprs q .shown attributes + countExprs q .shown children + 0) := rfl
    rw [← fits.count_eq whole, sum, count_tag shows whole tag tagged]
    omega
  · rw [count_typeOf shows tag tagged, count_properties shows, ← fits.count_made shows, Nat.zero_add]

theorem told_fragment (fits : Fits [] children) (each : ∀ part ∈ argumentParts [] children, Told part) :
    Told (.expr (.fragment children)) := by
  obtain ⟨gives, makes⟩ := lowered_fragment children
  refine told_markup rfl gives makes (fun shows whole => ?_) (fun shows => ?_) each
  · rw [← fits.count_eq whole, countExprs, Nat.zero_add]
    rfl
  · rw [count_handleMember shows, count_null shows, ← fits.count_made shows, Nat.zero_add]
    rfl

theorem fits_of_placed (attributesPlaced : countExprs isMisplaced .whole attributes = 0)
    (childrenPlaced : countExprs isMisplaced .whole children = 0) (areAttributes : ∀ a ∈ attributes, isAttribute a = true)
    (areChildren : ∀ c ∈ children, isChild c = true) :
    Fits attributes children ∧ ∀ part ∈ argumentParts attributes children,
      part.count isMisplaced .whole = 0 ∧ isPart part = false := by
  have each {es : List Expr} (none : countExprs isMisplaced .whole es = 0) (e) (mem : e ∈ es) : e.count isMisplaced .whole = 0 :=
    Nat.le_zero.mp (none ▸ count_le_countExprs mem)
  refine ⟨⟨fun a mem => ⟨areAttributes a mem, ?_⟩, areChildren⟩, fun part mem => ⟨?_, ?_⟩⟩
  · exact not_of_count_eq_zero (n := .expr a) (each attributesPlaced a mem)
  · have less : part.count isMisplaced .whole ≤ _ := count_le_of_argumentPart mem
    omega
  · rcases List.mem_append.mp mem with mem | mem
    · obtain ⟨a, among, mem⟩ := List.mem_flatMap.mp mem
      exact placed_attributePart (each attributesPlaced a among) mem
    · obtain ⟨c, among, mem⟩ := List.mem_flatMap.mp mem
      exact placed_childPart (areChildren c among) (each childrenPlaced c among) mem

theorem told (n : Node) (placed : n.count isMisplaced .whole = 0) (inside : isPart n = false) : Told n := by
  have well : isMisplaced n = false := not_of_count_eq_zero placed
  by_cases other : isMarkup n = false
  · refine told_other other inside well fun child mem inside => ?_
    have less : size child < size n := size_lt_of_below mem
    exact told child (Nat.le_zero.mp (placed ▸ count_le_of_below mem)) inside
  · cases n with
    | expr e =>
      cases e
      case element tag types attributes children isEmpty =>
        have whole : (Expr.element tag types attributes children isEmpty).count isMisplaced .whole = _ +
          (tag.count isMisplaced .whole + countExprs isMisplaced .whole attributes +
            countExprs isMisplaced .whole children + countTypes isMisplaced .whole types) := rfl
        have forms : (isTag tag = true ∧ ∀ a ∈ attributes, isAttribute a = true) ∧ ∀ c ∈ children, isChild c = true := by
          simpa [isMisplaced] using well
        rw [Node.count] at placed
        obtain ⟨fits, parts⟩ := fits_of_placed (by omega) (by omega) forms.1.2 forms.2
        refine told_element forms.1.1 fits fun part mem => ?_
        have less : size part < size (.expr (.element tag types attributes children isEmpty)) := size_lt_element mem
        exact told part (parts part mem).1 (parts part mem).2
      case fragment children =>
        have whole : (Expr.fragment children).count isMisplaced .whole = _ + countExprs isMisplaced .whole children := rfl
        have forms : ∀ c ∈ children, isChild c = true := by simpa [isMisplaced] using well
        rw [Node.count] at placed
        obtain ⟨fits, parts⟩ := fits_of_placed rfl (by omega) (List.forall_mem_nil _) forms
        refine told_fragment fits fun part mem => ?_
        have less : size part < size (.expr (.fragment children)) := size_lt_fragment mem
        exact told part (parts part mem).1 (parts part mem).2
      all_goals exact absurd rfl other
    | stmt s => exact absurd rfl other
    | type t => exact absurd rfl other
termination_by size n

theorem countStmts_eq (ss : List Stmt) : countStmts q x ss = ((ss.map Node.stmt).map (Node.count q x)).sum := by
  have kept := count_stmts (p := q) (x := x) (v := keeping) ss
  rwa [keeping_stmts, tally_keeping] at kept

theorem countStmts_whole {ss : List Stmt} (bare : countStmts isJsx .shown ss = 0) :
    countStmts q .whole ss = countStmts q .shown ss := by
  rw [countStmts_eq, countStmts_eq, List.map_congr_left]
  intro n mem
  obtain ⟨s, among, rfl⟩ := List.mem_map.mp mem
  have part : s.count isJsx .shown ≤ countStmts isJsx .shown ss := count_le_countStmts among
  exact count_whole_of_bare (n := .stmt s) (by simp only [Node.count]; omega)

theorem program_eq (p : Program) : (program p).1 = { p with body := p.body.map lowered.stmt } ∧
    (program p).2 = ((p.body.map Node.stmt).map made).sum := by
  have noted_body : noted (Visit.list noting.stmt p.body) = p.body.map .stmt :=
    congrArg Prod.snd (noting_stmts p.body)
  have enough : ∀ n ∈ noted (Visit.list noting.stmt p.body), AddsAt (visit p.size) lowered made n := by
    rw [noted_body]
    intro n mem
    obtain ⟨s, among, rfl⟩ := List.mem_map.mp mem
    exact settled (.stmt s) p.size (count_le_countStmts among)
  have run := (adds_abreast.list adds_stmt p.body).run enough 0
  rw [noted_body, list_id, Nat.zero_add] at run
  have whole : program p = ({ p with body := (Visit.list (visit p.size).stmt p.body 0).1 },
    (Visit.list (visit p.size).stmt p.body 0).2) := rfl
  rw [whole, run]
  exact ⟨rfl, rfl⟩

/-- In a program whose markup stands where it can, one call takes the place of each element and each
fragment that is shown, no markup is left anywhere, the calls made are counted, and all else that is
shown stays. What stands in the type arguments of an element goes with them, and is not counted. -/
theorem program_lowered (p : Program) (placed : p.count isMisplaced .whole = 0) :
    (∃ v, IsLowering v ∧ (program p).1 = { p with body := p.body.map v.stmt }) ∧
    (program p).1.count isJsx .whole = 0 ∧
    (program p).2 = p.count isMarkup .shown ∧
    (program p).1.count isElementCall .whole = p.count isElementCall .shown + p.count isMarkup .shown := by
  obtain ⟨gives, makes⟩ := program_eq p
  have each : ∀ n ∈ p.body.map Node.stmt, Told n := by
    intro n mem
    obtain ⟨s, among, rfl⟩ := List.mem_map.mp mem
    have none : (Node.stmt s).count isMisplaced .whole ≤ countStmts isMisplaced .whole p.body :=
      count_le_countStmts among
    exact told (.stmt s) (Nat.le_zero.mp (placed ▸ none)) rfl
  have after {q : Node → Bool} : (program p).1.count q .shown = tally q .shown lowered (p.body.map .stmt) := by
    rw [gives]
    exact (congrArg (countStmts q .shown) (list_id lowered.stmt p.body).symm).trans (count_stmts p.body)
  have before {q : Node → Bool} : p.count q .shown = ((p.body.map Node.stmt).map (Node.count q .shown)).sum :=
    countStmts_eq p.body
  have bare : (program p).1.count isJsx .shown = 0 := by rw [after, tally_bare each]
  have same {q : Node → Bool} : (program p).1.count q .whole = (program p).1.count q .shown := countStmts_whole bare
  refine ⟨⟨lowered, isLowering_lowered, gives⟩, ?_, ?_, ?_⟩
  · rw [same, bare]
  · rw [makes, sum_made each, before]
  · rw [same, after, tally_calls each, before, before]

/-- A page whose element has an element, a fragment and a component with a member tag in it. -/
def markedProgram : Program where
  depth := 0
  body := [.vars false .const [.declarator (.identifier "page") (some (.arrow false [] [] none (.return (some
    (.element (.jsxName "main") [] [
        .jsxAttribute (.jsxName "icon") (some (.jsxContainer (.element (.jsxName "i") [] [] [] true))),
        .jsxSpreadAttribute (.identifier "rest")]
      [.jsxText " hi ", .jsxContainer (.conditional (.identifier "big") (.fragment []) .null),
        .element (.jsxMember (.identifier "Menu") "Item") [] [] [.jsxHole []] false] false)))))]]

theorem markedProgram_lowered : markedProgram.count isMisplaced .whole = 0 ∧
    ((∃ v, IsLowering v ∧ (program markedProgram).1 = { markedProgram with body := markedProgram.body.map v.stmt }) ∧
    (program markedProgram).1.count isJsx .whole = 0 ∧
    (program markedProgram).2 = 4 ∧
    (program markedProgram).1.count isElementCall .whole = 4) := by
  have placed : markedProgram.count isMisplaced .whole = 0 := by decide +kernel
  obtain ⟨lowering, bare, counted, calls⟩ := program_lowered markedProgram placed
  have four : markedProgram.count isMarkup .shown = 4 := by decide +kernel
  have none : markedProgram.count isElementCall .shown = 0 := by decide +kernel
  exact ⟨placed, lowering, bare, counted.trans four, by rw [calls, four, none]⟩

/-- An element whose type argument has a property that is named by another element. -/
def typedProgram : Program where
  depth := 0
  body := [.expression (.element (.identifier "Foo") [.object [.property
    (.element (.jsxName "b") [] [.jsxAttribute (.jsxName "c") (some (.jsxContainer (.arrow false [] [] none (.block [
      .vars false .letVar [.declarator (.identifier "a") none],
      .vars false .letVar [.declarator (.identifier "a") none]]))))] [] true)
    true false false (some (.word "string"))]] [] [] true)]

/-- The element in the type argument is neither lowered nor counted: it goes with the argument. -/
theorem typedProgram_uncounted : typedProgram.count isMisplaced .whole = 0 ∧
    typedProgram.count isMarkup .whole = 2 ∧ typedProgram.count isMarkup .shown = 1 ∧
    (program typedProgram).2 = 1 ∧
    (program typedProgram).1.body = [.expression (call (.identifier "Foo") .null [])] := by
  refine ⟨by decide +kernel, by decide +kernel, by decide +kernel, by decide +kernel, rfl⟩

end ElementCall

end PagePreview.Script
