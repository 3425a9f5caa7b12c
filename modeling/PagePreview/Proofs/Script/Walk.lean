import PagePreview.Script.Count
import PagePreview.Script.Walk
import Mathlib.Algebra.GroupWithZero.Nat
import Mathlib.Algebra.Order.BigOperators.Group.List
import Mathlib.Algebra.Order.Group.Nat

/-!
# Below a node

What holds of every value that is only given back, and of two computations in turn whenever it holds
of both, holds of a visit to the nodes below a node if it holds of the visit to each of them.
-/

namespace PagePreview.Script

def noting : Visit (StateM (List Node)) where
  expr e := fun met => (e, met ++ [.expr e])
  stmt s := fun met => (s, met ++ [.stmt s])
  type t := fun met => (t, met ++ [.type t])

section Abreast

variable {m₁ m₂ : Type → Type} [Monad m₁] [Monad m₂]
  {P : ∀ α : Type, m₁ α → m₂ α → StateM (List Node) α → Prop} {α : Type}
  {g₁ : α → m₁ α} {g₂ : α → m₂ α} {g₃ : α → StateM (List Node) α}

structure Abreast (P : ∀ α : Type, m₁ α → m₂ α → StateM (List Node) α → Prop) : Prop where
  pure : ∀ {α : Type} (a b : α), P α (Pure.pure a) (Pure.pure a) (Pure.pure b)
  bind : ∀ {α β : Type} {c₁ : m₁ α} {c₂ : m₂ α} {c₃ : StateM (List Node) α}
    {f₁ : α → m₁ β} {f₂ : α → m₂ β} {f₃ : α → StateM (List Node) β},
    P α c₁ c₂ c₃ → (∀ a b, P β (f₁ a) (f₂ a) (f₃ b)) → P β (c₁ >>= f₁) (c₂ >>= f₂) (c₃ >>= f₃)

namespace Abreast

theorem list (abreast : Abreast P) (h : ∀ a, P α (g₁ a) (g₂ a) (g₃ a)) (as : List α) :
    P (List α) (Visit.list g₁ as) (Visit.list g₂ as) (Visit.list g₃ as) := by
  induction as with
  | nil => exact abreast.pure _ _
  | cons a as ih => exact abreast.bind (h a) fun _ _ => abreast.bind ih fun _ _ => abreast.pure _ _

theorem option (abreast : Abreast P) (h : ∀ a, P α (g₁ a) (g₂ a) (g₃ a)) (a : Option α) :
    P (Option α) (Visit.option g₁ a) (Visit.option g₂ a) (Visit.option g₃ a) := by
  cases a with
  | none => exact abreast.pure _ _
  | some a => exact abreast.bind (h a) fun _ _ => abreast.pure _ _

variable {v₁ : Visit m₁} {v₂ : Visit m₂}

theorem key (abreast : Abreast P) (hx : ∀ e, P Expr (v₁.expr e) (v₂.expr e) (noting.expr e))
    (isComputed : Bool) (k : Expr) : P Expr (v₁.key isComputed k) (v₂.key isComputed k) (noting.key isComputed k) := by
  cases isComputed with
  | false => exact abreast.pure k k
  | true => exact hx k

section Descend

variable (abreast : Abreast P) (hx : ∀ e, P Expr (v₁.expr e) (v₂.expr e) (noting.expr e))
  (hs : ∀ s, P Stmt (v₁.stmt s) (v₂.stmt s) (noting.stmt s))
  (ht : ∀ t, P TypeNode (v₁.type t) (v₂.type t) (noting.type t))

include abreast hx hs ht

theorem descend_expr (e : Expr) : P Expr (e.descend v₁) (e.descend v₂) (e.descend noting) := by
  cases e <;> (unfold Expr.descend; dsimp only)
  all_goals repeat' first
    | exact abreast.pure _ _
    | exact hx _
    | exact hs _
    | exact ht _
    | exact abreast.list hx _
    | exact abreast.list hs _
    | exact abreast.list ht _
    | exact abreast.option hx _
    | exact abreast.option hs _
    | exact abreast.option ht _
    | exact abreast.option (abreast.list hs) _
    | exact abreast.key hx _ _
    | refine abreast.bind ?_ fun _ _ => ?_

theorem descend_stmt (s : Stmt) : P Stmt (s.descend v₁) (s.descend v₂) (s.descend noting) := by
  cases s <;> (unfold Stmt.descend; dsimp only)
  all_goals repeat' first
    | exact abreast.pure _ _
    | exact hx _
    | exact hs _
    | exact ht _
    | exact abreast.list hx _
    | exact abreast.list hs _
    | exact abreast.list ht _
    | exact abreast.option hx _
    | exact abreast.option hs _
    | exact abreast.option (abreast.list hs) _
    | refine abreast.bind ?_ fun _ _ => ?_

omit hs in
theorem descend_type (t : TypeNode) : P TypeNode (t.descend v₁) (t.descend v₂) (t.descend noting) := by
  cases t <;> (unfold TypeNode.descend; dsimp only)
  all_goals repeat' first
    | exact abreast.pure _ _
    | exact hx _
    | exact ht _
    | exact abreast.list hx _
    | exact abreast.list ht _
    | exact abreast.option hx _
    | exact abreast.option ht _
    | exact abreast.key hx _ _
    | refine abreast.bind ?_ fun _ _ => ?_

end Descend

end Abreast

end Abreast

section Chains

variable {m : Type → Type} [Monad m] {P : ∀ α : Type, m α → Prop} {α : Type} {g : α → m α}

structure Chains (P : ∀ α : Type, m α → Prop) : Prop where
  pure : ∀ {α : Type} (a : α), P α (Pure.pure a)
  bind : ∀ {α β : Type} {c : m α} {f : α → m β}, P α c → (∀ a, P β (f a)) → P β (c >>= f)

namespace Chains

theorem list (chains : Chains P) (h : ∀ a, P α (g a)) (as : List α) : P (List α) (Visit.list g as) := by
  induction as with
  | nil => exact chains.pure _
  | cons a as ih => exact chains.bind (h a) fun _ => chains.bind ih fun _ => chains.pure _

theorem option (chains : Chains P) (h : ∀ a, P α (g a)) (a : Option α) :
    P (Option α) (Visit.option g a) := by
  cases a with
  | none => exact chains.pure _
  | some a => exact chains.bind (h a) fun _ => chains.pure _

theorem abreast (chains : Chains P) : Abreast fun α (c₁ c₂ : m α) _ => c₁ = c₂ ∧ P α c₁ where
  pure a _ := ⟨rfl, chains.pure a⟩
  bind := by
    rintro α β c _ - f₁ f₂ - ⟨rfl, hc⟩ next
    have same : f₁ = f₂ := funext fun a => (next a a).1
    subst same
    exact ⟨rfl, chains.bind hc fun a => (next a a).2⟩

variable {v : Visit m}

theorem descend_expr (chains : Chains P) (hx : ∀ e, P Expr (v.expr e)) (hs : ∀ s, P Stmt (v.stmt s))
    (ht : ∀ t, P TypeNode (v.type t)) (e : Expr) : P Expr (e.descend v) :=
  (chains.abreast.descend_expr (fun e => ⟨rfl, hx e⟩) (fun s => ⟨rfl, hs s⟩) (fun t => ⟨rfl, ht t⟩) e).2

theorem descend_stmt (chains : Chains P) (hx : ∀ e, P Expr (v.expr e)) (hs : ∀ s, P Stmt (v.stmt s))
    (ht : ∀ t, P TypeNode (v.type t)) (s : Stmt) : P Stmt (s.descend v) :=
  (chains.abreast.descend_stmt (fun e => ⟨rfl, hx e⟩) (fun s => ⟨rfl, hs s⟩) (fun t => ⟨rfl, ht t⟩) s).2

end Chains

end Chains

def noted {α : Type} (x : StateM (List Node) α) : List Node := (x.run []).2

namespace Node

def below : Node → List Node
  | .expr e => noted (e.descend noting)
  | .stmt s => noted (s.descend noting)
  | .type t => noted (t.descend noting)

def keyName (isComputed : Bool) (k : Expr) : List Expr := if isComputed then [] else [k]

/-- The names of a node, which are not visited. -/
def names : Node → List Expr
  | .expr (.property k isComputed _ _) | .expr (.method _ k isComputed _)
  | .expr (.methodMember _ _ _ k isComputed _) | .expr (.fieldMember _ _ k isComputed _ _)
  | .expr (.enumMember k isComputed _) | .type (.property k isComputed _ _ _)
  | .type (.method _ k isComputed _ _ _ _) => keyName isComputed k
  | .expr (.element name _ _ _ _) | .expr (.jsxAttribute name _) | .stmt (.space _ _ name _) => [name]
  | _ => []

def typeArgs : Node → List TypeNode
  | .expr (.element _ types _ _ _) => types
  | _ => []

end Node

def Visit.node (v : Visit Id) : Node → Node
  | .expr e => .expr (v.expr e)
  | .stmt s => .stmt (v.stmt s)
  | .type t => .type (v.type t)

/-- A node with what stands right below it put through a visit. -/
def Node.descend (v : Visit Id) : Node → Node
  | .expr e => .expr (e.descend v)
  | .stmt s => .stmt (s.descend v)
  | .type t => .type (t.descend v)

section Noting

variable {α β : Type} {met : List Node}

theorem noting_bind (x : StateM (List Node) α) (f : α → StateM (List Node) β) :
    (x >>= f) met = f (x met).1 (x met).2 := rfl

theorem noting_pure (a : α) : (pure a : StateM (List Node) α) met = (a, met) := rfl

theorem noting_list {f : α → StateM (List Node) α} {g : α → Node} (h : ∀ a met, f a met = (a, met ++ [g a]))
    (as : List α) : Visit.list f as met = (as, met ++ as.map g) := by
  induction as generalizing met with
  | nil => simp [Visit.list, noting_pure]
  | cons a as ih =>
    rw [Visit.list, noting_bind, h, noting_bind, ih, noting_pure]
    simp

theorem noting_expr (e : Expr) : noting.expr e met = (e, met ++ [.expr e]) := rfl

theorem noting_stmt (s : Stmt) : noting.stmt s met = (s, met ++ [.stmt s]) := rfl

theorem noting_type (t : TypeNode) : noting.type t met = (t, met ++ [.type t]) := rfl

theorem noting_exprs (es : List Expr) : noting.exprs es met = (es, met ++ es.map .expr) :=
  noting_list (fun _ _ => rfl) es

theorem noting_stmts (ss : List Stmt) : noting.stmts ss met = (ss, met ++ ss.map .stmt) :=
  noting_list (fun _ _ => rfl) ss

theorem noting_types (ts : List TypeNode) : noting.types ts met = (ts, met ++ ts.map .type) :=
  noting_list (fun _ _ => rfl) ts

theorem noting_expr? (e : Option Expr) : noting.expr? e met = (e, met ++ e.toList.map .expr) := by
  cases e <;> simp [Visit.expr?, Visit.option, noting_bind, noting_pure, noting]

theorem noting_stmt? (s : Option Stmt) : noting.stmt? s met = (s, met ++ s.toList.map .stmt) := by
  cases s <;> simp [Visit.stmt?, Visit.option, noting_bind, noting_pure, noting]

theorem noting_type? (t : Option TypeNode) : noting.type? t met = (t, met ++ t.toList.map .type) := by
  cases t <;> simp [Visit.type?, Visit.option, noting_bind, noting_pure, noting]

theorem noting_stmts? (ss : Option (List Stmt)) : noting.stmts? ss met = (ss, met ++ (ss.getD []).map .stmt) := by
  cases ss <;> simp [Visit.stmts?, Visit.option, noting_bind, noting_pure, noting_stmts]

theorem noting_key (isComputed : Bool) (k : Expr) :
    noting.key isComputed k met = (k, met ++ if isComputed then [.expr k] else []) := by
  cases isComputed <;> simp [Visit.key, noting_pure, noting]

end Noting

section Count

variable {p : Node → Bool} {x : Extent} {v : Visit Id} {α β : Type}

theorem id_bind (x : Id α) (f : α → Id β) : x >>= f = f x := rfl

theorem id_pure (x : α) : (pure x : Id α) = x := rfl

/-- How many nodes of the kind are at and below some nodes once they are put through a visit. -/
def tally (p : Node → Bool) (x : Extent) (v : Visit Id) (nodes : List Node) : Nat :=
  (nodes.map fun n => (v.node n).count p x).sum

theorem tally_nil : tally p x v [] = 0 := rfl

theorem tally_append (a b : List Node) : tally p x v (a ++ b) = tally p x v a + tally p x v b := by
  simp [tally]

theorem count_expr (e : Expr) : (v.expr e).count p x = tally p x v [.expr e] := rfl

theorem count_stmt (s : Stmt) : (v.stmt s).count p x = tally p x v [.stmt s] := rfl

theorem count_type (t : TypeNode) : (v.type t).count p x = tally p x v [.type t] := rfl

theorem count_exprs (es : List Expr) : countExprs p x (v.exprs es) = tally p x v (es.map .expr) := by
  induction es with
  | nil => rfl
  | cons e es ih => exact congrArg ((v.expr e).count p x + ·) ih

theorem count_stmts (ss : List Stmt) : countStmts p x (v.stmts ss) = tally p x v (ss.map .stmt) := by
  induction ss with
  | nil => rfl
  | cons s ss ih => exact congrArg ((v.stmt s).count p x + ·) ih

theorem count_types (ts : List TypeNode) : countTypes p x (v.types ts) = tally p x v (ts.map .type) := by
  induction ts with
  | nil => rfl
  | cons t ts ih => exact congrArg ((v.type t).count p x + ·) ih

theorem count_expr? (e : Option Expr) : countExpr? p x (v.expr? e) = tally p x v (e.toList.map .expr) := by
  cases e <;> rfl

theorem count_stmt? (s : Option Stmt) : countStmt? p x (v.stmt? s) = tally p x v (s.toList.map .stmt) := by
  cases s <;> rfl

theorem count_type? (t : Option TypeNode) : countType? p x (v.type? t) = tally p x v (t.toList.map .type) := by
  cases t <;> rfl

theorem count_stmts? (ss : Option (List Stmt)) :
    countStmts? p x (v.stmts? ss) = tally p x v ((ss.getD []).map .stmt) := by
  cases ss with
  | none => rfl
  | some ss => exact count_stmts ss

def nameTally (p : Node → Bool) (x : Extent) (names : List Expr) : Nat := (names.map (·.count p x)).sum

theorem nameTally_nil : nameTally p x [] = 0 := rfl

theorem nameTally_single (e : Expr) : nameTally p x [e] = e.count p x := rfl

theorem count_key (isComputed : Bool) (k : Expr) : (v.key isComputed k).count p x =
    tally p x v (if isComputed then [.expr k] else []) + nameTally p x (Node.keyName isComputed k) := by
  cases isComputed with
  | false => exact (Nat.zero_add _).symm
  | true => rfl

theorem hidden_shown (n : Nat) : Extent.shown.hidden n = 0 := rfl

theorem hidden_nil : x.hidden (countTypes p x []) = 0 := by
  cases x <;> rfl

theorem count_descend_expr (e : Expr) : (Node.descend v (.expr e)).count p x =
    (p (Node.descend v (.expr e))).toNat + tally p x v (Node.below (.expr e)) +
      nameTally p x (Node.names (.expr e)) + x.hidden (countTypes p x (Node.typeArgs (.expr e))) := by
  cases e
  all_goals
    simp only [Node.descend, Node.below, Node.names, Node.typeArgs, hidden_nil, noted, StateT.run, Expr.descend,
      id_bind, id_pure]
    -- opened by reduction, since the equations of counts are one for each kind of node
    change (p _).toNat + _ = _
    simp only [noting_bind, noting_pure, noting_expr, noting_stmt, noting_type,
      noting_exprs, noting_types, noting_stmts, noting_expr?, noting_type?, noting_stmts?, noting_key,
      count_expr, count_stmt, count_type, count_exprs, count_types, count_stmts, count_expr?,
      count_type?, count_stmts?, count_key, tally_append, tally_nil, nameTally_nil, nameTally_single]
  all_goals omega

theorem count_descend_stmt (s : Stmt) : (Node.descend v (.stmt s)).count p x =
    (p (Node.descend v (.stmt s))).toNat + tally p x v (Node.below (.stmt s)) +
      nameTally p x (Node.names (.stmt s)) := by
  cases s
  all_goals
    simp only [Node.descend, Node.below, Node.names, noted, StateT.run, Stmt.descend, id_bind, id_pure]
    change (p _).toNat + _ = _
    simp only [noting_bind, noting_pure, noting_expr, noting_stmt, noting_type,
      noting_exprs, noting_types, noting_stmts, noting_expr?, noting_stmt?, noting_stmts?, count_expr,
      count_stmt, count_type, count_exprs, count_types, count_stmts, count_expr?, count_stmt?,
      count_stmts?, tally_append, tally_nil, nameTally_nil, nameTally_single]
  all_goals omega

theorem count_descend_type (t : TypeNode) : (Node.descend v (.type t)).count p x =
    (p (Node.descend v (.type t))).toNat + tally p x v (Node.below (.type t)) +
      nameTally p x (Node.names (.type t)) := by
  cases t
  all_goals
    simp only [Node.descend, Node.below, Node.names, noted, StateT.run, TypeNode.descend, id_bind, id_pure]
    change (p _).toNat + _ = _
    simp only [noting_bind, noting_pure, noting_expr, noting_type, noting_exprs,
      noting_types, noting_expr?, noting_type?, noting_key, count_expr, count_type, count_exprs,
      count_types, count_expr?, count_type?, count_key, tally_append, tally_nil, nameTally_nil]
  all_goals omega

def keeping : Visit Id where
  expr e := e
  stmt s := s
  type t := t

theorem keeping_list {f : α → Id α} (h : ∀ a, f a = a) (as : List α) : Visit.list f as = as := by
  induction as with
  | nil => rfl
  | cons a as ih =>
    change f a :: Visit.list f as = _
    rw [h, ih]

theorem keeping_option {f : α → Id α} (h : ∀ a, f a = a) (a : Option α) : Visit.option f a = a := by
  cases a with
  | none => rfl
  | some a => exact congrArg some (h a)

theorem keeping_exprs (es : List Expr) : keeping.exprs es = es := keeping_list (fun _ => rfl) es

theorem keeping_stmts (ss : List Stmt) : keeping.stmts ss = ss := keeping_list (fun _ => rfl) ss

theorem keeping_types (ts : List TypeNode) : keeping.types ts = ts := keeping_list (fun _ => rfl) ts

theorem keeping_expr? (e : Option Expr) : keeping.expr? e = e := keeping_option (fun _ => rfl) e

theorem keeping_stmt? (s : Option Stmt) : keeping.stmt? s = s := keeping_option (fun _ => rfl) s

theorem keeping_type? (t : Option TypeNode) : keeping.type? t = t := keeping_option (fun _ => rfl) t

theorem keeping_stmts? (ss : Option (List Stmt)) : keeping.stmts? ss = ss := keeping_option keeping_stmts ss

theorem keeping_key (isComputed : Bool) (k : Expr) : keeping.key isComputed k = k := by
  cases isComputed <;> rfl

theorem descend_keeping (n : Node) : n.descend keeping = n := by
  cases n with
  | expr e =>
    cases e <;> simp only [Node.descend, Expr.descend, id_bind, id_pure, keeping_exprs, keeping_types,
      keeping_stmts, keeping_expr?, keeping_type?, keeping_stmts?, keeping_key] <;> rfl
  | stmt s =>
    cases s <;> simp only [Node.descend, Stmt.descend, id_bind, id_pure, keeping_exprs, keeping_types,
      keeping_stmts, keeping_expr?, keeping_stmt?, keeping_stmts?] <;> rfl
  | type t =>
    cases t <;> simp only [Node.descend, TypeNode.descend, id_bind, id_pure, keeping_exprs, keeping_types,
      keeping_expr?, keeping_type?, keeping_key] <;> rfl

theorem count_descend (v : Visit Id) (n : Node) : (n.descend v).count p x =
    (p (n.descend v)).toNat + tally p x v n.below + nameTally p x n.names +
      x.hidden (countTypes p x n.typeArgs) := by
  cases n with
  | expr e => exact count_descend_expr e
  | stmt s =>
    rw [count_descend_stmt, Node.typeArgs, hidden_nil, Nat.add_zero]
    simp
  | type t =>
    rw [count_descend_type, Node.typeArgs, hidden_nil, Nat.add_zero]
    simp

theorem node_keeping (n : Node) : keeping.node n = n := by
  cases n <;> rfl

theorem tally_keeping (nodes : List Node) : tally p x keeping nodes = (nodes.map (Node.count p x)).sum := by
  simp [tally, node_keeping]

/-- A node counts with the nodes below it and its names, and a whole one with its type arguments. -/
theorem count_eq (n : Node) : n.count p x = (p n).toNat + (n.below.map (Node.count p x)).sum +
    nameTally p x n.names + x.hidden (countTypes p x n.typeArgs) := by
  have whole := count_descend (p := p) (x := x) keeping n
  rwa [descend_keeping, tally_keeping] at whole

theorem le_sum_of_mem {f : Node → Nat} {n : Node} {nodes : List Node} (mem : n ∈ nodes) :
    f n ≤ (nodes.map f).sum := List.le_sum_of_mem (List.mem_map_of_mem mem)

theorem count_le_of_below {n child : Node} (mem : child ∈ n.below) : child.count p x ≤ n.count p x := by
  have part := le_sum_of_mem (f := Node.count p x) mem
  rw [count_eq n]
  omega

abbrev Node.size (n : Node) : Nat := n.count (fun _ => true) .whole

theorem Node.size_pos (n : Node) : 0 < n.size := by
  rw [size, count_eq n]
  simp only [Bool.toNat_true]
  omega

theorem Node.size_lt_of_below {n child : Node} (mem : child ∈ n.below) : child.size < n.size := by
  have part := le_sum_of_mem (f := Node.count (fun _ => true) .whole) mem
  rw [size, size, count_eq n]
  simp only [Bool.toNat_true]
  omega

def AddsAt (v : Visit (StateM Nat)) (w : Visit Id) (weight : Node → Nat) : Node → Prop
  | .expr e => ∀ k, v.expr e k = (w.expr e, k + weight (.expr e))
  | .stmt s => ∀ k, v.stmt s k = (w.stmt s, k + weight (.stmt s))
  | .type t => ∀ k, v.type t k = (w.type t, k + weight (.type t))

/-- If each node noted by the third computation adds its weight, the first has the value of the
second and adds the sum. -/
def Adds (good : Node → Prop) (weight : Node → Nat) (α : Type) (x : StateM Nat α) (y : Id α)
    (z : StateM (List Node) α) : Prop :=
  ∃ b new, (∀ met, z met = (b, met ++ new)) ∧
    ((∀ n ∈ new, good n) → ∀ k, x k = (y, k + (new.map weight).sum))

variable {good : Node → Prop} {weight : Node → Nat}

theorem adds_abreast : Abreast (Adds good weight) where
  pure a b := ⟨b, [], fun met => by rw [List.append_nil]; rfl, fun _ k => rfl⟩
  bind := by
    rintro α β x y z f g h ⟨b, new, notes, adds⟩ next
    obtain ⟨b', new', notes', adds'⟩ := next y b
    refine ⟨b', new ++ new', fun met => ?_, fun each k => ?_⟩
    · change h (z met).1 (z met).2 = _
      rw [notes, notes', List.append_assoc]
    · change f (x k).1 (x k).2 = _
      rw [adds (fun n mem => each n (List.mem_append_left _ mem)),
        adds' (fun n mem => each n (List.mem_append_right _ mem)), List.map_append, List.sum_append, Nat.add_assoc]
      rfl

theorem Adds.run {x : StateM Nat α} {y : Id α} {z : StateM (List Node) α} (adds : Adds good weight α x y z)
    (each : ∀ n ∈ noted z, good n) (k : Nat) : x k = (y, k + ((noted z).map weight).sum) := by
  obtain ⟨b, new, notes, run⟩ := adds
  have same : noted z = new := congrArg Prod.snd (notes [])
  rw [same] at each ⊢
  exact run each k

variable {v : Visit (StateM Nat)} {w : Visit Id}

theorem adds_expr (e : Expr) : Adds (AddsAt v w weight) weight Expr (v.expr e) (w.expr e) (noting.expr e) :=
  ⟨e, [.expr e], fun _ => rfl, fun each k => each _ (List.mem_singleton_self _) k⟩

theorem adds_stmt (s : Stmt) : Adds (AddsAt v w weight) weight Stmt (v.stmt s) (w.stmt s) (noting.stmt s) :=
  ⟨s, [.stmt s], fun _ => rfl, fun each k => each _ (List.mem_singleton_self _) k⟩

theorem adds_type (t : TypeNode) : Adds (AddsAt v w weight) weight TypeNode (v.type t) (w.type t) (noting.type t) :=
  ⟨t, [.type t], fun _ => rfl, fun each k => each _ (List.mem_singleton_self _) k⟩

end Count

end PagePreview.Script
