import PagePreview.Proofs.Script.Walk
import PagePreview.Script.Erasure

/-!
# What erasing types complains about

Erasure fails with one of a few messages, and none of them names anything that the program declares.
-/

namespace PagePreview.Script.Erasure

/-- What is said about a program whose types cannot be erased. -/
def complaints : List String := [
  "Import assignment cannot be used when targeting ECMAScript modules.",
  "Export assignment cannot be used when targeting ECMAScript modules.",
  mutableExport, "Unexpected token"]

variable {α β : Type} {c : Erase α} {f : α → Erase β}

def FailsPlainly (c : Erase α) : Prop := ∀ s message t, c s = .error message t → message ∈ complaints

namespace FailsPlainly

theorem pure (a : α) : FailsPlainly (Pure.pure a : Erase α) := by
  intro s message t failed
  cases failed

theorem throw {message : String} (known : message ∈ complaints) :
    FailsPlainly (MonadExcept.throw message : Erase α) := by
  intro s other t failed
  cases failed
  exact known

theorem bind (hc : FailsPlainly c) (hf : ∀ a, FailsPlainly (f a)) : FailsPlainly (c >>= f) := by
  intro s message u failed
  change EStateM.bind c f s = _ at failed
  unfold EStateM.bind at failed
  cases first : c s with
  | ok a t =>
    rw [first] at failed
    exact hf a t message u failed
  | error other t =>
    rw [first] at failed
    cases failed
    exact hc s message u first

theorem chains : Chains (m := Erase) fun _ c => FailsPlainly c := ⟨pure, bind⟩

theorem get : FailsPlainly (MonadState.get : Erase State) := by
  intro s message t failed
  cases failed

theorem set (s : State) : FailsPlainly (MonadStateOf.set s : Erase PUnit) := by
  intro s message t failed
  cases failed

theorem ite {test : Prop} [Decidable test] {d : Erase α} (hc : FailsPlainly c) (hd : FailsPlainly d) :
    FailsPlainly (if test then c else d) := by
  split
  · exact hc
  · exact hd

theorem enumeration (fuel : Nat) (isTop isExported : Bool) (name : String) (members : List Expr) :
    FailsPlainly (enumeration fuel isTop isExported name members) :=
  get.bind fun _ => (set _).bind fun _ => pure _

theorem aliasVariable (name : String) (value : Expr) : FailsPlainly (aliasVariable name value) := by
  unfold Erasure.aliasVariable
  split
  · exact (throw (by simp [complaints])).bind fun _ => pure _
  · exact pure _

section Rules

variable {self : Meet} (h : ∀ {α : Type} (task : Task α), FailsPlainly (self task)) (fuel : Nat)

include h

theorem exprRule (e : Expr) : FailsPlainly (exprRule self e) := by
  have below (e : Expr) : FailsPlainly (do return bare (← e.descend { expr := (self <| .expr ·), stmt := (self <| .stmt ·) })) :=
    (chains.descend_expr (fun e => h (.expr e)) (fun s => h (.stmt s)) (fun _ => pure _) e).bind fun _ => pure _
  unfold Erasure.exprRule
  split
  case h_5 =>
    exact (chains.list (fun e => h (.expr e)) _).bind fun _ =>
      (chains.option (fun b => h (.stmts false b)) _).bind fun _ => pure _
  case h_6 => exact (h _).bind fun _ => pure _
  case h_7 => exact below _
  case h_8 => exact (h _).bind fun _ => pure _
  case h_9 => exact below _
  all_goals exact h _

theorem stmtRule (s : Stmt) : FailsPlainly (stmtRule self fuel s) := by
  unfold Erasure.stmtRule
  split
  case h_1 => exact (h _).bind fun _ => pure _
  case h_2 => exact (chains.option (fun e => h (.expr e)) _).bind fun _ => (h _).bind fun _ => pure _
  case h_3 =>
    exact (h _).bind fun _ => (chains.option (fun e => h (.expr e)) _).bind fun _ =>
      (chains.option (fun b => h (.stmts false b)) _).bind fun _ =>
        (chains.option (fun b => h (.stmts false b)) _).bind fun _ => pure _
  case h_4 => exact enumeration _ _ _ _ _
  case h_5 => exact (enumeration _ _ _ _ _).bind fun _ => pure _
  case h_6 => exact aliasVariable _ _
  case h_7 => exact (aliasVariable _ _).bind fun _ => pure _
  case h_8 => exact throw (by simp [complaints])
  case h_9 => exact chains.descend_stmt (fun e => h (.expr e)) (fun s => h (.stmt s)) (fun _ => pure _) _

theorem spaceWithVariable (known : List String) (parent : Option String) (name : Expr)
    (body : List Stmt) : FailsPlainly (spaceWithVariable self fuel known parent name body) :=
  (h _).bind fun _ => pure _

theorem stmtsRule (isTop : Bool) (known : List String) (body : List Stmt) :
    FailsPlainly (stmtsRule self fuel isTop known body) := by
  induction body generalizing known with
  | nil => exact pure _
  | cons s rest ih =>
    unfold Erasure.stmtsRule
    split
    · exact ite (ih _) ((spaceWithVariable h _ _ _ _ _).bind fun _ => (ih _).bind fun _ => pure _)
    · exact ite (ih _) ((enumeration _ _ _ _ _).bind fun _ => (ih _).bind fun _ => pure _)
    · exact get.bind fun _ => ite (ih _) ((h _).bind fun _ => (ih _).bind fun _ => pure _)

theorem sharedDeclaration (param : String) (d : Stmt) :
    FailsPlainly (sharedDeclaration self fuel param d) := by
  unfold Erasure.sharedDeclaration
  refine ite (pure _) ?_
  split
  · exact ite (throw (by simp [complaints])) (ite ((h _).bind fun _ => pure _) ((h _).bind fun _ => pure _))
  · exact (h _).bind fun _ => pure _
  · exact (enumeration _ _ _ _ _).bind fun _ => pure _
  · exact (aliasVariable _ _).bind fun _ => pure _
  · exact spaceWithVariable h _ _ _ _ _
  · exact pure _

theorem spaceStatements (param : String) (body : List Stmt) :
    FailsPlainly (spaceStatements self fuel param body) := by
  induction body with
  | nil => exact pure _
  | cons s rest ih =>
    have behind (here : List Stmt) : FailsPlainly (do
        return here ++ (← Erasure.spaceStatements self fuel param rest)) := ih.bind fun _ => pure _
    unfold Erasure.spaceStatements
    dsimp only
    split
    · exact (sharedDeclaration h _ _ _).bind behind
    · exact ite ((pure _).bind behind) ((spaceWithVariable h _ _ _ _ _).bind behind)
    · exact (h _).bind behind

theorem rule {α : Type} (task : Task α) : FailsPlainly (rule self fuel task) := by
  cases task with
  | expr e => exact exprRule h e
  | stmt s => exact stmtRule h fuel s
  | stmts isTop body => exact stmtsRule h fuel isTop [] body
  | space name parent body => exact (spaceStatements h fuel _ _).bind fun _ => pure _

end Rules

theorem meet (fuel : Nat) {α : Type} (task : Task α) : FailsPlainly (meet fuel task) := by
  induction fuel generalizing α with
  | zero => exact throw (by simp [complaints])
  | succ fuel ih => exact rule (fun task => ih task) fuel task

end FailsPlainly

theorem program_error {p : Program} {message : String} (h : program p = .error message) :
    message ∈ complaints := by
  unfold program at h
  dsimp only at h
  split at h
  · rename_i failed
    cases h
    exact FailsPlainly.meet _ _ _ _ _ failed
  · cases h

end PagePreview.Script.Erasure
