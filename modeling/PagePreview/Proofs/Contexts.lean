import PagePreview.Proofs.Render.Nodes
import PagePreview.Proofs.Machine.Errors

/-!
# Contexts are read lexically and restored

Whatever a page nests, repeats or throws, rendering reads each context as the nearest provider around has
it, and leaves every context as it was.

A component that asks for the value of a context, and then returns that value as a node or throws it,
shows what is nearest around the place where it stands.
-/

namespace PagePreview.Contexts
open Script Machine Run Builtin Render

section Components

variable {s t : State} {n m id scope place : Nat} {v w : Value} {o : Object} {name : String} {p : Page}
  {env : Surroundings} {c : PageContext} {context : Machine.Context} {props : Key → Option Value}

def HasVariable (s : State) (scope : Nat) (name : String) (v : Value) : Prop :=
  ∃ sc i x, s.scopes[scope]? = some sc ∧ findVariable sc.vars name 0 = some i ∧
    sc.vars[i]? = some (name, x) ∧ x.value = some v

theorem HasVariable.keeps (h : HasVariable s scope name v)
    (kept : ∀ (i : Nat) (sc : Machine.Scope), s.scopes[i]? = some sc → t.scopes[i]? = some sc) :
    HasVariable t scope name v := by
  obtain ⟨sc, i, x, at_, rest⟩ := h
  exact ⟨sc, i, x, kept _ sc at_, rest⟩

theorem HasVariable.reads (h : HasVariable s scope name v)
    (inner : s.scopes[id]? = some { outer := some scope }) :
    ∃ i, Reads s (locate name id) (.variable scope i) ∧ Reads s (valueAt? name (.variable scope i)) (some v) := by
  obtain ⟨sc, i, x, at_, found, here, value⟩ := h
  refine ⟨i, ?_, ?_⟩
  · have apart : id ≠ scope := by
      rintro rfl
      rw [inner] at at_
      cases at_
      rw [findVariable_nil] at found
      cases found
    have bound : id < s.scopes.size := (Array.getElem?_eq_some_iff.mp inner).1
    have bound' : scope < s.scopes.size := (Array.getElem?_eq_some_iff.mp at_).1
    obtain ⟨k, size⟩ : ∃ k, s.scopes.size = k + 2 := ⟨s.scopes.size - 2, by omega⟩
    have located : s.locate name s.scopes.size id = .variable scope i := by
      rw [size, locate_beyond inner findVariable_nil rfl, Option.elim_some, State.locate, at_]
      dsimp only
      rw [found]
    refine reads_get.bind ?_
    rw [located]
    exact reads_pure _
  · have variable_there : s.variableAt? scope i = some x := by
      rw [State.variableAt?, at_]
      simp [here]
    refine reads_get.bind ?_
    rw [variable_there]
    obtain ⟨value', isMutable, isLoud⟩ := x
    cases value
    exact reads_pure _

def asking (name : String) : Expr := .call (.identifier "useContext") false [] [.identifier name] false

section Asking

variable {hook : Value} (reading : p.Reading env s) (mem : c ∈ p.contexts)
  (function : IsFunction s.objects hook .page "useContext") (asks : HasVariable s scope "useContext" hook)
  (there : HasVariable s scope name (.object c.place)) (other : name ≠ "undefined")
  (inner : s.scopes[context.scope]? = some { outer := some scope })

include reading mem function asks there other inner

theorem gives_asking : Gives 9 (evaluate context (asking name)) s fun v os =>
    v = c.nearest (env c.place) ∧ Extends s.objects os := by
  refine gives_evaluate (n := 8) ?_
  obtain ⟨i, located, value⟩ := asks.reads inner
  have args : Gives 4 (argumentsFrom context 2 [.identifier name]) s fun out os =>
      out = #[.object c.place] ∧ Extends s.objects os := by
    have argument : Yields 1 s context (.identifier name) fun _ w => w = .object c.place :=
      yields_of_reads (fun _ same => by cases same) fun t around _ => by
        rw [expression_identifier other]
        have kept : HasVariable t scope name (.object c.place) := there.keeps (around.scopes ▸ fun _ _ h => h)
        obtain ⟨j, located', value'⟩ := kept.reads (around.scopes ▸ inner)
        exact located'.bind (value'.bind (reads_pure _))
    refine (gives_argumentsFrom (k := 2) (.cons argument .nil)).mono (Nat.le_refl _) ?_
    rintro out os ⟨all, more⟩
    refine ⟨?_, more⟩
    generalize values : out.toList = vs at all
    obtain _ | ⟨rfl, _ | _⟩ := all
    exact Array.toList_inj.mp values
  have callee : Reads s (calleeOf context (.identifier "useContext")) (.undefined, hook) :=
    located.bind (value.bind (reads_pure _))
  unfold asking expression callExpression
  refine callee.gives_bind ((reads_pure ()).gives_bind ((args.more (by omega)).bind ?_))
  rintro _ t kept ⟨rfl, more⟩
  have called := reading c mem t more hook .undefined #[.object c.place] (function.extends more) rfl
  obtain ⟨id, o, captured, isConstructor, rfl, -⟩ := function
  refine called.mono (by simp) ?_
  rintro _ os ⟨rfl, same⟩
  exact ⟨rfl, same ▸ more⟩

end Asking

def inArrow (s : State) (k : Nat) (context : Machine.Context) : State :=
  { s.entered k with scopes := s.scopes.push { outer := some context.scope } }

theorem unharmed_inArrow (s : State) (k : Nat) (context : Machine.Context) :
    Unharmed (s.entered k) (inArrow s k context) where
  limits := rfl
  depth := rfl
  held := rfl
  objects := .refl _
  scopes i sc there := by
    have bound : i < s.scopes.size := (Array.getElem?_eq_some_iff.mp there).1
    change (s.scopes.push _)[i]? = some sc
    rw [Array.getElem?_push_lt bound, ← Array.getElem?_eq_getElem bound]
    exact there
  joining := rfl

def arrowContext (s : State) (context : Machine.Context) : Machine.Context :=
  { scope := s.scopes.size, frame := context.frame, isStrict := false }

def arrowCode (body : List Stmt) : Machine.Code where
  kind := .arrow
  params := []
  plainParams := some []
  body := body
  names := {}
  usesArguments := false

theorem enter_arrow (body : List Stmt) (k : Nat) (this : Option Value) (args : Array Value) (e : Engine) :
    enter id (arrowCode body) context none this args .undefined e (s.entered k) =
      .ok (arrowContext s context) (inArrow s k context) := rfl

theorem exists_frame (s : State) (context : Machine.Context) : ∃ frame, Reads s (frameOf context) frame := by
  unfold frameOf
  cases at_ : s.scopes[context.frame]? with
  | none => exact ⟨_, reads_get.bind (by rw [at_]; exact reads_pure _)⟩
  | some sc =>
    obtain ⟨vars, outer, frame, object⟩ := sc
    cases frame with
    | none => exact ⟨_, reads_get.bind (by rw [at_]; exact reads_pure _)⟩
    | some frame => exact ⟨frame, reads_get.bind (by rw [at_]; exact reads_pure _)⟩

theorem leads_arrow {body : List Stmt} {members : Members} {args : Array Value} {P : Value → Prop}
    {moving : List Nat} {out : Outcome moving Str} (at_ : s.objects[id]? = some o)
    (kind : o.kind = .closure (arrowCode body) context none members)
    (h : Ends n (runList (arrowContext s context) body none) (inArrow s (args.size + 2) context)
      (fun completion t => Unharmed (inArrow s (args.size + 2) context) t ∧ P (returned completion))
      fun v t => Unharmed (inArrow s (args.size + 2) context) t ∧ out.Throws v t.objects) :
    Leads (n + args.size + 4) (Run.call (.object id) .undefined args) s (fun v _ => P v) out := by
  have entered := unharmed_inArrow s (args.size + 2) context
  refine ends_call (n := n + args.size + 3) ((reads_objectAt id).ends_bind ?_)
  rw [object_of_place at_, kind]
  refine Reads.ends_bind (reads_pure Intrinsic.globalValue) ?_
  refine Ends.bind (Q := fun ended t => Unharmed s t ∧ P (returned ended.1)) ?_ fun _ t _ ended => ends_pure ended
  refine ends_counted (n := n) (k := args.size + 2) ?_
  refine Ends.bind (Q := fun inner t => inner = arrowContext s context ∧ t = inArrow s (args.size + 2) context)
    (ends_of_ok (fun _ => enter_arrow body _ _ _ _) ⟨rfl, rfl, rfl⟩ ⟨rfl, rfl⟩) ?_
  rintro _ _ - ⟨rfl, rfl⟩
  refine Ends.bind (Ends.mono h (Nat.le_refl n) (fun _ _ _ ended => ended) ?_) ?_
  · rintro v t ⟨unharmed, thrown⟩
    refine ⟨(entered.trans unharmed).leave, ?_⟩
    change out.Throws v (t.leave _ _ _ _).objects
    rw [leave_objects]
    exact thrown
  · rintro completion t - ⟨unharmed, holds⟩
    obtain ⟨frame, read⟩ := exists_frame t (arrowContext s context)
    exact read.ends_bind (ends_pure ⟨(entered.trans unharmed).leave, holds⟩)

def arrowObject (context : Machine.Context) (title : Str) (body : List Stmt) : Object where
  proto := some Intrinsic.functionPrototype.id
  properties := .ofList [(.length, .data (.ofNat 0) false false true), (.name, .data (.string title) false false true)]
  kind := .closure (arrowCode body) context none ⟨#[], #[]⟩

section Arrow

variable {f : Nat} {title : Str} {body : List Stmt} {moving : List Nat} {out : Outcome moving Str} {P : Value → Prop}
  {properties : Value}

theorem arrowObject_plain : (arrowObject context title body).ownProperty? (.named "prototype") = none := by
  have distinct : ([(Key.length, Property.data (.ofNat 0) false false true),
      (Key.name, .data (.string title) false false true)].map Prod.fst).Nodup := by
    change [Key.length, Key.name].Nodup
    decide
  change (Properties.ofList _).get? (.named "prototype") = none
  rw [Properties.get?_ofList distinct]
  rfl

theorem leads_component (ready : Ready s) (lacks : Lacks s.objects Intrinsic.functionPrototype.id ["prototype"])
    (at_ : s.objects[f]? = some (arrowObject context title body))
    (h : Ends n (runList (arrowContext s context) body none) (inArrow (s.entered 4) 3 context)
      (fun completion t => Unharmed (inArrow (s.entered 4) 3 context) t ∧ P (returned completion))
      fun v t => Unharmed (inArrow (s.entered 4) 3 context) t ∧ out.Throws v t.objects) :
    Leads (n + 10) (renderHost.framed 2 (renderComponent renderHost (.object f) properties)) s (fun v _ => P v)
      out := by
  have place : Ordinary (s.entered 4).objects f (arrowObject context title body) := ⟨at_, rfl⟩
  obtain ⟨o, there, proto, own⟩ := lacks
  obtain ⟨first, at', last, free⟩ := ready.standard.bare
  have missing : Finds (s.entered 4) f (.named "prototype") .missing :=
    place.finds_nothing_further arrowObject_plain rfl there (own _ (by simp)) proto at' (free _ (by decide)) last
  have no_class : Reads (s.entered 4) (renderHost.prop (.object f) "prototype") .undefined := missing.reads_undefined
  have called : Leads (n + 5) (Run.call (.object f) .undefined #[properties]) (s.entered 4) (fun v _ => P v) out :=
    leads_arrow at_ rfl h
  refine ends_counted (n := n + 5) (k := 4) (no_class.ends_bind ?_)
  refine Ends.mono called (Nat.le_refl _) ?_ ?_
  · rintro v t - ⟨unharmed, holds⟩
    exact ⟨unharmed.leave, holds⟩
  · rintro v t ⟨unharmed, thrown⟩
    refine ⟨unharmed.leave, ?_⟩
    change out.Throws v (t.leave _ _ _ _).objects
    rw [leave_objects]
    exact thrown

end Arrow

section Bodies

variable {e : Expr} {x : Value} {moving : List Nat}

theorem ends_returning {out : Outcome moving Str}
    (h : Gives n (evaluate context e) s fun v os => v = x ∧ Extends s.objects os) :
    Ends (n + 1) (runList context [.return (some e)] none) s
      (fun completion t => Unharmed s t ∧ returned completion = x)
      fun v t => Unharmed s t ∧ out.Throws v t.objects := by
  refine Ends.bind (Q := fun completion t => Unharmed s t ∧ completion = .return x) (ends_execute ?_) ?_
  · refine h.ends_bind ?_
    rintro _ t kept ⟨rfl, more⟩
    exact ends_pure ⟨kept.unharmed more, rfl⟩
  · rintro _ t - ⟨unharmed, rfl⟩
    exact ends_pure ⟨unharmed, rfl⟩

def thrownValue (moving : List Nat) (x : Value) : Thrown moving where
  Tells _ v := v = x
  lasts _ _ _ _ same := same

theorem ends_throwing {Q : Completion → State → Prop}
    (h : Gives n (evaluate context e) s fun v os => v = x ∧ Extends s.objects os) :
    Ends (n + 1) (runList context [.throw e] none) s Q fun v t =>
      Unharmed s t ∧ Outcome.Throws (.error (thrownValue moving x) : Outcome moving Str) v t.objects := by
  refine Ends.bind (Q := fun _ _ => False) (ends_execute ?_) fun _ _ _ none => none.elim
  refine h.ends_bind ?_
  rintro _ t kept ⟨rfl, more⟩
  exact ends_throw ⟨kept.unharmed more, _, rfl, rfl⟩

end Bodies

section Reader

variable {f : Nat} {title : Str} {hook : Value} {body : List Stmt} {out : Outcome p.moving Str}
  (lacks : Lacks p.base Intrinsic.functionPrototype.id ["prototype"])
  (function : IsFunction p.base hook .page "useContext") (mem : c ∈ p.contexts)
  (asks : HasVariable s context.scope "useContext" hook)
  (there : HasVariable s context.scope name (.object c.place)) (other : name ≠ "undefined")

theorem always_callable (arrow : Steady p.moving s.objects f (arrowObject context title body)) :
    p.Always env s fun t => t.isCallable (.object f) = true := by
  intro t later _ _
  rw [State.isCallable, object_of_place (arrow.later later)]
  rfl

include function mem asks there other

/-- In the body of an arrow function, asking for a context gives what is nearest around its component. -/
theorem gives_askingInArrow (later : Later p.moving s t) (within : p.Within env t) (reading : p.Reading env t)
    (k : Nat) :
    Gives 9 (evaluate (arrowContext t context) (asking name)) (inArrow (t.entered 4) k context)
      fun v os => v = c.nearest (env c.place) ∧ Extends (inArrow (t.entered 4) k context).objects os := by
  have kept (i : Nat) (sc : Machine.Scope) (here : s.scopes[i]? = some sc) :
      (inArrow (t.entered 4) k context).scopes[i]? = some sc :=
    (unharmed_inArrow (t.entered 4) k context).scopes i sc (later.scopes i sc here)
  have inner : (inArrow (t.entered 4) k context).scopes[(arrowContext t context).scope]? =
      some { outer := some context.scope } := Array.getElem?_push_size
  exact gives_asking (s := inArrow (t.entered 4) k context) (reading.extends (.refl _)) mem
    (function.extends within.base) (asks.keeps kept) (there.keeps kept) other inner

include lacks

theorem shows_reader (node : IsNode p.moving s.objects v (.object f) place props)
    (arrow : Steady p.moving s.objects f (arrowObject context title [.return (some (asking name))]))
    (shown : ∀ u, Later p.moving s u → Shows p env u m (c.nearest (env c.place)) out) (room : m + 29 ≤ n) :
    Shows p env s n v out := by
  refine .component (m := m + 20) (P := fun w u => w = c.nearest (env c.place) ∧ Later p.moving s u) node
    (always_callable arrow) (fun t later within reading => ?_) ?_ (by omega)
  · have asked := gives_askingInArrow function mem asks there other later within reading 3
    have called : Leads 20 (renderHost.framed 2 (renderComponent renderHost (.object f) (.object place))) t _ out :=
      leads_component (n := 10) (P := (· = c.nearest (env c.place))) within.ready (lacks.extends within.base)
        (arrow.later later) (ends_returning asked)
    refine Ends.mono called (Nat.le_add_left _ _) ?_ fun _ _ thrown => thrown
    rintro w u - ⟨unharmed, same⟩
    exact ⟨unharmed, same, later.trans unharmed.later⟩
  · rintro _ u ⟨rfl, later⟩
    exact (shown u later).more (by omega)

theorem shows_thrower (node : IsNode p.moving s.objects v (.object f) place props)
    (arrow : Steady p.moving s.objects f (arrowObject context title [.throw (asking name)])) (room : 29 ≤ n) :
    Shows p env s n v (.error (thrownValue p.moving (c.nearest (env c.place)))) := by
  refine .component (m := 20) (P := fun _ _ => False) node (always_callable arrow)
    (fun t later within reading => ?_) (fun _ _ none => none.elim) (by omega)
  have asked := gives_askingInArrow function mem asks there other later within reading 3
  exact leads_component (n := 10) (P := fun _ => False) within.ready (lacks.extends within.base) (arrow.later later)
    (ends_throwing asked)

end Reader

end Components

variable {s t : State} {n : Nat} {v : Value} {env : Surroundings} {p : Page} {out : Outcome p.moving Str}

def entryOf (entries : List (String × Value)) (k : Key) : Option Value :=
  (entries.map fun (name, v) => (Key.named name, v)).lookup k

theorem holds_record {entries : List (String × Value)} (distinct : (entries.map Prod.fst).Nodup) :
    Holds (record entries) (entryOf entries) where
  kind := rfl
  proto := rfl
  growing := rfl
  sound := Properties.sound_ofList _
  table k := by
    change (Properties.ofList _).get? k = _
    rw [Properties.get?_ofList (distinct_named distinct), entryOf]
    induction entries with
    | nil => rfl
    | cons entry entries ih =>
      rw [List.map_cons, List.map_cons, List.lookup_cons, List.lookup_cons, ih (List.nodup_cons.mp distinct).2]
      cases k == Key.named entry.1 <;> rfl

theorem key_of_entryOf {name : String} {k : Key} (given : (entryOf [(name, v)] k).isSome = true) : k = .named name := by
  by_contra other
  have different : (k == .named name) = false := by simpa using other
  rw [entryOf, List.map_singleton, List.lookup_cons, different] at given
  cases given

/-- Every context and its list are what they were. -/
def Page.Restored (p : Page) (s t : State) : Prop :=
  ∀ c ∈ p.contexts, t.objects[c.place]? = s.objects[c.place]? ∧ t.objects[c.stack]? = s.objects[c.stack]?

theorem Page.Within.restores (within : p.Within env s) (unharmed : Unharmed s t) : p.Restored s t := by
  intro c mem
  obtain ⟨o, f, at_, -⟩ := (within.contexts c mem).context
  have list := (within.contexts c mem).stack
  exact ⟨(unharmed.objects _ _ at_).trans at_.symm, (unharmed.objects _ _ list).trans list.symm⟩

/-- Rendering a node inside of providers returns the markup, or throws the value, that the node shows there,
each context being read as the nearest provider around the place of the reading has it, or as its default;
and then every context is what it was before. -/
theorem rendered_and_restored {node : Value} (shows : Shows p env s n node out) (within : p.Within env s) (fuel : Nat) :
    p.Reading env s ∧ match Run.call Intrinsic.pageRenderNode.value .undefined #[node] (engine builtins fuel) s with
    | .ok v t => p.Restored s t ∧ ∃ text, out = .ok text ∧ v = .string text
    | .error (.thrown v) t => p.Restored s t ∧ ∃ known, out = .error known ∧ known.Tells t.objects v
    | .error (.limit _) _ => ¬Room n fuel s
    | .error _ _ => False := by
  refine ⟨within.reading, ?_⟩
  have settled := shows.rendersTo (.refl s) within fuel
  cases run : Run.call Intrinsic.pageRenderNode.value .undefined #[node] (engine builtins fuel) s with
  | ok v t =>
    rw [run] at settled
    obtain ⟨-, unharmed, same⟩ := settled
    obtain ⟨text, shown, rfl⟩ := Outcome.ok_of_map same
    exact ⟨within.restores unharmed, text, shown, rfl⟩
  | error stop t =>
    rw [run] at settled
    cases stop with
    | thrown v =>
      obtain ⟨unharmed, thrown⟩ := settled
      exact ⟨within.restores unharmed, thrown.of_map⟩
    | limit message => exact settled
    | suspended => exact settled
    | cut => exact settled

namespace Scene

structure Supports (os : Array Object) : Prop where
  standard : Standard os
  assignable : Assignable os
  push : Answers os .arrayPrototype "push" .array "push"
  pop : Answers os .arrayPrototype "pop" .array "pop"
  functions : Lacks os Intrinsic.functionPrototype.id ["prototype"]

abbrev numbered (s : State) (i : Nat) : Value := .object (s.objects.size + i)

def theme (s : State) : PageContext := ⟨s.objects.size, s.objects.size + 1, .text "light"⟩

def around (s : State) : Machine.Context := ⟨s.scopes.size, globalScope, false⟩

/-- The objects of a page: a context and what provides it, a component that shows the value of the context, one
that throws it, and elements of them inside of providers and outside. -/
def made (s : State) : List Object := [
  record [("_currentValue", .text "light"), ("_stack", numbered s 1), ("Provider", numbered s 2)],
  listOf [],
  record [("$$typeof", markSymbol .provider), ("_context", .object s.objects.size)],
  arrowObject (around s) (.plain "Label") [.return (some (asking "Theme"))],
  arrowObject (around s) (.plain "Fail") [.throw (asking "Theme")],
  record [],
  elementObject (numbered s 3) (numbered s 5),
  record [("children", numbered s 6)],
  elementObject (.text "b") (numbered s 7),
  record [("value", .text "dark"), ("children", numbered s 8)],
  elementObject (numbered s 2) (numbered s 9),
  elementObject (numbered s 2) (numbered s 7),
  listOf [numbered s 6, numbered s 10, numbered s 11, numbered s 6],
  elementObject (numbered s 4) (numbered s 5),
  record [("value", .text "dark"), ("children", numbered s 13)],
  elementObject (numbered s 2) (numbered s 14)]

def scope (s : State) (hook : Value) : Machine.Scope where
  vars := #[("useContext", { value := some hook }), ("Theme", { value := some (.object s.objects.size) })]
  outer := some globalScope

def scene (s : State) (hook : Value) : State :=
  { s with objects := s.objects ++ (made s).toArray, scopes := s.scopes.push (scope s hook) }

def page (supports : Supports s.objects) : Page where
  base := s.objects
  contexts := [theme s]
  standard := supports.standard
  assignable := supports.assignable
  push := supports.push
  pop := supports.pop
  samePlace := by simp
  sameStack := by simp
  behind := by simp [theme]

variable {hook : Value} {i j : Nat} {o : Object} {supports : Supports s.objects}

theorem place (here : (made s)[i]? = some o) :
    (scene s hook).objects[s.objects.size + i]? = some o := by
  change (s.objects ++ (made s).toArray)[s.objects.size + i]? = some o
  rw [Array.getElem?_append_right (Nat.le_add_right _ _), Nat.add_sub_cancel_left, List.getElem?_toArray]
  exact here

theorem steady (here : (made s)[i]? = some o) (behind : 2 ≤ i) :
    Steady (page supports).moving (scene s hook).objects (s.objects.size + i) o where
  place := place here
  still := by
    simp [Page.moving, page, theme]
    omega

theorem node {type : Value} {entries : List (String × Value)}
    (here : (made s)[i]? = some (elementObject type (numbered s j))) (given : (made s)[j]? = some (record entries))
    (distinct : (entries.map Prod.fst).Nodup) (behind : 2 ≤ i) (behind' : 2 ≤ j) :
    IsNode (page supports).moving (scene s hook).objects (numbered s i) type (s.objects.size + j)
      (entryOf entries) where
  element := ⟨_, _, _, rfl, steady here behind, holds_record (by simp), rfl, rfl, rfl⟩
  properties := ⟨_, steady given behind', holds_record distinct⟩

theorem provider : IsEnd (page supports).moving (scene s hook).objects (.object (s.objects.size + 2)) .provider
    (theme s) :=
  ⟨_, _, _, rfl, steady rfl (by decide), holds_record (by simp), rfl, rfl⟩

theorem scope_here : (scene s hook).scopes[(around s).scope]? = some (scope s hook) := Array.getElem?_push_size

theorem within (ready : Ready s) : (page supports).Within (fun _ => []) (scene s hook) where
  base id o here := by
    have here : s.objects[id]? = some o := here
    change (s.objects ++ (made s).toArray)[id]? = some o
    rwa [Array.getElem?_append_left (size_of_place here)]
  contexts c mem := by
    obtain rfl : c = theme s := List.mem_singleton.mp mem
    exact ⟨⟨_, _, place (i := 0) rfl, holds_record (by simp), rfl, rfl⟩, place (i := 1) rfl⟩
  globals name mem := by
    obtain ⟨sc, at_, rest⟩ := ready.globals name mem
    have bound : globalScope < s.scopes.size := (Array.getElem?_eq_some_iff.mp at_).1
    refine ⟨sc, ?_, rest⟩
    change (s.scopes.push _)[globalScope]? = some sc
    rwa [Array.getElem?_push_lt bound, ← Array.getElem?_eq_getElem bound]
  joining id mem := by
    dsimp only [scene] at mem ⊢
    rw [Array.size_append]
    exact Nat.lt_add_right _ (ready.joining id mem)

theorem has_hook : HasVariable (scene s hook) (around s).scope "useContext" hook := by
  refine ⟨_, 0, _, scope_here, ?_, rfl, rfl⟩
  rw [findVariable]
  rfl

theorem has_theme : HasVariable (scene s hook) (around s).scope "Theme" (.object s.objects.size) := by
  refine ⟨_, 1, _, scope_here, ?_, rfl, rfl⟩
  rw [findVariable, findVariable]
  rfl

section Shown

variable (supports : Supports s.objects) (function : IsFunction s.objects hook .page "useContext")
  {env : Surroundings}

include function

theorem label {out : Outcome (page supports).moving Str}
    (shown : ∀ u, Shows (page supports) env u 9 ((theme s).nearest (env s.objects.size)) out) :
    Shows (page supports) env (scene s hook) 38 (numbered s 6) out := by
  have element : IsNode (page supports).moving (scene s hook).objects (numbered s 6) (numbered s 3) _ (entryOf []) :=
    node rfl rfl (by simp) (by decide) (by decide)
  exact shows_reader supports.functions function (List.mem_singleton.mpr rfl) has_hook has_theme (by decide) element
    (steady rfl (by decide)) (fun u _ => shown u) (Nat.le_refl _)

theorem failing : Shows (page supports) env (scene s hook) 29 (numbered s 13)
    (.error (thrownValue _ ((theme s).nearest (env s.objects.size)))) := by
  have element : IsNode (page supports).moving (scene s hook).objects (numbered s 13) (numbered s 4) _ (entryOf []) :=
    node rfl rfl (by simp) (by decide) (by decide)
  exact shows_thrower supports.functions function (List.mem_singleton.mpr rfl) has_hook has_theme (by decide) element
    (steady rfl (by decide)) (Nat.le_refl _)

omit function in
theorem providing {m : Nat} {child x : Value} {entries : List (String × Value)}
    {out : Outcome (page supports).moving Str}
    (here : (made s)[i]? = some (elementObject (numbered s 2) (numbered s j)))
    (properties : (made s)[j]? = some (record entries))
    (distinct : (entries.map Prod.fst).Nodup) (behind : 2 ≤ i) (behind' : 2 ≤ j)
    (value : given (entryOf entries) "value" = x) (children : given (entryOf entries) "children" = child)
    (shown : Shows (page supports) (Function.update env s.objects.size (x :: env s.objects.size)) (scene s hook) m
      child out) :
    Shows (page supports) env (scene s hook) (m + 9) (numbered s i) out := by
  subst value children
  exact .provider (List.mem_singleton.mpr rfl) (node here properties distinct behind behind') provider shown
    (Nat.le_refl _)

def parts (moving : List Nat) : Nat → Outcome moving Str
  | 1 => .ok (tagMarkup (.plain "b") .empty (escape (.plain "dark")))
  | 2 => .ok .empty
  | _ => .ok (escape (.plain "light"))

theorem nodes : Shows (page supports) (fun _ => []) (scene s hook) 81 (numbered s 12)
    (Str.concat <$> (List.range 4).mapM (parts (page supports).moving)) := by
  have list : Steady (page supports).moving (scene s hook).objects (s.objects.size + 12)
      (listOf [numbered s 6, numbered s 10, numbered s 11, numbered s 6]) := steady rfl (by decide)
  have light : Shows (page supports) (fun _ => []) (scene s hook) 38 (numbered s 6) (.ok (escape (.plain "light"))) :=
    label supports function fun u => shows_string _ (Nat.le_refl _)
  refine .list (m := 70) list (fun i hi => ?_) (Nat.le_refl _)
  match i, hi with
  | 0, _ => exact light.more (by decide)
  | 1, _ =>
    have dark : Shows (page supports) (Function.update (fun _ => []) s.objects.size [.text "dark"]) (scene s hook) 38
        (numbered s 6) (.ok (escape (.plain "dark"))) := by
      refine label supports function fun u => ?_
      rw [Function.update_self]
      exact shows_string _ (Nat.le_refl _)
    refine providing (m := 61) supports rfl rfl (by simp) (by decide) (by decide) rfl rfl ?_
    exact shows_tag (node (j := 7) rfl rfl (by simp) (by decide) (by decide)) (fun _ => key_of_entryOf) (by decide)
      (by decide) (by decide) dark (Nat.le_refl _)
  | 2, _ =>
    refine (providing (m := 38) supports rfl rfl (by simp) (by decide) (by decide) rfl rfl ?_).more (by decide)
    refine label supports function fun u => ?_
    rw [Function.update_self]
    exact .blank rfl (by decide)
  | 3, _ => exact light.more (by decide)

theorem thrown : Shows (page supports) (fun _ => []) (scene s hook) 38 (numbered s 15)
    (.error (thrownValue _ (.text "dark"))) := by
  have nearest : Shows (page supports) (Function.update (fun _ => []) s.objects.size [.text "dark"]) (scene s hook) 29
      (numbered s 13) (.error (thrownValue _ _)) := failing supports function
  rw [Function.update_self] at nearest
  exact providing supports rfl rfl (by simp) (by decide) (by decide) rfl rfl nearest

end Shown

theorem room_scene {fuel : Nat} (room : Room n fuel s) : Room n fuel (scene s hook) := by
  simpa only [Room, scene] using room

def isSupportive (p : Realm.Plan) : Bool :=
  Realm.sharesWithin p.size p.acts && Realm.givesFunction p .arrayPrototype "push" .array "push" &&
  Realm.givesFunction p .arrayPrototype "pop" .array "pop" &&
  Realm.givesFunction p .handle "useContext" .page "useContext" &&
  Realm.leavesOut p .functionPrototype ["prototype"]

theorem plan_isSupportive : isSupportive Realm.plan = true := by decide +kernel

theorem exists_start : ∃ s : State, Ready s ∧ Room 81 200 s ∧ Supports s.objects ∧
    ∃ hook, IsFunction s.objects hook .page "useContext" := by
  refine ⟨State.initial { loops := 100, calls := 200 }, ready_initial _, ⟨by decide, by decide, by decide⟩, ?_⟩
  have checked := plan_isSupportive
  simp only [isSupportive, Bool.and_eq_true] at checked
  obtain ⟨⟨⟨⟨shares, push⟩, pop⟩, asks⟩, functions⟩ := checked
  dsimp only [State.initial]
  obtain ⟨hook, -, function⟩ := Realm.answers_of_givesFunction shares asks
  exact ⟨⟨Realm.standard_objects, Realm.assignable_of_isAssignable Realm.plan_isAssignable,
    Realm.answers_of_givesFunction shares push, Realm.answers_of_givesFunction shares pop,
    Realm.lacks_of_leavesOut shares functions⟩, hook, function⟩

end Scene

open Scene in
/-- Labels outside of a provider, in one around a tag, in one without a value, and outside again, where nothing
is left of what was provided; and a component that throws what is provided around it. -/
theorem rendered_and_restored_themed :
    ∃ (s : State) (supports : Supports s.objects) (hook : Value),
      (∃ t, Run.call Intrinsic.pageRenderNode.value .undefined #[numbered s 12] (engine builtins 200)
          (scene s hook) = .ok (.string (.plain "light<b>dark</b>light")) t ∧
        (page supports).Restored (scene s hook) t) ∧
      ∃ t, Run.call Intrinsic.pageRenderNode.value .undefined #[numbered s 15] (engine builtins 200)
          (scene s hook) = .error (.thrown (.text "dark")) t ∧
        (page supports).Restored (scene s hook) t := by
  obtain ⟨s, ready, room, supports, hook, function⟩ := exists_start
  have inside : (page supports).Within (fun _ => []) (scene s hook) := within ready
  refine ⟨s, supports, hook, ?_, ?_⟩
  · have markup : (Str.concat <$> (List.range 4).mapM (parts (page supports).moving)) =
        .ok (.plain "light<b>dark</b>light") := rfl
    -- The call becomes a variable first, so that no step below tries to run it.
    have rendered := rendered_and_restored (nodes supports function) inside 200
    generalize Run.call _ _ _ _ _ = result at rendered ⊢
    obtain ⟨-, ended⟩ := rendered
    split at ended
    next v t =>
      obtain ⟨restored, text, same, rfl⟩ := ended
      obtain rfl := Except.ok.inj (markup.symm.trans same)
      exact ⟨t, rfl, restored⟩
    next v t =>
      obtain ⟨-, known, same, -⟩ := ended
      cases markup.symm.trans same
    next => exact absurd (room_scene room) ended
    next => exact ended.elim
  · have rendered := rendered_and_restored (thrown supports function) inside 200
    generalize Run.call _ _ _ _ _ = result at rendered ⊢
    obtain ⟨-, ended⟩ := rendered
    split at ended
    next v t =>
      obtain ⟨-, text, same, -⟩ := ended
      cases same
    next v t =>
      obtain ⟨restored, known, same, tells⟩ := ended
      cases same
      obtain rfl : v = .text "dark" := tells
      exact ⟨t, rfl, restored⟩
    next => exact absurd (room_scene (room.mono (by decide))) ended
    next => exact ended.elim

end PagePreview.Contexts
