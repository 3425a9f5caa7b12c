import PagePreview.Proofs.Machine.Heap
import Mathlib.Data.List.Forall2

/-!
# Expressions and their values

What an expression yields is said by a property of stores and values that holds on as stores grow.
So the values of arguments, worked out one after the other, still are what they were when the last
one is known.
-/

namespace PagePreview.Machine
open Script Run

variable {s t : State} {c : Context} {e : Expr} {n m k : Nat} {v : Value}
  {Q : Array Object → Value → Prop}

/-- The expression has a value as `Q` says, with room for `n`, in all states around `s` in which the
objects of `s` are still there. -/
structure Yields (n : Nat) (s : State) (c : Context) (e : Expr) (Q : Array Object → Value → Prop) : Prop where
  single : ∀ inner, e ≠ .spread inner
  stable : ∀ os os' v, Q os v → Extends os os' → Q os' v
  gives : ∀ t, Around s t → Extends s.objects t.objects →
    Gives n (evaluate c e) t fun v os => Q os v ∧ Extends t.objects os

theorem Yields.mono {Q' : Array Object → Value → Prop} (h : Yields n s c e Q) (le : n ≤ m)
    (weaker : ∀ os v, Q os v → Q' os v) (stable : ∀ os os' v, Q' os v → Extends os os' → Q' os' v) :
    Yields m s c e Q' where
  single := h.single
  stable := stable
  gives t around grown := (h.gives t around grown).mono le fun v os both => ⟨weaker os v both.1, both.2⟩

theorem Yields.more (h : Yields n s c e Q) (le : n ≤ m) : Yields m s c e Q :=
  h.mono le (fun _ _ hv => hv) h.stable

theorem Yields.step (h : Yields n s c e Q) (around : Around s t) (grown : Extends s.objects t.objects) :
    Yields n t c e Q where
  single := h.single
  stable := h.stable
  gives u around' grown' := h.gives u (around.trans around') (grown.trans grown')

theorem expression_identifier {name : String} (other : name ≠ "undefined") :
    expression c (.identifier name) = lookUp name c.scope := by
  rw [expression]
  rintro ⟨⟩
  exact other rfl

theorem yields_of_reads (single : ∀ inner, e ≠ .spread inner)
    (h : ∀ t, Around s t → Extends s.objects t.objects → Reads t (expression c e) v) :
    Yields 1 s c e fun _ w => w = v where
  single := single
  stable _ _ _ same _ := same
  gives t around grown := gives_evaluate (n := 0) ((h t around grown).gives ⟨rfl, .refl _⟩)

theorem yields_string (text : Str) (raw : String) :
    Yields 1 s c (.string text raw) fun _ w => w = .string text :=
  yields_of_reads (fun _ same => by cases same) fun _ _ _ => reads_pure _

theorem yields_null : Yields 1 s c .null fun _ w => w = .null :=
  yields_of_reads (fun _ same => by cases same) fun _ _ _ => reads_pure _

theorem yields_bool (b : Bool) : Yields 1 s c (.bool b) fun _ w => w = .bool b :=
  yields_of_reads (fun _ same => by cases same) fun _ _ _ => reads_pure _

theorem gives_evaluateHolding {P : Value → Array Object → Prop}
    (h : ∀ t, Around s t → t.objects = s.objects → Gives n (evaluate c e) t P) :
    Gives (n + k) (evaluateHolding k c e) s P := by
  unfold evaluateHolding
  split
  · exact (h s (.refl s) rfl).more (by omega)
  · exact gives_holding (h _ ⟨rfl, rfl⟩ rfl)

def AllYield (os : Array Object) (Qs : List (Array Object → Value → Prop)) (vs : List Value) : Prop :=
  List.Forall₂ (fun Q v => Q os v) Qs vs

theorem AllYield.extends {os os' : Array Object} {args : List Expr} {Qs : List (Array Object → Value → Prop)}
    {vs : List Value} (yields : List.Forall₂ (Yields n s c) args Qs) (h : AllYield os Qs vs)
    (more : Extends os os') : AllYield os' Qs vs := by
  induction yields generalizing vs with
  | nil =>
    cases h
    exact .nil
  | cons first rest ih =>
    cases h with
    | cons here later => exact .cons (first.stable _ _ _ here more) (ih later)

theorem AllYield.snoc {os : Array Object} {Qs : List (Array Object → Value → Prop)} {vs : List Value}
    (h : AllYield os Qs vs) (last : Q os v) : AllYield os (Qs ++ [Q]) (vs ++ [v]) := by
  induction h with
  | nil => exact .cons last .nil
  | cons here rest ih => exact .cons here ih

/-- Arguments are worked out from the first to the last, each while the values before it are put by. -/
theorem gives_argumentsFrom {args : List Expr} {Qs : List (Array Object → Value → Prop)}
    (yields : List.Forall₂ (Yields n s c) args Qs) :
    Gives (n + k + args.length) (argumentsFrom c k args) s fun out os =>
      AllYield os Qs out.toList ∧ Extends s.objects os := by
  have count : args.length = Qs.length := yields.length_eq
  have begun : AllYield s.objects (Qs.take 0) (#[] : Array Value).toList := .nil
  refine (gives_forIn (n := n + k + args.length) (I := fun i out os =>
    out.size = i ∧ AllYield os (Qs.take i) out.toList ∧ Extends s.objects os) ?_ ⟨rfl, begun, .refl _⟩).bind ?_
  · rintro i hi out t kept ⟨size, got, grown⟩
    have bound : i < Qs.length := count ▸ hi
    have here : Yields n s c args[i] Qs[i] := yields.get hi bound
    have inner : Gives (n + (k + out.size)) (evaluateHolding (k + out.size) c args[i]) t fun v os =>
        Qs[i] os v ∧ Extends t.objects os := by
      refine gives_evaluateHolding fun u around same => ?_
      exact same ▸ here.gives u (kept.around.trans around) (same ▸ grown)
    have single := here.single
    split
    · exact absurd ‹_› (single _)
    · refine (inner.more (by omega)).bind ?_
      rintro v u _ ⟨hv, more⟩
      refine gives_pure ⟨_, rfl, by simp [size], ?_, grown.trans more⟩
      have before : AllYield u.objects (Qs.take i) out.toList := got.extends ((List.forall₂_take i yields)) more
      rw [← List.take_append_getElem bound, Array.toList_push]
      exact before.snoc hv
  · rintro out t _ ⟨-, got, grown⟩
    refine gives_pure ⟨?_, grown⟩
    rwa [count, List.take_length] at got

structure Assigns (n : Nat) (s : State) (c : Context) (p : Expr) (name : String) (v : Value) : Prop where
  shape : ∃ key value, p = .property key false false value ∧
    (key = .identifier name ∨ ∃ raw, key = .string (.plain name) raw) ∧ isNameless value = false ∧
      Yields n s c value fun _ w => w = v
  other : name ≠ "__proto__"

theorem gives_objectProperty {base : Array Object} {id : Nat} {p : Expr} {name : String}
    {entries : List (String × Value)} (assigns : Assigns n s c p name v) (around : Around s t)
    (grown : Extends s.objects t.objects) (at_ : t.objects[id]? = some (record entries))
    (more : Extends base t.objects) (behind : base.size ≤ id) :
    Gives (n + 1) (objectProperty c id p) t fun _ os =>
      os[id]? = some (record (entries ++ [(name, v)])) ∧ Extends base os := by
  obtain ⟨⟨key, value, rfl, named, unnamed, yields⟩, other⟩ := assigns
  have keeps : setsPrototype key false false = false := by
    obtain rfl | ⟨raw, rfl⟩ := named
    · simp [setsPrototype, other]
    · simp [setsPrototype, other]
  have key_read : Reads t (keyOf c false key) (.named name) := by
    obtain rfl | ⟨raw, rfl⟩ := named
    · exact reads_pure _
    · exact reads_pure _
  have value_given : Gives (n + 1) (evaluateHolding 1 c value) t fun w os => w = v ∧ Extends t.objects os :=
    gives_evaluateHolding fun u around' same =>
      same ▸ yields.gives u (around.trans around') (same ▸ grown)
  unfold objectProperty
  dsimp only
  rw [keeps, unnamed]
  refine key_read.gives_bind (value_given.bind ?_)
  rintro _ u _ ⟨rfl, later⟩
  refine gives_update ⟨?_, (more.trans later).modify behind⟩
  rw [← record_append]
  exact modify_here (later id _ at_)

theorem yields_object {props : List Expr} {entries : List (String × Value)}
    (assigns : List.Forall₂ (fun p entry => Assigns n s c p entry.1 entry.2) props entries) :
    Yields (n + 2) s c (.object props) fun os v => ∃ id, v = .object id ∧ os[id]? = some (record entries) where
  single _ same := by cases same
  stable os os' v := by
    rintro ⟨id, same, at_⟩ more
    exact ⟨id, same, more id _ at_⟩
  gives t around grown := by
    refine gives_evaluate (n := n + 1) ?_
    refine (gives_allocate (P := fun id os => id = t.objects.size ∧ os = t.objects.push (record [])) ⟨rfl, rfl⟩).bind ?_
    rintro id u kept ⟨rfl, objects⟩
    have first : u.objects[t.objects.size]? = some (record []) := objects ▸ push_last _ _
    have more : Extends t.objects u.objects := objects ▸ extends_push _ _
    have count : props.length = entries.length := assigns.length_eq
    refine (gives_forIn (n := n + 1) (I := fun i _ os =>
      os[t.objects.size]? = some (record (entries.take i)) ∧ Extends t.objects os) ?_ ⟨first, more⟩).bind ?_
    · rintro i hi _ w kept' ⟨at_, more'⟩
      have bound : i < entries.length := count ▸ hi
      have here : Assigns n s c props[i] entries[i].1 entries[i].2 := assigns.get hi bound
      refine (gives_objectProperty here (around.trans (kept.around.trans kept'.around)) (grown.trans more') at_
        more' (Nat.le_refl _)).bind ?_
      rintro _ x _ ⟨at', more''⟩
      refine gives_pure ⟨_, rfl, ?_, more''⟩
      rw [at', List.take_append_getElem]
    · rintro _ w _ ⟨at_, more'⟩
      refine gives_pure ⟨⟨_, rfl, ?_⟩, more'⟩
      rw [at_, count, List.take_length]

end PagePreview.Machine
