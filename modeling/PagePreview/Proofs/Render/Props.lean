import PagePreview.Proofs.Render.Element
import PagePreview.Proofs.Machine.Assign

/-!
# Elements of any configuration

What `createElement` makes of a configuration with any names: its properties, but for the key and the
reference, which become those of the element, and the children that were passed, which stand in place
of a property of that name.
-/

namespace PagePreview.Render
open Script Machine Builtin

variable {s t w : State} {os os' : Array Object} {n id pid : Nat} {o : Object} {config type key : Value}
  {given f : Key → Option Value} {I : Array Object → Prop} {vs : List Value} {text : Str} {names : List Str}

def isReserved (k : Key) : Bool := k == .named "key" || k == .named "ref"

/-- The properties of an element, from those of a configuration and what stands for its children. -/
def propsOf (given : Key → Option Value) (children : Option Value) : Key → Option Value :=
  let rest := fun k => if isReserved k then none else given k
  match children with
  | none => rest
  | some v => Function.update rest (.named "children") (some v)

/-- The key of an element; `text` is what the given one becomes. -/
def keyOf (given : Key → Option Value) (text : Str) : Value :=
  match given (.named "key") with
  | none => .null
  | some v => if v.isNullish then .null else .string text

def refOf (given : Key → Option Value) : Value := (given (.named "ref")).getD .null

/-- What stands for children: one child itself, several as a list, nothing for none. -/
def StandsFor (os : Array Object) : List Value → Option Value → Prop
  | [], w => w = none
  | [child], w => w = some child
  | children, w => ∃ id, w = some (.object id) ∧ os[id]? = some (listOf children)

/-- The value is an element with this type, key, reference and properties. -/
def IsElement (os : Array Object) (v type key ref : Value) (props : Key → Option Value) : Prop :=
  ∃ id pid o, v = .object id ∧ Holds o props ∧ os[pid]? = some o ∧
    os[id]? = some (record [("$$typeof", markSymbol .element), ("type", type), ("key", key), ("ref", ref),
      ("props", .object pid)])

/-- The type has no properties that others take when they are not given. -/
def LacksDefaults (s : State) (type : Value) : Prop :=
  type.isTrue = true → ∃ d, d.isTrue = false ∧ Reads s (renderHost.prop type "defaultProps") d

/-- As long as `I` holds, rendering rests on the machine's own objects and the type has no defaults;
and it holds whatever becomes of objects made later than `w`. -/
structure Lasting (w : State) (I : Array Object → Prop) (type : Value) : Prop where
  ready : ∀ t, Around w t → I t.objects → Ready t
  assignable : ∀ os, I os → Assignable os
  lacks : ∀ t, Around w t → I t.objects → LacksDefaults t type
  size : ∀ os, I os → w.objects.size ≤ os.size
  later : ∀ os os', I os → os.size ≤ os'.size → (∀ j < w.objects.size, os'[j]? = os[j]?) → I os'

structure IsGiven (I : Array Object → Prop) (config : Value) (given : Key → Option Value) : Prop where
  shape : (config = .null ∧ given = fun _ => none) ∨
    ∃ id o, config = .object id ∧ Holds o given ∧ ∀ os, I os → os[id]? = some o
  texts : ∀ k v, given k = some v → ∃ name, k = .text name
  plain : given (.named "__proto__") = none

/-- The value becomes a text, by a step that keeps `I` and leaves alone what was made meanwhile. -/
def BecomesText (n : Nat) (w : State) (I : Array Object → Prop) (v : Value) (text : Str) : Prop :=
  ∀ t, Around w t → I t.objects → Gives n (renderHost.addedText v) t fun s os => s = text ∧ I os ∧
    ∀ j o, w.objects.size ≤ j → t.objects[j]? = some o → os[j]? = some o

theorem Lasting.push (lasting : Lasting w I type) (holds : I os) (o : Object) : I (os.push o) := by
  have size := lasting.size _ holds
  apply lasting.later _ _ holds
  · simp
  · intro j hj
    rw [Array.getElem?_push_lt (by omega), Array.getElem?_eq_getElem (by omega)]

theorem Lasting.modify (lasting : Lasting w I type) (holds : I os) (behind : w.objects.size ≤ id)
    (g : Object → Object) : I (os.modify id g) := by
  apply lasting.later _ _ holds
  · simp
  · intro j hj
    rw [Array.getElem?_modify, if_neg (by omega)]

/-- Tags and symbols have no defaults, and objects that are only added to stay as they are. -/
theorem lasting_extends (ready : Ready w) (assignable : Assignable w.objects) (simple : IsSimple type) :
    Lasting w (Extends w.objects) type where
  ready _ around more := ready.step around more
  assignable _ more := assignable.extends more
  lacks _ around more _ := ⟨.undefined, rfl, reads_simpleType (ready.step around more) simple (by simp)⟩
  size _ more := more.size_le
  later os os' more _ same := by
    intro id o there
    rw [same id (size_of_place there)]
    exact more id o there

theorem becomesText_plain (text : String) : BecomesText n w (Extends w.objects) (.text text) (.plain text) := by
  intro t _ more
  have added : Reads t (renderHost.addedText (.text text)) (.plain text) := by
    intro e
    exact congrArg (fun text => EStateM.Result.ok (Str.plain text) t) String.empty_append
  exact added.gives ⟨rfl, more, fun _ _ _ there => there⟩

def copied (given : Key → Option Value) (names : List Str) : Key → Option Value := fun k =>
  if ∃ name ∈ names, k = .text name ∧ isReserved k = false then given k else none

theorem copied_nil : copied given [] = fun _ => none := by
  funext k
  simp [copied]

theorem copied_reserved {name : Str} (reserved : isReserved (.text name) = true) :
    copied given (names ++ [name]) = copied given names := by
  funext k
  unfold copied
  congr 1
  apply propext
  constructor
  · rintro ⟨n, mem, rfl, free⟩
    rcases List.mem_append.mp mem with mem | mem
    · exact ⟨n, mem, rfl, free⟩
    · rw [List.mem_singleton.mp mem, reserved] at free
      cases free
  · rintro ⟨n, mem, rest⟩
    exact ⟨n, List.mem_append_left _ mem, rest⟩

theorem copied_next {name : Str} {v : Value} (free : isReserved (.text name) = false)
    (there : given (.text name) = some v) :
    copied given (names ++ [name]) = Function.update (copied given names) (.text name) (some v) := by
  funext k
  by_cases same : k = .text name
  · rw [same, Function.update_self, copied, if_pos ⟨name, by simp, rfl, free⟩, there]
  · rw [Function.update_of_ne same, copied, copied]
    congr 1
    apply propext
    constructor
    · rintro ⟨n, mem, rfl, rest⟩
      rcases List.mem_append.mp mem with mem | mem
      · exact ⟨n, mem, rfl, rest⟩
      · exact absurd (congrArg Key.text (List.mem_singleton.mp mem)) same
    · rintro ⟨n, mem, rest⟩
      exact ⟨n, List.mem_append_left _ mem, rest⟩

theorem copied_all (all : ∀ name, name ∈ names ↔ (given (.text name)).isSome)
    (texts : ∀ k v, given k = some v → ∃ name, k = .text name) : copied given names = propsOf given none := by
  funext k
  rw [copied, propsOf]
  cases reserved : isReserved k with
  | true => simp [reserved]
  | false =>
    cases value : given k with
    | none => simp [reserved, value]
    | some v =>
      obtain ⟨name, rfl⟩ := texts k v value
      have mem : name ∈ names := (all name).mpr (by rw [value]; rfl)
      rw [if_pos ⟨name, mem, rfl, rfl⟩]
      simp [reserved, value]

def identityOf (given : Key → Option Value) (text : Str) (names : List Str) : Identity Value where
  key := if .plain "key" ∈ names then keyOf given text else .null
  ref := if .plain "ref" ∈ names then refOf given else .null

theorem identityOf_all (all : ∀ name, name ∈ names ↔ (given (.text name)).isSome) :
    identityOf given text names = ⟨keyOf given text, refOf given⟩ := by
  unfold identityOf
  congr 1
  · split
    · rfl
    · rename_i absent
      rw [all] at absent
      have none_given : given (.named "key") = none := Option.not_isSome_iff_eq_none.mp absent
      rw [keyOf, none_given]
  · split
    · rfl
    · rename_i absent
      rw [all] at absent
      have none_given : given (.named "ref") = none := Option.not_isSome_iff_eq_none.mp absent
      rw [refOf, none_given]
      rfl

theorem identityOf_key : identityOf given text (names ++ [.plain "key"]) =
    { identityOf given text names with key := keyOf given text } := by
  simp [identityOf]

theorem identityOf_ref : identityOf given text (names ++ [.plain "ref"]) =
    { identityOf given text names with ref := refOf given } := by
  simp [identityOf]

theorem identityOf_other {name : Str} (free : isReserved (.text name) = false) :
    identityOf given text (names ++ [name]) = identityOf given text names := by
  rw [isReserved, Bool.or_eq_false_iff, beq_eq_false_iff_ne, beq_eq_false_iff_ne] at free
  have not_key : Str.plain "key" ≠ name := fun same => free.1 (congrArg Key.text same.symm)
  have not_ref : Str.plain "ref" ≠ name := fun same => free.2 (congrArg Key.text same.symm)
  simp [identityOf, not_key, not_ref]

theorem reads_isNullish (v : Value) : Reads s (renderHost.isNullish v) v.isNullish := by
  cases v with
  | object id =>
    have shape : Reads s (shapeOf (.object id)) (if s.isCallable (.object id) then .function else .object) :=
      reads_get.bind (reads_pure _)
    have object : (if s.isCallable (.object id) then Shape.function else .object).isNullish = false := by
      split <;> rfl
    exact shape.bind (object ▸ reads_pure _)
  | _ => exact (reads_pure _).bind (reads_pure _)

theorem gives_copyNames (lasting : Lasting w I type) (around : Around w s) (holds : I s.objects)
    (supplied : IsGiven I config given) (converts : ∀ v, given (.named "key") = some v → v.isNullish = false →
      BecomesText n w I v text)
    (at_ : s.objects[pid]? = some (record [])) (behind : w.objects.size ≤ pid) :
    Gives (n + 6) (copyProperties renderHost true config (.object pid) ⟨.null, .null⟩) s fun who os =>
      who = ⟨keyOf given text, refOf given⟩ ∧ I os ∧
        ∃ o, os[pid]? = some o ∧ Holds o (propsOf given none) := by
  obtain ⟨rfl, rfl⟩ | ⟨id, c, rfl, config_holds, config_at⟩ := supplied.shape
  · have nothing : propsOf (fun _ => none) none = fun _ => none := by
      funext k
      simp [propsOf]
    exact gives_pure ⟨rfl, holds, record [], at_, by rw [nothing]; exact holds_empty⟩
  have ready := lasting.ready s around holds
  have place := config_at _ holds
  refine (reads_isNullish _).gives_bind ?_
  have listed (t : State) (same : t.objects = s.objects) :
      Reads t (listedNames id) (c.names.map Key.text).toArray :=
    config_holds.reads_listedNames (same ▸ place)
  have size := size_of_place at_
  refine (gives_foldListed (n := n) (I := fun i who os => who = identityOf given text (c.names.take i) ∧ I os ∧
    os[s.objects.size]? = some (listOf (c.names.map Value.string)) ∧
      ∃ o, os[pid]? = some o ∧ Holds o (copied given (c.names.take i)))
    listed ready (fun i who os reached => reached.2.2.1) ?begun ?step).mono (Nat.le_refl _) ?all
  case begun =>
    refine ⟨rfl, lasting.push holds _, push_last _ _, record [], extends_push _ _ pid _ at_, ?_⟩
    rw [List.take_zero, copied_nil]
    exact holds_empty
  case all =>
    rintro who os ⟨rfl, keeps, -, o, props, copied_holds⟩
    rw [List.take_length] at copied_holds ⊢
    rw [copied_all config_holds.mem_names supplied.texts] at copied_holds
    exact ⟨identityOf_all config_holds.mem_names, keeps, o, props, copied_holds⟩
  case step =>
    rintro i hi _ t around' ⟨rfl, keeps, list, o, props, copied_holds⟩
    rw [← List.take_append_getElem hi]
    obtain ⟨v, there⟩ := Option.isSome_iff_exists.mp
      ((config_holds.mem_names _).mp (List.getElem_mem hi))
    have value : Reads t (renderHost.get (.object id) c.names[i]) v :=
      config_holds.reads (config_at _ keeps) there _
    generalize c.names[i] = name at there value ⊢
    have apart : s.objects.size ≠ pid := Nat.ne_of_gt size
    by_cases key : name = .plain "key"
    · subst key
      rw [identityOf_key, copied_reserved rfl]
      have known : keyOf given text = if v.isNullish then .null else .string text := by
        rw [keyOf, show given (.named "key") = some v from there]
      rw [known]
      refine value.gives_bind ((reads_isNullish v).gives_bind ?_)
      cases nullish : v.isNullish with
      | true => exact gives_pure ⟨rfl, keeps, list, o, props, copied_holds⟩
      | false =>
        refine value.gives_bind ((converts v there nullish t (around.trans around') keeps).bind ?_)
        rintro _ u _ ⟨rfl, keeps', others⟩
        have behind' : w.objects.size ≤ s.objects.size := lasting.size _ holds
        exact gives_pure ⟨rfl, keeps', others _ _ behind' list, o, others _ _ behind props, copied_holds⟩
    by_cases ref : name = .plain "ref"
    · subst ref
      rw [identityOf_ref, copied_reserved rfl]
      have known : refOf given = v := by
        rw [refOf, show given (.named "ref") = some v from there]
        rfl
      rw [known]
      exact value.gives_bind (gives_pure ⟨rfl, keeps, list, o, props, copied_holds⟩)
    have free : isReserved (.text name) = false := by
      simp [isReserved, Key.named, key, ref]
    have not_key : (name == .plain "key") = false := by simpa using key
    have not_ref : (name == .plain "ref") = false := by simpa using ref
    rw [not_key, not_ref, identityOf_other free, copied_next free there]
    refine value.gives_bind ?_
    have other : Key.text name ≠ .named "__proto__" := by
      intro same
      rw [same, supplied.plain] at there
      cases there
    refine (gives_assign (P := fun _ os => os = t.objects.modify pid (·.store (.text name) (.plain v)))
      copied_holds props (lasting.assignable _ keeps) other rfl).bind ?_
    rintro _ u _ objects
    refine gives_pure ⟨rfl, ?_⟩
    rw [objects]
    exact ⟨lasting.modify keeps behind _, modify_there (Ne.symm apart) list, _, modify_here props,
      copied_holds.store _ v⟩

theorem gives_setChildren (lasting : Lasting w I type) (holds : I s.objects) (at_ : s.objects[pid]? = some o)
    (props : Holds o (propsOf given none)) (behind : w.objects.size ≤ pid) (vs : List Value) :
    Gives n (giveChildren renderHost (.object pid) vs) s fun _ os => I os ∧ ∃ children o, StandsFor os vs children ∧
      os[pid]? = some o ∧ Holds o (propsOf given children) := by
  have other : Key.named "children" ≠ .named "__proto__" := by decide
  match vs with
  | [] => exact gives_pure ⟨holds, none, o, rfl, at_, props⟩
  | [child] =>
    refine (gives_assign (P := fun _ os => os = s.objects.modify pid (·.store (.named "children") (.plain child)))
      props at_ (lasting.assignable _ holds) other rfl).mono (Nat.le_refl _) ?_
    rintro _ os rfl
    exact ⟨lasting.modify holds behind _, some child, _, rfl, modify_here at_, props.store _ child⟩
  | first :: second :: rest =>
    refine Gives.bind (P := fun v os => v = .object s.objects.size ∧
      os = s.objects.push (listOf (first :: second :: rest))) ?_ ?_
    · exact (gives_allocate (P := fun new os => new = s.objects.size ∧ os = s.objects.push _) ⟨rfl, rfl⟩).bind
        fun new t _ there => gives_pure ⟨by rw [there.1], there.2⟩
    · rintro _ t _ ⟨rfl, objects⟩
      have keeps : I t.objects := objects ▸ lasting.push holds _
      have there : t.objects[pid]? = some o := objects ▸ extends_push _ _ pid _ at_
      have list : t.objects[s.objects.size]? = some (listOf (first :: second :: rest)) := objects ▸ push_last _ _
      refine (gives_assign (P := fun _ os => os = t.objects.modify pid (·.store (.named "children")
        (.plain (.object s.objects.size)))) props there (lasting.assignable _ keeps) other rfl).mono (Nat.le_refl _) ?_
      rintro _ os rfl
      refine ⟨lasting.modify keeps behind _, some _, _, ⟨_, rfl, ?_⟩, modify_here there, props.store _ _⟩
      exact modify_there (Nat.ne_of_lt (size_of_place at_)) list

theorem reads_noDefaults (lacks : LacksDefaults s type) (props : Value) :
    Reads s (giveDefaults renderHost type props) () := by
  unfold giveDefaults
  cases truth : type.isTrue with
  | false =>
    rw [show renderHost.isTrue type = false from truth]
    exact reads_pure _
  | true =>
    obtain ⟨d, untrue, default_⟩ := lacks truth
    rw [show renderHost.isTrue type = true from truth]
    have asked : Reads s (renderHost.isTrue <$> renderHost.prop type "defaultProps") (renderHost.isTrue d) :=
      default_.map
    rw [show renderHost.isTrue d = false from untrue] at asked
    exact asked.bind (reads_pure _)

theorem StandsFor.extends {children : Option Value} (h : StandsFor os vs children) (more : Extends os os') :
    StandsFor os' vs children := by
  match vs, h with
  | [], h => exact h
  | [_], h => exact h
  | _ :: _ :: _, ⟨id, same, at_⟩ => exact ⟨id, same, more id _ at_⟩

theorem gives_element (lasting : Lasting w I type) (holds : I w.objects) (supplied : IsGiven I config given)
    (converts : ∀ v, given (.named "key") = some v → v.isNullish = false → BecomesText n w I v text)
    (around : Around w s) (same : s.objects = w.objects) (vs : List Value) :
    Gives (n + 6) (createElement renderHost type config vs) s fun v os => I os ∧ ∃ children, StandsFor os vs children ∧
      IsElement os v type (keyOf given text) (refOf given) (propsOf given children) := by
  refine (gives_newRecord []).bind ?_
  rintro _ t kept ⟨rfl, objects⟩
  have keeps : I t.objects := objects ▸ same ▸ lasting.push holds _
  have behind : w.objects.size ≤ s.objects.size := Nat.le_of_eq (congrArg Array.size same.symm)
  refine (gives_copyNames lasting (around.trans kept.around) keeps supplied converts
    (objects ▸ push_last _ _) behind).bind ?_
  rintro _ u kept' ⟨rfl, keeps', o, at_, props⟩
  refine (gives_setChildren lasting keeps' at_ props behind vs).bind ?_
  rintro _ x kept'' ⟨keeps'', children, o', stands, there, props'⟩
  have lacks := lasting.lacks x (around.trans (kept.around.trans (kept'.around.trans kept''.around))) keeps''
  refine (reads_noDefaults lacks _).gives_bind ?_
  refine (gives_newRecord _).mono (Nat.le_refl _) ?_
  rintro _ os ⟨rfl, objects'⟩
  have last : Extends x.objects os := objects' ▸ extends_push _ _
  refine ⟨objects' ▸ lasting.push keeps'' _, children, stands.extends last, x.objects.size, s.objects.size, o', rfl,
    props', last _ _ there, ?_⟩
  rw [objects']
  exact push_last _ _

theorem gives_callElement {create : Value} (this : Value) (lasting : Lasting w I type) (holds : I w.objects)
    (supplied : IsGiven I config given)
    (converts : ∀ v, given (.named "key") = some v → v.isNullish = false → BecomesText n w I v text)
    (function : IsFunction w.objects create .page "createElement") (vs : List Value) :
    Gives (vs.length + n + 12) (Run.call create this (type :: config :: vs).toArray) w fun v os => I os ∧
      ∃ children, StandsFor os vs children ∧
        IsElement os v type (keyOf given text) (refOf given) (propsOf given children) := by
  refine (gives_pageCall (n := n + 6) function (by decide) fun captured isConstructor => ?_).more ?_
  · rw [pageResult_createElement]
    exact gives_element lasting holds supplied converts (around_entered _ w) rfl vs
  · simp
    omega

end PagePreview.Render
