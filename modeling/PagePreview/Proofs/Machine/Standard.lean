import PagePreview.Proofs.Machine.Heap

/-!
# The built-in objects that rendering rests on

A page may redefine what it is rendered by. `Ready` says that it has not: the constructors, methods
and functions of the handle that the renderer reaches are those of the machine, and no object has
been given names that the renderer asks for.
-/

namespace PagePreview.Machine
open Script Run Builtin

variable {s t : State} {os os' : Array Object} {id : Nat} {k : Key} {v : Value} {family : Family}
  {name title : String}

/-- The object at a place has a value under a key. -/
def Owns (os : Array Object) (id : Nat) (k : Key) (v : Value) : Prop :=
  ∃ o w e c, Ordinary os id o ∧ o.ownProperty? k = some (.data v w e c)

/-- The value is a built-in function of the family. -/
def IsFunction (os : Array Object) (v : Value) (family : Family) (title : String) : Prop :=
  ∃ id o captured isConstructor, v = .object id ∧ os[id]? = some o ∧
    o.kind = .native ⟨family, title, captured, isConstructor⟩

/-- The object at a place has a built-in function under a name. -/
def Answers (os : Array Object) (owner : Intrinsic) (name : String) (family : Family) (title : String) :
    Prop :=
  ∃ v, Owns os owner.id (.named name) v ∧ IsFunction os v family title

/-- The object at a place lacks some names, and so do the objects behind it that are not the first
of all. -/
def Lacks (os : Array Object) (id : Nat) (names : List String) : Prop :=
  ∃ o, Ordinary os id o ∧ o.proto = some Intrinsic.objectPrototype.id ∧
    ∀ name ∈ names, o.ownProperty? (.named name) = none

theorem Owns.extends (h : Owns os id k v) (more : Extends os os') : Owns os' id k v := by
  obtain ⟨o, w, e, c, at_, own⟩ := h
  exact ⟨o, w, e, c, at_.extends more, own⟩

theorem IsFunction.extends (h : IsFunction os v family title) (more : Extends os os') :
    IsFunction os' v family title := by
  obtain ⟨id, o, captured, isConstructor, same, at_, kind⟩ := h
  exact ⟨id, o, captured, isConstructor, same, more id o at_, kind⟩

theorem Answers.extends {owner : Intrinsic} (h : Answers os owner name family title)
    (more : Extends os os') : Answers os' owner name family title := by
  obtain ⟨v, owns, function⟩ := h
  exact ⟨v, owns.extends more, function.extends more⟩

theorem Lacks.extends {names : List String} (h : Lacks os id names) (more : Extends os os') :
    Lacks os' id names := by
  obtain ⟨o, at_, proto, own⟩ := h
  exact ⟨o, at_.extends more, proto, own⟩

def inbornNames : List String := "constructor" :: "__proto__" :: objectMethods.map Prod.fst

/-- The first object of all has only the names that every object answers to. -/
def Bare (os : Array Object) : Prop :=
  ∃ o, Ordinary os Intrinsic.objectPrototype.id o ∧ o.proto = none ∧
    ∀ name, name ∉ inbornNames → o.ownProperty? (.named name) = none

theorem Bare.extends (h : Bare os) (more : Extends os os') : Bare os' := by
  obtain ⟨o, at_, proto, own⟩ := h
  exact ⟨o, at_.extends more, proto, own⟩

/-- The objects that a page is rendered by are those of the machine. -/
structure Standard (os : Array Object) : Prop where
  bare : Bare os
  textNames : Lacks os Intrinsic.stringPrototype.id ["$$typeof", "defaultProps"]
  symbolNames : Lacks os Intrinsic.symbolPrototype.id ["$$typeof", "defaultProps"]
  objects : Owns os Intrinsic.globalObject.id (.named "Object") Intrinsic.objectConstructor.value
  lists : Owns os Intrinsic.globalObject.id (.named "Array") Intrinsic.arrayConstructor.value
  texts : Answers os .globalObject "String" .string "constructor"
  keys : Answers os .objectConstructor "keys" .object "keys"
  isArray : Answers os .arrayConstructor "isArray" .array "isArray"
  forEach : Answers os .arrayPrototype "forEach" .array "forEach"
  map : Answers os .arrayPrototype "map" .array "map"
  join : Answers os .arrayPrototype "join" .array "join"
  replace : Answers os .stringPrototype "replace" .string "replace"
  createElement : Answers os .handle "createElement" .page "createElement"
  renderToString : Answers os .handle "renderToString" .page "renderToString"
  fragment : Owns os Intrinsic.handle.id (.named "Fragment") (markSymbol .fragment)
  renderNode : IsFunction os Intrinsic.pageRenderNode.value .page "renderNode"

theorem Standard.extends (h : Standard os) (more : Extends os os') : Standard os' where
  bare := h.bare.extends more
  textNames := h.textNames.extends more
  symbolNames := h.symbolNames.extends more
  objects := h.objects.extends more
  lists := h.lists.extends more
  texts := h.texts.extends more
  keys := h.keys.extends more
  isArray := h.isArray.extends more
  forEach := h.forEach.extends more
  map := h.map.extends more
  join := h.join.extends more
  replace := h.replace.extends more
  createElement := h.createElement.extends more
  renderToString := h.renderToString.extends more
  fragment := h.fragment.extends more
  renderNode := h.renderNode.extends more

/-- The scope behind all others has no variable of that name, and so it is a global property. -/
def Unshadowed (scopes : Array Machine.Scope) (name : String) : Prop :=
  ∃ sc, scopes[globalScope]? = some sc ∧ sc.outer = none ∧ sc.object = none ∧
    findVariable sc.vars name 0 = none

/-- A state in which pages are rendered by the machine's own functions. -/
structure Ready (s : State) : Prop where
  standard : Standard s.objects
  globals : ∀ name ∈ ["Object", "Array", "String"], Unshadowed s.scopes name
  joining : ∀ id ∈ s.joining, id < s.objects.size

theorem Ready.step (h : Ready s) (around : Around s t) (more : Extends s.objects t.objects) : Ready t where
  standard := h.standard.extends more
  globals := by
    rw [around.scopes]
    exact h.globals
  joining := by
    rw [around.joining]
    exact fun id mem => Nat.lt_of_lt_of_le (h.joining id mem) more.size_le

theorem Owns.reads {r : Value} (h : Owns s.objects id k v) : Reads s (getFrom id k r) v := by
  obtain ⟨o, w, e, c, at_, own⟩ := h
  exact (at_.finds own).reads

theorem IsFunction.reads (h : IsFunction s.objects v family title) :
    Reads s (isBuiltin v family title) true := by
  obtain ⟨id, o, captured, isConstructor, rfl, at_, kind⟩ := h
  refine (reads_objectAt id).bind ?_
  rw [object_of_place at_, kind]
  have same : (family == family && title == title) = true := by simp
  exact same ▸ reads_pure _

theorem Bare.finds_nothing (h : Bare s.objects) (other : name ∉ inbornNames) :
    Finds s Intrinsic.objectPrototype.id (.named name) .missing := by
  obtain ⟨o, at_, proto, own⟩ := h
  exact at_.finds_nothing (own name other) proto

theorem Lacks.finds_nothing {names : List String} (h : Lacks s.objects id names) (bare : Bare s.objects)
    (mem : name ∈ names) (other : name ∉ inbornNames) : Finds s id (.named name) .missing := by
  obtain ⟨o, at_, proto, own⟩ := h
  obtain ⟨o', at_', last, own'⟩ := bare
  exact at_.finds_nothing_behind (own name mem) proto at_' (own' name other) last

theorem findVariable_nil : findVariable #[] name 0 = none := by
  rw [findVariable]
  rfl

theorem findVariable_other {other : String} {x : Variable} (apart : other ≠ name) :
    findVariable #[(other, x)] name 0 = none := by
  have different : (other == name) = false := by simpa using apart
  rw [findVariable, dif_pos (show 0 < #[(other, x)].size from Nat.one_pos)]
  change (if (other == name) = true then _ else _) = none
  rw [different, findVariable]
  rfl

theorem findVariable_here {x : Variable} : findVariable #[(name, x)] name 0 = some 0 := by
  rw [findVariable, dif_pos (show 0 < #[(name, x)].size from Nat.one_pos)]
  exact if_pos (beq_self_eq_true name)

theorem locate_beyond {fuel : Nat} {scope : Machine.Scope} (at_ : s.scopes[id]? = some scope)
    (free : findVariable scope.vars name 0 = none) (object : scope.object = none) :
    s.locate name (fuel + 1) id = scope.outer.elim .global (s.locate name fuel) := by
  rw [State.locate, at_]
  dsimp only
  rw [free, object]
  cases scope.outer <;> rfl

theorem reads_locate_global {scope : Nat} (located : s.locate name s.scopes.size scope = .global) :
    Reads s (locate name scope) .global := by
  have within : ∀ fuel, Reads s (locateWithin (fuel + 1) name scope) .global := by
    intro fuel
    rw [locateWithin]
    refine reads_get.bind ?_
    rw [located]
    exact reads_pure _
  exact within 999

theorem Unshadowed.reads_locate (h : Unshadowed s.scopes name) :
    Reads s (locate name globalScope) .global := by
  obtain ⟨sc, at_, outer, object, vars⟩ := h
  refine reads_locate_global ?_
  cases s.scopes.size with
  | zero => rfl
  | succ n =>
    rw [State.locate, at_]
    dsimp only
    rw [vars, outer, object]

theorem Owns.reads_lookUp {scope : Nat} (h : Owns s.objects Intrinsic.globalObject.id (.named name) v)
    (located : Reads s (locate name scope) .global) : Reads s (lookUp name scope) v := by
  obtain ⟨o, w, e, c, at_, own⟩ := h
  refine located.bind ?_
  have value : Reads s (valueAt? name .global) (some v) := by
    refine reads_get.bind ?_
    rw [show s.find _ s.objects.size _ = _ from at_.finds own]
    exact reads_pure _
  exact value.bind (reads_pure v)

theorem Owns.reads_global (h : Owns s.objects Intrinsic.globalObject.id (.named name) v)
    (plain : Unshadowed s.scopes name) : Reads s (lookUp name globalScope) v :=
  h.reads_lookUp plain.reads_locate

theorem reads_globalMember {owner : Intrinsic} {title : String} {f : Value}
    (plain : Unshadowed s.scopes title)
    (global : Owns s.objects Intrinsic.globalObject.id (.named title) owner.value)
    (member : Owns s.objects owner.id (.named name) f) :
    Reads s (globalMember title name) (owner.value, f) := by
  refine (global.reads_global plain).bind ?_
  have value : Reads s (getValue owner.value (.named name)) f := member.reads
  exact value.bind (reads_pure _)

end PagePreview.Machine
