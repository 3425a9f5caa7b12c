import PagePreview.Machine.Realm
import PagePreview.Proofs.Machine.Standard

/-!
# The store before any script runs

What an object has is read off the plan by which the store was filled, from the last act back. The
plan is worked out once for all the built-in objects that rendering rests on.
-/

namespace PagePreview.Machine
open Script Builtin

namespace Realm

variable {id : Nat} {k : Key} {os : Array Object} {acts : List Act} {p : Plan}

def blueprint (id : Nat) : List Act → Blueprint
  | [] => { proto := none }
  | .put i b :: acts => if i = id then b else blueprint id acts
  | _ :: acts => blueprint id acts

def member? (id : Nat) (k : Key) : List Act → Option Property
  | [] => none
  | .put i b :: acts => if i = id then b.members.reverse.lookup k else member? id k acts
  | .give i k' p :: acts => if i = id ∧ k = k' then some p else member? id k acts
  | .share i n j k' :: acts =>
    if j = id ∧ k = k' then (member? i n acts).or (member? id k acts) else member? id k acts

def given (id : Nat) : List Act → List Key
  | [] => []
  | .put i b :: acts => if i = id then b.members.map Prod.fst else given id acts
  | .give i k _ :: acts => if i = id then k :: given id acts else given id acts
  | .share _ _ j k :: acts => if j = id then k :: given id acts else given id acts

theorem member?_eq_none (h : k ∉ given id acts) : member? id k acts = none := by
  induction acts with
  | nil => rfl
  | cons a acts ih =>
    cases a with
    | put i b =>
      simp only [given, member?] at h ⊢
      split at h
      · rename_i same
        rw [if_pos same]
        exact Properties.lookup_eq_none fun mem => h (by simpa using mem)
      · rename_i other
        rw [if_neg other]
        exact ih h
    | give i k' q =>
      simp only [given, member?] at h ⊢
      split at h
      · rename_i same
        rw [List.mem_cons, not_or] at h
        rw [if_neg fun both => h.1 both.2]
        exact ih h.2
      · rename_i other
        rw [if_neg fun both => other both.1]
        exact ih h
    | share i n j k' =>
      simp only [given, member?] at h ⊢
      split at h
      · rename_i same
        rw [List.mem_cons, not_or] at h
        rw [if_neg fun both => h.1 both.2]
        exact ih h.2
      · rename_i other
        rw [if_neg fun both => other both.1]
        exact ih h

theorem get?_ofList_last (entries : List (Key × Property)) (k : Key) :
    (Properties.ofList entries).get? k = entries.reverse.lookup k := by
  induction entries using List.reverseRecOn with
  | nil => exact Properties.Sound.empty.get?_eq k
  | append_singleton entries entry ih =>
    rw [Properties.ofList_append, (Properties.sound_ofList entries).get?_insert, ih,
      List.reverse_append, List.reverse_singleton, List.singleton_append, List.lookup_cons]
    by_cases asked : k = entry.1
    · rw [if_pos asked, asked, BEq.rfl]
    · have other : (k == entry.1) = false := by simpa using asked
      rw [if_neg asked, other]

structure Left (acts : List Act) (id : Nat) (o : Object) : Prop where
  proto : o.proto = (blueprint id acts).proto
  kind : o.kind = (blueprint id acts).kind
  sound : o.properties.Sound
  members : ∀ k, o.properties.get? k = member? id k acts

theorem Left.insert {o : Object} {q : Property} {a : Act} (h : Left acts id o)
    (same : blueprint id (a :: acts) = blueprint id acts)
    (members : ∀ k', member? id k' (a :: acts) = if k' = k then some q else member? id k' acts) :
    Left (a :: acts) id { o with properties := o.properties.insert k q } where
  proto := same ▸ h.proto
  kind := same ▸ h.kind
  sound := h.sound.insert k q
  members k' := by rw [h.sound.get?_insert, h.members, members]

theorem Left.skip {o : Object} {a : Act} (h : Left acts id o)
    (same : blueprint id (a :: acts) = blueprint id acts)
    (members : ∀ k, member? id k (a :: acts) = member? id k acts) : Left (a :: acts) id o where
  proto := same ▸ h.proto
  kind := same ▸ h.kind
  sound := h.sound
  members k := by rw [h.members, members]

def sharesWithin (size : Nat) (acts : List Act) : Bool :=
  acts.all fun
    | .share owner _ _ _ => owner < size
    | _ => true

theorem left_object {size : Nat} (shares : sharesWithin size acts = true) (h : id < size) :
    ∃ o, (acts.foldr (fun act os => act.apply os) (Array.replicate size default))[id]? = some o ∧
      Left acts id o := by
  induction acts generalizing id with
  | nil => exact ⟨default, by simp [h], rfl, rfl, .empty, Properties.Sound.empty.get?_eq⟩
  | cons a acts ih =>
    rw [sharesWithin, List.all_cons, Bool.and_eq_true] at shares
    obtain ⟨here, shares⟩ := shares
    obtain ⟨o, at_, left⟩ := ih shares h
    rw [List.foldr_cons]
    cases a with
    | put i b =>
      by_cases same : i = id
      · refine ⟨b.object, ?_, ?_⟩
        · rw [Act.apply, same, Array.getElem?_setIfInBounds_self_of_lt (size_of_place at_)]
        · exact ⟨by simp [Blueprint.object, blueprint, same], by simp [Blueprint.object, blueprint, same],
            Properties.sound_ofList b.members, fun k => by simp [Blueprint.object, member?, same, get?_ofList_last]⟩
      · refine ⟨o, ?_, left.skip (by simp [blueprint, same]) fun k => by simp [member?, same]⟩
        rw [Act.apply, Array.getElem?_setIfInBounds_ne same, at_]
    | give i k q =>
      by_cases same : i = id
      · subst same
        exact ⟨_, modify_here at_, left.insert rfl fun k' => by simp [member?]⟩
      · exact ⟨o, modify_there same at_, left.skip rfl fun k' => by simp [member?, same]⟩
    | share i n j k =>
      obtain ⟨owner, ownerAt, ownerLeft⟩ := ih shares (of_decide_eq_true here)
      have found : ((acts.foldr (fun act os => act.apply os) (Array.replicate size default))[i]?).bind
          (·.properties.get? n) = member? i n acts := by
        rw [ownerAt, Option.bind_some, ownerLeft.members]
      rw [Act.apply, found]
      cases shared : member? i n acts with
      | none =>
        refine ⟨o, at_, left.skip rfl fun k' => ?_⟩
        rw [member?, shared, Option.none_or, ite_self]
      | some q =>
        by_cases same : j = id
        · subst same
          refine ⟨_, modify_here at_, left.insert rfl fun k' => ?_⟩
          rw [member?, shared]
          simp
        · refine ⟨o, modify_there same at_, left.skip rfl fun k' => ?_⟩
          simp [member?, same]

def isHollow : Kind → Bool
  | .array elements _ _ => elements.isEmpty
  | .string text => text == .empty
  | .proxy .. | .row _ | .arguments _ => false
  | _ => true

theorem isOrdinary_of_isHollow {kind : Kind} (h : isHollow kind = true) : kind.isOrdinary = true := by
  cases kind <;> first | rfl | cases h

theorem ownProperty?_of_isHollow {o : Object} (h : isHollow o.kind = true) (other : (k == Key.length) = false) :
    o.ownProperty? k = o.properties.get? k := by
  unfold Object.ownProperty?
  cases kind : o.kind with
  | array elements length isFixed =>
    have none_there : elements = #[] := by simpa [kind, isHollow] using h
    have nothing : elementProperty? k elements = none := by
      rw [none_there, elementProperty?]
      cases k.index? <;> simp
    simp [other, nothing]
  | string text =>
    have none_there : text = .empty := by simpa [kind, isHollow] using h
    have short : Str.empty.length = 0 := by decide
    have nothing : unitProperty? k text = none := by
      rw [none_there, unitProperty?, short]
      cases k.index? <;> simp [other]
    simp [nothing]
  | _ => rfl

def isHollowAt (p : Plan) (id : Nat) : Bool := id < p.size && isHollow (blueprint id p.acts).kind

def isNative (family : Family) (title : String) : Kind → Bool
  | .native f => f.family == family && f.name == title
  | _ => false

def gives (p : Plan) (owner : Intrinsic) (name : String) (test : Value → Bool) : Bool :=
  isHollowAt p owner.id && (name != "length") && match member? owner.id (.named name) p.acts with
    | some (.data v ..) => test v
    | _ => false

def givesFunction (p : Plan) (owner : Intrinsic) (name : String) (family : Family) (title : String) : Bool :=
  gives p owner name fun
    | .object f => f < p.size && isNative family title (blueprint f p.acts).kind
    | _ => false

def givesSame (p : Plan) (owner : Intrinsic) (name : String) (v : Value) : Bool :=
  gives p owner name fun w => match v, w with
    | .object i, .object j => i == j
    | .symbol i, .symbol j => i == j
    | _, _ => false

/-- Whether a plan puts an object in front of the first one and gives it none of some names. -/
def leavesOut (p : Plan) (owner : Intrinsic) (names : List String) : Bool :=
  isHollowAt p owner.id && (blueprint owner.id p.acts).proto == some Intrinsic.objectPrototype.id &&
    names.all fun name => name != "length" && (member? owner.id (.named name) p.acts).isNone

section Reading

variable (shares : sharesWithin p.size p.acts = true) {owner : Intrinsic} {name : String}

include shares

theorem hollow_place (h : isHollowAt p id = true) : ∃ o, Ordinary p.objects id o ∧ Left p.acts id o ∧
    ∀ name, name ≠ "length" → o.ownProperty? (.named name) = member? id (.named name) p.acts := by
  rw [isHollowAt, Bool.and_eq_true] at h
  obtain ⟨o, at_, left⟩ := left_object shares (of_decide_eq_true h.1)
  have hollow : isHollow o.kind = true := left.kind ▸ h.2
  refine ⟨o, ⟨at_, isOrdinary_of_isHollow hollow⟩, left, fun name other => ?_⟩
  rw [ownProperty?_of_isHollow hollow, left.members]
  have different : Key.named name ≠ Key.length := named_injective.ne other
  simpa using different

theorem owns_of_gives {test : Value → Bool} (h : gives p owner name test = true) :
    ∃ v, Owns p.objects owner.id (.named name) v ∧ test v = true := by
  rw [gives, Bool.and_eq_true, Bool.and_eq_true] at h
  obtain ⟨⟨hollow, other⟩, found⟩ := h
  obtain ⟨o, at_, -, own⟩ := hollow_place shares hollow
  split at found
  · rename_i v w e c member
    exact ⟨v, ⟨o, w, e, c, at_, (own name (by simpa using other)).trans member⟩, found⟩
  · cases found

theorem owns_of_givesSame {v : Value} (h : givesSame p owner name v = true) :
    Owns p.objects owner.id (.named name) v := by
  obtain ⟨w, owns, same⟩ := owns_of_gives shares h
  split at same
  · rw [eq_of_beq same]
    exact owns
  · rw [eq_of_beq same]
    exact owns
  · cases same

theorem isFunction_of_isNative {f : Nat} {family : Family} {title : String} (bound : f < p.size)
    (native : isNative family title (blueprint f p.acts).kind = true) :
    IsFunction p.objects (.object f) family title := by
  obtain ⟨o, at_, left⟩ := left_object shares bound
  rw [← left.kind] at native
  cases kind : o.kind with
  | native g =>
    rw [kind, isNative, Bool.and_eq_true] at native
    obtain ⟨family', title', captured, isConstructor⟩ := g
    obtain ⟨rfl, rfl⟩ : family' = family ∧ title' = title := ⟨eq_of_beq native.1, eq_of_beq native.2⟩
    exact ⟨f, o, captured, isConstructor, rfl, at_, kind⟩
  | _ => rw [kind] at native; cases native

theorem answers_of_givesFunction {family : Family} {title : String}
    (h : givesFunction p owner name family title = true) : Answers p.objects owner name family title := by
  obtain ⟨v, owns, native⟩ := owns_of_gives shares h
  split at native
  · rw [Bool.and_eq_true] at native
    exact ⟨_, owns, isFunction_of_isNative shares (of_decide_eq_true native.1) native.2⟩
  · cases native

theorem lacks_of_leavesOut {names : List String} (h : leavesOut p owner names = true) :
    Lacks p.objects owner.id names := by
  rw [leavesOut, Bool.and_eq_true, Bool.and_eq_true] at h
  obtain ⟨⟨hollow, proto⟩, out⟩ := h
  obtain ⟨o, at_, left, own⟩ := hollow_place shares hollow
  refine ⟨o, at_, left.proto.trans (eq_of_beq proto), fun name mem => ?_⟩
  have absent := List.all_eq_true.mp out name mem
  rw [Bool.and_eq_true] at absent
  rw [own name (by simpa using absent.1)]
  exact Option.isNone_iff_eq_none.mp absent.2

end Reading

def reached : List (Intrinsic × String × Family × String) := [
  (.globalObject, "String", .string, "constructor"), (.objectConstructor, "keys", .object, "keys"),
  (.arrayConstructor, "isArray", .array, "isArray"), (.arrayPrototype, "forEach", .array, "forEach"),
  (.arrayPrototype, "map", .array, "map"), (.arrayPrototype, "join", .array, "join"),
  (.stringPrototype, "replace", .string, "replace"), (.handle, "createElement", .page, "createElement"),
  (.handle, "renderToString", .page, "renderToString")]

def isPlain : Kind → Bool
  | .plain => true
  | _ => false

/-- Whether the first object of all is given no names but those that every object answers to. -/
def isBare (p : Plan) : Bool :=
  let first := blueprint Intrinsic.objectPrototype.id p.acts
  Intrinsic.objectPrototype.id < p.size && isPlain first.kind && first.proto.isNone &&
    (given Intrinsic.objectPrototype.id p.acts).all fun k => match k with
      | .text (.plain name) => inbornNames.contains name
      | _ => true

def isStandard (p : Plan) : Bool :=
  sharesWithin p.size p.acts && isBare p &&
  leavesOut p .stringPrototype ["$$typeof", "defaultProps"] &&
  leavesOut p .symbolPrototype ["$$typeof", "defaultProps"] &&
  givesSame p .globalObject "Object" Intrinsic.objectConstructor.value &&
  givesSame p .globalObject "Array" Intrinsic.arrayConstructor.value &&
  givesSame p .handle "Fragment" (markSymbol .fragment) &&
  (reached.all fun (owner, name, family, title) => givesFunction p owner name family title) &&
  (Intrinsic.pageRenderNode.id < p.size &&
    isNative .page "renderNode" (blueprint Intrinsic.pageRenderNode.id p.acts).kind)

theorem plan_isStandard : isStandard plan = true := by decide +kernel

theorem bare_of_isBare (shares : sharesWithin p.size p.acts = true) (h : isBare p = true) : Bare p.objects := by
  simp only [isBare, Bool.and_eq_true] at h
  obtain ⟨⟨⟨bound, plain⟩, first⟩, names⟩ := h
  obtain ⟨o, at_, left⟩ := left_object shares (of_decide_eq_true bound)
  rw [← left.kind] at plain
  have kind : o.kind = .plain := by
    cases kind : o.kind with
    | plain => rfl
    | _ => rw [kind] at plain; cases plain
  refine ⟨o, ⟨at_, by rw [kind]; rfl⟩, left.proto.trans (Option.isNone_iff_eq_none.mp first), fun name other => ?_⟩
  have table : o.ownProperty? (.named name) = o.properties.get? (.named name) := by
    unfold Object.ownProperty?
    rw [kind]
  rw [table, left.members]
  refine member?_eq_none fun mem => other ?_
  exact List.contains_iff_mem.mp (List.all_eq_true.mp names _ mem)

theorem standard_of_isStandard (checked : isStandard p = true) : Standard p.objects := by
  simp only [isStandard, Bool.and_eq_true] at checked
  obtain ⟨⟨⟨⟨⟨⟨⟨⟨shares, bare⟩, textNames⟩, symbolNames⟩, objects⟩, lists⟩, fragment⟩, functions⟩, bound,
    renderNode⟩ := checked
  have answers {owner name family title} (mem : (owner, name, family, title) ∈ reached) :
      Answers p.objects owner name family title :=
    answers_of_givesFunction shares (List.all_eq_true.mp functions _ mem)
  exact {
    bare := bare_of_isBare shares bare
    textNames := lacks_of_leavesOut shares textNames
    symbolNames := lacks_of_leavesOut shares symbolNames
    objects := owns_of_givesSame shares objects
    lists := owns_of_givesSame shares lists
    texts := answers (by simp [reached])
    keys := answers (by simp [reached])
    isArray := answers (by simp [reached])
    forEach := answers (by simp [reached])
    map := answers (by simp [reached])
    join := answers (by simp [reached])
    replace := answers (by simp [reached])
    createElement := answers (by simp [reached])
    renderToString := answers (by simp [reached])
    fragment := owns_of_givesSame shares fragment
    renderNode := isFunction_of_isNative shares (of_decide_eq_true bound) renderNode }

theorem standard_objects : Standard objects := standard_of_isStandard plan_isStandard

end Realm

theorem ready_initial (limits : Limits) : Ready (State.initial limits) where
  standard := by
    dsimp only [State.initial]
    exact Realm.standard_objects
  globals name _ := ⟨_, rfl, rfl, rfl, by rw [findVariable]; rfl⟩
  joining _ mem := absurd mem List.not_mem_nil

end PagePreview.Machine
